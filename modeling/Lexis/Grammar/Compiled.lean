import Lexis.Grammar.Basic

namespace Lexis
namespace Grammar

/-!
Grammars of languages that are usually compiled.
-/

def cKeywords : Keywords
  | .declaration => ["void", "struct", "union", "enum", "typedef"]
  | .control => [
      "if", "else", "switch", "case", "default", "for", "while", "do", "return", "break",
      "continue", "goto"]
  | .operator => ["sizeof"]
  | .modifier => [
      "static", "extern", "const", "volatile", "register", "inline", "restrict", "auto",
      "signed", "unsigned"]
  | .boolean => ["true", "false"]
  | .null => ["NULL"]
  | .types => [
      "int", "long", "short", "char", "float", "double", "void", "size_t", "ptrdiff_t",
      "FILE"]
  | _ => []

def c : Grammar where
  keywords := cKeywords
  operators := commonOperators
  features := {
    singleQuoteStrings := true
    preprocessor := true }

def cppAdditions : Keywords
  | .declaration => ["class", "namespace", "template", "using", "concept", "requires"]
  | .control => ["try", "catch", "throw"]
  | .operator => [
      "new", "delete", "typeid", "decltype", "noexcept", "co_await", "co_yield", "co_return"]
  | .modifier => [
      "virtual", "override", "final", "explicit", "friend", "mutable", "constexpr",
      "consteval", "constinit", "thread_local"]
  | .other => ["this", "public", "private", "protected"]
  | .null => ["nullptr"]
  | .types => [
      "bool", "wchar_t", "string", "vector", "map", "set", "unique_ptr", "shared_ptr",
      "auto"]
  | _ => []

def cpp : Grammar where
  keywords := cKeywords.union cppAdditions
  operators := commonOperators
  features := {
    singleQuoteStrings := true
    multilineStrings := true
    attributes := true
    preprocessor := true
    docComments := true }

def csharpKeywords : Keywords
  | .declaration => [
      "class", "struct", "interface", "enum", "record", "delegate", "namespace", "using",
      "void", "event"]
  | .control => [
      "if", "else", "switch", "case", "default", "for", "foreach", "while", "do", "return",
      "throw", "try", "catch", "finally", "break", "continue", "goto", "yield", "lock",
      "checked", "unchecked"]
  | .operator => ["is", "as", "new", "typeof", "sizeof", "nameof", "stackalloc", "await"]
  | .modifier => [
      "public", "private", "protected", "internal", "static", "readonly", "const",
      "volatile", "virtual", "override", "abstract", "sealed", "extern", "unsafe",
      "partial", "async", "ref", "out", "in", "params"]
  | .other => [
      "this", "base", "get", "set", "init", "add", "remove", "value", "where", "when",
      "var", "dynamic"]
  | .boolean => ["true", "false"]
  | .null => ["null"]
  | .types => [
      "int", "long", "short", "byte", "sbyte", "uint", "ulong", "ushort", "float", "double",
      "decimal", "bool", "char", "string", "object", "void", "nint", "nuint", "String",
      "Object", "List", "Dictionary", "Task", "Action", "Func"]

def csharp : Grammar where
  keywords := csharpKeywords
  operators := commonOperators
  features := {
    singleQuoteStrings := true
    multilineStrings := true
    attributes := true
    preprocessor := true
    docComments := true }

def javaKeywords : Keywords
  | .declaration => ["class", "interface", "enum", "record", "void", "package", "import"]
  | .control => [
      "if", "else", "switch", "case", "default", "for", "while", "do", "return", "throw",
      "throws", "try", "catch", "finally", "break", "continue", "assert"]
  | .operator => ["instanceof", "new"]
  | .modifier => [
      "public", "private", "protected", "static", "final", "abstract", "synchronized",
      "volatile", "transient", "native", "strictfp", "sealed", "permits"]
  | .other => ["this", "super", "extends", "implements"]
  | .boolean => ["true", "false"]
  | .null => ["null"]
  | .types => [
      "int", "long", "short", "byte", "float", "double", "boolean", "char", "Integer",
      "Long", "Short", "Byte", "Float", "Double", "Boolean", "Character", "String",
      "Object", "Class", "System", "Exception", "Throwable", "List", "ArrayList", "Map",
      "HashMap", "Set", "HashSet"]

def java : Grammar where
  keywords := javaKeywords
  operators := ['+', '-', '*', '/', '%', '=', '<', '>', '!', '&', '|', '^', '~', '?', ':']
  features := {
    singleQuoteStrings := true
    multilineStrings := true
    attributes := true }

def kotlinKeywords : Keywords
  | .declaration => [
      "fun", "val", "var", "class", "interface", "object", "enum", "sealed", "data",
      "annotation", "typealias", "package", "import"]
  | .control => [
      "if", "else", "when", "for", "while", "do", "return", "throw", "try", "catch",
      "finally", "break", "continue"]
  | .operator => ["is", "as", "in"]
  | .modifier => [
      "public", "private", "protected", "internal", "open", "final", "abstract", "override",
      "lateinit", "lazy", "inline", "noinline", "crossinline", "reified", "suspend",
      "tailrec", "operator", "infix", "external", "const", "companion"]
  | .other => [
      "this", "super", "constructor", "init", "get", "set", "field", "by", "where", "out",
      "vararg"]
  | .boolean => ["true", "false"]
  | .null => ["null"]
  | .types => [
      "Int", "Long", "Short", "Byte", "Float", "Double", "Boolean", "Char", "String", "Any",
      "Unit", "Nothing", "List", "MutableList", "Map", "MutableMap", "Set", "MutableSet",
      "Array", "Pair", "Triple"]

def kotlin : Grammar where
  keywords := kotlinKeywords
  operators := commonOperators
  features := {
    singleQuoteStrings := true
    multilineStrings := true
    attributes := true }

def swiftKeywords : Keywords
  | .declaration => [
      "func", "var", "let", "class", "struct", "enum", "protocol", "extension", "typealias",
      "associatedtype", "init", "deinit", "subscript", "operator", "precedencegroup",
      "import", "actor", "macro"]
  | .control => [
      "if", "else", "guard", "switch", "case", "default", "for", "while", "repeat", "do",
      "return", "throw", "throws", "rethrows", "try", "catch", "break", "continue",
      "fallthrough", "defer", "where"]
  | .operator => ["is", "as", "in", "inout"]
  | .modifier => [
      "public", "private", "internal", "fileprivate", "open", "static", "final", "override",
      "mutating", "nonmutating", "lazy", "weak", "unowned", "required", "optional",
      "convenience", "dynamic", "indirect", "nonisolated", "isolated", "consuming",
      "borrowing"]
  | .other => [
      "self", "Self", "super", "async", "await", "some", "any", "get", "set", "willSet",
      "didSet", "_", "Type", "Protocol"]
  | .boolean => ["true", "false"]
  | .null => ["nil"]
  | .types => [
      "Int", "Int8", "Int16", "Int32", "Int64", "UInt", "UInt8", "UInt16", "UInt32",
      "UInt64", "Float", "Double", "Bool", "String", "Character", "Array", "Dictionary",
      "Set", "Optional", "Result", "Any", "AnyObject", "Void", "Never"]

def swift : Grammar where
  keywords := swiftKeywords
  operators := commonOperators
  features := {
    multilineStrings := true
    attributes := true
    preprocessor := true
    docComments := true
    octalNumbers := true }

def rustKeywords : Keywords
  | .declaration => [
      "fn", "let", "const", "static", "struct", "enum", "trait", "impl", "type", "mod",
      "use", "crate", "extern", "macro_rules"]
  | .control => [
      "if", "else", "match", "loop", "while", "for", "in", "return", "break", "continue",
      "yield"]
  | .operator => ["as", "ref"]
  | .modifier => ["pub", "mut", "unsafe", "async", "await", "move", "dyn", "where"]
  | .other => ["self", "Self", "super"]
  | .boolean => ["true", "false"]
  | .null => ["None"]
  | .types => [
      "i8", "i16", "i32", "i64", "i128", "isize", "u8", "u16", "u32", "u64", "u128",
      "usize", "f32", "f64", "bool", "char", "str", "String", "Vec", "Box", "Rc", "Arc",
      "Cell", "RefCell", "Option", "Result", "Some", "Ok", "Err"]

def rust : Grammar where
  keywords := rustKeywords
  operators :=
    ['+', '-', '*', '/', '%', '=', '<', '>', '!', '&', '|', '^', '~', '?', ':', '.', '@', '#']
  features := {
    singleQuoteStrings := true
    multilineStrings := true
    attributes := true
    docComments := true
    octalNumbers := true }

def goKeywords : Keywords
  | .declaration => ["func", "var", "const", "type", "struct", "interface", "package", "import"]
  | .control => [
      "if", "else", "switch", "case", "default", "for", "range", "return", "break",
      "continue", "goto", "fallthrough", "select"]
  | .modifier => ["defer", "go"]
  | .other => [
      "chan", "map", "make", "new", "len", "cap", "append", "copy", "delete", "close",
      "panic", "recover", "print", "println"]
  | .boolean => ["true", "false"]
  | .null => ["nil"]
  | .types => [
      "int", "int8", "int16", "int32", "int64", "uint", "uint8", "uint16", "uint32",
      "uint64", "uintptr", "float32", "float64", "complex64", "complex128", "bool", "byte",
      "rune", "string", "error", "any"]
  | _ => []

def go : Grammar where
  keywords := goKeywords
  operators := ['+', '-', '*', '/', '%', '=', '<', '>', '!', '&', '|', '^', '~', ':']
  features := {
    singleQuoteStrings := true
    backtickStrings := true
    multilineStrings := true
    octalNumbers := true }

end Grammar
end Lexis
