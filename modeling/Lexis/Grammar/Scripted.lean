import Lexis.Grammar.Basic

namespace Lexis
namespace Grammar

/-!
Grammars of languages that are usually interpreted.
-/

def javaScriptKeywords : Keywords
  | .declaration => ["function", "class", "const", "let", "var"]
  | .control => [
      "if", "else", "switch", "case", "default", "for", "while", "do", "return", "throw",
      "try", "catch", "finally", "break", "continue", "with"]
  | .operator => ["typeof", "instanceof", "void", "delete", "in", "of", "new"]
  | .modifier => ["async", "await", "static", "get", "set"]
  | .other => [
      "this", "super", "import", "export", "from", "default", "as", "extends", "yield",
      "debugger"]
  | .boolean => ["true", "false"]
  | .null => ["null", "undefined", "NaN", "Infinity"]
  | .types => [
      "Object", "Array", "String", "Number", "Boolean", "Function", "Symbol", "BigInt",
      "Map", "Set", "WeakMap", "WeakSet", "Promise", "Proxy", "Reflect", "Date", "RegExp",
      "Error", "JSON", "Math", "console"]

def javaScript : Grammar where
  keywords := javaScriptKeywords
  operators := commonOperators
  features := {
    singleQuoteStrings := true
    backtickStrings := true
    multilineStrings := true
    octalNumbers := true }

def typeScriptAdditions : Keywords
  | .declaration => ["interface", "type", "enum", "namespace", "module", "declare"]
  | .operator => ["is", "as", "keyof", "infer"]
  | .modifier => ["public", "private", "protected", "readonly", "abstract", "override"]
  | .other => ["implements"]
  | .types => [
      "any", "unknown", "never", "void", "string", "number", "boolean", "object", "symbol",
      "bigint", "Partial", "Required", "Readonly", "Record", "Pick", "Omit", "Exclude",
      "Extract", "NonNullable"]
  | _ => []

def typeScript : Grammar where
  keywords := javaScriptKeywords.union typeScriptAdditions
  operators := commonOperators
  features := {
    singleQuoteStrings := true
    backtickStrings := true
    multilineStrings := true
    attributes := true
    octalNumbers := true }

def pythonKeywords : Keywords
  | .declaration => ["def", "class", "lambda"]
  | .control => [
      "if", "elif", "else", "for", "while", "with", "try", "except", "finally", "raise",
      "return", "yield", "break", "continue", "pass", "match", "case"]
  | .operator => ["and", "or", "not", "is", "in"]
  | .modifier => ["global", "nonlocal", "async", "await"]
  | .other => ["import", "from", "as", "assert", "del", "self", "cls"]
  | .boolean => ["True", "False"]
  | .null => ["None"]
  | .types => [
      "int", "float", "str", "bool", "list", "dict", "set", "tuple", "bytes", "bytearray",
      "complex", "frozenset", "range", "type", "object", "Exception", "BaseException"]

def python : Grammar where
  keywords := pythonKeywords
  operators := ['+', '-', '*', '/', '%', '=', '<', '>', '!', '&', '|', '^', '~', '@', ':']
  features := {
    singleQuoteStrings := true
    multilineStrings := true
    attributes := true
    hashComments := true
    octalNumbers := true }

def rubyKeywords : Keywords
  | .declaration => ["def", "class", "module", "attr_reader", "attr_writer", "attr_accessor"]
  | .control => [
      "if", "elsif", "else", "unless", "case", "when", "for", "while", "until", "do",
      "begin", "end", "return", "raise", "rescue", "ensure", "retry", "break", "next",
      "redo", "then"]
  | .operator => ["and", "or", "not"]
  | .modifier => ["public", "private", "protected", "yield", "super", "self"]
  | .other => [
      "require", "require_relative", "include", "extend", "prepend", "alias", "lambda",
      "proc", "__FILE__", "__LINE__", "__ENCODING__"]
  | .boolean => ["true", "false"]
  | .null => ["nil"]
  | .types => [
      "String", "Integer", "Float", "Array", "Hash", "Symbol", "Range", "Regexp", "Time",
      "File", "IO", "Exception", "Object", "Class", "Module"]

def ruby : Grammar where
  keywords := rubyKeywords
  operators :=
    ['+', '-', '*', '/', '%', '=', '<', '>', '!', '&', '|', '^', '~', '?', ':', '.', '@']
  features := {
    singleQuoteStrings := true
    backtickStrings := true
    multilineStrings := true
    hashComments := true
    octalNumbers := true }

def phpKeywords : Keywords
  | .declaration => ["function", "class", "interface", "trait", "enum", "namespace", "use"]
  | .control => [
      "if", "elseif", "else", "switch", "case", "default", "for", "foreach", "while", "do",
      "return", "throw", "try", "catch", "finally", "break", "continue", "yield", "match"]
  | .operator => ["instanceof", "new", "clone", "and", "or", "xor"]
  | .modifier => [
      "public", "private", "protected", "static", "final", "abstract", "const", "readonly",
      "var"]
  | .other => [
      "echo", "print", "include", "include_once", "require", "require_once", "extends",
      "implements", "as", "global", "fn"]
  | .boolean => ["true", "false", "TRUE", "FALSE"]
  | .null => ["null", "NULL"]
  | .types => [
      "int", "float", "string", "bool", "array", "object", "callable", "iterable", "void",
      "mixed", "never", "self", "static", "parent"]

def php : Grammar where
  keywords := phpKeywords
  operators :=
    ['+', '-', '*', '/', '%', '=', '<', '>', '!', '&', '|', '^', '~', '?', ':', '.', '@', '$']
  features := {
    singleQuoteStrings := true
    backtickStrings := true
    multilineStrings := true
    attributes := true
    hashComments := true
    octalNumbers := true }

def shellKeywords : Keywords
  | .declaration => ["function", "local", "declare", "typeset", "readonly", "export"]
  | .control => [
      "if", "then", "else", "elif", "fi", "case", "esac", "for", "while", "until", "do",
      "done", "in", "select", "break", "continue", "return", "exit"]
  | .other => [
      "echo", "printf", "read", "source", "alias", "unalias", "set", "unset", "shift",
      "eval", "exec", "trap", "wait", "cd", "pwd", "pushd", "popd", "test"]
  | .boolean => ["true", "false"]
  | _ => []

def shell : Grammar where
  keywords := shellKeywords
  operators := ['+', '-', '*', '/', '%', '=', '<', '>', '!', '&', '|', ';']
  features := {
    singleQuoteStrings := true
    backtickStrings := true
    hashComments := true }

end Grammar
end Lexis
