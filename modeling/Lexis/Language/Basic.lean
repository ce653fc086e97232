namespace Lexis

/-!
The languages that can be highlighted.

The set is closed.  Each language has an identifier for files and commands, a
name for people, and the file extensions that select it.
-/

inductive Language where
  | plainText
  | swift
  | javaScript
  | typeScript
  | python
  | rust
  | go
  | java
  | kotlin
  | c
  | cpp
  | csharp
  | ruby
  | php
  | html
  | css
  | scss
  | json
  | yaml
  | xml
  | markdown
  | sql
  | shell
  | dockerfile
  deriving DecidableEq, Repr

namespace Language

/-- Every language once, in the order in which look-ups try them. -/
def all : List Language := [
  plainText, swift, javaScript, typeScript, python, rust, go, java, kotlin, c, cpp, csharp,
  ruby, php, html, css, scss, json, yaml, xml, markdown, sql, shell, dockerfile]

theorem mem_all (language : Language) : language ∈ all := by
  cases language <;> decide

/-- The identifier by which files and commands refer to the language. -/
def id : Language -> String
  | plainText => "plain-text"
  | swift => "swift"
  | javaScript => "javascript"
  | typeScript => "typescript"
  | python => "python"
  | rust => "rust"
  | go => "go"
  | java => "java"
  | kotlin => "kotlin"
  | c => "c"
  | cpp => "cpp"
  | csharp => "csharp"
  | ruby => "ruby"
  | php => "php"
  | html => "html"
  | css => "css"
  | scss => "scss"
  | json => "json"
  | yaml => "yaml"
  | xml => "xml"
  | markdown => "markdown"
  | sql => "sql"
  | shell => "shell"
  | dockerfile => "dockerfile"

/-- The name by which people know the language. -/
def displayName : Language -> String
  | plainText => "Plain Text"
  | swift => "Swift"
  | javaScript => "JavaScript"
  | typeScript => "TypeScript"
  | python => "Python"
  | rust => "Rust"
  | go => "Go"
  | java => "Java"
  | kotlin => "Kotlin"
  | c => "C"
  | cpp => "C++"
  | csharp => "C#"
  | ruby => "Ruby"
  | php => "PHP"
  | html => "HTML"
  | css => "CSS"
  | scss => "SCSS"
  | json => "JSON"
  | yaml => "YAML"
  | xml => "XML"
  | markdown => "Markdown"
  | sql => "SQL"
  | shell => "Shell"
  | dockerfile => "Dockerfile"

/-- What an editor writes before a line to make it a comment. -/
def lineComment? : Language -> Option String
  | swift | javaScript | typeScript | rust | go | java | kotlin | c | cpp | csharp | php
  | scss | sql => some "//"
  | python | ruby | shell | yaml | dockerfile => some "#"
  | plainText | html | xml | markdown | css | json => none

/-- The file extensions of the language in lower case, without a dot. -/
def extensions : Language -> List String
  | plainText => ["txt", "text", "log"]
  | swift => ["swift"]
  | javaScript => ["js", "mjs", "cjs", "jsx"]
  | typeScript => ["ts", "tsx", "mts", "cts"]
  | python => ["py", "pyw", "pyi"]
  | rust => ["rs"]
  | go => ["go"]
  | java => ["java"]
  | kotlin => ["kt", "kts"]
  | c => ["c", "h"]
  | cpp => ["cpp", "cc", "cxx", "hpp", "hxx", "c++", "h++", "hh"]
  | csharp => ["cs"]
  | ruby => ["rb", "rake", "gemspec"]
  | php => ["php", "phtml", "php3", "php4", "php5", "php7", "phps"]
  | html => ["html", "htm", "xhtml"]
  | css => ["css"]
  | scss => ["scss", "sass", "less"]
  | json => ["json", "jsonc", "json5"]
  | yaml => ["yaml", "yml"]
  | xml => ["xml", "plist", "svg", "xsl", "xslt"]
  | markdown => ["md", "markdown", "mdown", "mkd"]
  | sql => ["sql", "mysql", "pgsql", "sqlite"]
  | shell => ["sh", "bash", "zsh", "fish", "ksh", "csh", "tcsh"]
  | dockerfile => ["dockerfile"]

/-- File names, in lower case, that select a language without an extension. -/
def fileNames : Language -> List String
  | dockerfile => ["dockerfile", "containerfile"]
  | _ => []

end Language
end Lexis
