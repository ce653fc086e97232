import Lexis.Grammar.Compiled
import Lexis.Grammar.Declarative
import Lexis.Grammar.Scripted
import Lexis.Language.Basic

namespace Lexis
namespace Language

/-!
The grammar of each language that has one.  Plain text and Markdown have none.
-/

def grammar? : Language -> Option Grammar
  | plainText | markdown => none
  | swift => some Grammar.swift
  | javaScript => some Grammar.javaScript
  | typeScript => some Grammar.typeScript
  | python => some Grammar.python
  | rust => some Grammar.rust
  | go => some Grammar.go
  | java => some Grammar.java
  | kotlin => some Grammar.kotlin
  | c => some Grammar.c
  | cpp => some Grammar.cpp
  | csharp => some Grammar.csharp
  | ruby => some Grammar.ruby
  | php => some Grammar.php
  | html | xml => some Grammar.markup
  | css => some Grammar.css
  | scss => some Grammar.scss
  | json => some Grammar.json
  | yaml => some Grammar.yaml
  | sql => some Grammar.sql
  | shell => some Grammar.shell
  | dockerfile => some Grammar.dockerfile

end Language
end Lexis
