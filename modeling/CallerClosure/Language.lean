import CallerClosure.Path
import CallerClosure.Text.Lowercase

/-!
# Languages

The languages that a language server is known for, told by the extension of a file. Case
does not matter in an extension.
-/

namespace CallerClosure

/-- A language with a known language server. -/
inductive Language
  | rust
  | python
  | typeScript
  | javaScript
  | cSharp
  deriving DecidableEq

namespace Language

/-- Every language. -/
def all : List Language := [rust, python, typeScript, javaScript, cSharp]

/-- The extensions of a language. -/
def extensions : Language → List String
  | rust => ["rs"]
  | python => ["py", "pyi"]
  | typeScript => ["ts", "tsx", "mts", "cts"]
  | javaScript => ["js", "jsx", "mjs", "cjs"]
  | cSharp => ["cs"]

/-- The name of a language in the language server protocol. -/
def id : Language → String
  | rust => "rust"
  | python => "python"
  | typeScript => "typescript"
  | javaScript => "javascript"
  | cSharp => "csharp"

/-- The name of a language in messages. -/
def display : Language → String
  | cSharp => "c#"
  | language => language.id

/-- An extension in lower case. -/
def normalized (extension : String) : String :=
  String.ofList (Text.lowercase extension.toList)

/-- The language of an extension. -/
def ofExtension? (extension : String) : Option Language :=
  all.find? fun language => language.extensions.contains (normalized extension)

/-- The language of a file. -/
def ofPath? (path : Path) : Option Language :=
  path.extension?.bind ofExtension?

/-- The name to announce a file with: files with embedded markup have names of their own. -/
def idFor (language : Language) (path : Path) : String :=
  match language, path.extension?.map normalized with
  | typeScript, some "tsx" => "typescriptreact"
  | javaScript, some "jsx" => "javascriptreact"
  | _, _ => language.id

end Language

end CallerClosure
