import CallerClosure.Json.Basic
import CallerClosure.Language

/-!
# Configurations of language servers

What command serves a language, where it runs, and how it says that its index is ready.
-/

namespace CallerClosure

/-- How to run a language server. -/
structure ServerConfig where
  language : Language
  command : String
  arguments : List String
  /-- The workspace root, which is also the working directory. -/
  root : Path
  /-- Options that are passed on to the server. -/
  options : Option Json
  /-- The progress tokens whose end means that the index is ready. With none, the server
  is ready at once. -/
  indexingTokens : List String

namespace ServerConfig

/-- The command that serves a language by default, and its arguments. -/
def defaultCommand : Language → String × List String
  | .rust => ("rust-analyzer", [])
  | .python => ("pyright-langserver", ["--stdio"])
  | .typeScript => ("typescript-language-server", ["--stdio"])
  | .javaScript => ("typescript-language-server", ["--stdio"])
  | .cSharp => ("csharp-ls", [])

/-- The progress tokens of the server of a language. -/
def tokens : Language → List String
  | .rust => ["rustAnalyzer/Indexing", "rustAnalyzer/cachePriming"]
  | _ => []

/-- The default server of a language. -/
def standard (language : Language) (root : Path) : ServerConfig where
  language := language
  command := (defaultCommand language).1
  arguments := (defaultCommand language).2
  root := root
  options := none
  indexingTokens := tokens language

/-- Another server for a language. -/
def custom (language : Language) (command : String) (arguments : List String)
    (root : Path) : ServerConfig :=
  { standard language root with command, arguments }

end ServerConfig

end CallerClosure
