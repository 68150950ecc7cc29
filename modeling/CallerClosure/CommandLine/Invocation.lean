import CallerClosure.CommandLine.Selection
import CallerClosure.Materialize
import CallerClosure.Server.Config

/-!
# Invocations

An `Invocation` is what a command line asks for once it has been read: a selection in a file,
what to do with it, and the language server that knows the program around it.

* `Task` is either command with its own options;
* `ServerChoice.config?` is the server that a choice means for a file. A command that is
  given comes with its own arguments and nothing else; without one the language of the file
  decides, so a file of no known language has no server.
-/

namespace CallerClosure

/-- Which language server to run, and where. -/
structure ServerChoice where
  root : Path
  /-- The command, if it is not the default one of the file's language. -/
  command : Option String
  /-- The arguments of a command that is given. -/
  arguments : List String
  /-- How many seconds to wait for the index. -/
  indexTimeout : Nat

/-- What to do with a selection. -/
inductive Task
  /-- Write the method and its callers as one document, to a file or to the output. -/
  | extract (order : FragmentOrder) (output : Option Path)
  /-- List the method and its callers. -/
  | callers (json : Bool)

/-- A command line that makes sense. -/
structure Invocation where
  verbose : Bool
  task : Task
  file : Path
  selection : Selection
  server : ServerChoice

/-- The name of a task. -/
def Task.name : Task → String
  | extract .. => "extract"
  | callers _ => "callers"

/-- The line that shows a failure. -/
def failureLine (message : String) : String := s!"Error: {message}"

/-- The server for a file; none if its language is not known. -/
def ServerChoice.config? (choice : ServerChoice) (file : Path) : Option ServerConfig :=
  (Language.ofPath? file).map fun language =>
    match choice.command with
    | some command => .custom language command choice.arguments choice.root
    | none => .standard language choice.root

end CallerClosure
