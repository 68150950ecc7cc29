import CallerClosure.Files.Error
import CallerClosure.Server.Answer
import CallerClosure.Server.Config
import CallerClosure.Server.Message
import CallerClosure.Server.Remark

/-!
# The surroundings of a session

An `Environment ω` is what a session with a language server can reach: files, and the server
itself. All of it lives in a world of type `ω`, which reading a file or sending a message may
change. The session can make remarks in it too.
-/

namespace CallerClosure

/-- Why a language server has no answer. -/
inductive ServerError
  /-- The server is gone, or the connection to it. -/
  | stopped
  /-- The server answered with an error. -/
  | refused (message : String) (code : Int)
  /-- The answer has the wrong shape. -/
  | undecodable (cause : DecodeError)
  /-- The document that is asked about has no proper URI. -/
  | malformedUri (cause : UriError)

/-- The wording of a server error. -/
def ServerError.message : ServerError → String
  | stopped => "service stopped"
  | refused message code => s!"{message} (jsonrpc error {code})"
  | undecodable cause => s!"deserialization failed: {cause.message}"
  | malformedUri cause => cause.message

/-- Files and a language server in a world of type `ω`. -/
structure Environment (ω : Type) where
  /-- The path of a file without links and dots, if the file exists. -/
  canonicalize : Path → ω → Except FileError Path
  /-- The text of a file. -/
  readText : Path → ω → Except FileError Text × ω
  /-- Look for a file whose name is no text and is shown as the path. Such a file is taken to be
  missing: there is none to read, and what counts is why. -/
  seek : Path → ω → Except FileError Unit × ω
  /-- Start the server of a configuration. -/
  launch : ServerConfig → ω → Except FileError Unit × ω
  /-- Send a message and wait for the answer. -/
  request : ServerRequest → ω → Except ServerError Json × ω
  /-- Send a message that is not answered. -/
  notify : ServerNotice → ω → Except ServerError Unit × ω
  /-- Make a remark. -/
  remark : Remark → ω → ω

end CallerClosure
