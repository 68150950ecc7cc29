import CallerClosure.Log
import CallerClosure.Text.Position

/-!
# What a session remarks on

A session with a language server remarks on the files that it opens or passes over, and on
what it cannot use of the answers. The remarks are for a log; no answer depends on them.
-/

namespace CallerClosure

/-- A remark of a session. -/
inductive Remark
  /-- The outline of a document is about to be asked for. -/
  | asking (uri : String)
  /-- The question for an outline was answered, perhaps with nothing. -/
  | answered (uri : String) (isOutline : Bool)
  /-- No language is known for a file. -/
  | unknownLanguage (file : Path)
  /-- A file does not lie under the workspace root. -/
  | outside (file : Path)
  /-- A file was opened; its outline has so many trees. -/
  | opened (file : Path) (trees : Nat)
  /-- The ranges of an outline entry do not lie in the document. -/
  | dropped (name : String) (document : Path)
  /-- A use of a symbol lies in a file that is not loaded. -/
  | passedOver (file : Path)
  /-- A use of a symbol does not lie in its document. -/
  | misplaced (range : Range) (document : Path)

namespace Remark

/-- A position with the names of its parts. -/
def ofPosition (p : Position) : String :=
  s!"Position \x7b line: {p.line}, character: {p.character} \x7d"

/-- A range with the names of its parts. -/
def ofRange (r : Range) : String :=
  s!"Range \x7b start: {ofPosition r.start}, end: {ofPosition r.stop} \x7d"

/-- A remark as a log entry. -/
def entry : Remark → LogEntry
  | asking uri =>
    ⟨.debug, "depclip_core::lsp::requests", s!"Requesting document symbols for: {uri}"⟩
  | answered uri isOutline =>
    ⟨.debug, "depclip_core::lsp::requests", s!"Got response for {uri}: {isOutline}"⟩
  | unknownLanguage file =>
    ⟨.debug, "depclip_core::lsp::program", s!"No language for {file.text}"⟩
  | outside file =>
    ⟨.debug, "depclip_core::lsp::program", s!"{file.text} is outside the workspace"⟩
  | opened file trees =>
    ⟨.debug, "depclip_core::lsp::program", s!"Opened {file.text} ({trees} top-level symbols)"⟩
  | dropped name document =>
    ⟨.warning, "depclip_core::lsp::document",
      s!"Dropping symbol {name} with invalid range in {document.text}"⟩
  | passedOver file =>
    ⟨.debug, "depclip_core::lsp::program", s!"Skipping reference in {file.text}"⟩
  | misplaced range document =>
    ⟨.warning, "depclip_core::lsp::program",
      s!"Reference range {ofRange range} is outside {document.text}"⟩

end Remark

end CallerClosure
