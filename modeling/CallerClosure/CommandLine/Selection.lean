import CallerClosure.Text.Position

/-!
# Selections by line and column

On the command line, lines and columns are counted from one, and columns count characters.
The column just past the last character of a line is valid and means the end of the line.

* `Text.offsetOf` is the offset of a line and column;
* `Selection.span` is the span between two of them, or one character if there is no end.
-/

namespace CallerClosure

/-- A selection, as it is given on the command line. -/
structure Selection where
  line : Nat
  column : Nat
  endLine : Option Nat
  endColumn : Option Nat

/-- Why a selection is not in a text. -/
inductive SelectionError
  /-- A line or column is zero. -/
  | notOneBased (line column : Nat)
  /-- There are fewer lines. -/
  | lineMissing (line : Nat)
  /-- The line has fewer columns. -/
  | columnMissing (line column : Nat)
  /-- The end comes before the start. -/
  | reversed
  deriving DecidableEq

/-- The wording of a selection error. -/
def SelectionError.message : SelectionError → String
  | notOneBased line column => s!"Lines and columns are 1-based (got {line}:{column})"
  | lineMissing line => s!"Line {line} is past the end of the file"
  | columnMissing line column => s!"Column {column} is past the end of line {line}"
  | reversed => "Selection end precedes its start"

namespace Text

/-- The lines of a text that can be selected: a final newline does not start another one. -/
def selectableLines (t : Text) : List Text :=
  let all := lines t
  if all.getLast? = some [] then all.dropLast else all

/-- A line without the carriage returns at its end. -/
def dropReturns (line : Text) : Text :=
  (line.reverse.dropWhile (· == '\r')).reverse

/-- The start and the content of the line `n`, counted from zero, of lines that start at
`start`. -/
def lineAt? : List Text → Nat → Nat → Option (Nat × Text)
  | [], _, _ => none
  | line :: _, 0, start => some (start, dropReturns line)
  | line :: rest, n + 1, start => lineAt? rest n (start + size line + 1)

/-- The offset of a line and column, both counted from one. -/
def offsetOf (t : Text) (line column : Nat) : Except SelectionError Nat :=
  if line = 0 ∨ column = 0 then .error (.notOneBased line column)
  else
    match lineAt? (selectableLines t) (line - 1) 0 with
    | none => .error (.lineMissing line)
    | some (start, content) =>
      if column - 1 ≤ content.length then .ok (start + size (content.take (column - 1)))
      else .error (.columnMissing line column)

/-- The end of the character that starts at an offset. -/
def characterEnd (t : Text) (offset : Nat) : Nat :=
  match splitAt? t offset with
  | some (_, c :: _) => offset + c.utf8Size
  | _ => offset

end Text

/-- The span that a selection takes in a text. -/
def Selection.span (s : Selection) (t : Text) : Except SelectionError Span := do
  let start ← t.offsetOf s.line s.column
  let stop ← match s.endColumn with
    | some column => t.offsetOf (s.endLine.getD s.line) column
    | none => pure (t.characterEnd start)
  if stop < start then .error .reversed else pure ⟨start, stop⟩

end CallerClosure
