import CallerClosure.Text.Basic

/-!
# Lines, positions and offsets

A language server names a place by a zero-based line and by a column in UTF-16 code units;
the library names it by a byte offset. A text with `n` newlines has `n + 1` lines.

* `Text.position` takes an offset to its position, clamping to the end of the text and to
  the start of a character;
* `Text.offset?` takes a position to its offset, clamping to the end of the line; only a line
  that does not exist has no offset;
* `Text.span?` does this for both ends of a range;
* `Text.wholeLines` widens a span to whole lines.
-/

namespace CallerClosure

/-- A zero-based line and a column in UTF-16 code units. -/
structure Position where
  line : Nat
  character : Nat
  deriving DecidableEq

/-- Two positions, in either order. -/
structure Range where
  start : Position
  stop : Position
  deriving DecidableEq

namespace Position

/-- The largest number that a field of a position holds. -/
def largest : Nat := 4294967295

/-- The nearest number that a field of a position holds. -/
def clamp (n : Nat) : Nat := if n ≤ largest then n else largest

end Position

namespace Text

/-- The lines of a text, without their newlines. There is always at least one. -/
def lines : Text → List Text
  | [] => [[]]
  | c :: t =>
    if c = '\n' then [] :: lines t
    else
      match lines t with
      | [] => [[c]]
      | l :: rest => (c :: l) :: rest

/-- The offsets at which lines start, for a text that starts at `offset`. -/
def lineStartsFrom : Text → Nat → List Nat
  | [], _ => []
  | c :: t, offset =>
    let next := offset + c.utf8Size
    if c = '\n' then next :: lineStartsFrom t next else lineStartsFrom t next

/-- The offsets at which lines start. -/
def lineStarts (t : Text) : List Nat := 0 :: lineStartsFrom t 0

/-- The number of newlines in a text. -/
def newlines (t : Text) : Nat := (t.filter (· == '\n')).length

/-- What follows the last newline of a text. -/
def lastLine (t : Text) : Text := (t.reverse.takeWhile (· ≠ '\n')).reverse

/-- The position of an offset. -/
def position (t : Text) (offset : Nat) : Position :=
  let front := before t offset
  ⟨Position.clamp (newlines front), Position.clamp (units (lastLine front))⟩

/-- A line without the carriage return at its end. -/
def dropReturn (line : Text) : Text :=
  if line.getLast? = some '\r' then line.dropLast else line

/-- The bytes of a line in front of the first character at or after a UTF-16 column. -/
def columnOffset : Text → Nat → Nat
  | [], _ => 0
  | _ :: _, 0 => 0
  | c :: t, column + 1 => c.utf8Size + columnOffset t (column + 1 - unitsOf c)

/-- The offset of a line and column, where `start` is the offset of the first line. Only the
last line keeps a carriage return at its end. -/
def offsetInLines? (character : Nat) : List Text → Nat → Nat → Option Nat
  | [], _, _ => none
  | [line], 0, start => some (start + columnOffset line character)
  | line :: _ :: _, 0, start => some (start + columnOffset (dropReturn line) character)
  | line :: rest, n + 1, start => offsetInLines? character rest n (start + size line + 1)

/-- The offset of a position, if its line exists. -/
def offset? (t : Text) (p : Position) : Option Nat :=
  offsetInLines? p.character (lines t) p.line 0

/-- The span of a range, if both its lines exist. -/
def span? (t : Text) (r : Range) : Option Span :=
  match offset? t r.start, offset? t r.stop with
  | some a, some b => some (Span.ofBounds a b)
  | _, _ => none

/-- The start of the line that holds an offset; offsets past the end lie on the last line. -/
def lineStart (t : Text) (offset : Nat) : Nat :=
  ((lineStarts t).filter fun start => decide (start ≤ offset)).getLastD 0

/-- The start of the line after the one that holds an offset, or the end of the text. -/
def nextLineStart (t : Text) (offset : Nat) : Nat :=
  ((lineStarts t).filter fun start => decide (offset < start)).headD (size t)

/-- A span widened to whole lines, newlines included. A span that ends where a line starts
stops there. -/
def wholeLines (t : Text) (s : Span) : Span :=
  let start := lineStart t s.start
  let stop := if s.stop ≤ size t then s.stop else size t
  if start < stop ∧ stop ∈ lineStarts t then Span.ofBounds start stop
  else Span.ofBounds start (nextLineStart t stop)

end Text

end CallerClosure
