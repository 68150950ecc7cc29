import CallerClosure.Text.CompositionTable

/-!
# Composed texts

`Text.composed` brings a text into the composed normal form of Unicode: marks stand in the
order of their classes, and a letter and its marks are one character where there is one.

* `Composition.decompose` takes composites apart, `Composition.ordered` sorts the marks;
* `Composition.compose` puts composites together again.

Composites that the normal form does not allow are not taken apart.
-/

namespace CallerClosure.Composition

/-- The combining class of a character. -/
def classOf (c : Char) : Nat :=
  match classes.find? c with
  | some entry => entry.values.headD 0
  | none => 0

/-- The first syllable of Hangul. -/
def firstSyllable : Nat := 0xAC00

/-- Whether a number is that of a syllable of Hangul. -/
def isSyllable (n : Nat) : Bool := decide (firstSyllable ≤ n) && decide (n < firstSyllable + 11172)

/-- The characters that a character is directly composed of. -/
def parts (c : Char) : Text :=
  let n := c.toNat
  if isSyllable n then
    let index := n - firstSyllable
    let tail := index % 28
    if tail = 0 then
      [Char.ofNat (0x1100 + index / 588), Char.ofNat (0x1161 + index % 588 / 28)]
    else [Char.ofNat (n - tail), Char.ofNat (0x11A7 + tail)]
  else
    match pairs.find? c with
    | some entry => entry.values.map Char.ofNat
    | none => [c]

/-- A text with its composites taken apart. No composite is nested deeper than three times. -/
def decompose (t : Text) : Text :=
  ((t.flatMap parts).flatMap parts).flatMap parts

/-- Put a mark behind a reversed text, in front of the marks at its end with a higher class. -/
def insertMark (mark : Char) : Text → Text
  | [] => [mark]
  | c :: before =>
    if 0 < classOf mark ∧ classOf mark < classOf c then c :: insertMark mark before
    else mark :: c :: before

/-- A text with the marks on each letter in the order of their classes. -/
def ordered (t : Text) : Text :=
  (t.foldl (fun before c => insertMark c before) []).reverse

/-- The composite of two characters. -/
def composite? (a b : Char) : Option Char :=
  let (x, y) := (a.toNat, b.toNat)
  if 0x1100 ≤ x ∧ x < 0x1113 ∧ 0x1161 ≤ y ∧ y < 0x1176 then
    some (Char.ofNat (firstSyllable + ((x - 0x1100) * 21 + (y - 0x1161)) * 28))
  else if isSyllable x ∧ (x - firstSyllable) % 28 = 0 ∧ 0x11A7 < y ∧ y < 0x11C3 then
    some (Char.ofNat (x + (y - 0x11A7)))
  else
    (List.find? (fun entry : TableEntry => entry.values == [x, y]) pairs).map fun entry =>
      Char.ofNat entry.first

/-- Whether a character is kept from the letter in front by the marks between them, which are
reversed. -/
def isBlocked (marks : Text) (c : Char) : Bool :=
  match marks with
  | [] => false
  | last :: _ => decide (classOf c ≤ classOf last)

/-- Compose a text that goes on after a letter and marks that did not compose with it, which
are reversed. -/
def composeAfter (letter : Char) (marks : Text) : Text → Text
  | [] => letter :: marks.reverse
  | c :: rest =>
    match if isBlocked marks c then none else composite? letter c with
    | some d => composeAfter d marks rest
    | none =>
      if classOf c = 0 then letter :: (marks.reverse ++ composeAfter c [] rest)
      else composeAfter letter (c :: marks) rest

/-- An ordered text with each letter and its marks put together. -/
def compose : Text → Text
  | [] => []
  | c :: rest => composeAfter c [] rest

end CallerClosure.Composition

namespace CallerClosure.Text

/-- The composed normal form of a text. -/
def composed (t : Text) : Text :=
  Composition.compose (Composition.ordered (Composition.decompose t))

end CallerClosure.Text
