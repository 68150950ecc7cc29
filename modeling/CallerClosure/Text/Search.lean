import CallerClosure.Text.Basic

/-!
# Occurrences of one text in another

`Text.occurrences` lists the byte offsets at which a needle occurs, from left to right and
without overlaps. An empty needle occurs at every character boundary.
-/

namespace CallerClosure.Text

/-- The occurrences of `needle` in the text that starts at `offset`; the first `skip`
characters belong to the occurrence before. -/
def occurrencesFrom (needle : Text) : Text → Nat → Nat → List Nat
  | [], offset, _ => if needle.isEmpty then [offset] else []
  | c :: t, offset, skip + 1 => occurrencesFrom needle t (offset + c.utf8Size) skip
  | c :: t, offset, 0 =>
    if needle.isPrefixOf (c :: t) then
      offset :: occurrencesFrom needle t (offset + c.utf8Size) (needle.length - 1)
    else occurrencesFrom needle t (offset + c.utf8Size) 0

/-- The offsets at which `needle` occurs in `t`. -/
def occurrences (t needle : Text) : List Nat :=
  occurrencesFrom needle t 0 0

/-- The span of the occurrence number `n` of `needle`, counted from zero. -/
def occurrence? (t needle : Text) (n : Nat) : Option Span :=
  (occurrences t needle)[n]?.map fun start => Span.ofBounds start (start + size needle)

end CallerClosure.Text
