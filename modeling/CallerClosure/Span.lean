/-!
# Spans

A span is a half-open range `[start, stop)` of byte offsets into a document.

* `Span.ofBounds` takes its bounds in either order, so it builds ordered spans only;
* a `Span` read from outside may be reversed: the type holds any two offsets;
* `Span.Covers` is containment of ranges, bound by bound;
* `Span.compare` orders by start, then by stop.
-/

namespace CallerClosure

/-- A half-open range of byte offsets. -/
structure Span where
  start : Nat
  stop : Nat
  deriving DecidableEq

namespace Span

/-- The span between two offsets, given in either order. -/
def ofBounds (a b : Nat) : Span :=
  if a ≤ b then ⟨a, b⟩ else ⟨b, a⟩

/-- The empty span at an offset. -/
def point (offset : Nat) : Span := ⟨offset, offset⟩

/-- The number of bytes in the span. -/
def length (s : Span) : Nat := s.stop - s.start

/-- Whether the bounds coincide. -/
def isEmpty (s : Span) : Bool := s.start == s.stop

/-- Whether an offset falls inside the span; an empty span contains its own start. -/
def contains (s : Span) (offset : Nat) : Bool :=
  decide (s.start ≤ offset) && (decide (offset < s.stop) || (s.isEmpty && offset == s.start))

/-- Whether `inner` lies within `outer`. -/
def Covers (outer inner : Span) : Prop :=
  outer.start ≤ inner.start ∧ inner.stop ≤ outer.stop

instance (outer inner : Span) : Decidable (outer.Covers inner) :=
  inferInstanceAs (Decidable (_ ∧ _))

/-- Spans are ordered by their start, then by their stop. -/
def compare (s t : Span) : Ordering :=
  (Ord.compare s.start t.start).then (Ord.compare s.stop t.stop)

/-- The text `start..stop`. -/
def display (s : Span) : String :=
  s!"{s.start}..{s.stop}"

theorem ofBounds_of_le {a b : Nat} (h : a ≤ b) : ofBounds a b = ⟨a, b⟩ := if_pos h

theorem ofBounds_ordered (a b : Nat) : (ofBounds a b).start ≤ (ofBounds a b).stop := by
  unfold ofBounds
  split <;> dsimp only <;> omega

theorem ofBounds_comm (a b : Nat) : ofBounds a b = ofBounds b a := by
  unfold ofBounds
  split <;> split <;> simp only [Span.mk.injEq] <;> omega

end Span

end CallerClosure
