import CallerClosure.Span

/-!
# Nesting of spans

Spans listed from the outside to the inside form a tree: the parent of a span is the nearest
one before it that covers it, among those that are still open. One pass with a stack finds
all parents; a span that does not cover the next one is closed for good.
-/

namespace CallerClosure

/-- A span with the index of the node that it belongs to. -/
structure IndexedSpan where
  index : Nat
  span : Span
  deriving DecidableEq

namespace Nesting

/-- The open spans that are left when `span` comes next, the innermost first. -/
def openAround (span : Span) (stack : List IndexedSpan) : List IndexedSpan :=
  stack.dropWhile fun top => !decide (top.span.Covers span)

/-- Each index with the index of its parent, for spans listed from outside to inside. -/
def parentsFrom : List IndexedSpan → List IndexedSpan → List (Nat × Option Nat)
  | _, [] => []
  | stack, s :: rest =>
    let stack := openAround s.span stack
    (s.index, stack.head?.map (·.index)) :: parentsFrom (s :: stack) rest

/-- Each index with the index of its parent. -/
def parents (spans : List IndexedSpan) : List (Nat × Option Nat) := parentsFrom [] spans

end Nesting

end CallerClosure
