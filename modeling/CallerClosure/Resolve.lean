import CallerClosure.Program.Basic

/-!
# From a selection to a method

The walk starts at the smallest node around the selection and goes outwards. At every node a
method that is used wins over a method that is declared, so selecting a call finds the callee
and selecting anything else in a body finds the method around it.

The walk ends at a node that it has seen before. `limit` bounds the number of nodes that it
looks at; any limit beyond the number of nodes gives the same answer.
-/

namespace CallerClosure

namespace Program

variable {σ ν : Type}

/-- The method that a node uses or else declares. -/
def methodAt (p : Program σ ν) (node : ν) : Query σ (Option Symbol) := do
  match (← p.referencedSymbol node).filter Symbol.isMethodLike with
  | some used => pure (some used)
  | none => pure ((← p.declaredSymbol node).filter Symbol.isMethodLike)

/-- The node around a node, in the current state. -/
def parentNow (p : Program σ ν) (node : ν) : Query σ (Option ν) :=
  Query.ofReader fun s => .ok (p.parent node s)

/-- The first method on the way outwards from a node. -/
def walk [DecidableEq ν] (p : Program σ ν) : Nat → List ν → ν → Query σ (Option Symbol)
  | 0, _, _ => pure none
  | limit + 1, seen, node =>
    if node ∈ seen then pure none
    else do
      match ← p.methodAt node with
      | some method => pure (some method)
      | none =>
        match ← p.parentNow node with
        | none => pure none
        | some outer => p.walk limit (node :: seen) outer

/-- The method that a selection is about, if there is one. -/
def resolveMethod [DecidableEq ν] (p : Program σ ν) (limit : Nat) (document : Path)
    (span : Span) : Query σ (Option Symbol) :=
  if span.isEmpty then pure none
  else do
    match ← p.coveringNode document span with
    | none => pure none
    | some node => p.walk limit [] node

end Program

end CallerClosure
