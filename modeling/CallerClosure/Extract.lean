import CallerClosure.Closure
import CallerClosure.Materialize
import CallerClosure.Resolve
import CallerClosure.Sink

/-!
# Extraction

Resolve a selection, build the closure of the method it is about, write the document and
hand it to a sink. The sink sees one document, or one failure, or a refused document and the
failure that follows from it, or nothing at all when there is nothing to extract.

* `Program.collectCallers` stops after the closure;
* `Program.extract` goes all the way and always ends in an `Outcome`.
-/

namespace CallerClosure

/-- A selection, and how to extract from it. The traversal is cancelled when the state says
so. -/
structure Request (σ : Type) where
  document : Path
  span : Span
  order : FragmentOrder
  cancelled : σ → Bool
  /-- The bound on steps of the walk and of the traversal. -/
  limit : Nat

/-- A delivered document in numbers. -/
structure Delivery where
  seed : Symbol
  /-- The size of the closure, the seed included. -/
  symbols : Nat
  fragments : Nat
  /-- The length of the text in bytes. -/
  bytes : Nat
  deriving DecidableEq

/-- How an extraction ended. -/
inductive Outcome
  /-- The selection is empty, or its document is not part of the program. -/
  | noSelection
  /-- The selection is not in or on a method. -/
  | noMethod
  | delivered (delivery : Delivery)
  /-- The sink was told this message. -/
  | failed (message : String)
  deriving DecidableEq

/-- Whether an outcome is a failure. -/
def Outcome.isFailure : Outcome → Bool
  | failed _ => true
  | _ => false

/-- What a selection is about. -/
inductive Seed
  | noSelection
  | noMethod
  | method (symbol : Symbol)

/-- A document that is ready for delivery, or the reason why there is none. -/
inductive Prepared
  | noSelection
  | noMethod
  | ready (text : Text) (delivery : Delivery)

namespace Program

variable {σ ν : Type} [DecidableEq ν]

/-- What the selection of a request is about. -/
def findSeed (p : Program σ ν) (request : Request σ) : Query σ Seed :=
  if request.span.isEmpty then pure .noSelection
  else do
    match ← p.coveringNode request.document request.span with
    | none => pure .noSelection
    | some _ =>
      match ← p.resolveMethod request.limit request.document request.span with
      | none => pure .noMethod
      | some symbol => pure (.method symbol)

/-- The closure of the selected method, if a method is selected. -/
def collectCallers (p : Program σ ν) (request : Request σ) :
    Traversal σ (Option Closure) := do
  match ← Traversal.ofQuery (p.findSeed request) with
  | .method seed => some <$> p.buildClosure request.limit request.cancelled seed
  | _ => pure none

/-- The document of a request. -/
def prepare (p : Program σ ν) (request : Request σ) : Traversal σ Prepared := do
  match ← Traversal.ofQuery (p.findSeed request) with
  | .noSelection => pure .noSelection
  | .noMethod => pure .noMethod
  | .method seed =>
    let closure ← p.buildClosure request.limit request.cancelled seed
    Traversal.checkpoint request.cancelled
    let document ← Traversal.ofQuery (p.materialize closure.set request.order)
    pure (.ready document.text
      { seed
        symbols := closure.set.size
        fragments := document.fragments
        bytes := document.text.size })

/-- Tell the sink about a failure. -/
def fail (sink : Sink σ) (message : String) (s : σ) : Outcome × σ :=
  (.failed message, sink.reportFailure message s)

/-- Extract from a program into a sink. -/
def extract (p : Program σ ν) (sink : Sink σ) (request : Request σ) (s : σ) : Outcome × σ :=
  match (p.prepare request).ask s with
  | (.ok .noSelection, s) => (.noSelection, s)
  | (.ok .noMethod, s) => (.noMethod, s)
  | (.ok (.ready text delivery), s) =>
    match sink.deliver text s with
    | (.ok (), s) => (.delivered delivery, s)
    | (.error e, s) => fail sink e.message s
  | (.error e, s) => fail sink e.message s

end Program

/-- The line that acknowledges a delivery. -/
def Outcome.acknowledgement? : Outcome → Option String
  | delivered delivery => some s!"Method and callers copied: {delivery.symbols} symbols"
  | _ => none

end CallerClosure
