import CallerClosure.Program.Observed
import CallerClosure.Proofs.Program.Simulation

/-!
# Keeping a journal

A journal is kept by a program and a sink together: every call to the program, every document
that the sink was handed with its answer, and every failure that it was told of, in one list.

Keeping it changes nothing. `Journal.keeps_prepare` says that a document is prepared in the
same way with a journal and without, and that only calls are added to it meanwhile.
-/

namespace CallerClosure

/-- Something that a program or a sink was asked to do. -/
inductive Event
  | call (call : Call)
  | delivery (text : Text) (answer : Except SinkError Unit)
  | report (message : String)

namespace Event

/-- Whether a sink was asked. -/
def isForSink : Event → Bool
  | call _ => false
  | delivery .. => true
  | report _ => true

/-- Whether a document was handed over. -/
def isDelivery : Event → Bool
  | delivery .. => true
  | _ => false

/-- Whether a failure was told. -/
def isReport : Event → Bool
  | report _ => true
  | _ => false

end Event

/-- A state with all that was done on the way to it. -/
structure Journal (σ : Type) where
  inner : σ
  events : List Event

namespace Journal

variable {σ α β ν : Type}

/-- A question that is written down as a call. -/
def note (call : Call) (q : Query σ α) : Query (Journal σ) α :=
  Query.ofFunction fun j =>
    let r := q.ask j.inner
    (r.1, ⟨r.2, j.events ++ [.call call]⟩)

/-- A program that keeps a journal. -/
def program (p : Program σ ν) : Program (Journal σ) ν where
  coveringNode document span := note (.coveringNode document span) (p.coveringNode document span)
  parent node j := p.parent node j.inner
  referencedSymbol node := note .referencedSymbol (p.referencedSymbol node)
  declaredSymbol node := note .declaredSymbol (p.declaredSymbol node)
  findReferences symbol := note (.findReferences symbol.id) (p.findReferences symbol)
  containingDeclaration location :=
    note (.containingDeclaration location) (p.containingDeclaration location)
  declarationText symbol := note (.declarationText symbol.id) (p.declarationText symbol)

/-- A sink that keeps a journal. -/
def sink (sink : Sink σ) : Sink (Journal σ) where
  deliver text j :=
    let r := sink.deliver text j.inner
    (r.1, ⟨r.2, j.events ++ [.delivery text r.1]⟩)
  reportFailure message j :=
    ⟨sink.reportFailure message j.inner, j.events ++ [.report message]⟩

/-- The second function does what the first one does and adds calls to the journal. -/
def Keeps (f : σ → α × σ) (g : Journal σ → α × Journal σ) : Prop :=
  ∀ j, ∃ calls : List Call,
    g j = ((f j.inner).1, ⟨(f j.inner).2, j.events ++ calls.map Event.call⟩)

theorem keeps_of_pure {f : σ → α × σ} {g : Journal σ → α × Journal σ} (a : α)
    (hf : ∀ s, f s = (a, s)) (hg : ∀ j, g j = (a, j)) : Keeps f g := by
  intro j
  refine ⟨[], ?_⟩
  rw [hg, hf]
  simp

/-- One call is added by a question that is written down. -/
theorem keeps_note (call : Call) (q : Query σ α) : Keeps q.ask (note call q).ask :=
  fun _ => ⟨[call], rfl⟩

/-- Comparing a program with the same one that keeps a journal. -/
def simulation (σ : Type) : Simulation σ (Journal σ) where
  query q r := Keeps q.ask r.ask
  traversal t u := Keeps t.ask u.ask
  query_pure a := keeps_of_pure (.ok a) (Query.ask_pure a) (Query.ask_pure a)
  query_bind := by
    intro α β q r k l hq hk j
    obtain ⟨calls, hr⟩ := hq j
    rw [Query.ask_bind, Query.ask_bind, hr]
    rcases q.ask j.inner with ⟨_ | a, s⟩
    · exact ⟨calls, rfl⟩
    · obtain ⟨more, hl⟩ := hk a ⟨s, j.events ++ calls.map Event.call⟩
      exact ⟨calls ++ more, by simp [hl]⟩
  traversal_pure a := keeps_of_pure (.ok a) (Traversal.ask_pure a) (Traversal.ask_pure a)
  traversal_throw e := keeps_of_pure (.error e) (Traversal.ask_throw e) (Traversal.ask_throw e)
  traversal_bind := by
    intro α β t u k l ht hk j
    obtain ⟨calls, hu⟩ := ht j
    rw [Traversal.ask_bind, Traversal.ask_bind, hu]
    rcases t.ask j.inner with ⟨_ | a, s⟩
    · exact ⟨calls, rfl⟩
    · obtain ⟨more, hl⟩ := hk a ⟨s, j.events ++ calls.map Event.call⟩
      exact ⟨calls ++ more, by simp [hl]⟩
  traversal_ofQuery := by
    intro α q r hq j
    obtain ⟨calls, hr⟩ := hq j
    exact ⟨calls, by rw [Traversal.ask_ofQuery, Traversal.ask_ofQuery, hr]⟩

theorem simulated_program (p : Program σ ν) : p.Simulated (simulation σ) (program p) where
  coveringNode _ _ := keeps_note _ _
  parentNow _ := fun j => ⟨[], by simp [Program.parentNow, program]⟩
  referencedSymbol _ := keeps_note _ _
  declaredSymbol _ := keeps_note _ _
  findReferences _ := keeps_note _ _
  containingDeclaration _ := keeps_note _ _
  declarationText _ := keeps_note _ _

/-- A request to a program that keeps a journal. -/
def request (request : Request σ) : Request (Journal σ) :=
  request.cancelledBy fun j => request.cancelled j.inner

/-- **Preparing a document adds nothing but calls to a journal**, and goes as without one. -/
theorem keeps_prepare [DecidableEq ν] (p : Program σ ν) (r : Request σ) :
    Keeps (p.prepare r).ask ((program p).prepare (request r)).ask :=
  (simulated_program p).prepare r fun j => ⟨[], by simp [Traversal.ask_checkpoint]⟩

end Journal

end CallerClosure
