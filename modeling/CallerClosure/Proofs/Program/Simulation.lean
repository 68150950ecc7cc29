import CallerClosure.Extract

/-!
# Comparing two programs

Everything that is done with a program is put together from its questions, one after the
other. So whatever relates the questions to two programs, and is kept when one question
follows another, relates what is done with them as a whole.

* `Simulation` is such a relation, `Program.Simulated` says that two programs are related
  question by question. A stage of an extraction asks about one topic only, so it is related as
  soon as the questions of its topic are: `Program.NodesSimulated` and
  `Program.ReferencesSimulated`;
* `Sequencing` is the part of such a relation that is about traversals. In a traversal every
  question comes after a checkpoint, so `Program.TraversedAlike` asks for no more than that;
* the lemmas go up from a node to a whole extraction. The last of them, `prepare` and
  `collectCallers`, are the ones that a comparison of two extractions starts from;
* `Simulation.still` is such a comparison: it says that a program never changes.
  `Simulation.answers` says less: what a program answers is the same in all states.
-/

namespace CallerClosure

/-- A relation between traversals that is kept when one follows another. -/
structure Sequencing (σ τ : Type) where
  traversal : {α : Type} → Traversal σ α → Traversal τ α → Prop
  traversal_pure : ∀ {α : Type} (a : α), traversal (pure a) (pure a)
  traversal_throw : ∀ {α : Type} (e : ClosureError),
    traversal (throw e : Traversal σ α) (throw e : Traversal τ α)
  traversal_bind : ∀ {α β : Type} {t : Traversal σ α} {u : Traversal τ α}
    {k : α → Traversal σ β} {l : α → Traversal τ β}, traversal t u →
    (∀ a, traversal (k a) (l a)) → traversal (t >>= k) (u >>= l)

/-- A relation between the questions to two programs, and between traversals of them, that is
kept when one follows another. -/
structure Simulation (σ τ : Type) extends Sequencing σ τ where
  query : {α : Type} → Query σ α → Query τ α → Prop
  query_pure : ∀ {α : Type} (a : α), query (pure a) (pure a)
  query_bind : ∀ {α β : Type} {q : Query σ α} {r : Query τ α} {k : α → Query σ β}
    {l : α → Query τ β}, query q r → (∀ a, query (k a) (l a)) → query (q >>= k) (r >>= l)
  traversal_ofQuery : ∀ {α : Type} {q : Query σ α} {r : Query τ α}, query q r →
    traversal (.ofQuery q) (.ofQuery r)

variable {σ τ ν : Type}

/-- The same request with another cancellation. -/
def Request.cancelledBy (request : Request σ) (cancelled : τ → Bool) : Request τ where
  document := request.document
  span := request.span
  order := request.order
  cancelled := cancelled
  limit := request.limit

/-- Two programs are related in what they say about nodes. -/
structure Program.NodesSimulated (R : Simulation σ τ) (p : Program σ ν) (q : Program τ ν) :
    Prop where
  coveringNode : ∀ document span,
    R.query (p.coveringNode document span) (q.coveringNode document span)
  parentNow : ∀ node, R.query (p.parentNow node) (q.parentNow node)
  referencedSymbol : ∀ node, R.query (p.referencedSymbol node) (q.referencedSymbol node)
  declaredSymbol : ∀ node, R.query (p.declaredSymbol node) (q.declaredSymbol node)

/-- Two programs are related in what they say about references. -/
structure Program.ReferencesSimulated (R : Simulation σ τ) (p : Program σ ν)
    (q : Program τ ν) : Prop where
  findReferences : ∀ symbol, R.query (p.findReferences symbol) (q.findReferences symbol)
  containingDeclaration : ∀ location,
    R.query (p.containingDeclaration location) (q.containingDeclaration location)

/-- Two programs are related in what they say about texts. -/
structure Program.TextsSimulated (R : Simulation σ τ) (p : Program σ ν) (q : Program τ ν) :
    Prop where
  declarationText : ∀ symbol, R.query (p.declarationText symbol) (q.declarationText symbol)

/-- Two programs are related question by question. -/
structure Program.Simulated (R : Simulation σ τ) (p : Program σ ν) (q : Program τ ν) : Prop
    extends Program.NodesSimulated R p q, Program.ReferencesSimulated R p q,
      Program.TextsSimulated R p q

/-- A question that is put after a checkpoint. -/
def Traversal.checked {α : Type} (cancelled : σ → Bool) (q : Query σ α) : Traversal σ α := do
  checkpoint cancelled
  ofQuery q

/-- Two programs are related in what a traversal asks them, checkpoints included. -/
structure Program.TraversedAlike (R : Sequencing σ τ) (cancelled : σ → Bool)
    (cancelled' : τ → Bool) (p : Program σ ν) (q : Program τ ν) : Prop where
  findReferences : ∀ symbol,
    R.traversal (.checked cancelled (p.findReferences symbol))
      (.checked cancelled' (q.findReferences symbol))
  containingDeclaration : ∀ location,
    R.traversal (.checked cancelled (p.containingDeclaration location))
      (.checked cancelled' (q.containingDeclaration location))

/-! ### Resolution -/

namespace Program.NodesSimulated

variable {R : Simulation σ τ} {p : Program σ ν} {q : Program τ ν} (h : p.NodesSimulated R q)

include h

theorem methodAt (node : ν) : R.query (p.methodAt node) (q.methodAt node) := by
  refine R.query_bind (h.referencedSymbol node) fun used => ?_
  cases used.filter Symbol.isMethodLike with
  | some method => exact R.query_pure _
  | none => exact R.query_bind (h.declaredSymbol node) fun declared => R.query_pure _

section Walk

variable [DecidableEq ν]

theorem walk (limit : Nat) (seen : List ν) (node : ν) :
    R.query (p.walk limit seen node) (q.walk limit seen node) := by
  induction limit generalizing seen node with
  | zero => exact R.query_pure none
  | succ limit ih =>
    unfold Program.walk
    by_cases hs : node ∈ seen
    · rw [if_pos hs, if_pos hs]
      exact R.query_pure none
    · rw [if_neg hs, if_neg hs]
      refine R.query_bind (h.methodAt node) fun method => ?_
      cases method with
      | some method => exact R.query_pure _
      | none =>
        refine R.query_bind (h.parentNow node) fun outer => ?_
        cases outer with
        | none => exact R.query_pure none
        | some outer => exact ih (node :: seen) outer

theorem resolveMethod (limit : Nat) (document : Path) (span : Span) :
    R.query (p.resolveMethod limit document span) (q.resolveMethod limit document span) := by
  unfold Program.resolveMethod
  by_cases he : span.isEmpty = true
  · rw [if_pos he, if_pos he]
    exact R.query_pure none
  · rw [if_neg he, if_neg he]
    refine R.query_bind (h.coveringNode document span) fun node => ?_
    cases node with
    | none => exact R.query_pure none
    | some node => exact h.walk limit [] node

theorem findSeed (request : Request σ) (cancelled : τ → Bool) :
    R.query (p.findSeed request) (q.findSeed (request.cancelledBy cancelled)) := by
  unfold Program.findSeed
  by_cases he : request.span.isEmpty = true
  · rw [if_pos he, if_pos (by exact he)]
    exact R.query_pure _
  · rw [if_neg he, if_neg (by exact he)]
    refine R.query_bind (h.coveringNode _ _) fun node => ?_
    cases node with
    | none => exact R.query_pure _
    | some node =>
      refine R.query_bind (h.resolveMethod _ _ _) fun found => ?_
      cases found with
      | none => exact R.query_pure _
      | some symbol => exact R.query_pure _

end Walk

end Program.NodesSimulated

/-! ### Traversal -/

namespace Program

variable (p : Program σ ν) (cancelled : σ → Bool)

theorem visitAll_cons (location : ReferenceLocation) (rest : List ReferenceLocation)
    (f : Frontier) :
    p.visitAll cancelled (location :: rest) f =
      Traversal.checked cancelled (p.containingDeclaration location) >>= fun container =>
        p.visitAll cancelled rest (f.visit container) :=
  (bind_assoc _ _ _).symm

theorem expandAll_of_queue_cons {f : Frontier} {current : Symbol} {rest : List Symbol}
    (h : f.queue = current :: rest) (limit : Nat) :
    p.expandAll cancelled (limit + 1) f =
      Traversal.checked cancelled (p.findReferences current) >>= fun references =>
        p.visitAll cancelled references (f.expand rest references.length) >>=
          p.expandAll cancelled limit := by
  rw [p.expandAll_succ cancelled h]
  exact (bind_assoc _ _ _).symm

end Program

section Traversal

variable {p : Program σ ν} {q : Program τ ν} {cancelled : σ → Bool} {cancelled' : τ → Bool}

namespace Program.TraversedAlike

variable {R : Sequencing σ τ} (h : p.TraversedAlike R cancelled cancelled' q)

include h

theorem visitAll (locations : List ReferenceLocation) (f : Frontier) :
    R.traversal (p.visitAll cancelled locations f) (q.visitAll cancelled' locations f) := by
  induction locations generalizing f with
  | nil => exact R.traversal_pure f
  | cons location rest ih =>
    rw [p.visitAll_cons, q.visitAll_cons]
    exact R.traversal_bind (h.containingDeclaration location) fun container =>
      ih (f.visit container)

theorem expandAll (limit : Nat) (f : Frontier) :
    R.traversal (p.expandAll cancelled limit f) (q.expandAll cancelled' limit f) := by
  induction limit generalizing f with
  | zero =>
    cases hq : f.queue with
    | nil =>
      rw [p.expandAll_of_queue_nil _ hq, q.expandAll_of_queue_nil _ hq]
      exact R.traversal_pure _
    | cons current rest =>
      rw [p.expandAll_zero _ hq, q.expandAll_zero _ hq]
      exact R.traversal_throw _
  | succ limit ih =>
    cases hq : f.queue with
    | nil =>
      rw [p.expandAll_of_queue_nil _ hq, q.expandAll_of_queue_nil _ hq]
      exact R.traversal_pure _
    | cons current rest =>
      rw [p.expandAll_of_queue_cons _ hq, q.expandAll_of_queue_cons _ hq]
      refine R.traversal_bind (h.findReferences current) fun references => ?_
      exact R.traversal_bind (h.visitAll references _) ih

theorem buildClosure (limit : Nat) (seed : Symbol) :
    R.traversal (p.buildClosure limit cancelled seed) (q.buildClosure limit cancelled' seed) :=
  h.expandAll limit (.start seed)

end Program.TraversedAlike

variable {R : Simulation σ τ} (h : p.ReferencesSimulated R q)
  (hc : R.traversal (Traversal.checkpoint cancelled) (Traversal.checkpoint cancelled'))

include h hc

theorem Program.ReferencesSimulated.buildClosure (limit : Nat) (seed : Symbol) :
    R.traversal (p.buildClosure limit cancelled seed)
      (q.buildClosure limit cancelled' seed) := by
  have halike : p.TraversedAlike R.toSequencing cancelled cancelled' q :=
    ⟨fun symbol => R.traversal_bind hc fun _ => R.traversal_ofQuery (h.findReferences symbol),
      fun location =>
        R.traversal_bind hc fun _ => R.traversal_ofQuery (h.containingDeclaration location)⟩
  exact halike.buildClosure limit seed

end Traversal

/-! ### Extraction -/

namespace Program.TextsSimulated

variable {R : Simulation σ τ} {p : Program σ ν} {q : Program τ ν} (h : p.TextsSimulated R q)

include h

theorem fragment (symbol : Symbol) : R.query (p.fragment symbol) (q.fragment symbol) := by
  unfold Program.fragment
  cases symbol.source? with
  | none => exact R.query_pure none
  | some source => exact h.declarationText symbol

theorem materializeList (symbols : List Symbol) :
    R.query (p.materializeList symbols) (q.materializeList symbols) := by
  induction symbols with
  | nil => exact R.query_pure _
  | cons symbol rest ih =>
    refine R.query_bind (h.fragment symbol) fun fragment => ?_
    refine R.query_bind ih fun document => ?_
    cases fragment with
    | none => exact R.query_pure _
    | some text => exact R.query_pure _

theorem materialize (set : SymbolSet) (order : FragmentOrder) :
    R.query (p.materialize set order) (q.materialize set order) :=
  h.materializeList (set.ordered order)

end Program.TextsSimulated

/-- **What is prepared from related programs is related**, if looking for a cancellation is. -/
theorem Program.Simulated.prepare [DecidableEq ν] {R : Simulation σ τ} {p : Program σ ν}
    {q : Program τ ν} (h : p.Simulated R q) (request : Request σ) {cancelled : τ → Bool}
    (hc : R.traversal (Traversal.checkpoint request.cancelled)
      (Traversal.checkpoint cancelled)) :
    R.traversal (p.prepare request) (q.prepare (request.cancelledBy cancelled)) := by
  refine R.traversal_bind (R.traversal_ofQuery (h.findSeed request cancelled)) fun seed => ?_
  cases seed with
  | noSelection => exact R.traversal_pure _
  | noMethod => exact R.traversal_pure _
  | method seed =>
    refine R.traversal_bind (h.buildClosure hc request.limit seed) fun closure => ?_
    refine R.traversal_bind hc fun _ => ?_
    refine R.traversal_bind (R.traversal_ofQuery (h.materialize closure.set request.order)) ?_
    exact fun document => R.traversal_pure _

/-- **What is collected from related programs is related**, if looking for a cancellation
is. -/
theorem Program.Simulated.collectCallers [DecidableEq ν] {R : Simulation σ τ}
    {p : Program σ ν} {q : Program τ ν} (h : p.Simulated R q) (request : Request σ)
    {cancelled : τ → Bool}
    (hc : R.traversal (Traversal.checkpoint request.cancelled)
      (Traversal.checkpoint cancelled)) :
    R.traversal (p.collectCallers request)
      (q.collectCallers (request.cancelledBy cancelled)) := by
  refine R.traversal_bind (R.traversal_ofQuery (h.findSeed request cancelled)) fun seed => ?_
  cases seed with
  | noSelection => exact R.traversal_pure _
  | noMethod => exact R.traversal_pure _
  | method seed =>
    dsimp only
    rw [map_eq_pure_bind, map_eq_pure_bind]
    exact R.traversal_bind (h.buildClosure hc request.limit seed) fun closure =>
      R.traversal_pure _

/-! ### Programs that never change -/

/-- Comparing a program with one that has no state to change: the first one gives the same
answer in every state, and stays in it. -/
def Simulation.still (σ : Type) : Simulation σ Unit where
  query q r := ∀ s, q.ask s = ((r.ask ()).1, s)
  traversal t u := ∀ s, t.ask s = ((u.ask ()).1, s)
  query_pure _ _ := rfl
  query_bind := by
    intro α β q r k l hq hk s
    rw [Query.ask_bind, Query.ask_bind, hq]
    rcases r.ask () with ⟨_ | a, _⟩
    · rfl
    · exact hk a s
  traversal_pure _ _ := rfl
  traversal_throw _ _ := rfl
  traversal_bind := by
    intro α β t u k l ht hk s
    rw [Traversal.ask_bind, Traversal.ask_bind, ht]
    rcases u.ask () with ⟨_ | a, _⟩
    · rfl
    · exact hk a s
  traversal_ofQuery := by
    intro α q r hq s
    rw [Traversal.ask_ofQuery, Traversal.ask_ofQuery, hq]

/-- Comparing answers alone: none of them depends on the state in which it is given. -/
def Simulation.answers (σ τ : Type) : Simulation σ τ where
  query q r := ∀ s t, (q.ask s).1 = (r.ask t).1
  traversal t u := ∀ s v, (t.ask s).1 = (u.ask v).1
  query_pure _ _ _ := rfl
  query_bind := by
    intro α β q r k l hq hk s t
    have hqr := hq s t
    rw [Query.ask_bind, Query.ask_bind]
    revert hqr
    rcases q.ask s with ⟨_ | a, s'⟩ <;> rcases r.ask t with ⟨_ | a', t'⟩ <;> rintro ⟨⟩
    · rfl
    · exact hk a s' t'
  traversal_pure _ _ _ := rfl
  traversal_throw _ _ _ := rfl
  traversal_bind := by
    intro α β t u k l ht hk s v
    have htu := ht s v
    rw [Traversal.ask_bind, Traversal.ask_bind]
    revert htu
    rcases t.ask s with ⟨_ | a, s'⟩ <;> rcases u.ask v with ⟨_ | a', v'⟩ <;> rintro ⟨⟩
    · rfl
    · exact hk a s' v'
  traversal_ofQuery := by
    intro α q r hq s v
    rw [Traversal.ask_ofQuery, Traversal.ask_ofQuery]
    exact congrArg (Except.mapError ClosureError.index) (hq s v)

end CallerClosure
