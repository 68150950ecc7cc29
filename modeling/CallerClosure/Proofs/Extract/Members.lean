import CallerClosure.Proofs.Closure.Callers
import CallerClosure.Proofs.Extract.Stages
import CallerClosure.Proofs.Materialize.Fragments
import CallerClosure.Proofs.Program.History

/-!
# The symbols that an extraction is about

Whatever a program names in its answers ends up in a closure and then in a document.

* `Program.Names` says what holds, from then on, of the symbols that a program answers with;
* `Names.findSeed` and `Names.buildClosure` take this to the seed and to every member of the
  closure, `Names.materializeList` to the fragments of the document;
* `Names.fragments_eq_symbols` says that a program which has a text for every symbol that it
  names loses no member of the closure.
-/

namespace CallerClosure

open Relation (ReflTransGen)

variable {σ ν : Type} {step : σ → σ → Prop}

/-- Every question to a program takes steps of a relation, and every symbol that it answers
with is as demanded from then on. -/
structure Program.Names (p : Program σ ν) (step : σ → σ → Prop) (named : Symbol → σ → Prop) :
    Prop extends p.Moves step where
  lasting : ∀ {symbol s t}, named symbol s → step s t → named symbol t
  used : ∀ {node s symbol}, ((p.referencedSymbol node).ask s).1 = .ok (some symbol) →
    named symbol ((p.referencedSymbol node).ask s).2
  declared : ∀ {node s symbol}, ((p.declaredSymbol node).ask s).1 = .ok (some symbol) →
    named symbol ((p.declaredSymbol node).ask s).2
  containing : ∀ {location s symbol},
    ((p.containingDeclaration location).ask s).1 = .ok (some symbol) →
    named symbol ((p.containingDeclaration location).ask s).2

namespace Program.Names

variable {p : Program σ ν} {named : Symbol → σ → Prop} (h : p.Names step named)

include h

theorem lasts {symbol : Symbol} {s t : σ} (hs : named symbol s) (hst : ReflTransGen step s t) :
    named symbol t := by
  induction hst with
  | refl => exact hs
  | tail _ hstep ih => exact h.lasting ih hstep

/-- The method of a node is one of its symbols. -/
theorem methodAt (node : ν) (s : σ) :
    Meets step (fun found t => ∀ symbol ∈ found, named symbol t) (p.methodAt node).ask s := by
  refine Query.meets_bind
    (m := fun found t => ∀ symbol ∈ found, named symbol t)
    ⟨h.referencedSymbol node s, fun found hfound symbol hsymbol => ?_⟩ fun used t _ hused => ?_
  · obtain rfl := Option.mem_def.1 hsymbol
    exact h.used hfound
  cases hmethod : used.filter Symbol.isMethodLike with
  | some method =>
    refine Query.meets_pure fun symbol hsymbol => hused symbol ?_
    rw [← hmethod] at hsymbol
    exact (Option.mem_filter_iff.1 hsymbol).1
  | none =>
    refine Query.meets_bind
      (m := fun found t => ∀ symbol ∈ found, named symbol t)
      ⟨h.declaredSymbol node t, fun found hfound symbol hsymbol => ?_⟩
      fun declared u _ hdeclared => ?_
    · obtain rfl := Option.mem_def.1 hsymbol
      exact h.declared hfound
    · exact Query.meets_pure fun symbol hsymbol =>
        hdeclared symbol (Option.mem_filter_iff.1 hsymbol).1

/-- The method that the walk ends at is a symbol of the program. -/
theorem walk [DecidableEq ν] (limit : Nat) (seen : List ν) (node : ν) (s : σ) :
    Meets step (fun found t => ∀ symbol ∈ found, named symbol t)
      (p.walk limit seen node).ask s := by
  induction limit generalizing seen node s with
  | zero => exact Query.meets_pure (by simp)
  | succ limit ih =>
    unfold Program.walk
    by_cases hs : node ∈ seen
    · rw [if_pos hs]
      exact Query.meets_pure (by simp)
    · rw [if_neg hs]
      refine Query.meets_bind (h.methodAt node s) fun method t _ hmethod => ?_
      cases method with
      | some method => exact Query.meets_pure hmethod
      | none =>
        refine Query.meets_bind (m := anyway)
          (.of_eq (Query.ask_ofReader _ t) .refl fun _ _ => trivial) fun outer u _ _ => ?_
        cases outer with
        | none => exact Query.meets_pure (by simp)
        | some outer => exact ih (node :: seen) outer u

/-- The seed of an extraction is a symbol of the program. -/
theorem findSeed [DecidableEq ν] (request : Request σ) (s : σ) :
    Meets step (fun seed t => ∀ symbol, seed = .method symbol → named symbol t)
      (p.findSeed request).ask s := by
  unfold Program.findSeed
  by_cases he : request.span.isEmpty = true
  · rw [if_pos he]
    exact Query.meets_pure (by rintro _ ⟨⟩)
  rw [if_neg he]
  refine Query.meets_bind (m := anyway)
    ⟨h.coveringNode _ _ s, fun _ _ => trivial⟩ fun node t _ _ => ?_
  cases node with
  | none => exact Query.meets_pure (by rintro _ ⟨⟩)
  | some node =>
    refine Query.meets_bind
      (m := fun found t => ∀ symbol ∈ found, named symbol t) ?_ fun found u _ hfound => ?_
    · rw [resolveMethod, if_neg he]
      refine Query.meets_bind (m := anyway)
        ⟨h.coveringNode _ _ t, fun _ _ => trivial⟩ fun node u _ _ => ?_
      cases node with
      | none => exact Query.meets_pure (by simp)
      | some node => exact h.walk request.limit [] node u
    · cases found with
      | none => exact Query.meets_pure (by rintro _ ⟨⟩)
      | some symbol =>
        refine Query.meets_pure fun symbol' heq => hfound symbol' ?_
        cases heq
        rfl

end Program.Names

/-! ### The members of a closure -/

/-- All members of a frontier are as demanded. -/
def Frontier.Holds (named : Symbol → σ → Prop) (f : Frontier) (s : σ) : Prop :=
  (∀ symbol ∈ f.queue, named symbol s) ∧ ∀ symbol ∈ f.set.toList, named symbol s

section Holds

variable {named : Symbol → σ → Prop} {f : Frontier} {s : σ}

theorem Frontier.holds_start {seed : Symbol} (h : named seed s) :
    (Frontier.start seed).Holds named s :=
  ⟨by simpa [start] using h, by simpa [start] using h⟩

/-- A frontier stays as demanded when it takes in what lies around a reference. -/
theorem Frontier.Holds.visit (hf : f.Holds named s) {container : Option Symbol}
    (hc : ∀ symbol ∈ container, named symbol s) : (f.visit container).Holds named s := by
  obtain ⟨new, hqueue, hset, hnew⟩ := (f.extends_visit container).grown
  have hmem : ∀ symbol ∈ new, named symbol s := fun symbol hsymbol =>
    hc symbol (by simpa using (List.mem_filter.1 (hnew symbol hsymbol)).1)
  rw [Frontier.Holds, hqueue, hset]
  exact ⟨fun symbol hs => (List.mem_append.1 hs).elim (hf.1 symbol) (hmem symbol),
    fun symbol hs => (List.mem_append.1 hs).elim (hf.2 symbol) (hmem symbol)⟩

end Holds

namespace Program.Names

variable {p : Program σ ν} {named : Symbol → σ → Prop} (h : p.Names step named)

include h

theorem holds_lasts {f : Frontier} {s t : σ} (hf : f.Holds named s)
    (hst : ReflTransGen step s t) : f.Holds named t :=
  ⟨fun symbol hs => h.lasts (hf.1 symbol hs) hst, fun symbol hs => h.lasts (hf.2 symbol hs) hst⟩

theorem visitAll (cancelled : σ → Bool) (locations : List ReferenceLocation) (f : Frontier)
    (s : σ) (hf : f.Holds named s) :
    Meets step (fun f' t => f'.Holds named t) (p.visitAll cancelled locations f).ask s := by
  induction locations generalizing f s with
  | nil => exact Traversal.meets_pure hf
  | cons location rest ih =>
    refine Traversal.meets_bind (Traversal.meets_checkpoint cancelled) fun _ t hst _ => ?_
    refine Traversal.meets_bind
      (m := fun found u => ∀ symbol ∈ found, named symbol u)
      (Traversal.meets_ofQuery ⟨h.containingDeclaration location t, ?_⟩)
      fun container u htu hcontainer => ?_
    · rintro container hcontainer symbol rfl
      exact h.containing hcontainer
    · exact ih _ u ((h.holds_lasts hf (hst.trans htu)).visit hcontainer)

theorem expandAll (cancelled : σ → Bool) (limit : Nat) (f : Frontier) (s : σ)
    (hf : f.Holds named s) :
    Meets step (fun closure t => ∀ symbol ∈ closure.set.toList, named symbol t)
      (p.expandAll cancelled limit f).ask s := by
  induction limit generalizing f s with
  | zero =>
    cases hq : f.queue with
    | nil =>
      rw [p.expandAll_of_queue_nil cancelled hq]
      exact Traversal.meets_pure hf.2
    | cons current rest =>
      rw [p.expandAll_zero cancelled hq]
      exact Traversal.meets_throw _
  | succ limit ih =>
    cases hq : f.queue with
    | nil =>
      rw [p.expandAll_of_queue_nil cancelled hq]
      exact Traversal.meets_pure hf.2
    | cons current rest =>
      rw [p.expandAll_succ cancelled hq]
      refine Traversal.meets_bind (Traversal.meets_checkpoint cancelled) fun _ t hst _ => ?_
      refine Traversal.meets_bind (m := anyway)
        (Traversal.meets_ofQuery ⟨h.findReferences current t, fun _ _ => trivial⟩)
        fun references u htu _ => ?_
      have hexpanded : (f.expand rest references.length).Holds named u := by
        obtain ⟨hqueue, hset⟩ := h.holds_lasts hf (hst.trans htu)
        refine ⟨fun symbol hs => hqueue symbol ?_, hset⟩
        rw [hq]
        exact List.mem_cons_of_mem _ hs
      exact Traversal.meets_bind (h.visitAll cancelled references _ u hexpanded)
        fun f' v _ hf' => ih f' v hf'

/-- Every member of a closure is as demanded, if the seed is. -/
theorem buildClosure (cancelled : σ → Bool) (limit : Nat) (seed : Symbol) (s : σ)
    (hseed : named seed s) :
    Meets step (fun closure t => ∀ symbol ∈ closure.set.toList, named symbol t)
      (p.buildClosure limit cancelled seed).ask s :=
  h.expandAll cancelled limit _ s (Frontier.holds_start hseed)

/-! ### The fragments of a document -/

/-- Symbols with a text each are a fragment each. -/
theorem materializeList {symbols : List Symbol} {s u : σ} {m : Materialized}
    (hnamed : ∀ symbol ∈ symbols, named symbol s)
    (htext : ∀ symbol t, ReflTransGen step s t → named symbol t →
      ∃ text u, (p.fragment symbol).ask t = (.ok (some text), u) ∧ ReflTransGen step t u)
    (hm : (p.materializeList symbols).ask s = (.ok m, u)) : m.skipped = [] := by
  induction symbols generalizing s m with
  | nil =>
    cases hm
    rfl
  | cons symbol rest ih =>
    obtain ⟨text, t, hfragment, hst⟩ :=
      htext symbol s .refl (hnamed symbol List.mem_cons_self)
    obtain ⟨fragment, t', document, hf, hd, rfl⟩ := exists_of_ask_materializeList_cons hm
    rw [hfragment] at hf
    cases hf
    have hskipped : document.skipped = [] :=
      ih (fun symbol hs => h.lasts (hnamed symbol (List.mem_cons_of_mem _ hs)) hst)
        (fun symbol v htv => htext symbol v (hst.trans htv)) hd
    exact hskipped

/-- **Where every symbol that is named has a text, no member of a closure is skipped.** -/
theorem fragments_eq_symbols [DecidableEq ν] {s t : σ} {sink : Sink σ} {request : Request σ}
    {d : Delivery}
    (htext : ∀ symbol t, ReflTransGen step s t → named symbol t →
      ∃ text u, (p.fragment symbol).ask t = (.ok (some text), u) ∧ ReflTransGen step t u)
    (hd : p.extract sink request s = (.delivered d, t)) : d.fragments = d.symbols := by
  obtain ⟨text, u, hprepared, -⟩ := exists_of_extract_delivered hd
  obtain ⟨v, w, closure, document, hseed, hclosure, hdocument, -, hdelivery⟩ :=
    prepare_ready hprepared
  obtain ⟨hsv, hnamed⟩ := (h.findSeed request s).answer hseed
  obtain ⟨hvw, hmembers⟩ :=
    (h.buildClosure request.cancelled request.limit d.seed v (hnamed _ rfl)).answer hclosure
  have hordered : ∀ symbol ∈ closure.set.ordered request.order, named symbol w :=
    fun symbol hs => hmembers symbol ((closure.set.perm_ordered request.order).mem_iff.1 hs)
  have hskipped : document.skipped = [] :=
    h.materializeList hordered
      (fun symbol x hwx => htext symbol x ((hsv.trans hvw).trans hwx)) hdocument
  have hlength := length_materializeList hdocument
  rw [hskipped, (closure.set.perm_ordered request.order).length_eq] at hlength
  rw [hdelivery]
  simpa [SymbolSet.size] using hlength

end Program.Names

end CallerClosure
