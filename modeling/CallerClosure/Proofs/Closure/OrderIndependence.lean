import CallerClosure.Proofs.Closure.Counting
import CallerClosure.Proofs.Materialize.Order

/-!
# The order of references does not matter

Two programs that list the same references in different orders send a traversal on different
ways from its first step on. They meet at the end, because the members are all that chains of
callers lead to, whatever the way to them.

* `CallGraph.Reordered` says that two graphs differ in the order of references only;
* `CallGraph.Coherent` says that callers with the same identity are the same, and
  `CallGraph.Reached.mem_toList` what the members are then;
* `closure_and_document_of_reordered` is the main statement: members and counters are the same,
  and so is the document in the order of declarations.
-/

namespace CallerClosure

namespace CallGraph

/-! ### What the members are -/

/-- Callers with the same identity are the same. -/
def Coherent (g : CallGraph) : Prop :=
  ∀ a b c d, g.IsCaller a c → g.IsCaller b d → c.id = d.id → c = d

variable {g : CallGraph} {seed : Symbol} {done : List Symbol} {f : Frontier}

/-- **The members do not depend on the way to them.** They are the seed and what chains of
callers lead to, except where that has the identity of the seed. -/
theorem Reached.mem_toList (hr : g.Reached seed done f) (hq : f.queue = []) (hg : g.Coherent)
    {m : Symbol} :
    m ∈ f.set.toList ↔ m = seed ∨ m.id ≠ seed.id ∧ Relation.TransGen g.IsCaller seed m := by
  have hseed : seed ∈ f.set.toList := by
    rw [← hr.seed_eq]
    exact List.mem_cons_self
  constructor
  · intro hm
    rcases Relation.reflTransGen_iff_eq_or_transGen.1 (hr.chained m hm) with heq | hchain
    · exact .inl heq
    · refine or_iff_not_imp_left.2 fun hne => ⟨fun hid => hne ?_, hchain⟩
      exact List.inj_on_of_nodup_map hr.nodup hm hseed hid
  · rintro (rfl | ⟨hid, hchain⟩)
    · exact hseed
    · -- some member has this identity; as it is not the seed, it is a caller as well
      have hmem : m.id ∈ f.set.ids := (hr.isLeast hq).1.mem_of_chain hchain.to_reflTransGen
      obtain ⟨x, hx, hxid⟩ := SymbolSet.mem_ids.1 hmem
      have hxchain : Relation.TransGen g.IsCaller seed x := by
        rcases Relation.reflTransGen_iff_eq_or_transGen.1 (hr.chained x hx) with rfl | hx
        · exact absurd hxid.symm hid
        · exact hx
      obtain ⟨a, -, ha⟩ := Relation.TransGen.tail'_iff.1 hxchain
      obtain ⟨b, -, hb⟩ := Relation.TransGen.tail'_iff.1 hchain
      rwa [← hg a b x m ha hb hxid]

/-! ### Listing references in another order -/

/-- The second graph has the references of the first one in some other order. -/
structure Reordered (g h : CallGraph) : Prop where
  references : ∀ id, (h.references id).Perm (g.references id)
  container : h.container = g.container

namespace Reordered

variable {h : CallGraph} (hgh : g.Reordered h)

include hgh

theorem isCaller : h.IsCaller = g.IsCaller := by
  funext m c
  refine propext ?_
  simp only [IsCaller, mem_callers, hgh.container, (hgh.references m.id).mem_iff]

theorem reachable (seed : Symbol) : h.reachable seed = g.reachable seed := by
  rw [CallGraph.reachable, CallGraph.reachable, hgh.isCaller]

theorem coherent (hg : g.Coherent) : h.Coherent := by
  rwa [Coherent, hgh.isCaller]

/-- What is counted does not depend on any order, neither of members nor of references. -/
theorem countsOf {xs ys : List Symbol} (hp : ys.Perm xs) : h.countsOf ys = g.countsOf xs := by
  have hlength : ∀ m : Symbol, (h.references m.id).length = (g.references m.id).length :=
    fun m => (hgh.references m.id).length_eq
  have hlost : h.isLost = g.isLost := by
    funext location
    rw [isLost, isLost, hgh.container]
  have hplaces : (ys.flatMap fun m => h.references m.id).Perm
      (xs.flatMap fun m => g.references m.id) :=
    hp.flatMap fun m _ => hgh.references m.id
  rw [CallGraph.countsOf, CallGraph.countsOf, hlost, hp.length_eq, hplaces.countP_eq]
  simp only [hlength, (hp.map _).sum_eq]

end Reordered

end CallGraph

/-- The document in the order of declarations depends on the members alone, when the answers
about texts do not depend on the state. -/
theorem Program.ask_materialize_of_perm {σ ν : Type} {p : Program σ ν}
    {answer : Symbol → Except IndexError (Option Text)}
    (hp : ∀ symbol s, ((p.declarationText symbol).ask s).1 = answer symbol) {xs ys : SymbolSet}
    (hperm : xs.toList.Perm ys.toList) (hxs : xs.ids.Nodup) (s t : σ) :
    ((p.materialize xs .declaration).ask s).1 = ((p.materialize ys .declaration).ask t).1 := by
  have halike : p.TextsSimulated (Simulation.answers σ σ) p :=
    ⟨fun symbol s t => (hp symbol s).trans (hp symbol t).symm⟩
  show ((p.materializeList (xs.ordered .declaration)).ask s).1 = _
  rw [SymbolSet.ordered_eq_of_perm hperm hxs]
  exact halike.materialize ys .declaration s t

/-- **The order of references does not matter.** Programs that list the same references, in
whatever order, lead from a seed to the same members and to the same counters, even if they
find the members in different orders. So, when the texts come from one source that answers
without regard to its state, the documents in the order of declarations are the same: their
text, how many fragments they have and which members they skip. -/
theorem closure_and_document_of_reordered {σ τ ν μ : Type} (p : Program σ ν) (q : Program τ μ)
    (g h : CallGraph) (hp : p.Follows g) (hq : q.Follows h) (hgh : g.Reordered h)
    (hg : g.Coherent) (seed : Symbol) (hfin : (g.reachable seed).Finite) :
    ∃ c d : Closure,
      (∀ limit, (g.reachable seed).ncard ≤ limit →
        (∀ s, ((p.buildClosure limit never seed).ask s).1 = .ok c) ∧
        ∀ t, ((q.buildClosure limit never seed).ask t).1 = .ok d) ∧
      d.set.toList.Perm c.set.toList ∧ d.stats = c.stats ∧
      ∀ {υ ξ : Type} (source : Program υ ξ) (answer : Symbol → Except IndexError (Option Text)),
        (∀ symbol u, ((source.declarationText symbol).ask u).1 = answer symbol) →
        (∀ u v, ((source.materialize d.set .declaration).ask u).1 =
          ((source.materialize c.set .declaration).ask v).1) ∧
        ((∀ symbol, ∃ text, answer symbol = .ok text) → ∀ u, ∃ m,
          ((source.materialize c.set .declaration).ask u).1 = .ok m) := by
  obtain ⟨f, hf, hr, hcounted, hrun⟩ := hp.exists_counted hfin
  rw [← hgh.reachable] at hfin
  obtain ⟨f', hf', hr', hcounted', hrun'⟩ := hq.exists_counted hfin
  rw [hgh.reachable] at hrun'
  -- from the first step on the two runs have little in common, so only their ends are compared
  have hperm : f'.set.toList.Perm f.set.toList := by
    refine (List.perm_ext_iff_of_nodup hr'.nodup.of_map hr.nodup.of_map).2 fun m => ?_
    rw [hr'.mem_toList hf' (hgh.coherent hg), hr.mem_toList hf hg, hgh.isCaller]
  refine ⟨f.closure, f'.closure, fun limit hlimit => ⟨(hrun limit hlimit).2,
    (hrun' limit hlimit).2⟩, hperm, ?_, fun source answer hsource => ⟨?_, fun hanswer u => ?_⟩⟩
  · show f'.stats = f.stats
    rw [hcounted.stats_eq, hcounted'.stats_eq, hgh.countsOf hperm]
  · exact Program.ask_materialize_of_perm hsource hperm hr'.nodup
  · refine Program.exists_ask_materializeList (fun symbol s => ?_) _ u
    rw [hsource]
    exact hanswer symbol

/-! ### Tabled programs -/

namespace TabledProgram

/-- A table has one symbol for an identity. -/
theorem coherent (t : TabledProgram) : t.callGraph.Coherent := by
  have hsymbol : ∀ m c, t.callGraph.IsCaller m c → t.symbol? c.id = some c := by
    intro m c hc
    obtain ⟨location, -, hcontainer, -⟩ := t.callGraph.mem_callers.1 hc
    obtain ⟨key, -, hkey⟩ := Option.bind_eq_some_iff.1 hcontainer
    have hid : c.id = key := by simpa using List.find?_some hkey
    rwa [hid]
  intro a b c d hc hd hid
  have hcd := hsymbol a c hc
  rw [hid, hsymbol b d hd] at hcd
  exact (Option.some.inj hcd).symm

/-- A method. -/
def used : Symbol := ⟨"f", "f", .method, [.source ⟨"m"⟩ ⟨0, 1⟩ 0]⟩

/-- A place in a library without a source. -/
def inLibrary : ReferenceLocation := ⟨⟨"lib"⟩, ⟨0, 1⟩⟩

/-- A place in a document. -/
def inDocument : ReferenceLocation := ⟨⟨"m"⟩, ⟨3, 4⟩⟩

/-- A method that is used in two others. The list has the places where it is used. -/
def usedAt (places : List ReferenceLocation) : TabledProgram where
  symbols := [used, ⟨"g", "g", .method, [.metadata "lib"]⟩,
    ⟨"h", "h", .method, [.source ⟨"m"⟩ ⟨2, 5⟩ 2]⟩]
  nodes := []
  cover := []
  containers := [(inLibrary, "g"), (inDocument, "h")]
  references := [("f", places)]
  texts := [("f", ['f']), ("h", ['h'])]

theorem reordered_usedAt {xs ys : List ReferenceLocation} (h : ys.Perm xs) :
    (usedAt xs).callGraph.Reordered (usedAt ys).callGraph where
  references id := by
    by_cases hid : "f" = id <;> simp [callGraph, usedAt, find?, hid, h]
  container := rfl

end TabledProgram

open TabledProgram in
theorem closure_and_document_of_reordered_usedAt :
    (usedAt [inLibrary, inDocument]).callGraph.Reordered
        (usedAt [inDocument, inLibrary]).callGraph ∧
      (usedAt [inLibrary, inDocument]).callGraph.Coherent ∧
      ((usedAt [inLibrary, inDocument]).callGraph.reachable used).Finite ∧
      ∃ c d : Closure,
        (∃ limit,
          (((usedAt [inLibrary, inDocument]).program.buildClosure limit never used).ask ()).1 =
            .ok c ∧
          (((usedAt [inDocument, inLibrary]).program.buildClosure limit never used).ask ()).1 =
            .ok d) ∧
        c.set.ids = ["f", "g", "h"] ∧ d.set.ids = ["f", "h", "g"] ∧
        d.set.toList.Perm c.set.toList ∧ d.stats = c.stats ∧
        (((usedAt []).program.materialize d.set .declaration).ask ()).1 =
          (((usedAt []).program.materialize c.set .declaration).ask ()).1 := by
  have hgh := reordered_usedAt (List.Perm.swap inLibrary inDocument [])
  have hg := (usedAt [inLibrary, inDocument]).coherent
  have hfin :=
    CallGraph.finite_reachable (usedAt [inLibrary, inDocument]).finite_mentioned used
  obtain ⟨c, d, hrun, hperm, hstats, hdocument⟩ :=
    closure_and_document_of_reordered _ _ _ _ (follows (σ := Unit) _) (follows (σ := Unit) _)
      hgh hg used hfin
  -- three steps are enough, and more of them lead to the same end
  have hc' : ∃ c, ((usedAt [inLibrary, inDocument]).program.buildClosure 3 never used).ask () =
      (.ok c, ()) ∧ c.set.ids = ["f", "g", "h"] := ⟨_, rfl, rfl⟩
  have hd' : ∃ d, ((usedAt [inDocument, inLibrary]).program.buildClosure 3 never used).ask () =
      (.ok d, ()) ∧ d.set.ids = ["f", "h", "g"] := ⟨_, rfl, rfl⟩
  obtain ⟨c', hc', hcids⟩ := hc'
  obtain ⟨d', hd', hdids⟩ := hd'
  obtain ⟨limit, hreach, hthree⟩ :
      ∃ limit, ((usedAt [inLibrary, inDocument]).callGraph.reachable used).ncard ≤ limit ∧
        3 ≤ limit := ⟨_, Nat.le_add_right _ 3, Nat.le_add_left 3 _⟩
  obtain ⟨hc, hd⟩ := hrun limit hreach
  have hcn := Program.expandAll_of_le _ hthree hc'
  have hdn := Program.expandAll_of_le _ hthree hd'
  obtain rfl : c' = c := Except.ok.inj ((congrArg Prod.fst hcn).symm.trans (hc ()))
  obtain rfl : d' = d := Except.ok.inj ((congrArg Prod.fst hdn).symm.trans (hd ()))
  refine ⟨hgh, hg, hfin, c', d', ⟨_, hc (), hd ()⟩, hcids, hdids, hperm, hstats, ?_⟩
  exact (hdocument (usedAt []).program _ fun _ _ => rfl).1 () ()

end CallerClosure
