import CallerClosure.Proofs.Closure.Callers
import CallerClosure.Proofs.Program.Transcript

/-!
# What a traversal asks and counts

A traversal of a fixed call graph asks where each member is used, in the order in which members
were found, and after each such question what is around the places that it was told.

* `CallGraph.questions` are the questions that expand a member, `CallGraph.countsOf` is what they
  add to the counters;
* `CallGraph.Counted` is the invariant of a run: the counters, and a bound on the members;
* `Program.Follows.asked_expandAll` says what a traversal asks;
* `buildClosure_expands_each_once` is the main statement.
-/

namespace CallerClosure

/-! ### What a visit counts -/

theorem SymbolSet.size_insert_le (s : SymbolSet) (symbol : Symbol) :
    (s.insert symbol).size ≤ s.size + 1 := by
  unfold size
  rw [toList_insert]
  split
  · exact Nat.le_succ _
  · simp

namespace Frontier

/-- A visit counts a place without a method around it. -/
theorem stats_visit (f : Frontier) (container : Option Symbol) :
    (f.visit container).stats =
      { f.stats with
        unresolved := f.stats.unresolved +
          if container.any Symbol.isMethodLike then 0 else 1 } := by
  obtain ⟨hno, hv⟩ | ⟨c, rfl, hm, ⟨-, hv⟩ | ⟨-, hv⟩⟩ := f.visit_cases container
  · simp [hv, hno]
  · simp [hv, hm]
  · simp [hv, hm]

/-- A visit finds one member at most, and none where there is no method. -/
theorem size_visit (f : Frontier) (container : Option Symbol) :
    (f.visit container).set.size ≤
      f.set.size + if container.any Symbol.isMethodLike then 1 else 0 := by
  obtain ⟨hno, hv⟩ | ⟨c, rfl, hm, ⟨-, hv⟩ | ⟨-, hv⟩⟩ := f.visit_cases container
  · simp [hv, hno]
  · simp [hv]
  · simpa [hv, hm] using f.set.size_insert_le c

end Frontier

namespace CallGraph

variable (g : CallGraph)

/-- Whether there is no method around a place. -/
def isLost (location : ReferenceLocation) : Bool :=
  !(g.container location).any Symbol.isMethodLike

theorem stats_visitAll (locations : List ReferenceLocation) (f : Frontier) :
    (g.visitAll locations f).stats =
      { f.stats with unresolved := f.stats.unresolved + locations.countP g.isLost } := by
  induction locations generalizing f with
  | nil => rfl
  | cons location rest ih =>
    rw [visitAll_cons, ih, Frontier.stats_visit, List.countP_cons]
    cases h : (g.container location).any Symbol.isMethodLike with
    | false => simp [isLost, h]; omega
    | true => simp [isLost, h]

theorem size_visitAll (locations : List ReferenceLocation) (f : Frontier) :
    (g.visitAll locations f).set.size + locations.countP g.isLost ≤
      f.set.size + locations.length := by
  induction locations generalizing f with
  | nil => exact Nat.le_refl _
  | cons location rest ih =>
    -- a place has room for a new member or is lost, never both
    have hrest := ih (f.visit (g.container location))
    have hfirst := f.size_visit (g.container location)
    rw [visitAll_cons, List.countP_cons, List.length_cons]
    cases h : (g.container location).any Symbol.isMethodLike <;> simp [isLost, h] at hfirst ⊢ <;>
      omega

/-! ### The invariant of a run -/

/-- What the expansion of members counts. -/
def countsOf (members : List Symbol) : ClosureStats where
  expanded := members.length
  references := (members.map fun m => (g.references m.id).length).sum
  unresolved := (members.flatMap fun m => g.references m.id).countP g.isLost

/-- What is counted of a frontier when the members `done` were expanded. -/
structure Counted (done : List Symbol) (f : Frontier) : Prop where
  stats_eq : f.stats = g.countsOf done
  /-- Each member but the seed was found at a place of its own. -/
  size_le : f.set.size + f.stats.unresolved ≤ 1 + f.stats.references

variable {g} {seed : Symbol} {done : List Symbol} {f : Frontier}

theorem Counted.start (seed : Symbol) : g.Counted [] (.start seed) := ⟨rfl, Nat.le_refl _⟩

/-- Expanding the first member that waits keeps the counters right. -/
theorem Counted.step (h : g.Counted done f) {current : Symbol} {rest : List Symbol}
    (hq : f.queue = current :: rest) : g.Counted (done ++ [current]) (g.step f) := by
  have hstats := g.stats_visitAll (g.references current.id)
    (f.expand rest (g.references current.id).length)
  have hsize := g.size_visitAll (g.references current.id)
    (f.expand rest (g.references current.id).length)
  rw [← g.step_of_queue_cons hq] at hstats hsize
  constructor
  · rw [hstats]
    simp [Frontier.expand, h.stats_eq, countsOf]
  · have hle := h.size_le
    rw [hstats]
    simp only [Frontier.expand] at hsize ⊢
    omega

theorem Counted.run (h : g.Counted done f) (n : Nat) :
    g.Counted (done ++ g.expanded f n) (g.run f n) :=
  g.run_induction (fun h hq => h.step hq) h n

end CallGraph

/-! ### What a traversal asks -/

/-- The symbol that a question expands. -/
def Question.expands? {ν : Type} : Question ν → Option SymbolId
  | findReferences symbol => some symbol.id
  | _ => none

/-- The questions that expand a member. -/
def CallGraph.questions {ν : Type} (g : CallGraph) (m : Symbol) : List (Question ν) :=
  .findReferences m :: (g.references m.id).map .containingDeclaration

/-- The questions about some members expand these and nothing else. -/
theorem CallGraph.filterMap_questions {ν : Type} (g : CallGraph) (members : List Symbol) :
    (members.flatMap (g.questions (ν := ν))).filterMap Question.expands? =
      members.map (·.id) := by
  have hplaces : ∀ locations : List ReferenceLocation,
      (locations.map (Question.containingDeclaration (ν := ν))).filterMap
        Question.expands? = [] := by
    simp [List.filterMap_map, Function.comp_def, Question.expands?]
  have hone : ∀ m, (g.questions (ν := ν) m).filterMap Question.expands? = [m.id] := fun m =>
    congrArg (m.id :: ·) (hplaces (g.references m.id))
  rw [List.filterMap_flatMap, List.map_eq_flatMap]
  simp only [hone]

namespace Program.Follows

open Traversal

variable {σ ν : Type} {p : Program σ ν} {g : CallGraph}

theorem ask_findReferences (h : p.Follows g) (m : Symbol) (t : Transcript σ ν) :
    ∃ u, (checked never ((p.transcribed .none).findReferences m)).ask t =
      (.ok (g.references m.id), ⟨u, t.asked ++ [.findReferences m], t.told⟩) := by
  have hask := Transcript.ask_checked_never (.findReferences m) (p.findReferences m) t
  rw [h.references m t.inner] at hask
  exact ⟨_, hask⟩

theorem ask_containingDeclaration (h : p.Follows g) {location : ReferenceLocation}
    {id : SymbolId} (hl : location ∈ g.references id) (t : Transcript σ ν) :
    ∃ u, (checked never ((p.transcribed .none).containingDeclaration location)).ask t =
      (.ok (g.container location),
        ⟨u, t.asked ++ [.containingDeclaration location], t.told⟩) := by
  have hask := Transcript.ask_checked_never (.containingDeclaration location)
    (p.containingDeclaration location) t
  rw [h.container id location hl t.inner] at hask
  exact ⟨_, hask⟩

theorem asked_visitAll (h : p.Follows g) {locations : List ReferenceLocation}
    (hl : ∀ location ∈ locations, ∃ id, location ∈ g.references id) (f : Frontier)
    (t : Transcript σ ν) :
    ∃ u, ((p.transcribed .none).visitAll never locations f).ask t =
      (.ok (g.visitAll locations f),
        ⟨u, t.asked ++ locations.map .containingDeclaration, t.told⟩) := by
  induction locations generalizing f t with
  | nil => exact ⟨t.inner, by simp [Program.visitAll]⟩
  | cons location rest ih =>
    obtain ⟨id, hid⟩ := hl location List.mem_cons_self
    obtain ⟨u, hu⟩ := h.ask_containingDeclaration hid t
    obtain ⟨v, hv⟩ := ih (fun l hm => hl l (List.mem_cons_of_mem _ hm))
      (f.visit (g.container location))
      ⟨u, t.asked ++ [.containingDeclaration location], t.told⟩
    refine ⟨v, ?_⟩
    rw [Program.visitAll_cons, ask_bind_of_ok hu, hv]
    simp

/-- **What a traversal asks.** For each member that a run expands, the questions that expand
it. -/
theorem asked_expandAll (h : p.Follows g) (limit : Nat) (f : Frontier) (t : Transcript σ ν) :
    (((p.transcribed .none).expandAll never limit f).ask t).2.asked =
      t.asked ++ (g.expanded f limit).flatMap g.questions := by
  induction limit generalizing f t with
  | zero =>
    cases hq : f.queue with
    | nil => simp [(p.transcribed .none).expandAll_of_queue_nil never hq]
    | cons current rest => simp [(p.transcribed .none).expandAll_zero never hq]
  | succ limit ih =>
    cases hq : f.queue with
    | nil =>
      simp [(p.transcribed .none).expandAll_of_queue_nil never hq, g.expanded_of_queue_nil hq]
    | cons current rest =>
      obtain ⟨u, hu⟩ := h.ask_findReferences current t
      obtain ⟨v, hv⟩ := h.asked_visitAll (fun l hl => ⟨current.id, hl⟩)
        (f.expand rest (g.references current.id).length)
        ⟨u, t.asked ++ [.findReferences current], t.told⟩
      rw [Program.expandAll_of_queue_cons _ _ hq, ask_bind_of_ok hu, ask_bind_of_ok hv,
        ← g.step_of_queue_cons hq, ih, g.expanded_of_queue_cons hq]
      simp [CallGraph.questions]

theorem ask_buildClosure_transcribed (h : p.Follows g) (limit : Nat) (seed : Symbol) (s : σ) :
    ((p.transcribed .none).buildClosure limit never seed).ask (.start s) =
      (((p.buildClosure limit never seed).ask s).1,
        ⟨((p.buildClosure limit never seed).ask s).2,
          (g.expanded (.start seed) limit).flatMap g.questions, .empty⟩) := by
  obtain ⟨asked, -, htranscribed⟩ :=
    (Transcript.keeps_buildClosure p never limit seed).of_start s
  have hasked := h.asked_expandAll limit (.start seed) (.start s)
  obtain rfl : asked = (g.expanded (.start seed) limit).flatMap g.questions := by
    rw [← Program.buildClosure] at hasked
    exact (congrArg (·.2.asked) htranscribed).symm.trans hasked
  exact htranscribed

/-- With as many steps as there are symbols to reach, a traversal expands its members and
nothing else, and its counters are right. More steps change nothing. -/
theorem exists_counted (hp : p.Follows g) {seed : Symbol} (hfin : (g.reachable seed).Finite) :
    ∃ f : Frontier, f.queue = [] ∧ g.Reached seed f.set.toList f ∧
      g.Counted f.set.toList f ∧
      ∀ limit, (g.reachable seed).ncard ≤ limit →
        g.expanded (.start seed) limit = f.set.toList ∧
        ∀ s, ((p.buildClosure limit never seed).ask s).1 = .ok f.closure := by
  have hS := g.closed_reachable seed
  have hrun : ∀ limit, (g.reachable seed).ncard ≤ limit →
      (g.run (.start seed) limit).queue = [] ∧
      g.Reached seed (g.expanded (.start seed) limit) (g.run (.start seed) limit) :=
    fun limit hlimit => CallGraph.exists_reached hS hfin hlimit
  obtain ⟨hq, hr⟩ := hrun _ le_rfl
  have hcounted := (CallGraph.Counted.start (g := g) seed).run (g.reachable seed).ncard
  -- nothing waits any more, so the members that were expanded are all members
  have hdone := hr.toList_eq hq
  rw [List.nil_append, ← hdone] at hcounted
  rw [← hdone] at hr
  refine ⟨_, hq, hr, hcounted, fun limit hlimit => ?_⟩
  rw [← g.run_eq_of_le hq hlimit]
  obtain ⟨hq, hr⟩ := hrun limit hlimit
  refine ⟨(hr.toList_eq hq).symm, fun s => ?_⟩
  rw [Program.buildClosure, hp.ask_expandAll, if_pos hq]

end Program.Follows

/-- **A traversal expands each member once.** For each member, in the order in which members
were found, it asks where the member is used and then what is around each of these places; it
asks nothing else. So the counters say how many members there are, at how many places they are
used, and at how many of these there is no method. -/
theorem buildClosure_expands_each_once {σ ν : Type} (p : Program σ ν) (g : CallGraph)
    (hp : p.Follows g) (seed : Symbol) (hfin : (g.reachable seed).Finite) :
    ∃ c : Closure,
      (∀ limit, (g.reachable seed).ncard ≤ limit → ∀ s, ∃ u,
        (p.buildClosure limit never seed).ask s = (.ok c, u) ∧
        ((p.transcribed .none).buildClosure limit never seed).ask (.start s) =
          (.ok c, ⟨u, c.set.toList.flatMap g.questions, .empty⟩)) ∧
      (c.set.toList.flatMap (g.questions (ν := ν))).filterMap Question.expands? = c.set.ids ∧
      c.set.ids.Nodup ∧
      c.stats.expanded = c.set.size ∧
      c.stats.references = (c.set.toList.map fun m => (g.references m.id).length).sum ∧
      c.stats.unresolved = (c.set.toList.flatMap fun m => g.references m.id).countP g.isLost ∧
      c.set.size ≤ 1 + c.stats.references - c.stats.unresolved := by
  obtain ⟨f, -, hr, hcounted, hrun⟩ := hp.exists_counted hfin
  have hstats : f.stats = g.countsOf f.set.toList := hcounted.stats_eq
  refine ⟨f.closure, fun limit hlimit s => ?_, g.filterMap_questions f.set.toList, hr.nodup,
    congrArg ClosureStats.expanded hstats, congrArg ClosureStats.references hstats,
    congrArg ClosureStats.unresolved hstats, Nat.le_sub_of_add_le hcounted.size_le⟩
  obtain ⟨hexpanded, hclosure⟩ := hrun limit hlimit
  refine ⟨_, Prod.ext (hclosure s) rfl, ?_⟩
  rw [hp.ask_buildClosure_transcribed, hexpanded, hclosure]
  rfl

/-- Two methods that are used at six places, two of which have no method around them. -/
example : ((TabledProgram.mutualCalls.program.buildClosure 2 never
    ⟨"ping", "ping", .method, []⟩).ask ()).1.map (·.stats) = .ok ⟨2, 6, 2⟩ := by
  decide

theorem buildClosure_expands_each_once_mutualCalls :
    (TabledProgram.mutualCalls.program : Program Unit Nat).Follows
        TabledProgram.mutualCalls.callGraph ∧
      (TabledProgram.mutualCalls.callGraph.reachable ⟨"ping", "ping", .method, []⟩).Finite ∧
      ∃ c : Closure,
        (∃ limit u, ((TabledProgram.mutualCalls.program.transcribed .none).buildClosure limit
            never ⟨"ping", "ping", .method, []⟩).ask (.start ()) =
          (.ok c, ⟨u, c.set.toList.flatMap TabledProgram.mutualCalls.callGraph.questions,
            .empty⟩)) ∧
        c.set.ids.Nodup ∧ c.stats.expanded = c.set.size ∧
        c.set.size ≤ 1 + c.stats.references - c.stats.unresolved := by
  have hp := TabledProgram.mutualCalls.follows (σ := Unit)
  have hfin := CallGraph.finite_reachable TabledProgram.mutualCalls.finite_mentioned
    ⟨"ping", "ping", .method, []⟩
  obtain ⟨c, hc, -, hnodup, hexpanded, -, -, hsize⟩ :=
    buildClosure_expands_each_once _ _ hp ⟨"ping", "ping", .method, []⟩ hfin
  obtain ⟨u, -, hasked⟩ := hc _ le_rfl ()
  exact ⟨hp, hfin, c, ⟨_, u, hasked⟩, hnodup, hexpanded, hsize⟩

end CallerClosure
