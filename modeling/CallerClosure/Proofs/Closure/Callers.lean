import CallerClosure.Program.Tabled
import CallerClosure.Proofs.Closure.CallGraph
import CallerClosure.Proofs.Symbol.Gathering
import Mathlib.Data.Set.Card
import Mathlib.Order.Bounds.Defs

/-!
# The closure is the least set of callers

A frontier of a fixed call graph is at every moment split in two: the members that were
expanded, whose callers are all there, and the members that wait, in the order of the queue.

* `Frontier.Extends` says what visiting references adds to a frontier;
* `CallGraph.Reached` is the invariant of a run, `Reached.step` its preservation;
* `buildClosure_isLeast` is the main statement: the traversal ends, and its members are the
  least set with the seed and all method-like callers of its members.
-/

namespace CallerClosure

/-! ### What a visit adds -/

namespace Frontier

variable {f f' f'' : Frontier}

/-- The second frontier is the first one after some callers were found. The new members are
the end of the queue and of the set alike. -/
structure Extends (f f' : Frontier) (callers : List Symbol) : Prop where
  grown : ∃ new, f'.queue = f.queue ++ new ∧ f'.set.toList = f.set.toList ++ new ∧
    ∀ m ∈ new, m ∈ callers
  found : ∀ c ∈ callers, c.id ∈ f'.set.ids
  nodup : f.set.ids.Nodup → f'.set.ids.Nodup
  seed : f'.set.seed = f.set.seed

theorem Extends.refl (f : Frontier) : f.Extends f [] :=
  ⟨⟨[], by simp⟩, by simp, fun h => h, rfl⟩

theorem Extends.mem_ids {callers : List Symbol} (h : f.Extends f' callers) {id : SymbolId}
    (hid : id ∈ f.set.ids) : id ∈ f'.set.ids := by
  obtain ⟨new, -, hset, -⟩ := h.grown
  obtain ⟨m, hm, rfl⟩ := SymbolSet.mem_ids.1 hid
  exact SymbolSet.mem_ids.2 ⟨m, by rw [hset]; exact List.mem_append_left _ hm, rfl⟩

theorem Extends.trans {xs ys : List Symbol} (h : f.Extends f' xs) (h' : f'.Extends f'' ys) :
    f.Extends f'' (xs ++ ys) where
  grown := by
    obtain ⟨new, hq, hs, hn⟩ := h.grown
    obtain ⟨new', hq', hs', hn'⟩ := h'.grown
    refine ⟨new ++ new', by rw [hq', hq, List.append_assoc],
      by rw [hs', hs, List.append_assoc], fun m hm => ?_⟩
    rcases List.mem_append.1 hm with hm | hm
    · exact List.mem_append_left _ (hn m hm)
    · exact List.mem_append_right _ (hn' m hm)
  found c hc := by
    rcases List.mem_append.1 hc with hc | hc
    · exact h'.mem_ids (h.found c hc)
    · exact h'.found c hc
  nodup hd := h'.nodup (h.nodup hd)
  seed := h'.seed.trans h.seed

/-- A visit finds the declaration around a reference, if it is a method. -/
theorem extends_visit (f : Frontier) (container : Option Symbol) :
    f.Extends (f.visit container) (container.toList.filter Symbol.isMethodLike) := by
  obtain ⟨hno, hv⟩ | ⟨c, rfl, hm, ⟨hid, hv⟩ | ⟨hid, hv⟩⟩ := f.visit_cases container
  · have hnone : container.toList.filter Symbol.isMethodLike = [] := by
      cases container with
      | none => rfl
      | some c => simpa using hno
    rw [hv, hnone]
    exact ⟨⟨[], by simp⟩, by simp, fun h => h, rfl⟩
  · rw [hv]
    exact ⟨⟨[], by simp⟩, by simpa [hm] using hid, fun h => h, rfl⟩
  · rw [hv]
    exact ⟨⟨[c], rfl, SymbolSet.toList_insert_of_notMem hid, by simp [hm]⟩,
      by simp [SymbolSet.ids_insert_of_notMem hid, hm],
      fun hd => SymbolSet.nodup_ids_insert hd c, SymbolSet.seed_insert _ _⟩

end Frontier

namespace CallGraph

variable (g : CallGraph)

/-- The methods around places. -/
def methodsAround (locations : List ReferenceLocation) : List Symbol :=
  locations.flatMap fun location => (g.container location).toList.filter Symbol.isMethodLike

/-- The methods that use a symbol. -/
def callers (id : SymbolId) : List Symbol := g.methodsAround (g.references id)

theorem mem_callers {id : SymbolId} {c : Symbol} :
    c ∈ g.callers id ↔
      ∃ location ∈ g.references id, g.container location = some c ∧ c.isMethodLike = true := by
  simp [callers, methodsAround]

theorem extends_visitAll (locations : List ReferenceLocation) (f : Frontier) :
    f.Extends (g.visitAll locations f) (g.methodsAround locations) := by
  induction locations generalizing f with
  | nil => exact .refl f
  | cons location rest ih => exact (f.extends_visit (g.container location)).trans (ih _)

/-! ### The invariant of a run -/

/-- A set of identities with the seed and every method-like caller of its members. -/
structure Closed (seed : SymbolId) (S : Set SymbolId) : Prop where
  seed_mem : seed ∈ S
  caller_mem : ∀ m ∈ S, ∀ location ∈ g.references m, ∀ c, g.container location = some c →
    c.isMethodLike = true → c.id ∈ S

/-- The second symbol is a method that uses the first one. -/
def IsCaller (m c : Symbol) : Prop := c ∈ g.callers m.id

/-- The identities of the declarations around references. -/
def mentioned : Set SymbolId :=
  {id | ∃ m, ∃ location ∈ g.references m, ∃ c, g.container location = some c ∧ c.id = id}

/-- The identities of the symbols to which chains of callers lead. -/
def reachable (seed : Symbol) : Set SymbolId :=
  {id | ∃ m, Relation.ReflTransGen g.IsCaller seed m ∧ m.id = id}

theorem closed_reachable (seed : Symbol) : g.Closed seed.id (g.reachable seed) where
  seed_mem := ⟨seed, .refl, rfl⟩
  caller_mem := by
    rintro _ ⟨m, hm, rfl⟩ location hl c hc hk
    exact ⟨c, hm.tail (g.mem_callers.2 ⟨location, hl, hc, hk⟩), rfl⟩

theorem closed_insert_mentioned (seed : SymbolId) :
    g.Closed seed (insert seed g.mentioned) where
  seed_mem := Set.mem_insert _ _
  caller_mem m _ location hl c hc _ := Set.mem_insert_of_mem _ ⟨m, location, hl, c, hc, rfl⟩

/-- What holds of a frontier when the members `done` were expanded. -/
structure Reached (seed : Symbol) (done : List Symbol) (f : Frontier) : Prop where
  /-- The members are those that were expanded, then those that wait. -/
  members : f.set.toList = done ++ f.queue
  seed_eq : f.set.seed = seed
  nodup : f.set.ids.Nodup
  /-- From the seed a chain of callers leads to every member. -/
  chained : ∀ m ∈ f.set.toList, Relation.ReflTransGen g.IsCaller seed m
  /-- Nothing is missing around the members that were expanded. -/
  closed : ∀ m ∈ done, ∀ c ∈ g.callers m.id, c.id ∈ f.set.ids

variable {g} {seed : Symbol} {done : List Symbol} {f : Frontier}

theorem Reached.start (seed : Symbol) : g.Reached seed [] (.start seed) where
  members := rfl
  seed_eq := rfl
  nodup := List.nodup_singleton _
  chained m hm := by
    obtain rfl : m = seed := by simpa [Frontier.start] using hm
    exact .refl
  closed m hm := by simp at hm

/-- Expanding the first member that waits keeps the invariant. -/
theorem Reached.step (h : g.Reached seed done f) {current : Symbol} {rest : List Symbol}
    (hq : f.queue = current :: rest) : g.Reached seed (done ++ [current]) (g.step f) := by
  rw [g.step_of_queue_cons hq]
  have hx := g.extends_visitAll (g.references current.id)
    (f.expand rest (g.references current.id).length)
  obtain ⟨new, hqueue, hset, hnew⟩ := hx.grown
  have hcurrent : current ∈ f.set.toList := by
    rw [h.members, hq]
    exact List.mem_append_right _ List.mem_cons_self
  refine ⟨?_, hx.seed.trans h.seed_eq, hx.nodup h.nodup, fun m hm => ?_, fun m hm c hc => ?_⟩
  · rw [hset, hqueue]
    show f.set.toList ++ new = done ++ [current] ++ (rest ++ new)
    rw [h.members, hq]
    simp
  · -- what is new are callers of `current`, so the chain to it goes on to them
    rw [hset] at hm
    rcases List.mem_append.1 hm with hm | hm
    · exact h.chained m hm
    · exact (h.chained current hcurrent).tail (hnew m hm)
  · rcases List.mem_append.1 hm with hm | hm
    · exact hx.mem_ids (h.closed m hm c hc)
    · obtain rfl := List.mem_singleton.1 hm
      exact hx.found c hc

theorem Reached.run (h : g.Reached seed done f) (n : Nat) :
    g.Reached seed (done ++ g.expanded f n) (g.run f n) :=
  g.run_induction (fun h hq => h.step hq) h n

/-- A closed set has everything that a chain of callers leads to. -/
theorem Closed.mem_of_chain {S : Set SymbolId} (hS : g.Closed seed.id S) {m : Symbol}
    (hm : Relation.ReflTransGen g.IsCaller seed m) : m.id ∈ S := by
  induction hm with
  | refl => exact hS.seed_mem
  | tail _ hc ih =>
    obtain ⟨location, hl, hcontainer, hk⟩ := g.mem_callers.1 hc
    exact hS.caller_mem _ ih location hl _ hcontainer hk

/-- When few symbols are mentioned at all, few can be reached. -/
theorem finite_reachable (h : g.mentioned.Finite) (seed : Symbol) :
    (g.reachable seed).Finite := by
  refine (h.insert seed.id).subset ?_
  rintro _ ⟨m, hm, rfl⟩
  exact (g.closed_insert_mentioned seed.id).mem_of_chain hm

/-- Nothing is a member that need not be. -/
theorem Reached.least (h : g.Reached seed done f) {S : Set SymbolId} (hS : g.Closed seed.id S) :
    ∀ id ∈ f.set.ids, id ∈ S := by
  intro id hid
  obtain ⟨m, hm, rfl⟩ := SymbolSet.mem_ids.1 hid
  exact hS.mem_of_chain (h.chained m hm)

/-- A closed finite set leaves no room for more members than it has. -/
theorem Reached.size_le (h : g.Reached seed done f) {S : Set SymbolId} (hS : g.Closed seed.id S)
    (hfin : S.Finite) : f.set.size ≤ S.ncard := by
  have hsub : ↑f.set.ids.toFinset ⊆ S := fun id hid => h.least hS id (by simpa using hid)
  calc f.set.size = f.set.ids.length := by simp [SymbolSet.size, SymbolSet.ids]
    _ = f.set.ids.toFinset.card := (List.toFinset_card_of_nodup h.nodup).symm
    _ = (↑f.set.ids.toFinset : Set SymbolId).ncard := (Set.ncard_coe_finset _).symm
    _ ≤ S.ncard := Set.ncard_le_ncard hsub hfin

/-- **Runs end.** As many steps as a closed set has members leave nothing waiting. -/
theorem exists_reached {S : Set SymbolId} (hS : g.Closed seed.id S) (hfin : S.Finite) {n : Nat}
    (hn : S.ncard ≤ n) :
    (g.run (.start seed) n).queue = [] ∧
      g.Reached seed (g.expanded (.start seed) n) (g.run (.start seed) n) := by
  have hr := (Reached.start (g := g) seed).run n
  rw [List.nil_append] at hr
  refine ⟨?_, hr⟩
  rcases g.queue_run (.start seed) n with hq | hl
  · exact hq
  · have hsize := hr.size_le hS hfin
    rw [SymbolSet.size, hr.members, List.length_append, hl] at hsize
    exact List.length_eq_zero_iff.1 (by omega)

/-- When nothing waits, the members are those that were expanded. -/
theorem Reached.toList_eq (h : g.Reached seed done f) (hq : f.queue = []) :
    f.set.toList = done := by
  rw [h.members, hq, List.append_nil]

/-- When nothing waits, the members are the least closed set. -/
theorem Reached.isLeast (h : g.Reached seed done f) (hq : f.queue = []) :
    IsLeast {S | g.Closed seed.id S} {id | id ∈ f.set.ids} := by
  refine ⟨⟨?_, fun m hm location hl c hc hk => ?_⟩, fun S hS => h.least hS⟩
  · exact SymbolSet.mem_ids.2 ⟨seed, by rw [← h.seed_eq]; exact List.mem_cons_self, rfl⟩
  · obtain ⟨x, hx, rfl⟩ := SymbolSet.mem_ids.1 hm
    rw [h.toList_eq hq] at hx
    exact h.closed x hx c (g.mem_callers.2 ⟨location, hl, hc, hk⟩)

end CallGraph

/-- With as many steps as a closed set has members, a traversal that is never cancelled gives
what a run of its graph reaches in the end. -/
theorem Program.Follows.exists_reached {σ ν : Type} {p : Program σ ν} {g : CallGraph}
    (hp : p.Follows g) {seed : Symbol} {S : Set SymbolId} (hS : g.Closed seed.id S)
    (hfin : S.Finite) :
    ∃ done f, g.Reached seed done f ∧ f.queue = [] ∧
      ∀ limit, S.ncard ≤ limit → ∀ s,
        ((p.buildClosure limit never seed).ask s).1 = .ok f.closure := by
  obtain ⟨hq, hr⟩ := CallGraph.exists_reached hS hfin le_rfl
  refine ⟨_, _, hr, hq, fun limit hlimit s => ?_⟩
  rw [Program.buildClosure, hp.ask_expandAll, g.run_eq_of_le hq hlimit, if_pos hq]

/-- **The closure is the least set with the seed and all callers of its members.** The graph
may have cycles, places used twice, places without a declaration around them and places in
declarations that are no methods; as long as it mentions finitely many symbols, the traversal
ends. -/
theorem buildClosure_isLeast {σ ν : Type} (p : Program σ ν) (g : CallGraph) (hp : p.Follows g)
    (hfin : g.mentioned.Finite) (seed : Symbol) :
    ∃ c : Closure,
      (∀ limit, (insert seed.id g.mentioned).ncard ≤ limit → ∀ s,
        ((p.buildClosure limit never seed).ask s).1 = .ok c) ∧
      c.set.seed = seed ∧ c.set.ids.Nodup ∧
      IsLeast {S | g.Closed seed.id S} {id | id ∈ c.set.ids} := by
  have hS := g.closed_insert_mentioned seed.id
  obtain ⟨done, f, hr, hq, hrun⟩ := hp.exists_reached hS (hfin.insert _)
  exact ⟨f.closure, hrun, hr.seed_eq, hr.nodup, hr.isLeast hq⟩

/-! ### Tabled programs -/

namespace TabledProgram

/-- The call graph of a tabled program. -/
def callGraph (t : TabledProgram) : CallGraph where
  references id := (find? t.references id).getD []
  container location := (find? t.containers location).bind t.symbol?

theorem follows {σ : Type} (t : TabledProgram) :
    (t.program : Program σ Nat).Follows t.callGraph :=
  ⟨fun _ _ => rfl, fun _ _ _ _ => rfl⟩

/-- A table has finitely many symbols to mention. -/
theorem finite_mentioned (t : TabledProgram) : t.callGraph.mentioned.Finite := by
  refine (t.symbols.map (·.id)).toFinset.finite_toSet.subset ?_
  rintro id ⟨m, location, -, c, hc, rfl⟩
  obtain ⟨key, -, hkey⟩ := Option.bind_eq_some_iff.1 hc
  simpa using ⟨c, List.mem_of_find?_eq_some hkey, rfl⟩

/-- Two methods that call each other, one of them also itself and twice on one line. Besides
it is used in a class body and in a place with nothing around it. -/
def mutualCalls : TabledProgram :=
  let inFile (a b : Nat) : ReferenceLocation := ⟨⟨"m.py"⟩, ⟨a, b⟩⟩
  { symbols := [⟨"ping", "ping", .method, []⟩, ⟨"pong", "pong", .function, []⟩,
      ⟨"Table", "Table", .«class», []⟩]
    nodes := []
    cover := []
    containers := [(inFile 1 2, "pong"), (inFile 3 4, "ping"), (inFile 5 6, "Table"),
      (inFile 9 10, "ping")]
    references := [("ping", [inFile 1 2, inFile 1 2, inFile 3 4, inFile 5 6, inFile 7 8]),
      ("pong", [inFile 9 10])]
    texts := [] }

end TabledProgram

theorem buildClosure_isLeast_mutualCalls :
    (TabledProgram.mutualCalls.program : Program Unit Nat).Follows
        TabledProgram.mutualCalls.callGraph ∧
      TabledProgram.mutualCalls.callGraph.mentioned.Finite ∧
      ∃ c : Closure,
        (∃ limit, ((TabledProgram.mutualCalls.program.buildClosure limit never
          ⟨"ping", "ping", .method, []⟩).ask ()).1 = .ok c) ∧
        IsLeast {S | TabledProgram.mutualCalls.callGraph.Closed "ping" S}
          {id | id ∈ c.set.ids} := by
  have hp := TabledProgram.mutualCalls.follows (σ := Unit)
  have hfin := TabledProgram.mutualCalls.finite_mentioned
  obtain ⟨c, hc, -, -, hleast⟩ :=
    buildClosure_isLeast _ _ hp hfin ⟨"ping", "ping", .method, []⟩
  exact ⟨hp, hfin, c, ⟨_, hc _ le_rfl ()⟩, hleast⟩

end CallerClosure
