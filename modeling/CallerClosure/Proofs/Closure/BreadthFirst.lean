import CallerClosure.Least
import CallerClosure.Proofs.Closure.Callers
import Mathlib.Data.List.Pairwise
import Mathlib.Data.Prod.Lex
import Mathlib.Order.Lattice.Nat

/-!
# Members are found breadth first

A traversal expands members in the order in which it found them, and visits the references of
each in the order in which they were listed. So a visit has a date: the position of the member
that is expanded, then the position of the reference. Dates are compared lexicographically.

* `CallGraph.distance` is the least number of callers on a chain from the seed;
* `CallGraph.sightings` are the dates at which a traversal comes upon an identity;
* `CallGraph.Dated` is the invariant of a run: members were found at their first sighting, one
  after the other;
* `buildClosure_breadthFirst` is the main statement: the members are in the order of their first
  sightings, and so in the order of their distances.
-/

namespace CallerClosure

/-- A visit adds one member at the end of a set, or it comes upon nothing new. -/
theorem Frontier.set_visit (f : Frontier) (container : Option Symbol) :
    ((f.visit container).set = f.set ∧
        ∀ c, container = some c → c.isMethodLike = true → c.id ∈ f.set.ids) ∨
      ∃ c, container = some c ∧ c.isMethodLike = true ∧ c.id ∉ f.set.ids ∧
        (f.visit container).set = ⟨f.set.seed, f.set.found ++ [c]⟩ := by
  obtain ⟨hno, hv⟩ | ⟨c, rfl, hm, ⟨hid, hv⟩ | ⟨hid, hv⟩⟩ := f.visit_cases container
  · refine .inl ⟨by rw [hv], ?_⟩
    rintro c rfl hm
    exact absurd hm (by simpa using hno)
  · refine .inl ⟨by rw [hv], ?_⟩
    rintro _ ⟨⟩ -
    exact hid
  · have hnew := mt SymbolSet.contains_eq_true_iff.1 hid
    exact .inr ⟨c, rfl, hm, hid, by rw [hv, SymbolSet.insert, if_neg hnew]⟩

namespace CallGraph

variable (g : CallGraph)

/-! ### Distances -/

/-- A chain of `n` callers leads from the seed to an identity. -/
inductive Leads (g : CallGraph) (seed : SymbolId) : Nat → SymbolId → Prop
  | start : Leads g seed 0 seed
  | next {n : Nat} {id : SymbolId} {c : Symbol} :
    Leads g seed n id → c ∈ g.callers id → Leads g seed (n + 1) c.id

/-- The least number of callers on a chain from the seed to an identity. -/
noncomputable def distance (seed id : SymbolId) : Nat := sInf {n | g.Leads seed n id}

theorem exists_leads {seed m : Symbol} (h : Relation.ReflTransGen g.IsCaller seed m) :
    ∃ n, g.Leads seed.id n m.id := by
  induction h with
  | refl => exact ⟨0, .start⟩
  | tail _ hc ih =>
    obtain ⟨n, hn⟩ := ih
    exact ⟨n + 1, hn.next hc⟩

theorem isLeast_distance {seed id : SymbolId} (h : ∃ n, g.Leads seed n id) :
    IsLeast {n | g.Leads seed n id} (g.distance seed id) :=
  ⟨Nat.sInf_mem h, fun _ hn => Nat.sInf_le hn⟩

/-! ### Dates of visits -/

/-- The dates at which a traversal that expands members in this order comes upon an
identity. -/
def sightings (members : List SymbolId) (id : SymbolId) : Set (ℕ ×ₗ ℕ) :=
  {date | ∃ m location c, members[(ofLex date).1]? = some m ∧
    (g.references m)[(ofLex date).2]? = some location ∧ g.container location = some c ∧
    c.isMethodLike = true ∧ c.id = id}

/-- A visit to a reference, with its date. -/
abbrev Visit := (ℕ ×ₗ ℕ) × ReferenceLocation

/-- The visits to the references of a member at a position. -/
def visitsOf (member : SymbolId) (position : Nat) : List Visit :=
  (g.references member).zipIdx.map fun r => (toLex (position, r.2), r.1)

/-- The visits of a traversal that expands members in this order. -/
def visits (members : List SymbolId) : List Visit :=
  members.zipIdx.flatMap fun m => g.visitsOf m.1 m.2

theorem mem_visitsOf {member : SymbolId} {position : Nat} {date : ℕ ×ₗ ℕ}
    {location : ReferenceLocation} :
    (date, location) ∈ g.visitsOf member position ↔
      (ofLex date).1 = position ∧ (g.references member)[(ofLex date).2]? = some location := by
  rw [visitsOf, List.mem_map]
  constructor
  · rintro ⟨⟨l, j⟩, hl, he⟩
    obtain ⟨rfl, rfl⟩ := Prod.mk.inj he
    exact ⟨rfl, List.mem_zipIdx_iff_getElem?.1 hl⟩
  · rintro ⟨rfl, hl⟩
    exact ⟨(location, (ofLex date).2), List.mem_zipIdx_iff_getElem?.2 hl, rfl⟩

theorem mem_visits {members : List SymbolId} {date : ℕ ×ₗ ℕ} {location : ReferenceLocation} :
    (date, location) ∈ g.visits members ↔
      ∃ m, members[(ofLex date).1]? = some m ∧
        (g.references m)[(ofLex date).2]? = some location := by
  rw [visits, List.mem_flatMap]
  constructor
  · rintro ⟨⟨m, i⟩, hm, hv⟩
    obtain ⟨rfl, hl⟩ := g.mem_visitsOf.1 hv
    exact ⟨m, List.mem_zipIdx_iff_getElem?.1 hm, hl⟩
  · rintro ⟨m, hm, hl⟩
    exact ⟨(m, (ofLex date).1), List.mem_zipIdx_iff_getElem?.2 hm, g.mem_visitsOf.2 ⟨rfl, hl⟩⟩

theorem visits_append_singleton (members : List SymbolId) (m : SymbolId) :
    g.visits (members ++ [m]) = g.visits members ++ g.visitsOf m members.length := by
  simp [visits, List.zipIdx_append]

theorem map_snd_visitsOf (member : SymbolId) (position : Nat) :
    (g.visitsOf member position).map (·.2) = g.references member := by
  simp [visitsOf, Function.comp_def]

/-- Visits follow each other in the order of their dates. -/
theorem pairwise_visits (members : List SymbolId) : (g.visits members).Pairwise (·.1 < ·.1) := by
  refine List.pairwise_flatMap.2 ⟨fun m _ => ?_, (pairwise_zipIdx members).imp ?_⟩
  · refine List.pairwise_map.2 ((pairwise_zipIdx _).imp fun h => ?_)
    exact Prod.Lex.toLex_lt_toLex.2 (.inr ⟨rfl, h⟩)
  · rintro ⟨m, i⟩ ⟨m', i'⟩ hi ⟨date, l⟩ hv ⟨date', l'⟩ hv'
    obtain ⟨rfl, -⟩ := g.mem_visitsOf.1 hv
    obtain ⟨rfl, -⟩ := g.mem_visitsOf.1 hv'
    exact Prod.Lex.lt_iff.2 (.inl hi)

/-! ### The invariant of a run -/

/-- The dates at which visits come upon an identity. -/
def datesIn (vs : List Visit) (id : SymbolId) : Set (ℕ ×ₗ ℕ) :=
  {date | ∃ location c, (date, location) ∈ vs ∧ g.container location = some c ∧
    c.isMethodLike = true ∧ c.id = id}

theorem datesIn_visits (members : List SymbolId) (id : SymbolId) :
    g.datesIn (g.visits members) id = g.sightings members id := by
  ext date
  simp only [datesIn, sightings, mem_visits, Set.mem_ofPred_eq]
  constructor
  · rintro ⟨location, c, ⟨m, hm, hl⟩, hc⟩
    exact ⟨m, location, c, hm, hl, hc⟩
  · rintro ⟨m, location, c, hm, hl, hc⟩
    exact ⟨location, c, ⟨m, hm, hl⟩, hc⟩

/-- What holds of a frontier after some visits. -/
structure Dated (vs : List Visit) (f : Frontier) : Prop where
  /-- What visits came upon are members. -/
  mem_ids : ∀ id date, date ∈ g.datesIn vs id → id ∈ f.set.ids
  /-- Every member but the seed was come upon. -/
  first : ∀ m ∈ f.set.found, ∃ date, IsLeast (g.datesIn vs m.id) date
  /-- The members are in the order in which visits first came upon them. -/
  ordered : f.set.found.Pairwise fun a b => ∀ date date',
    IsLeast (g.datesIn vs a.id) date → IsLeast (g.datesIn vs b.id) date' → date < date'

variable {g} {seed : Symbol} {vs : List Visit} {f : Frontier}

theorem mem_datesIn_append {ws : List Visit} {id : SymbolId} {date : ℕ ×ₗ ℕ} :
    date ∈ g.datesIn (vs ++ ws) id ↔ date ∈ g.datesIn vs id ∨ date ∈ g.datesIn ws id := by
  simp only [datesIn, List.mem_append, Set.mem_ofPred_eq, or_and_right, exists_or]

/-- Later visits do not change when an identity was first come upon. -/
theorem isLeast_datesIn_append {ws : List Visit} (hlater : ∀ v ∈ vs, ∀ w ∈ ws, v.1 < w.1)
    {id : SymbolId} {date : ℕ ×ₗ ℕ} (h : IsLeast (g.datesIn vs id) date) :
    IsLeast (g.datesIn (vs ++ ws) id) date := by
  obtain ⟨⟨location, c, hv, hc⟩, hleast⟩ := h
  refine ⟨mem_datesIn_append.2 (.inl ⟨location, c, hv, hc⟩), fun date' hdate' => ?_⟩
  rcases mem_datesIn_append.1 hdate' with hold | ⟨location', -, hw, -⟩
  · exact hleast hold
  · exact (hlater _ hv _ hw).le

theorem Dated.start (seed : Symbol) : g.Dated [] (.start seed) where
  mem_ids id date h := by
    obtain ⟨_, _, h, -⟩ := h
    cases h
  first m hm := by cases hm
  ordered := .nil

/-- A visit after all others keeps the order. -/
theorem Dated.visit (h : g.Dated vs f) (date : ℕ ×ₗ ℕ) (location : ReferenceLocation)
    (hlater : ∀ v ∈ vs, v.1 < date) :
    g.Dated (vs ++ [(date, location)]) (f.visit (g.container location)) := by
  have hlater' : ∀ v ∈ vs, ∀ w ∈ [(date, location)], v.1 < w.1 := by simpa using hlater
  have hfirst : ∀ m ∈ f.set.found, ∃ first, IsLeast (g.datesIn vs m.id) first ∧
      IsLeast (g.datesIn (vs ++ [(date, location)]) m.id) first := fun m hm => by
    obtain ⟨first, hleast⟩ := h.first m hm
    exact ⟨first, hleast, isLeast_datesIn_append hlater' hleast⟩
  have hordered : f.set.found.Pairwise fun a b => ∀ first first',
      IsLeast (g.datesIn (vs ++ [(date, location)]) a.id) first →
      IsLeast (g.datesIn (vs ++ [(date, location)]) b.id) first' → first < first' := by
    refine h.ordered.imp_of_mem fun {a b} ha hb hab first first' hfa hfb => ?_
    obtain ⟨x, hx, hx'⟩ := hfirst a ha
    obtain ⟨y, hy, hy'⟩ := hfirst b hb
    rw [hfa.unique hx', hfb.unique hy']
    exact hab x y hx hy
  rcases f.set_visit (g.container location) with ⟨hset, hold⟩ | ⟨c, hc, hm, hnew, hset⟩
  · refine ⟨fun id date' hdate' => ?_, fun m hm => ?_, by rwa [hset]⟩
    · rw [hset]
      rcases mem_datesIn_append.1 hdate' with hd | ⟨l, c, hl, hc, hm, rfl⟩
      · exact h.mem_ids id date' hd
      · obtain ⟨-, rfl⟩ := Prod.mk.inj (List.mem_singleton.1 hl)
        exact hold c hc hm
    · rw [hset] at hm
      obtain ⟨first, -, hleast⟩ := hfirst m hm
      exact ⟨first, hleast⟩
  · -- no earlier visit came upon the new member, so it is dated by this one
    have hdate : IsLeast (g.datesIn (vs ++ [(date, location)]) c.id) date := by
      refine ⟨mem_datesIn_append.2 (.inr ⟨location, c, by simp, hc, hm, rfl⟩), ?_⟩
      intro date' hdate'
      rcases mem_datesIn_append.1 hdate' with hd | ⟨l, -, hl, -⟩
      · exact absurd (h.mem_ids _ _ hd) hnew
      · exact (Prod.mk.inj (List.mem_singleton.1 hl)).1.ge
    have hids : ∀ id, id ∈ (f.visit (g.container location)).set.ids ↔
        id ∈ f.set.ids ∨ id = c.id := fun id => by
      rw [hset]
      simp [SymbolSet.ids, SymbolSet.toList, or_assoc]
    refine ⟨fun id date' hdate' => ?_, fun m hm => ?_, ?_⟩
    · rw [hids]
      rcases mem_datesIn_append.1 hdate' with hd | ⟨l, c', hl, hc', -, rfl⟩
      · exact .inl (h.mem_ids id date' hd)
      · obtain ⟨-, rfl⟩ := Prod.mk.inj (List.mem_singleton.1 hl)
        obtain rfl : c = c' := Option.some.inj (hc.symm.trans hc')
        exact .inr rfl
    · rw [hset] at hm
      rcases List.mem_append.1 hm with hm | hm
      · obtain ⟨first, -, hleast⟩ := hfirst m hm
        exact ⟨first, hleast⟩
      · obtain rfl := List.mem_singleton.1 hm
        exact ⟨date, hdate⟩
    · rw [hset]
      refine List.pairwise_append.2 ⟨hordered, List.pairwise_singleton _ _, ?_⟩
      intro a ha b hb first first' hfa hfb
      obtain rfl := List.mem_singleton.1 hb
      obtain ⟨x, ⟨⟨l, _, hv, -⟩, -⟩, hx'⟩ := hfirst a ha
      rw [hfa.unique hx', hfb.unique hdate]
      exact hlater _ hv

theorem Dated.visitAll (h : g.Dated vs f) (ws : List Visit)
    (hsorted : (vs ++ ws).Pairwise (·.1 < ·.1)) :
    g.Dated (vs ++ ws) (g.visitAll (ws.map (·.2)) f) := by
  induction ws generalizing vs f with
  | nil => simpa using h
  | cons w ws ih =>
    have hlater : ∀ v ∈ vs, v.1 < w.1 := fun v hv =>
      (List.pairwise_append.1 hsorted).2.2 v hv w List.mem_cons_self
    rw [List.append_cons] at hsorted ⊢
    exact ih (h.visit w.1 w.2 hlater) hsorted

/-- Expanding the first member that waits keeps the order. -/
theorem Dated.step {done : List Symbol} (h : g.Dated (g.visits (done.map (·.id))) f)
    {current : Symbol} {rest : List Symbol} (hq : f.queue = current :: rest) :
    g.Dated (g.visits ((done ++ [current]).map (·.id))) (g.step f) := by
  have hstart : g.Dated (g.visits (done.map (·.id)))
      (f.expand rest (g.references current.id).length) := ⟨h.mem_ids, h.first, h.ordered⟩
  have hsorted := g.pairwise_visits ((done ++ [current]).map (·.id))
  rw [List.map_append, List.map_singleton, visits_append_singleton] at hsorted ⊢
  have hvisited := hstart.visitAll _ hsorted
  rwa [map_snd_visitsOf, ← g.step_of_queue_cons hq] at hvisited

theorem Dated.run (seed : Symbol) (n : Nat) :
    g.Dated (g.visits ((g.expanded (.start seed) n).map (·.id))) (g.run (.start seed) n) := by
  have hstart : g.Dated (g.visits (([] : List Symbol).map (·.id))) (.start seed) :=
    Dated.start seed
  have hrun := g.run_induction (I := fun done f => g.Dated (g.visits (done.map (·.id))) f)
    (fun h hq => h.step hq) hstart n
  rwa [List.nil_append] at hrun

/-! ### From dates to distances -/

/-- An order of identities, each of which but the first was come upon when one of the
identities was expanded. -/
structure FoundInOrder (g : CallGraph) (seed : SymbolId) (found : List SymbolId)
    (first : SymbolId → ℕ ×ₗ ℕ) : Prop where
  isLeast : ∀ id ∈ found, IsLeast (g.sightings (seed :: found) id) (first id)
  ordered : found.Pairwise fun a b => first a < first b

/-- Chains of callers do not lead out of a list that has the callers of its members. -/
theorem Leads.mem {seed id : SymbolId} {order : List SymbolId} {n : Nat}
    (h : g.Leads seed n id) (hseed : seed ∈ order)
    (hclosed : ∀ m ∈ order, ∀ c ∈ g.callers m, c.id ∈ order) : id ∈ order := by
  induction h with
  | start => exact hseed
  | next _ hc ih => exact hclosed _ ih _ hc

/-- **Nothing is found before what is nearer.** Of two positions in the order, the earlier one
is no farther from the seed. -/
theorem FoundInOrder.exists_leads {seed : SymbolId} {found : List SymbolId}
    {first : SymbolId → ℕ ×ₗ ℕ} (h : g.FoundInOrder seed found first)
    (hnodup : (seed :: found).Nodup)
    (hclosed : ∀ m ∈ seed :: found, ∀ c ∈ g.callers m, c.id ∈ seed :: found)
    {n a b : Nat} {x y : SymbolId} (hab : a ≤ b) (hx : (seed :: found)[a]? = some x)
    (hy : (seed :: found)[b]? = some y) (hlead : g.Leads seed n y) :
    ∃ m ≤ n, g.Leads seed m x := by
  -- the chain to `y` is followed back to the member at which `y` was come upon
  induction n generalizing a b x y with
  | zero =>
    cases hlead
    have hb : 0 = b := (List.getElem?_inj (Nat.zero_lt_succ _) hnodup).1 hy.symm
    obtain rfl : a = 0 := by omega
    cases hx
    exact ⟨0, Nat.le_refl _, .start⟩
  | succ n ih =>
    obtain _ | @⟨_, id, c, hid, hc⟩ := hlead
    rcases a with _ | a
    · cases hx
      exact ⟨0, Nat.zero_le _, .start⟩
    obtain ⟨b, rfl⟩ : ∃ k, b = k + 1 := ⟨b - 1, by omega⟩
    rw [List.getElem?_cons_succ] at hx hy
    have hle : first x ≤ first c.id := by
      rcases Nat.eq_or_lt_of_le hab with heq | hlt
      · obtain rfl : a = b := by omega
        rw [Option.some.inj (hx.symm.trans hy)]
      · obtain ⟨ha, rfl⟩ := List.getElem?_eq_some_iff.1 hx
        obtain ⟨hb, hcb⟩ := List.getElem?_eq_some_iff.1 hy
        rw [← hcb]
        exact (List.pairwise_iff_getElem.1 h.ordered a b ha hb (by omega)).le
    obtain ⟨k, hk⟩ := List.mem_iff_getElem?.1 (hid.mem List.mem_cons_self hclosed)
    obtain ⟨location, hl, hcontainer, hm⟩ := g.mem_callers.1 hc
    obtain ⟨j, hj⟩ := List.mem_iff_getElem?.1 hl
    have hsight : toLex (k, j) ∈ g.sightings (seed :: found) c.id :=
      ⟨id, location, c, hk, hj, hcontainer, hm, rfl⟩
    have hdate : first x ≤ toLex (k, j) :=
      hle.trans ((h.isLeast _ (List.mem_of_getElem? hy)).2 hsight)
    have hposition : (ofLex (first x)).1 ≤ k := by
      rcases Prod.Lex.le_iff.1 hdate with hlt | ⟨heq, -⟩
      · exact hlt.le
      · exact heq.le
    obtain ⟨m, location', c', hm', hl', hcontainer', hmethod, rfl⟩ :=
      (h.isLeast _ (List.mem_of_getElem? hx)).1
    obtain ⟨i, hi, hlead⟩ := ih hposition hm' hk hid
    exact ⟨i + 1, Nat.succ_le_succ hi, hlead.next
      (g.mem_callers.2 ⟨location', List.mem_of_getElem? hl', hcontainer', hmethod⟩)⟩

/-- Distances grow along the order. -/
theorem FoundInOrder.pairwise_distance {seed : SymbolId} {found : List SymbolId}
    {first : SymbolId → ℕ ×ₗ ℕ} (h : g.FoundInOrder seed found first)
    (hnodup : (seed :: found).Nodup)
    (hclosed : ∀ m ∈ seed :: found, ∀ c ∈ g.callers m, c.id ∈ seed :: found)
    (hlead : ∀ id ∈ seed :: found, ∃ n, g.Leads seed n id) :
    (seed :: found).Pairwise fun a b => g.distance seed a ≤ g.distance seed b := by
  refine List.pairwise_iff_getElem.2 fun a b ha hb hab => ?_
  have hy := g.isLeast_distance (hlead _ (List.getElem_mem hb))
  obtain ⟨m, hm, hx⟩ := h.exists_leads hnodup hclosed hab.le
    (List.getElem?_eq_getElem ha) (List.getElem?_eq_getElem hb) hy.1
  exact (Nat.sInf_le hx).trans hm

/-- Members that were found one after the other are found in order. -/
theorem Dated.foundInOrder (h : g.Dated (g.visits f.set.ids) f) {seed : SymbolId}
    (hids : f.set.ids = seed :: f.set.found.map (·.id)) :
    ∃ first, g.FoundInOrder seed (f.set.found.map (·.id)) first := by
  have hfirst : ∀ id ∈ f.set.found.map (·.id),
      ∃ date, IsLeast (g.datesIn (g.visits f.set.ids) id) date := by
    intro id hid
    obtain ⟨m, hm, rfl⟩ := List.mem_map.1 hid
    exact h.first m hm
  choose! first hfirst using hfirst
  refine ⟨first, fun id hid => ?_, List.pairwise_map.2 (h.ordered.imp_of_mem ?_)⟩
  · rw [← hids, ← datesIn_visits]
    exact hfirst id hid
  · intro a b ha hb hab
    exact hab _ _ (hfirst _ (List.mem_map_of_mem ha)) (hfirst _ (List.mem_map_of_mem hb))

end CallGraph

/-- **Members are found breadth first.** The seed is the first member, and no member is farther
from it than a later one. The others are in the order of their first sightings, that is, of the
member whose expansion came upon them first, and of the reference at which it did. -/
theorem buildClosure_breadthFirst {σ ν : Type} (p : Program σ ν) (g : CallGraph)
    (hp : p.Follows g) (seed : Symbol) (hfin : (g.reachable seed).Finite) :
    ∃ (c : Closure) (found : List SymbolId) (first : SymbolId → ℕ ×ₗ ℕ),
      (∀ limit, (g.reachable seed).ncard ≤ limit → ∀ s,
        ((p.buildClosure limit never seed).ask s).1 = .ok c) ∧
      c.set.seed = seed ∧ c.set.ids = seed.id :: found ∧
      (∀ id ∈ c.set.ids, IsLeast {n | g.Leads seed.id n id} (g.distance seed.id id)) ∧
      (c.set.ids.Pairwise fun a b => g.distance seed.id a ≤ g.distance seed.id b) ∧
      (∀ id ∈ found, IsLeast (g.sightings c.set.ids id) (first id)) ∧
      found.Pairwise fun a b => first a < first b := by
  obtain ⟨hq, hr⟩ := CallGraph.exists_reached (g.closed_reachable seed) hfin le_rfl
  have hdated := CallGraph.Dated.run (g := g) seed (g.reachable seed).ncard
  rw [← hr.toList_eq hq] at hdated hr
  generalize hf : g.run (.start seed) (g.reachable seed).ncard = f at hq hr hdated
  have hids : f.set.ids = seed.id :: f.set.found.map (·.id) := by
    rw [SymbolSet.ids, SymbolSet.toList, hr.seed_eq, List.map_cons]
  obtain ⟨first, hfirst⟩ := hdated.foundInOrder hids
  have hlead : ∀ id ∈ f.set.ids, ∃ n, g.Leads seed.id n id := by
    intro id hid
    obtain ⟨m, hm, rfl⟩ := SymbolSet.mem_ids.1 hid
    exact g.exists_leads (hr.chained m hm)
  have hclosed : ∀ m ∈ f.set.ids, ∀ c ∈ g.callers m, c.id ∈ f.set.ids := by
    intro id hid c hc
    obtain ⟨m, hm, rfl⟩ := SymbolSet.mem_ids.1 hid
    exact hr.closed m hm c hc
  have hdistance : f.set.ids.Pairwise fun a b => g.distance seed.id a ≤ g.distance seed.id b := by
    have hnodup := hr.nodup
    rw [hids] at hlead hclosed hnodup ⊢
    exact hfirst.pairwise_distance hnodup hclosed hlead
  refine ⟨f.closure, _, first, fun limit hlimit s => ?_, hr.seed_eq, hids,
    fun id hid => g.isLeast_distance (hlead id hid), hdistance, ?_, hfirst.ordered⟩
  · rw [Program.buildClosure, hp.ask_expandAll, g.run_eq_of_le (hf ▸ hq) hlimit, hf, if_pos hq]
  · rw [show f.closure.set.ids = _ from hids]
    exact hfirst.isLeast

/-! ### A caller that is found twice -/

namespace TabledProgram

/-- A method that is used in two others, where the second one is also used in the first and both
are used in a third one. -/
def usedTwice : TabledProgram :=
  let inFile (a b : Nat) : ReferenceLocation := ⟨⟨"m.py"⟩, ⟨a, b⟩⟩
  { symbols := [⟨"save", "save", .method, []⟩, ⟨"update", "update", .method, []⟩,
      ⟨"create", "create", .function, []⟩, ⟨"main", "main", .function, []⟩]
    nodes := []
    cover := []
    containers := [(inFile 1 2, "update"), (inFile 3 4, "create"), (inFile 5 6, "main"),
      (inFile 7 8, "create"), (inFile 9 10, "main"), (inFile 11 12, "save")]
    references := [("save", [inFile 3 4, inFile 1 2, inFile 11 12]),
      ("update", [inFile 5 6, inFile 7 8]), ("create", [inFile 9 10])]
    texts := [] }

end TabledProgram

theorem buildClosure_breadthFirst_usedTwice :
    (TabledProgram.usedTwice.program : Program Unit Nat).Follows
        TabledProgram.usedTwice.callGraph ∧
      (TabledProgram.usedTwice.callGraph.reachable ⟨"save", "save", .method, []⟩).Finite ∧
      ∃ (c : Closure) (first : SymbolId → ℕ ×ₗ ℕ),
        (∃ limit, ((TabledProgram.usedTwice.program.buildClosure limit never
          ⟨"save", "save", .method, []⟩).ask ()).1 = .ok c) ∧
        c.set.ids = ["save", "create", "update", "main"] ∧
        (c.set.ids.Pairwise fun a b =>
          TabledProgram.usedTwice.callGraph.distance "save" a ≤
            TabledProgram.usedTwice.callGraph.distance "save" b) ∧
        ["create", "update", "main"].Pairwise fun a b => first a < first b := by
  have hp := TabledProgram.usedTwice.follows (σ := Unit)
  have hfin := CallGraph.finite_reachable TabledProgram.usedTwice.finite_mentioned
    ⟨"save", "save", .method, []⟩
  obtain ⟨c, found, first, hrun, -, hids, -, hdistance, -, hfirst⟩ :=
    buildClosure_breadthFirst _ _ hp ⟨"save", "save", .method, []⟩ hfin
  -- four steps are enough, and more of them lead to the same end
  obtain ⟨c', hc', hcids⟩ : ∃ c, (TabledProgram.usedTwice.program.buildClosure 4 never
      ⟨"save", "save", .method, []⟩).ask () = (.ok c, ()) ∧
      c.set.ids = ["save", "create", "update", "main"] := ⟨_, rfl, rfl⟩
  obtain ⟨limit, hreach, hfour⟩ :
      ∃ limit, (TabledProgram.usedTwice.callGraph.reachable
        ⟨"save", "save", .method, []⟩).ncard ≤ limit ∧ 4 ≤ limit :=
    ⟨_, Nat.le_add_right _ 4, Nat.le_add_left 4 _⟩
  have hcn := Program.expandAll_of_le _ hfour hc'
  obtain rfl : c' = c := Except.ok.inj ((congrArg Prod.fst hcn).symm.trans (hrun limit hreach ()))
  rw [hcids] at hids
  obtain rfl : ["create", "update", "main"] = found := (List.cons.inj hids).2
  exact ⟨hp, hfin, c', first, ⟨limit, hrun limit hreach ()⟩, hcids, hdistance, hfirst⟩

end CallerClosure
