import CallerClosure.Proofs.Materialize.Order
import CallerClosure.Proofs.Symbol.Gathering

/-!
# One way to list a set

In the order of declarations a set is listed in one way, however its members were found: those
with a source come first, from one document to the next and from the start of a document to its
end, and identities settle what is left.

* `Symbol.DeclaredBefore` is this order, for two symbols with a source;
* `SymbolSet.exists_placed_unplaced` says that members are listed in it, those without a source
  last;
* `SymbolSet.ordered_gather_eq_iff` says which sets are listed alike;
* `SymbolSet.ordered_canonical` is the main statement. What it asks of two sets fails where one
  identity belongs to different symbols, `SymbolSet.ordered_conflicting_ne`.
-/

namespace CallerClosure

/-- Both symbols have a source, and the first one is declared first: in an earlier document, or at
an earlier offset of the same one, or at the same place with a smaller identity. -/
def Symbol.DeclaredBefore (a b : Symbol) : Prop :=
  ∃ s t, a.source? = some s ∧ b.source? = some t ∧
    (s.document.compare t.document = .lt ∨ s.document.Same t.document ∧
      (s.span.start < t.span.start ∨ s.span.start = t.span.start ∧ a.id < b.id))

/-- A list in which everything of one sort comes first is divided once. -/
theorem exists_append_of_pairwise {α : Type} {p : α → Bool} {l : List α}
    (h : l.Pairwise fun a b => p b = true → p a = true) :
    ∃ front back, l = front ++ back ∧ (∀ a ∈ front, p a = true) ∧ ∀ b ∈ back, p b = false := by
  induction l with
  | nil => exact ⟨[], [], rfl, by simp, by simp⟩
  | cons a rest ih =>
    obtain ⟨hfirst, hrest⟩ := List.pairwise_cons.1 h
    by_cases ha : p a = true
    · obtain ⟨front, back, rfl, hfront, hback⟩ := ih hrest
      exact ⟨a :: front, back, rfl, List.forall_mem_cons.2 ⟨ha, hfront⟩, hback⟩
    · refine ⟨[], a :: rest, rfl, by simp, List.forall_mem_cons.2 ⟨by simpa using ha, ?_⟩⟩
      exact fun b hb => Bool.eq_false_iff.2 fun hp => ha (hfirst b hb hp)

namespace Symbol

variable {a b : Symbol}

/-- No symbol without a source is listed before one with a source. -/
theorem isSome_source?_of_compareDeclarations (h : a.compareDeclarations b = .lt)
    (hb : b.source?.isSome = true) : a.source?.isSome = true := by
  obtain ⟨t, ht⟩ := Option.isSome_iff_exists.1 hb
  cases ha : a.source? with
  | some s => rfl
  | none => simp [compareDeclarations, ha, ht] at h

theorem declaredBefore_of_compareDeclarations (h : a.compareDeclarations b = .lt)
    (ha : a.source?.isSome = true) (hb : b.source?.isSome = true) : a.DeclaredBefore b := by
  obtain ⟨s, hs⟩ := Option.isSome_iff_exists.1 ha
  obtain ⟨t, ht⟩ := Option.isSome_iff_exists.1 hb
  refine ⟨s, t, hs, ht, ?_⟩
  simp only [compareDeclarations, hs, ht, Ordering.then_eq_lt, Ordering.then_eq_eq,
    Path.compare_eq_iff, Nat.compare_eq_lt, Nat.compare_eq_eq, compareOfLessAndEq_eq_lt] at h
  tauto

theorem id_lt_of_compareDeclarations (h : a.compareDeclarations b = .lt)
    (ha : a.source? = none) (hb : b.source? = none) : a.id < b.id := by
  simpa only [compareDeclarations, ha, hb, compareOfLessAndEq_eq_lt] using h

end Symbol

namespace SymbolSet

/-- **Members with a source are listed in the order of their declarations**, and then the others in
the order of their identities. -/
theorem exists_placed_unplaced {s : SymbolSet} (h : s.ids.Nodup) :
    ∃ placed unplaced, s.ordered .declaration = placed ++ unplaced ∧
      (∀ m ∈ placed, m.source?.isSome = true) ∧ (∀ m ∈ unplaced, m.source? = none) ∧
      placed.Pairwise Symbol.DeclaredBefore ∧ unplaced.Pairwise fun a b => a.id < b.id := by
  have hordered := pairwise_ordered h
  obtain ⟨placed, unplaced, hsplit, hplaced, hunplaced⟩ :=
    exists_append_of_pairwise (p := fun m : Symbol => m.source?.isSome)
      (hordered.imp Symbol.isSome_source?_of_compareDeclarations)
  rw [hsplit, List.pairwise_append] at hordered
  have hnone : ∀ m ∈ unplaced, m.source? = none :=
    fun m hm => Option.not_isSome_iff_eq_none.1 (by simpa using hunplaced m hm)
  refine ⟨placed, unplaced, hsplit, hplaced, hnone, ?_, ?_⟩
  · exact hordered.1.imp_of_mem fun ha hb hab =>
      Symbol.declaredBefore_of_compareDeclarations hab (hplaced _ ha) (hplaced _ hb)
  · exact hordered.2.1.imp_of_mem fun ha hb hab =>
      Symbol.id_lt_of_compareDeclarations hab (hnone _ ha) (hnone _ hb)

/-- Whatever lists the members strictly in the order of their declarations is their list. -/
theorem ordered_eq_of_pairwise {s : SymbolSet} {l : List Symbol} (h : s.ids.Nodup)
    (hperm : l.Perm s.toList) (hl : l.Pairwise fun a b => a.compareDeclarations b = .lt) :
    s.ordered .declaration = l := by
  refine ((perm_ordered s .declaration).trans hperm.symm).eq_of_pairwise
    (fun a b _ _ hab hba => ?_) (pairwise_ordered h) hl
  exact absurd (hab.symm.trans (Std.OrientedCmp.gt_of_lt hba)) (by decide)

/-- **Two sets are listed alike exactly when they met the same symbol first**, for every
identity. -/
theorem ordered_gather_eq_iff {seed seed' : Symbol} {symbols symbols' : List Symbol} :
    (gather seed symbols).ordered .declaration = (gather seed' symbols').ordered .declaration ↔
      ∀ id, (seed :: symbols).find? (fun m => m.id == id) =
        (seed' :: symbols').find? fun m => m.id == id := by
  rw [← perm_gather_iff]
  constructor
  · intro h
    have hperm := perm_ordered (gather seed symbols) .declaration
    rw [h] at hperm
    exact hperm.symm.trans (perm_ordered _ .declaration)
  · exact fun h => ordered_eq_of_perm h (nodup_ids_gather seed symbols)

/-- In lists of the same symbols, the first one with an identity is the same where there is no
other one with it. -/
theorem find?_eq_of_perm {xs ys : List Symbol} (hperm : xs.Perm ys)
    (hxs : ∀ a ∈ xs, ∀ b ∈ xs, a.id = b.id → a = b) (id : SymbolId) :
    xs.find? (fun m => m.id == id) = ys.find? fun m => m.id == id := by
  cases hx : xs.find? fun m => m.id == id with
  | none =>
    symm
    rw [List.find?_eq_none] at hx ⊢
    exact fun m hm => hx m (hperm.mem_iff.2 hm)
  | some a =>
    have ha : a.id = id := by simpa using List.find?_some hx
    have hmem := List.mem_of_find?_eq_some hx
    cases hy : ys.find? fun m => m.id == id with
    | none =>
      rw [List.find?_eq_none] at hy
      exact absurd (by simpa using ha) (hy a (hperm.mem_iff.1 hmem))
    | some b =>
      have hb : b.id = id := by simpa using List.find?_some hy
      rw [hxs a hmem b (hperm.mem_iff.2 (List.mem_of_find?_eq_some hy)) (ha.trans hb.symm)]

/-- **The order of declarations is canonical.** It lists all members: first those with a source,
strictly by document, offset and identity, and then the others, strictly by identity. The order of
discovery lists the first symbol with each identity as they were put into the set. Sets are listed
alike in the order of declarations exactly when the first symbol with each identity is the same in
both; so the order in which symbols are put into a set, and which of them is the seed, makes no
difference to it where each identity belongs to one symbol. -/
theorem ordered_canonical (seed : Symbol) (symbols : List Symbol) :
    ((gather seed symbols).ordered .declaration).Perm (gather seed symbols).toList ∧
    (∃ placed unplaced,
      (gather seed symbols).ordered .declaration = placed ++ unplaced ∧
      (∀ m ∈ placed, m.source?.isSome = true) ∧ (∀ m ∈ unplaced, m.source? = none) ∧
      placed.Pairwise Symbol.DeclaredBefore ∧ unplaced.Pairwise fun a b => a.id < b.id) ∧
    (gather seed symbols).ordered .discovery = Symbol.firsts (seed :: symbols) ∧
    ∀ seed' symbols',
      ((gather seed symbols).ordered .declaration =
          (gather seed' symbols').ordered .declaration ↔
        ∀ id, (seed :: symbols).find? (fun m => m.id == id) =
          (seed' :: symbols').find? fun m => m.id == id) ∧
      ((seed :: symbols).Perm (seed' :: symbols') →
        (∀ a ∈ seed :: symbols, ∀ b ∈ seed :: symbols, a.id = b.id → a = b) →
        (gather seed symbols).ordered .declaration =
          (gather seed' symbols').ordered .declaration) := by
  refine ⟨perm_ordered _ .declaration, exists_placed_unplaced (nodup_ids_gather seed symbols),
    toList_gather seed symbols, fun seed' symbols' => ⟨ordered_gather_eq_iff, fun hperm h => ?_⟩⟩
  exact ordered_gather_eq_iff.2 (find?_eq_of_perm hperm h)

section Instances

/-- A method that is declared in a document. -/
def nested : Symbol := ⟨"f", "f", .method, [.source ⟨"d/m"⟩ ⟨4, 5⟩ 4]⟩

/-- A method that is declared at the same place of the same document, which is spelled in another
way and comes after a library. -/
def respelled : Symbol :=
  ⟨"g", "g", .method, [.metadata "lib", .source ⟨"d//m"⟩ ⟨4, 6⟩ 4]⟩

/-- A method that is declared further down in an earlier document. -/
def outer : Symbol := ⟨"h", "h", .method, [.source ⟨"d"⟩ ⟨9, 10⟩ 9]⟩

/-- A method without a source. -/
def sourceless : Symbol := ⟨"e", "e", .method, [.metadata "lib"]⟩

theorem ordered_canonical_respelled :
    [sourceless, respelled, nested, outer, nested].Perm
        [nested, outer, sourceless, nested, respelled] ∧
      (gather sourceless [respelled, nested, outer, nested]).ordered .declaration =
        [outer, nested, respelled, sourceless] ∧
      (gather nested [outer, sourceless, nested, respelled]).ordered .declaration =
        [outer, nested, respelled, sourceless] := by
  have hperm : [sourceless, respelled, nested, outer, nested].Perm
      [nested, outer, sourceless, nested, respelled] := by decide
  obtain ⟨-, -, -, hothers⟩ := ordered_canonical sourceless [respelled, nested, outer, nested]
  have hlisted : (gather sourceless [respelled, nested, outer, nested]).ordered .declaration =
      [outer, nested, respelled, sourceless] :=
    ordered_eq_of_pairwise (nodup_ids_gather _ _) (by decide +kernel) (by decide +kernel)
  have hsame := (hothers nested [outer, sourceless, nested, respelled]).2 hperm (by decide)
  exact ⟨hperm, hlisted, hsame.symm.trans hlisted⟩

/-- A symbol without a source, with an identity that another symbol has as well. -/
def undeclared : Symbol := ⟨"a", "a", .method, []⟩

/-- A symbol with this identity that is declared. -/
def declaredTwin : Symbol := ⟨"a", "a", .method, [.source ⟨"m"⟩ ⟨0, 1⟩ 0]⟩

/-- A symbol that is declared after it. -/
def declaredLater : Symbol := ⟨"b", "b", .method, [.source ⟨"m"⟩ ⟨5, 6⟩ 5]⟩

/-- Where one identity belongs to two symbols, the order in which they are put into a set
matters. -/
theorem ordered_conflicting_ne :
    [undeclared, declaredLater, declaredTwin].Perm [declaredTwin, declaredLater, undeclared] ∧
      (gather undeclared [declaredLater, declaredTwin]).ordered .declaration =
        [declaredLater, undeclared] ∧
      (gather declaredTwin [declaredLater, undeclared]).ordered .declaration =
        [declaredTwin, declaredLater] ∧
      ((gather undeclared [declaredLater, declaredTwin]).ordered .declaration).map Symbol.id ≠
        ((gather declaredTwin [declaredLater, undeclared]).ordered .declaration).map Symbol.id := by
  have hundeclared : (gather undeclared [declaredLater, declaredTwin]).ordered .declaration =
      [declaredLater, undeclared] :=
    ordered_eq_of_pairwise (nodup_ids_gather _ _) (by decide) (by decide +kernel)
  have hdeclared : (gather declaredTwin [declaredLater, undeclared]).ordered .declaration =
      [declaredTwin, declaredLater] :=
    ordered_eq_of_pairwise (nodup_ids_gather _ _) (by decide) (by decide +kernel)
  refine ⟨by decide, hundeclared, hdeclared, ?_⟩
  rw [hundeclared, hdeclared]
  decide

end Instances

end SymbolSet

end CallerClosure
