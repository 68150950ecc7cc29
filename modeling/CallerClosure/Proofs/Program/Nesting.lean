import CallerClosure.Least
import CallerClosure.Program.Nesting

/-!
# Spans that nest

Spans are listed from the outside to the inside when each starts before the next one, or
where it starts and does not end before it. If moreover any two of them are nested or
disjoint, the stack that `Nesting.parents` keeps holds, next to each span, exactly the spans
before it that cover it.

* `Span.covers_of_covers` is the geometry: what covers a place that comes next covers all
  that is listed in between and reaches there;
* `Nesting.openAround_eq_around` is the invariant of the stack;
* `Nesting.mem_parents` reads off the parents: the last span before a span that covers it.
-/

namespace CallerClosure

/-! ### Pairs of spans -/

namespace Span

/-- A span that is listed before another one. -/
def Opens (a b : Span) : Prop := a.start < b.start ∨ a.start = b.start ∧ b.stop ≤ a.stop

/-- Two spans without a common byte. -/
def Disjoint (a b : Span) : Prop := a.stop ≤ b.start ∨ b.stop ≤ a.start

/-- Two spans of which one covers the other, or that have nothing in common. -/
def Nested (a b : Span) : Prop := a.Covers b ∨ b.Covers a ∨ a.Disjoint b

instance (a b : Span) : Decidable (a.Disjoint b) := inferInstanceAs (Decidable (_ ∨ _))

instance (a b : Span) : Decidable (a.Nested b) := inferInstanceAs (Decidable (_ ∨ _ ∨ _))

theorem Nested.refl (a : Span) : a.Nested a := .inl ⟨Nat.le_refl _, Nat.le_refl _⟩

instance : Std.Symm Nested where
  symm a b h := by
    rcases h with h | h | h
    · exact .inr (.inl h)
    · exact .inl h
    · exact .inr (.inr h.symm)

theorem Covers.trans {a b c : Span} (h : a.Covers b) (h' : b.Covers c) : a.Covers c :=
  ⟨Nat.le_trans h.1 h'.1, Nat.le_trans h'.2 h.2⟩

theorem Covers.length_le {a b : Span} (h : a.Covers b) : b.length ≤ a.length := by
  obtain ⟨hstart, hstop⟩ := h
  unfold length
  omega

/-- Among ordered spans only an equal one covers a span of its own length. -/
theorem Covers.eq_of_length_eq {a b : Span} (h : a.Covers b) (hb : b.start ≤ b.stop)
    (hl : a.length = b.length) : a = b := by
  obtain ⟨a₁, a₂⟩ := a
  obtain ⟨b₁, b₂⟩ := b
  obtain ⟨hstart, hstop⟩ := h
  simp only [length, mk.injEq] at *
  omega

/-- Of two nested spans around a third one the longer one covers the other. -/
theorem Nested.covers_of_length_le {a b q : Span} (h : a.Nested b) (hq : q.start < q.stop)
    (ha : a.Covers q) (hb : b.Covers q) (hl : b.length ≤ a.length) : a.Covers b := by
  unfold Nested Disjoint length Covers at *
  omega

/-- A span that is listed before another one and reaches into a place at or after the start of
that one covers it. -/
theorem covers_of_covers {a b q : Span} (hab : a.Opens b) (hn : a.Nested b)
    (hbq : b.start ≤ q.start) (hq : q.start < q.stop) (ha : a.Covers q) : a.Covers b := by
  unfold Opens Nested Disjoint Covers at *
  omega

end Span

/-! ### The stack -/

namespace Nesting

/-- The spans of a list that cover a span. -/
def around (q : Span) (spans : List IndexedSpan) : List IndexedSpan :=
  spans.filter fun t => decide (t.span.Covers q)

theorem mem_around {q : Span} {spans : List IndexedSpan} {t : IndexedSpan} :
    t ∈ around q spans ↔ t ∈ spans ∧ t.span.Covers q := by
  simp [around]

theorem around_append (q : Span) (xs ys : List IndexedSpan) :
    around q (xs ++ ys) = around q xs ++ around q ys :=
  List.filter_append _ _

/-- Spans from the outside to the inside that are nested or disjoint in pairs. -/
structure Forest (spans : List IndexedSpan) : Prop where
  opens : spans.Pairwise fun a b => a.span.Opens b.span
  nested : spans.Pairwise fun a b => a.span.Nested b.span
  nonempty : ∀ s ∈ spans, s.span.start < s.span.stop

/-- A stack in which every span covers those above it. -/
def IsTower (stack : List IndexedSpan) : Prop :=
  stack.Pairwise fun inner outer => outer.span.Covers inner.span

/-- From a tower the spans that are left around a span are those that cover it. -/
theorem openAround_eq_around {stack : List IndexedSpan} (h : IsTower stack) (q : Span) :
    openAround q stack = around q stack := by
  induction stack with
  | nil => rfl
  | cons top rest ih =>
    obtain ⟨hrest, htower⟩ := List.pairwise_cons.1 h
    by_cases hc : top.span.Covers q
    · have hall : ∀ t ∈ top :: rest, decide (t.span.Covers q) = true := by
        intro t ht
        rcases List.mem_cons.1 ht with rfl | ht
        · exact decide_eq_true hc
        · exact decide_eq_true ((hrest t ht).trans hc)
      rw [around, List.filter_eq_self.2 hall, openAround, List.dropWhile_cons_of_neg (by simp [hc])]
    · rw [openAround, List.dropWhile_cons_of_pos (by simp [hc]), around,
        List.filter_cons_of_neg (by simp [hc])]
      exact ih htower

/-- What the stack holds when the spans `done` were listed and `rest` is to come: the spans
of `done` that cover something to come are all there, the last one on top. -/
structure Stacked (done rest stack : List IndexedSpan) : Prop where
  tower : IsTower stack
  sublist : stack.Sublist done.reverse
  around_eq : ∀ s ∈ rest, around s.span stack = (around s.span done).reverse

theorem Stacked.start (spans : List IndexedSpan) : Stacked [] spans [] :=
  ⟨.nil, .slnil, fun _ _ => rfl⟩

/-- The spans that are open around the next one are all spans before it that cover it. -/
theorem Stacked.openAround_eq {done rest stack : List IndexedSpan} {s : IndexedSpan}
    (h : Stacked done (s :: rest) stack) :
    openAround s.span stack = (around s.span done).reverse := by
  rw [openAround_eq_around h.tower, h.around_eq s List.mem_cons_self]

/-- Going on to the next span keeps the invariant. A span that is closed does not cover the
next one, so it covers nothing that comes later. -/
theorem Stacked.step {done rest stack : List IndexedSpan} {s : IndexedSpan}
    (hf : Forest (done ++ s :: rest)) (h : Stacked done (s :: rest) stack) :
    Stacked (done ++ [s]) rest (s :: openAround s.span stack) := by
  have hopen := openAround_eq_around h.tower s.span
  refine ⟨?_, ?_, fun s' hs' => ?_⟩
  · refine List.pairwise_cons.2 ⟨fun t ht => ?_, h.tower.sublist (List.dropWhile_sublist _)⟩
    rw [hopen] at ht
    exact (mem_around.1 ht).2
  · rw [List.reverse_append]
    exact ((List.dropWhile_sublist _).trans h.sublist).cons_cons s
  · -- a span of the stack that covers `s'` covers `s` as well, so it was not closed
    have hkeep : around s'.span (openAround s.span stack) = around s'.span stack := by
      rw [hopen, around, around, around, List.filter_filter]
      refine List.filter_congr fun t ht => ?_
      have htd : t ∈ done := List.mem_reverse.1 (h.sublist.subset ht)
      have hto := (List.pairwise_append.1 hf.opens).2.2 t htd s List.mem_cons_self
      have htn := (List.pairwise_append.1 hf.nested).2.2 t htd s List.mem_cons_self
      have hso := (List.pairwise_cons.1 (List.pairwise_append.1 hf.opens).2.1).1 s' hs'
      have hs1 := hf.nonempty s' (by simp [hs'])
      have hstart : s.span.start ≤ s'.span.start := by
        rcases hso with hlt | ⟨heq, -⟩ <;> omega
      by_cases hc : t.span.Covers s'.span
      · simp [hc, Span.covers_of_covers hto htn hstart hs1 hc]
      · simp [hc]
    have hstack := h.around_eq s' (List.mem_cons_of_mem _ hs')
    rw [around_append, List.reverse_append, ← hstack, ← hkeep]
    by_cases hc : s.span.Covers s'.span
    · simp [around, hc]
    · simp [around, hc]

/-! ### The parents -/

theorem map_fst_parentsFrom (stack spans : List IndexedSpan) :
    (parentsFrom stack spans).map (·.1) = spans.map (·.index) := by
  induction spans generalizing stack with
  | nil => rfl
  | cons s rest ih => simp [parentsFrom, ih]

/-- A parent is one of the spans that were listed. -/
theorem exists_of_mem_parentsFrom {stack spans : List IndexedSpan} {n m : Nat}
    (h : (n, some m) ∈ parentsFrom stack spans) : ∃ s ∈ stack ++ spans, s.index = m := by
  induction spans generalizing stack with
  | nil => cases h
  | cons s rest ih =>
    have hopen : openAround s.span stack ⊆ stack := (List.dropWhile_sublist _).subset
    rcases List.mem_cons.1 h with heq | h
    · obtain ⟨t, ht, rfl⟩ := Option.map_eq_some_iff.1 (Prod.mk.inj heq).2.symm
      exact ⟨t, List.mem_append_left _ (hopen (List.mem_of_head? ht)), rfl⟩
    · obtain ⟨t, ht, rfl⟩ := ih h
      refine ⟨t, ?_, rfl⟩
      rcases List.mem_append.1 ht with ht | ht
      · rcases List.mem_cons.1 ht with rfl | ht
        · exact List.mem_append_right _ List.mem_cons_self
        · exact List.mem_append_left _ (hopen ht)
      · exact List.mem_append_right _ (List.mem_cons_of_mem _ ht)

theorem exists_of_mem_parents {spans : List IndexedSpan} {n m : Nat}
    (h : (n, some m) ∈ parents spans) : ∃ s ∈ spans, s.index = m :=
  exists_of_mem_parentsFrom h

theorem mem_parentsFrom {done stack left right : List IndexedSpan} {s : IndexedSpan}
    (hf : Forest (done ++ (left ++ s :: right))) (h : Stacked done (left ++ s :: right) stack) :
    (s.index, ((around s.span (done ++ left)).getLast?).map (·.index)) ∈
      parentsFrom stack (left ++ s :: right) := by
  induction left generalizing done stack with
  | nil =>
    rw [List.nil_append] at h
    simp [parentsFrom, h.openAround_eq]
  | cons t left ih =>
    rw [List.cons_append] at h hf
    have hstep := h.step hf
    rw [← List.singleton_append, ← List.append_assoc] at hf
    have hmem := ih hf hstep
    rw [List.cons_append, parentsFrom]
    exact List.mem_cons_of_mem _ (by simpa using hmem)

/-- **The parent of a span is the last one before it that covers it.** -/
theorem mem_parents {left right : List IndexedSpan} {s : IndexedSpan}
    (hf : Forest (left ++ s :: right)) :
    (s.index, ((around s.span left).getLast?).map (·.index)) ∈ parents (left ++ s :: right) := by
  have h : (s.index, ((around s.span ([] ++ left)).getLast?).map (·.index)) ∈
      parentsFrom [] (left ++ s :: right) := mem_parentsFrom hf (.start _)
  simpa [parents] using h

/-! ### The spans around a place -/

/-- Before a span that covers a place, the spans that cover the place are those that cover the
span. -/
theorem around_eq_around {left right : List IndexedSpan} {s : IndexedSpan} {q : Span}
    (hf : Forest (left ++ s :: right)) (hq : q.start < q.stop) (hs : s.span.Covers q) :
    around s.span left = around q left := by
  refine List.filter_congr fun t ht => ?_
  have hto := (List.pairwise_append.1 hf.opens).2.2 t ht s List.mem_cons_self
  have htn := (List.pairwise_append.1 hf.nested).2.2 t ht s List.mem_cons_self
  rw [decide_eq_decide]
  exact ⟨fun h => h.trans hs, fun h => Span.covers_of_covers hto htn hs.1 hq h⟩

/-- Among the spans around a place each is the parent of the next one. -/
theorem mem_parents_of_around {spans outer inner : List IndexedSpan} {s : IndexedSpan} {q : Span}
    (hf : Forest spans) (hq : q.start < q.stop) (h : around q spans = outer ++ s :: inner) :
    (s.index, outer.getLast?.map (·.index)) ∈ parents spans := by
  obtain ⟨done, rest, rfl, houter, hrest⟩ := List.filter_eq_append_iff.1 h
  obtain ⟨gap, right, rfl, hgap, hs, -⟩ := List.filter_eq_cons_iff.1 hrest
  have hleft : around q (done ++ gap) = outer := by
    rw [around_append, around, around, houter, List.filter_eq_nil_iff.2 hgap, List.append_nil]
  rw [← List.append_assoc] at hf ⊢
  rw [← hleft, ← around_eq_around hf hq (of_decide_eq_true hs)]
  exact mem_parents hf

/-- Each span around a place covers those that come after it. -/
theorem Forest.covers_around {spans : List IndexedSpan} (hf : Forest spans) {q : Span}
    (hq : q.start < q.stop) :
    (around q spans).Pairwise fun a b => a.span.Covers b.span := by
  have hpair := hf.opens.and hf.nested
  refine (hpair.filter _).imp_of_mem fun {a b} ha hb hab => ?_
  obtain ⟨-, ha⟩ := mem_around.1 ha
  obtain ⟨-, hb⟩ := mem_around.1 hb
  exact Span.covers_of_covers hab.1 hab.2 hb.1 hq ha

end Nesting

/-! ### Least elements at the end -/

/-- When the measure never grows along a list, the last of its least elements is the last
element. -/
theorem leastLast?_eq_getLast? {α : Type} {measure : α → Nat} {xs : List α}
    (h : xs.Pairwise fun a b => measure b ≤ measure a) : leastLast? measure xs = xs.getLast? := by
  induction xs with
  | nil => rfl
  | cons a rest ih =>
    obtain ⟨ha, hrest⟩ := List.pairwise_cons.1 h
    rw [leastLast?, ih hrest, List.getLast?_cons]
    cases hl : rest.getLast? with
    | none => rfl
    | some b =>
      have hb := ha b (List.mem_of_getLast? hl)
      simp [Nat.not_lt.2 hb]

end CallerClosure
