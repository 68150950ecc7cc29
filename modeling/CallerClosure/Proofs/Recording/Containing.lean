import CallerClosure.Proofs.Recording.Tree
import Mathlib.Data.List.Perm.Subperm

/-!
# The method around a place of a recorded program

* `RecordedProgram.enclosingMethod?_of_outwards`: with enough steps, the search outwards
  looks at every node on the way;
* `Recording.SmallestMethodAround` is what is looked for;
* `covering_way_and_containing_method` is the main statement.
-/

namespace CallerClosure

/-! ### Searching outwards -/

namespace RecordedProgram

/-- The method that a node declares. -/
def method? (r : RecordedProgram) (node : Nat) : Option Symbol :=
  (r.declared? node).filter Symbol.isMethodLike

/-- With at least as many steps as there are nodes on the way, the search finds the first
method of the way. -/
theorem enclosingMethod?_of_outwards {σ : Type} {r : RecordedProgram} {s : σ} {limit : Nat}
    {start : Option Nat} {way : List Nat}
    (h : (r.program : Program σ Nat).Outwards s start way) (hlimit : way.length ≤ limit) :
    start.bind (r.enclosingMethod? limit) = way.findSome? r.method? := by
  induction h generalizing limit with
  | done => rfl
  | @step node rest hrest ih =>
    obtain ⟨limit, rfl⟩ : ∃ k, limit = k + 1 :=
      Nat.exists_eq_succ_of_ne_zero (Nat.ne_of_gt (Nat.lt_of_lt_of_le (Nat.succ_pos _) hlimit))
    have hgo : (r.parent? node).bind (r.enclosingMethod? limit) = rest.findSome? r.method? :=
      ih (Nat.le_of_succ_le_succ hlimit)
    rw [Option.bind_some, enclosingMethod?, hgo, List.findSome?_cons, method?]
    cases (r.declared? node).filter Symbol.isMethodLike <;> rfl

end RecordedProgram

namespace Recording

variable {r : Recording} {document : Path} {text : Text} {span : Span}

/-! ### The smallest method around a place -/

/-- The declaration at a position of a recording is a method in a document around a span. -/
def MethodAround (r : Recording) (document : Path) (span : Span) (i : Nat)
    (d : RecordedDeclaration) : Prop :=
  r.declarations[i]? = some d ∧ d.document.Same document ∧ d.span.Covers span ∧
    d.symbol.isMethodLike = true

/-- It is the smallest one, and the last one that was recorded among those of its length. -/
def SmallestMethodAround (r : Recording) (document : Path) (span : Span) (i : Nat)
    (d : RecordedDeclaration) : Prop :=
  r.MethodAround document span i d ∧ ∀ j e, r.MethodAround document span j e →
    d.span.length ≤ e.span.length ∧ (d.span.length = e.span.length → j ≤ i)

theorem SmallestMethodAround.unique {i j : Nat} {d e : RecordedDeclaration}
    (h : r.SmallestMethodAround document span i d)
    (h' : r.SmallestMethodAround document span j e) : d = e := by
  have hde := h.2 j e h'.1
  have hed := h'.2 i d h.1
  have hlength : d.span.length = e.span.length := Nat.le_antisymm hde.1 hed.1
  obtain rfl : i = j := Nat.le_antisymm (hed.2 hlength.symm) (hde.2 hlength)
  exact Option.some.inj (h.1.1.symm.trans h'.1.1)

/-- The nodes around a place that declare a method are those of the methods around it. -/
theorem mem_around_and_method? (hv : r.Valid) {n : Nat} {m : Symbol} :
    n ∈ r.around document span ∧ r.freeze.method? n = some m ↔
      ∃ i d, r.MethodAround document span i d ∧ r.declarationNode i = n ∧ d.symbol = m := by
  rw [RecordedProgram.method?, Option.filter_eq_some_iff, declared?_freeze hv, mem_around]
  constructor
  · rintro ⟨⟨v, hnode, hsame, hcovers⟩, ⟨i, d, hd, rfl, rfl⟩, hmethod⟩
    obtain rfl := Option.some.inj (hnode.symm.trans (getElem?_declarationNode hd))
    exact ⟨i, d, ⟨hd, hsame, hcovers, hmethod⟩, rfl, rfl⟩
  · rintro ⟨i, d, ⟨hd, hsame, hcovers, hmethod⟩, rfl, rfl⟩
    exact ⟨⟨_, getElem?_declarationNode hd, hsame, hcovers⟩, ⟨i, d, hd, rfl, rfl⟩, hmethod⟩

namespace Place

variable (h : r.Place document text span)
include h

/-- A method that lies inside another one around a place is not longer, and was recorded
later if it is as long. -/
theorem length_le_of_isInside {i j : Nat} {d e : RecordedDeclaration}
    (hd : r.MethodAround document span i d) (he : r.MethodAround document span j e)
    (hin : r.freeze.IsInside (r.declarationNode i) (r.declarationNode j)) :
    d.span.length ≤ e.span.length ∧ (d.span.length = e.span.length → j ≤ i) := by
  have hnode := getElem?_declarationNode hd.1
  obtain ⟨v, w, hv, hw, hcovers, hrank⟩ := hin
  obtain rfl := Option.some.inj (hv.symm.trans hnode)
  obtain rfl := Option.some.inj (hw.symm.trans (getElem?_declarationNode he.1))
  refine ⟨hcovers.length_le, fun hlength => ?_⟩
  have hordered := ordered_of_mem_nodes h.regular h.valid h.text_eq (List.mem_of_getElem? hnode)
    hd.2.1
  have hspan := hcovers.eq_of_length_eq hordered.1 hlength.symm
  rcases hrank hspan.symm with hlt | ⟨-, hlt⟩
  · exact absurd hlt (Nat.lt_irrefl _)
  · exact Nat.le_of_lt (Nat.lt_of_add_lt_add_left hlt)

/-- What the search outwards finds is the smallest method around the place. -/
theorem exists_smallest_of_findSome? {m : Symbol}
    (hm : (r.around document span).reverse.findSome? r.freeze.method? = some m) :
    ∃ i d, r.SmallestMethodAround document span i d ∧ d.symbol = m := by
  obtain ⟨inside, n, outside, hsplit, hn, hnone⟩ := List.findSome?_eq_some_iff.1 hm
  have hmem : ∀ {k : Nat}, k ∈ r.around document span ↔ k ∈ inside ++ n :: outside := by
    intro k
    rw [← hsplit, List.mem_reverse]
  obtain ⟨i, d, hd, rfl, hdm⟩ := (mem_around_and_method? h.valid).1 ⟨hmem.2 (by simp), hn⟩
  refine ⟨i, d, ⟨hd, fun j e he => ?_⟩, hdm⟩
  -- any other method around the place comes later on the way outwards
  obtain ⟨hmemj, hj⟩ := (mem_around_and_method? h.valid).2 ⟨j, e, he, rfl, rfl⟩
  rcases List.mem_append.1 (hmem.1 hmemj) with hbefore | hafter
  · rw [hnone _ hbefore] at hj
    cases hj
  · have hpair := List.pairwise_reverse.2 h.pairwise_around
    rw [hsplit, List.pairwise_append, List.pairwise_cons] at hpair
    rcases List.mem_cons.1 hafter with heq | hafter
    · obtain rfl : j = i := Nat.add_left_cancel heq
      obtain rfl := Option.some.inj (hd.1.symm.trans he.1)
      exact ⟨Nat.le_refl _, fun _ => Nat.le_refl _⟩
    · exact h.length_le_of_isInside hd he (hpair.2.1.1 _ hafter)

/-- Nothing is found exactly when no method lies around the place. -/
theorem findSome?_around_eq_none :
    (r.around document span).reverse.findSome? r.freeze.method? = none ↔
      ∀ i d, ¬ r.MethodAround document span i d := by
  rw [List.findSome?_eq_none_iff]
  constructor
  · intro hnone i d hd
    obtain ⟨hmem, hmethod⟩ := (mem_around_and_method? h.valid).2 ⟨i, d, hd, rfl, rfl⟩
    rw [hnone _ (List.mem_reverse.2 hmem)] at hmethod
    cases hmethod
  · intro hnone n hn
    rw [List.mem_reverse] at hn
    cases hmethod : r.freeze.method? n with
    | none => rfl
    | some m =>
      obtain ⟨i, d, hd, -, -⟩ := (mem_around_and_method? h.valid).1 ⟨hn, hmethod⟩
      exact absurd hd (hnone i d)

/-- **The search outwards finds the smallest method around a place.** -/
theorem findSome?_around {m : Symbol} :
    (r.around document span).reverse.findSome? r.freeze.method? = some m ↔
      ∃ i d, r.SmallestMethodAround document span i d ∧ d.symbol = m := by
  refine ⟨h.exists_smallest_of_findSome?, ?_⟩
  rintro ⟨i, d, hd, rfl⟩
  cases hfind : (r.around document span).reverse.findSome? r.freeze.method? with
  | none => exact absurd hd.1 (h.findSome?_around_eq_none.1 hfind i d)
  | some m =>
    obtain ⟨j, e, he, rfl⟩ := h.exists_smallest_of_findSome? hfind
    rw [hd.unique he]

omit h in
/-- A way has no more nodes than the program. -/
theorem length_around_le : (r.around document span).length ≤ r.nodes.length := by
  have hsubset : r.around document span ⊆ List.range r.nodes.length := by
    intro n hn
    obtain ⟨v, hv, -⟩ := mem_around.1 hn
    exact List.mem_range.2 (List.getElem?_eq_some_iff.1 hv).1
  have hle := ((nodup_around r document span).subperm hsubset).length_le
  rwa [List.length_range] at hle

theorem containing_eq :
    r.freeze.containing ⟨document, span⟩ =
      .ok ((r.around document span).reverse.findSome? r.freeze.method?) := by
  have htext : r.freeze.text? document = some text := h.text_eq
  have hway := h.outwards_around ()
  rw [h.getLast?_around] at hway
  rw [RecordedProgram.containing, RecordedProgram.checkBounds_eq_ok htext h.within]
  refine congrArg Except.ok (RecordedProgram.enclosingMethod?_of_outwards hway ?_)
  rw [List.length_reverse]
  exact Nat.le_succ_of_le length_around_le

theorem covering_eq :
    r.freeze.covering document span = .ok (r.around document span).getLast? := by
  have htext : r.freeze.text? document = some text := h.text_eq
  rw [RecordedProgram.covering, htext, RecordedProgram.checkBounds_eq_ok htext h.within,
    h.getLast?_around]
  rfl

end Place

end Recording

/-! ### The main statement -/

variable {σ : Type} {steps : List RecordingStep} {r : RecordedProgram} {document : Path}
  {text : Text} {span : Span}

open Recording in
/-- **The nodes around a place of a recorded program.** The way that starts at the covering
node of a span and follows parents passes through exactly the nodes of the document around the
span, once each and from inside to outside, and ends at the document. The declaration around
the span is the smallest method on it. -/
theorem covering_way_and_containing_method (hbuild : (ofSteps steps).build = .ok r)
    (hnests : (ofSteps steps).NestsIn document) (htext : r.text? document = some text)
    (hspan : span.start < span.stop) (hstop : span.stop ≤ text.size) (s : σ) :
    (∃ node way, (r.program.coveringNode document span).ask s = (.ok (some node), s) ∧
      (r.program : Program σ Nat).Outwards s (some node) way ∧
      way.Nodup ∧ (∀ n, n ∈ way ↔ r.IsAround document span n) ∧
      way.Pairwise r.IsInside ∧
      ∃ root v, way.getLast? = some root ∧ r.nodes[root]? = some v ∧ v.role = .document) ∧
    ∃ answer,
      ((r.program : Program σ Nat).containingDeclaration ⟨document, span⟩).ask s =
        (.ok answer, s) ∧
      (∀ m, answer = some m ↔
        ∃ i d, (ofSteps steps).SmallestMethodAround document span i d ∧ d.symbol = m) ∧
      (answer = none ↔ ∀ i d, ¬ (ofSteps steps).MethodAround document span i d) := by
  obtain ⟨hvalid, rfl⟩ := build_eq_ok_iff.1 hbuild
  have h : (ofSteps steps).Place document text span :=
    ⟨regular_ofSteps steps, hvalid, hnests, htext, hspan, hstop⟩
  obtain ⟨root, v, hroot, hv, hrole⟩ := h.head?_around
  refine ⟨?_, _, congrArg (·, s) h.containing_eq, fun m => h.findSome?_around,
    h.findSome?_around_eq_none⟩
  cases hnode : ((ofSteps steps).around document span).getLast? with
  | none =>
    rw [List.getLast?_eq_none_iff.1 hnode] at hroot
    cases hroot
  | some node =>
    refine ⟨node, _, ?_, hnode ▸ h.outwards_around s, ?_, fun n => ?_, ?_, root, v, ?_, hv, hrole⟩
    · rw [← hnode]
      exact congrArg (·, s) h.covering_eq
    · exact List.nodup_reverse.2 (nodup_around _ _ _)
    · rw [List.mem_reverse, mem_around]
    · exact List.pairwise_reverse.2 h.pairwise_around
    · rw [List.getLast?_reverse, hroot]

/-- A method in a method, with a use of the inner one on itself. -/
def Recording.innerMethod : Recording :=
  .ofSteps [.document ⟨"a"⟩ "m(n())".toList, .declare ⟨"a"⟩ "m" .method ⟨0, 6⟩,
    .declare ⟨"a"⟩ "n" .method ⟨2, 5⟩, .reference ⟨"a"⟩ "a#2" ⟨2, 5⟩]

theorem covering_way_and_containing_method_innerMethod :
    Recording.innerMethod.build = .ok Recording.innerMethod.freeze ∧
      Recording.innerMethod.NestsIn ⟨"a"⟩ ∧
      Recording.innerMethod.freeze.text? ⟨"a"⟩ = some "m(n())".toList ∧
      (Recording.innerMethod.freeze.program.containingDeclaration ⟨⟨"a"⟩, ⟨3, 4⟩⟩).ask () =
        (.ok (some ⟨"a#2", "n", .method, [.source ⟨"a"⟩ ⟨2, 5⟩ 2]⟩), ()) := by
  have hbuild : Recording.innerMethod.build = .ok Recording.innerMethod.freeze := rfl
  have hnests : Recording.innerMethod.NestsIn ⟨"a"⟩ := by decide +kernel
  have htext : Recording.innerMethod.freeze.text? ⟨"a"⟩ = some "m(n())".toList := rfl
  have hspan : (⟨3, 4⟩ : Span).start < (⟨3, 4⟩ : Span).stop := by decide
  refine ⟨hbuild, hnests, htext, ?_⟩
  obtain ⟨-, answer, hask, hanswer, -⟩ :=
    covering_way_and_containing_method hbuild hnests htext hspan (by decide) ()
  rw [hask, (hanswer _).2]
  refine ⟨1, _, ⟨⟨rfl, rfl, by decide, rfl⟩, ?_⟩, rfl⟩
  rintro j e ⟨he, -⟩
  match j with
  | 0 =>
    obtain rfl := Option.some.inj he
    decide
  | 1 =>
    obtain rfl := Option.some.inj he
    decide
  | j + 2 => cases he

end CallerClosure
