import CallerClosure.Outline.Document
import CallerClosure.Proofs.Outline.Spans
import CallerClosure.Proofs.Text.Numbers
import CallerClosure.Server.Answer
import CallerClosure.Symbol.Set

/-!
# The identities of declarations

The symbol of a declaration is told from other symbols of its document by the place of its name.

* `Document.identity_eq_iff`: two declarations of a document have one identity exactly when
  their names start at one position;
* `Document.range_of_flat`: an answer that does not say where names are puts them at the start
  of the declaration;
* `Document.ids_of_declarations` adds what follows for sets of symbols, and
  `Document.ids_coincide` that declarations of different spans may have one identity.
-/

namespace CallerClosure

/-- Of two new symbols a set keeps both, unless they have one identity. -/
theorem SymbolSet.toList_insert_insert {set : SymbolSet} {s t : Symbol} (hs : s.id ∉ set.ids)
    (ht : t.id ∉ set.ids) :
    ((set.insert s).insert t).toList =
      if s.id = t.id then set.toList ++ [s] else set.toList ++ [s, t] := by
  by_cases heq : s.id = t.id
  · have hold : t.id ∈ (set.insert s).ids := by simp [ids_insert_of_notMem hs, heq]
    rw [if_pos heq, insert_of_mem hold, toList_insert_of_notMem hs]
  · have hnew : t.id ∉ (set.insert s).ids := by
      simp [ids_insert_of_notMem hs, ht, Ne.symm heq]
    rw [if_neg heq, toList_insert_of_notMem hnew, toList_insert_of_notMem hs]
    simp

namespace Document

/-! ### Identities -/

theorem toList_identity (path : Path) (c : Declaration) :
    (identity path c).toList = path.text.toList ++ '#' ::
      (Nat.toDigits 10 c.entry.selection.start.line ++ ':' ::
        Nat.toDigits 10 c.entry.selection.start.character) := by
  show (path.text ++ "#" ++ c.entry.selection.start.line.repr ++ ":" ++
    c.entry.selection.start.character.repr).toList = _
  simp

/-- Declarations of one document have one identity when their names start at one position. -/
theorem identity_eq_iff {path : Path} {c e : Declaration} :
    identity path c = identity path e ↔
      c.entry.selection.start = e.entry.selection.start := by
  rw [← String.toList_inj, toList_identity, toList_identity, List.append_cancel_left_eq,
    List.cons.injEq, append_cons_inj_left (notMem_toDigits (by decide) _)
      (notMem_toDigits (by decide) _), toDigits_injective.eq_iff, toDigits_injective.eq_iff]
  cases c.entry.selection.start
  cases e.entry.selection.start
  simp

/-! ### Answers without names -/

/-- Where a server does not say where names are, they are put at the start of the declaration. -/
theorem range_of_flat {path : Path} {text : Text} {symbols : List NamedPlace} {c : Declaration}
    (h : c ∈ (ofOutline path text (OutlineAnswer.toOutline (some (.flat symbols)))).declarations) :
    c.entry.selection.start = c.entry.range.start := by
  have hflat : ∀ node ∈ symbols.map NamedPlace.toNode, node.children = [] := by
    intro node hnode
    obtain ⟨s, -, rfl⟩ := List.mem_map.1 hnode
    rfl
  have hentry := entry_mem_flatten h
  rw [OutlineAnswer.toOutline, Outline.flatten, flattenFrom_of_flat hflat] at hentry
  obtain ⟨node, hnode, hentry⟩ := List.mem_map.1 hentry
  obtain ⟨s, -, rfl⟩ := List.mem_map.1 hnode
  rw [← hentry]
  rfl

/-! ### Symbols -/

/-- **The symbols of two declarations have one identity exactly when their names start at one
position**, and then a set of symbols takes only the first of them. Where a server does not say
where names are, these are the declarations that start at one position. -/
theorem ids_of_declarations {d : Document} {i j : Nat} {c e : Declaration}
    (hi : d.declarations[i]? = some c) (hj : d.declarations[j]? = some e) :
    ∃ a b, d.symbol? i = some a ∧ d.symbol? j = some b ∧
      (a.id = b.id ↔ c.entry.selection.start = e.entry.selection.start) ∧
      (∀ set : SymbolSet, a.id ∉ set.ids → b.id ∉ set.ids →
        ((set.insert a).insert b).toList =
          if c.entry.selection.start = e.entry.selection.start then set.toList ++ [a]
          else set.toList ++ [a, b]) ∧
      ∀ path text symbols,
        d = ofOutline path text (OutlineAnswer.toOutline (some (.flat symbols))) →
          (a.id = b.id ↔ c.entry.range.start = e.entry.range.start) := by
  have hids : identity d.path c = identity d.path e ↔
      c.entry.selection.start = e.entry.selection.start := identity_eq_iff
  refine ⟨_, _, by rw [symbol?, hi]; rfl, by rw [symbol?, hj]; rfl, hids, ?_, ?_⟩
  · intro set ha hb
    rw [SymbolSet.toList_insert_insert ha hb]
    simp only [hids]
  · rintro path text symbols rfl
    have hc := range_of_flat (List.mem_of_getElem? hi)
    have he := range_of_flat (List.mem_of_getElem? hj)
    rw [← hc, ← he]
    exact hids

/-- Two functions that start at one place, one within the other, and a third one. -/
def nestedAtStart : Document :=
  .ofOutline ⟨"/ws/m.py"⟩ "i(t)\nt\nf\n".toList
    [⟨"i", .function, none, ⟨⟨0, 0⟩, ⟨0, 4⟩⟩, ⟨⟨0, 0⟩, ⟨0, 0⟩⟩, []⟩,
      ⟨"o", .function, none, ⟨⟨0, 0⟩, ⟨1, 1⟩⟩, ⟨⟨0, 0⟩, ⟨0, 0⟩⟩, []⟩,
      ⟨"f", .function, none, ⟨⟨2, 0⟩, ⟨2, 1⟩⟩, ⟨⟨2, 0⟩, ⟨2, 0⟩⟩, []⟩]

theorem ids_of_declarations_nestedAtStart :
    ∃ c e a b, nestedAtStart.declarations[0]? = some c ∧ nestedAtStart.declarations[2]? = some e ∧
      c.entry.selection.start ≠ e.entry.selection.start ∧
      nestedAtStart.symbol? 0 = some a ∧ nestedAtStart.symbol? 2 = some b ∧ a.id ≠ b.id ∧
      (((SymbolSet.singleton ⟨"t", "t", .function, []⟩).insert a).insert b).toList =
        [⟨"t", "t", .function, []⟩, a, b] := by
  have hc : nestedAtStart.declarations[0]? = some
      ⟨⟨"i", .function, ⟨⟨0, 0⟩, ⟨0, 4⟩⟩, ⟨⟨0, 0⟩, ⟨0, 0⟩⟩, none⟩, ⟨0, 4⟩, ⟨0, 0⟩, some 1⟩ := rfl
  have he : nestedAtStart.declarations[2]? = some
      ⟨⟨"f", .function, ⟨⟨2, 0⟩, ⟨2, 1⟩⟩, ⟨⟨2, 0⟩, ⟨2, 0⟩⟩, none⟩, ⟨7, 8⟩, ⟨7, 7⟩, none⟩ := rfl
  obtain ⟨a, b, ha, hb, hids, hset, -⟩ := ids_of_declarations hc he
  obtain rfl := Option.some.inj (ha.symm.trans (show _ =
    some ⟨"/ws/m.py#0:0", "i", .function, [.source ⟨"/ws/m.py"⟩ ⟨0, 4⟩ 0]⟩ from rfl))
  obtain rfl := Option.some.inj (hb.symm.trans (show _ =
    some ⟨"/ws/m.py#2:0", "f", .function, [.source ⟨"/ws/m.py"⟩ ⟨7, 8⟩ 7]⟩ from rfl))
  have hstarts : (⟨0, 0⟩ : Position) ≠ ⟨2, 0⟩ := by decide
  refine ⟨_, _, _, _, hc, he, hstarts, ha, hb, fun heq => hstarts (hids.1 heq), ?_⟩
  exact (hset (.singleton ⟨"t", "t", .function, []⟩) (by decide) (by decide)).trans
    (if_neg hstarts)

/-- **Declarations with different spans may have one identity**, and then a set of symbols takes
the first of them for the other one. -/
theorem ids_coincide :
    ∃ c e a b, nestedAtStart.declarations[0]? = some c ∧ nestedAtStart.declarations[1]? = some e ∧
      c.span ≠ e.span ∧ nestedAtStart.symbol? 0 = some a ∧ nestedAtStart.symbol? 1 = some b ∧
      a.id = b.id ∧ a.locations ≠ b.locations ∧ ((SymbolSet.singleton a).insert b).toList = [a] :=
  ⟨_, _, _, _, rfl, rfl, by decide, rfl, rfl, rfl, by decide, rfl⟩

end Document

end CallerClosure
