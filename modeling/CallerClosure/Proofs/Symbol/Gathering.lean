import CallerClosure.Symbol.Set
import Mathlib.Data.List.Induction
import Mathlib.Data.List.Nodup

/-!
# What was put into a set

A set starts with a seed, and symbols are put into it one after the other. It holds the first
symbol with each identity, and nothing that comes later makes a difference to that.

* `SymbolSet.gather` is the set of a seed and of the symbols that are put into it;
* `SymbolSet.gather_induction` carries an invariant from one symbol to all of them;
* `toList_gather` lists its members, `get?_gather` looks one of them up, and `nodup_ids_gather`
  says that no identity is there twice;
* `perm_gather_iff`: two sets have the same members exactly when the first symbol with each
  identity is the same.
-/

namespace CallerClosure

/-- The symbols of a list without those that have the identity of an earlier one. -/
def Symbol.firsts (symbols : List Symbol) : List Symbol :=
  symbols.eraseDupsBy fun a b => a.id == b.id

namespace SymbolSet

/-- The set of a seed and of symbols that are put into it, in order. -/
def gather (seed : Symbol) (symbols : List Symbol) : SymbolSet :=
  symbols.foldl insert (singleton seed)

variable {s : SymbolSet} {symbol m : Symbol}

theorem nodup_ids_insert (h : s.ids.Nodup) (symbol : Symbol) : (s.insert symbol).ids.Nodup := by
  by_cases hid : symbol.id ∈ s.ids
  · rwa [insert_of_mem hid]
  · rw [ids_insert_of_notMem hid]
    exact h.append (List.nodup_singleton _) (by simpa using hid)

/-- What is put into a set comes after its members, unless it has an identity that was there. -/
theorem toList_foldl_insert (symbols : List Symbol) (s : SymbolSet) :
    (symbols.foldl insert s).toList =
      s.toList ++ Symbol.firsts (symbols.filter fun m => decide (m.id ∉ s.ids)) := by
  induction symbols generalizing s with
  | nil => simp [Symbol.firsts]
  | cons symbol rest ih =>
    rw [List.foldl_cons, ih]
    by_cases hid : symbol.id ∈ s.ids
    · rw [insert_of_mem hid, List.filter_cons_of_neg (by simpa using hid)]
    · have hids : ∀ m : Symbol, m.id ∉ (s.insert symbol).ids ↔ m.id ∉ s.ids ∧ m.id ≠ symbol.id := by
        intro m
        simp [ids_insert_of_notMem hid]
      rw [toList_insert_of_notMem hid, List.filter_cons_of_pos (by simpa using hid),
        Symbol.firsts, Symbol.firsts, List.eraseDupsBy_cons, List.filter_filter,
        List.append_assoc, List.singleton_append]
      congr 3
      refine List.filter_congr fun m _ => ?_
      simp only [hids, Bool.decide_and, Bool.and_comm]
      simp

/-- **The members are the first symbols with their identities**, in order. -/
theorem toList_gather (seed : Symbol) (symbols : List Symbol) :
    (gather seed symbols).toList = Symbol.firsts (seed :: symbols) := by
  rw [gather, toList_foldl_insert, Symbol.firsts, Symbol.firsts, List.eraseDupsBy_cons]
  simp [ids]

/-- What holds of a seed alone, and goes on to hold when one more symbol is put into the set, holds
of the whole set and of all symbols that were put into it. -/
theorem gather_induction {P : List Symbol → SymbolSet → Prop} {seed : Symbol}
    (start : P [seed] (singleton seed))
    (step : ∀ given s symbol, P given s → P (given ++ [symbol]) (s.insert symbol))
    (symbols : List Symbol) : P (seed :: symbols) (gather seed symbols) := by
  induction symbols using List.reverseRecOn with
  | nil => exact start
  | append_singleton rest symbol ih =>
    rw [gather, List.foldl_append]
    exact step (seed :: rest) _ symbol ih

theorem nodup_ids_gather (seed : Symbol) (symbols : List Symbol) :
    (gather seed symbols).ids.Nodup :=
  gather_induction (P := fun _ s => s.ids.Nodup) (List.nodup_singleton _)
    (fun _ _ symbol h => nodup_ids_insert h symbol) symbols

theorem get?_insert (s : SymbolSet) (symbol : Symbol) (id : SymbolId) :
    (s.insert symbol).get? id = (s.toList ++ [symbol]).find? fun m => m.id == id := by
  by_cases hid : symbol.id ∈ s.ids
  · rw [insert_of_mem hid, List.find?_append, ← get?]
    by_cases heq : symbol.id = id
    · obtain ⟨m, hm, hmid⟩ := mem_ids.1 hid
      have hsome : (s.get? id).isSome = true :=
        List.find?_isSome.2 ⟨m, hm, by simp [hmid, heq]⟩
      rw [Option.or_of_isSome hsome]
    · simp [heq]
  · rw [get?, toList_insert_of_notMem hid]

/-- **The first symbol with an identity stays.** -/
theorem get?_gather (seed : Symbol) (symbols : List Symbol) (id : SymbolId) :
    (gather seed symbols).get? id = (seed :: symbols).find? fun m => m.id == id := by
  refine gather_induction (P := fun given s => s.get? id = given.find? fun m => m.id == id) rfl
    (fun given s symbol h => ?_) symbols
  rw [get?_insert, List.find?_append, List.find?_append, ← h, get?]

/-- A set in which no identity is twice has its members under their identities. -/
theorem mem_toList_iff (h : s.ids.Nodup) : m ∈ s.toList ↔ s.get? m.id = some m := by
  constructor
  · intro hm
    have hsome : (s.get? m.id).isSome = true := List.find?_isSome.2 ⟨m, hm, by simp⟩
    obtain ⟨n, hn⟩ := Option.isSome_iff_exists.1 hsome
    have hid : n.id = m.id := by simpa using List.find?_some hn
    rw [hn, List.inj_on_of_nodup_map h (List.mem_of_find?_eq_some hn) hm hid]
  · exact List.mem_of_find?_eq_some

theorem perm_iff {t : SymbolSet} (hs : s.ids.Nodup) (ht : t.ids.Nodup) :
    s.toList.Perm t.toList ↔ ∀ id, s.get? id = t.get? id := by
  constructor
  · intro h id
    cases hid : s.get? id with
    | none =>
      symm
      rw [get?, List.find?_eq_none] at hid ⊢
      exact fun m hm => hid m (h.mem_iff.2 hm)
    | some m =>
      have hmid : m.id = id := by simpa using List.find?_some hid
      rw [← hmid, (mem_toList_iff ht).1 (h.mem_iff.1 (List.mem_of_find?_eq_some hid))]
  · intro h
    refine (List.perm_ext_iff_of_nodup hs.of_map ht.of_map).2 fun m => ?_
    rw [mem_toList_iff hs, mem_toList_iff ht, h]

/-- **Two sets have the same members exactly when they met the same symbol first**, for every
identity. -/
theorem perm_gather_iff {seed seed' : Symbol} {symbols symbols' : List Symbol} :
    (gather seed symbols).toList.Perm (gather seed' symbols').toList ↔
      ∀ id, (seed :: symbols).find? (fun m => m.id == id) =
        (seed' :: symbols').find? fun m => m.id == id := by
  rw [perm_iff (nodup_ids_gather _ _) (nodup_ids_gather _ _)]
  simp only [get?_gather]

end SymbolSet

end CallerClosure
