import CallerClosure.Symbol.Basic

/-!
# Sets of symbols in order of discovery

A `SymbolSet` starts with a seed and only ever grows. Members are told apart by their
identity; the first symbol with an identity is the one that stays.

* `SymbolSet.insert` is the set with one more symbol;
* `SymbolSet.add` also tells whether the identity of the symbol was new.
-/

namespace CallerClosure

/-- A seed and the symbols found after it, in order. -/
structure SymbolSet where
  seed : Symbol
  found : List Symbol

namespace SymbolSet

/-- The set of a seed alone. -/
def singleton (seed : Symbol) : SymbolSet := ⟨seed, []⟩

/-- The members in order of discovery, the seed first. -/
def toList (s : SymbolSet) : List Symbol := s.seed :: s.found

/-- The identities of the members in order of discovery. -/
def ids (s : SymbolSet) : List SymbolId := s.toList.map (·.id)

/-- The number of members. -/
def size (s : SymbolSet) : Nat := s.toList.length

/-- The member with an identity. -/
def get? (s : SymbolSet) (id : SymbolId) : Option Symbol :=
  s.toList.find? fun m => m.id == id

/-- Whether an identity belongs to a member. -/
def contains (s : SymbolSet) (id : SymbolId) : Bool := s.ids.contains id

/-- The set with one more symbol at its end, unless its identity is there already. -/
def insert (s : SymbolSet) (symbol : Symbol) : SymbolSet :=
  if s.contains symbol.id then s else { s with found := s.found ++ [symbol] }

/-- Whether the identity of a symbol is new to a set, and the set with this symbol at its end if
it is. -/
def add (s : SymbolSet) (symbol : Symbol) : Bool × SymbolSet :=
  if s.contains symbol.id then (false, s) else (true, { s with found := s.found ++ [symbol] })

variable {s : SymbolSet} {symbol : Symbol}

theorem mem_ids {id : SymbolId} : id ∈ s.ids ↔ ∃ m ∈ s.toList, m.id = id :=
  List.mem_map

theorem contains_eq_true_iff {id : SymbolId} : s.contains id = true ↔ id ∈ s.ids := by
  simp [contains]

/-- An identity belongs to a member exactly when there is a member to find under it. -/
theorem contains_eq_isSome_get? (s : SymbolSet) (id : SymbolId) :
    s.contains id = (s.get? id).isSome := by
  rw [Bool.eq_iff_iff, contains_eq_true_iff, get?, List.find?_isSome, mem_ids]
  simp

@[simp] theorem toList_singleton (seed : Symbol) : (singleton seed).toList = [seed] := rfl

theorem toList_insert (s : SymbolSet) (symbol : Symbol) :
    (s.insert symbol).toList =
      if s.contains symbol.id then s.toList else s.toList ++ [symbol] := by
  unfold insert
  split <;> simp [toList]

theorem insert_of_mem (h : symbol.id ∈ s.ids) : s.insert symbol = s :=
  if_pos (contains_eq_true_iff.2 h)

theorem toList_insert_of_notMem (h : symbol.id ∉ s.ids) :
    (s.insert symbol).toList = s.toList ++ [symbol] := by
  rw [toList_insert, if_neg (mt contains_eq_true_iff.1 h)]

theorem ids_insert_of_notMem (h : symbol.id ∉ s.ids) :
    (s.insert symbol).ids = s.ids ++ [symbol.id] := by
  rw [ids, toList_insert_of_notMem h, List.map_append]
  rfl

@[simp] theorem seed_insert (s : SymbolSet) (symbol : Symbol) :
    (s.insert symbol).seed = s.seed := by
  unfold insert
  split <;> rfl

theorem add_eq (s : SymbolSet) (symbol : Symbol) :
    s.add symbol = (!s.contains symbol.id, s.insert symbol) := by
  unfold add insert
  split <;> simp_all

end SymbolSet

end CallerClosure
