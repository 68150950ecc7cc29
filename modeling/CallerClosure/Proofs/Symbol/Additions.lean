import CallerClosure.Proofs.Symbol.Gathering

/-!
# Symbols that are added one after the other

Whoever adds a symbol to a set is told whether its identity was new. Here a set is followed through
any sequence of additions, whatever symbols share an identity in it.

* `SymbolSet.addAll` adds symbols one after the other and collects the answers;
* `Symbol.IsFirst` says of a symbol that it is the first one of a list with an identity;
* `SymbolSet.ids_gather` lists the identities of a set, `SymbolSet.seed_gather` finds its seed, and
  `SymbolSet.toList_gather_isPrefix` says that members stay where they are;
* `MemberTable` is a set that is kept as a table, in which members are filed under identities and
  the seed is read off the first place; `SymbolSet.add_table` says that it answers as the set does;
* `SymbolSet.answers_of_additions` is the main statement.
-/

namespace CallerClosure

/-! ### Steps that answer -/

section Steps

variable {σ τ α β : Type}

/-- The answers to a step that is taken for one element of a list after the other, and the state
after the last one. -/
def answersAlong (step : σ → α → β × σ) (s : σ) : List α → List β × σ
  | [] => ([], s)
  | a :: rest =>
    let (answer, t) := step s a
    let (answers, u) := answersAlong step t rest
    (answer :: answers, u)

theorem snd_answersAlong (step : σ → α → β × σ) (s : σ) (as : List α) :
    (answersAlong step s as).2 = as.foldl (fun s a => (step s a).2) s := by
  induction as generalizing s with
  | nil => rfl
  | cons a rest ih => exact ih _

/-- The answer for an element is given in the state after the elements before it. -/
theorem getElem?_answersAlong (step : σ → α → β × σ) (s : σ) (as : List α) (k : Nat) :
    (answersAlong step s as).1[k]? =
      as[k]?.map fun a => (step (answersAlong step s (as.take k)).2 a).1 := by
  induction as generalizing s k with
  | nil => rfl
  | cons a rest ih =>
    cases k with
    | zero => rfl
    | succ k => exact ih (step s a).2 k

/-- States that are kept in another form give the same answers if they do so in each step. -/
theorem answersAlong_form {step : σ → α → β × σ} {step' : τ → α → β × τ} {form : σ → τ}
    (h : ∀ s a, step' (form s) a = ((step s a).1, form (step s a).2)) (s : σ) (as : List α) :
    answersAlong step' (form s) as =
      ((answersAlong step s as).1, form (answersAlong step s as).2) := by
  induction as generalizing s with
  | nil => rfl
  | cons a rest ih => simp only [answersAlong, h, ih]

end Steps

/-! ### The set after additions -/

/-- A symbol is the first one of a list with an identity. -/
def Symbol.IsFirst (m : Symbol) (id : SymbolId) (given : List Symbol) : Prop :=
  m.id = id ∧ ∃ before after, given = before ++ m :: after ∧ ∀ n ∈ before, n.id ≠ id

theorem Symbol.find?_eq_some_iff_isFirst {m : Symbol} {id : SymbolId} {given : List Symbol} :
    given.find? (fun n => n.id == id) = some m ↔ m.IsFirst id given := by
  simp [List.find?_eq_some_iff_append, IsFirst]

namespace SymbolSet

variable {s : SymbolSet}

/-- The answers to additions one after the other, and the set after them. -/
def addAll (s : SymbolSet) (symbols : List Symbol) : List Bool × SymbolSet :=
  answersAlong add s symbols

theorem addAll_cons (s : SymbolSet) (symbol : Symbol) (rest : List Symbol) :
    s.addAll (symbol :: rest) =
      ((s.add symbol).1 :: ((s.add symbol).2.addAll rest).1, ((s.add symbol).2.addAll rest).2) :=
  rfl

theorem snd_addAll_singleton (seed : Symbol) (symbols : List Symbol) :
    ((singleton seed).addAll symbols).2 = gather seed symbols := by
  simp only [addAll, snd_answersAlong, add_eq]
  rfl

/-- If the identities of a set are those of a list without repetitions, then they still are so when
one more symbol is put into the set and its identity into the list. -/
theorem ids_insert {given : List SymbolId} (h : s.ids = given.eraseDups) (symbol : Symbol) :
    (s.insert symbol).ids = (given ++ [symbol.id]).eraseDups := by
  have hiff : symbol.id ∈ s.ids ↔ symbol.id ∈ given := by rw [h, List.mem_eraseDups]
  rw [List.eraseDups_append, ← h]
  by_cases hid : symbol.id ∈ s.ids
  · rw [insert_of_mem hid]
    simp [List.removeAll, hiff.1 hid]
  · rw [ids_insert_of_notMem hid]
    simp [List.removeAll, mt hiff.2 hid, List.eraseDups_cons]

/-- **Each identity is listed once, where it occurs first.** -/
theorem ids_gather (seed : Symbol) (symbols : List Symbol) :
    (gather seed symbols).ids = ((seed :: symbols).map (·.id)).eraseDups := by
  refine gather_induction (P := fun given s => s.ids = (given.map (·.id)).eraseDups) rfl
    (fun given s symbol h => ?_) symbols
  rw [ids_insert h, List.map_append]
  rfl

theorem contains_gather (seed : Symbol) (symbols : List Symbol) (id : SymbolId) :
    (gather seed symbols).contains id = decide (id ∈ (seed :: symbols).map (·.id)) := by
  rw [Bool.eq_iff_iff, contains_eq_true_iff, ids_gather, List.mem_eraseDups, decide_eq_true_iff]

theorem seed_gather (seed : Symbol) (symbols : List Symbol) : (gather seed symbols).seed = seed :=
  gather_induction (P := fun _ s => s.seed = seed) rfl
    (fun _ s symbol h => (seed_insert s symbol).trans h) symbols

/-- Members stay where they are when more symbols are put into the set. -/
theorem toList_gather_isPrefix (seed : Symbol) (symbols later : List Symbol) :
    (gather seed symbols).toList <+: (gather seed (symbols ++ later)).toList := by
  have hlater : gather seed (symbols ++ later) = later.foldl insert (gather seed symbols) :=
    List.foldl_append
  rw [hlater, toList_foldl_insert]
  exact List.prefix_append _ _

theorem size_add (s : SymbolSet) (symbol : Symbol) :
    (s.add symbol).2.size = s.size + (s.add symbol).1.toNat := by
  unfold add
  split <;> simp [size, toList]

/-- A set grows by the symbols with a new identity. -/
theorem size_addAll (s : SymbolSet) (symbols : List Symbol) :
    (s.addAll symbols).2.size = s.size + (s.addAll symbols).1.count true := by
  induction symbols generalizing s with
  | nil => rfl
  | cons symbol rest ih =>
    rw [addAll_cons, ih, size_add, List.count_cons, Nat.add_assoc, Nat.add_comm (Bool.toNat _)]
    cases (s.add symbol).1 <;> rfl

end SymbolSet

/-! ### The table of members -/

/-- Members that are filed under identities, in the order in which the identities came. -/
structure MemberTable where
  entries : List (SymbolId × Symbol)

namespace MemberTable

/-- The members in the order of the table. -/
def members (t : MemberTable) : List Symbol := t.entries.map (·.2)

/-- The identities in the order of the table. -/
def ids (t : MemberTable) : List SymbolId := t.entries.map (·.1)

/-- The number of entries. -/
def size (t : MemberTable) : Nat := t.entries.length

/-- Whether something is filed under an identity. -/
def contains (t : MemberTable) (id : SymbolId) : Bool := t.ids.contains id

/-- What is filed under an identity. -/
def get? (t : MemberTable) (id : SymbolId) : Option Symbol :=
  (t.entries.find? fun e => e.1 == id).map (·.2)

/-- The member in the first place; there is none in an empty table. -/
def seed? (t : MemberTable) : Option Symbol := t.entries[0]?.map (·.2)

/-- File a symbol under an identity: in the place of what was filed under it, or else at the end. -/
def file (t : MemberTable) (id : SymbolId) (symbol : Symbol) : MemberTable :=
  if t.contains id then ⟨t.entries.map fun e => if e.1 == id then (id, symbol) else e⟩
  else ⟨t.entries ++ [(id, symbol)]⟩

/-- The table of a seed alone. -/
def singleton (seed : Symbol) : MemberTable := file ⟨[]⟩ seed.id seed

/-- Whether the identity of a symbol is new to a table, and the table with this symbol if it is. -/
def add (t : MemberTable) (symbol : Symbol) : Bool × MemberTable :=
  if t.contains symbol.id then (false, t) else (true, t.file symbol.id symbol)

/-- The answers to additions one after the other, and the table after them. -/
def addAll (t : MemberTable) (symbols : List Symbol) : List Bool × MemberTable :=
  answersAlong add t symbols

/-- A table tells what a set tells; in its first place there always is a seed. -/
structure Shows (t : MemberTable) (s : SymbolSet) : Prop where
  seed? : t.seed? = some s.seed
  members : t.members = s.toList
  ids : t.ids = s.ids
  size : t.size = s.size
  contains : ∀ id, t.contains id = s.contains id
  get? : ∀ id, t.get? id = s.get? id

end MemberTable

namespace SymbolSet

/-- The members of a set, each filed under its own identity. -/
def table (s : SymbolSet) : MemberTable := ⟨s.toList.map fun m => (m.id, m)⟩

theorem ids_table (s : SymbolSet) : s.table.ids = s.ids := by
  simp [MemberTable.ids, table, ids]

theorem contains_table (s : SymbolSet) (id : SymbolId) : s.table.contains id = s.contains id := by
  rw [MemberTable.contains, ids_table, contains]

theorem get?_table (s : SymbolSet) (id : SymbolId) : s.table.get? id = s.get? id := by
  rw [MemberTable.get?, table, List.find?_map, Option.map_map]
  exact Option.map_id'

theorem shows_table (s : SymbolSet) : s.table.Shows s where
  seed? := rfl
  members := by simp [MemberTable.members, table, Function.comp_def]
  ids := s.ids_table
  size := by simp [MemberTable.size, table, size]
  contains := s.contains_table
  get? := s.get?_table

theorem table_singleton (seed : Symbol) : (singleton seed).table = MemberTable.singleton seed := rfl

/-- **A table answers as its set does**, and goes on to be the table of this set. Nothing that is
filed is ever replaced. -/
theorem add_table (s : SymbolSet) (symbol : Symbol) :
    s.table.add symbol = ((s.add symbol).1, (s.add symbol).2.table) := by
  unfold MemberTable.add add
  rw [contains_table]
  split
  case isTrue h => rfl
  case isFalse h =>
    rw [MemberTable.file, contains_table, if_neg h]
    simp [table, toList]

theorem addAll_table (s : SymbolSet) (symbols : List Symbol) :
    s.table.addAll symbols = ((s.addAll symbols).1, (s.addAll symbols).2.table) :=
  answersAlong_form add_table s symbols

/-- **A set keeps the first symbol with each identity.** Let symbols be added to the set of a seed,
in any order, with any identities and with any other data. An addition answers that the identity
was new exactly when neither the seed nor a symbol before has it. In the end the identities are
listed once each, in the order in which they occur first; the seed is the one of the start; and
under an identity there is the very symbol that came first with it, if there is one, and nothing
else belongs to the set. The number of members counts the seed and the additions of new identities,
and whatever is added later leaves each member where it is, so this number never goes down. A table
in which the seed is read off the first place gives the same answers throughout. -/
theorem answers_of_additions (seed : Symbol) (symbols : List Symbol) :
    ∃ answers, (singleton seed).addAll symbols = (answers, gather seed symbols) ∧
      (∀ k : Nat, answers[k]? = symbols[k]?.map fun m =>
        decide (m.id ∉ (seed :: symbols.take k).map (·.id))) ∧
      (gather seed symbols).ids = ((seed :: symbols).map (·.id)).eraseDups ∧
      (gather seed symbols).seed = seed ∧
      (∀ id m, (gather seed symbols).get? id = some m ↔ m.IsFirst id (seed :: symbols)) ∧
      (∀ id, (gather seed symbols).contains id = ((gather seed symbols).get? id).isSome) ∧
      1 ≤ (gather seed symbols).size ∧ (gather seed symbols).size = 1 + answers.count true ∧
      (∀ later, (gather seed symbols).toList <+: (gather seed (symbols ++ later)).toList ∧
        (gather seed symbols).size ≤ (gather seed (symbols ++ later)).size) ∧
      ∃ table, (MemberTable.singleton seed).addAll symbols = (answers, table) ∧
        table.Shows (gather seed symbols) := by
  have hset := snd_addAll_singleton seed symbols
  have hanswers : ∀ k : Nat, ((singleton seed).addAll symbols).1[k]? =
      symbols[k]?.map fun m => decide (m.id ∉ (seed :: symbols.take k).map (·.id)) := by
    intro k
    rw [addAll, getElem?_answersAlong, ← addAll, snd_addAll_singleton]
    simp only [add_eq, contains_gather, decide_not]
  have hsize : (gather seed symbols).size =
      1 + ((singleton seed).addAll symbols).1.count true := by
    rw [← hset, size_addAll]
    rfl
  have htable : (MemberTable.singleton seed).addAll symbols =
      (((singleton seed).addAll symbols).1, (gather seed symbols).table) := by
    rw [← table_singleton, addAll_table, hset]
  refine ⟨((singleton seed).addAll symbols).1, Prod.ext rfl hset, hanswers, ids_gather _ _,
    seed_gather _ _, fun id m => ?_, contains_eq_isSome_get? _, by omega, hsize,
    fun later => ?_, (gather seed symbols).table, htable, shows_table _⟩
  · rw [get?_gather, Symbol.find?_eq_some_iff_isFirst]
  · have hstays := toList_gather_isPrefix seed symbols later
    exact ⟨hstays, hstays.length_le⟩

/-- A class with the identity of the seed is refused, and so is a second symbol `b`. -/
example :
    (singleton ⟨"a", "f", .method, []⟩).addAll
        [⟨"b", "g", .method, []⟩, ⟨"a", "C", .class, []⟩, ⟨"b", "h", .function, []⟩] =
      ([true, false, false], ⟨⟨"a", "f", .method, []⟩, [⟨"b", "g", .method, []⟩]⟩) := by
  rfl

end SymbolSet

end CallerClosure
