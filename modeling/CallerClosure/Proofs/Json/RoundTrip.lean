import CallerClosure.Outline.Codec
import Mathlib.Algebra.Group.Nat.Defs

/-!
# What is written as JSON is read back

Offsets are written with 64 bits and the numbers of a position with 32 bits. A value whose numbers
fit is read back from its JSON form as it was, in all of its parts.

* `Symbol.Storable`, `OutlineNode.Storable` and the like say that the numbers of a value fit;
* `Json.Decoder.offset_nat`, `Json.Decoder.pair_obj` and `Json.Decoder.items_map` are the rules
  for numbers, records of two fields and lists. They go both ways: a value is read back exactly
  when its parts are;
* `OutlineNode.ofJsonWithin_toJson` goes down a tree of outline nodes, which is read to the depth
  of its JSON form;
* `ofJson_toJson_iff` is the main statement.
-/

namespace CallerClosure

/-! ### Numbers that fit -/

/-- The bounds of a span fit into 64 bits, in whatever order they are. -/
def Span.Storable (s : Span) : Prop := s.start < 2 ^ 64 ∧ s.stop < 2 ^ 64

/-- The offsets of a location fit into 64 bits. -/
def SymbolLocation.Storable : SymbolLocation → Prop
  | source _ span nameOffset => span.Storable ∧ nameOffset < 2 ^ 64
  | metadata _ => True

/-- The offsets of a symbol fit into 64 bits. -/
def Symbol.Storable (s : Symbol) : Prop := ∀ location ∈ s.locations, location.Storable

/-- The bounds of a reference location fit into 64 bits. -/
def ReferenceLocation.Storable (r : ReferenceLocation) : Prop := r.span.Storable

/-- The line and the column of a position fit into 32 bits. -/
def Position.Storable (p : Position) : Prop := p.line < 2 ^ 32 ∧ p.character < 2 ^ 32

/-- The numbers of a range fit into 32 bits. -/
def Range.Storable (r : Range) : Prop := r.start.Storable ∧ r.stop.Storable

/-- The numbers of a file range fit into 32 bits. -/
def FileRange.Storable (r : FileRange) : Prop := r.range.Storable

/-- The numbers of an outline node and of all nodes below it fit into 32 bits. -/
inductive OutlineNode.Storable : OutlineNode → Prop
  | node {name : String} {kind : SymbolKind} {detail : Option String} {range selection : Range}
      {children : List OutlineNode} (hrange : range.Storable) (hselection : selection.Storable)
      (hchildren : ∀ child ∈ children, OutlineNode.Storable child) :
      OutlineNode.Storable ⟨name, kind, detail, range, selection, children⟩

/-! ### Numbers, records and lists -/

namespace Json

/-- An item is nested less deeply than its array. -/
theorem nesting_le_of_mem_items {j : Json} {items : List Json} (h : j ∈ items) :
    j.nesting ≤ nestingOfItems items := by
  induction items with
  | nil => cases h
  | cons first rest ih =>
    rw [nestingOfItems]
    rcases List.mem_cons.1 h with rfl | h
    · split <;> omega
    · have hrest := ih h
      split <;> omega

/-- The value of a field is nested less deeply than its object. -/
theorem nesting_le_of_mem_fields {name : String} {j : Json} {fields : List (String × Json)}
    (h : (name, j) ∈ fields) : j.nesting ≤ nestingOfFields fields := by
  induction fields with
  | nil => cases h
  | cons first rest ih =>
    obtain ⟨key, value⟩ := first
    rw [nestingOfFields]
    rcases List.mem_cons.1 h with heq | h
    · obtain rfl := (Prod.mk.inj heq).2
      split <;> omega
    · have hrest := ih h
      split <;> omega

namespace Decoder

variable {α β : Type}

/-- A natural number is read back when it does not exceed the bound of its width. -/
theorem integer_nat (type : String) (high n : Nat) :
    (integer type 0 high (.nat n)).map Int.toNat = .ok n ↔ n ≤ high := by
  have hread : integer type 0 high (.nat n) =
      if (0 : Int) ≤ n ∧ (n : Int) ≤ high then .ok (n : Int)
      else .error (.wrongValue (describe (.int n)) type) := rfl
  rw [hread]
  by_cases h : n ≤ high
  · rw [if_pos (by omega)]
    simpa [Except.map] using h
  · rw [if_neg (by omega)]
    simpa [Except.map] using h

theorem offset_nat (n : Nat) : offset (.nat n) = .ok n ↔ n < 2 ^ 64 :=
  (integer_nat "u64" 18446744073709551615 n).trans (by omega)

theorem unsigned32_nat (n : Nat) : unsigned32 (.nat n) = .ok n ↔ n < 2 ^ 32 :=
  (integer_nat "u32" 4294967295 n).trans (by omega)

/-- A record of two fields is read back when both fields are. -/
theorem pair_obj {type nameA nameB : String} {a : Decoder α} {b : Decoder β} {x y : Json} {u : α}
    {v : β} (hne : nameA ≠ nameB) :
    pair type nameA a nameB b (.obj [(nameA, x), (nameB, y)]) = .ok (u, v) ↔
      a x = .ok u ∧ b y = .ok v := by
  have hx : lastField? nameA [(nameA, x), (nameB, y)] = some x := by
    simp [lastField?, hne.symm]
  have hy : lastField? nameB [(nameA, x), (nameB, y)] = some y := by
    simp [lastField?]
  rw [pair, hx, hy, Option.map_some, Option.map_some]
  rcases a x with e | u' <;> rcases b y with f | v' <;> simp

/-- A list is read back when all of its items are. -/
theorem items_map {decode : Decoder α} {encode : α → Json} {as : List α} :
    items decode (as.map encode) = .ok as ↔ ∀ a ∈ as, decode (encode a) = .ok a := by
  induction as with
  | nil => simp [items]
  | cons a rest ih =>
    rw [List.map_cons, items, List.forall_mem_cons, ← ih]
    cases decode (encode a) with
    | error e => simp
    | ok b => cases items decode (rest.map encode) <;> simp

/-- A decoder that reads one part after the other succeeds when all of its steps do. -/
theorem bind_eq_ok {r : Except DecodeError α} {next : α → Except DecodeError β} {b : β} :
    (r >>= next) = .ok b ↔ ∃ a, r = .ok a ∧ next a = .ok b := by
  cases r <;> simp [bind, Except.bind]

/-- A value made of its parts is read back when the parts are. -/
theorem map_eq_ok {r : Except DecodeError α} {make : α → β} (parts : β → α)
    (hparts : ∀ a, parts (make a) = a) (hmake : ∀ b, make (parts b) = b) {b : β} :
    r.map make = .ok b ↔ r = .ok (parts b) := by
  cases r with
  | error e => simp [Except.map]
  | ok a =>
    have hiff : make a = b ↔ a = parts b :=
      ⟨fun h => by rw [← h, hparts], fun h => by rw [h, hmake]⟩
    simpa [Except.map] using hiff

theorem optional_ofOption {decode : Decoder α} {encode : α → Json}
    (hnull : ∀ a, encode a ≠ .null) (h : ∀ a, decode (encode a) = .ok a) (o : Option α) :
    optional decode (.ofOption encode o) = .ok o := by
  cases o with
  | none => rfl
  | some a =>
    rw [ofOption, optional, h a]
    · rfl
    · exact hnull a

end Decoder

end Json

open Json (Decoder)

/-! ### Symbols and their locations -/

theorem Path.ofJson_toJson (p : Path) : ofJson p.toJson = .ok p := rfl

theorem Span.ofJson_toJson (s : Span) : ofJson s.toJson = .ok s ↔ s.Storable := by
  refine (Decoder.map_eq_ok (fun s => (s.start, s.stop)) (fun _ => rfl) fun _ => rfl).trans ?_
  rw [toJson, Decoder.pair_obj (by decide), Decoder.offset_nat, Decoder.offset_nat, Storable]

theorem SymbolKind.ofJson_toJson (k : SymbolKind) : ofJson k.toJson = .ok k := by
  cases k <;> rfl

/-- A location is read back by its tag. -/
theorem SymbolLocation.ofJson_toJson (l : SymbolLocation) :
    ofJson l.toJson = .ok l ↔ l.Storable := by
  cases l with
  | metadata container => exact iff_of_true rfl trivial
  | source document span nameOffset =>
    have hparts : ofJson (toJson (source document span nameOffset)) =
          .ok (source document span nameOffset) ↔
        Span.ofJson span.toJson = .ok span ∧ Decoder.offset (.nat nameOffset) = .ok nameOffset := by
      simp [ofJson, toJson, ofContent, Decoder.fields, Decoder.required, Json.lastField?,
        Decoder.bind_eq_ok, Decoder.string, pure, Except.pure, Path.ofJson_toJson]
    rw [hparts, Span.ofJson_toJson, Decoder.offset_nat, Storable]

/-- A symbol is read back when its locations are. -/
theorem Symbol.ofJson_toJson (s : Symbol) : ofJson s.toJson = .ok s ↔ s.Storable := by
  obtain ⟨id, name, kind, locations⟩ := s
  have hparts : ofJson (toJson ⟨id, name, kind, locations⟩) = .ok ⟨id, name, kind, locations⟩ ↔
      Decoder.list SymbolLocation.ofJson (.ofList SymbolLocation.toJson locations) =
        .ok locations := by
    simp [ofJson, toJson, Decoder.fields, Decoder.required, Json.lastField?, Decoder.bind_eq_ok,
      Decoder.string, pure, Except.pure, SymbolKind.ofJson_toJson]
  rw [hparts, Json.ofList, Decoder.list, Decoder.items_map, Storable]
  exact forall₂_congr fun l _ => l.ofJson_toJson

theorem ReferenceLocation.ofJson_toJson (r : ReferenceLocation) :
    ofJson r.toJson = .ok r ↔ r.Storable := by
  refine (Decoder.map_eq_ok (fun r => (r.document, r.span)) (fun _ => rfl) fun _ => rfl).trans ?_
  rw [toJson, Decoder.pair_obj (by decide), Span.ofJson_toJson, Storable]
  exact and_iff_right r.document.ofJson_toJson

/-! ### Outlines -/

theorem Position.ofJson_toJson (p : Position) : ofJson p.toJson = .ok p ↔ p.Storable := by
  refine (Decoder.map_eq_ok (fun p => (p.line, p.character)) (fun _ => rfl) fun _ => rfl).trans ?_
  rw [toJson, Decoder.pair_obj (by decide), Decoder.unsigned32_nat, Decoder.unsigned32_nat,
    Storable]

theorem Range.ofJson_toJson (r : Range) : ofJson r.toJson = .ok r ↔ r.Storable := by
  refine (Decoder.map_eq_ok (fun r => (r.start, r.stop)) (fun _ => rfl) fun _ => rfl).trans ?_
  rw [toJson, Decoder.pair_obj (by decide), Position.ofJson_toJson, Position.ofJson_toJson,
    Storable]

theorem FileRange.ofJson_toJson (r : FileRange) : ofJson r.toJson = .ok r ↔ r.Storable := by
  refine (Decoder.map_eq_ok (fun r => (r.file, r.range)) (fun _ => rfl) fun _ => rfl).trans ?_
  rw [toJson, Decoder.pair_obj (by decide), Range.ofJson_toJson, Storable]
  exact and_iff_right r.file.ofJson_toJson

theorem Outline.toItems_eq_map (nodes : Outline) :
    toItems nodes = nodes.map OutlineNode.toJson := by
  induction nodes with
  | nil => rfl
  | cons node rest ih => rw [toItems, ih, List.map_cons]

namespace OutlineNode

theorem storable_iff {name : String} {kind : SymbolKind} {detail : Option String}
    {range selection : Range} {children : List OutlineNode} :
    Storable ⟨name, kind, detail, range, selection, children⟩ ↔
      range.Storable ∧ selection.Storable ∧ ∀ child ∈ children, child.Storable :=
  ⟨fun ⟨hrange, hselection, hchildren⟩ => ⟨hrange, hselection, hchildren⟩,
    fun h => .node h.1 h.2.1 h.2.2⟩

/-- The JSON form of a node is nested more deeply than those of its children. -/
theorem nesting_toJson_lt {node child : OutlineNode} (h : child ∈ node.children) :
    child.toJson.nesting < node.toJson.nesting := by
  obtain ⟨name, kind, detail, range, selection, children⟩ := node
  have hitem : child.toJson ∈ Outline.toItems children := by
    rw [Outline.toItems_eq_map]
    exact List.mem_map_of_mem h
  have harray : child.toJson.nesting + 1 ≤ (Json.arr (Outline.toItems children)).nesting :=
    Nat.succ_le_succ (Json.nesting_le_of_mem_items hitem)
  refine Nat.lt_succ_of_lt (Nat.lt_of_lt_of_le harray ?_)
  exact Json.nesting_le_of_mem_fields (List.mem_of_getLast? rfl)

/-- Within the nesting of its JSON form, a tree is read back when the numbers of all of its nodes
fit. -/
theorem ofJsonWithin_toJson {depth : Nat} {node : OutlineNode}
    (hdepth : node.toJson.nesting ≤ depth) :
    ofJsonWithin depth node.toJson = .ok node ↔ node.Storable := by
  induction depth generalizing node with
  | zero =>
    obtain ⟨name, kind, detail, range, selection, children⟩ := node
    rw [toJson, Json.nesting] at hdepth
    omega
  | succ depth ih =>
    have hchildren : ∀ child ∈ node.children, child.toJson.nesting ≤ depth := fun child h => by
      have := nesting_toJson_lt h
      omega
    obtain ⟨name, kind, detail, range, selection, children⟩ := node
    have hdetail : Decoder.optional Decoder.string (.ofOption .str detail) = .ok detail := by
      have hnull : ∀ text, Json.str text ≠ .null := fun _ h => by cases h
      exact Decoder.optional_ofOption hnull (fun _ => rfl) detail
    have hparts : ofJsonWithin (depth + 1) (toJson ⟨name, kind, detail, range, selection, children⟩)
          = .ok ⟨name, kind, detail, range, selection, children⟩ ↔
        Range.ofJson range.toJson = .ok range ∧ Range.ofJson selection.toJson = .ok selection ∧
          Decoder.items (ofJsonWithin depth) (children.map toJson) = .ok children := by
      simp only [ofJsonWithin, Decoder.fields, toJson, Outline.toItems_eq_map, Json.lastField?,
        Decoder.required, Decoder.string, Decoder.absentable, Decoder.list, pure, Except.pure,
        Decoder.bind_eq_ok, Except.ok.injEq, mk.injEq, exists_eq_left', String.reduceEq, ↓reduceIte,
        SymbolKind.ofJson_toJson, hdetail, true_and]
      constructor
      · rintro ⟨_, hrange, _, hselection, _, hitems, rfl, rfl, rfl⟩
        exact ⟨hrange, hselection, hitems⟩
      · rintro ⟨hrange, hselection, hitems⟩
        exact ⟨_, hrange, _, hselection, _, hitems, rfl, rfl, rfl⟩
    rw [hparts, Range.ofJson_toJson, Range.ofJson_toJson, Decoder.items_map, storable_iff]
    refine and_congr_right' (and_congr_right' (forall₂_congr fun child h => ?_))
    exact ih (hchildren child h)

theorem ofJson_toJson (node : OutlineNode) : ofJson node.toJson = .ok node ↔ node.Storable :=
  ofJsonWithin_toJson (Nat.le_refl _)

end OutlineNode

/-! ### The format as a whole -/

/-- Symbols, reference locations, file ranges and trees of outline nodes are read back from their
JSON form, all their parts included, exactly when their numbers fit. An identity is written as it
is, a kind as a lower-case word, and a location says in its field `where` which kind it is of. -/
theorem ofJson_toJson_iff :
    (∀ s : Symbol, Symbol.ofJson s.toJson = .ok s ↔ s.Storable) ∧
    (∀ r : ReferenceLocation, ReferenceLocation.ofJson r.toJson = .ok r ↔ r.Storable) ∧
    (∀ r : FileRange, FileRange.ofJson r.toJson = .ok r ↔ r.Storable) ∧
    (∀ node : OutlineNode, OutlineNode.ofJson node.toJson = .ok node ↔ node.Storable) ∧
    (∀ s : Symbol, s.toJson.field? "id" = some (.str s.id) ∧
      s.toJson.field? "kind" = some (.str s.kind.name)) ∧
    (∀ k : SymbolKind, k.name.toList.all Char.isLower = true) ∧
    ∀ l : SymbolLocation,
      l.toJson.field? "where" = some (.str (if l.isInSource then "source" else "metadata")) := by
  refine ⟨Symbol.ofJson_toJson, ReferenceLocation.ofJson_toJson, FileRange.ofJson_toJson,
    OutlineNode.ofJson_toJson, fun s => ⟨rfl, rfl⟩, fun k => ?_, fun l => ?_⟩
  · cases k <;> decide
  · cases l <;> rfl

end CallerClosure
