import CallerClosure.Proofs.Closure.Callers
import CallerClosure.Proofs.Program.Simulation
import CallerClosure.Proofs.Recording.Nodes
import CallerClosure.Proofs.Resolve.Walk

/-!
# What a recorded program answers

A recorded program never changes, and what it says about nodes, uses and texts is fixed by
its recording. After the checks of the recording it never fails when it is asked about a
place in one of its documents or about one of its symbols.

* `RecordedProgram.tree`, `RecordedProgram.callGraph` and `RecordedProgram.slice?` are what it
  says about nodes, uses and texts;
* `RecordedProgram.CalledFrom` is the relation between a symbol and the methods that use it;
* `Recording.exists_covering`, `Recording.exists_resolveMethod`, `Recording.follows_freeze` and
  `Recording.ask_fragment` say that questions get these answers.
-/

namespace CallerClosure

namespace RecordedProgram

variable {σ : Type} (r : RecordedProgram)

/-- A recorded program never changes. -/
theorem simulated : (r.program : Program σ Nat).Simulated (.still σ) r.program where
  coveringNode _ _ _ := rfl
  parentNow _ _ := rfl
  referencedSymbol _ _ := rfl
  declaredSymbol _ _ := rfl
  findReferences _ _ := rfl
  containingDeclaration _ _ := rfl
  declarationText _ _ := rfl

/-- What the nodes of a recorded program stand for. -/
def tree : SyntaxTree Nat where
  used := r.used?
  declared := r.declared?
  parent := r.parent?

theorem shows_tree : (r.program : Program σ Nat).Shows r.tree where
  used _ _ := rfl
  declared _ _ := rfl
  parent _ _ := rfl

/-- Where the symbols of a recorded program are used. -/
def callGraph : CallGraph where
  references := r.referencesTo
  container location :=
    match r.containing location with
    | .ok container => container
    | .error _ => none

/-- The second symbol is around a recorded use of the first one. -/
def CalledFrom (m c : Symbol) : Prop :=
  ∃ u ∈ r.references, u.target = m.id ∧ r.containing ⟨u.document, u.span⟩ = .ok (some c)

/-- The declaration of a symbol, word for word; nothing for a symbol without a source. -/
def slice? (m : Symbol) : Option Text :=
  m.source?.bind fun source =>
    (r.text? source.document).bind fun text => text.slice? source.span

variable {r}

theorem mem_symbols_of_symbol? {id : SymbolId} {m : Symbol} (h : r.symbol? id = some m) :
    m ∈ r.symbols :=
  List.mem_of_find?_eq_some h

theorem mem_symbols_of_methodAt {node : Nat} {m : Symbol} (h : r.tree.methodAt node = some m) :
    m ∈ r.symbols := by
  rcases Option.or_eq_some_iff.1 h with h | ⟨-, h⟩
  · have hused : r.used? node = some m := (Option.filter_eq_some_iff.1 h).1
    unfold used? at hused
    split at hused
    · exact mem_symbols_of_symbol? hused
    · cases hused
  · have hdeclared : r.declared? node = some m := (Option.filter_eq_some_iff.1 h).1
    unfold declared? at hdeclared
    split at hdeclared
    · exact mem_symbols_of_symbol? hdeclared
    · cases hdeclared

/-- The search outwards ends at a node that declares a method. -/
theorem exists_of_enclosingMethod? {limit node : Nat} {m : Symbol}
    (h : r.enclosingMethod? limit node = some m) :
    ∃ n, r.declared? n = some m ∧ m.isMethodLike = true := by
  induction limit generalizing node with
  | zero => cases h
  | succ limit ih =>
    rw [enclosingMethod?] at h
    split at h
    · rename_i method hmethod
      obtain rfl := Option.some.inj h
      exact ⟨node, Option.filter_eq_some_iff.1 hmethod⟩
    · obtain ⟨outer, -, h⟩ := Option.bind_eq_some_iff.1 h
      exact ih h

theorem exists_of_containing {location : ReferenceLocation} {m : Symbol}
    (h : r.containing location = .ok (some m)) :
    ∃ n, r.declared? n = some m ∧ m.isMethodLike = true := by
  rw [containing] at h
  cases hbounds : r.checkBounds location.document location.span with
  | error e =>
    rw [hbounds] at h
    cases h
  | ok =>
    rw [hbounds] at h
    obtain ⟨node, -, hnode⟩ := Option.bind_eq_some_iff.1 (Except.ok.inj h)
    exact exists_of_enclosingMethod? hnode

theorem container_callGraph {location : ReferenceLocation} {m : Symbol} :
    r.callGraph.container location = some m ↔ r.containing location = .ok (some m) := by
  cases hc : r.containing location with
  | error e => simp [callGraph, hc]
  | ok container => simp [callGraph, hc]

/-- The callers in the graph of a recorded program are the symbols around recorded uses. -/
theorem isCaller_iff {m c : Symbol} : r.callGraph.IsCaller m c ↔ r.CalledFrom m c := by
  rw [CallGraph.IsCaller, CallGraph.mem_callers]
  constructor
  · rintro ⟨location, hl, hcontainer, -⟩
    obtain ⟨u, hu, rfl⟩ := List.mem_map.1 hl
    obtain ⟨hu, htarget⟩ := List.mem_filter.1 hu
    exact ⟨u, hu, by simpa using htarget, container_callGraph.1 hcontainer⟩
  · rintro ⟨u, hu, htarget, hcontaining⟩
    obtain ⟨-, -, hmethod⟩ := exists_of_containing hcontaining
    refine ⟨⟨u.document, u.span⟩, List.mem_map.2 ⟨u, ?_, rfl⟩,
      container_callGraph.2 hcontaining, hmethod⟩
    exact List.mem_filter.2 ⟨hu, by simpa using htarget⟩

theorem isCaller_eq : r.callGraph.IsCaller = r.CalledFrom := by
  funext m c
  exact propext isCaller_iff

end RecordedProgram

namespace Recording

variable {r : Recording} {document : Path} {text : Text} {span : Span}

/-! ### Resolution -/

/-- Around every place of a document there is a node. -/
theorem exists_covering (ht : textOf? r.documents document = some text)
    (hstop : span.stop ≤ text.size) :
    ∃ node < r.nodes.length, r.freeze.smallestCovering? document span = some node ∧
      r.freeze.covering document span = .ok (some node) := by
  have htext : r.freeze.text? document = some text := ht
  cases hsmallest : r.freeze.smallestCovering? document span with
  | none =>
    -- the node for the whole document covers the span
    obtain ⟨n, path, hroot, hsame⟩ := exists_root ht
    rw [RecordedProgram.smallestCovering?, Option.map_eq_none_iff, leastLast?_eq_none_iff,
      List.filter_eq_nil_iff] at hsmallest
    have hcovers : (⟨0, text.size⟩ : Span).Covers span := ⟨Nat.zero_le _, hstop⟩
    exact absurd (decide_eq_true hcovers)
      (hsmallest _ (RecordedNode.mem_ofDocument.2 ⟨hroot, hsame⟩))
  | some node =>
    refine ⟨node, ?_, rfl, ?_⟩
    · obtain ⟨⟨v, n⟩, hleast, rfl⟩ := Option.map_eq_some_iff.1 hsmallest
      have hmem := (List.mem_filter.1 (mem_of_leastLast? hleast)).1
      exact (List.getElem?_eq_some_iff.1 (RecordedNode.mem_ofDocument.1 hmem).1).1
    · rw [RecordedProgram.covering, htext, RecordedProgram.checkBounds_eq_ok htext hstop, hsmallest]
      rfl

/-- Walks that may visit every node do not depend on their limit. -/
theorem walk_freeze {node limit : Nat} (hnode : node < r.nodes.length)
    (hlimit : r.nodes.length ≤ limit) :
    r.freeze.tree.walk limit [] node = r.freeze.tree.walk r.nodes.length [] node := by
  have hparents : ∀ n ∈ Finset.range r.nodes.length, ∀ m,
      r.freeze.tree.parent n = some m → m ∈ Finset.range r.nodes.length :=
    fun n _ m hm => Finset.mem_range.2 (lt_of_parent?_freeze hm)
  apply r.freeze.tree.walk_eq_walk hparents (Finset.mem_range.2 hnode) List.nodup_nil
  · simp
  · rw [Finset.card_range]
    exact Nat.le_add_left_of_le hlimit
  · rw [Finset.card_range]
    exact Nat.le_add_left _ _

/-- **Resolution in a document does not fail**, and gives one answer for all limits that leave
room for every node. -/
theorem exists_resolveMethod (σ : Type) (ht : textOf? r.documents document = some text)
    (hspan : span.isEmpty = false) (hstop : span.stop ≤ text.size) :
    ∃ found : Option Symbol, (∀ m, found = some m → m ∈ r.symbols) ∧
      ∀ limit, r.nodes.length ≤ limit → ∀ s : σ,
        (r.freeze.program.resolveMethod limit document span).ask s = (.ok found, s) := by
  obtain ⟨node, hnode, -, hcovering⟩ := exists_covering ht hstop
  refine ⟨r.freeze.tree.walk r.nodes.length [] node, fun m hm => ?_, fun limit hlimit s => ?_⟩
  · obtain ⟨n, hn⟩ := r.freeze.tree.exists_of_walk hm
    exact RecordedProgram.mem_symbols_of_methodAt hn
  · have hne : ¬ span.isEmpty = true := by simp [hspan]
    have hcover : ((r.freeze.program : Program σ Nat).coveringNode document span).ask s =
        (.ok (some node), s) := congrArg (·, s) hcovering
    have hstill := r.freeze.simulated.resolveMethod limit document span s
    refine Prod.ext ?_ (congrArg Prod.snd hstill :)
    rw [Program.resolveMethod, if_neg hne, Query.ask_bind_of_ok hcover,
      ← walk_freeze hnode hlimit]
    exact r.freeze.shows_tree.ask_walk limit [] node s

/-! ### Traversal -/

/-- **A traversal never fails**: every recorded use lies within its document. -/
theorem follows_freeze {σ : Type} (hv : r.Valid) :
    (r.freeze.program : Program σ Nat).Follows r.freeze.callGraph where
  references _ _ := rfl
  container id location hl s := by
    obtain ⟨u, hu, rfl⟩ := List.mem_map.1 hl
    obtain ⟨text, fragment, htext, hslice⟩ := hv.referenced u (List.mem_filter.1 hu).1
    have hbounds : r.freeze.checkBounds u.document u.span = .ok () :=
      RecordedProgram.checkBounds_eq_ok htext (Text.bounds_of_slice? hslice).2
    show r.freeze.containing _ = .ok (match r.freeze.containing _ with
      | .ok container => container
      | .error _ => none)
    rw [RecordedProgram.containing, hbounds]
    rfl

/-- What is around a place is declared in a document. -/
theorem exists_declaration_of_containing (hv : r.Valid) {location : ReferenceLocation}
    {m : Symbol} (h : r.freeze.containing location = .ok (some m)) :
    ∃ d ∈ r.declarations, d.symbol = m := by
  obtain ⟨n, hn, -⟩ := RecordedProgram.exists_of_containing h
  obtain ⟨i, d, hd, -, hm⟩ := (declared?_freeze hv).1 hn
  exact ⟨d, List.mem_of_getElem? hd, hm⟩

/-- The identities of a seed and of everything that is declared in a document. -/
def declaredIds (r : Recording) (seed : SymbolId) : Finset SymbolId :=
  insert seed (r.declarations.map (·.symbol.id)).toFinset

/-- These are a closed set. -/
theorem closed_declaredIds (hv : r.Valid) (seed : SymbolId) :
    r.freeze.callGraph.Closed seed (r.declaredIds seed) where
  seed_mem := Finset.mem_coe.2 (Finset.mem_insert_self _ _)
  caller_mem m _ location _ c hc _ := by
    obtain ⟨d, hd, rfl⟩ :=
      exists_declaration_of_containing hv (RecordedProgram.container_callGraph.1 hc)
    refine Finset.mem_coe.2 (Finset.mem_insert_of_mem (List.mem_toFinset.2 ?_))
    exact List.mem_map.2 ⟨d, hd, rfl⟩

/-- A program with a document has more nodes than declarations. -/
theorem ncard_declaredIds_le (ht : textOf? r.documents document = some text) (seed : SymbolId) :
    (r.declaredIds seed : Set SymbolId).ncard ≤ r.nodes.length := by
  obtain ⟨path, hd, -⟩ := exists_of_textOf? ht
  have hdocuments : 0 < r.documents.length := List.length_pos_of_mem hd
  have hinsert := Finset.card_insert_le seed (r.declarations.map (·.symbol.id)).toFinset
  have hids := (r.declarations.map (·.symbol.id)).toFinset_card_le
  rw [Set.ncard_coe_finset, declaredIds]
  simp only [nodes, List.length_append, List.length_map] at hids ⊢
  omega

/-! ### Texts -/

/-- Every symbol with a source has a text. -/
theorem isSome_slice? (hr : r.Regular) (hv : r.Valid) {m : Symbol} (hm : m ∈ r.symbols) :
    (r.freeze.slice? m).isSome = m.source?.isSome := by
  rcases List.mem_append.1 hm with hm | hm
  · obtain ⟨d, hd, rfl⟩ := List.mem_map.1 hm
    obtain ⟨name, kind, hsymbol⟩ := hr.declared d hd
    obtain ⟨text, fragment, htext, hslice⟩ := hv.declared d hd
    have hsource : d.symbol.source? = some ⟨d.document, d.span, d.span.start⟩ := by
      rw [hsymbol]
      rfl
    have htext' : r.freeze.text? d.document = some text := htext
    rw [RecordedProgram.slice?, hsource, Option.bind_some, htext', Option.bind_some, hslice]
    rfl
  · obtain ⟨name, kind, container, rfl⟩ := hr.metadata m hm
    rfl

/-- **Asking for the text of a symbol does not fail.** -/
theorem ask_fragment {σ : Type} (hr : r.Regular) (hv : r.Valid) {m : Symbol}
    (hm : m ∈ r.symbols) (s : σ) :
    ((r.freeze.program : Program σ Nat).fragment m).ask s = (.ok (r.freeze.slice? m), s) := by
  have hsome := isSome_slice? hr hv hm
  rw [Program.fragment]
  cases hsource : m.source? with
  | none =>
    rw [RecordedProgram.slice?, hsource]
    rfl
  | some source =>
    rw [hsource] at hsome
    obtain ⟨fragment, hfragment⟩ := Option.isSome_iff_exists.1 hsome
    have hslice := hfragment
    rw [RecordedProgram.slice?, hsource, Option.bind_some] at hslice
    obtain ⟨text, htext, hslice⟩ := Option.bind_eq_some_iff.1 hslice
    show (r.freeze.declaration m, s) = _
    rw [RecordedProgram.declaration, hsource, hfragment]
    dsimp only
    rw [htext]
    dsimp only
    rw [hslice]

end Recording

end CallerClosure
