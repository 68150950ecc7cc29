import CallerClosure.Proofs.Recording.Checks
import CallerClosure.Proofs.Text.Numbers

/-!
# The identities of what is recorded

The calls that record a symbol name it by a text: a declaration by the text of its document and
its start, a symbol in metadata by its container and its name.

* `Recording.sourceId_eq_iff`, `metadataId_eq_iff` and `sourceId_eq_metadataId_iff` say when two of
  these texts are one;
* `RecordingStep.id?` is the identity that a call gives, and `Recording.perm_ids` says that these
  are the identities of the symbols;
* `Recording.two_le_count_of_build`: what is reported as declared twice is there twice;
* `RecordingStep.SameDeclaration` is how two calls declare one symbol, and `RecordingStep.Alike`
  how they come to give one identity. `Recording.ids_of_steps` says that identities tell calls
  apart up to `Alike`, and that this is the same as `SameDeclaration` in calls that are
  `Recording.Plain`. Calls that are `RecordingStep.Respelled` are left out: nothing is said
  about one place of a document whose path is spelled in two ways.
-/

namespace CallerClosure

namespace Recording

/-! ### Texts of identities -/

theorem toList_sourceId (document : Path) (start : Nat) :
    (sourceId document start).toList = document.text.toList ++ '#' :: Nat.toDigits 10 start := by
  show (document.text ++ "#" ++ start.repr).toList = _
  simp

theorem toList_metadataId (container name : String) :
    (metadataId container name).toList = container.toList ++ ':' :: ':' :: name.toList := by
  show (container ++ "::" ++ name).toList = _
  simp

/-- Declarations have one identity when their documents are written alike and they start at one
place. -/
theorem sourceId_eq_iff {p q : Path} {a b : Nat} : sourceId p a = sourceId q b ↔ p = q ∧ a = b := by
  rw [← String.toList_inj, toList_sourceId, toList_sourceId,
    append_cons_inj_right (notMem_toDigits (by decide) _) (notMem_toDigits (by decide) _),
    toDigits_injective.eq_iff, String.toList_inj]
  obtain ⟨p⟩ := p
  obtain ⟨q⟩ := q
  simp

/-- A container and a name from which another container and another name come by moving the
separator into what was the name. -/
def Shifted (container name container' name' : String) : Prop :=
  container' = container ++ ":" ∧ name = ":" ++ name' ∨
    ∃ middle, container' = container ++ "::" ++ middle ∧ name = middle ++ "::" ++ name'

theorem metadataId_of_shifted {c n c' n' : String} (h : Shifted c n c' n') :
    metadataId c n = metadataId c' n' := by
  rw [← String.toList_inj, toList_metadataId, toList_metadataId]
  rcases h with ⟨rfl, rfl⟩ | ⟨m, rfl, rfl⟩
  · simp
  · simp

/-- Where the first container is not longer, the separator may only have moved to the right. -/
theorem eq_or_shifted {c n c' n' : String} {as : List Char} (hc : c'.toList = c.toList ++ as)
    (hn : ':' :: ':' :: n.toList = as ++ ':' :: ':' :: n'.toList) :
    c = c' ∧ n = n' ∨ Shifted c n c' n' := by
  rcases as with _ | ⟨x, _ | ⟨y, as⟩⟩
  · left
    constructor
    · rw [← String.toList_inj, hc, List.append_nil]
    · simpa [String.toList_inj] using hn
  · simp only [List.singleton_append, List.cons.injEq] at hn
    obtain ⟨rfl, -, hn⟩ := hn
    right
    left
    rw [← String.toList_inj, ← String.toList_inj, hc, hn]
    simp
  · simp only [List.cons_append, List.cons.injEq] at hn
    obtain ⟨rfl, rfl, hn⟩ := hn
    right
    right
    refine ⟨String.ofList as, ?_⟩
    rw [← String.toList_inj, ← String.toList_inj, hc, hn]
    simp

/-- Symbols in metadata have one identity when they have one container and one name, or when
these differ by the place of a separator. -/
theorem metadataId_eq_iff {c n c' n' : String} :
    metadataId c n = metadataId c' n' ↔
      c = c' ∧ n = n' ∨ Shifted c n c' n' ∨ Shifted c' n' c n := by
  constructor
  · intro h
    rw [← String.toList_inj, toList_metadataId, toList_metadataId] at h
    rcases List.append_eq_append_iff.1 h with ⟨as, hc, hn⟩ | ⟨as, hc, hn⟩
    · rcases eq_or_shifted hc hn with h | h
      · exact .inl h
      · exact .inr (.inl h)
    · rcases eq_or_shifted hc hn with ⟨rfl, rfl⟩ | h
      · exact .inl ⟨rfl, rfl⟩
      · exact .inr (.inr h)
  · rintro (⟨rfl, rfl⟩ | h | h)
    · rfl
    · exact metadataId_of_shifted h
    · exact (metadataId_of_shifted h).symm

/-- A declaration has the identity of a symbol in metadata when the separator of metadata stands
in the name of its document. -/
theorem sourceId_eq_metadataId_iff {p : Path} {a : Nat} {c n : String} :
    sourceId p a = metadataId c n ↔
      ∃ middle, p.text = c ++ "::" ++ middle ∧ n = middle ++ "#" ++ toString a := by
  rw [← String.toList_inj, toList_sourceId, toList_metadataId]
  constructor
  · intro h
    have hsplit : p.text.toList ++ '#' :: Nat.toDigits 10 a =
        (c.toList ++ [':', ':']) ++ n.toList := by simpa using h
    rcases List.append_eq_append_iff.1 hsplit with ⟨as, hc, hd⟩ | ⟨as, hp, hn⟩
    · -- No colon is read after the path, so that the whole separator stands in it.
      rcases List.eq_nil_or_concat as with rfl | ⟨bs, b, rfl⟩
      · refine ⟨"", ?_, ?_⟩
        · rw [← String.toList_inj]
          simpa using hc.symm
        · rw [← String.toList_inj]
          simpa using hd.symm
      · obtain rfl : ':' = b := by simpa using congrArg List.getLast? hc
        have hcolon : ':' ∈ '#' :: Nat.toDigits 10 a := by
          rw [hd]
          simp
        rcases List.mem_cons.1 hcolon with h | h
        · cases h
        · exact absurd h (notMem_toDigits (by decide) a)
    · refine ⟨String.ofList as, ?_, ?_⟩
      · rw [← String.toList_inj, hp]
        simp
      · rw [← String.toList_inj, hn]
        simp
  · rintro ⟨middle, hp, rfl⟩
    rw [hp]
    simp

/-! ### The identities that calls give -/

end Recording

/-- The identity that a call gives to a symbol. -/
def RecordingStep.id? : RecordingStep → Option SymbolId
  | .declare path _ _ span => some (Recording.sourceId path span.start)
  | .declareInMetadata name _ container => some (Recording.metadataId container name)
  | .document _ _ => none
  | .reference _ _ _ => none

namespace Recording

/-- The identities of the symbols of a recording. -/
def ids (r : Recording) : List SymbolId := r.symbols.map (·.id)

theorem ids_apply (r : Recording) (step : RecordingStep) :
    (r.apply step).ids.Perm (r.ids ++ step.id?.toList) := by
  cases step with
  | declare document name kind span =>
    simp only [ids, symbols, apply, declare, RecordingStep.id?, List.map_append, List.map_cons,
      List.map_nil, Option.toList, List.append_assoc]
    exact (List.perm_append_comm).append_left _
  | declareInMetadata name kind container =>
    simp [ids, symbols, apply, declareInMetadata, RecordingStep.id?]
  | document path text => simp [ids, symbols, apply, document, RecordingStep.id?]
  | reference document target span => simp [ids, symbols, apply, reference, RecordingStep.id?]

/-- The symbols of a recording have the identities that calls gave them. -/
theorem perm_ids (steps : List RecordingStep) :
    (ofSteps steps).ids.Perm (steps.filterMap RecordingStep.id?) := by
  suffices h : ∀ r : Recording, (steps.foldl apply r).ids.Perm
      (r.ids ++ steps.filterMap RecordingStep.id?) from h empty
  induction steps with
  | nil =>
    intro r
    simp
  | cons step rest ih =>
    intro r
    have hids : (r.ids ++ step.id?.toList) ++ rest.filterMap RecordingStep.id? =
        r.ids ++ (step :: rest).filterMap RecordingStep.id? := by
      rw [List.append_assoc, List.filterMap_cons]
      cases step.id? <;> rfl
    rw [List.foldl_cons, ← hids]
    exact (ih (r.apply step)).trans ((ids_apply r step).append_right _)

/-! ### What is reported as declared twice -/

theorem checkSpan_ne_duplicateSymbol {documents : List (Path × Text)} {document : Path}
    {span : Span} {id : SymbolId} :
    checkSpan documents document span ≠ .error (.duplicateSymbol id) := by
  unfold checkSpan
  split
  · simp
  · split <;> simp

theorem two_le_count_of_mem {seen rest : List SymbolId} {id : SymbolId} (h : id ∈ seen) :
    2 ≤ (seen ++ id :: rest).count id := by
  have hseen := List.count_pos_iff.2 h
  rw [List.count_append, List.count_cons_self]
  omega

theorem count_cons_append (x : SymbolId) (seen rest : List SymbolId) (id : SymbolId) :
    (x :: seen ++ rest).count id = (seen ++ x :: rest).count id :=
  (List.perm_middle.symm).count_eq id

theorem two_le_count_of_checkDeclarations {documents : List (Path × Text)}
    {seen : List SymbolId} {declarations : List RecordedDeclaration} {id : SymbolId}
    (h : checkDeclarations documents seen declarations = .error (.duplicateSymbol id)) :
    2 ≤ (seen ++ declarations.map (·.symbol.id)).count id := by
  induction declarations generalizing seen with
  | nil => cases h
  | cons d rest ih =>
    rw [checkDeclarations] at h
    cases hspan : checkSpan documents d.document d.span with
    | error e =>
      rw [hspan] at h
      obtain rfl : e = .duplicateSymbol id := Except.error.inj h
      exact absurd hspan checkSpan_ne_duplicateSymbol
    | ok =>
      rw [hspan] at h
      dsimp only at h
      by_cases hseen : d.symbol.id ∈ seen
      · rw [if_pos hseen] at h
        obtain rfl : d.symbol.id = id := by simpa using h
        exact two_le_count_of_mem hseen
      · rw [if_neg hseen] at h
        have hrest := ih h
        rwa [count_cons_append] at hrest

theorem two_le_count_of_checkMetadata {seen : List SymbolId} {symbols : List Symbol}
    {id : SymbolId} (h : checkMetadata seen symbols = .error (.duplicateSymbol id)) :
    2 ≤ (seen ++ symbols.map (·.id)).count id := by
  induction symbols generalizing seen with
  | nil => cases h
  | cons s rest ih =>
    rw [checkMetadata] at h
    by_cases hseen : s.id ∈ seen
    · rw [if_pos hseen] at h
      obtain rfl : s.id = id := by simpa using h
      exact two_le_count_of_mem hseen
    · rw [if_neg hseen] at h
      have hrest := ih h
      rwa [count_cons_append] at hrest

theorem checkReferences_ne_duplicateSymbol {documents : List (Path × Text)}
    {declared : List SymbolId} {references : List RecordedReference} {id : SymbolId} :
    checkReferences documents declared references ≠ .error (.duplicateSymbol id) := by
  induction references with
  | nil => simp [checkReferences]
  | cons u rest ih =>
    rw [checkReferences]
    cases hspan : checkSpan documents u.document u.span with
    | error e =>
      intro h
      obtain rfl : e = .duplicateSymbol id := Except.error.inj h
      exact checkSpan_ne_duplicateSymbol hspan
    | ok =>
      dsimp only
      split
      · exact ih
      · simp

/-- **What is reported as declared twice is declared twice.** -/
theorem two_le_count_of_build {r : Recording} {id : SymbolId}
    (h : r.build = .error (.duplicateSymbol id)) : 2 ≤ r.ids.count id := by
  have hids : r.ids = r.declarations.map (·.symbol.id) ++ r.metadata.map (·.id) := by
    simp [ids, symbols]
  rw [build] at h
  cases hd : checkDeclarations r.documents [] r.declarations with
  | error e =>
    rw [hd] at h
    obtain rfl : e = .duplicateSymbol id := Except.error.inj h
    have htwo := two_le_count_of_checkDeclarations hd
    rw [hids, List.count_append]
    rw [List.nil_append] at htwo
    omega
  | ok =>
    rw [hd] at h
    dsimp only at h
    cases hm : checkMetadata (r.declarations.map (·.symbol.id)) r.metadata with
    | error e =>
      rw [hm] at h
      obtain rfl : e = .duplicateSymbol id := Except.error.inj h
      rw [hids]
      exact two_le_count_of_checkMetadata hm
    | ok =>
      rw [hm] at h
      dsimp only at h
      cases hu : checkReferences r.documents (r.symbols.map (·.id)) r.references with
      | error e =>
        rw [hu] at h
        obtain rfl : e = .duplicateSymbol id := Except.error.inj h
        exact absurd hu checkReferences_ne_duplicateSymbol
      | ok =>
        rw [hu] at h
        cases h

/-- What is there twice came from two calls. -/
theorem exists_pair_of_two_le_count {steps : List RecordingStep} {id : SymbolId}
    (h : 2 ≤ (steps.filterMap RecordingStep.id?).count id) :
    ∃ a b, [a, b].Sublist steps ∧ a.id? = some id ∧ b.id? = some id := by
  have hcount : (steps.filterMap RecordingStep.id?).count id =
      (steps.filter fun a => a.id? == some id).length := by
    rw [List.count_filterMap, List.countP_eq_length_filter]
  rw [hcount] at h
  rcases hcalls : steps.filter (fun a => a.id? == some id) with _ | ⟨a, _ | ⟨b, rest⟩⟩
  · simp [hcalls] at h
  · simp [hcalls] at h
  · have hsub : [a, b].Sublist (steps.filter fun a => a.id? == some id) := by
      rw [hcalls]
      simp
    have hgives : ∀ c ∈ [a, b], c.id? = some id := fun c hc =>
      eq_of_beq (List.mem_filter.1 (hsub.subset hc)).2
    exact ⟨a, b, hsub.trans List.filter_sublist, hgives a (by simp), hgives b (by simp)⟩

end Recording

/-! ### Calls that give one identity -/

/-- Two calls declare one symbol: at one start of one document, or with one name in one container
of metadata. -/
inductive RecordingStep.SameDeclaration : RecordingStep → RecordingStep → Prop
  | source {path path' : Path} {span span' : Span} (name name' : String) (kind kind' : SymbolKind)
    (hsame : path.Same path') (hstart : span.start = span'.start) :
    SameDeclaration (.declare path name kind span) (.declare path' name' kind' span')
  | metadata (container name : String) (kind kind' : SymbolKind) :
    SameDeclaration (.declareInMetadata name kind container)
      (.declareInMetadata name kind' container)

theorem RecordingStep.SameDeclaration.name_eq {name name' container container' : String}
    {kind kind' : SymbolKind}
    (h : SameDeclaration (.declareInMetadata name kind container)
      (.declareInMetadata name' kind' container')) : name = name' := by
  cases h
  rfl

/-- Two calls declare one place of one document, whose path they spell differently. -/
inductive RecordingStep.Respelled : RecordingStep → RecordingStep → Prop
  | source {path path' : Path} {span span' : Span} (name name' : String) (kind kind' : SymbolKind)
    (hsame : path.Same path') (hne : path ≠ path') (hstart : span.start = span'.start) :
    Respelled (.declare path name kind span) (.declare path' name' kind' span')

/-- Two calls declare one symbol, or their identities put a separator at two places of one
text. -/
inductive RecordingStep.Alike : RecordingStep → RecordingStep → Prop
  | same {a b : RecordingStep} (h : a.SameDeclaration b) : Alike a b
  | shifted {container name container' name' : String} (kind kind' : SymbolKind)
    (h : Recording.Shifted container name container' name' ∨
      Recording.Shifted container' name' container name) :
    Alike (.declareInMetadata name kind container) (.declareInMetadata name' kind' container')
  | crossing {path : Path} {span : Span} (container middle name : String) (kind kind' : SymbolKind)
    (hpath : path.text = container ++ "::" ++ middle) :
    Alike (.declare path name kind span)
      (.declareInMetadata (middle ++ "#" ++ toString span.start) kind' container)
  | crossed {path : Path} {span : Span} (container middle name : String) (kind kind' : SymbolKind)
    (hpath : path.text = container ++ "::" ++ middle) :
    Alike (.declareInMetadata (middle ++ "#" ++ toString span.start) kind' container)
      (.declare path name kind span)

namespace Recording

/-- The calls that are told apart by their identities. -/
theorem id?_eq_iff_alike {a b : RecordingStep} {i j : SymbolId} (hspelled : ¬ a.Respelled b)
    (ha : a.id? = some i) (hb : b.id? = some j) : i = j ↔ a.Alike b := by
  cases a with
  | document path text => cases ha
  | reference path target span => cases ha
  | declare path name kind span =>
    obtain rfl := Option.some.inj ha
    cases b with
    | document path text => cases hb
    | reference path target span => cases hb
    | declare path' name' kind' span' =>
      obtain rfl := Option.some.inj hb
      rw [sourceId_eq_iff]
      constructor
      · rintro ⟨rfl, hstart⟩
        exact .same (.source _ _ _ _ rfl hstart)
      · rintro (⟨_, _, _, _, hsame, hstart⟩)
        by_contra hne
        exact hspelled (.source _ _ _ _ hsame (fun hpath => hne ⟨hpath, hstart⟩) hstart)
    | declareInMetadata name' kind' container' =>
      obtain rfl := Option.some.inj hb
      rw [sourceId_eq_metadataId_iff]
      constructor
      · rintro ⟨middle, hpath, rfl⟩
        exact .crossing _ _ _ _ _ hpath
      · rintro (⟨⟨⟩⟩ | _ | ⟨_, middle, _, _, _, hpath⟩)
        exact ⟨middle, hpath, rfl⟩
  | declareInMetadata name kind container =>
    obtain rfl := Option.some.inj ha
    cases b with
    | document path text => cases hb
    | reference path target span => cases hb
    | declare path' name' kind' span' =>
      obtain rfl := Option.some.inj hb
      rw [eq_comm, sourceId_eq_metadataId_iff]
      constructor
      · rintro ⟨middle, hpath, rfl⟩
        exact .crossed _ _ _ _ _ hpath
      · rintro (⟨⟨⟩⟩ | _ | _ | ⟨_, middle, _, _, _, hpath⟩)
        exact ⟨middle, hpath, rfl⟩
    | declareInMetadata name' kind' container' =>
      obtain rfl := Option.some.inj hb
      rw [metadataId_eq_iff]
      constructor
      · rintro (⟨rfl, rfl⟩ | h)
        · exact .same (.metadata _ _ _ _)
        · exact .shifted _ _ h
      · rintro (⟨⟨⟩⟩ | ⟨_, _, hshifted⟩)
        · exact .inl ⟨rfl, rfl⟩
        · exact .inr hshifted

theorem exists_ids_of_alike {a b : RecordingStep} (h : a.Alike b) :
    ∃ i j, a.id? = some i ∧ b.id? = some j := by
  rcases h with ⟨⟨⟩ | ⟨⟩⟩ | ⟨⟩ | ⟨⟩ | ⟨⟩
  all_goals exact ⟨_, _, rfl, rfl⟩

theorem not_respelled_of_id? {a b : RecordingStep} {i : SymbolId} (ha : a.id? = some i)
    (hb : b.id? = some i) : ¬ a.Respelled b := by
  rintro ⟨_, _, _, _, _, hne, _⟩
  exact hne (sourceId_eq_iff.1 (Option.some.inj (ha.trans hb.symm))).1

/-- No two calls of a program are alike. -/
theorem pairwise_not_alike_of_build {steps : List RecordingStep} {program : RecordedProgram}
    (h : (ofSteps steps).build = .ok program) :
    steps.Pairwise fun a b => ¬ a.Respelled b → ¬ a.Alike b := by
  have hnodup := (perm_ids steps).nodup_iff.1 (build_eq_ok_iff.1 h).1.nodup
  refine (List.pairwise_filterMap.1 hnodup).imp fun hne hspelled halike => ?_
  obtain ⟨i, j, ha, hb⟩ := exists_ids_of_alike halike
  exact hne i ha j hb ((id?_eq_iff_alike hspelled ha hb).2 halike)

/-- What is reported as declared twice is declared by two calls that are alike. -/
theorem exists_alike_of_build {steps : List RecordingStep} {id : SymbolId}
    (h : (ofSteps steps).build = .error (.duplicateSymbol id)) :
    ∃ a b, [a, b].Sublist steps ∧ a.id? = some id ∧ b.id? = some id ∧ a.Alike b := by
  have htwo := two_le_count_of_build h
  rw [(perm_ids steps).count_eq] at htwo
  obtain ⟨a, b, hsub, ha, hb⟩ := exists_pair_of_two_le_count htwo
  exact ⟨a, b, hsub, ha, hb, (id?_eq_iff_alike (not_respelled_of_id? ha hb) ha hb).1 rfl⟩

/-- Calls in which no text can be taken for another one: the separator of metadata stands neither
in the name of a document nor in what follows a container. -/
structure Plain (steps : List RecordingStep) : Prop where
  documents : ∀ path name kind span, .declare path name kind span ∈ steps →
    ¬ [':', ':'] <:+: path.text.toList
  names : ∀ name kind container, .declareInMetadata name kind container ∈ steps →
    ¬ [':', ':'] <:+: ':' :: name.toList

/-- Identities are exact: calls give one identity exactly when they declare one symbol, a program
declares no symbol twice, and what is reported as declared twice is declared by two calls. Calls
that are respelled are left out. -/
structure Exact (steps : List RecordingStep) : Prop where
  ids : ∀ a ∈ steps, ∀ b ∈ steps, ¬ a.Respelled b →
    ∀ i j, a.id? = some i → b.id? = some j → (i = j ↔ a.SameDeclaration b)
  accepted : ∀ program, (ofSteps steps).build = .ok program →
    steps.Pairwise fun a b => ¬ a.Respelled b → ¬ a.SameDeclaration b
  refused : ∀ id, (ofSteps steps).build = .error (.duplicateSymbol id) →
    ∃ a b, [a, b].Sublist steps ∧ a.id? = some id ∧ b.id? = some id ∧ a.SameDeclaration b

/-- A separator that moved stands in what follows the first container. -/
theorem infix_of_shifted {c n c' n' : String} (h : Shifted c n c' n') :
    [':', ':'] <:+: ':' :: n.toList := by
  rcases h with ⟨-, rfl⟩ | ⟨middle, -, rfl⟩
  · exact ⟨[], n'.toList, by simp⟩
  · exact ⟨':' :: middle.toList, n'.toList, by simp⟩

theorem infix_of_crossing {path : Path} {container middle : String}
    (h : path.text = container ++ "::" ++ middle) : [':', ':'] <:+: path.text.toList :=
  ⟨container.toList, middle.toList, by simp [h]⟩

theorem Plain.alike_iff {steps : List RecordingStep} (h : Plain steps) {a b : RecordingStep}
    (ha : a ∈ steps) (hb : b ∈ steps) : a.Alike b ↔ a.SameDeclaration b := by
  constructor
  · rintro (hsame | ⟨_, _, hshifted | hshifted⟩ | ⟨_, _, _, _, _, hpath⟩ |
      ⟨_, _, _, _, _, hpath⟩)
    · exact hsame
    · exact absurd (infix_of_shifted hshifted) (h.names _ _ _ ha)
    · exact absurd (infix_of_shifted hshifted) (h.names _ _ _ hb)
    · exact absurd (infix_of_crossing hpath) (h.documents _ _ _ _ ha)
    · exact absurd (infix_of_crossing hpath) (h.documents _ _ _ _ hb)
  · exact .same

/-- Where no text can be taken for another one the identities are exact. -/
theorem Plain.exact {steps : List RecordingStep} (h : Plain steps) : Exact steps where
  ids a ha b hb hspelled i j hi hj :=
    (id?_eq_iff_alike hspelled hi hj).trans (h.alike_iff ha hb)
  accepted program hbuild :=
    (pairwise_not_alike_of_build hbuild).imp_of_mem fun ha hb hne hspelled hsame =>
      hne hspelled ((h.alike_iff ha hb).2 hsame)
  refused id hbuild := by
    obtain ⟨a, b, hsub, hi, hj, halike⟩ := exists_alike_of_build hbuild
    have ha : a ∈ steps := hsub.subset (by simp)
    have hb : b ∈ steps := hsub.subset (by simp)
    exact ⟨a, b, hsub, hi, hj, (h.alike_iff ha hb).1 halike⟩

/-- **Identities tell calls apart up to the place of a separator.** The symbols of a recording
have the identities that the calls gave. Calls give one identity exactly when they are `Alike`,
no two calls of a program are, and where a symbol is reported as declared twice two such calls
gave its identity. Where no text can be taken for another one the identities are exact. -/
theorem ids_of_steps (steps : List RecordingStep) :
    (ofSteps steps).ids.Perm (steps.filterMap RecordingStep.id?) ∧
    (∀ a ∈ steps, ∀ b ∈ steps, ¬ a.Respelled b →
      ∀ i j, a.id? = some i → b.id? = some j → (i = j ↔ a.Alike b)) ∧
    (∀ program, (ofSteps steps).build = .ok program →
      steps.Pairwise fun a b => ¬ a.Respelled b → ¬ a.Alike b) ∧
    (∀ id, (ofSteps steps).build = .error (.duplicateSymbol id) →
      ∃ a b, [a, b].Sublist steps ∧ a.id? = some id ∧ b.id? = some id ∧ a.Alike b) ∧
    (Plain steps → Exact steps) :=
  ⟨perm_ids steps, fun _ _ _ _ hspelled _ _ hi hj => id?_eq_iff_alike hspelled hi hj,
    fun _ => pairwise_not_alike_of_build, fun _ => exists_alike_of_build, Plain.exact⟩

section Instances

/-- Two functions in one document, one inside the other, and a symbol in metadata. -/
def plainSteps : List RecordingStep :=
  [.document ⟨"d/m"⟩ ['f', '(', 'g', ')'], .declare ⟨"d/m"⟩ "f" .function ⟨0, 4⟩,
    .declare ⟨"d/m"⟩ "g" .function ⟨2, 3⟩, .declareInMetadata "g" .function "std"]

theorem path_eq_of_mem_plainSteps {path : Path} {name : String} {kind : SymbolKind} {span : Span}
    (h : .declare path name kind span ∈ plainSteps) : path = ⟨"d/m"⟩ := by
  simp only [plainSteps, List.mem_cons, reduceCtorEq, RecordingStep.declare.injEq, List.not_mem_nil,
    or_false, false_or] at h
  rcases h with ⟨rfl, -⟩ | ⟨rfl, -⟩
  · rfl
  · rfl

theorem ids_of_steps_plain :
    Plain plainSteps ∧ (∀ a ∈ plainSteps, ∀ b ∈ plainSteps, ¬ a.Respelled b) ∧ Exact plainSteps ∧
    (ofSteps plainSteps).build = .ok (ofSteps plainSteps).freeze ∧
    plainSteps.filterMap RecordingStep.id? = ["d/m#0", "d/m#2", "std::g"] := by
  have hplain : Plain plainSteps := by
    constructor
    · intro path name kind span h
      rw [path_eq_of_mem_plainSteps h]
      decide +kernel
    · intro name kind container h
      obtain rfl : name = "g" := by simp_all [plainSteps]
      decide +kernel
  have hspelled : ∀ a ∈ plainSteps, ∀ b ∈ plainSteps, ¬ a.Respelled b := by
    rintro a ha b hb ⟨_, _, _, _, -, hne, -⟩
    exact hne ((path_eq_of_mem_plainSteps ha).trans (path_eq_of_mem_plainSteps hb).symm)
  obtain ⟨-, -, -, -, hexact⟩ := ids_of_steps plainSteps
  exact ⟨hplain, hspelled, hexact hplain, by rfl, by decide +kernel⟩

/-- Two symbols in metadata with one text. -/
def shiftedSteps : List RecordingStep :=
  [.declareInMetadata "b::c" .function "a", .declareInMetadata "c" .function "a::b"]

/-- A declaration and a symbol in metadata with one text. -/
def crossingSteps : List RecordingStep :=
  [.document ⟨"C::m"⟩ ['f'], .declare ⟨"C::m"⟩ "f" .function ⟨0, 1⟩,
    .declareInMetadata "m#0" .function "C"]

/-- Where a separator can be put at two places different symbols are refused. -/
theorem not_exact :
    ((ofSteps shiftedSteps).build = .error (.duplicateSymbol "a::b::c") ∧
      ¬ Exact shiftedSteps) ∧
    ((ofSteps crossingSteps).build = .error (.duplicateSymbol "C::m#0") ∧
      ¬ Exact crossingSteps) := by
  refine ⟨⟨by rfl, fun h => ?_⟩, ⟨by rfl, fun h => ?_⟩⟩
  · have hsame := (h.ids _ (.head _) _ (.tail _ (.head _)) (by rintro ⟨⟩) _ _ rfl rfl).1
      (by decide +kernel)
    exact absurd hsame.name_eq (by decide)
  · have hsame := (h.ids _ (.tail _ (.head _)) _ (.tail _ (.tail _ (.head _))) (by rintro ⟨⟩)
      _ _ rfl rfl).1 (by decide +kernel)
    cases hsame

end Instances

end Recording

end CallerClosure
