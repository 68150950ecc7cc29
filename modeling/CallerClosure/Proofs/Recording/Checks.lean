import CallerClosure.Program.Recording
import Mathlib.Data.List.Nodup

/-!
# What the checks of a recording promise

A recording is made by calls, and a program comes out of it when all checks pass.

* `RecordingStep` is such a call, `Recording.ofSteps` what a sequence of calls records;
* `Recording.Regular` holds of everything that is recorded in this way, checked or not;
* `Recording.Valid` is what the checks look at, and `build_eq_ok_iff` says that they pass
  exactly when it holds.
-/

namespace CallerClosure

/-! ### Texts and slices -/

namespace Text

/-- A slice is cut at ordered offsets within the text. -/
theorem bounds_of_slice? {t fragment : Text} {s : Span} (h : t.slice? s = some fragment) :
    s.start ≤ s.stop ∧ s.stop ≤ t.size := by
  unfold slice? at h
  split at h
  · rename_i hle
    refine ⟨hle, ?_⟩
    split at h
    · cases h
    · rename_i halves hstart
      obtain ⟨⟨a, b⟩, hstop, rfl⟩ := Option.map_eq_some_iff.1 h
      obtain ⟨before, after⟩ := halves
      have hbefore := size_of_splitAt? hstart
      have hslice := size_of_splitAt? hstop
      have hwhole := append_of_splitAt? hstart
      have hafter := append_of_splitAt? hstop
      dsimp only at hafter
      rw [← hwhole, ← hafter, size_append, size_append]
      omega
  · cases h

end Text

/-! ### Texts of documents -/

/-- Spellings of one path have the same text. -/
theorem textOf?_congr {p q : Path} (h : p.Same q) (documents : List (Path × Text)) :
    textOf? documents p = textOf? documents q := by
  simp only [textOf?, Path.same_congr h]

theorem exists_of_textOf? {documents : List (Path × Text)} {document : Path} {text : Text}
    (h : textOf? documents document = some text) :
    ∃ path, (path, text) ∈ documents ∧ path.Same document := by
  obtain ⟨⟨path, text⟩, hfind, rfl⟩ := Option.map_eq_some_iff.1 h
  exact ⟨path, List.mem_of_find?_eq_some hfind, of_decide_eq_true (List.find?_some hfind :)⟩

/-- In documents without repetition every one has the text that is listed with it. -/
theorem textOf?_of_mem {documents : List (Path × Text)}
    (hd : documents.Pairwise fun d e => ¬ d.1.Same e.1) {path document : Path} {text : Text}
    (hmem : (path, text) ∈ documents) (hsame : path.Same document) :
    textOf? documents document = some text := by
  induction documents with
  | nil => cases hmem
  | cons d rest ih =>
    obtain ⟨hfirst, hrest⟩ := List.pairwise_cons.1 hd
    by_cases hc : d.1.Same document
    · rcases List.mem_cons.1 hmem with rfl | hmem
      · simp [textOf?, hc]
      · exact absurd (hc.trans hsame.symm) (hfirst _ hmem)
    · rcases List.mem_cons.1 hmem with rfl | hmem
      · exact absurd hsame hc
      · rw [← ih hrest hmem, textOf?, textOf?, List.find?_cons_of_neg (by simpa using hc)]

/-! ### Calls that record -/

/-- A call that records something. -/
inductive RecordingStep
  | document (path : Path) (text : Text)
  | declare (document : Path) (name : String) (kind : SymbolKind) (span : Span)
  | declareInMetadata (name : String) (kind : SymbolKind) (container : String)
  | reference (document : Path) (target : SymbolId) (span : Span)

namespace Recording

/-- A recording after one more call. -/
def apply (r : Recording) : RecordingStep → Recording
  | .document path text => r.document path text
  | .declare document name kind span => r.declare document name kind span
  | .declareInMetadata name kind container => r.declareInMetadata name kind container
  | .reference document target span => r.reference document target span

/-- What a sequence of calls records. -/
def ofSteps (steps : List RecordingStep) : Recording := steps.foldl apply empty

/-- What holds of every recording that is made by calls: no document is there twice, and
every symbol says where it is declared. -/
structure Regular (r : Recording) : Prop where
  distinct : r.documents.Pairwise fun d e => ¬ d.1.Same e.1
  declared : ∀ d ∈ r.declarations, ∃ name kind, d.symbol =
    ⟨sourceId d.document d.span.start, name, kind, [.source d.document d.span d.span.start]⟩
  metadata : ∀ s ∈ r.metadata, ∃ name kind container,
    s = ⟨metadataId container name, name, kind, [.metadata container]⟩

theorem not_same_putDocument {path q : Path} {text : Text} {documents : List (Path × Text)}
    (hq : ¬ path.Same q) (h : ∀ d ∈ documents, ¬ d.1.Same q) :
    ∀ d ∈ putDocument path text documents, ¬ d.1.Same q := by
  induction documents with
  | nil => simpa [putDocument] using hq
  | cons d rest ih =>
    obtain ⟨p, t⟩ := d
    rw [putDocument]
    by_cases hp : p.Same path
    · rw [if_pos hp]
      intro e he
      rcases List.mem_cons.1 he with rfl | he
      · exact h (p, t) List.mem_cons_self
      · exact h e (List.mem_cons_of_mem _ he)
    · rw [if_neg hp]
      intro e he
      rcases List.mem_cons.1 he with rfl | he
      · exact h (p, t) List.mem_cons_self
      · exact ih (fun d hd => h d (List.mem_cons_of_mem _ hd)) e he

theorem pairwise_putDocument (path : Path) (text : Text) {documents : List (Path × Text)}
    (h : documents.Pairwise fun d e => ¬ d.1.Same e.1) :
    (putDocument path text documents).Pairwise fun d e => ¬ d.1.Same e.1 := by
  induction documents with
  | nil => exact List.pairwise_singleton _ _
  | cons d rest ih =>
    obtain ⟨p, t⟩ := d
    obtain ⟨hd, hrest⟩ := List.pairwise_cons.1 h
    rw [putDocument]
    by_cases hp : p.Same path
    · rw [if_pos hp]
      exact List.pairwise_cons.2 ⟨hd, hrest⟩
    · rw [if_neg hp]
      refine List.pairwise_cons.2 ⟨fun e he hsame => ?_, ih hrest⟩
      exact not_same_putDocument (q := p) (fun hs => hp hs.symm)
        (fun e he hs => hd e he hs.symm) e he hsame.symm

/-- Every call keeps a recording regular. -/
theorem Regular.apply {r : Recording} (h : r.Regular) (step : RecordingStep) :
    (r.apply step).Regular := by
  cases step with
  | document path text => exact ⟨pairwise_putDocument path text h.distinct, h.declared, h.metadata⟩
  | declare document name kind span =>
    refine ⟨h.distinct, fun d hd => ?_, h.metadata⟩
    rcases List.mem_append.1 hd with hd | hd
    · exact h.declared d hd
    · obtain rfl := List.mem_singleton.1 hd
      exact ⟨name, kind, rfl⟩
  | declareInMetadata name kind container =>
    refine ⟨h.distinct, h.declared, fun s hs => ?_⟩
    rcases List.mem_append.1 hs with hs | hs
    · exact h.metadata s hs
    · obtain rfl := List.mem_singleton.1 hs
      exact ⟨name, kind, container, rfl⟩
  | reference document target span => exact ⟨h.distinct, h.declared, h.metadata⟩

theorem regular_ofSteps (steps : List RecordingStep) : (ofSteps steps).Regular := by
  have hempty : empty.Regular := ⟨.nil, by simp [empty], by simp [empty]⟩
  unfold ofSteps
  generalize empty = r at hempty
  induction steps generalizing r with
  | nil => exact hempty
  | cons step rest ih => exact ih _ (hempty.apply step)

/-! ### The checks -/

/-- A span cuts its document at character boundaries. -/
def Fits (documents : List (Path × Text)) (document : Path) (span : Span) : Prop :=
  ∃ text fragment, textOf? documents document = some text ∧ text.slice? span = some fragment

theorem checkSpan_eq_ok_iff {documents : List (Path × Text)} {document : Path} {span : Span} :
    checkSpan documents document span = .ok () ↔ Fits documents document span := by
  unfold checkSpan Fits
  cases textOf? documents document with
  | none => simp
  | some text => cases hs : text.slice? span <;> simp [hs]

/-- Passing over a new identity, with the identities seen so far in a list. -/
theorem nodup_cons_iff_of_notMem {α : Type} (f : α → SymbolId) {a : α} {rest : List α}
    {seen : List SymbolId} (ha : f a ∉ seen) :
    ((a :: rest).map f).Nodup ∧ (∀ x ∈ a :: rest, f x ∉ seen) ↔
      (rest.map f).Nodup ∧ ∀ x ∈ rest, f x ∉ f a :: seen := by
  rw [List.map_cons, List.nodup_cons, List.forall_mem_cons]
  simp only [List.mem_map, List.mem_cons, not_exists, not_and, not_or]
  constructor
  · rintro ⟨⟨hnew, hnodup⟩, -, hrest⟩
    exact ⟨hnodup, fun x hx => ⟨hnew x hx, hrest x hx⟩⟩
  · rintro ⟨hnodup, hrest⟩
    exact ⟨⟨fun x hx => (hrest x hx).1, hnodup⟩, ha, fun x hx => (hrest x hx).2⟩

theorem checkDeclarations_eq_ok_iff {documents : List (Path × Text)} {seen : List SymbolId}
    {declarations : List RecordedDeclaration} :
    checkDeclarations documents seen declarations = .ok () ↔
      (∀ d ∈ declarations, Fits documents d.document d.span) ∧
      (declarations.map (·.symbol.id)).Nodup ∧ ∀ d ∈ declarations, d.symbol.id ∉ seen := by
  induction declarations generalizing seen with
  | nil => simp [checkDeclarations]
  | cons d rest ih =>
    rw [checkDeclarations]
    cases hc : checkSpan documents d.document d.span with
    | error e =>
      have hfits : ¬ Fits documents d.document d.span := by
        rw [← checkSpan_eq_ok_iff, hc]
        simp
      simp [hfits]
    | ok =>
      have hfits := checkSpan_eq_ok_iff.1 hc
      by_cases hseen : d.symbol.id ∈ seen
      · simp [hseen]
      · dsimp only
        rw [if_neg hseen, ih, List.forall_mem_cons,
          nodup_cons_iff_of_notMem (fun d : RecordedDeclaration => d.symbol.id) hseen]
        simp only [hfits, true_and]

theorem checkMetadata_eq_ok_iff {seen : List SymbolId} {symbols : List Symbol} :
    checkMetadata seen symbols = .ok () ↔
      (symbols.map (·.id)).Nodup ∧ ∀ s ∈ symbols, s.id ∉ seen := by
  induction symbols generalizing seen with
  | nil => simp [checkMetadata]
  | cons s rest ih =>
    rw [checkMetadata]
    by_cases hseen : s.id ∈ seen
    · simp [hseen]
    · rw [if_neg hseen, ih, nodup_cons_iff_of_notMem (fun s : Symbol => s.id) hseen]

theorem checkReferences_eq_ok_iff {documents : List (Path × Text)} {declared : List SymbolId}
    {references : List RecordedReference} :
    checkReferences documents declared references = .ok () ↔
      (∀ u ∈ references, Fits documents u.document u.span) ∧
      ∀ u ∈ references, u.target ∈ declared := by
  induction references with
  | nil => simp [checkReferences]
  | cons u rest ih =>
    rw [checkReferences]
    cases hc : checkSpan documents u.document u.span with
    | error e =>
      have hfits : ¬ Fits documents u.document u.span := by
        rw [← checkSpan_eq_ok_iff, hc]
        simp
      simp [hfits]
    | ok =>
      have hfits := checkSpan_eq_ok_iff.1 hc
      by_cases hdeclared : u.target ∈ declared
      · simp [hdeclared, hfits, ih]
      · simp [hdeclared]

/-- What the checks look at. -/
structure Valid (r : Recording) : Prop where
  declared : ∀ d ∈ r.declarations, Fits r.documents d.document d.span
  referenced : ∀ u ∈ r.references, Fits r.documents u.document u.span
  nodup : (r.symbols.map (·.id)).Nodup
  targets : ∀ u ∈ r.references, u.target ∈ r.symbols.map (·.id)

/-- **The checks pass exactly for valid recordings**, and the program is the recording. -/
theorem build_eq_ok_iff {r : Recording} {p : RecordedProgram} :
    r.build = .ok p ↔ r.Valid ∧ r.freeze = p := by
  have hids : r.symbols.map (·.id) =
      r.declarations.map (·.symbol.id) ++ r.metadata.map (·.id) := by
    simp [symbols]
  have hchecks : r.Valid ↔
      checkDeclarations r.documents [] r.declarations = .ok () ∧
      checkMetadata (r.declarations.map (·.symbol.id)) r.metadata = .ok () ∧
      checkReferences r.documents (r.symbols.map (·.id)) r.references = .ok () := by
    rw [checkDeclarations_eq_ok_iff, checkMetadata_eq_ok_iff, checkReferences_eq_ok_iff]
    constructor
    · rintro ⟨hd, hu, hn, ht⟩
      rw [hids, List.nodup_append'] at hn
      refine ⟨⟨hd, hn.1, by simp⟩, ⟨hn.2.1, fun s hs hmem => ?_⟩, hu, ht⟩
      exact hn.2.2 hmem (List.mem_map_of_mem hs)
    · rintro ⟨⟨hd, hn, -⟩, ⟨hm, hdisjoint⟩, hu, ht⟩
      refine ⟨hd, hu, ?_, ht⟩
      rw [hids, List.nodup_append']
      refine ⟨hn, hm, fun id hid hmem => ?_⟩
      obtain ⟨s, hs, rfl⟩ := List.mem_map.1 hmem
      exact hdisjoint s hs hid
  -- `build` runs the three checks one after the other
  rw [hchecks, build]
  cases checkDeclarations r.documents [] r.declarations with
  | error e => simp
  | ok =>
    cases checkMetadata (r.declarations.map (·.symbol.id)) r.metadata with
    | error e => simp
    | ok => cases checkReferences r.documents (r.symbols.map (·.id)) r.references <;> simp

end Recording

end CallerClosure
