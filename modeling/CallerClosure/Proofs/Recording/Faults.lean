import CallerClosure.Program.Recorded
import CallerClosure.Proofs.Recording.Identities
import CallerClosure.Proofs.Text.Lines
import Mathlib.Data.List.Induction

/-!
# The first fault of a recording

A recording that is not a program has a first fault, and this is the one that is reported.
Declarations are looked at first, then the symbols in metadata, then the uses, each in the order
in which they were recorded.

* `Recording.finalText?` is the text that a document has when all calls were made, and
  `RecordingStep.Fits` says that the place of a call can be cut out of it;
* `RecordingStep.HasFault` says what is wrong with a call. Of several faults of one call it knows
  the first one only;
* `Recording.Sound` says that nothing is wrong with any call, without an order;
* `Recording.build_eq_firstFault?` says that the checks stop at the first fault, and
  `Recording.build_of_steps` puts this together for any sequence of calls.
-/

namespace CallerClosure

/-! ### The first fault in a list -/

section FirstFault

variable {α ε : Type} (fault? : List α → α → Option ε)

/-- The first fault of a list, where it depends on what came earlier whether something is one. -/
def firstFault? (earlier : List α) : List α → Option ε
  | [] => none
  | a :: rest => (fault? earlier a).or (firstFault? (earlier ++ [a]) rest)

theorem firstFault?_append (earlier xs ys : List α) :
    firstFault? fault? earlier (xs ++ ys) =
      (firstFault? fault? earlier xs).or (firstFault? fault? (earlier ++ xs) ys) := by
  induction xs generalizing earlier with
  | nil => simp [firstFault?]
  | cons a rest ih => simp [firstFault?, ih, Option.or_assoc]

variable {fault?}

theorem firstFault?_eq_none_iff {earlier xs : List α} :
    firstFault? fault? earlier xs = none ↔
      ∀ before a after, xs = before ++ a :: after → fault? (earlier ++ before) a = none := by
  induction xs generalizing earlier with
  | nil => simp [firstFault?]
  | cons a rest ih =>
    rw [firstFault?, Option.or_eq_none_iff, ih]
    constructor
    · rintro ⟨hfirst, hrest⟩ before b after h
      cases before with
      | nil =>
        obtain ⟨rfl, -⟩ := List.cons.inj h
        simpa using hfirst
      | cons c before =>
        obtain ⟨rfl, hsplit⟩ := List.cons.inj h
        simpa using hrest before b after hsplit
    · intro h
      refine ⟨by simpa using h [] a rest rfl, fun before b after hsplit => ?_⟩
      simpa using h (a :: before) b after (by rw [hsplit, List.cons_append])

/-- The first fault is the fault of something that comes after things without a fault. -/
theorem firstFault?_eq_some_iff {earlier xs : List α} {e : ε} :
    firstFault? fault? earlier xs = some e ↔
      ∃ before a after, xs = before ++ a :: after ∧ firstFault? fault? earlier before = none ∧
        fault? (earlier ++ before) a = some e := by
  constructor
  · intro h
    induction xs generalizing earlier with
    | nil => cases h
    | cons a rest ih =>
      rw [firstFault?, Option.or_eq_some_iff] at h
      rcases h with h | ⟨hfirst, h⟩
      · exact ⟨[], a, rest, rfl, rfl, by simpa using h⟩
      · obtain ⟨before, b, after, rfl, hbefore, hfault⟩ := ih h
        refine ⟨a :: before, b, after, rfl, ?_, by simpa using hfault⟩
        rw [firstFault?, hfirst, hbefore]
        rfl
  · rintro ⟨before, a, after, rfl, hbefore, hfault⟩
    rw [firstFault?_append, hbefore, Option.none_or, firstFault?, hfault, Option.some_or]

end FirstFault

/-! ### What calls record -/

namespace RecordingStep

/-- The text that a call gives to a document. -/
def textFor? (document : Path) : RecordingStep → Option Text
  | .document path text => if path.Same document then some text else none
  | _ => none

/-- The place of a declaration or of a use. -/
def place? : RecordingStep → Option (Path × Span)
  | .declare path _ _ span => some (path, span)
  | .reference path _ span => some (path, span)
  | _ => none

/-- The declaration that a call records. -/
def declaration? : RecordingStep → Option RecordedDeclaration
  | .declare path name kind span =>
    some ⟨path, span, Recording.sourceId path span.start, name, kind,
      [.source path span span.start]⟩
  | _ => none

/-- The symbol in metadata that a call records. -/
def metadata? : RecordingStep → Option Symbol
  | .declareInMetadata name kind container =>
    some ⟨Recording.metadataId container name, name, kind, [.metadata container]⟩
  | _ => none

/-- The use that a call records. -/
def use? : RecordingStep → Option RecordedReference
  | .reference path target span => some ⟨path, span, target⟩
  | _ => none

end RecordingStep

/-- A span cuts a text at boundaries of characters. -/
def Text.Cuts (t : Text) (span : Span) : Prop :=
  span.start ≤ span.stop ∧ t.IsBoundary span.start ∧ t.IsBoundary span.stop

theorem Text.isSome_slice?_iff {t : Text} {span : Span} :
    (t.slice? span).isSome = true ↔ t.Cuts span := by
  rw [Option.isSome_iff_exists]
  constructor
  · rintro ⟨part, hpart⟩
    obtain ⟨before, after, rfl, hstart, hstop⟩ := Text.exists_of_slice? hpart
    refine ⟨(Text.bounds_of_slice? hpart).1, ⟨before, part ++ after, by simp, hstart⟩, ?_⟩
    exact ⟨before ++ part, after, rfl, hstop⟩
  · rintro ⟨hle, hstart, hstop⟩
    exact Text.exists_slice? hstart hstop hle

namespace Recording

/-- The text that a document has when all calls were made. -/
def finalText? (steps : List RecordingStep) (document : Path) : Option Text :=
  steps.reverse.findSome? (RecordingStep.textFor? document)

theorem textOf?_putDocument (path document : Path) (text : Text)
    (documents : List (Path × Text)) :
    textOf? (putDocument path text documents) document =
      if path.Same document then some text else textOf? documents document := by
  induction documents with
  | nil => by_cases h : path.Same document <;> simp [putDocument, textOf?, h]
  | cons d rest ih =>
    obtain ⟨p, t⟩ := d
    rw [putDocument]
    by_cases hp : p.Same path
    · rw [if_pos hp]
      by_cases h : path.Same document
      · have hpd : p.Same document := hp.trans h
        simp [textOf?, h, hpd]
      · have hpd : ¬ p.Same document := fun hpd => h (hp.symm.trans hpd)
        simp [textOf?, h, hpd]
    · rw [if_neg hp]
      by_cases hpd : p.Same document
      · have h : ¬ path.Same document := fun h => hp (hpd.trans h.symm)
        simp [textOf?, h, hpd]
      · have hcons : ∀ ds, textOf? ((p, t) :: ds) document = textOf? ds document := by
          simp [textOf?, hpd]
        rw [hcons, hcons, ih]

theorem ofSteps_append_singleton (steps : List RecordingStep) (step : RecordingStep) :
    ofSteps (steps ++ [step]) = (ofSteps steps).apply step :=
  List.foldl_concat ..

theorem textOf?_ofSteps (steps : List RecordingStep) (document : Path) :
    textOf? (ofSteps steps).documents document = finalText? steps document := by
  induction steps using List.reverseRecOn with
  | nil => rfl
  | append_singleton steps step ih =>
    rw [ofSteps_append_singleton, finalText?, List.reverse_append, List.reverse_singleton,
      List.singleton_append, List.findSome?_cons, ← finalText?, ← ih]
    cases step with
    | document path text =>
      rw [apply, Recording.document, textOf?_putDocument, RecordingStep.textFor?]
      split <;> rfl
    | declare document name kind span => rfl
    | declareInMetadata name kind container => rfl
    | reference document target span => rfl

/-- A recording has what its calls record, in their order. -/
theorem records_ofSteps (steps : List RecordingStep) :
    (ofSteps steps).declarations = steps.filterMap RecordingStep.declaration? ∧
      (ofSteps steps).metadata = steps.filterMap RecordingStep.metadata? ∧
      (ofSteps steps).references = steps.filterMap RecordingStep.use? := by
  induction steps using List.reverseRecOn with
  | nil => exact ⟨rfl, rfl, rfl⟩
  | append_singleton steps step ih =>
    obtain ⟨hdeclarations, hmetadata, hreferences⟩ := ih
    simp only [ofSteps_append_singleton, List.filterMap_append, ← hdeclarations, ← hmetadata,
      ← hreferences]
    cases step with
    | document path text => simp [apply, document, RecordingStep.declaration?,
        RecordingStep.metadata?, RecordingStep.use?]
    | declare document name kind span => simp [apply, declare, RecordingStep.declaration?,
        RecordingStep.metadata?, RecordingStep.use?]
    | declareInMetadata name kind container => simp [apply, declareInMetadata,
        RecordingStep.declaration?, RecordingStep.metadata?, RecordingStep.use?]
    | reference document target span => simp [apply, reference, RecordingStep.declaration?,
        RecordingStep.metadata?, RecordingStep.use?]

end Recording

/-! ### What is wrong with a call -/

namespace RecordingStep

/-- The place of a call, if it has one, can be cut out of the final text of its document. -/
def Fits (steps : List RecordingStep) (step : RecordingStep) : Prop :=
  ∀ path span, step.place? = some (path, span) →
    ∃ text, Recording.finalText? steps path = some text ∧ text.Cuts span

/-- What is wrong with one of the calls, when some of them come earlier. A place that does not fit
hides everything else. -/
inductive HasFault (steps earlier : List RecordingStep) : RecordingStep → BuildError → Prop
  | missingDocument {step : RecordingStep} {path : Path} {span : Span}
      (hplace : step.place? = some (path, span))
      (hmissing : Recording.finalText? steps path = none) :
      HasFault steps earlier step (.missingDocument path)
  | spanOutOfBounds {step : RecordingStep} {path : Path} {span : Span} {text : Text}
      (hplace : step.place? = some (path, span))
      (htext : Recording.finalText? steps path = some text) (hcuts : ¬ text.Cuts span) :
      HasFault steps earlier step (.spanOutOfBounds path span)
  | duplicateSymbol {step : RecordingStep} {id : SymbolId} (hfits : step.Fits steps)
      (hid : step.id? = some id) (htaken : id ∈ earlier.filterMap RecordingStep.id?) :
      HasFault steps earlier step (.duplicateSymbol id)
  | unknownTarget {path : Path} {target : SymbolId} {span : Span}
      (hfits : (reference path target span).Fits steps)
      (hunknown : target ∉ steps.filterMap RecordingStep.id?) :
      HasFault steps earlier (.reference path target span) (.unknownTarget target)

/-- What is wrong with a place. -/
def placeFault? (steps : List RecordingStep) (path : Path) (span : Span) : Option BuildError :=
  match Recording.finalText? steps path with
  | none => some (.missingDocument path)
  | some text => if (text.slice? span).isSome then none else some (.spanOutOfBounds path span)

/-- What is wrong with an identity that is given when others were given earlier. -/
def idFault? (earlier : List RecordingStep) (id : SymbolId) : Option BuildError :=
  if id ∈ earlier.filterMap RecordingStep.id? then some (.duplicateSymbol id) else none

/-- The first thing that is wrong with a call. -/
def fault? (steps earlier : List RecordingStep) : RecordingStep → Option BuildError
  | .document _ _ => none
  | .declare path _ _ span =>
    (placeFault? steps path span).or (idFault? earlier (Recording.sourceId path span.start))
  | .declareInMetadata name _ container => idFault? earlier (Recording.metadataId container name)
  | .reference path target span =>
    (placeFault? steps path span).or
      (if target ∈ steps.filterMap RecordingStep.id? then none else some (.unknownTarget target))

variable {steps earlier : List RecordingStep} {step : RecordingStep} {path : Path} {span : Span}
  {e : BuildError}

theorem fits_iff_of_place? (h : step.place? = some (path, span)) :
    step.Fits steps ↔ placeFault? steps path span = none := by
  have hfits : step.Fits steps ↔
      ∃ text, Recording.finalText? steps path = some text ∧ text.Cuts span := by
    refine ⟨fun hf => hf path span h, fun htext path' span' h' => ?_⟩
    obtain ⟨rfl, rfl⟩ := Prod.mk.inj (Option.some.inj (h.symm.trans h'))
    exact htext
  rw [hfits, placeFault?]
  cases Recording.finalText? steps path with
  | none => simp
  | some text => simp [Text.isSome_slice?_iff]

theorem hasFault_of_placeFault? (h : step.place? = some (path, span))
    (hfault : placeFault? steps path span = some e) : step.HasFault steps earlier e := by
  rw [placeFault?] at hfault
  cases htext : Recording.finalText? steps path with
  | none =>
    rw [htext] at hfault
    obtain rfl := Option.some.inj hfault
    exact .missingDocument h htext
  | some text =>
    rw [htext] at hfault
    dsimp only at hfault
    split at hfault
    · cases hfault
    · rename_i hcut
      obtain rfl := Option.some.inj hfault
      exact .spanOutOfBounds h htext (mt Text.isSome_slice?_iff.2 hcut)

theorem hasFault_of_idFault? {id : SymbolId} (hfits : step.Fits steps) (hid : step.id? = some id)
    (hfault : idFault? earlier id = some e) : step.HasFault steps earlier e := by
  rw [idFault?] at hfault
  split at hfault
  · rename_i htaken
    obtain rfl := Option.some.inj hfault
    exact .duplicateSymbol hfits hid htaken
  · cases hfault

theorem fault?_of_placeFault? (h : step.place? = some (path, span))
    (hfault : placeFault? steps path span = some e) : fault? steps earlier step = some e := by
  cases step with
  | document path text => cases h
  | declareInMetadata name kind container => cases h
  | declare path name kind span =>
    obtain ⟨rfl, rfl⟩ := Prod.mk.inj (Option.some.inj h)
    rw [fault?, hfault, Option.some_or]
  | reference path target span =>
    obtain ⟨rfl, rfl⟩ := Prod.mk.inj (Option.some.inj h)
    rw [fault?, hfault, Option.some_or]

theorem fault?_of_taken {id : SymbolId} (hfits : step.Fits steps) (hid : step.id? = some id)
    (htaken : id ∈ earlier.filterMap RecordingStep.id?) :
    fault? steps earlier step = some (.duplicateSymbol id) := by
  cases step with
  | document path text => cases hid
  | reference path target span => cases hid
  | declare path name kind span =>
    obtain rfl := Option.some.inj hid
    rw [fault?, (fits_iff_of_place? rfl).1 hfits, Option.none_or, idFault?, if_pos htaken]
  | declareInMetadata name kind container =>
    obtain rfl := Option.some.inj hid
    rw [fault?, idFault?, if_pos htaken]

/-- **A call has one fault at most**, the first thing that is wrong with it. -/
theorem fault?_eq_some_iff :
    fault? steps earlier step = some e ↔ step.HasFault steps earlier e := by
  constructor
  · intro h
    cases step with
    | document path text => cases h
    | declare path name kind span =>
      rcases Option.or_eq_some_iff.1 h with h | ⟨hplace, h⟩
      · exact hasFault_of_placeFault? rfl h
      · exact hasFault_of_idFault? ((fits_iff_of_place? rfl).2 hplace) rfl h
    | declareInMetadata name kind container =>
      exact hasFault_of_idFault? (fun _ _ hplace => by cases hplace) rfl h
    | reference path target span =>
      rcases Option.or_eq_some_iff.1 h with h | ⟨hplace, h⟩
      · exact hasFault_of_placeFault? rfl h
      · split at h
        · cases h
        · rename_i hunknown
          obtain rfl := Option.some.inj h
          exact .unknownTarget ((fits_iff_of_place? rfl).2 hplace) hunknown
  · intro h
    cases h with
    | missingDocument hplace hmissing =>
      exact fault?_of_placeFault? hplace (by rw [placeFault?, hmissing])
    | spanOutOfBounds hplace htext hcuts =>
      refine fault?_of_placeFault? hplace ?_
      rw [placeFault?, htext]
      exact if_neg (mt Text.isSome_slice?_iff.1 hcuts)
    | duplicateSymbol hfits hid htaken => exact fault?_of_taken hfits hid htaken
    | unknownTarget hfits hunknown =>
      rw [fault?, (fits_iff_of_place? rfl).1 hfits, Option.none_or, if_neg hunknown]

theorem fault?_eq_none_iff :
    fault? steps earlier step = none ↔ ∀ e, ¬ step.HasFault steps earlier e := by
  rw [Option.eq_none_iff_forall_ne_some]
  exact forall_congr' fun e => not_congr fault?_eq_some_iff

end RecordingStep

/-! ### The checks -/

namespace Recording

/-- The calls that record something, in the order in which they are checked: declarations, then
symbols in metadata, then uses. -/
def inOrder (steps : List RecordingStep) : List RecordingStep :=
  steps.filter (·.declaration?.isSome) ++ steps.filter (·.metadata?.isSome) ++
    steps.filter (·.use?.isSome)

open RecordingStep

variable {steps xs : List RecordingStep} {seen : List SymbolId}

theorem checkSpan_eq (path : Path) (span : Span) :
    checkSpan (ofSteps steps).documents path span =
      (placeFault? steps path span).elim (.ok ()) .error := by
  rw [checkSpan, placeFault?, textOf?_ofSteps]
  cases finalText? steps path with
  | none => rfl
  | some text =>
    dsimp only
    split <;> rfl

/-- Declarations are checked up to the first fault. -/
theorem checkDeclarations_eq (earlier : List RecordingStep)
    (hseen : ∀ id, id ∈ seen ↔ id ∈ earlier.filterMap RecordingStep.id?) :
    checkDeclarations (ofSteps steps).documents seen (xs.filterMap declaration?) =
      (firstFault? (fault? steps) earlier (xs.filter (·.declaration?.isSome))).elim
        (.ok ()) .error := by
  induction xs generalizing seen earlier with
  | nil => rfl
  | cons x rest ih =>
    cases x with
    | document path text => exact ih _ hseen
    | declareInMetadata name kind container => exact ih _ hseen
    | reference path target span => exact ih _ hseen
    | declare path name kind span =>
      rw [List.filterMap_cons_some (by rfl), List.filter_cons_of_pos (by rfl), checkDeclarations,
        checkSpan_eq, firstFault?, fault?]
      cases hplace : placeFault? steps path span with
      | some e => rfl
      | none =>
        rw [Option.none_or, Option.elim_none, idFault?]
        dsimp only
        by_cases htaken : sourceId path span.start ∈ seen
        · rw [if_pos htaken, if_pos ((hseen _).1 htaken)]
          rfl
        · rw [if_neg htaken, if_neg (mt (hseen _).2 htaken), Option.none_or]
          refine ih _ fun id => ?_
          simp [hseen, RecordingStep.id?, or_comm]

/-- Symbols in metadata are checked up to the first fault. -/
theorem checkMetadata_eq (earlier : List RecordingStep)
    (hseen : ∀ id, id ∈ seen ↔ id ∈ earlier.filterMap RecordingStep.id?) :
    checkMetadata seen (xs.filterMap metadata?) =
      (firstFault? (fault? steps) earlier (xs.filter (·.metadata?.isSome))).elim
        (.ok ()) .error := by
  induction xs generalizing seen earlier with
  | nil => rfl
  | cons x rest ih =>
    cases x with
    | document path text => exact ih _ hseen
    | declare path name kind span => exact ih _ hseen
    | reference path target span => exact ih _ hseen
    | declareInMetadata name kind container =>
      rw [List.filterMap_cons_some (by rfl), List.filter_cons_of_pos (by rfl), checkMetadata,
        firstFault?, fault?, idFault?]
      dsimp only
      by_cases htaken : metadataId container name ∈ seen
      · rw [if_pos htaken, if_pos ((hseen _).1 htaken)]
        rfl
      · rw [if_neg htaken, if_neg (mt (hseen _).2 htaken), Option.none_or]
        refine ih _ fun id => ?_
        simp [hseen, RecordingStep.id?, or_comm]

/-- Uses are checked up to the first fault. -/
theorem checkReferences_eq (earlier : List RecordingStep) {declared : List SymbolId}
    (hdeclared : ∀ id, id ∈ declared ↔ id ∈ steps.filterMap RecordingStep.id?) :
    checkReferences (ofSteps steps).documents declared (xs.filterMap use?) =
      (firstFault? (fault? steps) earlier (xs.filter (·.use?.isSome))).elim (.ok ()) .error := by
  induction xs generalizing earlier with
  | nil => rfl
  | cons x rest ih =>
    cases x with
    | document path text => exact ih _
    | declare path name kind span => exact ih _
    | declareInMetadata name kind container => exact ih _
    | reference path target span =>
      rw [List.filterMap_cons_some (by rfl), List.filter_cons_of_pos (by rfl), checkReferences,
        checkSpan_eq, firstFault?, fault?]
      cases hplace : placeFault? steps path span with
      | some e => rfl
      | none =>
        rw [Option.none_or, Option.elim_none]
        dsimp only
        by_cases hknown : target ∈ declared
        · rw [if_pos hknown, if_pos ((hdeclared _).1 hknown), Option.none_or]
          exact ih _
        · rw [if_neg hknown, if_neg (mt (hdeclared _).2 hknown)]
          rfl

/-- The identities that declarations give. -/
theorem map_id_declarations (xs : List RecordingStep) :
    (xs.filterMap declaration?).map (·.symbol.id) =
      (xs.filter (·.declaration?.isSome)).filterMap RecordingStep.id? := by
  induction xs with
  | nil => rfl
  | cons x rest ih =>
    cases x with
    | document path text => exact ih
    | declareInMetadata name kind container => exact ih
    | reference path target span => exact ih
    | declare path name kind span => exact congrArg (sourceId path span.start :: ·) ih

/-- **A recording is built unless there is a first fault.** -/
theorem build_eq_firstFault? (steps : List RecordingStep) :
    (ofSteps steps).build =
      (firstFault? (fault? steps) [] (inOrder steps)).elim (.ok (ofSteps steps).freeze) .error := by
  obtain ⟨hdeclarations, hmetadata, hreferences⟩ := records_ofSteps steps
  have hdeclared : ∀ id, id ∈ (ofSteps steps).symbols.map (·.id) ↔
      id ∈ steps.filterMap RecordingStep.id? := fun id => (perm_ids steps).mem_iff
  rw [build, hdeclarations, hmetadata, hreferences, map_id_declarations,
    checkDeclarations_eq [] (by simp), checkMetadata_eq _ fun _ => .rfl, inOrder,
    firstFault?_append, firstFault?_append, List.nil_append, List.nil_append,
    checkReferences_eq (steps.filter (·.declaration?.isSome) ++
      steps.filter (·.metadata?.isSome)) hdeclared]
  cases firstFault? (fault? steps) [] (steps.filter (·.declaration?.isSome)) with
  | some e => rfl
  | none =>
    rw [Option.none_or, Option.elim_none]
    dsimp only
    cases firstFault? (fault? steps) _ (steps.filter (·.metadata?.isSome)) with
    | some e => rfl
    | none =>
      rw [Option.none_or, Option.elim_none]
      dsimp only
      cases firstFault? (fault? steps) _ (steps.filter (·.use?.isSome)) with
      | some e => rfl
      | none => rfl

/-- Nothing is wrong with any call: all places fit, no identity is given twice, and everything that
is used is declared. -/
structure Sound (steps : List RecordingStep) : Prop where
  fits : ∀ step ∈ steps, step.Fits steps
  distinct : (steps.filterMap RecordingStep.id?).Nodup
  declared : ∀ path target span, .reference path target span ∈ steps →
    target ∈ steps.filterMap RecordingStep.id?

theorem fits_ofSteps_iff {path : Path} {span : Span} :
    Fits (ofSteps steps).documents path span ↔
      ∃ text, finalText? steps path = some text ∧ text.Cuts span := by
  simp only [Fits, textOf?_ofSteps, ← Text.isSome_slice?_iff, Option.isSome_iff_exists,
    exists_and_left]

/-- What the checks look at is what is asked of calls. -/
theorem valid_ofSteps_iff : (ofSteps steps).Valid ↔ Sound steps := by
  obtain ⟨hdeclarations, -, hreferences⟩ := records_ofSteps steps
  constructor
  · rintro ⟨hdeclared, hreferenced, hnodup, htargets⟩
    rw [hdeclarations] at hdeclared
    rw [hreferences] at hreferenced htargets
    refine ⟨fun step hstep path span hplace => ?_, (perm_ids steps).nodup_iff.1 hnodup,
      fun path target span hstep => ?_⟩
    · cases step with
      | document _ _ => cases hplace
      | declareInMetadata _ _ _ => cases hplace
      | declare _ _ _ _ =>
        obtain ⟨rfl, rfl⟩ := Prod.mk.inj (Option.some.inj hplace)
        have hplaced := hdeclared _ (List.mem_filterMap.2 ⟨_, hstep, rfl⟩)
        exact fits_ofSteps_iff.1 hplaced
      | reference _ _ _ =>
        obtain ⟨rfl, rfl⟩ := Prod.mk.inj (Option.some.inj hplace)
        have hplaced := hreferenced _ (List.mem_filterMap.2 ⟨_, hstep, rfl⟩)
        exact fits_ofSteps_iff.1 hplaced
    · exact (perm_ids steps).mem_iff.1 (htargets _ (List.mem_filterMap.2 ⟨_, hstep, rfl⟩))
  · rintro ⟨hfits, hdistinct, hdeclared⟩
    refine ⟨fun d hd => ?_, fun u hu => ?_, (perm_ids steps).nodup_iff.2 hdistinct,
      fun u hu => ?_⟩
    · rw [hdeclarations] at hd
      obtain ⟨step, hstep, hd⟩ := List.mem_filterMap.1 hd
      cases step <;> cases hd
      exact fits_ofSteps_iff.2 (hfits _ hstep _ _ rfl)
    · rw [hreferences] at hu
      obtain ⟨step, hstep, hu⟩ := List.mem_filterMap.1 hu
      cases step <;> cases hu
      exact fits_ofSteps_iff.2 (hfits _ hstep _ _ rfl)
    · rw [hreferences] at hu
      obtain ⟨step, hstep, hu⟩ := List.mem_filterMap.1 hu
      cases step <;> cases hu
      exact (perm_ids steps).mem_iff.2 (hdeclared _ _ _ hstep)

theorem exists_build_iff : (∃ program, (ofSteps steps).build = .ok program) ↔ Sound steps := by
  rw [← valid_ofSteps_iff]
  constructor
  · rintro ⟨program, h⟩
    exact (build_eq_ok_iff.1 h).1
  · exact fun h => ⟨_, build_eq_ok_iff.2 ⟨h, rfl⟩⟩

/-- **The fault that is reported is the first one.** -/
theorem build_eq_error_iff {e : BuildError} :
    (ofSteps steps).build = .error e ↔
      ∃ earlier step later, inOrder steps = earlier ++ step :: later ∧
        step.HasFault steps earlier e ∧
        ∀ before passed after, earlier = before ++ passed :: after →
          ∀ e', ¬ passed.HasFault steps before e' := by
  have hbuild : (ofSteps steps).build = .error e ↔
      firstFault? (fault? steps) [] (inOrder steps) = some e := by
    rw [build_eq_firstFault?]
    cases firstFault? (fault? steps) [] (inOrder steps) <;> simp
  simp only [hbuild, firstFault?_eq_some_iff, firstFault?_eq_none_iff, List.nil_append,
    fault?_eq_some_iff, fault?_eq_none_iff]
  constructor
  · rintro ⟨earlier, step, later, hsplit, hearlier, hfault⟩
    exact ⟨earlier, step, later, hsplit, hfault, hearlier⟩
  · rintro ⟨earlier, step, later, hsplit, hfault, hearlier⟩
    exact ⟨earlier, step, later, hsplit, hearlier, hfault⟩

end Recording

/-! ### What a program says about identities -/

/-- The place where a call uses a symbol. -/
def RecordingStep.usedAt? (id : SymbolId) : RecordingStep → Option ReferenceLocation
  | .reference path target span => if target = id then some ⟨path, span⟩ else none
  | _ => none

namespace Recording

variable {steps : List RecordingStep}

theorem isSome_symbol?_iff {id : SymbolId} :
    ((ofSteps steps).freeze.symbol? id).isSome = true ↔
      id ∈ steps.filterMap RecordingStep.id? := by
  rw [← (perm_ids steps).mem_iff, RecordedProgram.symbol?, List.find?_isSome, ids, List.mem_map]
  simp only [beq_iff_eq]
  rfl

theorem referencesTo_ofSteps (steps : List RecordingStep) (id : SymbolId) :
    (ofSteps steps).freeze.referencesTo id = steps.filterMap (RecordingStep.usedAt? id) := by
  show ((ofSteps steps).references.filter _).map _ = _
  rw [(records_ofSteps steps).2.2]
  induction steps with
  | nil => rfl
  | cons step rest ih =>
    cases step with
    | document path text => exact ih
    | declare path name kind span => exact ih
    | declareInMetadata name kind container => exact ih
    | reference path target span =>
      rw [List.filterMap_cons_some (by rfl)]
      by_cases h : target = id
      · simpa [RecordingStep.usedAt?, h] using ih
      · simpa [RecordingStep.usedAt?, h] using ih

/-- **The checks are complete, and report the first fault.** A sequence of calls makes a program
exactly when nothing is wrong with any of them. Otherwise the fault is that of the first call that
has one, in the order of declarations, symbols in metadata and uses. A program has a symbol for
exactly the identities that calls gave, and knows the places where it is used, in the order in which
they were recorded. -/
theorem build_of_steps (steps : List RecordingStep) :
    ((∃ program, (ofSteps steps).build = .ok program) ↔ Sound steps) ∧
    (∀ e, (ofSteps steps).build = .error e ↔
      ∃ earlier step later, inOrder steps = earlier ++ step :: later ∧
        step.HasFault steps earlier e ∧
        ∀ before passed after, earlier = before ++ passed :: after →
          ∀ e', ¬ passed.HasFault steps before e') ∧
    ∀ program, (ofSteps steps).build = .ok program →
      (∀ id, (program.symbol? id).isSome = true ↔ id ∈ steps.filterMap RecordingStep.id?) ∧
      ∀ (σ : Type) (symbol : Symbol) (s : σ),
        (program.program.findReferences symbol).ask s =
          (.ok (steps.filterMap (RecordingStep.usedAt? symbol.id)), s) := by
  refine ⟨exists_build_iff, fun e => build_eq_error_iff, fun program h => ?_⟩
  obtain rfl := (build_eq_ok_iff.1 h).2
  refine ⟨fun id => isSome_symbol?_iff, fun σ symbol s => ?_⟩
  rw [← referencesTo_ofSteps]
  rfl

section Instances

/-- Calls that fit the second text of a document but not the first one. -/
def replacedSteps : List RecordingStep :=
  [.declare ⟨"m"⟩ "f" .function ⟨0, 2⟩, .document ⟨"m"⟩ ['x'],
    .declareInMetadata "g" .function "std", .reference ⟨"m"⟩ "std::g" ⟨2, 3⟩,
    .reference ⟨"m"⟩ "m#0" ⟨3, 4⟩, .document ⟨"m"⟩ ['é', '(', ')'],
    .reference ⟨"m/"⟩ "std::g" ⟨0, 4⟩]

/-- Calls with two faults: a use in a document that is missing, and after it a symbol in metadata
that is there already. -/
def repeatedSteps : List RecordingStep :=
  [.declareInMetadata "g" .function "std", .reference ⟨"n"⟩ "std::g" ⟨0, 1⟩,
    .declareInMetadata "g" .method "std"]

theorem build_of_steps_replaced :
    (ofSteps replacedSteps).build = .ok (ofSteps replacedSteps).freeze ∧ Sound replacedSteps ∧
    ((ofSteps replacedSteps).freeze.symbol? "std::g").isSome = true ∧
    ((ofSteps replacedSteps).freeze.program.findReferences
        ⟨"std::g", "g", .function, []⟩).ask () =
      (.ok [⟨⟨"m"⟩, ⟨2, 3⟩⟩, ⟨⟨"m/"⟩, ⟨0, 4⟩⟩], ()) ∧
    ∃ earlier step later, inOrder repeatedSteps = earlier ++ step :: later ∧
      step.HasFault repeatedSteps earlier (.duplicateSymbol "std::g") := by
  have hbuild : (ofSteps replacedSteps).build = .ok (ofSteps replacedSteps).freeze := by rfl
  obtain ⟨hsound, -, hprogram⟩ := build_of_steps replacedSteps
  obtain ⟨hsymbols, hreferences⟩ := hprogram _ hbuild
  obtain ⟨-, hfaults, -⟩ := build_of_steps repeatedSteps
  obtain ⟨earlier, step, later, hsplit, hfault, -⟩ :=
    (hfaults (.duplicateSymbol "std::g")).1 (by rfl)
  refine ⟨hbuild, hsound.1 ⟨_, hbuild⟩, (hsymbols _).2 (by decide +kernel), ?_,
    earlier, step, later, hsplit, hfault⟩
  rw [hreferences Unit]
  rfl

end Instances

end Recording

end CallerClosure
