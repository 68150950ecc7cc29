import CallerClosure.Proofs.Extract.Members
import CallerClosure.Server.Session

/-!
# What a session does, step by step

Whatever a session is asked, it does one of a few things at a time: it remarks on something,
asks the server about a document that it holds, looks for a file or opens one.

* `Session.Step` lists these steps, `Session.Opening` what opening a file can come to;
* `load_of_known`, `load_of_opened` and `load_of_refused` are the three ways in which a file is
  loaded;
* `Session.names` says that all questions are made of such steps, and that all symbols come out
  of documents that the session holds. `meets_coveringNode` and `meets_findReferences` say the
  same of nodes and places.
-/

namespace CallerClosure

/-- The document that a node belongs to. -/
def SessionNode.document : SessionNode → Path
  | token document _ _ => document
  | declaration document _ => document

namespace Session

open Relation (ReflTransGen)

variable {ω : Type} {env : Environment ω} {s t : Session ω}

/-! ### What a session holds -/

/-- The session holds a document. -/
def Knows (s : Session ω) (d : Document) : Prop := ∃ p, (p, some d) ∈ s.documents

/-- Whether a session in a workspace may load a file. -/
def Admits (root p : Path) : Prop := (Language.ofPath? p).isSome = true ∧ p.IsUnder root

/-- Whether a file may be loaded is told by the components of its path. -/
theorem admits_congr {root p q : Path} (h : p.Same q) : Admits root p ↔ Admits root q := by
  have hlanguage : Language.ofPath? p = Language.ofPath? q := by
    rw [Language.ofPath?, Language.ofPath?, Path.extension?, Path.extension?, Path.fileName?,
      Path.fileName?, h]
  rw [Admits, Admits, Path.IsUnder, Path.IsUnder, hlanguage, h]

theorem mem_of_lookup {documents : List (Path × Option Document)} {p : Path}
    {known : Option Document} (h : lookup documents p = some known) :
    ∃ q, q.Same p ∧ (q, known) ∈ documents := by
  obtain ⟨⟨q, d⟩, hfind, rfl⟩ := Option.map_eq_some_iff.1 h
  exact ⟨q, by simpa using List.find?_some hfind, List.mem_of_find?_eq_some hfind⟩

theorem lookup_eq_none_iff {documents : List (Path × Option Document)} {p : Path} :
    lookup documents p = none ↔ ∀ entry ∈ documents, ¬ entry.1.Same p := by
  simp [lookup]

/-- Where no file is remembered twice, a file is found as it is remembered. -/
theorem lookup_of_mem {documents : List (Path × Option Document)} {p : Path}
    {known : Option Document} (hdistinct : documents.Pairwise fun a b => ¬ a.1.Same b.1)
    (h : (p, known) ∈ documents) : lookup documents p = some known := by
  cases hlookup : lookup documents p with
  | none => exact absurd rfl (lookup_eq_none_iff.1 hlookup _ h)
  | some other =>
    obtain ⟨q, hsame, hq⟩ := mem_of_lookup hlookup
    have : Std.Symm fun a b : Path × Option Document => ¬ a.1.Same b.1 :=
      ⟨fun _ _ hab hba => hab (Eq.symm hba)⟩
    by_cases heq : (q, other) = (p, known)
    · rw [(Prod.mk.inj heq).2]
    · exact absurd hsame (hdistinct.forall hq h heq)

theorem knows_of_loaded? {p : Path} {d : Document} (h : s.loaded? p = some d) : s.Knows d := by
  obtain ⟨q, -, hq⟩ := mem_of_lookup (Option.join_eq_some_iff.1 h)
  exact ⟨q, hq⟩

/-! ### Opening a file -/

/-- What opening a file for the first time can come to. -/
def Opening (env : Environment ω) (root p : Path) (w : ω) : Option Document → Prop
  | none => ¬ Admits root p ∨ (env.readText p w).1 = .error .notFound
  | some d => Admits root p ∧ ∃ text outline, (env.readText p w).1 = .ok text ∧
      (Uri.ofFile? p).isSome = true ∧ d = .ofOutline p text outline

/-- The second session differs from the first one in its world only. -/
def Beside (s t : Session ω) : Prop := t.root = s.root ∧ t.documents = s.documents

theorem Beside.of_reflTransGen (h : ReflTransGen Beside s t) : s.Beside t := by
  induction h with
  | refl => exact ⟨rfl, rfl⟩
  | tail _ hstep ih => exact ⟨hstep.1.trans ih.1, hstep.2.trans ih.2⟩

theorem beside_converse {α : Type} (c : Conversation ω α) (s : Session ω) :
    s.Beside ((converse c).ask s).2 := ⟨rfl, rfl⟩

theorem meets_converse {α : Type} (c : Conversation ω α) (s : Session ω) :
    Meets Beside anyway (converse c).ask s :=
  ⟨.single (beside_converse c s), fun _ _ => trivial⟩

theorem meets_remark (env : Environment ω) (remarks : List Remark) (s : Session ω) :
    Meets Beside anyway (remark env remarks).ask s :=
  ⟨.single ⟨rfl, rfl⟩, fun _ _ => trivial⟩

theorem meets_announce (env : Environment ω) (p : Path) (language : Language) (text : Text)
    (s : Session ω) :
    Meets Beside
      (fun d _ => (Uri.ofFile? p).isSome = true ∧ ∃ outline, d = .ofOutline p text outline)
      (announce env p language text).ask s := by
  unfold announce
  cases huri : Uri.ofFile? p with
  | none => exact Query.meets_throw _
  | some uri =>
    refine Query.meets_bind (meets_converse _ s) fun _ t _ _ => ?_
    refine Query.meets_bind (meets_converse _ t) fun outline u _ _ => ?_
    refine Query.meets_bind (meets_remark env _ u) fun _ v _ _ => ?_
    exact Query.meets_pure ⟨rfl, outline, rfl⟩

/-- The remark on a file that may not be loaded. -/
def refusal (p : Path) : Remark :=
  match Language.ofPath? p with
  | none => .unknownLanguage p
  | some _ => .outside p

/-- A file that may not be loaded comes down to a remark. -/
theorem openFile_of_not_admits {root p : Path} (h : ¬ Admits root p) :
    openFile env root p = remark env [refusal p] >>= fun _ => pure none := by
  unfold openFile refusal
  cases hlanguage : Language.ofPath? p with
  | none => rfl
  | some language =>
    have hroot : ¬ p.IsUnder root := fun hroot => h ⟨by simp [hlanguage], hroot⟩
    dsimp only
    rw [if_neg hroot]

/-- A file that may be loaded is read first. -/
theorem openFile_of_admits (env : Environment ω) {root p : Path} (h : Admits root p) :
    ∃ language, Language.ofPath? p = some language ∧
      openFile env root p = readText env p >>= fun found =>
        match found with
        | none => pure none
        | some text => some <$> announce env p language text := by
  obtain ⟨language, hlanguage⟩ := Option.isSome_iff_exists.1 h.1
  refine ⟨language, hlanguage, ?_⟩
  rw [openFile, hlanguage]
  exact if_pos h.2

/-- What was read is what there is to read. -/
theorem read_of_readText {p : Path} {found : Option Text}
    (h : ((readText env p).ask s).1 = .ok found) :
    (env.readText p s.world).1 = found.elim (.error .notFound) .ok := by
  rw [readText, Query.ask_ofFunction] at h
  dsimp only at h
  rcases hread : (env.readText p s.world).1 with e | text <;> rw [hread] at h
  · cases e <;> cases h
    rfl
  · cases h
    rfl

/-- Opening a file changes the world only. -/
theorem meets_openFile (env : Environment ω) (root p : Path) (s : Session ω) :
    Meets Beside (fun d _ => Opening env root p s.world d) (openFile env root p).ask s := by
  by_cases hadmits : Admits root p
  · obtain ⟨language, -, hopen⟩ := openFile_of_admits env hadmits
    rw [hopen]
    refine Query.meets_bind
      (m := fun found _ => (env.readText p s.world).1 = found.elim (.error .notFound) .ok)
      ⟨.single ⟨rfl, rfl⟩, fun found hfound => read_of_readText hfound⟩ fun found t _ hfound => ?_
    cases found with
    | none => exact Query.meets_pure (.inr hfound)
    | some text =>
      refine Query.meets_bind (meets_announce env p language text t) fun d u _ hd => ?_
      obtain ⟨huri, outline, rfl⟩ := hd
      exact Query.meets_pure ⟨hadmits, text, outline, hfound, huri, rfl⟩
  · rw [openFile_of_not_admits hadmits]
    exact Query.meets_bind (meets_remark env _ s) fun _ t _ _ =>
      Query.meets_pure (.inl hadmits)

theorem ask_openFile_of_not_admits {root p : Path} (h : ¬ Admits root p) (s : Session ω) :
    ((openFile env root p).ask s).1 = .ok none := by
  rw [openFile_of_not_admits h]
  rfl

theorem ask_openFile_of_notFound {root p : Path}
    (h : (env.readText p s.world).1 = .error .notFound) :
    ((openFile env root p).ask s).1 = .ok none := by
  by_cases hadmits : Admits root p
  · have hread : (readText env p).ask s =
        (.ok none, { s with world := (env.readText p s.world).2 }) := by
      rw [readText, Query.ask_ofFunction]
      dsimp only
      rw [h]
    obtain ⟨language, -, hopen⟩ := openFile_of_admits env hadmits
    rw [hopen, Query.ask_bind_of_ok hread]
    rfl
  · exact ask_openFile_of_not_admits hadmits s

/-- A file that may be loaded but cannot be read is an error, unless it is missing. -/
theorem ask_openFile_of_error {root p : Path} {e : FileError} (hadmits : Admits root p)
    (h : (env.readText p s.world).1 = .error e) (he : e ≠ .notFound) :
    ((openFile env root p).ask s).1 = .error (.io e.message) := by
  have hread : ((readText env p).ask s).1 = .error (.io e.message) := by
    rw [readText, Query.ask_ofFunction]
    dsimp only
    rw [h]
    cases e <;> first | rfl | exact absurd rfl he
  obtain ⟨language, -, hopen⟩ := openFile_of_admits env hadmits
  rw [hopen, Query.ask_bind]
  rcases hask : (readText env p).ask s with ⟨r, t⟩
  rw [hask] at hread
  cases hread
  rfl

/-! ### Steps -/

/-- What a session does at one go. -/
inductive Step (env : Environment ω) : Session ω → Session ω → Prop
  /-- It makes remarks. -/
  | remarked (s : Session ω) (remarks : List Remark) : Step env s ((remark env remarks).ask s).2
  /-- It asks where a name in a document that it holds is declared. -/
  | definition (s : Session ω) {d : Document} (hd : s.Knows d) (position : Position) :
      Step env s ((converse (env.definition (uriOf d) position)).ask s).2
  /-- It asks where a name in a document that it holds is used. -/
  | references (s : Session ω) {d : Document} (hd : s.Knows d) (position : Position) :
      Step env s ((converse (env.references (uriOf d) position false)).ask s).2
  /-- It looks for a file that it may load, whose name is no text. -/
  | sought (s : Session ω) {p : Path} (hp : Admits s.root p) :
      Step env s ((seekNameless env p).ask s).2
  /-- It opens a file that it does not know, and remembers what comes of it. -/
  | opened {s t : Session ω} (q : Path) {d : Option Document}
      (hnew : lookup s.documents (s.absolute env q) = none)
      (h : (openFile env s.root (s.absolute env q)).ask s = (.ok d, t)) :
      Step env s { t with documents := t.documents ++ [(s.absolute env q, d)] }
  /-- It fails to open a file that it does not know. -/
  | refused {s t : Session ω} (q : Path) {e : IndexError}
      (hnew : lookup s.documents (s.absolute env q) = none)
      (h : (openFile env s.root (s.absolute env q)).ask s = (.error e, t)) : Step env s t

theorem beside_of_openFile {root p : Path} {r : Except IndexError (Option Document)}
    (h : (openFile env root p).ask s = (r, t)) : s.Beside t := by
  have hsteps := (meets_openFile env root p s).1
  rw [h] at hsteps
  exact .of_reflTransGen hsteps

theorem opening_of_openFile {root p : Path} {d : Option Document}
    (h : ((openFile env root p).ask s).1 = .ok d) : Opening env root p s.world d :=
  (meets_openFile env root p s).2 d h

/-- A step keeps the root, and remembers at most one file more. -/
theorem Step.grows (h : Step env s t) :
    t.root = s.root ∧ (t.documents = s.documents ∨ ∃ q d,
      lookup s.documents (s.absolute env q) = none ∧
      ((openFile env s.root (s.absolute env q)).ask s).1 = .ok d ∧
      t.documents = s.documents ++ [(s.absolute env q, d)]) := by
  cases h with
  | remarked => exact ⟨rfl, .inl rfl⟩
  | definition =>
    obtain ⟨hroot, hdocuments⟩ := beside_converse _ s
    exact ⟨hroot, .inl hdocuments⟩
  | references =>
    obtain ⟨hroot, hdocuments⟩ := beside_converse _ s
    exact ⟨hroot, .inl hdocuments⟩
  | sought => exact ⟨rfl, .inl rfl⟩
  | opened q hnew hopen =>
    obtain ⟨hroot, hdocuments⟩ := beside_of_openFile hopen
    exact ⟨hroot, .inr ⟨q, _, hnew, by rw [hopen], by dsimp only; rw [hdocuments]⟩⟩
  | refused q hnew hopen =>
    obtain ⟨hroot, hdocuments⟩ := beside_of_openFile hopen
    exact ⟨hroot, .inl hdocuments⟩

theorem root_of_steps (h : ReflTransGen (Step env) s t) : t.root = s.root := by
  induction h with
  | refl => rfl
  | tail _ hstep ih => exact hstep.grows.1.trans ih

theorem Step.knows {d : Document} (hd : s.Knows d) (h : Step env s t) : t.Knows d := by
  obtain ⟨p, hp⟩ := hd
  obtain ⟨-, hsame | ⟨q, d', -, -, hmore⟩⟩ := h.grows
  · exact ⟨p, by rwa [hsame]⟩
  · exact ⟨p, by rw [hmore]; exact List.mem_append_left _ hp⟩

theorem knows_of_steps {d : Document} (hd : s.Knows d) (h : ReflTransGen (Step env) s t) :
    t.Knows d := by
  induction h with
  | refl => exact hd
  | tail _ hstep ih => exact hstep.knows ih

/-- No file is remembered twice. -/
theorem Step.distinct (hs : s.documents.Pairwise fun a b => ¬ a.1.Same b.1)
    (h : Step env s t) : t.documents.Pairwise fun a b => ¬ a.1.Same b.1 := by
  obtain ⟨-, hsame | ⟨q, d, hnew, -, hmore⟩⟩ := h.grows
  · rw [hsame]
    exact hs
  · rw [hmore]
    refine List.pairwise_append.2 ⟨hs, by simp, fun a ha b hb => ?_⟩
    obtain rfl := List.mem_singleton.1 hb
    exact lookup_eq_none_iff.1 hnew a ha

/-! ### Loading a file -/

theorem ask_get (s : Session ω) : (get : Query (Session ω) (Session ω)).ask s = (.ok s, s) := rfl

theorem load_of_known {p : Path} {known : Option Document}
    (h : lookup s.documents (s.absolute env p) = some known) :
    (load env p).ask s = (.ok known, s) := by
  rw [load, Query.ask_bind_of_ok (ask_get s)]
  simp only [h, Query.ask_pure]

theorem load_of_new {p : Path} (h : lookup s.documents (s.absolute env p) = none) :
    (load env p).ask s = (openFile env s.root (s.absolute env p) >>= fun d =>
      remember (s.absolute env p) d >>= fun _ => pure d).ask s := by
  rw [load, Query.ask_bind_of_ok (ask_get s)]
  simp only [h]

theorem load_of_opened {p : Path} {d : Option Document}
    (hnew : lookup s.documents (s.absolute env p) = none)
    (h : (openFile env s.root (s.absolute env p)).ask s = (.ok d, t)) :
    (load env p).ask s =
      (.ok d, { t with documents := t.documents ++ [(s.absolute env p, d)] }) := by
  rw [load_of_new hnew, Query.ask_bind_of_ok h]
  rfl

theorem load_of_refused {p : Path} {e : IndexError}
    (hnew : lookup s.documents (s.absolute env p) = none)
    (h : (openFile env s.root (s.absolute env p)).ask s = (.error e, t)) :
    (load env p).ask s = (.error e, t) := by
  rw [load_of_new hnew, Query.ask_bind, h]

/-! ### Questions are made of steps -/

/-- Documents that come up in an answer are held from then on. -/
def Holding (found : Option Document) (t : Session ω) : Prop := ∀ d ∈ found, t.Knows d

theorem meets_load (env : Environment ω) (p : Path) (s : Session ω) :
    Meets (Step env) Holding (load env p).ask s := by
  cases hknown : lookup s.documents (s.absolute env p) with
  | some known =>
    refine .of_eq (load_of_known hknown) .refl ?_
    rintro _ ⟨⟩ d rfl
    obtain ⟨q, -, hq⟩ := mem_of_lookup hknown
    exact ⟨q, hq⟩
  | none =>
    rcases hopen : (openFile env s.root (s.absolute env p)).ask s with ⟨e | d, t⟩
    · exact .of_eq (load_of_refused hknown hopen) (.single (.refused p hknown hopen))
        (by rintro _ ⟨⟩)
    · refine .of_eq (load_of_opened hknown hopen) (.single (.opened p hknown hopen)) ?_
      rintro _ ⟨⟩ d rfl
      exact ⟨s.absolute env p, by simp⟩

theorem meets_remarked (env : Environment ω) (remarks : List Remark) (s : Session ω) :
    Meets (Step env) anyway (remark env remarks).ask s :=
  ⟨.single (.remarked s remarks), fun _ _ => trivial⟩

/-- A file whose name is no text is looked for where it may be loaded, but never found. -/
theorem ask_lookForNameless_of_admits {p : Path} (h : Admits s.root p) :
    (lookForNameless env p).ask s = (seekNameless env p >>= fun _ => pure none).ask s := by
  obtain ⟨language, hlanguage⟩ := Option.isSome_iff_exists.1 h.1
  rw [lookForNameless, Query.ask_bind_of_ok (ask_get s)]
  simp only [hlanguage, if_pos h.2]

theorem ask_lookForNameless_of_not_admits {p : Path} (h : ¬ Admits s.root p) :
    (lookForNameless env p).ask s = (remark env [refusal p] >>= fun _ => pure none).ask s := by
  rw [lookForNameless, Query.ask_bind_of_ok (ask_get s)]
  cases hlanguage : Language.ofPath? p with
  | none => simp only [refusal, hlanguage]
  | some language =>
    have hroot : ¬ p.IsUnder s.root := fun hroot => h ⟨by simp [hlanguage], hroot⟩
    simp only [refusal, hlanguage, if_neg hroot]

theorem meets_lookForNameless (env : Environment ω) (p : Path) (s : Session ω) :
    Meets (Step env) Holding (lookForNameless env p).ask s := by
  by_cases hadmits : Admits s.root p
  · refine .congr (ask_lookForNameless_of_admits hadmits) (Query.meets_bind (m := anyway)
      ⟨.single (.sought s hadmits), fun _ _ => trivial⟩ fun _ _ _ _ => ?_)
    exact Query.meets_pure (by simp [Holding])
  · exact .congr (ask_lookForNameless_of_not_admits hadmits)
      (Query.meets_bind (meets_remarked env _ s) fun _ _ _ _ =>
        Query.meets_pure (by simp [Holding]))

theorem meets_loadPlace (env : Environment ω) (place : Place) (s : Session ω) :
    Meets (Step env) Holding (loadPlace env place).ask s := by
  unfold loadPlace
  cases place.uri.filePath? with
  | some p => exact meets_load env p s
  | none => exact meets_lookForNameless env _ s

theorem ask_checkSpan {d : Document} {span : Span} (h : span.stop ≤ d.text.size) :
    (checkSpan d span).ask s = (.ok (), s) := by
  rw [checkSpan, if_pos (by simpa [Document.containsSpan] using h)]
  rfl

theorem meets_checkSpan (env : Environment ω) (d : Document) (span : Span) (s : Session ω) :
    Meets (Step env) (fun _ _ => d.containsSpan span = true) (checkSpan d span).ask s := by
  unfold checkSpan
  by_cases h : d.containsSpan span = true
  · rw [if_pos h]
    exact Query.meets_pure h
  · rw [if_neg h]
    exact Query.meets_throw _

/-! ### Questions about nodes -/

/-- A symbol comes out of a document that the session holds. -/
def Declares (symbol : Symbol) (s : Session ω) : Prop :=
  ∃ d index, s.Knows d ∧ d.symbol? index = some symbol

/-- A place lies in a document that the session holds, where the server says. -/
def Locates (location : ReferenceLocation) (s : Session ω) : Prop :=
  ∃ d range, s.Knows d ∧ location.document = d.path ∧ d.text.span? range = some location.span

theorem Step.declares {symbol : Symbol} (hd : Declares symbol s) (h : Step env s t) :
    Declares symbol t := by
  obtain ⟨d, index, hknows, hsymbol⟩ := hd
  exact ⟨d, index, h.knows hknows, hsymbol⟩

theorem meets_coveringNode (env : Environment ω) (p : Path) (span : Span) (s : Session ω) :
    Meets (Step env) (fun found t => ∀ node ∈ found, ∃ d, t.Knows d ∧ node.document = d.path)
      (coveringNode env p span).ask s := by
  refine Query.meets_bind (meets_load env p s) fun found t _ hfound => ?_
  cases found with
  | none => exact Query.meets_pure (by simp)
  | some d =>
    refine Query.meets_bind (meets_checkSpan env d span t) fun _ u htu _ => ?_
    refine Query.meets_pure ?_
    rintro node ⟨⟩
    exact ⟨d, knows_of_steps (hfound d rfl) htu, rfl⟩

theorem meets_firstNamed (env : Environment ω) (targets : List Place) (s : Session ω) :
    Meets (Step env) (fun found t => ∀ symbol ∈ found, Declares symbol t)
      (firstNamed env targets).ask s := by
  induction targets generalizing s with
  | nil => exact Query.meets_pure (by simp)
  | cons target rest ih =>
    refine Query.meets_bind (meets_loadPlace env target s) fun found t _ hfound => ?_
    cases found with
    | none => exact ih t
    | some d =>
      dsimp only
      cases (d.text.offset? target.range.start).bind d.namedAt? with
      | none => exact ih t
      | some index =>
        exact Query.meets_pure fun symbol hsymbol => ⟨d, index, hfound d rfl, hsymbol⟩

theorem meets_referencedSymbol (env : Environment ω) (node : SessionNode) (s : Session ω) :
    Meets (Step env) (fun found t => ∀ symbol ∈ found, Declares symbol t)
      (referencedSymbol env node).ask s := by
  cases node with
  | declaration document index => exact Query.meets_pure (by simp)
  | token document offset parent =>
    refine Query.meets_bind (meets_load env document s) fun found t _ hfound => ?_
    cases found with
    | none => exact Query.meets_pure (by simp)
    | some d =>
      refine Query.meets_bind (m := anyway)
        ⟨.single (.definition t (hfound d rfl) _), fun _ _ => trivial⟩ fun targets u _ _ => ?_
      exact meets_firstNamed env targets u

theorem meets_declaredSymbol (env : Environment ω) (node : SessionNode) (s : Session ω) :
    Meets (Step env) (fun found t => ∀ symbol ∈ found, Declares symbol t)
      (declaredSymbol node).ask s := by
  cases node with
  | token document offset parent => exact Query.meets_pure (by simp)
  | declaration document index =>
    refine .of_eq (Query.ask_ofReader _ s) .refl ?_
    rintro _ ⟨⟩ symbol hsymbol
    obtain ⟨d, hd, hsymbol⟩ := Option.bind_eq_some_iff.1 hsymbol
    exact ⟨d, index, knows_of_loaded? hd, hsymbol⟩

/-! ### Questions about references -/

theorem meets_locate (env : Environment ω) (places : List Place) (s : Session ω) :
    Meets (Step env) (fun locations t => ∀ location ∈ locations, Locates location t)
      (locate env places).ask s := by
  induction places generalizing s with
  | nil => exact Query.meets_pure (by simp)
  | cons place rest ih =>
    refine Query.meets_bind (meets_loadPlace env place s) fun found t _ hfound => ?_
    cases found with
    | none => exact Query.meets_bind (meets_remarked env _ t) fun _ u _ _ => ih u
    | some d =>
      dsimp only
      cases hspan : d.text.span? place.range with
      | none => exact Query.meets_bind (meets_remarked env _ t) fun _ u _ _ => ih u
      | some span =>
        refine Query.meets_bind (ih t) fun locations u htu hlocations => Query.meets_pure ?_
        rintro location (_ | ⟨_, hlocation⟩)
        · exact ⟨d, place.range, knows_of_steps (hfound d rfl) htu, rfl, hspan⟩
        · exact hlocations location hlocation

theorem meets_findReferences (env : Environment ω) (symbol : Symbol) (s : Session ω) :
    Meets (Step env) (fun locations t => ∀ location ∈ locations, Locates location t)
      (findReferences env symbol).ask s := by
  unfold findReferences
  cases symbol.source? with
  | none => exact Query.meets_pure (by simp)
  | some source =>
    refine Query.meets_bind (meets_load env _ s) fun found t _ hfound => ?_
    cases found with
    | none => exact Query.meets_pure (by simp)
    | some d =>
      refine Query.meets_bind (m := anyway)
        ⟨.single (.references t (hfound d rfl) _), fun _ _ => trivial⟩ fun places u _ _ => ?_
      exact meets_locate env places u

theorem meets_containingDeclaration (env : Environment ω) (location : ReferenceLocation)
    (s : Session ω) :
    Meets (Step env) (fun found t => ∀ symbol ∈ found, Declares symbol t)
      (containingDeclaration env location).ask s := by
  refine Query.meets_bind (meets_load env _ s) fun found t _ hfound => ?_
  cases found with
  | none => exact Query.meets_pure (by simp)
  | some d =>
    refine Query.meets_bind (meets_checkSpan env d _ t) fun _ u htu _ => Query.meets_pure ?_
    intro symbol hsymbol
    obtain ⟨index, -, hsymbol⟩ := Option.bind_eq_some_iff.1 hsymbol
    exact ⟨d, index, knows_of_steps (hfound d rfl) htu, hsymbol⟩

/-! ### Questions about texts -/

theorem meets_declarationText (env : Environment ω) (symbol : Symbol) (s : Session ω) :
    Meets (Step env) anyway (declarationText env symbol).ask s := by
  unfold declarationText
  cases symbol.source? with
  | none => exact Query.meets_pure trivial
  | some source =>
    refine Query.meets_bind (meets_load env _ s) fun found t _ _ => ?_
    cases found with
    | none => exact Query.meets_pure trivial
    | some d =>
      exact Query.meets_bind (meets_checkSpan env d _ t) fun _ u _ _ => Query.meets_pure trivial

/-- **A session only takes its steps, and names only what it holds.** -/
theorem names (env : Environment ω) : (program env).Names (Step env) Declares where
  coveringNode p span s := (meets_coveringNode env p span s).1
  referencedSymbol node s := (meets_referencedSymbol env node s).1
  declaredSymbol node s := (meets_declaredSymbol env node s).1
  findReferences symbol s := (meets_findReferences env symbol s).1
  containingDeclaration location s := (meets_containingDeclaration env location s).1
  declarationText symbol s := (meets_declarationText env symbol s).1
  lasting hd hst := hst.declares hd
  used h := (meets_referencedSymbol env _ _).2 _ h _ rfl
  declared h := (meets_declaredSymbol env _ _).2 _ h _ rfl
  containing h := (meets_containingDeclaration env _ _).2 _ h _ rfl

end Session

end CallerClosure
