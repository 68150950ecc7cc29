import CallerClosure.Proofs.Session.Surroundings
import CallerClosure.Proofs.Text.Lines
import CallerClosure.Proofs.Uri.FileName

/-!
# A session can go on with its own answers

On a disk that does not change, a session that has once named a symbol or a place can be asked
about it for ever after, whatever the server says and whatever was asked in between.

* `Session.Settled` is the invariant: every document is remembered under its own absolute path,
  and no file is remembered twice. So a document that is held is found again, `load_of_knows`;
* `ask_declarationText` and `ask_containingDeclaration` answer the questions about symbols and
  places of such documents;
* `Session.SelfConsistent` says this of all answers that a session gives, and that no member of a
  closure is left out of a document. `Session.selfConsistent` is the main statement.
-/

namespace CallerClosure.Session

open Relation (ReflTransGen)

variable {ω : Type} {env : Environment ω} {disk : Disk} {worlds : Set ω} {s t : Session ω}

/-! ### The invariant -/

/-- What is remembered holds on a disk: every document is the one of its path, and that path
stays as it is when it is made absolute. -/
structure Settled (disk : Disk) (worlds : Set ω) (s : Session ω) : Prop where
  world : s.world ∈ worlds
  found : ∀ p d, (p, some d) ∈ s.documents → disk.absolute s.root p = p ∧
    ∃ text outline, disk.text p = .ok text ∧ d = .ofOutline p text outline
  distinct : s.documents.Pairwise fun a b => ¬ a.1.Same b.1

theorem Step.settled (henv : env.HasDisk disk worlds) (hcanonical : disk.Canonical)
    (hsourced : Sourced env s) (hs : Settled disk worlds s) (h : Step env s t) :
    Settled disk worlds t := by
  have hworld : t.world ∈ worlds := henv.mem_of_does hs.world (h.acts hsourced)
  have hdistinct := h.distinct hs.distinct
  obtain ⟨hroot, hsame | ⟨q, found, -, hopen, hmore⟩⟩ := h.grows
  · exact ⟨hworld, by rw [hroot, hsame]; exact hs.found, hdistinct⟩
  refine ⟨hworld, ?_, hdistinct⟩
  rw [hroot, hmore]
  intro p d hp
  rcases List.mem_append.1 hp with hp | hp
  · exact hs.found p d hp
  · obtain ⟨rfl, rfl⟩ := Prod.mk.inj (List.mem_singleton.1 hp)
    obtain ⟨-, text, outline, hread, huri, rfl⟩ := opening_of_openFile hopen
    rw [henv.readText _ hs.world] at hread
    refine ⟨?_, text, outline, hread, rfl⟩
    exact hcanonical.absolute_absolute (henv.absolute_eq hs.world s.root q)
      (Uri.isAbsolute_of_ofFile? huri)

theorem settled_of_steps (henv : env.HasDisk disk worlds) (hcanonical : disk.Canonical)
    (hsourced : Sourced env s) (hs : Settled disk worlds s) (h : ReflTransGen (Step env) s t) :
    Settled disk worlds t := by
  induction h with
  | refl => exact hs
  | tail hsteps hstep ih =>
    exact hstep.settled henv hcanonical (sourced_of_steps hsourced hsteps) ih

/-! ### Questions about what is held -/

/-- A document that is held is found again. -/
theorem load_of_knows {d : Document} (henv : env.HasDisk disk worlds)
    (hs : Settled disk worlds s) (hd : s.Knows d) :
    (load env d.path).ask s = (.ok (some d), s) := by
  obtain ⟨p, hp⟩ := hd
  obtain ⟨habsolute, text, outline, -, rfl⟩ := hs.found p d hp
  rw [Document.path_ofOutline]
  refine load_of_known ?_
  rw [absolute_eq, henv.absolute_eq hs.world, habsolute]
  exact lookup_of_mem hs.distinct hp

/-- The method around a place that was named is looked for without an error. -/
theorem ask_containingDeclaration {location : ReferenceLocation}
    (henv : env.HasDisk disk worlds) (hs : Settled disk worlds s) (h : Locates location s) :
    ∃ container, (containingDeclaration env location).ask s = (.ok container, s) := by
  obtain ⟨d, range, hd, hdocument, hspan⟩ := h
  have hsize := (Text.boundaries_of_span? hspan).2.1.le_size
  refine ⟨(d.covering? location.span true).bind d.symbol?, ?_⟩
  rw [containingDeclaration, hdocument, Query.ask_bind_of_ok (load_of_knows henv hs hd)]
  dsimp only
  rw [Query.ask_bind_of_ok (ask_checkSpan hsize)]
  rfl

/-- A symbol that was named is declared in a file, and its text is made of whole lines of that
file. -/
theorem ask_declarationText {symbol : Symbol} (henv : env.HasDisk disk worlds)
    (hs : Settled disk worlds s) (h : Declares symbol s) :
    ∃ source content text, symbol.source? = some source ∧
      disk.text source.document = .ok content ∧
      (declarationText env symbol).ask s = (.ok (some text), s) ∧
      content.WholeLinesAround source.span text ∧
      Locates ⟨source.document, source.span⟩ s := by
  obtain ⟨d, index, hd, hsymbol⟩ := h
  obtain ⟨c, hc, hlocations⟩ := Document.exists_of_symbol? hsymbol
  have hsource : symbol.source? = some ⟨d.path, c.span, c.name.start⟩ := by
    rw [Symbol.source?, hlocations]
    rfl
  have hload := load_of_knows henv hs hd
  obtain ⟨p, hp⟩ := id hd
  obtain ⟨-, content, outline, hcontent, rfl⟩ := hs.found p d hp
  obtain ⟨hspan, -⟩ := Document.mem_ofOutline hc
  obtain ⟨hstart, hstop, hle⟩ := Text.boundaries_of_span? hspan
  obtain ⟨text, hslice, hlines⟩ := Text.exists_wholeLines hstart hstop hle
  refine ⟨_, content, text, hsource, by simpa using hcontent, ?_, hlines,
    _, c.entry.range, hd, rfl, by simpa using hspan⟩
  rw [declarationText, hsource]
  dsimp only
  rw [Query.ask_bind_of_ok hload]
  dsimp only
  rw [Query.ask_bind_of_ok (ask_checkSpan (by simpa using hstop.le_size)),
    Document.text_ofOutline, hslice]
  rfl

theorem Step.locates {location : ReferenceLocation} (hl : Locates location s)
    (h : Step env s t) : Locates location t := by
  obtain ⟨d, range, hd, hlocation⟩ := hl
  exact ⟨d, range, h.knows hd, hlocation⟩

theorem locates_of_steps {location : ReferenceLocation} (hl : Locates location s)
    (h : ReflTransGen (Step env) s t) : Locates location t := by
  induction h with
  | refl => exact hl
  | tail _ hstep ih => exact hstep.locates ih

/-! ### Consistency -/

/-- From some state on, a place can always be asked about. -/
def Placed (env : Environment ω) (s : Session ω) (location : ReferenceLocation) : Prop :=
  ∀ later, ∃ container,
    ((containingDeclaration env location).ask ((program env).after s later)).1 = .ok container

/-- From some state on, a symbol can always be asked about: it is declared in a file, its text
is made of the whole lines of that file around the declaration, and the declaration is a place
like others. -/
def Lasting (env : Environment ω) (disk : Disk) (s : Session ω) (symbol : Symbol) : Prop :=
  ∃ source content, symbol.source? = some source ∧ disk.text source.document = .ok content ∧
    Placed env s ⟨source.document, source.span⟩ ∧
    ∀ later, ∃ text,
      ((declarationText env symbol).ask ((program env).after s later)).1 = .ok (some text) ∧
        content.WholeLinesAround source.span text

/-- A session can go on with its own answers, whatever it was and will be asked. -/
structure SelfConsistent (env : Environment ω) (disk : Disk) (s : Session ω) : Prop where
  used : ∀ history node symbol t,
    (referencedSymbol env node).ask ((program env).after s history) = (.ok (some symbol), t) →
      Lasting env disk t symbol
  declared : ∀ history node symbol t,
    (declaredSymbol node).ask ((program env).after s history) = (.ok (some symbol), t) →
      Lasting env disk t symbol
  containing : ∀ history location symbol t,
    (containingDeclaration env location).ask ((program env).after s history) =
      (.ok (some symbol), t) → Lasting env disk t symbol
  references : ∀ history symbol locations t,
    (findReferences env symbol).ask ((program env).after s history) = (.ok locations, t) →
      ∀ location ∈ locations, Placed env t location
  /-- No member of a closure is left out of the document that is delivered. -/
  delivered : ∀ history sink request d t,
    (program env).extract sink request ((program env).after s history) = (.delivered d, t) →
      d.fragments = d.symbols

theorem placed_of_locates {location : ReferenceLocation} (henv : env.HasDisk disk worlds)
    (hcanonical : disk.Canonical) (hsourced : Sourced env s) (hs : Settled disk worlds s)
    (h : Locates location s) : Placed env s location := by
  intro later
  have hsteps := (names env).toMoves.after s later
  obtain ⟨container, hask⟩ := ask_containingDeclaration henv
    (settled_of_steps henv hcanonical hsourced hs hsteps) (locates_of_steps h hsteps)
  exact ⟨container, by rw [hask]⟩

theorem lasting_of_declares {symbol : Symbol} (henv : env.HasDisk disk worlds)
    (hcanonical : disk.Canonical) (hsourced : Sourced env s) (hs : Settled disk worlds s)
    (h : Declares symbol s) : Lasting env disk s symbol := by
  obtain ⟨source, content, -, hsource, hcontent, -, -, hlocates⟩ :=
    ask_declarationText henv hs h
  refine ⟨source, content, hsource, hcontent,
    placed_of_locates henv hcanonical hsourced hs hlocates, fun later => ?_⟩
  have hsteps := (names env).toMoves.after s later
  obtain ⟨source', content', text, hsource', hcontent', hask, hlines, -⟩ :=
    ask_declarationText henv (settled_of_steps henv hcanonical hsourced hs hsteps)
      ((names env).lasts h hsteps)
  obtain rfl := Option.some.inj (hsource.symm.trans hsource')
  obtain rfl := Except.ok.inj (hcontent.symm.trans hcontent')
  exact ⟨text, by rw [hask], hlines⟩

/-- **A session can go on with its own answers**, on a disk that does not change and where a path
without links and dots stays as it is. -/
theorem selfConsistent {config : ServerConfig} {w v : ω} (henv : env.HasDisk disk worlds)
    (hcanonical : disk.Canonical) (hw : w ∈ worlds)
    (hstart : start env config w = (.ok s, v)) : SelfConsistent env disk s := by
  obtain ⟨-, hempty, rfl, hgreeted⟩ := of_start hstart
  have hsourced : Sourced env s := sourced_of_start hstart
  have hs : Settled disk worlds s :=
    ⟨henv.mem_of_does hw hgreeted, by simp [hempty], by simp [hempty]⟩
  have hnames := names env
  -- What is named after some steps lasts from then on.
  have hlasting : ∀ {t symbol}, ReflTransGen (Step env) s t → Declares symbol t →
      Lasting env disk t symbol := fun hsteps h =>
    lasting_of_declares henv hcanonical (sourced_of_steps hsourced hsteps)
      (settled_of_steps henv hcanonical hsourced hs hsteps) h
  have hafter := hnames.toMoves.after s
  constructor
  case used =>
    intro history node symbol t h
    obtain ⟨hsteps, hdeclares⟩ := (meets_referencedSymbol env node _).answer h
    exact hlasting ((hafter history).trans hsteps) (hdeclares symbol rfl)
  case declared =>
    intro history node symbol t h
    obtain ⟨hsteps, hdeclares⟩ := (meets_declaredSymbol env node _).answer h
    exact hlasting ((hafter history).trans hsteps) (hdeclares symbol rfl)
  case containing =>
    intro history location symbol t h
    obtain ⟨hsteps, hdeclares⟩ := (meets_containingDeclaration env location _).answer h
    exact hlasting ((hafter history).trans hsteps) (hdeclares symbol rfl)
  case references =>
    intro history symbol locations t h location hlocation
    obtain ⟨hsteps, hlocates⟩ := (meets_findReferences env symbol _).answer h
    have hsteps := (hafter history).trans hsteps
    exact placed_of_locates henv hcanonical (sourced_of_steps hsourced hsteps)
      (settled_of_steps henv hcanonical hsourced hs hsteps) (hlocates location hlocation)
  case delivered =>
    intro history sink request d t h
    have hsteps := hafter history
    refine hnames.fragments_eq_symbols (fun symbol u hu hsymbol => ?_) h
    obtain ⟨source, content, text, hsource, -, hask, -⟩ := ask_declarationText henv
      (settled_of_steps henv hcanonical hsourced hs (hsteps.trans hu)) hsymbol
    refine ⟨text, u, ?_, .refl⟩
    rw [Program.fragment, hsource]
    exact hask

theorem selfConsistent_selfCall :
    Environment.selfCall.HasDisk (FileTree.selfCall.disk []) Set.univ ∧
      (FileTree.selfCall.disk []).Canonical ∧
      start .selfCall (.standard .python ⟨"/ws"⟩) () = (.ok selfCall, ()) ∧
      SelfConsistent .selfCall (FileTree.selfCall.disk []) selfCall ∧
      ∃ t, (referencedSymbol .selfCall (.token ⟨"/ws/m.py"⟩ 11 (some 0))).ask selfCall =
          (.ok (some .selfCall), t) ∧
        Lasting .selfCall (FileTree.selfCall.disk []) t .selfCall := by
  have hdisk := Environment.fixed_hasDisk (FileTree.selfCall.disk []) .selfCall
  have hcanonical := FileTree.disk_canonical FileTree.linksClean_selfCall
    (FileTree.stands_nil .selfCall)
  have hconsistent := selfConsistent hdisk hcanonical (Set.mem_univ ()) start_selfCall
  have hused : ((referencedSymbol .selfCall (.token ⟨"/ws/m.py"⟩ 11 (some 0))).ask selfCall).1 =
      .ok (some .selfCall) := by decide +kernel
  obtain ⟨t, ht⟩ : ∃ t, (referencedSymbol .selfCall (.token ⟨"/ws/m.py"⟩ 11 (some 0))).ask
      selfCall = (.ok (some .selfCall), t) := by
    generalize (referencedSymbol .selfCall (.token ⟨"/ws/m.py"⟩ 11 (some 0))).ask selfCall =
      answer at hused ⊢
    exact ⟨answer.2, Prod.ext hused rfl⟩
  exact ⟨hdisk, hcanonical, start_selfCall, hconsistent, t, ht, hconsistent.used [] _ _ t ht⟩

end CallerClosure.Session
