import CallerClosure.Proofs.Session.Spelling
import CallerClosure.Proofs.Session.Surroundings

/-!
# What a session remembers does not show

A session keeps what it found out about a file. On a disk that does not change, with a server whose
replies do not change, it answers as a session that has just started, whatever it was asked
before, with one exception. Files are told apart by the components of their paths, but a path
can be spelled in more ways than one, and a file may be readable in one spelling only: a slash at
the end of its path makes a directory of it. A session that knows the file in the one spelling
answers for the other one; a session that has just started fails to read it.

* `Session.Faithful` is the invariant: what is remembered of a file is what comes of opening it.
  `Faithful.opening` compares it with what comes of opening another spelling;
* `Session.Ahead` relates a session that knows more to one that knows less;
* `tracks_load_respelled` says that a session which was used loads files as one that has just
  started does with the spellings that the first one knows. `tracks_load_fresh` says what
  difference these spellings make, and `Session.Misspelled` describes the files for which they do;
* `Session.ask_eq_fresh` is the main statement, for all questions.
-/

namespace CallerClosure

open Relation (ReflTransGen)

variable {ω : Type}

/-- In a set of worlds with one disk and one server, an environment always does the same. -/
theorem Environment.HasDisk.alike {env : Environment ω} {disk : Disk} {replies : Replies}
    {worlds : Set ω} (h : env.HasDisk disk worlds) (hreplies : env.HasReplies replies worlds) :
    env.Alike env fun w v => w ∈ worlds ∧ v ∈ worlds where
  readText hR p := by rw [h.readText _ hR.1, h.readText _ hR.2]
  seek hR p := by rw [h.seek _ hR.1, h.seek _ hR.2]
  request hR message := by rw [hreplies.request _ hR.1, hreplies.request _ hR.2]
  notify hR message := by rw [hreplies.notify _ hR.1, hreplies.notify _ hR.2]
  perform hR deed := ⟨h.keeps _ hR.1 deed, h.keeps _ hR.2 deed⟩

namespace Session

variable {env : Environment ω} {disk : Disk} {replies : Replies} {worlds : Set ω}
  {s t : Session ω}

/-! ### What is remembered -/

/-- What a session remembers of a file is what comes of opening it. -/
structure Faithful (env : Environment ω) (disk : Disk) (worlds : Set ω) (s : Session ω) :
    Prop where
  world : s.world ∈ worlds
  found : ∀ p known, (p, known) ∈ s.documents → (∃ q, p = disk.absolute s.root q) ∧
    ∀ t : Session ω, t.world ∈ worlds → ((openFile env s.root p).ask t).1 = .ok known

section Faithful

variable (hdisk : env.HasDisk disk worlds) (hreplies : env.HasReplies replies worlds)

include hdisk hreplies

/-- What comes of opening a file does not depend on the session, and does not lead out of the
worlds. -/
theorem openFile_agree (root p : Path) (hs : s.world ∈ worlds) (ht : t.world ∈ worlds) :
    ((openFile env root p).ask s).1 = ((openFile env root p).ask t).1 ∧
      ((openFile env root p).ask s).2.world ∈ worlds ∧
      ((openFile env root p).ask t).2.world ∈ worlds := by
  have htracks : Tracks inexcusable (fun s t => s.world ∈ worlds ∧ t.world ∈ worlds)
      (openFile env root p).ask (openFile env root p).ask s t :=
    tracks_openFile (hdisk.alike hreplies) (extends_world _) ⟨hs, ht⟩ root p
  exact htracks.agree fun _ => id

theorem Step.faithful (hsourced : Sourced env s) (hs : Faithful env disk worlds s)
    (h : Step env s t) : Faithful env disk worlds t := by
  have hworld : t.world ∈ worlds := hdisk.mem_of_does hs.world (h.acts hsourced)
  obtain ⟨hroot, hsame | ⟨q, found, -, hopen, hmore⟩⟩ := h.grows
  · exact ⟨hworld, by rw [hroot, hsame]; exact hs.found⟩
  refine ⟨hworld, ?_⟩
  rw [hroot, hmore]
  intro p known hp
  rcases List.mem_append.1 hp with hp | hp
  · exact hs.found p known hp
  · obtain ⟨rfl, rfl⟩ := Prod.mk.inj (List.mem_singleton.1 hp)
    refine ⟨⟨q, hdisk.absolute_eq hs.world s.root q⟩, fun u hu => ?_⟩
    rw [← hopen]
    exact (openFile_agree hdisk hreplies _ _ hu hs.world).1

theorem faithful_of_steps (hsourced : Sourced env s) (hs : Faithful env disk worlds s)
    (h : ReflTransGen (Step env) s t) : Faithful env disk worlds t := by
  induction h with
  | refl => exact hs
  | tail hsteps hstep ih =>
    exact hstep.faithful hdisk hreplies (sourced_of_steps hsourced hsteps) ih

end Faithful

/-- An absolute form of a path that can be read is free of links and dots. -/
theorem canonical_of_text (hdisk : env.HasDisk disk worlds) (horderly : disk.Orderly)
    (hs : s.world ∈ worlds) {root p q : Path} {text : Text} (hp : p = disk.absolute root q)
    (htext : disk.text p = .ok text) : ∃ x, disk.canonical x = .ok p := by
  obtain ⟨c, hc⟩ := horderly.readable htext
  rw [← hdisk.absolute_eq hs] at hp
  rw [← hdisk.canonicalize _ hs] at hc
  obtain ⟨x, hx⟩ := Environment.canonical_of_absolute hp ⟨c, hc⟩
  exact ⟨x, by rw [← hdisk.canonicalize _ hs, hx]⟩

/-- What is remembered of a file is what comes of opening any absolute path with the same
components, unless that one fails to be read. -/
theorem Faithful.opening (hdisk : env.HasDisk disk worlds) (horderly : disk.Orderly)
    (hs : Faithful env disk worlds s) {p q r : Path} {known : Option Document}
    (hp : (p, known) ∈ s.documents) (hq : q = disk.absolute s.root r) (hsame : p.Same q)
    (ht : t.world ∈ worlds) :
    ((openFile env s.root q).ask t).1 = .ok known ∨
      ∃ fault, p ≠ q ∧ Admits s.root q ∧ disk.text q = .error fault ∧ fault ≠ .notFound ∧
        ((openFile env s.root q).ask t).1 = .error (.io fault.message) := by
  obtain ⟨⟨x, hx⟩, hopen⟩ := hs.found p known hp
  have hopening := opening_of_openFile (hopen t ht)
  by_cases hadmits : Admits s.root q
  · cases hread : disk.text q with
    | error fault =>
      have hreadt : (env.readText q t.world).1 = .error fault := by
        rw [hdisk.readText _ ht, hread]
      by_cases hfault : fault = .notFound
      · subst hfault
        left
        rw [ask_openFile_of_notFound hreadt]
        cases known with
        | none => rfl
        | some d =>
          obtain ⟨-, text, outline, htext, -⟩ := hopening
          rw [hdisk.readText _ ht] at htext
          exact absurd hread (horderly.present hsame htext)
      · right
        have herror := ask_openFile_of_error hadmits hreadt hfault
        refine ⟨fault, ?_, hadmits, rfl, hfault, herror⟩
        rintro rfl
        rw [hopen t ht] at herror
        cases herror
    | ok text =>
      left
      -- Both files can be read, so both paths are free of links and dots: they are one path.
      obtain ⟨y, hy⟩ := canonical_of_text hdisk horderly ht hq hread
      cases known with
      | none =>
        rcases hopening with hnot | htext
        · exact absurd ((admits_congr hsame).2 hadmits) hnot
        · rw [hdisk.readText _ ht] at htext
          exact absurd htext (horderly.present (Eq.symm hsame) hread)
      | some d =>
        obtain ⟨-, text', outline, htext, -⟩ := hopening
        rw [hdisk.readText _ ht] at htext
        obtain ⟨z, hz⟩ := canonical_of_text hdisk horderly ht hx htext
        obtain rfl := horderly.unique hz hy hsame
        exact hopen t ht
  · left
    rw [ask_openFile_of_not_admits hadmits]
    cases known with
    | none => rfl
    | some d => exact absurd ((admits_congr hsame).1 hopening.1) hadmits

/-! ### Sessions that know more and less -/

/-- Of two sessions in a workspace the first one knows what the second one does, and beyond that
what some documents tell. -/
structure Ahead (worlds : Set ω) (root : Path) (extra : List (Path × Option Document))
    (s t : Session ω) : Prop where
  roots : s.root = root ∧ t.root = root
  worlds : s.world ∈ worlds ∧ t.world ∈ worlds
  known : ∀ p, lookup s.documents p = (lookup t.documents p).or (lookup extra p)

section Ahead

variable {root : Path} {extra : List (Path × Option Document)}

theorem extends_ahead :
    Extends (fun w v => w ∈ worlds ∧ v ∈ worlds) (Ahead worlds root extra) where
  world := Ahead.worlds
  change h hR := ⟨h.roots, hR, h.known⟩

/-- What two sessions know of each other does not depend on their worlds. -/
theorem Ahead.beside (h : Ahead worlds root extra s t) {s' t' : Session ω} (hs : s.Beside s')
    (ht : t.Beside t') (hworlds : s'.world ∈ worlds ∧ t'.world ∈ worlds) :
    Ahead worlds root extra s' t' where
  roots := ⟨hs.1.trans h.roots.1, ht.1.trans h.roots.2⟩
  worlds := hworlds
  known := by
    rw [hs.2, ht.2]
    exact h.known

/-- Both sessions come to know a file, under paths with the same components. -/
theorem Ahead.append (h : Ahead worlds root extra s t) {p q : Path} (hsame : p.Same q)
    (hnew : lookup extra p = none) (d : Option Document) :
    Ahead worlds root extra { s with documents := s.documents ++ [(p, d)] }
      { t with documents := t.documents ++ [(q, d)] } where
  roots := h.roots
  worlds := h.worlds
  known r := by
    rw [lookup_append, lookup_append, h.known, Option.or_assoc, Option.or_assoc]
    by_cases hp : p.Same r
    · have hq : q.Same r := (Eq.symm hsame).trans hp
      have hr : lookup extra r = none := by rw [← lookup_congr hp, hnew]
      rw [hr, if_pos hp, if_pos hq]
      rfl
    · have hq : ¬ q.Same r := fun hq => hp (hsame.trans hq)
      rw [if_neg hp, if_neg hq, Option.or_none, Option.none_or]

/-- The second session comes to know a file that the first one knew before. -/
theorem Ahead.append_right (h : Ahead worlds root extra s t) {q : Path} {d : Option Document}
    (hknown : lookup extra q = some d) :
    Ahead worlds root extra s { t with documents := t.documents ++ [(q, d)] } where
  roots := h.roots
  worlds := h.worlds
  known r := by
    rw [lookup_append, h.known, Option.or_assoc]
    by_cases hq : q.Same r
    · have hr : lookup extra r = some d := by rw [← lookup_congr hq, hknown]
      rw [hr, if_pos hq]
      rfl
    · rw [if_neg hq, Option.none_or]

/-- Two sessions that both open a file remember it alike. -/
theorem Ahead.tracks_load_of_new {env' : Environment ω} {excuse : IndexError → Prop}
    (h : Ahead worlds root extra s t) {p : Path}
    (hsnew : lookup s.documents (s.absolute env p) = none)
    (htnew : lookup t.documents (t.absolute env' p) = none)
    (hsame : (s.absolute env p).Same (t.absolute env' p))
    (hopen : Tracks excuse (Ahead worlds root extra)
      (openFile env s.root (s.absolute env p)).ask
      (openFile env' t.root (t.absolute env' p)).ask s t) :
    Tracks excuse (Ahead worlds root extra) (load env p).ask (load env' p).ask s t := by
  rw [h.known, Option.or_eq_none_iff] at hsnew
  rw [Tracks, load_of_new (by rw [h.known, hsnew.1, hsnew.2]; rfl), load_of_new htnew]
  exact Query.tracks_bind hopen fun d s' t' hst => .inl ⟨rfl, hst.append hsame hsnew.2 d⟩

end Ahead

/-! ### Loading files -/

/-- A file is not read because it is spelled in another way than the session knows it. -/
structure Misspelled (disk : Disk) (s : Session ω) (p : Path) (fault : FileError) : Prop where
  known : ∃ entry ∈ s.documents,
    entry.1 ≠ disk.absolute s.root p ∧ entry.1.Same (disk.absolute s.root p)
  admits : Admits s.root (disk.absolute s.root p)
  unread : disk.text (disk.absolute s.root p) = .error fault
  present : fault ≠ .notFound

/-- The error that a path comes to when it is misspelled. -/
def Misspelling (disk : Disk) (s : Session ω) (p : Path) (e : IndexError) : Prop :=
  ∃ fault, Misspelled disk s p fault ∧ e = .io fault.message

section Loading

variable {s₀ : Session ω} (hdisk : env.HasDisk disk worlds)
  (hreplies : env.HasReplies replies worlds) (hs₀ : Faithful env disk worlds s₀)

include hdisk

/-- Two sessions in one workspace agree on absolute forms. -/
theorem Ahead.absolute_eq {root : Path} {extra : List (Path × Option Document)}
    (h : Ahead worlds root extra s t) (p : Path) :
    s.absolute env p = disk.absolute root p ∧ t.absolute env p = disk.absolute root p := by
  rw [Session.absolute_eq, Session.absolute_eq, hdisk.absolute_eq h.worlds.1,
    hdisk.absolute_eq h.worlds.2, h.roots.1, h.roots.2]
  exact ⟨rfl, rfl⟩

include hreplies

/-- Two sessions that open files with the same result remain as they were to each other. -/
theorem Ahead.tracks_openFile {root root' root'' : Path} {extra : List (Path × Option Document)}
    {excuse : IndexError → Prop} (h : Ahead worlds root extra s t) {p q : Path}
    (hresult : ((openFile env root' p).ask s).1 = ((openFile env root'' q).ask t).1) :
    Tracks excuse (Ahead worlds root extra) (openFile env root' p).ask (openFile env root'' q).ask
      s t :=
  .inl ⟨hresult, h.beside (beside_of_openFile (Prod.mk.eta).symm)
    (beside_of_openFile (Prod.mk.eta).symm)
    ⟨(openFile_agree hdisk hreplies root' p h.worlds.1 h.worlds.1).2.1,
      (openFile_agree hdisk hreplies root'' q h.worlds.2 h.worlds.2).2.1⟩⟩

include hs₀

/-- **What a session knows shows in the spelling of paths only**: the session loads a file as one
that has just started does where absolute forms are spelled as the session knows them. -/
theorem tracks_load_respelled (h : Ahead worlds s₀.root s₀.documents s t) (p : Path) :
    Tracks inexcusable (Ahead worlds s₀.root s₀.documents) (load env p).ask
      (load (env.respelled s₀.paths) p).ask s t := by
  have hsame := (s.absolute env p).respell_same s₀.paths
  have habsolute : t.absolute (env.respelled s₀.paths) p =
      (s.absolute env p).respell s₀.paths := by
    rw [absolute_respelled, (h.absolute_eq hdisk p).1, (h.absolute_eq hdisk p).2]
  have htknown : lookup t.documents (t.absolute (env.respelled s₀.paths) p) =
      lookup t.documents (s.absolute env p) := by
    rw [habsolute, lookup_congr hsame]
  have hsknown := h.known (s.absolute env p)
  cases hknown : lookup t.documents (s.absolute env p) with
  | some known =>
    rw [hknown] at htknown hsknown
    exact .of_eq (load_of_known hsknown) (load_of_known htknown) h
  | none =>
    rw [hknown] at htknown hsknown
    cases hold : lookup s₀.documents (s.absolute env p) with
    | some known =>
      -- The second session opens the file as the first one did before.
      rw [hold] at hsknown
      rcases hopen : (openFile env t.root (t.absolute (env.respelled s₀.paths) p)).ask t with
        ⟨r, t'⟩
      have hworld := (openFile_agree hdisk hreplies t.root
        (t.absolute (env.respelled s₀.paths) p) h.worlds.2 h.worlds.2).2.1
      have hopened := (hs₀.found _ _ (respell_of_lookup hold)).2 t h.worlds.2
      rw [← habsolute, ← h.roots.2, hopen] at hopened
      rw [hopen] at hworld
      obtain rfl : r = .ok known := hopened
      refine .of_eq (load_of_known hsknown) (load_of_opened htknown hopen)
        ((h.beside ⟨rfl, rfl⟩ (beside_of_openFile hopen) ⟨h.worlds.1, hworld⟩).append_right ?_)
      rw [habsolute, lookup_congr hsame, hold]
    | none =>
      refine h.tracks_load_of_new (by rw [hsknown, hold]; rfl) htknown ?_ ?_
      · rw [habsolute]
        exact Eq.symm hsame
      · rw [habsolute, respell_of_lookup_eq_none hold, openFile_respelled, h.roots.1, h.roots.2]
        exact tracks_openFile (hdisk.alike hreplies) extends_ahead h _ _

/-- The difference that the spelling of paths makes is that a misspelled file is not read. -/
theorem tracks_load_fresh (horderly : disk.Orderly) (h : Ahead worlds s₀.root [] s t) (p : Path) :
    Tracks (Misspelling disk s₀ p) (Ahead worlds s₀.root []) (load (env.respelled s₀.paths) p).ask
      (load env p).ask s t := by
  have hsame := (t.absolute env p).respell_same s₀.paths
  have habsolute : s.absolute (env.respelled s₀.paths) p =
      (t.absolute env p).respell s₀.paths := by
    rw [absolute_respelled, (h.absolute_eq hdisk p).1, (h.absolute_eq hdisk p).2]
  have hsknown : lookup s.documents (s.absolute (env.respelled s₀.paths) p) =
      lookup t.documents (t.absolute env p) := by
    rw [habsolute, lookup_congr hsame, h.known]
    exact Option.or_none
  cases hknown : lookup t.documents (t.absolute env p) with
  | some known =>
    rw [hknown] at hsknown
    exact .of_eq (load_of_known hsknown) (load_of_known hknown) h
  | none =>
    rw [hknown] at hsknown
    refine h.tracks_load_of_new hsknown hknown (by rw [habsolute]; exact hsame) ?_
    rw [openFile_respelled, habsolute, h.roots.1, h.roots.2]
    cases hold : lookup s₀.documents (t.absolute env p) with
    | none =>
      rw [respell_of_lookup_eq_none hold]
      exact h.tracks_openFile hdisk hreplies
        (openFile_agree hdisk hreplies _ _ h.worlds.1 h.worlds.2).1
    | some known =>
      have hmem := respell_of_lookup hold
      have hp := (h.absolute_eq hdisk p).2
      rcases hs₀.opening hdisk horderly hmem hp hsame h.worlds.2 with
        hok | ⟨fault, hne, hadmits, hread, hfault, herror⟩
      · refine h.tracks_openFile hdisk hreplies ?_
        rw [hok]
        exact (hs₀.found _ _ hmem).2 s h.worlds.1
      · refine .inr ⟨_, ⟨fault, ?_, rfl⟩, herror⟩
        rw [hp] at hmem hne hsame hadmits hread
        exact ⟨⟨_, hmem, hne, hsame⟩, hadmits, hread, hfault⟩

theorem follows_respelled :
    Follows (fun _ => inexcusable) env (env.respelled s₀.paths)
      (fun w v => w ∈ worlds ∧ v ∈ worlds) (Ahead worlds s₀.root s₀.documents) where
  toExtends := extends_ahead
  root h := h.roots.1.trans h.roots.2.symm
  alike := (hdisk.alike hreplies).respelled_right _
  load := tracks_load_respelled hdisk hreplies hs₀

theorem follows_fresh (horderly : disk.Orderly) :
    Follows (Misspelling disk s₀) (env.respelled s₀.paths) env
      (fun w v => w ∈ worlds ∧ v ∈ worlds) (Ahead worlds s₀.root []) where
  toExtends := extends_ahead
  root h := h.roots.1.trans h.roots.2.symm
  alike := (hdisk.alike hreplies).respelled_left _
  load := tracks_load_fresh hdisk hreplies hs₀ horderly

end Loading

/-! ### The answers of a session that was used -/

/-- How a session that was used answers a question, beside one that has just started. -/
structure AnswersAs {α : Type} (env : Environment ω) (disk : Disk)
    (question : Question SessionNode) (q : Environment ω → Query (Session ω) α)
    (s t : Session ω) : Prop where
  /-- It answers as the other one does where absolute forms of paths are spelled as it knows
  them. -/
  respelled : ((q env).ask s).1 = ((q (env.respelled s.paths)).ask t).1
  /-- Where they are spelled as they are it answers as the other one too, unless a path that the
  question leads to is misspelled and the other one fails for that. -/
  fresh : ((q env).ask s).1 = ((q env).ask t).1 ∨
    ∃ p fault, Concerns env t question p ∧ Misspelled disk s p fault ∧
      ((q env).ask t).1 = .error (.io fault.message)

/-- A session that was used answers all questions so. -/
structure AnswersAllAs (env : Environment ω) (disk : Disk) (s t : Session ω) : Prop where
  coveringNode : ∀ document span, AnswersAs env disk (.coveringNode document span)
    (fun env => coveringNode env document span) s t
  referencedSymbol : ∀ node, AnswersAs env disk (.referencedSymbol node)
    (fun env => referencedSymbol env node) s t
  findReferences : ∀ symbol, AnswersAs env disk (.findReferences symbol)
    (fun env => findReferences env symbol) s t
  containingDeclaration : ∀ location, AnswersAs env disk (.containingDeclaration location)
    (fun env => containingDeclaration env location) s t
  declarationText : ∀ symbol, AnswersAs env disk (.declarationText symbol)
    (fun env => declarationText env symbol) s t

theorem AnswersAs.of_tracks {α : Type} {question : Question SessionNode}
    {q : Environment ω → Query (Session ω) α} {Q Q' : Session ω → Session ω → Prop}
    (hrespelled : Tracks (Excused (fun _ => inexcusable) (env.respelled s.paths) t question) Q
      (q env).ask (q (env.respelled s.paths)).ask s t)
    (hfresh : Tracks (Excused (Misspelling disk s) env t question) Q'
      (q (env.respelled s.paths)).ask (q env).ask t t) :
    AnswersAs env disk question q s t where
  respelled := (hrespelled.agree Follows.not_excused).1
  fresh := by
    rw [(hrespelled.agree Follows.not_excused).1]
    rcases hfresh with ⟨hresult, -⟩ | ⟨_, ⟨p, hp, fault, hmisspelled, rfl⟩, herror⟩
    · exact .inl hresult
    · exact .inr ⟨p, fault, hp, hmisspelled, herror⟩

/-- **A session that was used answers as one that has just started**, whatever it was asked, as
far as paths are spelled as it knows them. Spelled in another way a file may fail to be read;
such a failure at one of the paths that a question leads to is the one exception, and there too
the session answers for the path as it knows it. -/
theorem ask_eq_fresh (hdisk : env.HasDisk disk worlds) (hreplies : env.HasReplies replies worlds)
    (horderly : disk.Orderly) {config : ServerConfig} {w v w' v' : ω} (hw : w ∈ worlds)
    (hw' : w' ∈ worlds) (hstart : start env config w = (.ok s, v))
    (hfresh : start env config w' = (.ok t, v')) (history : List (Question SessionNode)) :
    AnswersAllAs env disk ((program env).after s history) t := by
  obtain ⟨hsroot, hsempty, rfl, hsgreeted⟩ := of_start hstart
  obtain ⟨htroot, htempty, rfl, htgreeted⟩ := of_start hfresh
  have hsteps := (names env).toMoves.after s history
  have hroot : t.root = ((program env).after s history).root := by
    rw [hdisk.canonicalize _ hw] at hsroot
    rw [hdisk.canonicalize _ hw'] at htroot
    rw [root_of_steps hsteps]
    exact Except.ok.inj (htroot.symm.trans hsroot)
  have hworld : t.world ∈ worlds := hdisk.mem_of_does hw' htgreeted
  have hfaithful : Faithful env disk worlds ((program env).after s history) :=
    faithful_of_steps hdisk hreplies (sourced_of_start hstart)
      ⟨hdisk.mem_of_does hw hsgreeted, by simp [hsempty]⟩ hsteps
  have hahead : Ahead worlds ((program env).after s history).root
      ((program env).after s history).documents ((program env).after s history) t :=
    ⟨⟨rfl, hroot⟩, ⟨hfaithful.world, hworld⟩, fun p => by rw [htempty]; rfl⟩
  have hlevel : Ahead worlds ((program env).after s history).root [] t t :=
    ⟨⟨hroot, hroot⟩, ⟨hworld, hworld⟩, fun p => by rw [htempty]; rfl⟩
  have hrespelled := follows_respelled hdisk hreplies hfaithful
  have hfollows := follows_fresh hdisk hreplies hfaithful horderly
  exact
    { coveringNode := fun document span => .of_tracks (hrespelled.coveringNode hahead document span)
        (hfollows.coveringNode hlevel document span)
      referencedSymbol := fun node => .of_tracks (hrespelled.referencedSymbol hahead node)
        (hfollows.referencedSymbol hlevel node)
      findReferences := fun symbol => .of_tracks (hrespelled.findReferences hahead symbol)
        (hfollows.findReferences hlevel symbol)
      containingDeclaration := fun location =>
        .of_tracks (hrespelled.containingDeclaration hahead location)
          (hfollows.containingDeclaration hlevel location)
      declarationText := fun symbol => .of_tracks (hrespelled.declarationText hahead symbol)
        (hfollows.declarationText hlevel symbol) }

theorem ask_eq_fresh_selfCall :
    Environment.selfCall.HasDisk (FileTree.selfCall.disk []) Set.univ ∧
      Environment.selfCall.HasReplies .selfCall Set.univ ∧
      (FileTree.selfCall.disk []).Orderly ∧
      start .selfCall (.standard .python ⟨"/ws"⟩) () = (.ok selfCall, ()) ∧
      AnswersAllAs .selfCall (FileTree.selfCall.disk [])
        ((program .selfCall).after selfCall [.coveringNode ⟨"m.py"⟩ ⟨11, 12⟩,
          .findReferences .selfCall]) selfCall := by
  have hdisk := Environment.fixed_hasDisk (FileTree.selfCall.disk []) .selfCall
  have hreplies := Environment.fixed_hasReplies (FileTree.selfCall.disk []) .selfCall
  have horderly := FileTree.disk_orderly FileTree.linksClean_selfCall
    (FileTree.stands_nil .selfCall)
  exact ⟨hdisk, hreplies, horderly, start_selfCall, ask_eq_fresh hdisk hreplies horderly
    (Set.mem_univ ()) (Set.mem_univ ()) start_selfCall start_selfCall _⟩

/-- The exception is met. With a slash at the end of its path a file is not read, but it is
answered for once it is known without the slash. -/
theorem ask_ne_fresh_selfCall :
    Environment.selfCall.HasDisk (FileTree.selfCall.disk []) Set.univ ∧
      Environment.selfCall.HasReplies .selfCall Set.univ ∧
      start .selfCall (.standard .python ⟨"/ws"⟩) () = (.ok selfCall, ()) ∧
      ((coveringNode .selfCall ⟨"/ws/m.py/"⟩ ⟨0, 1⟩).ask selfCall).1 =
        .error (.io "Not a directory (os error 20)") ∧
      ((coveringNode .selfCall ⟨"/ws/m.py/"⟩ ⟨0, 1⟩).ask
        ((program .selfCall).after selfCall [.coveringNode ⟨"/ws/m.py"⟩ ⟨0, 1⟩])).1 =
          .ok (some (.token ⟨"/ws/m.py"⟩ 0 (some 0))) :=
  ⟨Environment.fixed_hasDisk _ _, Environment.fixed_hasReplies _ _, start_selfCall,
    by decide +kernel, by decide +kernel⟩

example : ((coveringNode (Environment.selfCall.respelled [⟨"/ws/m.py"⟩]) ⟨"/ws/m.py/"⟩ ⟨0, 1⟩).ask
    selfCall).1 = .ok (some (.token ⟨"/ws/m.py"⟩ 0 (some 0))) := by decide +kernel

end Session

end CallerClosure
