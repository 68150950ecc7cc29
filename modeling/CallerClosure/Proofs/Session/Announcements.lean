import CallerClosure.Proofs.Session.Surroundings
import CallerClosure.Proofs.Session.WatchedSteps
import CallerClosure.Proofs.Uri.FileName

/-!
# Documents are announced before they are asked about

What a session under watch has done is a list of deeds. In this list a document is announced
before any question about it, and announced again only after the server has refused its outline.

* `Along` says something of every entry of a list and those before it;
* `Environment.delivers` and `Environment.refuses` say of a deed that a document was announced or
  its outline refused, `Environment.standing` of a list of deeds that the document has been
  announced and not been refused since;
* `Environment.Tidy` says what is expected of the paths of files;
* `Session.Introduced` and `Session.Unrepeated` are the two invariants, kept by `Step.introduced`
  and `Step.unrepeated`;
* `Session.announcements` is the main statement, and `announced_twice_busy` says that documents
  can be announced more than once.
-/

namespace CallerClosure

open Relation (ReflTransGen)

variable {ω : Type}

/-! ### Entries and those before them -/

/-- Every entry of a list stands in a relation to the list of those before it. -/
def Along {ι : Type} (P : List ι → ι → Prop) (entries : List ι) : Prop :=
  ∀ before entry after, entries = before ++ entry :: after → P before entry

section Along

variable {ι : Type} {P : List ι → ι → Prop} {entries more : List ι} {entry : ι}

theorem along_nil : Along P [] := by
  intro before entry after h
  simp at h

theorem Along.concat (h : Along P entries) (hentry : P entries entry) :
    Along P (entries ++ [entry]) := by
  intro before e after heq
  rcases List.eq_nil_or_concat after with rfl | ⟨after, last, rfl⟩
  · obtain ⟨rfl, he⟩ := List.append_inj' heq rfl
    obtain rfl := List.singleton_inj.1 he
    exact hentry
  · rw [List.concat_eq_append, ← List.cons_append, ← List.append_assoc] at heq
    exact h before e after (List.append_inj' heq rfl).1

theorem Along.append (h : Along P entries) (hmore : ∀ before, ∀ e ∈ more, P before e) :
    Along P (entries ++ more) := by
  induction more generalizing entries with
  | nil => rwa [List.append_nil]
  | cons e rest ih =>
    rw [List.append_cons]
    exact ih (h.concat (hmore entries e List.mem_cons_self)) fun before e he =>
      hmore before e (List.mem_cons_of_mem _ he)

end Along

theorem Along.append_quiet {P : List (ω × Deed) → ω × Deed → Prop} {deeds more : List (ω × Deed)}
    (h : Along P deeds) (hmore : AreQuiet more)
    (hquiet : ∀ {entry : ω × Deed}, entry.2.IsQuiet → ∀ before, P before entry) :
    Along P (deeds ++ more) :=
  h.append fun before entry hentry => hquiet (hmore entry hentry) before

/-! ### Announced and not refused since -/

namespace Environment

section Documents

variable (env : Environment ω)

/-- Whether the document of a URI is announced and the announcement sent. -/
def delivers (uri : String) (entry : ω × Deed) : Bool :=
  entry.2.announces uri && env.succeeds entry

/-- Whether the outline of a document is asked for and not given. -/
def refuses (uri : String) (entry : ω × Deed) : Bool :=
  entry.2.outlines uri && !env.succeeds entry

/-- Whether a document is announced after one more deed, and its outline not refused since. -/
def stands (uri : String) (before : Bool) (entry : ω × Deed) : Bool :=
  (before || env.delivers uri entry) && !env.refuses uri entry

/-- Whether a document has been announced, and its outline not been refused since. -/
def standing (uri : String) (deeds : List (ω × Deed)) : Bool :=
  deeds.foldl (env.stands uri) false

end Documents

variable {env : Environment ω} {uri : String} {deeds more : List (ω × Deed)}

theorem standing_concat (env : Environment ω) (uri : String) (deeds : List (ω × Deed))
    (entry : ω × Deed) :
    env.standing uri (deeds ++ [entry]) = env.stands uri (env.standing uri deeds) entry := by
  rw [standing, List.foldl_append]
  rfl

theorem outlines_eq_false {deed : Deed} (h : deed.asksAbout uri = false) :
    deed.outlines uri = false := by
  rcases deed with _ | _ | _ | (_ | _ | _ | _ | _) | _ | _ <;> first | rfl | exact h

theorem stands_of_quiet {entry : ω × Deed} (h : entry.2.IsQuiet) (before : Bool) :
    env.stands uri before entry = before := by
  obtain ⟨hannounces, hasks⟩ := h uri
  simp [stands, delivers, refuses, hannounces, outlines_eq_false hasks]

theorem standing_append_of_quiet (h : AreQuiet more) :
    env.standing uri (deeds ++ more) = env.standing uri deeds := by
  induction more generalizing deeds with
  | nil => rw [List.append_nil]
  | cons entry rest ih =>
    obtain ⟨hentry, hrest⟩ := List.forall_mem_cons.1 h
    rw [List.append_cons, ih hrest, standing_concat, stands_of_quiet hentry]

end Environment

/-! ### Asked about after being announced -/

theorem Uri.IsOfFile.unique {u v : String} {p : Path} (hu : IsOfFile u p) (hv : IsOfFile v p) :
    u = v := by
  obtain ⟨written, parsed, hwritten, hparsed, rfl⟩ := hu
  obtain ⟨written', parsed', hwritten', hparsed', rfl⟩ := hv
  obtain rfl := Option.some.inj (hwritten.symm.trans hwritten')
  obtain rfl := Except.ok.inj (hparsed.symm.trans hparsed')
  rfl

namespace Environment

variable {env : Environment ω} {uri languageId : String} {text : Text} {w : ω}

/-- Whether an announcement of a document has been sent. -/
def announced (env : Environment ω) (uri : String) (deeds : List (ω × Deed)) : Bool :=
  deeds.any (env.delivers uri)

theorem announced_append (env : Environment ω) (uri : String) (deeds more : List (ω × Deed)) :
    env.announced uri (deeds ++ more) = (env.announced uri deeds || env.announced uri more) :=
  List.any_append

/-- A document that a deed asks about has been announced before. -/
def AsksAnnounced (env : Environment ω) (before : List (ω × Deed)) (entry : ω × Deed) : Prop :=
  ∀ uri, entry.2.asksAbout uri = true → env.announced uri before = true

theorem asksAnnounced_of_quiet {entry : ω × Deed} (h : entry.2.IsQuiet)
    (before : List (ω × Deed)) : env.AsksAnnounced before entry := by
  intro uri hasks
  rw [(h uri).2] at hasks
  cases hasks

theorem delivers_opened (h : env.succeeds (w, .notify (.opened uri languageId text)) = true) :
    env.delivers uri (w, .notify (.opened uri languageId text)) = true := by
  simp [delivers, Deed.announces, h]

end Environment

namespace Session

variable {env : Environment ω} {s t : Session (Watched ω)} {p : Path}
  {r : Except IndexError Document} {deeds more : List (ω × Deed)}

/-- What holds along the deeds so far still holds when a file is announced, if it holds of the
announcement and then of the question for the outline. -/
theorem Announces.along {P : List (ω × Deed) → ω × Deed → Prop} (h : Announces env p r more)
    (hdeeds : Along P deeds)
    (hquiet : ∀ {entry : ω × Deed}, entry.2.IsQuiet → ∀ before, P before entry)
    (hopened : ∀ uri languageId text w, Uri.IsOfFile uri p →
      P deeds (w, .notify (.opened uri languageId text)))
    (houtline : ∀ uri v before, env.announced uri before = true →
      P before (v, .request (.outline uri))) : Along P (deeds ++ more) := by
  cases h with
  | silent => rwa [List.append_nil]
  | unheard huri => exact hdeeds.concat (hopened _ _ _ _ huri)
  | @asked _ uri languageId text w v middle back huri hheard hmiddle hback =>
    have hannounced : env.announced uri
        (deeds ++ [(w, .notify (.opened uri languageId text))] ++ middle) = true := by
      simp [Environment.announced, Environment.delivers_opened hheard]
    have hmiddles := (hdeeds.concat (hopened uri languageId text w huri)).append_quiet hmiddle hquiet
    simp only [← List.append_assoc]
    exact (hmiddles.concat (houtline uri v _ hannounced)).append_quiet hback hquiet

/-- A file whose outline is given has been announced. -/
theorem Announces.announced (h : Announces env p r more) (hr : r.isOk = true) {uri : String}
    (huri : Uri.IsOfFile uri p) : env.announced uri more = true := by
  cases h with
  | silent => cases hr
  | unheard => cases hr
  | asked huri' hheard =>
    obtain rfl := huri.unique huri'
    simp [Environment.announced, Environment.delivers_opened hheard]

/-- The documents of a session have been announced, and so have those that it asked about. -/
structure Introduced (env : Environment ω) (s : Session (Watched ω)) : Prop where
  asked : Along env.AsksAnnounced s.world.deeds
  held : ∀ p, s.Holds p → ∀ uri, Uri.IsOfFile uri p → env.announced uri s.world.deeds = true

theorem Step.introduced (hs : Sourced env.watched s) (h : Introduced env s)
    (hstep : Step env.watched s t) : Introduced env t := by
  obtain ⟨more, hdeeds, hsays⟩ := hstep.says hs
  -- what has been announced stays so
  have hheld : ∀ p, s.Holds p → ∀ uri, Uri.IsOfFile uri p →
      env.announced uri t.world.deeds = true := by
    intro p hp uri huri
    rw [hdeeds, env.announced_append, h.held p hp uri huri, Bool.true_or]
  cases hsays with
  | quiet hholds hmore =>
    refine ⟨?_, hholds ▸ hheld⟩
    rw [hdeeds]
    exact h.asked.append_quiet hmore Environment.asksAnnounced_of_quiet
  | @asked p uri w deed hholds hp huri hasks =>
    refine ⟨?_, hholds ▸ hheld⟩
    rw [hdeeds]
    refine h.asked.concat fun u hu => ?_
    obtain rfl := hasks u hu
    exact h.held p hp u huri
  | @opened p r front more hholds hnew hfront hannounces =>
    rw [← List.append_assoc] at hdeeds
    refine ⟨?_, fun q hq uri huri => ?_⟩
    · rw [hdeeds]
      refine hannounces.along (h.asked.append_quiet hfront Environment.asksAnnounced_of_quiet)
        Environment.asksAnnounced_of_quiet (fun uri languageId text w huri u hu => ?_)
        fun uri v before hannounced u hu => ?_
      · cases hu
      · obtain rfl : uri = u := beq_iff_eq.1 hu
        exact hannounced
    · rcases (hholds q).1 hq with hq | ⟨rfl, hr⟩
      · exact hheld q hq uri huri
      · rw [hdeeds, env.announced_append, hannounces.announced hr huri, Bool.or_true]

end Session

/-! ### Announced once -/

namespace Environment

variable {env : Environment ω} {worlds : Set ω} {uri : String}

/-- In a set of worlds that nothing leads out of, a file that can be read has a path without links
and dots. -/
structure Tidy (env : Environment ω) (worlds : Set ω) : Prop where
  keeps : ∀ w ∈ worlds, ∀ deed, env.perform deed w ∈ worlds
  readable : ∀ w ∈ worlds, ∀ p text, (env.readText p w).1 = .ok text →
    ∃ c, env.canonicalize p w = .ok c
  plain : ∀ w ∈ worlds, ∀ p c, env.canonicalize p w = .ok c → .up ∉ c.components

/-- A file that can be read under its absolute form is one without dots. -/
theorem Tidy.up_notMem (h : env.Tidy worlds) {w : ω} (hw : w ∈ worlds) {root p q : Path}
    {text : Text} (hp : p = env.absolute root q w) (hread : (env.readText p w).1 = .ok text) :
    .up ∉ p.components := by
  obtain ⟨x, hx⟩ := canonical_of_absolute hp (h.readable w hw p text hread)
  exact h.plain w hw x p hx

/-- Nothing that is done under watch leads out of the worlds. -/
theorem Tidy.mem_of_does (h : env.Tidy worlds) {permits : Watched ω → Deed → Prop}
    {v w : Watched ω} (hv : v.world ∈ worlds) (hdoes : ReflTransGen (env.watched.Does permits) v w) :
    w.world ∈ worlds := by
  induction hdoes with
  | refl => exact hv
  | tail _ hstep ih =>
    obtain ⟨deed, -, rfl⟩ := hstep
    rw [env.perform_watched]
    exact h.keeps _ ih deed

/-- A document that a deed announces is not standing. -/
def AnnouncesNew (env : Environment ω) (before : List (ω × Deed)) (entry : ω × Deed) : Prop :=
  ∀ uri, entry.2.announces uri = true → env.standing uri before = false

theorem announcesNew_of_quiet {entry : ω × Deed} (h : entry.2.IsQuiet)
    (before : List (ω × Deed)) : env.AnnouncesNew before entry := by
  intro uri hannounces
  rw [(h uri).1] at hannounces
  cases hannounces

end Environment

/-! Trees of files are tidy, and so are machines. -/

theorem FileTree.up_notMem_of_canonicalize {t : FileTree} {directory : List String} {p c : Path}
    (hclean : t.LinksClean) (hdirectory : t.Stands directory)
    (h : t.canonicalize directory p = .ok c) : .up ∉ c.components := by
  obtain ⟨n, hn, rfl⟩ := stands_of_canonicalize hclean hdirectory h
  rw [components_pathOf hn.steps]
  simp

theorem Environment.HasDisk.tidy {env : Environment ω} {t : FileTree} {directory : List String}
    {worlds : Set ω} (hclean : t.LinksClean) (hdirectory : t.Stands directory)
    (h : env.HasDisk (t.disk directory) worlds) : env.Tidy worlds where
  keeps := h.keeps
  readable w hw p text hread := by
    rw [h.readText w hw] at hread
    rw [h.canonicalize w hw]
    exact (FileTree.disk_orderly hclean hdirectory).readable hread
  plain w hw p c hc := by
    rw [h.canonicalize w hw] at hc
    exact FileTree.up_notMem_of_canonicalize hclean hdirectory hc

/-- A machine is tidy, whatever its server does. -/
theorem Machine.tidy {m : Machine} (hclean : m.files.LinksClean)
    (hdirectory : m.files.Stands m.directory) (workingDirectory : Path) (threshold : LogLevel) :
    (terminal workingDirectory threshold).toEnvironment.Tidy
      {m' | m'.files = m.files ∧ m'.workingDirectory = m.workingDirectory} :=
  Environment.HasDisk.tidy hclean hdirectory (m.hasDisk workingDirectory threshold)

theorem Environment.tidy_selfCall : selfCall.Tidy Set.univ :=
  HasDisk.tidy FileTree.linksClean_selfCall (FileTree.stands_nil _) (fixed_hasDisk _ _)

/-- Of two files without dots the URIs tell them apart. -/
theorem Uri.IsOfFile.same {p q : Path} {uri : String} (hp : IsOfFile uri p) (hq : IsOfFile uri q)
    (hup : .up ∉ p.components) (hup' : .up ∉ q.components) : p.Same q := by
  have hnormal : ∀ {p : Path}, IsOfFile uri p → .up ∉ p.components → ofFile? p = some uri := by
    rintro p ⟨written, parsed, hwritten, hparsed, rfl⟩ hup
    obtain ⟨parsed', hparsed', htext⟩ := parse_ofFile? hup hwritten
    obtain rfl := Except.ok.inj (hparsed.symm.trans hparsed')
    rw [hwritten, htext]
  exact same_of_ofFile? hup hup' (hnormal hp hup) (hnormal hq hup')

namespace Session

variable {env : Environment ω} {worlds : Set ω} {s t : Session (Watched ω)} {p : Path}
  {r : Except IndexError Document} {deeds more : List (ω × Deed)}

/-- Only the document of the file comes to stand, and only if its outline is given. -/
theorem Announces.of_standing (h : Announces env p r more) {u : String}
    (hstanding : env.standing u (deeds ++ more) = true) :
    env.standing u deeds = true ∨ Uri.IsOfFile u p ∧ r.isOk = true := by
  cases h with
  | silent => exact .inl (by rwa [List.append_nil] at hstanding)
  | unheard huri hfails =>
    rw [env.standing_concat, Environment.stands, Environment.delivers, hfails] at hstanding
    simp only [Bool.and_false, Bool.or_false, Bool.and_eq_true] at hstanding
    exact .inl hstanding.1
  | @asked _ uri languageId text w v middle back huri hheard hmiddle hback hanswer =>
    simp only [← List.append_assoc] at hstanding
    rw [Environment.standing_append_of_quiet hback, env.standing_concat,
      Environment.standing_append_of_quiet hmiddle, env.standing_concat] at hstanding
    by_cases hu : uri = u
    · subst hu
      -- the outline was not refused, since the document stands
      simp only [Environment.stands, Environment.refuses, Deed.outlines, beq_self_eq_true,
        Bool.true_and, Bool.not_not, Bool.and_eq_true] at hstanding
      exact .inr ⟨huri, hanswer.trans hstanding.2⟩
    · simp only [Environment.stands, Environment.delivers, Environment.refuses, Deed.announces,
        Deed.outlines, beq_eq_false_iff_ne.2 hu, Bool.false_and, Bool.or_false, Bool.not_false,
        Bool.and_true] at hstanding
      exact .inl hstanding

/-- The documents that are standing are held by the session, under paths without dots. -/
structure Unrepeated (env : Environment ω) (worlds : Set ω) (s : Session (Watched ω)) :
    Prop where
  world : s.world.world ∈ worlds
  announced : Along env.AnnouncesNew s.world.deeds
  held : ∀ uri, env.standing uri s.world.deeds = true → ∃ p, s.Holds p ∧ Uri.IsOfFile uri p
  plain : ∀ p, s.Holds p → .up ∉ p.components

theorem Step.unrepeated (henv : env.Tidy worlds) (hs : Sourced env.watched s)
    (h : Unrepeated env worlds s) (hstep : Step env.watched s t) : Unrepeated env worlds t := by
  have hworld : t.world.world ∈ worlds := henv.mem_of_does h.world (hstep.acts hs)
  obtain ⟨more, hdeeds, hsays⟩ := hstep.says hs
  cases hsays with
  | quiet hholds hmore =>
    refine ⟨hworld, ?_, ?_, hholds ▸ h.plain⟩
    · rw [hdeeds]
      exact h.announced.append_quiet hmore Environment.announcesNew_of_quiet
    · rw [hdeeds, hholds]
      intro uri hstanding
      rw [Environment.standing_append_of_quiet hmore] at hstanding
      exact h.held uri hstanding
  | @asked p uri w deed hholds hp huri hasks hother =>
    refine ⟨hworld, ?_, ?_, hholds ▸ h.plain⟩
    · rw [hdeeds]
      refine h.announced.concat fun u hu => ?_
      rw [(hother u).1] at hu
      cases hu
    · rw [hdeeds, hholds]
      intro u hstanding
      rw [env.standing_concat] at hstanding
      simp only [Environment.stands, Environment.delivers, Environment.refuses, hother u,
        Bool.false_and, Bool.or_false, Bool.not_false, Bool.and_true] at hstanding
      exact h.held u hstanding
  | @opened p r front more hholds hnew hfront hannounces =>
    obtain ⟨q, text, hp, hread⟩ := hnew.read
    have hup := henv.up_notMem h.world hp hread
    -- a document that stands is held under a path of its own
    have hfresh : ∀ uri, Uri.IsOfFile uri p →
        env.standing uri (s.world.deeds ++ front) = false := by
      intro uri huri
      rw [Environment.standing_append_of_quiet hfront, Bool.eq_false_iff]
      intro hstanding
      obtain ⟨p', hp', huri'⟩ := h.held uri hstanding
      exact hnew.new p' hp' (huri'.same huri (h.plain p' hp') hup)
    rw [← List.append_assoc] at hdeeds
    refine ⟨hworld, ?_, fun uri hstanding => ?_, fun p' hp' => ?_⟩
    · rw [hdeeds]
      refine hannounces.along (h.announced.append_quiet hfront Environment.announcesNew_of_quiet)
        Environment.announcesNew_of_quiet (fun uri languageId text w huri u hu => ?_)
        fun uri v before _ u hu => ?_
      · obtain rfl : uri = u := beq_iff_eq.1 hu
        exact hfresh uri huri
      · cases hu
    · rw [hdeeds] at hstanding
      rcases hannounces.of_standing hstanding with hstanding | ⟨huri, hr⟩
      · rw [Environment.standing_append_of_quiet hfront] at hstanding
        obtain ⟨p', hp', huri'⟩ := h.held uri hstanding
        exact ⟨p', (hholds p').2 (.inl hp'), huri'⟩
      · exact ⟨p, (hholds p).2 (.inr ⟨rfl, hr⟩), huri⟩
    · rcases (hholds p').1 hp' with hp' | ⟨rfl, -⟩
      · exact h.plain p' hp'
      · exact hup

end Session

/-! ### Whole lists of deeds -/

theorem Along.of_append {ι : Type} {P : List ι → ι → Prop} {entries more : List ι}
    (h : Along P (entries ++ more)) : Along P entries := by
  rintro before entry after rfl
  exact h before entry (after ++ more) (by simp)

namespace Environment

variable {env : Environment ω} {uri : String} {deeds middle : List (ω × Deed)}

/-- A document stands until its outline is refused. -/
theorem exists_refuses (h : env.standing uri deeds = true)
    (hafter : env.standing uri (deeds ++ middle) = false) :
    ∃ entry ∈ middle, env.refuses uri entry = true := by
  by_contra! hnone
  have hstill : ∀ more : List (ω × Deed), (∀ entry ∈ more, env.refuses uri entry ≠ true) →
      more.foldl (env.stands uri) true = true := by
    intro more
    induction more with
    | nil => exact fun _ => rfl
    | cons entry rest ih =>
      intro hmore
      obtain ⟨hentry, hrest⟩ := List.forall_mem_cons.1 hmore
      have hstands : env.stands uri true entry = true := by
        simp [stands, Bool.eq_false_iff.2 hentry]
      rw [List.foldl_cons, hstands, ih hrest]
  rw [standing, List.foldl_append, ← standing, h, hstill middle hnone] at hafter
  cases hafter

/-- Between two announcements of a document its outline is refused, unless the first one could not
be sent. -/
theorem exists_refuses_between (h : Along env.AnnouncesNew deeds)
    {before after : List (ω × Deed)} {first second : ω × Deed}
    (hdeeds : deeds = before ++ first :: (middle ++ second :: after))
    (hfirst : env.delivers uri first = true) (hsecond : second.2.announces uri = true) :
    ∃ entry ∈ middle, env.refuses uri entry = true := by
  obtain ⟨hannounces, -⟩ := Bool.and_eq_true_iff.1 hfirst
  have hrefuses : env.refuses uri first = false := by
    rcases hdeed : first.2 with _ | _ | _ | message | _ | _ <;> rw [hdeed] at hannounces <;>
      first | cases hannounces | (rw [refuses, hdeed]; rfl)
  -- from the first announcement on the document stands, and before the second one it does not
  have hstanding : env.standing uri (before ++ [first]) = true := by
    rw [standing_concat, stands, hfirst, hrefuses, Bool.or_true]
    rfl
  have hnew := h (before ++ [first] ++ middle) second after (by rw [hdeeds]; simp) uri hsecond
  exact exists_refuses hstanding hnew

/-- Where no outline is refused a document is announced once if it stands, and else not at all. -/
theorem countP_delivers (h : Along env.AnnouncesNew deeds)
    (hrefuses : ∀ entry ∈ deeds, env.refuses uri entry = false) :
    deeds.countP (env.delivers uri) = (env.standing uri deeds).toNat := by
  -- the last deed is counted only if the document did not stand before it
  induction deeds using List.reverseRecOn with
  | nil => rfl
  | append_singleton deeds entry ih =>
    obtain ⟨hdeeds, hentry⟩ := List.forall_mem_append.1 hrefuses
    have hcount := ih h.of_append hdeeds
    rw [List.countP_append, hcount, List.countP_singleton, standing_concat, stands,
      hentry entry (List.mem_singleton_self _)]
    by_cases hdelivers : env.delivers uri entry = true
    · have hnew := h deeds entry [] rfl uri (Bool.and_eq_true_iff.1 hdelivers).1
      rw [hdelivers, hnew]
      rfl
    · simp [hdelivers]

/-- Documents are announced at most once, except for those whose outline is refused. -/
structure AnnouncesOnce (env : Environment ω) (deeds : List (ω × Deed)) : Prop where
  /-- A document that has been announced is announced again only if its outline has been refused in
  between. -/
  again : ∀ uri before first middle second after,
    deeds = before ++ first :: (middle ++ second :: after) → env.delivers uri first = true →
      second.2.announces uri = true → ∃ entry ∈ middle, env.refuses uri entry = true
  once : ∀ uri, (∀ entry ∈ deeds, env.refuses uri entry = false) →
    deeds.countP (env.delivers uri) ≤ 1

theorem announcesOnce_of_along (h : Along env.AnnouncesNew deeds) : env.AnnouncesOnce deeds where
  again _ _ _ _ _ _ := exists_refuses_between h
  once uri hrefuses := by
    rw [countP_delivers h hrefuses]
    exact Bool.toNat_le _

end Environment

/-! ### Sessions from their start -/

namespace Session

variable {env : Environment ω} {worlds : Set ω} {s t : Session (Watched ω)}

/-- Nothing that has to do with a document is done before a session has started. -/
theorem areQuiet_of_start {config : ServerConfig} {w : ω} {u : Watched ω}
    (h : start env.watched config (.start w) = (.ok s, u)) : AreQuiet s.world.deeds := by
  obtain ⟨root, written, x, -, hwritten, hlaunch, hgreet, rfl⟩ := start_eq_ok_iff.1 h
  obtain rfl : ((Watched.start w).note (.launch { config with root })
      (env.launch { config with root } w).2) = x := congrArg Prod.snd hlaunch
  have hgreeted : ∀ x, Meets (env.watched.Does fun _ deed => deed.IsQuiet) anyway
      (env.watched.greet written config.options).hold x := fun x =>
    Conversation.meets_bind (Environment.meets_normalUri _ written x) fun uri _ _ _ =>
      Conversation.meets_bind (Environment.meets_ask (fun _ => ⟨rfl, rfl⟩) _) fun _ _ _ _ =>
        Environment.meets_tell fun _ => ⟨rfl, rfl⟩
  obtain ⟨more, hdeeds, hmore⟩ := Watched.exists_quiet_of_does (hgreeted _).1
  rw [hgreet] at hdeeds
  dsimp only at hdeeds ⊢
  rw [hdeeds]
  exact List.forall_mem_append.2 ⟨areQuiet_singleton fun _ => ⟨rfl, rfl⟩, hmore⟩

theorem holds_nil {p : Path} (h : s.documents = []) : ¬ s.Holds p := by
  rintro ⟨d, hd⟩
  rw [h] at hd
  cases hd

theorem introduced_of_start {config : ServerConfig} {w : ω} {u : Watched ω}
    (h : start env.watched config (.start w) = (.ok s, u)) : Introduced env s where
  asked := by
    have hdeeds : Along env.AsksAnnounced ([] ++ s.world.deeds) :=
      along_nil.append_quiet (areQuiet_of_start h) Environment.asksAnnounced_of_quiet
    rwa [List.nil_append] at hdeeds
  held p hp := absurd hp (holds_nil (of_start h).2.1)

theorem unrepeated_of_start (henv : env.Tidy worlds) {config : ServerConfig} {w : ω}
    {u : Watched ω} (hw : w ∈ worlds)
    (h : start env.watched config (.start w) = (.ok s, u)) : Unrepeated env worlds s where
  world := by
    obtain ⟨-, -, rfl, hgreeted⟩ := of_start h
    exact henv.mem_of_does hw hgreeted
  announced := by
    have hdeeds : Along env.AnnouncesNew ([] ++ s.world.deeds) :=
      along_nil.append_quiet (areQuiet_of_start h) Environment.announcesNew_of_quiet
    rwa [List.nil_append] at hdeeds
  held uri hstanding := by
    rw [← List.nil_append s.world.deeds,
      Environment.standing_append_of_quiet (areQuiet_of_start h)] at hstanding
    cases hstanding
  plain p hp := absurd hp (holds_nil (of_start h).2.1)

theorem introduced_of_steps (hs : Sourced env.watched s) (h : Introduced env s)
    (hsteps : ReflTransGen (Step env.watched) s t) : Introduced env t := by
  induction hsteps with
  | refl => exact h
  | tail hsteps hstep ih => exact hstep.introduced (sourced_of_steps hs hsteps) ih

theorem unrepeated_of_steps (henv : env.Tidy worlds) (hs : Sourced env.watched s)
    (h : Unrepeated env worlds s) (hsteps : ReflTransGen (Step env.watched) s t) :
    Unrepeated env worlds t := by
  induction hsteps with
  | refl => exact h
  | tail hsteps hstep ih => exact hstep.unrepeated henv (sourced_of_steps hs hsteps) ih

/-- **A session announces a document before it asks about it**, and it announces no document
again unless the server has refused its outline. Neither depends on what a session is asked or on
what the server answers. -/
theorem announcements {env : Environment ω} {s : Session ω} {config : ServerConfig} {w v : ω}
    (hstart : start env config w = (.ok s, v)) :
    ∃ t u, start env.watched config (.start w) = (.ok t, u) ∧
      ∀ history,
        Twin ((program env).after s history) ((program env.watched).after t history) ∧
        Along env.AsksAnnounced ((program env.watched).after t history).world.deeds ∧
        ∀ worlds, env.Tidy worlds → w ∈ worlds →
          env.AnnouncesOnce ((program env.watched).after t history).world.deeds := by
  obtain ⟨t, u, hwatched, htwin⟩ := exists_twin hstart
  have hs : Sourced env.watched t := sourced_of_start hwatched
  refine ⟨t, u, hwatched, fun history => ?_⟩
  have hsteps := (names env.watched).toMoves.after t history
  refine ⟨htwin.after history, ?_, fun worlds henv hw => ?_⟩
  · exact (introduced_of_steps hs (introduced_of_start hwatched) hsteps).asked
  · have hstarted := unrepeated_of_start henv hw hwatched
    exact Environment.announcesOnce_of_along
      (unrepeated_of_steps henv hs hstarted hsteps).announced

/-- The session that has just started under watch next to the function that calls itself. -/
def begun : Session (Watched Unit) :=
  ⟨⟨"/ws"⟩, [], ⟨(), [((), .launch (.standard .python ⟨"/ws"⟩)),
    ((), .request (.start "file:///ws/" none)), ((), .notify .started)]⟩⟩

/-- The same session starts with every server that says nothing about itself. -/
theorem start_begun {replies : Replies}
    (hreply : replies.reply (.start "file:///ws/" none) = .ok (.obj [("capabilities", .obj [])]))
    (hreceipt : replies.receipt .started = .ok ()) :
    start (Environment.fixed (FileTree.selfCall.disk []) replies).watched
      (.standard .python ⟨"/ws"⟩) (.start ()) = (.ok begun, begun.world) :=
  start_of_silent canonical_selfCall (by decide) parse_ws rfl (Prod.ext hreply rfl)
    (Prod.ext hreceipt rfl)

/-- The same document, twice. -/
def twice : List (Question SessionNode) :=
  [.coveringNode ⟨"/ws/m.py"⟩ ⟨0, 1⟩, .coveringNode ⟨"/ws/m.py"⟩ ⟨0, 1⟩]

theorem announcements_selfCall :
    start .selfCall (.standard .python ⟨"/ws"⟩) () = (.ok selfCall, ()) ∧
      (∀ history, Along (Environment.AsksAnnounced .selfCall)
          ((program Environment.selfCall.watched).after begun history).world.deeds ∧
        Environment.AnnouncesOnce .selfCall
          ((program Environment.selfCall.watched).after begun history).world.deeds) ∧
      ((program Environment.selfCall.watched).after begun twice).world.deeds.countP
        (Environment.selfCall.delivers "file:///ws/m.py") = 1 := by
  obtain ⟨t, u, hwatched, h⟩ := announcements start_selfCall
  obtain ⟨ht, -⟩ := Prod.mk.inj (hwatched.symm.trans (start_begun rfl rfl))
  obtain rfl := Except.ok.inj ht
  refine ⟨start_selfCall, fun history => ?_, by decide +kernel⟩
  obtain ⟨-, hasks, hannounces⟩ := h history
  exact ⟨hasks, hannounces Set.univ Environment.tidy_selfCall trivial⟩

/-- A server that is too busy for outlines. -/
def busyReplies : Replies where
  reply
    | .outline _ => .error (.refused "busy" (-32000))
    | message => Replies.selfCall.reply message
  receipt _ := .ok ()

/-- The surroundings with such a server. -/
def busy : Environment Unit := .fixed (FileTree.selfCall.disk []) busyReplies

/-- **A document can be announced twice**: a session forgets about it when its outline is
refused. -/
theorem announced_twice_busy :
    start busy.watched (.standard .python ⟨"/ws"⟩) (.start ()) = (.ok begun, begun.world) ∧
      ((program busy.watched).after begun twice).world.deeds.countP
        (busy.delivers "file:///ws/m.py") = 2 :=
  ⟨start_begun rfl rfl, by decide +kernel⟩

end Session

end CallerClosure
