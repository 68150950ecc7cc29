import CallerClosure.Proofs.Session.Watch

/-!
# What a session writes down in a step

A session under watch adds to a list of deeds. Most of what it does has nothing to do with a
document; for the rest this module says which deeds are added, and what came of them.

* `Deed.announces`, `Deed.asksAbout` and `Deed.outlines` say what a deed has to do with a document,
  `Environment.succeeds` whether it was a success;
* `Deed.IsQuiet` holds of the deeds that have nothing to do with any document;
* `Session.Announces` lists the deeds by which a file is announced, `Session.Says` all that can be
  added in one step;
* `Session.Step.says` says that nothing else is.
-/

namespace CallerClosure

open Relation (ReflTransGen)

variable {ω : Type}

/-! ### Documents in deeds -/

/-- Whether a deed announces the document of a URI. -/
def Deed.announces (uri : String) : Deed → Bool
  | .notify (.opened u _ _) => u == uri
  | _ => false

/-- Whether a deed is a question about the document of a URI. -/
def Deed.asksAbout (uri : String) : Deed → Bool
  | .request (.outline u) => u == uri
  | .request (.definition u _) => u == uri
  | .request (.references u _ _) => u == uri
  | _ => false

/-- Whether a deed is the question for the outline of the document of a URI. -/
def Deed.outlines (uri : String) : Deed → Bool
  | .request (.outline u) => u == uri
  | _ => false

namespace Environment

variable (env : Environment ω)

/-- The question for an outline. -/
def askOutline (uri : String) : Conversation ω (Option OutlineAnswer) :=
  env.ask (.outline uri) (Json.Decoder.optional OutlineAnswer.ofJson)

/-- Whether a deed was a success: a message was sent, an outline was given. -/
def succeeds : ω × Deed → Bool
  | (w, .notify notice) => (env.notify notice w).1.isOk
  | (w, .request (.outline uri)) => ((env.askOutline uri).hold w).1.isOk
  | _ => true

end Environment

/-! ### Quiet deeds -/

/-- A deed that has nothing to do with any document. -/
def Deed.IsQuiet (deed : Deed) : Prop :=
  ∀ uri, deed.announces uri = false ∧ deed.asksAbout uri = false

/-- Entries of deeds that have nothing to do with any document. -/
def AreQuiet (entries : List (ω × Deed)) : Prop := ∀ entry ∈ entries, entry.2.IsQuiet

theorem areQuiet_nil : AreQuiet ([] : List (ω × Deed)) := by simp [AreQuiet]

theorem areQuiet_singleton {w : ω} {deed : Deed} (h : deed.IsQuiet) : AreQuiet [(w, deed)] := by
  simpa [AreQuiet] using h

theorem Deed.isQuiet_remark (r : Remark) : (Deed.remark r).IsQuiet := fun _ => ⟨rfl, rfl⟩

theorem Deed.isQuiet_read (p : Path) : (Deed.read p).IsQuiet := fun _ => ⟨rfl, rfl⟩

theorem Deed.isQuiet_seek (p : Path) : (Deed.seek p).IsQuiet := fun _ => ⟨rfl, rfl⟩

/-- Where only quiet things are done, only quiet things are written down. -/
theorem Watched.exists_quiet_of_does {env : Environment ω} {v w : Watched ω}
    (h : ReflTransGen (env.watched.Does fun _ deed => deed.IsQuiet) v w) :
    ∃ more, w.deeds = v.deeds ++ more ∧ AreQuiet more := by
  induction h with
  | refl => exact ⟨[], by simp, areQuiet_nil⟩
  | @tail x y _ hdoes ih =>
    obtain ⟨more, hdeeds, hmore⟩ := ih
    obtain ⟨deed, hquiet, rfl⟩ := hdoes
    refine ⟨more ++ [(x.world, deed)], ?_, ?_⟩
    · rw [env.perform_watched, note, hdeeds, List.append_assoc]
    · exact List.forall_mem_append.2 ⟨hmore, areQuiet_singleton hquiet⟩

/-! ### Conversations -/

namespace Environment

variable {env : Environment ω} {written : String} {parsed : Uri} {w v : ω}

theorem hold_openDocument (hparsed : Uri.parse written = .ok parsed) (languageId : String)
    (text : Text) (w : ω) :
    (env.openDocument written languageId text).hold w =
      env.notify (.opened parsed.text languageId text) w :=
  Conversation.hold_bind_of_ok (hold_normalUri hparsed w)

/-- An outline is asked for between two remarks. -/
theorem hold_outline_of_ok {answer : Option OutlineAnswer} (hparsed : Uri.parse written = .ok parsed)
    (h : (env.askOutline parsed.text).hold (env.remark (.asking parsed.text) w) =
      (.ok answer, v)) :
    (env.outline written).hold w = (.ok (OutlineAnswer.toOutline answer),
      env.remark (.answered parsed.text answer.isSome) v) := by
  rw [outline, Conversation.hold_bind_of_ok (hold_normalUri hparsed w),
    Conversation.hold_bind_of_ok (c := env.mention (.asking parsed.text)) rfl]
  exact Conversation.hold_bind_of_ok h

theorem hold_outline_of_error {e : ServerError} (hparsed : Uri.parse written = .ok parsed)
    (h : (env.askOutline parsed.text).hold (env.remark (.asking parsed.text) w) =
      (.error e, v)) :
    (env.outline written).hold w = (.error e, v) := by
  rw [outline, Conversation.hold_bind_of_ok (hold_normalUri hparsed w),
    Conversation.hold_bind_of_ok (c := env.mention (.asking parsed.text)) rfl]
  exact Conversation.hold_bind_of_error h

/-- The world after a question about a document whose URI can be read. -/
theorem hold_definition_snd (hparsed : Uri.parse written = .ok parsed) (position : Position)
    (w : ω) : ((env.definition written position).hold w).2 =
      (env.request (.definition parsed.text position) w).2 := by
  rw [definition, Conversation.hold_bind_of_ok (hold_normalUri hparsed w), Conversation.hold_bind,
    hold_ask]
  rcases (env.request (.definition parsed.text position) w).1.bind _ with e | answer <;> rfl

theorem hold_references_snd (hparsed : Uri.parse written = .ok parsed) (position : Position)
    (w : ω) : ((env.references written position false).hold w).2 =
      (env.request (.references parsed.text position false) w).2 := by
  rw [references, Conversation.hold_bind_of_ok (hold_normalUri hparsed w), hold_ask]

/-- Under watch a question has the same answer. -/
theorem hold_askOutline_watched (env : Environment ω) (uri : String) (w : Watched ω) :
    (env.watched.askOutline uri).hold w = (((env.askOutline uri).hold w.world).1,
      w.note (.request (.outline uri)) (env.request (.outline uri) w.world).2) := by
  rw [askOutline, askOutline, hold_ask, hold_ask]
  rfl

/-- Under watch a question for an outline is written down between remarks, and it is a success
if there is an outline. -/
theorem hold_outline_watched (env : Environment ω) (hparsed : Uri.parse written = .ok parsed)
    (x : Watched ω) : ∃ middle v back, AreQuiet middle ∧ AreQuiet back ∧
      ((env.watched.outline written).hold x).2.deeds =
        x.deeds ++ (middle ++ [(v, .request (.outline parsed.text))] ++ back) ∧
      ((env.watched.outline written).hold x).1.isOk =
        env.succeeds (v, .request (.outline parsed.text)) := by
  let y : Watched ω := env.watched.remark (.asking parsed.text) x
  have hmiddle : AreQuiet [(x.world, Deed.remark (.asking parsed.text))] :=
    areQuiet_singleton (Deed.isQuiet_remark _)
  have hask := env.hold_askOutline_watched parsed.text y
  rcases hgiven : ((env.askOutline parsed.text).hold y.world).1 with e | answer
  · rw [hold_outline_of_error hparsed (hask.trans (Prod.ext hgiven rfl))]
    refine ⟨_, y.world, [], hmiddle, areQuiet_nil, ?_, ?_⟩
    · simp [y, watched, Watched.note]
    · rw [succeeds, hgiven]
      rfl
  · rw [hold_outline_of_ok hparsed (hask.trans (Prod.ext hgiven rfl))]
    let z : ω := (env.request (.outline parsed.text) y.world).2
    have hback : AreQuiet [(z, Deed.remark (.answered parsed.text answer.isSome))] :=
      areQuiet_singleton (Deed.isQuiet_remark _)
    refine ⟨_, y.world, _, hmiddle, hback, ?_, ?_⟩
    · simp [y, z, watched, Watched.note]
    · rw [succeeds, hgiven]
      rfl

end Environment

/-! ### What is said in a step -/

theorem Query.ask_bind_of_error {σ α β : Type} {q : Query σ α} {k : α → Query σ β} {s t : σ}
    {e : IndexError} (h : q.ask s = (.error e, t)) : (q >>= k).ask s = (.error e, t) := by
  rw [ask_bind, h]

namespace Session

variable {env : Environment ω}

theorem ask_converse_of_ok {α : Type} {c : Conversation ω α} {s : Session ω} {a : α} {v : ω}
    (h : c.hold s.world = (.ok a, v)) : (converse c).ask s = (.ok a, { s with world := v }) := by
  rw [converse, Query.ask_ofFunction]
  dsimp only
  rw [h]
  rfl

theorem ask_converse_of_error {α : Type} {c : Conversation ω α} {s : Session ω}
    {e : ServerError} {v : ω} (h : c.hold s.world = (.error e, v)) :
    (converse c).ask s = (.error (.server e.message), { s with world := v }) := by
  rw [converse, Query.ask_ofFunction]
  dsimp only
  rw [h]
  rfl

/-- The session holds the document of a path. -/
def Holds (s : Session ω) (p : Path) : Prop := ∃ d, (p, some d) ∈ s.documents

variable {s t : Session (Watched ω)}

/-- The deeds by which a file is announced, with what comes of it. -/
inductive Announces (env : Environment ω) (p : Path) :
    Except IndexError Document → List (ω × Deed) → Prop
  /-- The file has no proper URI. -/
  | silent {e : IndexError} : Announces env p (.error e) []
  /-- The announcement cannot be sent. -/
  | unheard {e : IndexError} {uri languageId : String} {text : Text} {w : ω}
      (huri : Uri.IsOfFile uri p)
      (hfails : env.succeeds (w, .notify (.opened uri languageId text)) = false) :
      Announces env p (.error e) [(w, .notify (.opened uri languageId text))]
  /-- The announcement is sent, and the outline asked for. -/
  | asked {r : Except IndexError Document} {uri languageId : String} {text : Text} {w v : ω}
      {middle back : List (ω × Deed)} (huri : Uri.IsOfFile uri p)
      (hheard : env.succeeds (w, .notify (.opened uri languageId text)) = true)
      (hmiddle : AreQuiet middle) (hback : AreQuiet back)
      (hanswer : r.isOk = env.succeeds (v, .request (.outline uri))) :
      Announces env p r ([(w, .notify (.opened uri languageId text))] ++ middle ++
        [(v, .request (.outline uri))] ++ back)

theorem exists_quiet_remark (env : Environment ω) (remarks : List Remark)
    (s : Session (Watched ω)) : ∃ more, AreQuiet more ∧
      ((remark env.watched remarks).ask s).2.world.deeds = s.world.deeds ++ more := by
  have hfold : ∀ (remarks : List Remark) (w : Watched ω), ∃ more, AreQuiet more ∧
      (remarks.foldl (fun w r => env.watched.remark r w) w).deeds = w.deeds ++ more := by
    intro remarks
    induction remarks with
    | nil => exact fun w => ⟨[], areQuiet_nil, by simp⟩
    | cons r rest ih =>
      intro w
      obtain ⟨more, hmore, hdeeds⟩ := ih (env.watched.remark r w)
      refine ⟨(w.world, .remark r) :: more, ?_, ?_⟩
      · exact List.forall_mem_cons.2 ⟨Deed.isQuiet_remark r, hmore⟩
      · rw [List.foldl_cons, hdeeds]
        exact List.append_assoc w.deeds [(w.world, .remark r)] more
  exact hfold remarks s.world

/-- Announcing a file comes down to an announcement and the question for the outline. -/
theorem announces_of_announce (env : Environment ω) (p : Path) (language : Language) (text : Text)
    (s : Session (Watched ω)) : ∃ more,
      ((announce env.watched p language text).ask s).2.world.deeds = s.world.deeds ++ more ∧
      Announces env p ((announce env.watched p language text).ask s).1 more := by
  unfold announce
  cases hwritten : Uri.ofFile? p with
  | none => exact ⟨[], by simp, .silent⟩
  | some written =>
    dsimp only
    cases hparsed : Uri.parse written with
    | error e =>
      have hopen : (env.watched.openDocument written (language.idFor p) text).hold s.world =
          (.error (.malformedUri e), s.world) :=
        Conversation.hold_bind_of_error (Environment.hold_normalUri_of_error hparsed _)
      rw [Query.ask_bind_of_error (ask_converse_of_error hopen)]
      exact ⟨[], by simp, .silent⟩
    | ok parsed =>
      have huri : Uri.IsOfFile parsed.text p := ⟨written, parsed, hwritten, hparsed, rfl⟩
      let notice : ServerNotice := .opened parsed.text (language.idFor p) text
      have hopen : (env.watched.openDocument written (language.idFor p) text).hold s.world =
          env.watched.notify notice s.world := Environment.hold_openDocument hparsed _ _ _
      rcases hsent : (env.notify notice s.world.world).1 with e | sent
      · rw [Query.ask_bind_of_error (ask_converse_of_error (hopen.trans (Prod.ext hsent rfl)))]
        refine ⟨[(s.world.world, .notify notice)], rfl, .unheard huri ?_⟩
        rw [Environment.succeeds, hsent]
        rfl
      rw [Query.ask_bind_of_ok (ask_converse_of_ok (hopen.trans (Prod.ext hsent rfl)))]
      have hheard : env.succeeds (s.world.world, .notify notice) = true := by
        rw [Environment.succeeds, hsent]
        rfl
      obtain ⟨middle, v, back, hmiddle, hback, hdeeds, hanswer⟩ :=
        env.hold_outline_watched hparsed (env.watched.notify notice s.world).2
      have hnotify : (env.watched.notify notice s.world).2.deeds =
          s.world.deeds ++ [(s.world.world, .notify notice)] := rfl
      rcases houtline : (env.watched.outline written).hold (env.watched.notify notice s.world).2 with
        ⟨e | outline, z⟩ <;> rw [houtline, hnotify, List.append_assoc] at hdeeds <;>
        rw [houtline] at hanswer
      · rw [Query.ask_bind_of_error (ask_converse_of_error houtline)]
        refine ⟨_, ?_, .asked huri hheard hmiddle hback hanswer⟩
        simpa only [List.append_assoc] using hdeeds
      · rw [Query.ask_bind_of_ok (ask_converse_of_ok houtline)]
        obtain ⟨remarks, hremarks, hremarked⟩ := exists_quiet_remark env
          (.opened p outline.length ::
            (Document.misplaced text outline).map fun e => .dropped e.name p)
          ⟨s.root, s.documents, z⟩
        refine ⟨_, ?_, .asked huri hheard hmiddle
          (List.forall_mem_append.2 ⟨hback, hremarks⟩) hanswer⟩
        refine hremarked.trans ?_
        rw [hdeeds]
        simp only [List.append_assoc, notice]

/-- A file that can be read and is not known yet. -/
structure IsNew (env : Environment ω) (s : Session (Watched ω)) (p : Path) : Prop where
  new : ∀ q, s.Holds q → ¬ q.Same p
  read : ∃ q text, p = env.absolute s.root q s.world.world ∧
    (env.readText p s.world.world).1 = .ok text

/-- What a session under watch can write down in one step. -/
inductive Says (env : Environment ω) (s t : Session (Watched ω)) : List (ω × Deed) → Prop
  /-- Nothing that has to do with a document. -/
  | quiet {more : List (ω × Deed)} (hholds : t.Holds = s.Holds) (hmore : AreQuiet more) :
      Says env s t more
  /-- A question about a document that it holds. -/
  | asked {p : Path} {uri : String} {w : ω} {deed : Deed} (hholds : t.Holds = s.Holds)
      (hp : s.Holds p) (huri : Uri.IsOfFile uri p)
      (hasks : ∀ u, deed.asksAbout u = true → u = uri)
      (hother : ∀ u, deed.announces u = false ∧ deed.outlines u = false) :
      Says env s t [(w, deed)]
  /-- An attempt to announce a new document, which is held if it comes off. -/
  | opened {p : Path} {r : Except IndexError Document} {front more : List (ω × Deed)}
      (hholds : ∀ q, t.Holds q ↔ s.Holds q ∨ q = p ∧ r.isOk = true) (hnew : IsNew env s p)
      (hfront : AreQuiet front) (h : Announces env p r more) : Says env s t (front ++ more)

theorem holds_congr (h : t.documents = s.documents) : t.Holds = s.Holds := by
  funext p
  rw [Holds, Holds, h]

/-- Opening a file comes down to reading it and announcing it, or to nothing that has to do with
a document. -/
theorem announces_of_openFile {root p : Path} {result : Except IndexError (Option Document)}
    (hopen : (openFile env.watched root p).ask s = (result, t)) :
    (∃ more, t.world.deeds = s.world.deeds ++ more ∧ AreQuiet more ∧
      ∀ d, result ≠ .ok (some d)) ∨
    ∃ text r front more, t.world.deeds = s.world.deeds ++ (front ++ more) ∧ AreQuiet front ∧
      Announces env p r more ∧ (env.readText p s.world.world).1 = .ok text ∧
      result = r.map some := by
  by_cases hadmits : Admits root p
  · obtain ⟨language, -, heq⟩ := openFile_of_admits env.watched hadmits
    rw [heq] at hopen
    have hfront : AreQuiet [(s.world.world, Deed.read p)] :=
      areQuiet_singleton (Deed.isQuiet_read p)
    have hdeeds : ((readText env.watched p).ask s).2.world.deeds =
        s.world.deeds ++ [(s.world.world, .read p)] := rfl
    rcases hread : (readText env.watched p).ask s with ⟨e | found, u⟩ <;> rw [hread] at hdeeds
    · rw [Query.ask_bind_of_error hread] at hopen
      obtain ⟨rfl, rfl⟩ := Prod.mk.inj hopen
      exact .inl ⟨_, hdeeds, hfront, by rintro d ⟨⟩⟩
    rw [Query.ask_bind_of_ok hread] at hopen
    cases found with
    | none =>
      obtain ⟨rfl, rfl⟩ := Prod.mk.inj hopen
      exact .inl ⟨_, hdeeds, hfront, by rintro d ⟨⟩⟩
    | some text =>
      have htext : (env.readText p s.world.world).1 = .ok text :=
        read_of_readText (by rw [hread])
      obtain ⟨more, hmore, hannounces⟩ := announces_of_announce env p language text u
      rw [hdeeds, List.append_assoc] at hmore
      change (announce env.watched p language text >>= fun d => pure (some d)).ask u = _ at hopen
      rcases hask : (announce env.watched p language text).ask u with ⟨e | d, v⟩ <;>
        rw [hask] at hmore hannounces
      · rw [Query.ask_bind_of_error hask] at hopen
        obtain ⟨rfl, rfl⟩ := Prod.mk.inj hopen
        exact .inr ⟨text, _, _, more, hmore, hfront, hannounces, htext, rfl⟩
      · rw [Query.ask_bind_of_ok hask] at hopen
        obtain ⟨rfl, rfl⟩ := Prod.mk.inj hopen
        exact .inr ⟨text, _, _, more, hmore, hfront, hannounces, htext, rfl⟩
  · rw [openFile_of_not_admits hadmits] at hopen
    obtain ⟨more, hmore, hdeeds⟩ := exists_quiet_remark env [refusal p] s
    obtain ⟨rfl, rfl⟩ := Prod.mk.inj hopen
    exact .inl ⟨more, hdeeds, hmore, by rintro d ⟨⟩⟩

theorem Sourced.holds {env : Environment ω} {s : Session ω} {d : Document} (hs : Sourced env s)
    (hd : s.Knows d) : s.Holds d.path := by
  obtain ⟨p, hp⟩ := hd
  obtain ⟨text, outline, -, -, rfl⟩ := hs p d hp
  rw [Document.path_ofOutline]
  exact ⟨_, hp⟩

theorem new_of_lookup {p : Path} (h : lookup s.documents p = none) :
    ∀ q, s.Holds q → ¬ q.Same p := by
  rintro q ⟨d, hd⟩
  exact lookup_eq_none_iff.1 h (q, some d) hd

/-- A question about a document that is held is written down, if its URI can be read. -/
theorem says_converse {α : Type} {d : Document} {c : Conversation (Watched ω) α}
    (deed : String → Deed) (hs : Sourced env.watched s) (hd : s.Knows d)
    (herror : ∀ e, Uri.parse (uriOf d) = .error e → (c.hold s.world).2 = s.world)
    (hok : ∀ parsed, Uri.parse (uriOf d) = .ok parsed →
      (c.hold s.world).2.deeds = s.world.deeds ++ [(s.world.world, deed parsed.text)])
    (hasks : ∀ uri u, (deed uri).asksAbout u = true → u = uri)
    (hother : ∀ uri u, (deed uri).announces u = false ∧ (deed uri).outlines u = false) :
    ∃ more, ((converse c).ask s).2.world.deeds = s.world.deeds ++ more ∧
      Says env s ((converse c).ask s).2 more := by
  obtain ⟨text, -, hwritten⟩ := hs.exists_uri hd
  have hworld : ((converse c).ask s).2.world = (c.hold s.world).2 := rfl
  cases hparsed : Uri.parse (uriOf d) with
  | error e =>
    rw [hworld, herror e hparsed]
    exact ⟨[], by simp, .quiet (holds_congr rfl) areQuiet_nil⟩
  | ok parsed =>
    rw [hworld]
    exact ⟨_, hok parsed hparsed, .asked (holds_congr rfl) (hs.holds hd)
      ⟨_, _, hwritten, hparsed, rfl⟩ (hasks _) (hother _)⟩

/-- **What a session can write down in one step.** -/
theorem Step.says (hs : Sourced env.watched s) (h : Step env.watched s t) :
    ∃ more, t.world.deeds = s.world.deeds ++ more ∧ Says env s t more := by
  cases h with
  | remarked remarks =>
    obtain ⟨more, hmore, hdeeds⟩ := exists_quiet_remark env remarks s
    exact ⟨more, hdeeds, .quiet (holds_congr rfl) hmore⟩
  | @definition d hd position =>
    refine says_converse (fun uri => .request (.definition uri position)) hs hd
      (fun e he => ?_) (fun parsed hparsed => ?_) (fun uri u h => ?_) fun uri u => ⟨rfl, rfl⟩
    · rw [Environment.definition,
        Conversation.hold_bind_of_error (Environment.hold_normalUri_of_error he _)]
    · rw [Environment.hold_definition_snd hparsed]
      rfl
    · exact (beq_iff_eq.1 h).symm
  | @references d hd position =>
    refine says_converse (fun uri => .request (.references uri position false)) hs hd
      (fun e he => ?_) (fun parsed hparsed => ?_) (fun uri u h => ?_) fun uri u => ⟨rfl, rfl⟩
    · rw [Environment.references,
        Conversation.hold_bind_of_error (Environment.hold_normalUri_of_error he _)]
    · rw [Environment.hold_references_snd hparsed]
      rfl
    · exact (beq_iff_eq.1 h).symm
  | @sought p hp =>
    exact ⟨[(s.world.world, .seek p)], rfl,
      .quiet (holds_congr rfl) (areQuiet_singleton (Deed.isQuiet_seek p))⟩
  | @opened u q d hnew hopen =>
    obtain ⟨-, hdocuments⟩ := beside_of_openFile hopen
    rcases announces_of_openFile hopen with ⟨more, hdeeds, hmore, hnone⟩ |
      ⟨text, r, front, more, hdeeds, hfront, hannounces, htext, hresult⟩
    · refine ⟨more, hdeeds, .quiet ?_ hmore⟩
      have hd : d = none := by
        cases d with
        | none => rfl
        | some d => exact absurd rfl (hnone d)
      funext p
      simp [Holds, hdocuments, hd]
    · refine ⟨_, hdeeds, .opened (fun p => ?_) ⟨new_of_lookup hnew, q, text, rfl, htext⟩ hfront
        hannounces⟩
      cases r with
      | error e => cases hresult
      | ok d' =>
        obtain rfl := Except.ok.inj hresult
        simp [Holds, hdocuments, Except.isOk, Except.toBool, exists_or]
  | @refused t q e hnew hopen =>
    obtain ⟨-, hdocuments⟩ := beside_of_openFile hopen
    rcases announces_of_openFile hopen with ⟨more, hdeeds, hmore, -⟩ |
      ⟨text, r, front, more, hdeeds, hfront, hannounces, htext, hresult⟩
    · exact ⟨more, hdeeds, .quiet (holds_congr hdocuments) hmore⟩
    · refine ⟨_, hdeeds, .opened (fun p => ?_) ⟨new_of_lookup hnew, q, text, rfl, htext⟩ hfront
        hannounces⟩
      cases r with
      | error e => simp [holds_congr hdocuments, Except.isOk, Except.toBool]
      | ok d' => cases hresult

end Session

end CallerClosure
