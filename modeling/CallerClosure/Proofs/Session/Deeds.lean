import CallerClosure.Proofs.Outline.Spans
import CallerClosure.Proofs.Session.Steps

/-!
# What a session does to its surroundings

A session reaches the world through the operations of its environment only. A deed is one of
these operations as data, and what a session does comes down to a sequence of deeds.

* `Environment.perform` carries out a deed, and `Environment.Does` relates two worlds by a deed
  that is permitted;
* `Environment.Loads` says that a file may be loaded and what its text is, `Permits` lists the
  deeds that follow from it. Deeds at the start are permitted as well;
* `Session.does_of_steps` says that a session does what is permitted and nothing else, and
  `Session.Sourced` where the documents that it holds come from.
-/

namespace CallerClosure

open Relation (ReflTransGen)

variable {ω α β : Type}

/-! ### Deeds -/

/-- Something that a session can do to its surroundings. -/
inductive Deed
  /-- Read the text of a file. -/
  | read (p : Path)
  /-- Look for a file whose name is no text. -/
  | seek (p : Path)
  | launch (config : ServerConfig)
  | request (message : ServerRequest)
  | notify (message : ServerNotice)
  | remark (remark : Remark)

namespace Environment

variable (env : Environment ω)

/-- The world after a deed. -/
def perform : Deed → ω → ω
  | .read p, w => (env.readText p w).2
  | .seek p, w => (env.seek p w).2
  | .launch config, w => (env.launch config w).2
  | .request message, w => (env.request message w).2
  | .notify message, w => (env.notify message w).2
  | .remark r, w => env.remark r w

/-- The second world is the first one after a deed that is permitted in it. -/
def Does (permits : ω → Deed → Prop) (w v : ω) : Prop :=
  ∃ deed, permits w deed ∧ v = env.perform deed w

/-- The absolute form of a path in a world. -/
def absolute (root p : Path) (w : ω) : Path := Session.absolute env ⟨root, [], w⟩ p

/-- A session in a workspace may load a file under an absolute form of a path, and its text is
`text`. -/
def Loads (root p : Path) (text : Text) : Prop :=
  ∃ q w, p = env.absolute root q w ∧ Session.Admits root p ∧ (env.readText p w).1 = .ok text

/-- A session in a workspace may load a file under an absolute form of a path. -/
def Reaches (root p : Path) : Prop := ∃ text, env.Loads root p text

/-- The path of a file that can be read can be freed of links and dots. -/
def Readable : Prop :=
  ∀ p w text, (env.readText p w).1 = .ok text → ∃ c, env.canonicalize p w = .ok c

variable {env}

/-- An absolute form of a path is free of links and dots if it can be freed of them. -/
theorem canonical_of_absolute {root p q : Path} {w : ω} (hp : p = env.absolute root q w)
    (hcanonical : ∃ c, env.canonicalize p w = .ok c) : ∃ x, env.canonicalize x w = .ok p := by
  obtain ⟨c, hc⟩ := hcanonical
  rw [absolute, Session.absolute] at hp
  dsimp only at hp
  split at hp
  · rename_i canonical hcanonical
    exact ⟨_, hp ▸ hcanonical⟩
  · rename_i e he
    rw [← hp, hc] at he
    cases he

/-- Where files that can be read can be freed of links and dots, a file is loaded under the path
that is left. -/
theorem Loads.canonical (h : env.Readable) {root p : Path} {text : Text}
    (hloads : env.Loads root p text) :
    ∃ x w, env.canonicalize x w = .ok p ∧ (env.readText p w).1 = .ok text := by
  obtain ⟨q, w, hp, -, hread⟩ := hloads
  obtain ⟨x, hx⟩ := canonical_of_absolute hp (h p w text hread)
  exact ⟨x, w, hx, hread⟩

end Environment

/-- A URI as it is sent for a file. -/
def Uri.IsOfFile (uri : String) (p : Path) : Prop :=
  ∃ written parsed, Uri.ofFile? p = some written ∧ Uri.parse written = .ok parsed ∧
    uri = parsed.text

/-- What a session in a workspace may do in a world. Only files that it may load are read, and
only these are mentioned to the server. -/
inductive Permits (env : Environment ω) (root : Path) : ω → Deed → Prop
  | remark (w : ω) (r : Remark) : Permits env root w (.remark r)
  | read {p q : Path} {w : ω} (hp : p = env.absolute root q w) (hadmits : Session.Admits root p) :
      Permits env root w (.read p)
  | seek {p : Path} (w : ω) (hadmits : Session.Admits root p) : Permits env root w (.seek p)
  | opened {p : Path} {text : Text} {uri : String} {language : Language} (w : ω)
      (hloads : env.Loads root p text) (huri : Uri.IsOfFile uri p)
      (hlanguage : Language.ofPath? p = some language) :
      Permits env root w (.notify (.opened uri (language.idFor p) text))
  | outline {p : Path} {text : Text} {uri : String} (w : ω) (hloads : env.Loads root p text)
      (huri : Uri.IsOfFile uri p) : Permits env root w (.request (.outline uri))
  | definition {p : Path} {text : Text} {uri : String} (w : ω) (position : Position)
      (hloads : env.Loads root p text) (huri : Uri.IsOfFile uri p) :
      Permits env root w (.request (.definition uri position))
  | references {p : Path} {text : Text} {uri : String} (w : ω) (position : Position)
      (hloads : env.Loads root p text) (huri : Uri.IsOfFile uri p) :
      Permits env root w (.request (.references uri position false))
  /-- At the start the server is run and greeted, which names the root alone. -/
  | launch (w : ω) (config : ServerConfig) (hroot : config.root = root) :
      Permits env root w (.launch config)
  | start {uri written : String} {parsed : Uri} (w : ω) (options : Option Json)
      (hwritten : Uri.ofDirectory? root = some written) (hparsed : Uri.parse written = .ok parsed)
      (huri : uri = parsed.text) : Permits env root w (.request (.start uri options))
  | started (w : ω) : Permits env root w (.notify .started)

/-! ### Conversations -/

namespace Conversation

section Hold

variable {c : Conversation ω β} {k : β → Conversation ω α} {w v : ω}

theorem hold_bind_of_ok {b : β} (h : c.hold w = (.ok b, v)) : (c >>= k).hold w = (k b).hold v := by
  rw [hold_bind, h]

theorem hold_bind_of_error {e : ServerError} (h : c.hold w = (.error e, v)) :
    (c >>= k).hold w = (.error e, v) := by
  rw [hold_bind, h]

end Hold

variable {step : ω → ω → Prop} {post : α → ω → Prop} {w : ω}

theorem meets_pure {a : α} (h : post a w) :
    Meets step post (pure a : Conversation ω α).hold w :=
  .of_eq (hold_pure a w) .refl (by rintro _ ⟨⟩; exact h)

theorem meets_throw (e : ServerError) : Meets step post (throw e : Conversation ω α).hold w :=
  .of_eq (hold_throw e w) .refl (by rintro _ ⟨⟩)

theorem hold_bind_eq (c : Conversation ω β) (k : β → Conversation ω α) :
    (c >>= k).hold = andThen c.hold fun b => (k b).hold := by
  funext v
  rw [hold_bind, andThen]
  rcases c.hold v with ⟨_ | _, _⟩ <;> rfl

theorem meets_bind {m : β → ω → Prop} {c : Conversation ω β} {k : β → Conversation ω α}
    (hc : Meets step m c.hold w)
    (hk : ∀ b v, ReflTransGen step w v → m b v → Meets step post (k b).hold v) :
    Meets step post (c >>= k).hold w := by
  rw [hold_bind_eq]
  exact hc.andThen hk

end Conversation

namespace Environment

variable {env : Environment ω} {permits : ω → Deed → Prop}

theorem hold_normalUri {written : String} {parsed : Uri} (hparsed : Uri.parse written = .ok parsed)
    (w : ω) : (normalUri written : Conversation ω String).hold w = (.ok parsed.text, w) := by
  rw [normalUri, hparsed]
  rfl

theorem hold_normalUri_of_error {written : String} {e : UriError}
    (he : Uri.parse written = .error e) (w : ω) :
    (normalUri written : Conversation ω String).hold w = (.error (.malformedUri e), w) := by
  rw [normalUri, he]
  rfl

/-- A question is put to the server, whatever comes of it. -/
theorem hold_ask (env : Environment ω) (message : ServerRequest) (decode : Json.Decoder α)
    (w : ω) :
    (env.ask message decode).hold w =
      ((env.request message w).1.bind fun answer => (decode answer).mapError .undecodable,
        (env.request message w).2) := by
  rw [ask, Conversation.hold_bind, Conversation.hold_ofFunction]
  rcases env.request message w with ⟨e | answer, v⟩
  · rfl
  · dsimp only [Except.bind]
    rcases decode answer with e | a <;> rfl

theorem meets_normalUri (step : ω → ω → Prop) (uri : String) (w : ω) :
    Meets step (fun sent _ => ∃ parsed, Uri.parse uri = .ok parsed ∧ sent = parsed.text)
      (normalUri uri : Conversation ω String).hold w := by
  unfold normalUri
  cases hparse : Uri.parse uri with
  | error e => exact Conversation.meets_throw _
  | ok parsed => exact Conversation.meets_pure ⟨parsed, rfl, rfl⟩

theorem meets_ask {message : ServerRequest} {w : ω} (h : permits w (.request message))
    (decode : Json.Decoder α) :
    Meets (env.Does permits) anyway (env.ask message decode).hold w := by
  refine Conversation.meets_bind (m := anyway)
    ⟨.single ⟨.request message, h, rfl⟩, fun _ _ => trivial⟩ fun answer v _ _ => ?_
  cases decode answer with
  | ok a => exact Conversation.meets_pure trivial
  | error e => exact Conversation.meets_throw _

theorem meets_tell {notice : ServerNotice} {w : ω} (h : permits w (.notify notice)) :
    Meets (env.Does permits) anyway (env.tell notice).hold w :=
  ⟨.single ⟨.notify notice, h, rfl⟩, fun _ _ => trivial⟩

theorem meets_mention {r : Remark} {w : ω} (h : permits w (.remark r)) :
    Meets (env.Does permits) anyway (env.mention r).hold w :=
  ⟨.single ⟨.remark r, h, rfl⟩, fun _ _ => trivial⟩

section Messages

variable {root p : Path} {text : Text} {written : String}

theorem meets_openDocument {language : Language} (hloads : env.Loads root p text)
    (hwritten : Uri.ofFile? p = some written) (hlanguage : Language.ofPath? p = some language)
    (w : ω) :
    Meets (env.Does (Permits env root)) anyway
      (env.openDocument written (language.idFor p) text).hold w := by
  refine Conversation.meets_bind (meets_normalUri _ written w) fun uri v _ huri => ?_
  obtain ⟨parsed, hparsed, huri⟩ := huri
  exact meets_tell (.opened v hloads ⟨written, parsed, hwritten, hparsed, huri⟩ hlanguage)

theorem meets_outline (hloads : env.Loads root p text) (hwritten : Uri.ofFile? p = some written)
    (w : ω) : Meets (env.Does (Permits env root)) anyway (env.outline written).hold w := by
  refine Conversation.meets_bind (meets_normalUri _ written w) fun uri v _ huri => ?_
  obtain ⟨parsed, hparsed, huri⟩ := huri
  refine Conversation.meets_bind (meets_mention (.remark v _)) fun _ x _ _ => ?_
  refine Conversation.meets_bind
    (meets_ask (.outline x hloads ⟨written, parsed, hwritten, hparsed, huri⟩) _)
    fun answer y _ _ => ?_
  exact Conversation.meets_bind (meets_mention (.remark y _)) fun _ z _ _ =>
    Conversation.meets_pure trivial

theorem meets_definition (hloads : env.Loads root p text)
    (hwritten : Uri.ofFile? p = some written) (position : Position) (w : ω) :
    Meets (env.Does (Permits env root)) anyway (env.definition written position).hold w := by
  refine Conversation.meets_bind (meets_normalUri _ written w) fun uri v _ huri => ?_
  obtain ⟨parsed, hparsed, huri⟩ := huri
  refine Conversation.meets_bind
    (meets_ask (.definition v position hloads ⟨written, parsed, hwritten, hparsed, huri⟩) _)
    fun answer y _ _ => ?_
  exact Conversation.meets_pure trivial

theorem meets_references (hloads : env.Loads root p text)
    (hwritten : Uri.ofFile? p = some written) (position : Position) (w : ω) :
    Meets (env.Does (Permits env root)) anyway (env.references written position false).hold w := by
  refine Conversation.meets_bind (meets_normalUri _ written w) fun uri v _ huri => ?_
  obtain ⟨parsed, hparsed, huri⟩ := huri
  exact meets_ask (.references v position hloads ⟨written, parsed, hwritten, hparsed, huri⟩) _

theorem meets_greet (hwritten : Uri.ofDirectory? root = some written) (options : Option Json)
    (w : ω) : Meets (env.Does (Permits env root)) anyway (env.greet written options).hold w := by
  refine Conversation.meets_bind (meets_normalUri _ written w) fun uri v _ huri => ?_
  obtain ⟨parsed, hparsed, huri⟩ := huri
  refine Conversation.meets_bind (meets_ask (.start v options hwritten hparsed huri) _)
    fun _ x _ _ => ?_
  exact meets_tell (.started x)

end Messages

end Environment

/-! ### Sessions -/

namespace Session

variable {env : Environment ω} {s t : Session ω}

theorem absolute_eq (env : Environment ω) (s : Session ω) (p : Path) :
    s.absolute env p = env.absolute s.root p s.world := rfl

/-- The second session came from the first one by deeds that are permitted. -/
def Acts (env : Environment ω) (root : Path) (s t : Session ω) : Prop :=
  ReflTransGen (env.Does (Permits env root)) s.world t.world

theorem Acts.of_reflTransGen {root : Path} (h : ReflTransGen (Acts env root) s t) :
    Acts env root s t := by
  induction h with
  | refl => exact .refl
  | tail _ hstep ih => exact ReflTransGen.trans ih hstep

theorem acts_converse {root : Path} {c : Conversation ω α}
    (h : Meets (env.Does (Permits env root)) anyway c.hold s.world) :
    Acts env root s ((converse c).ask s).2 :=
  h.1

theorem acts_remark (env : Environment ω) (root : Path) (remarks : List Remark)
    (s : Session ω) : Acts env root s ((remark env remarks).ask s).2 := by
  have hfold : ∀ (remarks : List Remark) (w : ω), ReflTransGen (env.Does (Permits env root)) w
      (remarks.foldl (fun w r => env.remark r w) w) := by
    intro remarks
    induction remarks with
    | nil => exact fun w => .refl
    | cons r rest ih => exact fun w => .head ⟨.remark r, .remark w r, rfl⟩ (ih _)
  exact hfold remarks s.world

theorem meets_acts {root : Path} {q : Query (Session ω) α}
    (h : Acts env root s (q.ask s).2) : Meets (Acts env root) anyway q.ask s :=
  ⟨.single h, fun _ _ => trivial⟩

theorem acts_announce {root p : Path} {text : Text} {language : Language}
    (hloads : env.Loads root p text) (hlanguage : Language.ofPath? p = some language)
    (s : Session ω) :
    Meets (Acts env root) anyway (announce env p language text).ask s := by
  unfold announce
  cases hwritten : Uri.ofFile? p with
  | none => exact Query.meets_throw _
  | some written =>
    refine Query.meets_bind (meets_acts (acts_converse
      (Environment.meets_openDocument hloads hwritten hlanguage _))) fun _ t _ _ => ?_
    refine Query.meets_bind (meets_acts (acts_converse
      (Environment.meets_outline hloads hwritten _))) fun outline u _ _ => ?_
    refine Query.meets_bind (meets_acts (acts_remark env root _ u)) fun _ v _ _ => ?_
    exact Query.meets_pure trivial

/-- Opening a file that may not be loaded comes down to a remark, opening any other one to
reading it and telling the server. -/
theorem acts_openFile (env : Environment ω) (q : Path) (s : Session ω) :
    Acts env s.root s ((openFile env s.root (s.absolute env q)).ask s).2 := by
  suffices h : Meets (Acts env s.root) anyway (openFile env s.root (s.absolute env q)).ask s from
    .of_reflTransGen h.1
  by_cases hadmits : Admits s.root (s.absolute env q)
  · obtain ⟨language, hlanguage, hopen⟩ := openFile_of_admits env hadmits
    rw [hopen]
    refine Query.meets_bind
      (m := fun found _ =>
        (env.readText (s.absolute env q) s.world).1 = found.elim (.error .notFound) .ok)
      ⟨.single (.single ⟨.read _, .read (absolute_eq env s q) hadmits, rfl⟩),
        fun found hfound => read_of_readText hfound⟩ fun found t _ hfound => ?_
    cases found with
    | none => exact Query.meets_pure trivial
    | some text =>
      have hloads : env.Loads s.root (s.absolute env q) text :=
        ⟨q, s.world, absolute_eq env s q, hadmits, hfound⟩
      exact Query.meets_bind (acts_announce hloads hlanguage t) fun _ u _ _ =>
        Query.meets_pure trivial
  · rw [openFile_of_not_admits hadmits]
    exact Query.meets_bind (meets_acts (acts_remark env _ _ s)) fun _ t _ _ =>
      Query.meets_pure trivial

/-- The documents of a session are files that it may load, with the texts that these had. -/
def Sourced (env : Environment ω) (s : Session ω) : Prop :=
  ∀ p d, (p, some d) ∈ s.documents → ∃ text outline, env.Loads s.root p text ∧
    (Uri.ofFile? p).isSome = true ∧ d = .ofOutline p text outline

theorem Step.sourced (hs : Sourced env s) (h : Step env s t) : Sourced env t := by
  obtain ⟨hroot, hsame | ⟨q, found, -, hopen, hmore⟩⟩ := h.grows
  · rw [Sourced, hroot, hsame]
    exact hs
  rw [Sourced, hroot, hmore]
  intro p d hp
  rcases List.mem_append.1 hp with hp | hp
  · exact hs p d hp
  · obtain ⟨rfl, rfl⟩ := Prod.mk.inj (List.mem_singleton.1 hp)
    obtain ⟨hadmits, text, outline, hread, huri, rfl⟩ := opening_of_openFile hopen
    exact ⟨text, outline, ⟨q, s.world, absolute_eq env s q, hadmits, hread⟩, huri, rfl⟩

/-- A document that a session holds is mentioned to the server under the URI of a file that the
session may load. -/
theorem Sourced.exists_uri {d : Document} (hs : Sourced env s) (hd : s.Knows d) :
    ∃ text, env.Loads s.root d.path text ∧ Uri.ofFile? d.path = some (uriOf d) := by
  obtain ⟨p, hp⟩ := hd
  obtain ⟨text, outline, hloads, huri, rfl⟩ := hs p d hp
  obtain ⟨written, hwritten⟩ := Option.isSome_iff_exists.1 huri
  rw [uriOf, Document.path_ofOutline, hwritten]
  exact ⟨text, hloads, rfl⟩

/-- What a session does at one go is permitted. -/
theorem Step.acts (hs : Sourced env s) (h : Step env s t) : Acts env s.root s t := by
  cases h with
  | remarked remarks => exact acts_remark env s.root remarks s
  | @definition d hd position =>
    obtain ⟨text, hloads, huri⟩ := hs.exists_uri hd
    exact acts_converse (Environment.meets_definition hloads huri position _)
  | @references d hd position =>
    obtain ⟨text, hloads, huri⟩ := hs.exists_uri hd
    exact acts_converse (Environment.meets_references hloads huri position _)
  | @sought p hp => exact .single ⟨.seek p, .seek _ hp, rfl⟩
  | opened q _ hopen =>
    have hacts := acts_openFile env q s
    rw [hopen] at hacts
    exact hacts
  | refused q _ hopen =>
    have hacts := acts_openFile env q s
    rw [hopen] at hacts
    exact hacts

theorem sourced_of_steps (hs : Sourced env s) (h : ReflTransGen (Step env) s t) :
    Sourced env t := by
  induction h with
  | refl => exact hs
  | tail _ hstep ih => exact hstep.sourced ih

/-- What a session does is permitted. -/
theorem does_of_steps (hs : Sourced env s) (h : ReflTransGen (Step env) s t) :
    ReflTransGen (env.Does (Permits env s.root)) s.world t.world := by
  induction h with
  | refl => exact .refl
  | tail hsteps hstep ih =>
    have hacts := hstep.acts (sourced_of_steps hs hsteps)
    rw [root_of_steps hsteps] at hacts
    exact ih.trans hacts

/-- A session starts where the root exists and has a URI, and the server runs and can be
greeted. -/
theorem start_eq_ok_iff {config : ServerConfig} {w v : ω} :
    start env config w = (.ok s, v) ↔ ∃ root written x,
      env.canonicalize config.root w = .ok root ∧ Uri.ofDirectory? root = some written ∧
      env.launch { config with root } w = (.ok (), x) ∧
      (env.greet written config.options).hold x = (.ok (), v) ∧ s = ⟨root, [], v⟩ := by
  unfold start
  constructor
  · intro h
    cases hroot : env.canonicalize config.root w with
    | error e =>
      rw [hroot] at h
      cases h
    | ok root =>
      rw [hroot] at h
      dsimp only at h
      cases hwritten : Uri.ofDirectory? root with
      | none =>
        rw [hwritten] at h
        cases h
      | some written =>
        rw [hwritten] at h
        dsimp only at h
        rcases hlaunch : env.launch { config with root } w with ⟨e | _, x⟩ <;> rw [hlaunch] at h
        · cases h
        dsimp only at h
        rcases hgreet : (env.greet written config.options).hold x with ⟨e | _, y⟩ <;>
          rw [hgreet] at h
        · cases h
        cases h
        exact ⟨root, written, x, rfl, hwritten, hlaunch, hgreet, rfl⟩
  · rintro ⟨root, written, x, hroot, hwritten, hlaunch, hgreet, rfl⟩
    rw [hroot]
    dsimp only
    rw [hwritten]
    dsimp only
    rw [hlaunch]
    dsimp only
    rw [hgreet]

/-- A session starts at the root that the configuration names and holds no document. What was
done on the way is permitted. -/
theorem of_start {config : ServerConfig} {w v : ω} (h : start env config w = (.ok s, v)) :
    env.canonicalize config.root w = .ok s.root ∧ s.documents = [] ∧ s.world = v ∧
      ReflTransGen (env.Does (Permits env s.root)) w v := by
  obtain ⟨root, written, x, hroot, hwritten, hlaunch, hgreet, rfl⟩ := start_eq_ok_iff.1 h
  have hgreeted : ReflTransGen (env.Does (Permits env root)) x
      ((env.greet written config.options).hold x).2 :=
    (Environment.meets_greet hwritten config.options x).1
  rw [hgreet] at hgreeted
  refine ⟨hroot, rfl, rfl, .head ⟨.launch { config with root }, .launch w _ rfl, ?_⟩ hgreeted⟩
  rw [Environment.perform, hlaunch]

theorem sourced_of_start {config : ServerConfig} {w v : ω}
    (h : start env config w = (.ok s, v)) : Sourced env s := by
  rw [Sourced, (of_start h).2.1]
  rintro p d ⟨⟩

end Session

end CallerClosure
