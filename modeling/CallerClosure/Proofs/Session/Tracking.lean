import CallerClosure.Proofs.Session.Deeds

/-!
# Two sessions side by side

Two sessions that are asked the same may be in different surroundings and may remember different
files. They give the same answers as long as what they load and what they hear from the server
are the same.

* `Tracks` compares two runs: they have the same result and end in related states, unless the
  second one fails for a reason that is excused. `Tracks.andThen` is the rule for one after the
  other;
* `Environment.Alike` says that two environments do the same in related worlds. Conversations and
  `Session.tracks_openFile` follow;
* `Session.Concerns` lists the paths that a question leads to: the document that it is about, and
  what the server answers with;
* `Session.Follows` says that two sessions load files and hear answers alike. The lemmas after it
  go through all questions. What is excused then is a failure at one of these paths.
-/

namespace CallerClosure

open Relation (ReflTransGen)

variable {σ τ ω υ α β ε : Type}

/-! ### Runs side by side -/

/-- Two runs have the same result and end in related states, unless the second one fails for a
reason that is excused. -/
def Tracks (excuse : ε → Prop) (R : σ → τ → Prop) (f : σ → Except ε α × σ)
    (g : τ → Except ε α × τ) (s : σ) (t : τ) : Prop :=
  (f s).1 = (g t).1 ∧ R (f s).2 (g t).2 ∨ ∃ e, excuse e ∧ (g t).1 = .error e

/-- No reason is excused. -/
def inexcusable : ε → Prop := fun _ => False

section Tracks

variable {excuse : ε → Prop} {R R' : σ → τ → Prop} {s : σ} {t : τ}

theorem Tracks.of_eq {f : σ → Except ε α × σ} {g : τ → Except ε α × τ} {r : Except ε α}
    {s' : σ} {t' : τ} (hf : f s = (r, s')) (hg : g t = (r, t')) (hR : R s' t') :
    Tracks excuse R f g s t :=
  .inl (by rw [hf, hg]; exact ⟨rfl, hR⟩)

theorem Tracks.congr {f f' : σ → Except ε α × σ} {g g' : τ → Except ε α × τ}
    (hf : f s = f' s) (hg : g t = g' t) (h : Tracks excuse R f' g' s t) :
    Tracks excuse R f g s t := by
  rwa [Tracks, hf, hg]

theorem Tracks.agree {f : σ → Except ε α × σ} {g : τ → Except ε α × τ}
    (h : Tracks excuse R f g s t) (hnone : ∀ e, ¬ excuse e) :
    (f s).1 = (g t).1 ∧ R (f s).2 (g t).2 := by
  rcases h with h | ⟨e, he, -⟩
  · exact h
  · exact absurd he (hnone e)

theorem Tracks.mono {excuse' : ε → Prop} {f : σ → Except ε α × σ} {g : τ → Except ε α × τ}
    (h : Tracks excuse R f g s t) (hexcuse : ∀ e, excuse e → excuse' e) :
    Tracks excuse' R f g s t :=
  h.imp_right fun ⟨e, he, hg⟩ => ⟨e, hexcuse e he, hg⟩

/-- One after the other: what comes second may count on what the second run came to. -/
theorem Tracks.andThen {f : σ → Except ε β × σ} {g : τ → Except ε β × τ}
    {k : β → σ → Except ε α × σ} {l : β → τ → Except ε α × τ} (h : Tracks excuse R f g s t)
    (hk : ∀ b s' t', g t = (.ok b, t') → R s' t' → Tracks excuse R' (k b) (l b) s' t')
    (herror : ∀ s' t', R s' t' → R' s' t') :
    Tracks excuse R' (andThen f k) (andThen g l) s t := by
  rcases h with ⟨hresult, hR⟩ | ⟨e, he, hg⟩
  · rcases hf : f s with ⟨r, s'⟩
    rcases hg : g t with ⟨r', t'⟩
    rw [hf, hg] at hresult hR
    obtain rfl : r = r' := hresult
    cases r with
    | error e => exact .of_eq (andThen_of_error hf k) (andThen_of_error hg l) (herror _ _ hR)
    | ok b =>
      rw [Tracks, andThen_of_ok hf, andThen_of_ok hg]
      exact hk b s' t' hg hR
  · rcases hgt : g t with ⟨r, t'⟩
    rw [hgt] at hg
    obtain rfl : r = .error e := hg
    exact .inr ⟨e, he, by rw [andThen_of_error hgt]⟩

end Tracks

namespace Query

variable {excuse : IndexError → Prop} {R R' : σ → τ → Prop} {s : σ} {t : τ}

theorem tracks_pure (a : α) (h : R s t) :
    Tracks excuse R (pure a : Query σ α).ask (pure a : Query τ α).ask s t :=
  .of_eq (ask_pure a s) (ask_pure a t) h

theorem tracks_throw (e : IndexError) (h : R s t) :
    Tracks excuse R (throw e : Query σ α).ask (throw e : Query τ α).ask s t :=
  .of_eq (ask_throw e s) (ask_throw e t) h

theorem tracks_bind_of_ok {q : Query σ β} {r : Query τ β} {k : β → Query σ α}
    {l : β → Query τ α} (h : Tracks excuse R q.ask r.ask s t)
    (hk : ∀ b s' t', r.ask t = (.ok b, t') → R s' t' →
      Tracks excuse R' (k b).ask (l b).ask s' t')
    (herror : ∀ s' t', R s' t' → R' s' t') :
    Tracks excuse R' (q >>= k).ask (r >>= l).ask s t := by
  rw [ask_bind_eq, ask_bind_eq]
  exact h.andThen hk herror

theorem tracks_bind {q : Query σ β} {r : Query τ β} {k : β → Query σ α} {l : β → Query τ α}
    (h : Tracks excuse R q.ask r.ask s t)
    (hk : ∀ b s' t', R s' t' → Tracks excuse R (k b).ask (l b).ask s' t') :
    Tracks excuse R (q >>= k).ask (r >>= l).ask s t :=
  tracks_bind_of_ok h (fun b s' t' _ => hk b s' t') fun _ _ => id

end Query

namespace Conversation

variable {excuse : ServerError → Prop} {R : ω → υ → Prop} {w : ω} {v : υ}

theorem tracks_bind {c : Conversation ω β} {d : Conversation υ β} {k : β → Conversation ω α}
    {l : β → Conversation υ α} (h : Tracks excuse R c.hold d.hold w v)
    (hk : ∀ b w' v', R w' v' → Tracks excuse R (k b).hold (l b).hold w' v') :
    Tracks excuse R (c >>= k).hold (d >>= l).hold w v := by
  rw [hold_bind_eq, hold_bind_eq]
  exact h.andThen (fun b w' v' _ => hk b w' v') fun _ _ => id

/-- What needs no world is the same in all of them. -/
theorem tracks_pure (a : α) (h : R w v) :
    Tracks excuse R (pure a : Conversation ω α).hold (pure a : Conversation υ α).hold w v :=
  .of_eq (hold_pure a w) (hold_pure a v) h

theorem tracks_throw (e : ServerError) (h : R w v) :
    Tracks excuse R (throw e : Conversation ω α).hold (throw e : Conversation υ α).hold w v :=
  .of_eq (hold_throw e w) (hold_throw e v) h

end Conversation

/-! ### Environments alike -/

namespace Environment

/-- Two environments do the same in related worlds, which stay related. What they take for the
path of a file without links and dots may differ. -/
structure Alike (env : Environment ω) (env' : Environment υ) (R : ω → υ → Prop) : Prop where
  readText : ∀ {w v}, R w v → ∀ p, (env.readText p w).1 = (env'.readText p v).1
  seek : ∀ {w v}, R w v → ∀ p, (env.seek p w).1 = (env'.seek p v).1
  request : ∀ {w v}, R w v → ∀ message, (env.request message w).1 = (env'.request message v).1
  notify : ∀ {w v}, R w v → ∀ message, (env.notify message w).1 = (env'.notify message v).1
  perform : ∀ {w v}, R w v → ∀ deed, R (env.perform deed w) (env'.perform deed v)

namespace Alike

variable {env : Environment ω} {env' : Environment υ} {R : ω → υ → Prop}
  (h : env.Alike env' R) {w : ω} {v : υ} (hR : R w v)

include h hR

theorem tracks_ask (message : ServerRequest) (decode : Json.Decoder α) :
    Tracks inexcusable R (env.ask message decode).hold (env'.ask message decode).hold w v := by
  refine Conversation.tracks_bind
    (.inl ⟨h.request hR message, h.perform hR (.request message)⟩) fun answer w' v' hR' => ?_
  cases decode answer with
  | ok a => exact Conversation.tracks_pure a hR'
  | error e => exact Conversation.tracks_throw _ hR'

theorem tracks_tell (notice : ServerNotice) :
    Tracks inexcusable R (env.tell notice).hold (env'.tell notice).hold w v :=
  .inl ⟨h.notify hR notice, h.perform hR (.notify notice)⟩

theorem tracks_mention (r : Remark) :
    Tracks inexcusable R (env.mention r).hold (env'.mention r).hold w v :=
  .inl ⟨rfl, h.perform hR (.remark r)⟩

omit h in
theorem tracks_normalUri (uri : String) :
    Tracks inexcusable R (normalUri uri : Conversation ω String).hold
      (normalUri uri : Conversation υ String).hold w v := by
  unfold normalUri
  cases Uri.parse uri with
  | error e => exact Conversation.tracks_throw _ hR
  | ok u => exact Conversation.tracks_pure _ hR

theorem tracks_openDocument (uri languageId : String) (text : Text) :
    Tracks inexcusable R (env.openDocument uri languageId text).hold
      (env'.openDocument uri languageId text).hold w v :=
  Conversation.tracks_bind (tracks_normalUri hR uri) fun _ _ _ hR' => h.tracks_tell hR' _

theorem tracks_outline (uri : String) :
    Tracks inexcusable R (env.outline uri).hold (env'.outline uri).hold w v := by
  refine Conversation.tracks_bind (tracks_normalUri hR uri) fun uri _ _ hR => ?_
  refine Conversation.tracks_bind (h.tracks_mention hR _) fun _ _ _ hR => ?_
  refine Conversation.tracks_bind (h.tracks_ask hR _ _) fun answer _ _ hR => ?_
  refine Conversation.tracks_bind (h.tracks_mention hR _) fun _ _ _ hR => ?_
  exact Conversation.tracks_pure _ hR

theorem tracks_definition (uri : String) (position : Position) :
    Tracks inexcusable R (env.definition uri position).hold (env'.definition uri position).hold
      w v := by
  refine Conversation.tracks_bind (tracks_normalUri hR uri) fun uri _ _ hR => ?_
  refine Conversation.tracks_bind (h.tracks_ask hR _ _) fun answer _ _ hR => ?_
  exact Conversation.tracks_pure _ hR

theorem tracks_references (uri : String) (position : Position) (withDeclaration : Bool) :
    Tracks inexcusable R (env.references uri position withDeclaration).hold
      (env'.references uri position withDeclaration).hold w v :=
  Conversation.tracks_bind (tracks_normalUri hR uri) fun _ _ _ hR => h.tracks_ask hR _ _

theorem tracks_greet (root : String) (options : Option Json) :
    Tracks inexcusable R (env.greet root options).hold (env'.greet root options).hold w v := by
  refine Conversation.tracks_bind (tracks_normalUri hR root) fun uri _ _ hR => ?_
  refine Conversation.tracks_bind (h.tracks_ask hR _ _) fun _ _ _ hR => ?_
  exact h.tracks_tell hR _

end Alike

end Environment

theorem Environment.Alike.remarks {env : Environment ω} {env' : Environment υ}
    {R : ω → υ → Prop} (h : env.Alike env' R) {w : ω} {v : υ} (hR : R w v)
    (remarks : List Remark) :
    R (remarks.foldl (fun w r => env.remark r w) w)
      (remarks.foldl (fun v r => env'.remark r v) v) := by
  induction remarks generalizing w v with
  | nil => exact hR
  | cons r rest ih => exact ih (h.perform hR (.remark r))

/-! ### Sessions -/

namespace Session

variable {env : Environment ω} {env' : Environment υ} {R : ω → υ → Prop}
  {Q : Session ω → Session υ → Prop} {excuse : IndexError → Prop} {s : Session ω}
  {t : Session υ}

/-- A relation between sessions that is about their worlds as far as another relation goes, and
about what they remember. -/
structure Extends (R : ω → υ → Prop) (Q : Session ω → Session υ → Prop) : Prop where
  world : ∀ {s t}, Q s t → R s.world t.world
  change : ∀ {s t w v}, Q s t → R w v → Q { s with world := w } { t with world := v }

theorem extends_world (R : ω → υ → Prop) :
    Extends R fun (s : Session ω) (t : Session υ) => R s.world t.world where
  world := id
  change _ hR := hR

theorem tracks_converse {c : Conversation ω α} {d : Conversation υ α} (hextends : Extends R Q)
    (hQ : Q s t) (h : Tracks inexcusable R c.hold d.hold s.world t.world) :
    Tracks excuse Q (converse c).ask (converse d).ask s t := by
  obtain ⟨hresult, hR⟩ := h.agree fun _ => id
  exact .inl ⟨congrArg (Except.mapError fun e : ServerError => IndexError.server e.message)
    hresult, hextends.change hQ hR⟩

section Alike

variable (h : env.Alike env' R) (hextends : Extends R Q) (hQ : Q s t)

include h hextends hQ

theorem tracks_remark (remarks : List Remark) :
    Tracks excuse Q (remark env remarks).ask (remark env' remarks).ask s t :=
  .inl ⟨rfl, hextends.change hQ (h.remarks (hextends.world hQ) remarks)⟩

theorem tracks_readText (p : Path) :
    Tracks excuse Q (readText env p).ask (readText env' p).ask s t := by
  refine .inl ⟨?_, hextends.change hQ (h.perform (hextends.world hQ) (.read p))⟩
  rw [readText, readText, Query.ask_ofFunction, Query.ask_ofFunction]
  dsimp only
  rw [h.readText (hextends.world hQ)]

theorem tracks_seekNameless (p : Path) :
    Tracks excuse Q (seekNameless env p).ask (seekNameless env' p).ask s t := by
  refine .inl ⟨?_, hextends.change hQ (h.perform (hextends.world hQ) (.seek p))⟩
  rw [seekNameless, seekNameless, Query.ask_ofFunction, Query.ask_ofFunction]
  dsimp only
  rw [h.seek (hextends.world hQ)]

theorem tracks_announce (p : Path) (language : Language) (text : Text) :
    Tracks excuse Q (announce env p language text).ask (announce env' p language text).ask
      s t := by
  unfold announce
  cases Uri.ofFile? p with
  | none => exact Query.tracks_throw _ hQ
  | some uri =>
    refine Query.tracks_bind (tracks_converse hextends hQ
      (h.tracks_openDocument (hextends.world hQ) _ _ _)) fun _ _ _ hQ => ?_
    refine Query.tracks_bind (tracks_converse hextends hQ
      (h.tracks_outline (hextends.world hQ) _)) fun outline _ _ hQ => ?_
    refine Query.tracks_bind (tracks_remark h hextends hQ _) fun _ _ _ hQ => ?_
    exact Query.tracks_pure _ hQ

/-- Opening a file gives the same document in environments that do the same. -/
theorem tracks_openFile (root p : Path) :
    Tracks excuse Q (openFile env root p).ask (openFile env' root p).ask s t := by
  unfold openFile
  cases Language.ofPath? p with
  | none =>
    exact Query.tracks_bind (tracks_remark h hextends hQ _) fun _ _ _ hQ =>
      Query.tracks_pure _ hQ
  | some language =>
    dsimp only
    split
    · refine Query.tracks_bind (tracks_readText h hextends hQ p) fun found _ _ hQ => ?_
      cases found with
      | none => exact Query.tracks_pure _ hQ
      | some text =>
        exact Query.tracks_bind (tracks_announce h hextends hQ p language text)
          fun _ _ _ hQ => Query.tracks_pure _ hQ
    · exact Query.tracks_bind (tracks_remark h hextends hQ _) fun _ _ _ hQ =>
        Query.tracks_pure _ hQ

theorem tracks_lookForNameless (hroot : s.root = t.root) (p : Path) :
    Tracks excuse Q (lookForNameless env p).ask (lookForNameless env' p).ask s t := by
  by_cases hadmits : Admits s.root p
  · refine .congr (ask_lookForNameless_of_admits hadmits)
      (ask_lookForNameless_of_admits (by rwa [← hroot])) ?_
    exact Query.tracks_bind (tracks_seekNameless h hextends hQ p) fun _ _ _ hQ =>
      Query.tracks_pure _ hQ
  · refine .congr (ask_lookForNameless_of_not_admits hadmits)
      (ask_lookForNameless_of_not_admits (by rwa [← hroot])) ?_
    exact Query.tracks_bind (tracks_remark h hextends hQ _) fun _ _ _ hQ =>
      Query.tracks_pure _ hQ

end Alike

/-! ### The paths that a question leads to -/

/-- One of the places lies in the file of a path. -/
def Mentions (places : List Place) (p : Path) : Prop :=
  ∃ place ∈ places, place.uri.filePath? = some p

/-- The paths that a question to a session leads to: that of the document which it is about, and
those of the places that the server answers with. -/
inductive Concerns (env : Environment ω) (s : Session ω) : Question SessionNode → Path → Prop
  | selection (document : Path) (span : Span) :
      Concerns env s (.coveringNode document span) document
  | token (document : Path) (offset : Nat) (parent : Option Nat) :
      Concerns env s (.referencedSymbol (.token document offset parent)) document
  | target {document : Path} {offset : Nat} {d : Document} {targets : List Place} {p : Path}
      {t u : Session ω} (parent : Option Nat)
      (hload : (load env document).ask s = (.ok (some d), t))
      (hanswer : (converse (env.definition (uriOf d) (d.text.position offset))).ask t =
        (.ok targets, u)) (hp : Mentions targets p) :
      Concerns env s (.referencedSymbol (.token document offset parent)) p
  | used {symbol : Symbol} {source : SourceLocation} (hsource : symbol.source? = some source) :
      Concerns env s (.findReferences symbol) source.document
  | reference {symbol : Symbol} {source : SourceLocation} {d : Document} {places : List Place}
      {p : Path} {t u : Session ω} (hsource : symbol.source? = some source)
      (hload : (load env source.document).ask s = (.ok (some d), t))
      (hanswer : (converse (env.references (uriOf d) (d.text.position source.nameOffset)
        false)).ask t = (.ok places, u)) (hp : Mentions places p) :
      Concerns env s (.findReferences symbol) p
  | contained (location : ReferenceLocation) :
      Concerns env s (.containingDeclaration location) location.document
  | declaration {symbol : Symbol} {source : SourceLocation}
      (hsource : symbol.source? = some source) :
      Concerns env s (.declarationText symbol) source.document

/-- A reason that is excused for one of the paths which a question leads to. -/
def Excused (excuse : Path → IndexError → Prop) (env : Environment ω) (s : Session ω)
    (question : Question SessionNode) (e : IndexError) : Prop :=
  ∃ p, Concerns env s question p ∧ excuse p e

/-! ### Questions to two sessions -/

/-- Two sessions load files and hear answers alike. Which reasons are excused depends on the path
of the file. -/
structure Follows (excuse : Path → IndexError → Prop) (env : Environment ω)
    (env' : Environment υ) (R : ω → υ → Prop) (Q : Session ω → Session υ → Prop) : Prop
    extends Extends R Q where
  root : ∀ {s t}, Q s t → s.root = t.root
  alike : env.Alike env' R
  load : ∀ {s t}, Q s t → ∀ p,
    Tracks (excuse p) Q (load env p).ask (load env' p).ask s t

namespace Follows

variable {excuse : Path → IndexError → Prop}

section Questions

variable (h : Follows excuse env env' R Q) (hQ : Q s t)

include h hQ

theorem loadPlace {places : List Place} {place : Place} (hplace : place ∈ places) :
    Tracks (fun e => ∃ p, Mentions places p ∧ excuse p e) Q (loadPlace env place).ask
      (loadPlace env' place).ask s t := by
  unfold Session.loadPlace
  cases hpath : place.uri.filePath? with
  | some p => exact (h.load hQ p).mono fun e he => ⟨p, ⟨place, hplace, hpath⟩, he⟩
  | none => exact tracks_lookForNameless h.alike h.toExtends hQ (h.root hQ) _

/-- A question begins with loading the document that it is about. -/
theorem tracks_load_bind {α : Type} {question : Question SessionNode} {p : Path}
    {k : Option Document → Query (Session ω) α} {l : Option Document → Query (Session υ) α}
    (hp : Concerns env' t question p)
    (hk : ∀ found s' t', (Session.load env' p).ask t = (.ok found, t') → Q s' t' →
      Tracks (Excused excuse env' t question) Q (k found).ask (l found).ask s' t') :
    Tracks (Excused excuse env' t question) Q (Session.load env p >>= k).ask
      (Session.load env' p >>= l).ask s t :=
  Query.tracks_bind_of_ok ((h.load hQ p).mono fun _ he => ⟨p, hp, he⟩) hk fun _ _ => id

omit h in
theorem checkSpan {excuse : IndexError → Prop} (d : Document) (span : Span) :
    Tracks excuse Q (checkSpan d span).ask (checkSpan d span).ask s t := by
  unfold Session.checkSpan
  split
  · exact Query.tracks_pure _ hQ
  · exact Query.tracks_throw _ hQ

theorem coveringNode (p : Path) (span : Span) :
    Tracks (Excused excuse env' t (.coveringNode p span)) Q (coveringNode env p span).ask
      (coveringNode env' p span).ask s t := by
  refine h.tracks_load_bind hQ (.selection p span) fun found _ _ _ hQ => ?_
  cases found with
  | none => exact Query.tracks_pure _ hQ
  | some d =>
    exact Query.tracks_bind (checkSpan hQ d span) fun _ _ _ hQ => Query.tracks_pure _ hQ

theorem firstNamed {places : List Place} (targets : List Place)
    (htargets : targets ⊆ places) :
    Tracks (fun e => ∃ p, Mentions places p ∧ excuse p e) Q (firstNamed env targets).ask
      (firstNamed env' targets).ask s t := by
  induction targets generalizing s t with
  | nil => exact Query.tracks_pure _ hQ
  | cons target rest ih =>
    have hrest := List.Subset.trans (List.subset_cons_self target rest) htargets
    refine Query.tracks_bind (h.loadPlace hQ (htargets List.mem_cons_self))
      fun found _ _ hQ => ?_
    cases found with
    | none => exact ih hQ hrest
    | some d =>
      dsimp only
      cases (d.text.offset? target.range.start).bind d.namedAt? with
      | none => exact ih hQ hrest
      | some index => exact Query.tracks_pure _ hQ

theorem referencedSymbol (node : SessionNode) :
    Tracks (Excused excuse env' t (.referencedSymbol node)) Q (referencedSymbol env node).ask
      (referencedSymbol env' node).ask s t := by
  cases node with
  | declaration document index => exact Query.tracks_pure _ hQ
  | token document offset parent =>
    refine h.tracks_load_bind hQ (.token document offset parent) fun found _ _ hload hQ => ?_
    cases found with
    | none => exact Query.tracks_pure _ hQ
    | some d =>
      refine Query.tracks_bind_of_ok (tracks_converse h.toExtends hQ
        (h.alike.tracks_definition (h.world hQ) _ _)) (fun targets _ _ hanswer hQ => ?_)
        fun _ _ => id
      exact (h.firstNamed hQ targets fun _ => id).mono fun e ⟨p, hp, he⟩ =>
        ⟨p, .target parent hload hanswer hp, he⟩

theorem locate {mentioned : List Place} (places : List Place) (hplaces : places ⊆ mentioned) :
    Tracks (fun e => ∃ p, Mentions mentioned p ∧ excuse p e) Q (locate env places).ask
      (locate env' places).ask s t := by
  induction places generalizing s t with
  | nil => exact Query.tracks_pure _ hQ
  | cons place rest ih =>
    have hrest := List.Subset.trans (List.subset_cons_self place rest) hplaces
    refine Query.tracks_bind (h.loadPlace hQ (hplaces List.mem_cons_self))
      fun found _ _ hQ => ?_
    cases found with
    | none =>
      exact Query.tracks_bind (tracks_remark h.alike h.toExtends hQ _) fun _ _ _ hQ =>
        ih hQ hrest
    | some d =>
      dsimp only
      cases d.text.span? place.range with
      | none =>
        exact Query.tracks_bind (tracks_remark h.alike h.toExtends hQ _) fun _ _ _ hQ =>
          ih hQ hrest
      | some span =>
        exact Query.tracks_bind (ih hQ hrest) fun _ _ _ hQ => Query.tracks_pure _ hQ

theorem findReferences (symbol : Symbol) :
    Tracks (Excused excuse env' t (.findReferences symbol)) Q (findReferences env symbol).ask
      (findReferences env' symbol).ask s t := by
  unfold Session.findReferences
  cases hsource : symbol.source? with
  | none => exact Query.tracks_pure _ hQ
  | some source =>
    refine h.tracks_load_bind hQ (.used hsource) fun found _ _ hload hQ => ?_
    cases found with
    | none => exact Query.tracks_pure _ hQ
    | some d =>
      refine Query.tracks_bind_of_ok (tracks_converse h.toExtends hQ
        (h.alike.tracks_references (h.world hQ) _ _ _)) (fun places _ _ hanswer hQ => ?_)
        fun _ _ => id
      exact (h.locate hQ places fun _ => id).mono fun e ⟨p, hp, he⟩ =>
        ⟨p, .reference hsource hload hanswer hp, he⟩

theorem containingDeclaration (location : ReferenceLocation) :
    Tracks (Excused excuse env' t (.containingDeclaration location)) Q
      (containingDeclaration env location).ask (containingDeclaration env' location).ask s t := by
  refine h.tracks_load_bind hQ (.contained location) fun found _ _ _ hQ => ?_
  cases found with
  | none => exact Query.tracks_pure _ hQ
  | some d =>
    exact Query.tracks_bind (checkSpan hQ d _) fun _ _ _ hQ => Query.tracks_pure _ hQ

theorem declarationText (symbol : Symbol) :
    Tracks (Excused excuse env' t (.declarationText symbol)) Q (declarationText env symbol).ask
      (declarationText env' symbol).ask s t := by
  unfold Session.declarationText
  cases hsource : symbol.source? with
  | none => exact Query.tracks_pure _ hQ
  | some source =>
    refine h.tracks_load_bind hQ (.declaration hsource) fun found _ _ _ hQ => ?_
    cases found with
    | none => exact Query.tracks_pure _ hQ
    | some d =>
      exact Query.tracks_bind (checkSpan hQ d _) fun _ _ _ hQ => Query.tracks_pure _ hQ

end Questions

section Inexcusable

/-- Where no reason is excused, none is for a question either. -/
theorem not_excused {env : Environment ω} {s : Session ω} {question : Question SessionNode}
    (e : IndexError) : ¬ Excused (fun _ => inexcusable) env s question e :=
  fun ⟨_, _, he⟩ => he

variable (h : Follows (fun _ => inexcusable) env env' R Q)

include h

/-- After the same question the sessions are still related. -/
theorem next (hQ : Q s t) (question : Question SessionNode) :
    Q ((program env).next s question) ((program env').next t question) := by
  cases question with
  | coveringNode document span => exact ((h.coveringNode hQ document span).agree not_excused).2
  | referencedSymbol node => exact ((h.referencedSymbol hQ node).agree not_excused).2
  | declaredSymbol node => cases node <;> exact hQ
  | findReferences symbol => exact ((h.findReferences hQ symbol).agree not_excused).2
  | containingDeclaration location =>
    exact ((h.containingDeclaration hQ location).agree not_excused).2
  | declarationText symbol => exact ((h.declarationText hQ symbol).agree not_excused).2

theorem after (hQ : Q s t) (history : List (Question SessionNode)) :
    Q ((program env).after s history) ((program env').after t history) := by
  induction history generalizing s t with
  | nil => exact hQ
  | cons question rest ih => exact ih (h.next hQ question)

end Inexcusable

end Follows

end Session

end CallerClosure
