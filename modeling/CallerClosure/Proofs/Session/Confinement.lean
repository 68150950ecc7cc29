import CallerClosure.Proofs.Session.Surroundings
import CallerClosure.Proofs.Session.Watch

/-!
# A session stays in its workspace

Whatever a server answers and whatever a session is asked, the session loads only files that lie
under its root and have a known language.

* `Session.PassesOver` says of a place that its file is none that the session loads;
* `Session.Handed` says of a node that a session has handed it out, or the node around one;
* `Session.Confined` is what confinement means for a session that has just started, and
  `Session.confined` the main statement.
-/

namespace CallerClosure

open Relation (ReflTransGen)

variable {ω : Type}

namespace Session

/-! ### Files that a session does not load -/

/-- A session passes over a place whose file it may not load, and a place whose file it has not
loaded and that is reported as missing. -/
def PassesOver (env : Environment ω) (s : Session ω) (place : Place) : Prop :=
  match place.uri.filePath? with
  | some p => ¬ Admits s.root (s.absolute env p) ∨
      s.loaded? (s.absolute env p) = none ∧
        (env.readText (s.absolute env p) s.world).1 = .error .notFound
  | none => ¬ Admits s.root place.uri.filePath ∨
      (env.seek place.uri.filePath s.world).1 = .error .notFound

variable {env : Environment ω} {s : Session ω}

/-- A file that is neither held nor comes of opening it is loaded as none. -/
theorem ask_load_eq_none {p : Path} (hloaded : s.loaded? (s.absolute env p) = none)
    (hopen : ((openFile env s.root (s.absolute env p)).ask s).1 = .ok none) :
    ((load env p).ask s).1 = .ok none := by
  cases hknown : lookup s.documents (s.absolute env p) with
  | some known =>
    rw [load_of_known hknown]
    rw [loaded?, hknown] at hloaded
    exact congrArg _ hloaded
  | none => rw [load_of_opened hknown (Prod.ext hopen rfl)]

theorem loaded?_of_not_admits {p : Path} (hs : Sourced env s) (h : ¬ Admits s.root p) :
    s.loaded? p = none := by
  by_contra hsome
  obtain ⟨d, hd⟩ := Option.ne_none_iff_exists'.1 hsome
  obtain ⟨q, hsame, hq⟩ := mem_of_lookup (Option.join_eq_some_iff.1 hd)
  obtain ⟨text, outline, ⟨-, -, -, hadmits, -⟩, -⟩ := hs q d hq
  exact h ((admits_congr hsame).1 hadmits)

/-- Nothing is loaded for a place that is passed over, and nothing fails. -/
theorem ask_loadPlace_of_passesOver {place : Place} (hs : Sourced env s)
    (h : PassesOver env s place) : ((loadPlace env place).ask s).1 = .ok none := by
  unfold loadPlace
  unfold PassesOver at h
  cases hpath : place.uri.filePath? with
  | some p =>
    rw [hpath] at h
    rcases h with hadmits | ⟨hloaded, hread⟩
    · exact ask_load_eq_none (loaded?_of_not_admits hs hadmits)
        (ask_openFile_of_not_admits hadmits s)
    · exact ask_load_eq_none hloaded (ask_openFile_of_notFound hread)
  | none =>
    rw [hpath] at h
    dsimp only
    by_cases hadmits : Admits s.root place.uri.filePath
    · have hsought : (seekNameless env place.uri.filePath).ask s =
          (.ok (), { s with world := (env.seek place.uri.filePath s.world).2 }) := by
        rw [seekNameless, Query.ask_ofFunction]
        dsimp only
        rw [h.resolve_left (not_not_intro hadmits)]
        rfl
      rw [ask_lookForNameless_of_admits hadmits, Query.ask_bind_of_ok hsought]
      rfl
    · rw [ask_lookForNameless_of_not_admits hadmits]
      rfl

/-! ### Confinement -/

/-- Nodes that a session handed out, and nodes around these. -/
inductive Handed (env : Environment ω) (s : Session ω) : SessionNode → Prop
  | covering (history : List (Question SessionNode)) {document : Path} {span : Span}
      {node : SessionNode}
      (h : ((coveringNode env document span).ask ((program env).after s history)).1 =
        .ok (some node)) : Handed env s node
  | outer (history : List (Question SessionNode)) {node outer : SessionNode}
      (hnode : Handed env s node) (h : parent node ((program env).after s history) = some outer) :
      Handed env s outer

/-- All locations of a symbol lie in documents of some kind. -/
def LiesIn (documents : Path → Prop) (symbol : Symbol) : Prop :=
  ∀ location ∈ symbol.locations, ∃ document span nameOffset,
    location = .source document span nameOffset ∧ documents document

/-- A session stays in its workspace, whatever it is asked. `t` is the same session under
watch. -/
structure Confined (env : Environment ω) (s : Session ω) (t : Session (Watched ω)) : Prop where
  /-- Watching makes no difference. -/
  twin : ∀ history,
    Twin ((program env).after s history) ((program env.watched).after t history)
  /-- The session does nothing but what is permitted. -/
  deeds : ∀ history, ∀ entry ∈ ((program env.watched).after t history).world.deeds,
    Permits env s.root entry.1 entry.2
  /-- The text of a file is read under a path that is free of links and dots, and so is the path of
  a file that is loaded, if every file that can be read has such a path. -/
  canonical : env.Readable →
    (∀ history, ∀ entry ∈ ((program env.watched).after t history).world.deeds,
      ∀ p text, entry.2 = .read p → (env.readText p entry.1).1 = .ok text →
        ∃ q, env.canonicalize q entry.1 = .ok p) ∧
    ∀ p, env.Reaches s.root p → ∃ q w, env.canonicalize q w = .ok p
  /-- Its nodes belong to files that it may load, -/
  nodes : ∀ node, Handed env s node → env.Reaches s.root node.document
  /-- and so do its symbols -/
  used : ∀ history node symbol,
    ((referencedSymbol env node).ask ((program env).after s history)).1 = .ok (some symbol) →
      LiesIn (env.Reaches s.root) symbol
  declared : ∀ history node symbol,
    ((declaredSymbol node).ask ((program env).after s history)).1 = .ok (some symbol) →
      LiesIn (env.Reaches s.root) symbol
  containing : ∀ history location symbol,
    ((containingDeclaration env location).ask ((program env).after s history)).1 =
      .ok (some symbol) → LiesIn (env.Reaches s.root) symbol
  /-- and the places that it finds. -/
  references : ∀ history symbol locations,
    ((findReferences env symbol).ask ((program env).after s history)).1 = .ok locations →
      ∀ location ∈ locations, env.Reaches s.root location.document
  /-- A place that is passed over is no error. Definitions and references come out as if it were
  not there. -/
  passed : ∀ u, ReflTransGen (Step env) s u → ∀ place, PassesOver env u place →
    ∃ v, (loadPlace env place).ask u = (.ok none, v) ∧
      (∀ rest, (firstNamed env (place :: rest)).ask u = (firstNamed env rest).ask v) ∧
      ∀ rest, (locate env (place :: rest)).ask u =
        (locate env rest).ask ((remark env [.passedOver place.uri.filePath]).ask v).2

/-- A file that is read under a permitted path is so under one that is free of links and dots. -/
theorem canonical_of_permits {root p : Path} {w : ω} {text : Text} (h : env.Readable)
    (hpermits : Permits env root w (.read p)) (hread : (env.readText p w).1 = .ok text) :
    ∃ q, env.canonicalize q w = .ok p := by
  cases hpermits with
  | read hp _ => exact Environment.canonical_of_absolute hp (h p w text hread)

theorem Sourced.reaches {d : Document} (hs : Sourced env s) (hd : s.Knows d) :
    env.Reaches s.root d.path := by
  obtain ⟨text, hloads, -⟩ := hs.exists_uri hd
  exact ⟨text, hloads⟩

theorem Sourced.liesIn {symbol : Symbol} (hs : Sourced env s) (h : Declares symbol s) :
    LiesIn (env.Reaches s.root) symbol := by
  obtain ⟨d, index, hd, hsymbol⟩ := h
  obtain ⟨c, -, rfl⟩ := Option.map_eq_some_iff.1 hsymbol
  intro location hlocation
  obtain rfl := List.mem_singleton.1 hlocation
  exact ⟨d.path, c.span, c.name.start, rfl, hs.reaches hd⟩

/-- The documents of a session that has come a way are files under the root it started with. -/
theorem reaches_of_steps {d : Document} {t : Session ω} (hs : Sourced env s)
    (h : ReflTransGen (Step env) s t) (hd : t.Knows d) : env.Reaches s.root d.path := by
  rw [← root_of_steps h]
  exact (sourced_of_steps hs h).reaches hd

theorem Handed.reaches {node : SessionNode} (hs : Sourced env s) (h : Handed env s node) :
    env.Reaches s.root node.document := by
  induction h with
  | @covering history document span node h =>
    have hafter := (names env).toMoves.after s history
    have hmeets := meets_coveringNode env document span ((program env).after s history)
    obtain ⟨d, hd, hdocument⟩ := hmeets.2 _ h _ rfl
    rw [hdocument]
    exact reaches_of_steps hs (hafter.trans hmeets.1) hd
  | @outer history node outer _ h ih =>
    have hdocument : outer.document = node.document := by
      cases node with
      | token document offset index =>
        obtain ⟨_, -, rfl⟩ := Option.map_eq_some_iff.1 h
        rfl
      | declaration document index =>
        obtain ⟨_, -, rfl⟩ := Option.map_eq_some_iff.1 h
        rfl
    rwa [hdocument]

/-- The symbols of a session that has come a way lie in files under the root. -/
theorem liesIn_of_steps {symbol : Symbol} {t : Session ω} (hs : Sourced env s)
    (h : ReflTransGen (Step env) s t) (hsymbol : Declares symbol t) :
    LiesIn (env.Reaches s.root) symbol := by
  rw [← root_of_steps h]
  exact (sourced_of_steps hs h).liesIn hsymbol

/-- **A session stays in its workspace**: only files that lie under the root and have a known
language are read, announced or named in answers, and all others are passed over. -/
theorem confined {config : ServerConfig} {w v : ω} (hstart : start env config w = (.ok s, v)) :
    env.canonicalize config.root w = .ok s.root ∧
      ∃ t u, start env.watched config (.start w) = (.ok t, u) ∧ Confined env s t := by
  obtain ⟨t, u, hwatched, htwin⟩ := exists_twin hstart
  obtain ⟨-, -, rfl, hgreeted⟩ := of_start hwatched
  have hs : Sourced env s := sourced_of_start hstart
  have hnames := names env
  have hdeeds : ∀ history, ∀ entry ∈ ((program env.watched).after t history).world.deeds,
      Permits env s.root entry.1 entry.2 := by
    intro history
    rw [htwin.root]
    exact Watched.permits_of_does (hgreeted.trans (does_of_steps (sourced_of_start hwatched)
      ((names env.watched).toMoves.after t history))) (by rintro _ ⟨⟩)
  refine ⟨(of_start hstart).1, t, _, hwatched, ?_⟩
  constructor
  case twin => exact htwin.after
  case deeds => exact hdeeds
  case canonical =>
    intro hreadable
    constructor
    · intro history entry hentry p text hp hread
      have hpermits := hdeeds history entry hentry
      rw [hp] at hpermits
      exact canonical_of_permits hreadable hpermits hread
    · rintro p ⟨text, hloads⟩
      obtain ⟨q, w, hq, -⟩ := hloads.canonical hreadable
      exact ⟨q, w, hq⟩
  case nodes => exact fun node hnode => hnode.reaches hs
  case used =>
    intro history node symbol h
    have hstep := (hnames.toMoves.after s history).trans (hnames.referencedSymbol node _)
    exact liesIn_of_steps hs hstep (hnames.used h)
  case declared =>
    intro history node symbol h
    have hstep := (hnames.toMoves.after s history).trans (hnames.declaredSymbol node _)
    exact liesIn_of_steps hs hstep (hnames.declared h)
  case containing =>
    intro history location symbol h
    have hstep := (hnames.toMoves.after s history).trans (hnames.containingDeclaration location _)
    exact liesIn_of_steps hs hstep (hnames.containing h)
  case references =>
    intro history symbol locations h location hlocation
    have hmeets := meets_findReferences env symbol ((program env).after s history)
    obtain ⟨d, range, hd, hdocument, -⟩ := hmeets.2 _ h location hlocation
    rw [hdocument]
    exact reaches_of_steps hs ((hnames.toMoves.after s history).trans hmeets.1) hd
  case passed =>
    intro x hx place hplace
    have hnone := ask_loadPlace_of_passesOver (sourced_of_steps hs hx) hplace
    have hload : (loadPlace env place).ask x = (.ok none, ((loadPlace env place).ask x).2) :=
      Prod.ext hnone rfl
    refine ⟨_, hload, fun rest => ?_, fun rest => ?_⟩
    · rw [firstNamed, Query.ask_bind_of_ok hload]
    · rw [locate, Query.ask_bind_of_ok hload]
      rfl

theorem confined_selfCall :
    start .selfCall (.standard .python ⟨"/ws"⟩) () = (.ok selfCall, ()) ∧
      Environment.selfCall.Readable ∧
      (∃ t u, start Environment.selfCall.watched (.standard .python ⟨"/ws"⟩) (.start ()) =
        (.ok t, u) ∧ Confined .selfCall selfCall t) ∧
      -- the call from outside is left out
      ((findReferences .selfCall .selfCall).ask selfCall).1 = .ok [⟨⟨"/ws/m.py"⟩, ⟨11, 12⟩⟩] := by
  have horderly : (FileTree.selfCall.disk []).Orderly :=
    FileTree.disk_orderly FileTree.linksClean_selfCall (FileTree.stands_nil .selfCall)
  exact ⟨start_selfCall, Environment.fixed_readable horderly _, (confined start_selfCall).2,
    by decide +kernel⟩

end Session

end CallerClosure
