import CallerClosure.Proofs.Session.Tracking

/-!
# Sessions under watch

* `Environment.watched` is an environment that keeps a list of all deeds, with the worlds in which
  they were done;
* `Session.Twin` relates a session to the same one under watch. `exists_twin` says that there is
  one, and `Twin.after` that nothing which the two are asked makes a difference;
* `Watched.permits_of_does` says that what was written down was permitted, if all that was done
  was.
-/

namespace CallerClosure

open Relation (ReflTransGen)

variable {ω : Type}

/-! ### Watching -/

/-- A world, and what was done on the way to it: every deed with the world in which it was
done. -/
structure Watched (ω : Type) where
  world : ω
  deeds : List (ω × Deed)

/-- A world in which nothing has been done yet. -/
def Watched.start (w : ω) : Watched ω := ⟨w, []⟩

/-- A world in which a deed is written down. -/
def Watched.note (deed : Deed) (w : Watched ω) (v : ω) : Watched ω :=
  ⟨v, w.deeds ++ [(w.world, deed)]⟩

/-- The same environment under watch. -/
def Environment.watched (env : Environment ω) : Environment (Watched ω) where
  canonicalize p w := env.canonicalize p w.world
  readText p w := ((env.readText p w.world).1, w.note (.read p) (env.readText p w.world).2)
  seek p w := ((env.seek p w.world).1, w.note (.seek p) (env.seek p w.world).2)
  launch config w :=
    ((env.launch config w.world).1, w.note (.launch config) (env.launch config w.world).2)
  request message w :=
    ((env.request message w.world).1, w.note (.request message) (env.request message w.world).2)
  notify message w :=
    ((env.notify message w.world).1, w.note (.notify message) (env.notify message w.world).2)
  remark r w := w.note (.remark r) (env.remark r w.world)

/-- Under watch a deed does what it does otherwise, and is written down. -/
theorem Environment.perform_watched (env : Environment ω) (deed : Deed) (w : Watched ω) :
    env.watched.perform deed w = w.note deed (env.perform deed w.world) := by
  cases deed <;> rfl

theorem Environment.Loads.of_watched {env : Environment ω} {root p : Path} {text : Text}
    (h : env.watched.Loads root p text) : env.Loads root p text := by
  obtain ⟨q, w, hp, hadmits, hread⟩ := h
  exact ⟨q, w.world, hp, hadmits, hread⟩

/-- Watching makes no difference to what is permitted. -/
theorem Permits.of_watched {env : Environment ω} {root : Path} {w : Watched ω} {deed : Deed}
    (h : Permits env.watched root w deed) : Permits env root w.world deed := by
  cases h with
  | remark _ r => exact .remark _ r
  | read hp hadmits => exact .read hp hadmits
  | seek _ hadmits => exact .seek _ hadmits
  | opened _ hloads huri hlanguage => exact .opened _ hloads.of_watched huri hlanguage
  | outline _ hloads huri => exact .outline _ hloads.of_watched huri
  | definition _ position hloads huri => exact .definition _ position hloads.of_watched huri
  | references _ position hloads huri => exact .references _ position hloads.of_watched huri
  | launch _ config hroot => exact .launch _ config hroot
  | start _ options hwritten hparsed huri => exact .start _ options hwritten hparsed huri
  | started => exact .started _

/-- Where only permitted things are done, only permitted things are written down. -/
theorem Watched.permits_of_does {env : Environment ω} {root : Path} {v w : Watched ω}
    (h : ReflTransGen (env.watched.Does (Permits env.watched root)) v w)
    (hv : ∀ entry ∈ v.deeds, Permits env root entry.1 entry.2) :
    ∀ entry ∈ w.deeds, Permits env root entry.1 entry.2 := by
  induction h with
  | refl => exact hv
  | @tail x y _ hdoes ih =>
    obtain ⟨deed, hpermits, rfl⟩ := hdoes
    rw [env.perform_watched, note]
    intro entry hentry
    rcases List.mem_append.1 hentry with hentry | hentry
    · exact ih entry hentry
    · obtain rfl := List.mem_singleton.1 hentry
      exact hpermits.of_watched

/-! ### Twins -/

theorem Environment.alike_watched (env : Environment ω) :
    env.Alike env.watched fun w v => v.world = w where
  readText := by rintro w v rfl p; rfl
  seek := by rintro w v rfl p; rfl
  request := by rintro w v rfl message; rfl
  notify := by rintro w v rfl message; rfl
  perform := by
    rintro w v rfl deed
    rw [env.perform_watched]
    rfl

namespace Session

variable {env : Environment ω} {s : Session ω} {t : Session (Watched ω)}

/-- A session, and the same session under watch. -/
structure Twin (s : Session ω) (t : Session (Watched ω)) : Prop where
  root : s.root = t.root
  documents : s.documents = t.documents
  world : t.world.world = s.world

theorem extends_twin : Extends (fun (w : ω) (v : Watched ω) => v.world = w) Twin where
  world h := h.world
  change h hR := ⟨h.root, h.documents, hR⟩

theorem tracks_load_twin (h : Twin s t) (p : Path) :
    Tracks inexcusable Twin (load env p).ask (load env.watched p).ask s t := by
  have habsolute : s.absolute env p = t.absolute env.watched p := by
    rw [absolute_eq, absolute_eq, ← h.world, h.root]
    rfl
  cases hknown : lookup s.documents (s.absolute env p) with
  | some known =>
    have hknown' : lookup t.documents (t.absolute env.watched p) = some known := by
      rw [← habsolute, ← h.documents, hknown]
    exact .of_eq (load_of_known hknown) (load_of_known hknown') h
  | none =>
    have hknown' : lookup t.documents (t.absolute env.watched p) = none := by
      rw [← habsolute, ← h.documents, hknown]
    rw [Tracks, load_of_new hknown, load_of_new hknown', ← habsolute, ← h.root]
    exact Query.tracks_bind (tracks_openFile env.alike_watched extends_twin h _ _)
      fun d _ _ hQ => .inl ⟨rfl, ⟨hQ.root, by
        change _ ++ _ = _ ++ _
        rw [hQ.documents], hQ.world⟩⟩

theorem follows_twin (env : Environment ω) :
    Follows (fun _ => inexcusable) env env.watched (fun w v => v.world = w) Twin where
  toExtends := extends_twin
  root := Twin.root
  alike := env.alike_watched
  load := tracks_load_twin

/-- Watching a session makes no difference to what it is asked. -/
theorem Twin.after (h : Twin s t) (history : List (Question SessionNode)) :
    Twin ((program env).after s history) ((program env.watched).after t history) :=
  (follows_twin env).after h history

/-- Watching a session makes no difference to its start. -/
theorem exists_twin {config : ServerConfig} {w v : ω} (h : start env config w = (.ok s, v)) :
    ∃ t u, start env.watched config (.start w) = (.ok t, u) ∧ Twin s t := by
  obtain ⟨root, written, x, hroot, hwritten, hlaunch, hgreet, rfl⟩ := start_eq_ok_iff.1 h
  have hlaunch' : env.watched.launch { config with root } (.start w) =
      (.ok (), (Watched.start w).note (.launch { config with root }) x) := by
    change (_, _) = _
    rw [Watched.start, hlaunch]
  have hgreets := (env.alike_watched.tracks_greet (w := x)
    (v := (Watched.start w).note (.launch { config with root }) x) rfl written
    config.options).agree fun _ => id
  rw [hgreet] at hgreets
  refine ⟨⟨root, [], _⟩, _, start_eq_ok_iff.2 ⟨root, written, _, hroot, hwritten, hlaunch',
    Prod.ext hgreets.1.symm rfl, rfl⟩, rfl, rfl, hgreets.2⟩

end Session

end CallerClosure
