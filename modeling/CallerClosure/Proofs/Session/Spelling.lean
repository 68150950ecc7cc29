import CallerClosure.Proofs.Session.Tracking

/-!
# The spellings that a session knows

A session remembers a file under the path in which it was first looked up, and finds it again
under every path with the same components.

* `lookup_congr` and `lookup_append` are what is needed of the documents of a session;
* `Path.respell` spells a path as in a list, and `Environment.respelled` is an environment with
  such spellings. `absolute_respelled` says what becomes of a path there;
* `Session.respell_of_lookup`: spelled as a session knows it, a path is the one under which the
  file is remembered.
-/

namespace CallerClosure

variable {ω : Type}

namespace Path

/-- The first path of a list with the same components. -/
def spelling? (p : Path) (spellings : List Path) : Option Path :=
  spellings.find? fun q => decide (q.Same p)

/-- A path as it is spelled in a list, if the list has a path with the same components. -/
def respell (p : Path) (spellings : List Path) : Path := (p.spelling? spellings).getD p

theorem respell_same (p : Path) (spellings : List Path) : (p.respell spellings).Same p := by
  rw [respell]
  cases hfind : p.spelling? spellings with
  | none => rfl
  | some q => simpa using List.find?_some hfind

end Path

/-- The environment in which the absolute forms of paths are spelled as in a list. -/
def Environment.respelled (env : Environment ω) (spellings : List Path) : Environment ω :=
  { env with
    canonicalize := fun p w =>
      match ((env.canonicalize p w).toOption.getD p).spelling? spellings with
      | some q => .ok q
      | none => env.canonicalize p w }

theorem Environment.perform_respelled (env : Environment ω) (spellings : List Path) (deed : Deed) :
    (env.respelled spellings).perform deed = env.perform deed := by
  cases deed <;> rfl

/-- Where an environment always does the same it does so with other spellings. -/
theorem Environment.Alike.respelled_right {env : Environment ω} {R : ω → ω → Prop}
    (h : env.Alike env R) (spellings : List Path) : env.Alike (env.respelled spellings) R where
  readText := h.readText
  seek := h.seek
  request := h.request
  notify := h.notify
  perform hR deed := by
    rw [env.perform_respelled]
    exact h.perform hR deed

theorem Environment.Alike.respelled_left {env : Environment ω} {R : ω → ω → Prop}
    (h : env.Alike env R) (spellings : List Path) : (env.respelled spellings).Alike env R where
  readText := h.readText
  seek := h.seek
  request := h.request
  notify := h.notify
  perform hR deed := by
    rw [env.perform_respelled]
    exact h.perform hR deed

namespace Session

variable {env : Environment ω} {s : Session ω}

theorem absolute_respelled (spellings : List Path) (p : Path) :
    s.absolute (env.respelled spellings) p = (s.absolute env p).respell spellings := by
  rw [absolute, absolute, Environment.respelled]
  dsimp only
  generalize (if p.isAbsolute then p else s.root.join p) = joined
  cases env.canonicalize joined s.world with
  | error e =>
    rw [Path.respell]
    dsimp only [Except.toOption, Option.getD]
    cases joined.spelling? spellings <;> rfl
  | ok c =>
    rw [Path.respell]
    dsimp only [Except.toOption, Option.getD]
    cases c.spelling? spellings <;> rfl

/-- Opening a file is the same however absolute forms are spelled. -/
theorem openFile_respelled (spellings : List Path) (root p : Path) :
    openFile (env.respelled spellings) root p = openFile env root p := rfl

/-! ### What is found under a path -/

section Lookup

variable {documents : List (Path × Option Document)} {p q : Path}

theorem lookup_congr (h : p.Same q) : lookup documents p = lookup documents q := by
  simp only [lookup, Path.same_congr h]

theorem lookup_append (documents : List (Path × Option Document)) (q : Path)
    (d : Option Document) (p : Path) :
    lookup (documents ++ [(q, d)]) p =
      (lookup documents p).or (if q.Same p then some d else none) := by
  rw [lookup, lookup, List.find?_append, Option.map_or, List.find?_singleton]
  by_cases h : q.Same p
  · simp [h]
  · simp [h]

end Lookup

/-- The paths under which a session remembers files. -/
def paths (s : Session ω) : List Path := s.documents.map (·.1)

/-- A file that is remembered is so under the spelling that the session knows. -/
theorem respell_of_lookup {p : Path} {known : Option Document}
    (h : lookup s.documents p = some known) :
    (p.respell s.paths, known) ∈ s.documents := by
  obtain ⟨entry, hfind, rfl⟩ := Option.map_eq_some_iff.1 h
  have hrespell : p.respell s.paths = entry.1 := by
    rw [Path.respell, Path.spelling?, paths, List.find?_map, Function.comp_def, hfind]
    rfl
  rw [hrespell]
  exact List.mem_of_find?_eq_some hfind

theorem respell_of_lookup_eq_none {p : Path} (h : lookup s.documents p = none) :
    p.respell s.paths = p := by
  have hfind := Option.map_eq_none_iff.1 h
  rw [Path.respell, Path.spelling?, paths, List.find?_map, Function.comp_def, hfind]
  rfl

end Session

end CallerClosure
