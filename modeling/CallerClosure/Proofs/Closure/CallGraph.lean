import CallerClosure.Closure

/-!
# Traversals of a fixed call graph

When the answers of a program depend on the question alone, a traversal is a machine on
frontiers: one step expands the first member that waits.

* `CallGraph` holds such answers, `Program.Follows` says that a program gives them;
* `Program.expandAll_of_le`: a bound on steps, once it is large enough, changes nothing;
* `CallGraph.step` and `CallGraph.run` expand one member and several of them, and
  `CallGraph.expanded` lists those; `run_induction` goes from a step to a run;
* `ask_expandAll` is the main statement: a traversal that is never cancelled ends as the run
  of its graph does.
-/

namespace CallerClosure

/-- Where symbols are used, and what is declared around a place. -/
structure CallGraph where
  references : SymbolId → List ReferenceLocation
  container : ReferenceLocation → Option Symbol

/-- A program answers as a graph says, in whatever state it is. Symbols with the same identity
are the same symbol to it. It may refuse to say what is around a place where no symbol is
used. -/
structure Program.Follows {σ ν : Type} (p : Program σ ν) (g : CallGraph) : Prop where
  references : ∀ symbol s, ((p.findReferences symbol).ask s).1 = .ok (g.references symbol.id)
  container : ∀ id, ∀ location ∈ g.references id, ∀ s,
    ((p.containingDeclaration location).ask s).1 = .ok (g.container location)

/-- A traversal that has come to its end goes the same way when more steps are allowed. -/
theorem Program.expandAll_of_le {σ ν : Type} (p : Program σ ν) {cancelled : σ → Bool}
    {n m : Nat} (hnm : n ≤ m) {f : Frontier} {s u : σ} {c : Closure}
    (h : (p.expandAll cancelled n f).ask s = (.ok c, u)) :
    (p.expandAll cancelled m f).ask s = (.ok c, u) := by
  induction n generalizing m f s with
  | zero =>
    cases hq : f.queue with
    | nil => rwa [p.expandAll_of_queue_nil cancelled hq] at h ⊢
    | cons current rest =>
      rw [p.expandAll_zero cancelled hq] at h
      cases h
  | succ n ih =>
    cases hq : f.queue with
    | nil => rwa [p.expandAll_of_queue_nil cancelled hq] at h ⊢
    | cons current rest =>
      obtain ⟨m, rfl⟩ : ∃ k, m = k + 1 := ⟨m - 1, by omega⟩
      rw [p.expandAll_succ cancelled hq] at h ⊢
      obtain ⟨_, v, hcheck, h⟩ := Traversal.exists_of_ask_bind h
      obtain ⟨references, w, hreferences, h⟩ := Traversal.exists_of_ask_bind h
      obtain ⟨f', x, hf', h⟩ := Traversal.exists_of_ask_bind h
      rw [Traversal.ask_bind_of_ok hcheck, Traversal.ask_bind_of_ok hreferences,
        Traversal.ask_bind_of_ok hf']
      exact ih (by omega) h

/-- A cancellation that never comes. -/
def never {σ : Type} : σ → Bool := fun _ => false

@[simp] theorem Traversal.ask_checkpoint_never {σ : Type} (s : σ) :
    (checkpoint never : Traversal σ Unit).ask s = (.ok (), s) := rfl

namespace CallGraph

variable (g : CallGraph)

/-- The frontier after references were visited. -/
def visitAll (locations : List ReferenceLocation) (f : Frontier) : Frontier :=
  locations.foldl (fun f location => f.visit (g.container location)) f

@[simp] theorem visitAll_nil (f : Frontier) : g.visitAll [] f = f := rfl

@[simp] theorem visitAll_cons (location : ReferenceLocation) (rest : List ReferenceLocation)
    (f : Frontier) :
    g.visitAll (location :: rest) f = g.visitAll rest (f.visit (g.container location)) := rfl

/-- Expand the first member that waits. A frontier where none waits stays as it is. -/
def step (f : Frontier) : Frontier :=
  match f.queue with
  | [] => f
  | current :: rest =>
    g.visitAll (g.references current.id) (f.expand rest (g.references current.id).length)

/-- Expand up to `n` members. -/
def run (f : Frontier) : Nat → Frontier
  | 0 => f
  | n + 1 => run (g.step f) n

@[simp] theorem run_zero (f : Frontier) : g.run f 0 = f := rfl

theorem run_succ (f : Frontier) (n : Nat) : g.run f (n + 1) = g.run (g.step f) n := rfl

theorem step_of_queue_nil {f : Frontier} (h : f.queue = []) : g.step f = f := by
  unfold step
  rw [h]

theorem step_of_queue_cons {f : Frontier} {current : Symbol} {rest : List Symbol}
    (h : f.queue = current :: rest) :
    g.step f =
      g.visitAll (g.references current.id)
        (f.expand rest (g.references current.id).length) := by
  unfold step
  rw [h]

theorem run_of_queue_nil {f : Frontier} (h : f.queue = []) (n : Nat) : g.run f n = f := by
  induction n with
  | zero => rfl
  | succ n ih => rw [run_succ, step_of_queue_nil g h, ih]

/-- A run that has come to its end stays there. -/
theorem run_eq_of_le {f : Frontier} {n m : Nat} (h : (g.run f n).queue = []) (hnm : n ≤ m) :
    g.run f m = g.run f n := by
  induction n generalizing f m with
  | zero => exact run_of_queue_nil g h m
  | succ n ih =>
    cases m with
    | zero => omega
    | succ m => exact ih h (by omega)

/-- The members that up to `n` steps expand, in order. -/
def expanded (f : Frontier) : Nat → List Symbol
  | 0 => []
  | n + 1 =>
    match f.queue with
    | [] => []
    | current :: _ => current :: expanded (g.step f) n

@[simp] theorem expanded_zero (f : Frontier) : g.expanded f 0 = [] := rfl

theorem expanded_of_queue_nil {f : Frontier} (h : f.queue = []) (n : Nat) :
    g.expanded f n = [] := by
  cases n with
  | zero => rfl
  | succ n => rw [expanded, h]

theorem expanded_of_queue_cons {f : Frontier} {current : Symbol} {rest : List Symbol}
    (h : f.queue = current :: rest) (n : Nat) :
    g.expanded f (n + 1) = current :: g.expanded (g.step f) n := by
  rw [expanded, h]

/-- A run goes on until nothing waits any more. -/
theorem queue_run (f : Frontier) (n : Nat) :
    (g.run f n).queue = [] ∨ (g.expanded f n).length = n := by
  induction n generalizing f with
  | zero => exact .inr rfl
  | succ n ih =>
    cases hq : f.queue with
    | nil => exact .inl (by rwa [g.run_of_queue_nil hq])
    | cons current rest =>
      rw [run_succ, g.expanded_of_queue_cons hq, List.length_cons]
      exact (ih (g.step f)).imp_right (congrArg (· + 1))

/-- **What every step keeps, a run keeps.** The list has the members that were expanded. -/
theorem run_induction {I : List Symbol → Frontier → Prop}
    (hstep : ∀ {done f current rest}, I done f → f.queue = current :: rest →
      I (done ++ [current]) (g.step f))
    {done : List Symbol} {f : Frontier} (h : I done f) (n : Nat) :
    I (done ++ g.expanded f n) (g.run f n) := by
  induction n generalizing done f with
  | zero => simpa using h
  | succ n ih =>
    cases hq : f.queue with
    | nil => simpa [g.run_of_queue_nil hq, g.expanded_of_queue_nil hq] using h
    | cons current rest =>
      have hrun := ih (hstep h hq)
      rwa [List.append_assoc, List.singleton_append, ← g.expanded_of_queue_cons hq] at hrun

end CallGraph

namespace Program.Follows

open Traversal

variable {σ ν : Type} {p : Program σ ν} {g : CallGraph}

theorem ask_visitAll (h : p.Follows g) {locations : List ReferenceLocation}
    (hl : ∀ location ∈ locations, ∃ id, location ∈ g.references id) (f : Frontier) (s : σ) :
    ((p.visitAll never locations f).ask s).1 = .ok (g.visitAll locations f) := by
  induction locations generalizing f s with
  | nil => rfl
  | cons location rest ih =>
    obtain ⟨id, hid⟩ := hl location List.mem_cons_self
    rw [Program.visitAll, ask_bind_of_ok (ask_checkpoint_never s),
      ask_bind_ofQuery (h.container id location hid s)]
    exact ih (fun l hm => hl l (List.mem_cons_of_mem _ hm)) _ _

/-- **A traversal does what its graph does.** It ends with the frontier of a run in which no
member waits any more, and stays unfinished when the run needs more steps. -/
theorem ask_expandAll (h : p.Follows g) (limit : Nat) (f : Frontier) (s : σ) :
    ((p.expandAll never limit f).ask s).1 =
      if (g.run f limit).queue = [] then .ok (g.run f limit).closure
      else .error .unfinished := by
  induction limit generalizing f s with
  | zero =>
    cases hq : f.queue with
    | nil => simp [p.expandAll_of_queue_nil never hq, hq]
    | cons current rest => simp [p.expandAll_zero never hq, hq]
  | succ limit ih =>
    cases hq : f.queue with
    | nil => simp [p.expandAll_of_queue_nil never hq, g.run_of_queue_nil hq, hq]
    | cons current rest =>
      have hv := h.ask_visitAll (fun l hl => ⟨current.id, hl⟩)
        (f.expand rest (g.references current.id).length)
        ((p.findReferences current).ask s).2
      rw [p.expandAll_succ never hq, ask_bind_of_ok (ask_checkpoint_never s),
        ask_bind_ofQuery (h.references current s), ask_bind_of_ok (Prod.ext hv rfl), ih,
        g.run_succ, g.step_of_queue_cons hq]

end Program.Follows

end CallerClosure
