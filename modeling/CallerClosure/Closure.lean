import CallerClosure.Program.Basic
import CallerClosure.Symbol.Set

/-!
# The callers of a method

The closure of a seed holds the seed and every method that calls into it, directly or
through other members: edges are followed from a declaration to its users. Members are
expanded in the order in which they were found, each of them once, so cycles end.

Before every question the traversal looks whether it has been cancelled. An error or a
cancellation leaves no partial closure. `limit` bounds the number of expansions; a traversal
that needs more ends as `unfinished`.
-/

namespace CallerClosure

/-- Why a closure was not built. -/
inductive ClosureError
  /-- The traversal was cancelled. -/
  | cancelled
  /-- The program did not answer. -/
  | index (cause : IndexError)
  /-- The bound on expansions was reached. -/
  | unfinished
  deriving DecidableEq

/-- The wording of a closure error. -/
def ClosureError.message : ClosureError → String
  | cancelled => "closure construction was cancelled"
  | index cause => cause.message
  | unfinished => "closure construction did not finish"

/-- What a traversal counts. -/
structure ClosureStats where
  /-- Members whose references were listed. -/
  expanded : Nat
  /-- References that the program listed. -/
  references : Nat
  /-- References without a method around them. -/
  unresolved : Nat
  deriving DecidableEq

/-- A closure and how it was reached. -/
structure Closure where
  set : SymbolSet
  stats : ClosureStats

/-- A step of a traversal in a state of type `σ`. -/
abbrev Traversal (σ α : Type) := ExceptT ClosureError (StateM σ) α

namespace Traversal

variable {σ α β : Type}

/-- The result of a traversal, and the state after it. -/
def ask (t : Traversal σ α) (s : σ) : Except ClosureError α × σ := t.run.run s

/-- A question as a step of a traversal. -/
def ofQuery (q : Query σ α) : Traversal σ α :=
  ExceptT.mk fun s =>
    let r := q.ask s
    (r.1.mapError .index, r.2)

/-- Stop if the state says that the traversal is cancelled. -/
def checkpoint (cancelled : σ → Bool) : Traversal σ Unit :=
  ExceptT.mk fun s => (if cancelled s then .error .cancelled else .ok (), s)

@[simp] theorem ask_pure (a : α) (s : σ) : (pure a : Traversal σ α).ask s = (.ok a, s) := rfl

@[simp] theorem ask_throw (e : ClosureError) (s : σ) :
    (throw e : Traversal σ α).ask s = (.error e, s) := rfl

@[simp] theorem ask_ofQuery (q : Query σ α) (s : σ) :
    (ofQuery q).ask s = ((q.ask s).1.mapError .index, (q.ask s).2) := rfl

@[simp] theorem ask_checkpoint (cancelled : σ → Bool) (s : σ) :
    (checkpoint cancelled).ask s =
      (if cancelled s then .error .cancelled else .ok (), s) := rfl

/-- A step that follows another one sees its result and the state after it; after an error
nothing follows. -/
theorem ask_bind (t : Traversal σ α) (k : α → Traversal σ β) (s : σ) :
    (t >>= k).ask s =
      match t.ask s with
      | (.ok a, u) => (k a).ask u
      | (.error e, u) => (.error e, u) := by
  change (match t.ask s with
    | (r, u) => ExceptT.bindCont k r u) = _
  rcases t.ask s with ⟨_ | _, _⟩ <;> rfl

theorem ask_bind_of_ok {t : Traversal σ α} {k : α → Traversal σ β} {s u : σ} {a : α}
    (h : t.ask s = (.ok a, u)) : (t >>= k).ask s = (k a).ask u := by
  rw [ask_bind, h]

theorem ask_bind_of_error {t : Traversal σ α} {k : α → Traversal σ β} {s u : σ}
    {e : ClosureError} (h : t.ask s = (.error e, u)) : (t >>= k).ask s = (.error e, u) := by
  rw [ask_bind, h]

/-- A result of two steps in a row comes from results of both. -/
theorem exists_of_ask_bind {t : Traversal σ α} {k : α → Traversal σ β} {s v : σ} {b : β}
    (h : (t >>= k).ask s = (.ok b, v)) :
    ∃ a u, t.ask s = (.ok a, u) ∧ (k a).ask u = (.ok b, v) := by
  rw [ask_bind] at h
  rcases ht : t.ask s with ⟨e | a, u⟩
  · rw [ht] at h
    cases h
  · exact ⟨a, u, rfl, by rwa [ht] at h⟩

/-- A question in a traversal has a result when it has an answer. -/
theorem ask_ofQuery_eq_ok {q : Query σ α} {s t : σ} {a : α} :
    (ofQuery q).ask s = (.ok a, t) ↔ q.ask s = (.ok a, t) := by
  rw [ask_ofQuery]
  rcases q.ask s with ⟨_ | _, _⟩ <;> constructor <;> intro h <;> cases h <;> rfl

/-- A question without an error goes on with its answer. -/
theorem ask_bind_ofQuery {q : Query σ α} {k : α → Traversal σ β} {s : σ} {a : α}
    (h : (q.ask s).1 = .ok a) : (ofQuery q >>= k).ask s = (k a).ask (q.ask s).2 :=
  ask_bind_of_ok (by rw [ask_ofQuery, h]; rfl)

end Traversal

/-- A traversal under way: the members that wait for expansion, and what was found so far. -/
structure Frontier where
  queue : List Symbol
  set : SymbolSet
  stats : ClosureStats

namespace Frontier

/-- The start of a traversal. -/
def start (seed : Symbol) : Frontier := ⟨[seed], .singleton seed, ⟨0, 0, 0⟩⟩

/-- The frontier after the references of its first member were listed. -/
def expand (f : Frontier) (rest : List Symbol) (references : Nat) : Frontier :=
  { f with
    queue := rest
    stats := { f.stats with
      expanded := f.stats.expanded + 1
      references := f.stats.references + references } }

/-- The frontier after a reference with the given declaration around it. -/
def visit (f : Frontier) : Option Symbol → Frontier
  | none => { f with stats := { f.stats with unresolved := f.stats.unresolved + 1 } }
  | some container =>
    if !container.isMethodLike then
      { f with stats := { f.stats with unresolved := f.stats.unresolved + 1 } }
    else if f.set.contains container.id then f
    else { f with queue := f.queue ++ [container], set := f.set.insert container }

/-- What a frontier has found, as a closure. -/
def closure (f : Frontier) : Closure := ⟨f.set, f.stats⟩

/-- A visit counts a place without a method around it. Otherwise it is a method that was found
before, or else one that is found now and waits for its expansion. -/
theorem visit_cases (f : Frontier) (container : Option Symbol) :
    (container.any Symbol.isMethodLike = false ∧
        f.visit container =
          { f with stats := { f.stats with unresolved := f.stats.unresolved + 1 } }) ∨
      ∃ c, container = some c ∧ c.isMethodLike = true ∧
        (c.id ∈ f.set.ids ∧ f.visit container = f ∨
          c.id ∉ f.set.ids ∧
            f.visit container =
              { f with queue := f.queue ++ [c], set := f.set.insert c }) := by
  cases container with
  | none => exact .inl ⟨rfl, rfl⟩
  | some c =>
    by_cases hm : c.isMethodLike = true
    · refine .inr ⟨c, rfl, hm, ?_⟩
      by_cases hc : f.set.contains c.id = true
      · exact .inl ⟨SymbolSet.contains_eq_true_iff.1 hc, by simp [visit, hm, hc]⟩
      · exact .inr ⟨mt SymbolSet.contains_eq_true_iff.2 hc, by simp [visit, hm, hc]⟩
    · exact .inl ⟨by simpa using hm, by simp [visit, hm]⟩

end Frontier

namespace Program

variable {σ ν : Type}

/-- Visit the references of the member that is being expanded. -/
def visitAll (p : Program σ ν) (cancelled : σ → Bool) :
    List ReferenceLocation → Frontier → Traversal σ Frontier
  | [], f => pure f
  | location :: rest, f => do
    Traversal.checkpoint cancelled
    let container ← Traversal.ofQuery (p.containingDeclaration location)
    p.visitAll cancelled rest (f.visit container)

/-- Expand members until none waits. -/
def expandAll (p : Program σ ν) (cancelled : σ → Bool) :
    Nat → Frontier → Traversal σ Closure
  | limit, f =>
    match f.queue, limit with
    | [], _ => pure ⟨f.set, f.stats⟩
    | _ :: _, 0 => throw .unfinished
    | current :: rest, limit + 1 => do
      Traversal.checkpoint cancelled
      let references ← Traversal.ofQuery (p.findReferences current)
      let f ← p.visitAll cancelled references (f.expand rest references.length)
      p.expandAll cancelled limit f

/-- The closure of a seed. -/
def buildClosure (p : Program σ ν) (limit : Nat) (cancelled : σ → Bool) (seed : Symbol) :
    Traversal σ Closure :=
  p.expandAll cancelled limit (.start seed)

variable (p : Program σ ν) (cancelled : σ → Bool)

theorem expandAll_of_queue_nil {f : Frontier} (h : f.queue = []) (limit : Nat) :
    p.expandAll cancelled limit f = pure f.closure := by
  unfold expandAll
  split <;> simp_all [Frontier.closure]

theorem expandAll_zero {f : Frontier} {current : Symbol} {rest : List Symbol}
    (h : f.queue = current :: rest) :
    p.expandAll cancelled 0 f = throw .unfinished := by
  unfold expandAll
  split <;> simp_all

theorem expandAll_succ {f : Frontier} {current : Symbol} {rest : List Symbol}
    (h : f.queue = current :: rest) (limit : Nat) :
    p.expandAll cancelled (limit + 1) f = (do
      Traversal.checkpoint cancelled
      let references ← Traversal.ofQuery (p.findReferences current)
      let f ← p.visitAll cancelled references (f.expand rest references.length)
      p.expandAll cancelled limit f) := by
  rw [expandAll.eq_def]
  split
  simp_all

end Program

end CallerClosure
