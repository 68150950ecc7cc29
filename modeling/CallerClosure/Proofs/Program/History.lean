import CallerClosure.Proofs.Program.Transcript
import Mathlib.Logic.Relation

/-!
# What questions do to the state of a program

A history is a list of questions that a program was asked, one after the other, whether it
answered them or not.

* `Program.after` is the state after a history;
* `Meets` says of a question that it only takes steps of some relation, and what holds of its
  answer in the state after it. `Meets.andThen` is the rule for one question after another;
* `Program.Moves` says that all questions to a program take such steps. A history then takes
  such steps too.
-/

namespace CallerClosure

open Relation (ReflTransGen)

variable {σ ν α β ε : Type}

/-! ### Histories -/

/-- The state after a question. -/
def Program.next (p : Program σ ν) (s : σ) : Question ν → σ
  | .coveringNode document span => ((p.coveringNode document span).ask s).2
  | .referencedSymbol node => ((p.referencedSymbol node).ask s).2
  | .declaredSymbol node => ((p.declaredSymbol node).ask s).2
  | .findReferences symbol => ((p.findReferences symbol).ask s).2
  | .containingDeclaration location => ((p.containingDeclaration location).ask s).2
  | .declarationText symbol => ((p.declarationText symbol).ask s).2

/-- The state after a history. -/
def Program.after (p : Program σ ν) (s : σ) (history : List (Question ν)) : σ :=
  history.foldl p.next s

/-! ### Steps and answers -/

/-- Begun in a state, something only takes steps of a relation; its result, if it has one, is
as demanded in the state after it. -/
def Meets (step : σ → σ → Prop) (post : α → σ → Prop) (f : σ → Except ε α × σ) (s : σ) : Prop :=
  ReflTransGen step s (f s).2 ∧ ∀ a, (f s).1 = .ok a → post a (f s).2

/-- A demand that every result meets. -/
def anyway : α → σ → Prop := fun _ _ => True

section Meets

variable {step : σ → σ → Prop} {post : α → σ → Prop} {s : σ}

theorem Meets.of_eq {f : σ → Except ε α × σ} {r : Except ε α} {t : σ} (hf : f s = (r, t))
    (hstep : ReflTransGen step s t) (hpost : ∀ a, r = .ok a → post a t) :
    Meets step post f s := by
  rw [Meets, hf]
  exact ⟨hstep, hpost⟩

theorem Meets.congr {f g : σ → Except ε α × σ} (h : f s = g s) (hg : Meets step post g s) :
    Meets step post f s := by
  rwa [Meets, h]

/-- An answer is as demanded, in a state that steps lead to. -/
theorem Meets.answer {f : σ → Except ε α × σ} {a : α} {t : σ} (h : Meets step post f s)
    (hf : f s = (.ok a, t)) : ReflTransGen step s t ∧ post a t := by
  rw [Meets, hf] at h
  exact ⟨h.1, h.2 a rfl⟩

/-- One after the other: the second one may count on what the first one came to. -/
theorem Meets.andThen {m : β → σ → Prop} {f : σ → Except ε β × σ}
    {k : β → σ → Except ε α × σ} (hf : Meets step m f s)
    (hk : ∀ b t, ReflTransGen step s t → m b t → Meets step post (k b) t) :
    Meets step post (andThen f k) s := by
  obtain ⟨hstep, hmid⟩ := hf
  rcases hft : f s with ⟨e | b, t⟩ <;> rw [hft] at hstep hmid
  · exact .of_eq (andThen_of_error hft k) hstep (by rintro _ ⟨⟩)
  · obtain ⟨hrest, hpost⟩ := hk b t hstep (hmid b rfl)
    rw [Meets, andThen_of_ok hft k]
    exact ⟨hstep.trans hrest, hpost⟩

namespace Query

theorem meets_pure {a : α} (h : post a s) : Meets step post (pure a : Query σ α).ask s :=
  .of_eq (ask_pure a s) .refl (by rintro _ ⟨⟩; exact h)

theorem meets_throw (e : IndexError) : Meets step post (throw e : Query σ α).ask s :=
  .of_eq (ask_throw e s) .refl (by rintro _ ⟨⟩)

theorem meets_bind {m : β → σ → Prop} {q : Query σ β} {k : β → Query σ α}
    (hq : Meets step m q.ask s)
    (hk : ∀ b t, ReflTransGen step s t → m b t → Meets step post (k b).ask t) :
    Meets step post (q >>= k).ask s := by
  rw [ask_bind_eq]
  exact hq.andThen hk

end Query

namespace Traversal

theorem meets_pure {a : α} (h : post a s) : Meets step post (pure a : Traversal σ α).ask s :=
  .of_eq (ask_pure a s) .refl (by rintro _ ⟨⟩; exact h)

theorem meets_throw (e : ClosureError) : Meets step post (throw e : Traversal σ α).ask s :=
  .of_eq (ask_throw e s) .refl (by rintro _ ⟨⟩)

theorem meets_bind {m : β → σ → Prop} {t : Traversal σ β} {k : β → Traversal σ α}
    (ht : Meets step m t.ask s)
    (hk : ∀ b u, ReflTransGen step s u → m b u → Meets step post (k b).ask u) :
    Meets step post (t >>= k).ask s := by
  rw [ask_bind_eq]
  exact ht.andThen hk

theorem meets_ofQuery {q : Query σ α} (h : Meets step post q.ask s) :
    Meets step post (ofQuery q).ask s := by
  refine ⟨h.1, fun a ha => ?_⟩
  have hok : (ofQuery q).ask s = (.ok a, ((ofQuery q).ask s).2) := Prod.ext ha rfl
  rw [ask_ofQuery_eq_ok] at hok
  exact h.2 a (by rw [hok])

theorem meets_checkpoint (cancelled : σ → Bool) :
    Meets step anyway (checkpoint cancelled).ask s :=
  .of_eq (ask_checkpoint cancelled s) .refl fun _ _ => trivial

end Traversal

end Meets

/-! ### All questions to a program -/

variable {step : σ → σ → Prop}

/-- Every question to a program takes steps of a relation. -/
structure Program.Moves (p : Program σ ν) (step : σ → σ → Prop) : Prop where
  coveringNode : ∀ document span s,
    ReflTransGen step s ((p.coveringNode document span).ask s).2
  referencedSymbol : ∀ node s, ReflTransGen step s ((p.referencedSymbol node).ask s).2
  declaredSymbol : ∀ node s, ReflTransGen step s ((p.declaredSymbol node).ask s).2
  findReferences : ∀ symbol s, ReflTransGen step s ((p.findReferences symbol).ask s).2
  containingDeclaration : ∀ location s,
    ReflTransGen step s ((p.containingDeclaration location).ask s).2
  declarationText : ∀ symbol s, ReflTransGen step s ((p.declarationText symbol).ask s).2

namespace Program.Moves

variable {p : Program σ ν} (h : p.Moves step)

include h

theorem next (s : σ) (question : Question ν) : ReflTransGen step s (p.next s question) := by
  cases question with
  | coveringNode document span => exact h.coveringNode document span s
  | referencedSymbol node => exact h.referencedSymbol node s
  | declaredSymbol node => exact h.declaredSymbol node s
  | findReferences symbol => exact h.findReferences symbol s
  | containingDeclaration location => exact h.containingDeclaration location s
  | declarationText symbol => exact h.declarationText symbol s

theorem after (s : σ) (history : List (Question ν)) :
    ReflTransGen step s (p.after s history) := by
  induction history generalizing s with
  | nil => exact .refl
  | cons question rest ih => exact (h.next s question).trans (ih _)

end Program.Moves

end CallerClosure
