import CallerClosure.Proofs.Program.Transcript

/-!
# Runs that are broken off

A run with a transcript can be broken off in two ways: a question fails, or a cancellation that
came during a question is seen at the next checkpoint. Either way the run is the same as before
up to some question, and asks nothing after it.

* `Breakpoint` counts the questions: does a run get so far, and what is left of it;
* `Breakpoint.Cuts` compares a step with the same one broken off, and `Cuts.andThen` puts two
  such steps together;
* `Breakpoint.during` and `Breakpoint.after` are the two ways, `traversedAlike_reaches` and
  `simulated_single` say that they are.
-/

namespace CallerClosure

/-- Where runs are broken off, counted in questions. -/
structure Breakpoint where
  /-- Whether a run that starts after `n` questions and would end after `m` is broken off. -/
  Hits : Nat → Nat → Prop
  /-- How many questions are asked until then. -/
  kept : Nat → Nat
  not_hits_self : ∀ n, ¬ Hits n n
  kept_le : ∀ {n m}, Hits n m → kept n ≤ m
  hits_trans : ∀ {n m l}, Hits n m → m ≤ l → Hits n l
  /-- A run that goes on after another one is broken off where the two as one are. -/
  hits_iff : ∀ {n m l}, n ≤ m → m ≤ l → ¬ Hits n m → (Hits n l ↔ Hits m l)
  kept_eq : ∀ {n m l}, n ≤ m → ¬ Hits n m → Hits m l → kept m = kept n

namespace Breakpoint

/-- Break off in place of the answer to a question. -/
def during (k : Nat) : Breakpoint where
  Hits n m := n < k ∧ k ≤ m
  kept _ := k
  not_hits_self n := by omega
  kept_le h := h.2
  hits_trans := by omega
  hits_iff := by omega
  kept_eq _ _ _ := rfl

/-- Break off before the next question, once a number of them was asked. -/
def after (k : Nat) : Breakpoint where
  Hits n m := max k n < m
  kept n := max k n
  not_hits_self n := by omega
  kept_le := by omega
  hits_trans := by omega
  hits_iff := by omega
  kept_eq := by omega

/-- A step of one question is broken off if this is the question. -/
theorem hits_during_succ {k n : Nat} : (during k).Hits n (n + 1) ↔ n + 1 = k := by
  show n < k ∧ k ≤ n + 1 ↔ n + 1 = k
  omega

/-- A step of one question is broken off if enough questions were asked before. -/
theorem hits_after_succ {k n : Nat} : (after k).Hits n (n + 1) ↔ k ≤ n := by
  show max k n < n + 1 ↔ k ≤ n
  omega

variable {σ ν α β ε : Type}

/-- Two runs from one transcript: the second is the first one, broken off with an error. -/
structure CutsFrom (b : Breakpoint) (e : ε) (t : Transcript σ ν)
    (run run' : Except ε α × Transcript σ ν) : Prop where
  grows : t.asked <+: run.2.asked
  told : run.2.told = t.told
  same : ¬ b.Hits t.asked.length run.2.asked.length → run' = run
  broken : b.Hits t.asked.length run.2.asked.length →
    ∃ s, run' = (.error e, ⟨s, run.2.asked.take (b.kept t.asked.length), t.told⟩)

/-- From every transcript, the second step is the first one broken off with an error. -/
def Cuts (b : Breakpoint) (e : ε) (f g : Transcript σ ν → Except ε α × Transcript σ ν) : Prop :=
  ∀ t, b.CutsFrom e t (f t) (g t)

variable {b : Breakpoint}

/-- Nothing is broken off where nothing is asked. -/
theorem cuts_of_still (e : ε) (f : Transcript σ ν → Except ε α) :
    b.Cuts e (fun t => (f t, t)) (fun t => (f t, t)) :=
  fun _ => ⟨List.prefix_rfl, rfl, fun _ => rfl, fun hits => absurd hits (b.not_hits_self _)⟩

theorem cuts_checkpoint (e : ClosureError) (cancelled : Transcript σ ν → Bool) :
    b.Cuts e (Traversal.checkpoint cancelled).ask (Traversal.checkpoint cancelled).ask :=
  cuts_of_still e fun t => if cancelled t then .error ClosureError.cancelled else .ok ()

/-- **One step after another is broken off in the one or in the other.** -/
theorem Cuts.andThen {e : ε} {f g : Transcript σ ν → Except ε α × Transcript σ ν}
    {k l : α → Transcript σ ν → Except ε β × Transcript σ ν} (hf : b.Cuts e f g)
    (hk : ∀ a, b.Cuts e (k a) (l a)) : b.Cuts e (andThen f k) (andThen g l) := by
  intro t
  have hfirst := hf t
  rcases hft : f t with ⟨e' | a, u⟩
  · -- the first step ends with an error, so the second one is never made
    rw [hft] at hfirst
    rw [andThen_of_error hft]
    refine ⟨hfirst.grows, hfirst.told, fun hits => andThen_of_error (hfirst.same hits) l,
      fun hits => ?_⟩
    obtain ⟨s, hg⟩ := hfirst.broken hits
    exact ⟨s, andThen_of_error hg l⟩
  · rw [hft] at hfirst
    rw [andThen_of_ok hft]
    have hsecond := hk a u
    have hle := hfirst.grows.length_le
    have hle' := hsecond.grows.length_le
    refine ⟨hfirst.grows.trans hsecond.grows, hsecond.told.trans hfirst.told, fun hits => ?_,
      fun hits => ?_⟩
    · have hgo : ¬ b.Hits t.asked.length u.asked.length := fun h => hits (b.hits_trans h hle')
      rw [andThen_of_ok (hfirst.same hgo)]
      exact hsecond.same fun h => hits ((b.hits_iff hle hle' hgo).2 h)
    · by_cases hstop : b.Hits t.asked.length u.asked.length
      · -- what the second step would have asked is not among the questions that are left
        obtain ⟨s, hg⟩ := hfirst.broken hstop
        obtain ⟨more, hmore⟩ := hsecond.grows
        refine ⟨s, ?_⟩
        rw [andThen_of_error hg, ← hmore, List.take_append_of_le_length (b.kept_le hstop)]
      · have hits' := (b.hits_iff hle hle' hstop).1 hits
        obtain ⟨s, hl⟩ := hsecond.broken hits'
        refine ⟨s, ?_⟩
        rw [andThen_of_ok (hfirst.same hstop), hl, b.kept_eq hle hstop hits', hfirst.told]

/-- What is left of a run in which a question fails. -/
theorem Cuts.during_start {k : Nat} {e : ε}
    {f g : Transcript σ ν → Except ε α × Transcript σ ν} (h : (during k).Cuts e f g) {s t : σ}
    {r : Except ε α} {asked : List (Question ν)}
    (hf : f (.start s) = (r, ⟨t, asked, .empty⟩)) :
    (1 ≤ k → k ≤ asked.length →
      ∃ u, g (.start s) = (.error e, ⟨u, asked.take k, .empty⟩)) ∧
    (asked.length < k → g (.start s) = f (.start s)) := by
  have hcuts := h (.start s)
  rw [hf] at hcuts ⊢
  refine ⟨fun hpos hk => hcuts.broken ⟨hpos, hk⟩, fun hk => hcuts.same fun hits => ?_⟩
  exact absurd hits.2 (Nat.not_le.2 hk)

/-- What is left of a run that is broken off before a question. -/
theorem Cuts.after_start {k : Nat} {e : ε}
    {f g : Transcript σ ν → Except ε α × Transcript σ ν} (h : (after k).Cuts e f g) {s t : σ}
    {r : Except ε α} {asked : List (Question ν)}
    (hf : f (.start s) = (r, ⟨t, asked, .empty⟩)) :
    (k < asked.length → ∃ u, g (.start s) = (.error e, ⟨u, asked.take k, .empty⟩)) ∧
    (asked.length ≤ k → g (.start s) = f (.start s)) := by
  have hcuts := h (.start s)
  rw [hf] at hcuts ⊢
  have hkept : (after k).kept 0 = k := Nat.max_zero k
  have hhits : (after k).Hits 0 asked.length ↔ k < asked.length := by
    show max k 0 < asked.length ↔ k < asked.length
    rw [Nat.max_zero]
  refine ⟨fun hk => ?_, fun hk => hcuts.same fun hits => ?_⟩
  · obtain ⟨u, hg⟩ := hcuts.broken (hhits.2 hk)
    exact ⟨u, hkept ▸ hg⟩
  · exact absurd (hhits.1 hits) (Nat.not_lt.2 hk)

end Breakpoint

namespace Transcript

variable {σ ν α : Type}

/-! ### A question that fails -/

theorem cuts_write (k : Nat) (e : IndexError) (question : Question ν) (q : Query σ α) :
    (Breakpoint.during k).Cuts e (write .none question q).ask
      (write (.single k e) question q).ask := by
  intro t
  have hhits : (Breakpoint.during k).Hits t.asked.length (t.asked ++ [question]).length ↔
      t.asked.length + 1 = k := by
    rw [List.length_append]
    exact Breakpoint.hits_during_succ
  rw [ask_write, ask_write]
  refine ⟨List.prefix_append _ _, rfl, fun hits => ?_, fun hits => ?_⟩
  · rw [Faults.single, if_neg (mt hhits.2 hits)]
    rfl
  · have hk := hhits.1 hits
    -- the question that fails is written down, so nothing is taken away
    have htake : (t.asked ++ [question]).take k = t.asked ++ [question] :=
      List.take_of_length_le (by simp [hk])
    refine ⟨t.inner, ?_⟩
    rw [Faults.single, if_pos hk]
    exact congrArg (fun asked => (Except.error e, (⟨t.inner, asked, t.told⟩ : Transcript σ ν)))
      htake.symm

/-- Comparing what is done with a program with the same when one question fails. -/
def failing (σ ν : Type) (k : Nat) (e : IndexError) :
    Simulation (Transcript σ ν) (Transcript σ ν) where
  query q r := (Breakpoint.during k).Cuts e q.ask r.ask
  traversal t u := (Breakpoint.during k).Cuts (.index e) t.ask u.ask
  query_pure a := Breakpoint.cuts_of_still e fun _ => .ok a
  query_bind hq hk := by
    rw [Query.ask_bind_eq, Query.ask_bind_eq]
    exact hq.andThen hk
  traversal_pure a := Breakpoint.cuts_of_still _ fun _ => .ok a
  traversal_throw e := Breakpoint.cuts_of_still _ fun _ => .error e
  traversal_bind ht hk := by
    rw [Traversal.ask_bind_eq, Traversal.ask_bind_eq]
    exact ht.andThen hk
  traversal_ofQuery hq := by
    intro t
    obtain ⟨hgrows, htold, hsame, hbroken⟩ := hq t
    rw [Traversal.ask_ofQuery, Traversal.ask_ofQuery]
    refine ⟨hgrows, htold, fun hits => by rw [hsame hits], fun hits => ?_⟩
    obtain ⟨s, hr⟩ := hbroken hits
    exact ⟨s, by rw [hr]; rfl⟩

variable (p : Program σ ν)

theorem simulated_single (k : Nat) (e : IndexError) :
    (p.transcribed .none).Simulated (failing σ ν k e) (p.transcribed (.single k e)) where
  coveringNode _ _ := cuts_write k e _ _
  parentNow node := Breakpoint.cuts_of_still e fun t => .ok (p.parent node t.inner)
  referencedSymbol _ := cuts_write k e _ _
  declaredSymbol _ := cuts_write k e _ _
  findReferences _ := cuts_write k e _ _
  containingDeclaration _ := cuts_write k e _ _
  declarationText _ := cuts_write k e _ _

/-! ### A cancellation during a question -/

theorem cuts_checked (k : Nat) (question : Question ν) (q : Query σ α) :
    (Breakpoint.after k).Cuts .cancelled (Traversal.checked never (write .none question q)).ask
      (Traversal.checked (reaches k) (write .none question q)).ask := by
  intro t
  have hhits : (Breakpoint.after k).Hits t.asked.length (t.asked ++ [question]).length ↔
      k ≤ t.asked.length := by
    rw [List.length_append]
    exact Breakpoint.hits_after_succ
  rw [ask_checked_never]
  refine ⟨List.prefix_append _ _, rfl, fun hits => ?_, fun hits => ?_⟩
  · have hgo : (Traversal.checkpoint (reaches k)).ask t = (.ok (), t) := by
      rw [Traversal.ask_checkpoint, reaches, decide_eq_false (mt hhits.2 hits)]
      rfl
    rw [Traversal.checked, Traversal.ask_bind_of_ok hgo, Traversal.ask_ofQuery, ask_write]
    rfl
  · have hk := hhits.1 hits
    have hstop : (Traversal.checkpoint (reaches k)).ask t = (.error .cancelled, t) := by
      rw [Traversal.ask_checkpoint, reaches, decide_eq_true hk]
      rfl
    -- the checkpoint comes before the question, so the question is not asked any more
    have htake : (t.asked ++ [question]).take (max k t.asked.length) = t.asked :=
      List.take_left' (Nat.max_eq_right hk).symm
    refine ⟨t.inner, ?_⟩
    rw [Traversal.checked, Traversal.ask_bind_of_error hstop]
    exact congrArg
      (fun asked => (Except.error ClosureError.cancelled,
        (⟨t.inner, asked, t.told⟩ : Transcript σ ν))) htake.symm

/-- Comparing a traversal with the same one when it is cancelled during a question. -/
def cancelling (σ ν : Type) (k : Nat) : Sequencing (Transcript σ ν) (Transcript σ ν) where
  traversal t u := (Breakpoint.after k).Cuts .cancelled t.ask u.ask
  traversal_pure a := Breakpoint.cuts_of_still _ fun _ => .ok a
  traversal_throw e := Breakpoint.cuts_of_still _ fun _ => .error e
  traversal_bind ht hk := by
    rw [Traversal.ask_bind_eq, Traversal.ask_bind_eq]
    exact ht.andThen hk

theorem traversedAlike_reaches (k : Nat) :
    (p.transcribed .none).TraversedAlike (cancelling σ ν k) never (reaches k)
      (p.transcribed .none) where
  findReferences _ := cuts_checked k _ _
  containingDeclaration _ := cuts_checked k _ _

end Transcript

end CallerClosure
