import CallerClosure.Extract

/-!
# The stages of an extraction

* `Program.prepare_ready` takes a prepared document apart into the answers of the stages;
* `Program.ask_findSeed` and `Program.ask_prepare` put the stages together again;
* `Program.ask_prepare_of_error` and `Program.ask_prepare_of_cancelled` say what is left of
  them when there is no closure.
-/

namespace CallerClosure

namespace Program

variable {σ ν : Type} [DecidableEq ν]

/-- A document that is ready went through all stages. -/
theorem prepare_ready {p : Program σ ν} {request : Request σ} {s t : σ} {text : Text}
    {d : Delivery} (h : (p.prepare request).ask s = (.ok (.ready text d), t)) :
    ∃ u v closure document,
      (p.findSeed request).ask s = (.ok (.method d.seed), u) ∧
      (p.buildClosure request.limit request.cancelled d.seed).ask u = (.ok closure, v) ∧
      (p.materialize closure.set request.order).ask v = (.ok document, t) ∧
      text = document.text ∧
      d = ⟨d.seed, closure.set.size, document.fragments, document.text.size⟩ := by
  obtain ⟨seed, u, hs, hseed⟩ := Traversal.exists_of_ask_bind h
  cases seed with
  | noSelection => cases hseed
  | noMethod => cases hseed
  | method seed =>
    obtain ⟨closure, v, hc, hclosure⟩ := Traversal.exists_of_ask_bind hseed
    obtain ⟨_, w, hw, hready⟩ := Traversal.exists_of_ask_bind hclosure
    obtain ⟨document, x, hm, hd⟩ := Traversal.exists_of_ask_bind hready
    rw [Traversal.ask_checkpoint] at hw
    obtain rfl : v = w := (Prod.mk.inj hw).2
    rw [Traversal.ask_pure] at hd
    obtain ⟨he, rfl⟩ := Prod.mk.inj hd
    obtain ⟨rfl, rfl⟩ := Prepared.ready.inj (Except.ok.inj he)
    exact ⟨u, v, closure, document, Traversal.ask_ofQuery_eq_ok.1 hs, hc,
      Traversal.ask_ofQuery_eq_ok.1 hm, rfl, rfl⟩

/-- An empty selection is not even looked at. -/
theorem extract_of_isEmpty (p : Program σ ν) (sink : Sink σ) {request : Request σ}
    (he : request.span.isEmpty = true) (s : σ) :
    p.extract sink request s = (.noSelection, s) := by
  have hp : (p.prepare request).ask s = (.ok .noSelection, s) := by
    rw [prepare, findSeed, if_pos he]
    rfl
  rw [extract, hp]

/-- What a selection is about, when there is a node around it. -/
theorem ask_findSeed {p : Program σ ν} {request : Request σ} {s t u : σ} {node : ν}
    {found : Option Symbol} (hspan : request.span.isEmpty = false)
    (hnode : (p.coveringNode request.document request.span).ask s = (.ok (some node), t))
    (hfound : (p.resolveMethod request.limit request.document request.span).ask t =
      (.ok found, u)) :
    (p.findSeed request).ask s = (.ok (found.elim .noMethod .method), u) := by
  have hne : ¬ request.span.isEmpty = true := by simp [hspan]
  rw [findSeed, if_neg hne, Query.ask_bind_of_ok hnode, Query.ask_bind_of_ok hfound]
  cases found with
  | none => rfl
  | some seed => rfl

/-- When all stages go through, a document is ready. -/
theorem ask_prepare {p : Program σ ν} {request : Request σ} {s t u v : σ} {seed : Symbol}
    {closure : Closure} {document : Materialized}
    (hseed : (p.findSeed request).ask s = (.ok (.method seed), t))
    (hclosure : (p.buildClosure request.limit request.cancelled seed).ask t = (.ok closure, u))
    (hcancelled : request.cancelled u = false)
    (hdocument : (p.materialize closure.set request.order).ask u = (.ok document, v)) :
    (p.prepare request).ask s =
      (.ok (.ready document.text
        ⟨seed, closure.set.size, document.fragments, document.text.size⟩), v) := by
  have hgo : (Traversal.checkpoint request.cancelled).ask u = (.ok (), u) := by
    rw [Traversal.ask_checkpoint, hcancelled]
    rfl
  rw [prepare, Traversal.ask_bind_of_ok (Traversal.ask_ofQuery_eq_ok.2 hseed)]
  dsimp only
  rw [Traversal.ask_bind_of_ok hclosure, Traversal.ask_bind_of_ok hgo,
    Traversal.ask_bind_of_ok (Traversal.ask_ofQuery_eq_ok.2 hdocument)]
  rfl

/-- Without a closure nothing is written. -/
theorem ask_prepare_of_error {p : Program σ ν} {request : Request σ} {s t u : σ}
    {seed : Symbol} {e : ClosureError}
    (hseed : (p.findSeed request).ask s = (.ok (.method seed), t))
    (hclosure : (p.buildClosure request.limit request.cancelled seed).ask t = (.error e, u)) :
    (p.prepare request).ask s = (.error e, u) := by
  rw [prepare, Traversal.ask_bind_of_ok (Traversal.ask_ofQuery_eq_ok.2 hseed)]
  exact Traversal.ask_bind_of_error hclosure

/-- A cancellation that comes with the end of the closure is still seen. -/
theorem ask_prepare_of_cancelled {p : Program σ ν} {request : Request σ} {s t u : σ}
    {seed : Symbol} {closure : Closure}
    (hseed : (p.findSeed request).ask s = (.ok (.method seed), t))
    (hclosure : (p.buildClosure request.limit request.cancelled seed).ask t = (.ok closure, u))
    (hcancelled : request.cancelled u = true) :
    (p.prepare request).ask s = (.error .cancelled, u) := by
  have hstop : (Traversal.checkpoint request.cancelled).ask u = (.error .cancelled, u) := by
    rw [Traversal.ask_checkpoint, hcancelled]
    rfl
  rw [prepare, Traversal.ask_bind_of_ok (Traversal.ask_ofQuery_eq_ok.2 hseed)]
  dsimp only
  rw [Traversal.ask_bind_of_ok hclosure]
  exact Traversal.ask_bind_of_error hstop

/-- Without a document the sink is told why. -/
theorem extract_of_error {p : Program σ ν} {request : Request σ} {s t : σ} {e : ClosureError}
    (h : (p.prepare request).ask s = (.error e, t)) (sink : Sink σ) :
    p.extract sink request s = (.failed e.message, sink.reportFailure e.message t) := by
  rw [extract, h]
  rfl

/-- What is extracted depends on what is prepared, and on nothing else. -/
theorem extract_congr {p q : Program σ ν} {r r' : Request σ} {s : σ}
    (h : (p.prepare r).ask s = (q.prepare r').ask s) (sink : Sink σ) :
    p.extract sink r s = q.extract sink r' s := by
  rw [extract, extract, h]

/-- What was delivered was ready before. -/
theorem exists_of_extract_delivered {p : Program σ ν} {sink : Sink σ} {request : Request σ}
    {s t : σ} {d : Delivery} (h : p.extract sink request s = (.delivered d, t)) :
    ∃ text u, (p.prepare request).ask s = (.ok (.ready text d), u) ∧
      sink.deliver text u = (.ok (), t) := by
  rw [extract] at h
  rcases hprepared : (p.prepare request).ask s with ⟨e | prepared, u⟩
  · rw [hprepared] at h
    cases h
  rw [hprepared] at h
  cases prepared with
  | noSelection => cases h
  | noMethod => cases h
  | ready text delivery =>
    dsimp only at h
    rcases hdeliver : sink.deliver text u with ⟨e | _, v⟩
    · rw [hdeliver] at h
      cases h
    · rw [hdeliver] at h
      cases h
      exact ⟨text, u, rfl, hdeliver⟩

/-- A document that is ready is delivered, if the sink takes it. -/
theorem extract_of_ready {p : Program σ ν} {sink : Sink σ} {request : Request σ} {s t : σ}
    {text : Text} {d : Delivery}
    (hready : (p.prepare request).ask s = (.ok (.ready text d), t))
    (haccepts : (sink.deliver text t).1 = .ok ()) :
    p.extract sink request s = (.delivered d, (sink.deliver text t).2) := by
  rw [extract, hready]
  dsimp only
  split
  · rename_i u hdeliver
    rw [hdeliver]
  · rename_i e u hdeliver
    rw [hdeliver] at haccepts
    cases haccepts

end Program

end CallerClosure
