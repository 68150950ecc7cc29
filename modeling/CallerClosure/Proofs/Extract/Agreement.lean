import CallerClosure.Proofs.Closure.Callers
import CallerClosure.Proofs.Extract.Cancellation

/-!
# Listing callers and extracting them

Two commands start from a selection: one lists the closure of the selected method, the other
writes its document. While nothing is cancelled, the second one goes on exactly where the first
one ends.

* `Program.seed_buildClosure` says that the closure of a seed has that seed;
* `Program.ask_prepare_of_none`, `Program.ask_prepare_of_listing_error` and
  `Program.ask_prepare_of_some` go from each end of a listing to the document that is prepared;
* `Program.Continues` says how an extraction goes on after a listing, and
  `Program.continues_extract` that it does;
* `extract_agrees_collectCallers` is the main statement.
-/

namespace CallerClosure

variable {σ ν : Type}

/-- An error of two steps in a row comes from one of them. -/
theorem Traversal.error_of_ask_bind {α β : Type} {r : Traversal σ α} {k : α → Traversal σ β}
    {s t : σ} {e : ClosureError} (h : (r >>= k).ask s = (.error e, t)) :
    r.ask s = (.error e, t) ∨ ∃ a u, r.ask s = (.ok a, u) ∧ (k a).ask u = (.error e, t) := by
  rw [ask_bind] at h
  rcases hr : r.ask s with ⟨e' | a, u⟩
  · rw [hr] at h
    cases h
    exact .inl rfl
  · exact .inr ⟨a, u, rfl, by rwa [hr] at h⟩

/-! ### The seed of a closure -/

theorem Frontier.seed_visit (f : Frontier) (container : Option Symbol) :
    (f.visit container).set.seed = f.set.seed :=
  (f.extends_visit container).seed

namespace Program

variable {p : Program σ ν} {cancelled : σ → Bool}

theorem seed_visitAll {locations : List ReferenceLocation} {f g : Frontier} {s t : σ}
    (h : (p.visitAll cancelled locations f).ask s = (.ok g, t)) : g.set.seed = f.set.seed := by
  induction locations generalizing f s with
  | nil =>
    rw [visitAll, Traversal.ask_pure] at h
    cases h
    rfl
  | cons location rest ih =>
    obtain ⟨_, u, -, h⟩ := Traversal.exists_of_ask_bind h
    obtain ⟨container, v, -, h⟩ := Traversal.exists_of_ask_bind h
    exact (ih h).trans (f.seed_visit container)

theorem seed_expandAll {limit : Nat} {f : Frontier} {closure : Closure} {s t : σ}
    (h : (p.expandAll cancelled limit f).ask s = (.ok closure, t)) :
    closure.set.seed = f.set.seed := by
  induction limit generalizing f s with
  | zero =>
    cases hq : f.queue with
    | nil =>
      rw [p.expandAll_of_queue_nil cancelled hq, Traversal.ask_pure] at h
      cases h
      rfl
    | cons current rest =>
      rw [p.expandAll_zero cancelled hq, Traversal.ask_throw] at h
      cases h
  | succ limit ih =>
    cases hq : f.queue with
    | nil =>
      rw [p.expandAll_of_queue_nil cancelled hq, Traversal.ask_pure] at h
      cases h
      rfl
    | cons current rest =>
      rw [p.expandAll_succ cancelled hq] at h
      obtain ⟨_, u, -, h⟩ := Traversal.exists_of_ask_bind h
      obtain ⟨references, v, -, h⟩ := Traversal.exists_of_ask_bind h
      obtain ⟨g, w, hg, h⟩ := Traversal.exists_of_ask_bind h
      have hseed := seed_visitAll hg
      exact (ih h).trans hseed

/-- The closure of a seed has that seed. -/
theorem seed_buildClosure {limit : Nat} {seed : Symbol} {closure : Closure} {s t : σ}
    (h : (p.buildClosure limit cancelled seed).ask s = (.ok closure, t)) :
    closure.set.seed = seed :=
  seed_expandAll h

/-! ### From a listing to a document -/

variable [DecidableEq ν] {request : Request σ} {s t u : σ}

/-- A listing that lists nothing has no method to start from. -/
theorem ask_prepare_of_none (h : (p.collectCallers request).ask s = (.ok none, t)) :
    (p.prepare request).ask s = (.ok .noSelection, t) ∨
      (p.prepare request).ask s = (.ok .noMethod, t) := by
  obtain ⟨seed, u, hseed, h⟩ := Traversal.exists_of_ask_bind h
  rw [prepare, Traversal.ask_bind_of_ok hseed]
  cases seed with
  | noSelection => exact .inl (by cases h; rfl)
  | noMethod => exact .inr (by cases h; rfl)
  | method seed =>
    obtain ⟨closure, v, -, h⟩ := Traversal.exists_of_ask_bind h
    cases h

/-- A listing that fails leaves nothing to write. -/
theorem ask_prepare_of_listing_error {e : ClosureError}
    (h : (p.collectCallers request).ask s = (.error e, t)) :
    (p.prepare request).ask s = (.error e, t) := by
  rw [prepare]
  obtain hseed | ⟨seed, u, hseed, h⟩ := Traversal.error_of_ask_bind h
  · exact Traversal.ask_bind_of_error hseed
  rw [Traversal.ask_bind_of_ok hseed]
  cases seed with
  | noSelection => cases h
  | noMethod => cases h
  | method seed =>
    obtain hclosure | ⟨closure, v, -, h⟩ := Traversal.error_of_ask_bind h
    · exact Traversal.ask_bind_of_error hclosure
    · cases h

/-- The closure that is listed is the one whose document is written. -/
theorem ask_prepare_of_some {closure : Closure}
    (h : (p.collectCallers request).ask s = (.ok (some closure), t))
    (hcancelled : request.cancelled t = false) :
    (p.prepare request).ask s =
      (do
        let document ← Traversal.ofQuery (p.materialize closure.set request.order)
        pure (Prepared.ready document.text ⟨closure.set.seed, closure.set.size,
          document.fragments, document.text.size⟩) : Traversal σ Prepared).ask t := by
  obtain ⟨seed, u, hseed, h⟩ := Traversal.exists_of_ask_bind h
  rw [prepare, Traversal.ask_bind_of_ok hseed]
  cases seed with
  | noSelection => cases h
  | noMethod => cases h
  | method seed =>
    obtain ⟨found, v, hclosure, h⟩ := Traversal.exists_of_ask_bind h
    obtain ⟨hfound, rfl⟩ := Prod.mk.inj h
    obtain rfl := Option.some.inj (Except.ok.inj hfound)
    have hgo : (Traversal.checkpoint request.cancelled).ask v = (.ok (), v) := by
      rw [Traversal.ask_checkpoint, hcancelled]
      rfl
    dsimp only
    rw [Traversal.ask_bind_of_ok hclosure, Traversal.ask_bind_of_ok hgo,
      seed_buildClosure hclosure]

/-- With a document for the listed closure, it is ready. -/
theorem ask_prepare_of_document {closure : Closure} {document : Materialized}
    (h : (p.collectCallers request).ask s = (.ok (some closure), t))
    (hcancelled : request.cancelled t = false)
    (hdocument : (p.materialize closure.set request.order).ask t = (.ok document, u)) :
    (p.prepare request).ask s = (.ok (.ready document.text ⟨closure.set.seed, closure.set.size,
      document.fragments, document.text.size⟩), u) := by
  rw [ask_prepare_of_some h hcancelled,
    Traversal.ask_bind_of_ok (Traversal.ask_ofQuery_eq_ok.2 hdocument)]
  rfl

/-- Without a document for the listed closure, there is none to deliver. -/
theorem ask_prepare_of_no_document {closure : Closure} {e : IndexError}
    (h : (p.collectCallers request).ask s = (.ok (some closure), t))
    (hcancelled : request.cancelled t = false)
    (hdocument : (p.materialize closure.set request.order).ask t = (.error e, u)) :
    (p.prepare request).ask s = (.error (.index e), u) := by
  have herror : (Traversal.ofQuery (p.materialize closure.set request.order)).ask t =
      (.error (.index e), u) := by
    rw [Traversal.ask_ofQuery, hdocument]
    rfl
  rw [ask_prepare_of_some h hcancelled, Traversal.ask_bind_of_error herror]

/-! ### The end of an extraction -/

/-- An extraction ends with an outcome in a state, and this is all that the sink is told. -/
def Ends (p : Program σ ν) (sink : Sink σ) (request : Request σ) (s : σ) (outcome : Outcome)
    (t : σ) (told : Record) : Prop :=
  p.extract sink request s = (outcome, t) ∧
    ∃ asked, p.extractTranscribed .none sink (Transcript.request request) s =
      (outcome, ⟨t, asked, told⟩)

variable (sink : Sink σ)

theorem ends_of_noSelection (h : (p.prepare request).ask s = (.ok .noSelection, t)) :
    p.Ends sink request s .noSelection t .empty := by
  obtain ⟨asked, -, hasked⟩ := (Transcript.keeps_prepare p request).of_eq (.start s) h
  exact ⟨by rw [extract, h], asked, by rw [extractTranscribed, extract, hasked]; rfl⟩

theorem ends_of_noMethod (h : (p.prepare request).ask s = (.ok .noMethod, t)) :
    p.Ends sink request s .noMethod t .empty := by
  obtain ⟨asked, -, hasked⟩ := (Transcript.keeps_prepare p request).of_eq (.start s) h
  exact ⟨by rw [extract, h], asked, by rw [extractTranscribed, extract, hasked]; rfl⟩

theorem ends_of_error {e : ClosureError} (h : (p.prepare request).ask s = (.error e, t)) :
    p.Ends sink request s (.failed e.message) (sink.reportFailure e.message t)
      ⟨[], [e.message]⟩ := by
  obtain ⟨asked, -, hasked⟩ := (Transcript.keeps_prepare p request).of_eq (.start s) h
  exact ⟨extract_of_error h sink, asked, extract_of_error hasked _⟩

theorem ends_of_ready {text : Text} {d : Delivery}
    (h : (p.prepare request).ask s = (.ok (.ready text d), t))
    (haccepts : ∀ text s, (sink.deliver text s).1 = .ok ()) :
    p.Ends sink request s (.delivered d) (sink.deliver text t).2 ⟨[text], []⟩ := by
  obtain ⟨asked, -, hasked⟩ := (Transcript.keeps_prepare p request).of_eq (.start s) h
  exact ⟨extract_of_ready h (haccepts text t), asked, extract_of_ready hasked (haccepts text t)⟩

end Program

/-- **Listing callers and extracting them agree.** Nothing is listed exactly when there is no
method to extract from. If the listing fails, the extraction fails with the same message. If it
lists a closure, the document of this closure decides: it is written from the state in which the
listing ended, and the extraction delivers it, and nothing else, or fails as it does. -/
theorem extract_agrees_collectCallers [DecidableEq ν] (p : Program σ ν) (sink : Sink σ)
    (request : Request σ) (hcancelled : ∀ s, request.cancelled s = false)
    (haccepts : ∀ text s, (sink.deliver text s).1 = .ok ()) (s : σ) :
    (((p.collectCallers request).ask s).1 = .ok none ↔
      (p.extract sink request s).1 = .noSelection ∨ (p.extract sink request s).1 = .noMethod) ∧
    (∀ t, (p.collectCallers request).ask s = (.ok none, t) →
      ∃ outcome, p.Ends sink request s outcome t .empty) ∧
    (∀ e t, (p.collectCallers request).ask s = (.error e, t) →
      p.Ends sink request s (.failed e.message) (sink.reportFailure e.message t)
        ⟨[], [e.message]⟩) ∧
    ∀ closure t, (p.collectCallers request).ask s = (.ok (some closure), t) →
      (∀ e u, (p.materialize closure.set request.order).ask t = (.error e, u) →
        p.Ends sink request s (.failed e.message) (sink.reportFailure e.message u)
          ⟨[], [e.message]⟩) ∧
      ∀ document u, (p.materialize closure.set request.order).ask t = (.ok document, u) →
        p.Ends sink request s
          (.delivered ⟨closure.set.seed, closure.set.size, document.fragments,
            document.text.size⟩)
          (sink.deliver document.text u).2 ⟨[document.text], []⟩ := by
  have hnone : ∀ t, (p.collectCallers request).ask s = (.ok none, t) →
      p.Ends sink request s .noSelection t .empty ∨ p.Ends sink request s .noMethod t .empty :=
    fun t h => (Program.ask_prepare_of_none h).imp (Program.ends_of_noSelection sink)
      (Program.ends_of_noMethod sink)
  have herror : ∀ e t, (p.collectCallers request).ask s = (.error e, t) →
      p.Ends sink request s (.failed e.message) (sink.reportFailure e.message t)
        ⟨[], [e.message]⟩ :=
    fun e t h => Program.ends_of_error sink (Program.ask_prepare_of_listing_error h)
  have hfails : ∀ closure t e u, (p.collectCallers request).ask s = (.ok (some closure), t) →
      (p.materialize closure.set request.order).ask t = (.error e, u) →
      p.Ends sink request s (.failed e.message) (sink.reportFailure e.message u)
        ⟨[], [e.message]⟩ :=
    fun closure t e u h hdocument => Program.ends_of_error sink
      (Program.ask_prepare_of_no_document h (hcancelled t) hdocument)
  have hdelivers : ∀ closure t document u,
      (p.collectCallers request).ask s = (.ok (some closure), t) →
      (p.materialize closure.set request.order).ask t = (.ok document, u) →
      p.Ends sink request s
        (.delivered ⟨closure.set.seed, closure.set.size, document.fragments, document.text.size⟩)
        (sink.deliver document.text u).2 ⟨[document.text], []⟩ :=
    fun closure t document u h hdocument => Program.ends_of_ready sink
      (Program.ask_prepare_of_document h (hcancelled t) hdocument) haccepts
  refine ⟨⟨fun h => ?_, fun h => ?_⟩, fun t h => ?_, herror, fun closure t h =>
    ⟨fun e u => hfails closure t e u h, fun document u => hdelivers closure t document u h⟩⟩
  · have hends := hnone _ (Prod.ext h rfl)
    exact hends.imp (fun hends => congrArg Prod.fst hends.1) fun hends => congrArg Prod.fst hends.1
  · rcases hlisting : (p.collectCallers request).ask s with ⟨e | closure, t⟩
    · rw [(herror e t hlisting).1] at h
      rcases h with h | h <;> cases h
    cases closure with
    | none => rfl
    | some closure =>
      rcases hdocument : (p.materialize closure.set request.order).ask t with ⟨e | document, u⟩
      · rw [(hfails closure t e u hlisting hdocument).1] at h
        rcases h with h | h <;> cases h
      · rw [(hdelivers closure t document u hlisting hdocument).1] at h
        rcases h with h | h <;> cases h
  · exact (hnone t h).elim (⟨_, ·⟩) (⟨_, ·⟩)

theorem extract_agrees_collectCallers_usedOnce :
    ∃ closure : Closure, ∃ document : Materialized,
      (TabledProgram.usedOnce.program.collectCallers TabledProgram.usedOnceRequest).ask .empty =
        (.ok (some closure), Record.empty) ∧
      (TabledProgram.usedOnce.program.materialize closure.set .discovery).ask Record.empty =
        (.ok document, .empty) ∧
      closure.set.ids = ["f", "g"] ∧ document.text = "f\n\ng\n\n".toList ∧
      TabledProgram.usedOnce.program.Ends (Record.sink none) TabledProgram.usedOnceRequest .empty
        (.delivered ⟨closure.set.seed, closure.set.size, document.fragments,
          document.text.size⟩)
        ((Record.sink none).deliver document.text .empty).2 ⟨[document.text], []⟩ := by
  have hlisting : (TabledProgram.usedOnce.program.collectCallers
      TabledProgram.usedOnceRequest).ask .empty =
        (.ok (some ⟨⟨⟨"f", "f", .method, [.source ⟨"m"⟩ ⟨0, 1⟩ 0]⟩,
          [⟨"g", "g", .method, [.source ⟨"m"⟩ ⟨2, 5⟩ 2]⟩]⟩, ⟨2, 1, 0⟩⟩), Record.empty) := by
    rfl
  obtain ⟨-, -, -, hextract⟩ := extract_agrees_collectCallers TabledProgram.usedOnce.program
    (Record.sink none) TabledProgram.usedOnceRequest (fun _ => rfl) (fun _ _ => rfl) .empty
  exact ⟨_, _, hlisting, rfl, rfl, rfl, (hextract _ _ hlisting).2 _ _ rfl⟩

end CallerClosure
