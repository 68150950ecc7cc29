import CallerClosure.Proofs.Extract.Journal
import CallerClosure.Proofs.Extract.Stages
import CallerClosure.Proofs.Materialize.Fragments
import CallerClosure.Text.Utf8

/-!
# What a sink can rely on

A sink is told the result of an extraction at its very end, and is told one result. With a
journal that the program and the sink keep together this is a property of a list of events.

* `SinkProtocol` is that property, `Exit` lists the five ways in which an extraction ends;
* `extract_sinkProtocol` is the main statement: every extraction keeps to the protocol,
  whatever the program answers, whatever the sink does, and whenever it is cancelled.
-/

namespace CallerClosure

/-- What holds of the outcome of an extraction and of all that was done on the way to it. -/
structure SinkProtocol (outcome : Outcome) (events : List Event) : Prop where
  delivery_once : events.countP Event.isDelivery ≤ 1
  report_once : events.countP Event.isReport ≤ 1
  /-- After the sink was told something, the program is asked nothing. -/
  calls_first : events.Pairwise fun a b => a.isForSink = true → b.isForSink = true
  /-- A failure follows a document only if the document was refused. -/
  refused : ∀ text answer message, .delivery text answer ∈ events → .report message ∈ events →
    (∃ e, answer = .error e) ∧ [.delivery text answer, .report message] <:+ events
  delivered_iff : (∃ d, outcome = .delivered d) ↔ ∃ text, .delivery text (.ok ()) ∈ events
  not_report : ∀ d, outcome = .delivered d → ∀ message, .report message ∉ events
  failed_iff : ∀ message,
    outcome = .failed message ↔ events.filter Event.isReport = [.report message]
  untouched_iff : (outcome = .noSelection ∨ outcome = .noMethod) ↔
    ∀ event ∈ events, event.isForSink = false

/-- The ways in which an extraction ends, with what the sink is told. -/
inductive Exit : Outcome → List Event → Prop
  | noSelection : Exit .noSelection []
  | noMethod : Exit .noMethod []
  | delivered (text : Text) (d : Delivery) : Exit (.delivered d) [.delivery text (.ok ())]
  | refused (text : Text) (e : SinkError) :
    Exit (.failed e.message) [.delivery text (.error e), .report e.message]
  | failed (message : String) : Exit (.failed message) [.report message]

section Calls

variable {outcome : Outcome} {told : List Event} (calls : List Call)

theorem filter_calls_append {kind : Event → Bool} (hk : ∀ call, kind (.call call) = false) :
    (calls.map Event.call ++ told).filter kind = told.filter kind := by
  have hcalls : (calls.map Event.call).filter kind = [] := by
    simp [List.filter_eq_nil_iff, hk]
  rw [List.filter_append, hcalls, List.nil_append]

theorem countP_calls_append {kind : Event → Bool} (hk : ∀ call, kind (.call call) = false) :
    (calls.map Event.call ++ told).countP kind = told.countP kind := by
  rw [List.countP_eq_length_filter, filter_calls_append calls hk, List.countP_eq_length_filter]

theorem mem_calls_append {event : Event} (he : event.isForSink = true) :
    event ∈ calls.map Event.call ++ told ↔ event ∈ told := by
  have hcalls : event ∉ calls.map Event.call := by
    intro hm
    obtain ⟨call, -, rfl⟩ := List.mem_map.1 hm
    cases he
  simp [hcalls]

/-- Calls in front of what the sink is told do no harm. -/
theorem SinkProtocol.calls_append (h : SinkProtocol outcome told) :
    SinkProtocol outcome (calls.map Event.call ++ told) where
  delivery_once := by
    rw [countP_calls_append calls fun _ => rfl]
    exact h.delivery_once
  report_once := by
    rw [countP_calls_append calls fun _ => rfl]
    exact h.report_once
  calls_first := by
    refine List.pairwise_append.2 ⟨?_, h.calls_first, ?_⟩
    · exact List.pairwise_map.2 (List.pairwise_of_forall fun _ _ hcall => by cases hcall)
    · intro a ha b _ hcall
      obtain ⟨call, -, rfl⟩ := List.mem_map.1 ha
      cases hcall
  refused text answer message hd hr := by
    rw [mem_calls_append calls rfl] at hd hr
    obtain ⟨he, hs⟩ := h.refused text answer message hd hr
    exact ⟨he, hs.trans (List.suffix_append _ _)⟩
  delivered_iff := by
    have hmem : ∀ text, Event.delivery text (.ok ()) ∈ calls.map Event.call ++ told ↔
        .delivery text (.ok ()) ∈ told := fun text => mem_calls_append calls rfl
    simp only [hmem]
    exact h.delivered_iff
  not_report d hd message := by
    rw [mem_calls_append calls rfl]
    exact h.not_report d hd message
  failed_iff message := by
    rw [filter_calls_append calls fun _ => rfl]
    exact h.failed_iff message
  untouched_iff := by
    rw [h.untouched_iff]
    refine ⟨fun hu event he => ?_, fun hu event he => hu event (List.mem_append_right _ he)⟩
    rcases List.mem_append.1 he with he | he
    · obtain ⟨call, -, rfl⟩ := List.mem_map.1 he
      rfl
    · exact hu event he

/-- Each way out keeps to the protocol. -/
theorem Exit.sinkProtocol (h : Exit outcome told) : SinkProtocol outcome told := by
  cases h with
  | noSelection => constructor <;> simp [Event.isForSink]
  | noMethod => constructor <;> simp [Event.isForSink]
  | delivered text d => constructor <;> simp [Event.isDelivery, Event.isReport, Event.isForSink]
  | failed message =>
    constructor <;>
      simp [Event.isDelivery, Event.isReport, Event.isForSink, List.filter_cons]
  | refused text e =>
    constructor <;>
      simp [Event.isDelivery, Event.isReport, Event.isForSink, List.filter_cons,
        List.countP_cons]
    rintro _ _ _ rfl rfl rfl
    exact ⟨⟨e, rfl⟩, List.suffix_rfl⟩

end Calls

namespace Journal

variable {σ ν : Type} [DecidableEq ν] (p : Program σ ν) (k : Sink σ) (r : Request σ) (s : σ)

/-- With a journal an extraction goes as without one. The journal has calls first, then one of
the ways out, and what is delivered is what was prepared. -/
theorem exists_exit :
    ∃ calls told,
      (program p).extract (sink k) (request r) ⟨s, []⟩ =
        ((p.extract k r s).1, ⟨(p.extract k r s).2, List.map Event.call calls ++ told⟩) ∧
      Exit (p.extract k r s).1 told ∧
      ∀ d, (p.extract k r s).1 = .delivered d → ∃ text u,
        (p.prepare r).ask s = (.ok (.ready text d), u) ∧ told = [.delivery text (.ok ())] := by
  obtain ⟨calls, hj⟩ := keeps_prepare p r ⟨s, []⟩
  rw [Program.extract, Program.extract, hj]
  rcases (p.prepare r).ask s with ⟨e | prepared, u⟩
  · exact ⟨calls, [.report e.message], by simp [Program.fail, sink], .failed _, by
      intro d hd
      cases hd⟩
  cases prepared with
  | noSelection => exact ⟨calls, [], by simp, .noSelection, by intro d hd; cases hd⟩
  | noMethod => exact ⟨calls, [], by simp, .noMethod, by intro d hd; cases hd⟩
  | ready text delivery =>
    dsimp only [sink]
    rcases hk : k.deliver text u with ⟨e | _, v⟩
    · exact ⟨calls, [.delivery text (.error e), .report e.message],
        by simp [Program.fail], .refused text e, by intro d hd; cases hd⟩
    · refine ⟨calls, [.delivery text (.ok ())], by simp, .delivered text delivery, ?_⟩
      rintro d hd
      cases hd
      exact ⟨text, u, rfl, rfl⟩

end Journal

/-- **Every extraction keeps to the protocol of its sink.** Program and sink may answer and
fail in any way and change the state that they share, and the cancellation may come with any
such change. With a journal the extraction goes as it does without one, and the journal shows
that the sink is told one result, at the very end; that a delivered document has the size of
the closure and the length that it claims; and that an empty selection asks nothing. -/
theorem extract_sinkProtocol {σ ν : Type} [DecidableEq ν] (p : Program σ ν) (sink : Sink σ)
    (request : Request σ) (s : σ) :
    ∃ outcome t events,
      p.extract sink request s = (outcome, t) ∧
      (Journal.program p).extract (Journal.sink sink) (Journal.request request) ⟨s, []⟩ =
        (outcome, ⟨t, events⟩) ∧
      SinkProtocol outcome events ∧
      (∀ d, outcome = .delivered d → ∃ text closure u v,
        .delivery text (.ok ()) ∈ events ∧ d.bytes = (Utf8.encode text).length ∧
        (p.findSeed request).ask s = (.ok (.method d.seed), u) ∧
        (p.buildClosure request.limit request.cancelled d.seed).ask u = (.ok closure, v) ∧
        d.symbols = closure.set.size ∧ d.fragments ≤ d.symbols) ∧
      (request.span.isEmpty = true → ∀ call, .call call ∉ events) := by
  obtain ⟨calls, told, hj, hexit, hdelivered⟩ := Journal.exists_exit p sink request s
  refine ⟨_, _, calls.map Event.call ++ told, rfl, hj, hexit.sinkProtocol.calls_append calls,
    fun d hd => ?_, fun he call hcall => ?_⟩
  · obtain ⟨text, t, hp, rfl⟩ := hdelivered d hd
    obtain ⟨u, v, closure, document, hs, hc, hm, rfl, hd'⟩ := Program.prepare_ready hp
    have hlength := Program.length_materializeList hm
    rw [(closure.set.perm_ordered request.order).length_eq] at hlength
    refine ⟨document.text, closure, u, v, by simp, ?_, hs, hc, ?_, ?_⟩
    · rw [hd', Utf8.length_encode]
    · rw [hd']
    · rw [hd', SymbolSet.size]
      exact hlength ▸ Nat.le_add_right _ _
  · have hspan : (Journal.request request).span.isEmpty = true := he
    have hempty := (Journal.program p).extract_of_isEmpty (Journal.sink sink) hspan ⟨s, []⟩
    rw [hempty] at hj
    have hevents := congrArg (fun run => run.2.events) hj
    dsimp only at hevents
    rw [← hevents] at hcall
    cases hcall

end CallerClosure
