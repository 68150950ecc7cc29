import CallerClosure.Proofs.Extract.Stages
import CallerClosure.Proofs.Program.Interruption

/-!
# Questions that fail

Whatever question of an extraction fails, nothing is asked after it, and the sink is told the
wording of its error and nothing else.

* `Transcript.cuts_prepare` and `Transcript.cuts_collectCallers` compare a run with the same run
  in which one question fails;
* `extract_stops_at_failure` is the main statement.
-/

namespace CallerClosure

variable {σ ν : Type} [DecidableEq ν]

namespace Transcript

variable (p : Program σ ν) (request : Request (Transcript σ ν)) (k : Nat) (e : IndexError)

theorem cuts_prepare :
    (Breakpoint.during k).Cuts (.index e) ((p.transcribed .none).prepare request).ask
      ((p.transcribed (.single k e)).prepare request).ask :=
  (simulated_single p k e).prepare request (Breakpoint.cuts_checkpoint _ _)

theorem cuts_collectCallers :
    (Breakpoint.during k).Cuts (.index e) ((p.transcribed .none).collectCallers request).ask
      ((p.transcribed (.single k e)).collectCallers request).ask :=
  (simulated_single p k e).collectCallers request (Breakpoint.cuts_checkpoint _ _)

end Transcript

/-- **A question that fails ends an extraction.** With a transcript an extraction goes as it
does without one. If the question with a number fails, it is the last one that is asked, and the
sink is told the wording of the error, once, and is handed no document; a number beyond the last
question makes no difference. Collecting callers ends in the same way, with the error itself. -/
theorem extract_stops_at_failure (p : Program σ ν) (sink : Sink σ) (request : Request σ) (s : σ) :
    (∃ asked told,
      p.extractTranscribed .none sink (Transcript.request request) s =
        ((p.extract sink request s).1, ⟨(p.extract sink request s).2, asked, told⟩) ∧
      ∀ k e,
        (1 ≤ k → k ≤ asked.length → ∃ u,
          p.extractTranscribed (.single k e) sink (Transcript.request request) s =
            (.failed e.message,
              ⟨sink.reportFailure e.message u, asked.take k, ⟨[], [e.message]⟩⟩)) ∧
        (asked.length < k →
          p.extractTranscribed (.single k e) sink (Transcript.request request) s =
            p.extractTranscribed .none sink (Transcript.request request) s)) ∧
    ∃ asked,
      ((p.transcribed .none).collectCallers (Transcript.request request)).ask (.start s) =
        (((p.collectCallers request).ask s).1,
          ⟨((p.collectCallers request).ask s).2, asked, .empty⟩) ∧
      ∀ k e,
        (1 ≤ k → k ≤ asked.length → ∃ u,
          ((p.transcribed (.single k e)).collectCallers (Transcript.request request)).ask
            (.start s) = (.error (.index e), ⟨u, asked.take k, .empty⟩)) ∧
        (asked.length < k →
          ((p.transcribed (.single k e)).collectCallers (Transcript.request request)).ask
              (.start s) =
            ((p.transcribed .none).collectCallers (Transcript.request request)).ask
              (.start s)) := by
  constructor
  · obtain ⟨asked, told, hprepare, hextract⟩ :=
      Transcript.exists_extractTranscribed p sink request s
    refine ⟨asked, told, hextract, fun k e => ?_⟩
    obtain ⟨hbroken, hsame⟩ :=
      (Transcript.cuts_prepare p (Transcript.request request) k e).during_start hprepare
    refine ⟨fun hpos hk => ?_, fun hk => Program.extract_congr (hsame hk) _⟩
    obtain ⟨u, hfail⟩ := hbroken hpos hk
    exact ⟨u, Program.extract_of_error hfail _⟩
  · obtain ⟨asked, -, hcollect⟩ := (Transcript.keeps_collectCallers p request).of_start s
    exact ⟨asked, hcollect, fun k e =>
      (Transcript.cuts_collectCallers p (Transcript.request request) k e).during_start hcollect⟩

end CallerClosure
