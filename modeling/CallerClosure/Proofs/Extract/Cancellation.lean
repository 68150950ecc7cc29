import CallerClosure.Program.Tabled
import CallerClosure.Proofs.Extract.Stages
import CallerClosure.Proofs.Program.Interruption

/-!
# Cancellations

A cancellation comes during a question, or before the first one, and stays. It is looked for
before every question of a traversal and once more after it, so it is seen unless the document
is being written already.

* `Transcript.cuts_buildClosure` compares a traversal with the same one when it is cancelled;
* `exists_stages` takes an extraction that delivers apart into what its stages ask;
* `extract_cancelled_during` is the main statement, for extractions and for traversals alone.
-/

namespace CallerClosure

variable {σ ν : Type}

theorem Transcript.cuts_buildClosure (p : Program σ ν) (k limit : Nat) (seed : Symbol) :
    (Breakpoint.after k).Cuts .cancelled
      ((p.transcribed .none).buildClosure limit never seed).ask
      ((p.transcribed .none).buildClosure limit (reaches k) seed).ask :=
  (traversedAlike_reaches p k).buildClosure limit seed

variable [DecidableEq ν]

/-- The stages of an extraction with a transcript: what each of them asks, and what it ends
with. -/
structure Stages (p : Program σ ν) (request : Request σ) (s : σ) (d : Delivery)
    (resolution traversal texts : List (Question ν)) (closure : Closure)
    (document : Materialized) (t u v : σ) : Prop where
  nodes : ∀ question ∈ resolution, question.topic = .nodes
  references : ∀ question ∈ traversal, question.topic = .references
  documents : ∀ question ∈ texts, question.topic = .texts
  findSeed : ∀ cancelled,
    ((p.transcribed .none).findSeed (request.cancelledBy cancelled)).ask (.start s) =
      (.ok (.method d.seed), ⟨t, resolution, .empty⟩)
  buildClosure :
    ((p.transcribed .none).buildClosure request.limit never d.seed).ask
        ⟨t, resolution, .empty⟩ = (.ok closure, ⟨u, resolution ++ traversal, .empty⟩)
  materialize :
    ((p.transcribed .none).materialize closure.set request.order).ask
        ⟨u, resolution ++ traversal, .empty⟩ =
      (.ok document, ⟨v, resolution ++ traversal ++ texts, .empty⟩)

/-- An extraction that delivers goes through all stages. -/
theorem exists_stages {p : Program σ ν} {sink : Sink σ} {request : Request σ} {s w : σ}
    {d : Delivery} (h : p.extract sink (request.cancelledBy never) s = (.delivered d, w)) :
    ∃ resolution traversal texts closure document t u v,
      Stages p request s d resolution traversal texts closure document t u v ∧
      d = ⟨d.seed, closure.set.size, document.fragments, document.text.size⟩ ∧
      sink.deliver document.text v = (.ok (), w) := by
  obtain ⟨text, v, hprepare, hdeliver⟩ := Program.exists_of_extract_delivered h
  obtain ⟨t, u, closure, document, hseed, hclosure, hdocument, rfl, hd⟩ :=
    Program.prepare_ready hprepare
  obtain ⟨resolution, hnodes, hresolution⟩ :=
    (Transcript.keeps_findSeed p (request.cancelledBy never) never).of_eq (.start s) hseed
  obtain ⟨traversal, hreferences, htraversal⟩ :=
    (Transcript.keeps_buildClosure p never request.limit d.seed).of_eq
      ⟨t, resolution, .empty⟩ hclosure
  obtain ⟨texts, hdocuments, htexts⟩ :=
    (Transcript.keeps_materialize p closure.set request.order).of_eq
      ⟨u, resolution ++ traversal, .empty⟩ hdocument
  exact ⟨resolution, traversal, texts, closure, document, t, u, v,
    ⟨hnodes, hreferences, hdocuments, fun _ => hresolution, htraversal, htexts⟩, hd, hdeliver⟩

namespace Stages

variable {p : Program σ ν} {request : Request σ} {s t u v w : σ} {d : Delivery}
  {resolution traversal texts : List (Question ν)} {closure : Closure} {document : Materialized}
  (h : Stages p request s d resolution traversal texts closure document t u v)

include h

/-- A cancellation that comes while the document is written, or later, or never, is not seen. -/
theorem extract_of_not_seen (hd : d = ⟨d.seed, closure.set.size, document.fragments,
      document.text.size⟩) {sink : Sink σ} (hdeliver : sink.deliver document.text v = (.ok (), w))
    {cancelled : Transcript σ ν → Bool}
    (hclosure : ((p.transcribed .none).buildClosure request.limit cancelled d.seed).ask
        ⟨t, resolution, .empty⟩ = (.ok closure, ⟨u, resolution ++ traversal, .empty⟩))
    (hcancelled : cancelled ⟨u, resolution ++ traversal, .empty⟩ = false) :
    p.extractTranscribed .none sink (request.cancelledBy cancelled) s =
      (.delivered d, ⟨w, resolution ++ traversal ++ texts, ⟨[document.text], []⟩⟩) := by
  have hprepare := Program.ask_prepare (h.findSeed cancelled) hclosure hcancelled h.materialize
  rw [← hd] at hprepare
  have haccepts : ((Transcript.sink (ν := ν) sink).deliver document.text
      ⟨v, resolution ++ traversal ++ texts, .empty⟩) =
        (.ok (), ⟨w, resolution ++ traversal ++ texts, ⟨[document.text], []⟩⟩) := by
    simp only [Transcript.sink, hdeliver]
    rfl
  rw [Program.extractTranscribed, Program.extract_of_ready hprepare (by rw [haccepts]), haccepts]

/-- A cancellation that comes before the end of the closure is seen. -/
theorem extract_of_seen (sink : Sink σ) {k : Nat} (hk : k ≤ (resolution ++ traversal).length) :
    ∃ x, p.extractTranscribed .none sink (request.cancelledBy (Transcript.reaches k)) s =
      (.failed ClosureError.cancelled.message,
        ⟨sink.reportFailure ClosureError.cancelled.message x,
          (resolution ++ traversal).take (max k resolution.length),
          ⟨[], [ClosureError.cancelled.message]⟩⟩) := by
  have hcuts := Transcript.cuts_buildClosure p k request.limit d.seed ⟨t, resolution, .empty⟩
  rw [h.buildClosure] at hcuts
  by_cases hits : max k resolution.length < (resolution ++ traversal).length
  · obtain ⟨x, hbroken⟩ := hcuts.broken hits
    have hprepare := Program.ask_prepare_of_error (h.findSeed (Transcript.reaches k)) hbroken
    exact ⟨x, Program.extract_of_error hprepare _⟩
  · -- the traversal is over, but the cancellation is looked for once more
    have hprepare := Program.ask_prepare_of_cancelled (h.findSeed (Transcript.reaches k))
      (hcuts.same hits) (decide_eq_true hk)
    have htake : (resolution ++ traversal).take (max k resolution.length) =
        resolution ++ traversal := List.take_of_length_le (Nat.not_lt.1 hits)
    rw [htake]
    exact ⟨u, Program.extract_of_error hprepare _⟩

end Stages

/-- **What a cancellation does.** With a transcript an extraction that delivers asks about
nodes, then about references, then about texts. A cancellation that comes during a question
about nodes, or before it, lets the resolution end, and nothing is asked after that; one that
comes during a question about references lets nothing be asked after that question. The sink is
told of it, once, and is handed no document. A cancellation during a question about a text makes
no difference. A traversal alone ends without a result before its next question, and has its
whole result when there is none. -/
theorem extract_cancelled_during (p : Program σ ν) :
    (∀ (sink : Sink σ) (request : Request σ) (s : σ) (d : Delivery) (t : σ),
      p.extract sink (request.cancelledBy never) s = (.delivered d, t) →
      ∃ (resolution traversal texts : List (Question ν)) (text : Text),
        (∀ question ∈ resolution, question.topic = .nodes) ∧
        (∀ question ∈ traversal, question.topic = .references) ∧
        (∀ question ∈ texts, question.topic = .texts) ∧
        p.extractTranscribed .none sink (request.cancelledBy never) s =
          (.delivered d, ⟨t, resolution ++ traversal ++ texts, ⟨[text], []⟩⟩) ∧
        ∀ k,
          (k ≤ resolution.length → ∃ u,
            p.extractTranscribed .none sink (request.cancelledBy (Transcript.reaches k)) s =
              (.failed "closure construction was cancelled",
                ⟨sink.reportFailure "closure construction was cancelled" u, resolution,
                  ⟨[], ["closure construction was cancelled"]⟩⟩)) ∧
          (resolution.length < k → k ≤ (resolution ++ traversal).length → ∃ u,
            p.extractTranscribed .none sink (request.cancelledBy (Transcript.reaches k)) s =
              (.failed "closure construction was cancelled",
                ⟨sink.reportFailure "closure construction was cancelled" u,
                  (resolution ++ traversal).take k,
                  ⟨[], ["closure construction was cancelled"]⟩⟩)) ∧
          ((resolution ++ traversal).length < k →
            p.extractTranscribed .none sink (request.cancelledBy (Transcript.reaches k)) s =
              p.extractTranscribed .none sink (request.cancelledBy never) s)) ∧
    ∀ (limit : Nat) (seed : Symbol) (s : σ),
      ∃ traversal : List (Question ν), (∀ question ∈ traversal, question.topic = .references) ∧
        ((p.transcribed .none).buildClosure limit never seed).ask (.start s) =
          (((p.buildClosure limit never seed).ask s).1,
            ⟨((p.buildClosure limit never seed).ask s).2, traversal, .empty⟩) ∧
        ∀ k,
          (k < traversal.length → ∃ u,
            ((p.transcribed .none).buildClosure limit (Transcript.reaches k) seed).ask (.start s) =
              (.error .cancelled, ⟨u, traversal.take k, .empty⟩)) ∧
          (traversal.length ≤ k →
            ((p.transcribed .none).buildClosure limit (Transcript.reaches k) seed).ask (.start s) =
              ((p.transcribed .none).buildClosure limit never seed).ask (.start s)) := by
  constructor
  · intro sink request s d w h
    obtain ⟨resolution, traversal, texts, closure, document, t, u, v, hstages, hd, hdeliver⟩ :=
      exists_stages h
    have hnever := hstages.extract_of_not_seen hd hdeliver hstages.buildClosure rfl
    refine ⟨resolution, traversal, texts, document.text, hstages.nodes, hstages.references,
      hstages.documents, hnever, fun k => ⟨fun hk => ?_, fun hk hk' => ?_, fun hk => ?_⟩⟩
    · have hle : k ≤ (resolution ++ traversal).length := by
        rw [List.length_append]
        omega
      obtain ⟨x, hseen⟩ := hstages.extract_of_seen sink hle
      rw [Nat.max_eq_right hk, List.take_left] at hseen
      exact ⟨x, hseen⟩
    · obtain ⟨x, hseen⟩ := hstages.extract_of_seen sink hk'
      rw [Nat.max_eq_left (Nat.le_of_lt hk)] at hseen
      exact ⟨x, hseen⟩
    · rw [hnever]
      have hcuts := Transcript.cuts_buildClosure p k request.limit d.seed ⟨t, resolution, .empty⟩
      rw [hstages.buildClosure] at hcuts
      have hgo : ¬ max k resolution.length < (resolution ++ traversal).length := by omega
      exact hstages.extract_of_not_seen hd hdeliver (hcuts.same hgo)
        (decide_eq_false (Nat.not_le.2 hk))
  · intro limit seed s
    obtain ⟨traversal, hreferences, htraversal⟩ :=
      (Transcript.keeps_buildClosure p never limit seed).of_start s
    exact ⟨traversal, hreferences, htraversal, fun k =>
      (Transcript.cuts_buildClosure p k limit seed).after_start htraversal⟩

/-! ### A program in which one method calls another -/

namespace TabledProgram

/-- A method that is used once, in a method that is not used. -/
def usedOnce : TabledProgram where
  symbols := [⟨"f", "f", .method, [.source ⟨"m"⟩ ⟨0, 1⟩ 0]⟩,
    ⟨"g", "g", .method, [.source ⟨"m"⟩ ⟨2, 5⟩ 2]⟩]
  nodes := [⟨none, none, some "f"⟩]
  cover := [(⟨⟨"m"⟩, ⟨0, 1⟩⟩, 0)]
  containers := [(⟨⟨"m"⟩, ⟨3, 4⟩⟩, "g")]
  references := [("f", [⟨⟨"m"⟩, ⟨3, 4⟩⟩])]
  texts := [("f", ['f']), ("g", ['g'])]

/-- The selection of the method that is used. -/
def usedOnceRequest : Request Record := ⟨⟨"m"⟩, ⟨0, 1⟩, .discovery, never, 3⟩

end TabledProgram

theorem extract_cancelled_during_usedOnce :
    TabledProgram.usedOnce.program.extract (Record.sink none)
        (TabledProgram.usedOnceRequest.cancelledBy never) .empty =
      (.delivered ⟨⟨"f", "f", .method, [.source ⟨"m"⟩ ⟨0, 1⟩ 0]⟩, 2, 2, 6⟩,
        ⟨["f\n\ng\n\n".toList], []⟩) ∧
    ∃ resolution u,
      (∀ question ∈ resolution, question.topic = .nodes) ∧
      TabledProgram.usedOnce.program.extractTranscribed .none (Record.sink none)
          (TabledProgram.usedOnceRequest.cancelledBy (Transcript.reaches 0)) .empty =
        (.failed "closure construction was cancelled",
          ⟨(Record.sink none).reportFailure "closure construction was cancelled" u, resolution,
            ⟨[], ["closure construction was cancelled"]⟩⟩) := by
  have hdelivered : TabledProgram.usedOnce.program.extract (Record.sink none)
      (TabledProgram.usedOnceRequest.cancelledBy never) .empty =
        (.delivered ⟨⟨"f", "f", .method, [.source ⟨"m"⟩ ⟨0, 1⟩ 0]⟩, 2, 2, 6⟩,
          ⟨["f\n\ng\n\n".toList], []⟩) := by
    rfl
  obtain ⟨resolution, traversal, texts, text, hnodes, -, -, -, hcancelled⟩ :=
    (extract_cancelled_during TabledProgram.usedOnce.program).1 _ _ _ _ _ hdelivered
  obtain ⟨u, hextract⟩ := (hcancelled 0).1 (Nat.zero_le _)
  exact ⟨hdelivered, resolution, u, hnodes, hextract⟩

/-- A cancellation during the sixth question: the seventh would be who uses the caller. -/
example : TabledProgram.usedOnce.program.extractTranscribed .none (Record.sink none)
      (TabledProgram.usedOnceRequest.cancelledBy (Transcript.reaches 6)) .empty =
    (.failed "closure construction was cancelled",
      ⟨⟨[], ["closure construction was cancelled"]⟩,
        [.coveringNode ⟨"m"⟩ ⟨0, 1⟩, .coveringNode ⟨"m"⟩ ⟨0, 1⟩, .referencedSymbol 0,
          .declaredSymbol 0, .findReferences ⟨"f", "f", .method, [.source ⟨"m"⟩ ⟨0, 1⟩ 0]⟩,
          .containingDeclaration ⟨⟨"m"⟩, ⟨3, 4⟩⟩],
        ⟨[], ["closure construction was cancelled"]⟩⟩) := by
  rfl

end CallerClosure
