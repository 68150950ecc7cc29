import CallerClosure.Text.Basic

/-!
# Sinks

A sink receives the result of an extraction: the finished document or the message of a
failure. It works on a state of type `σ`, which it may share with the program.

`Record` is what a sink that keeps everything has received; `Record.sink` is that sink,
which refuses documents if it is given a reason to.
-/

namespace CallerClosure

/-- Why a document was not delivered. -/
inductive SinkError
  /-- Writing failed. -/
  | io (reason : String)
  /-- The sink does not take documents. -/
  | closed (reason : String)
  deriving DecidableEq

/-- The wording of a sink error. -/
def SinkError.message : SinkError → String
  | io reason => s!"I/O error: {reason}"
  | closed reason => s!"sink closed: {reason}"

/-- A receiver of documents and failures. -/
structure Sink (σ : Type) where
  /-- Hand over the finished document. -/
  deliver : Text → σ → Except SinkError Unit × σ
  /-- Report that the extraction failed. -/
  reportFailure : String → σ → σ

/-- The sink seen from a larger state, of which its own state is a part. -/
def Sink.within {σ τ : Type} (get : τ → σ) (put : σ → τ → τ) (sink : Sink σ) : Sink τ where
  deliver text t :=
    let r := sink.deliver text (get t)
    (r.1, put r.2 t)
  reportFailure message t := put (sink.reportFailure message (get t)) t

/-- What a sink has received, in order. -/
structure Record where
  deliveries : List Text
  failures : List String
  deriving DecidableEq

namespace Record

/-- The record of a sink that has received nothing. -/
def empty : Record := ⟨[], []⟩

/-- The sink that keeps what it receives. With a reason to refuse it takes no document. -/
def sink (refusal : Option String) : Sink Record where
  deliver text r :=
    match refusal with
    | some reason => (.error (.closed reason), r)
    | none => (.ok (), { r with deliveries := r.deliveries ++ [text] })
  reportFailure message r := { r with failures := r.failures ++ [message] }

end Record

end CallerClosure
