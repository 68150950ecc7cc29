import CallerClosure.Log
import CallerClosure.Server.Answer

/-!
# Messages from a language server

A message is a request, an answer or a notification, tried in that order; the shapes are those
of the protocol that the messages are wrapped in.

* `Incoming.ofJson` tells what a message is;
* `Incoming.complaint?` says why a client gives up on a message. It answers every request, and
  an answer to a question that nobody has asked does not bother it. Of the notifications it
  knows a few about progress, messages and diagnostics, whose parameters have to have the right
  shape, and ignores those whose method starts with `$/`;
* `Heard` is what of all this is worth a log line.
-/

namespace CallerClosure

open Json (Decoder)

/-- What a request and its answer are known by. -/
inductive MessageId
  | number (n : Int)
  | name (text : String)
  deriving DecidableEq

/-- An error that is sent as an answer. -/
structure Refusal where
  code : Int
  message : String

/-- A message from a language server. -/
inductive Incoming
  | request (id : MessageId) (method : String)
  | answer (id : MessageId) (result : Except Refusal Json)
  | notice (method : String) (params : Json)

/-- A message for the user. -/
structure ShownMessage where
  kind : Int
  text : String

/-- The name of the kind of a message. -/
def ShownMessage.kindName (m : ShownMessage) : String :=
  match m.kind with
  | 1 => "Error"
  | 2 => "Warning"
  | 3 => "Info"
  | 4 => "Log"
  | kind => s!"MessageType({kind})"

/-- Why a client gives up on a message. -/
inductive Complaint
  /-- The message or its parameters cannot be read. -/
  | unreadable
  /-- Nothing is known about the method of a notification. -/
  | unhandled (method : String)

/-- The wording of a complaint. -/
def Complaint.message : Complaint → String
  | unreadable => "deserialization failed"
  | unhandled method => s!"routing error: Unhandled notification: {method}"

/-- An identifier from JSON: a number of 32 bits or a text. -/
def MessageId.ofJson : Decoder MessageId
  | .str text => .ok (.name text)
  | j => (Decoder.signed32 j).map .number

/-- A refusal from JSON. -/
def Refusal.ofJson : Decoder Refusal := fun j => do
  let record ← Decoder.fields "ResponseError" ["code", "message", "data"] j
  let code ← Decoder.required "code" Decoder.signed32 record
  let message ← Decoder.required "message" Decoder.string record
  pure ⟨code, message⟩

namespace Incoming

/-! ### What a message is -/

/-- A request from JSON. -/
def requestOfJson (j : Json) : Except DecodeError Incoming := do
  let id ← Decoder.required "id" MessageId.ofJson j.field?
  let method ← Decoder.required "method" Decoder.string j.field?
  pure (.request id method)

/-- An answer from JSON. An error takes precedence over a result, which may be absent. -/
def answerOfJson (j : Json) : Except DecodeError Incoming := do
  let id ← Decoder.required "id" MessageId.ofJson j.field?
  match ← Decoder.absentable "error" Refusal.ofJson j.field? with
  | some refusal => pure (.answer id (.error refusal))
  | none => pure (.answer id (.ok (j.fieldD "result")))

/-- A notification from JSON. -/
def noticeOfJson (j : Json) : Except DecodeError Incoming := do
  let method ← Decoder.required "method" Decoder.string j.field?
  pure (.notice method (j.fieldD "params"))

/-- A message from JSON. -/
def ofJson : Decoder Incoming := fun j =>
  match requestOfJson j with
  | .ok m => .ok m
  | .error _ =>
    match answerOfJson j with
    | .ok m => .ok m
    | .error _ =>
      match noticeOfJson j with
      | .ok m => .ok m
      | .error _ => .error (.noVariant "Message")

/-! ### The parameters of notifications -/

/-- A message for the user. -/
def shownMessage : Decoder ShownMessage := fun j => do
  let record ← Decoder.fields "ShowMessageParams" ["type", "message"] j
  let kind ← Decoder.required "type" Decoder.signed32 record
  let text ← Decoder.required "message" Decoder.string record
  pure ⟨kind, text⟩

/-- A line of a log, and what there is to add to it. -/
def loggedLine : Decoder Unit := fun j => do
  let record ← Decoder.fields "LogTraceParams" ["message", "verbose"] j
  let _ ← Decoder.required "message" Decoder.string record
  let _ ← Decoder.absentable "verbose" Decoder.string record

/-- The stages of work that is reported on. -/
inductive Stage
  | begun
  | reported
  | ended

/-- A stage of work by its name or its place among the stages. -/
def Stage.ofJson : Decoder Stage
  | .str "begin" => .ok .begun
  | .str "report" => .ok .reported
  | .str "end" => .ok .ended
  | .int 0 => .ok .begun
  | .int 1 => .ok .reported
  | .int 2 => .ok .ended
  | j => .error (.wrongType j.describe "variant identifier")

/-- What is said of a stage of work. -/
def stageReport : Stage → Decoder Unit
  | .begun, j => do
    let record ← Decoder.fields "WorkDoneProgressBegin"
      ["title", "cancellable", "message", "percentage"] j
    let _ ← Decoder.required "title" Decoder.string record
    let _ ← Decoder.absentable "cancellable" Decoder.boolean record
    let _ ← Decoder.absentable "message" Decoder.string record
    let _ ← Decoder.absentable "percentage" Decoder.unsigned32 record
  | .reported, j => do
    let record ← Decoder.fields "WorkDoneProgressReport"
      ["cancellable", "message", "percentage"] j
    let _ ← Decoder.absentable "cancellable" Decoder.boolean record
    let _ ← Decoder.absentable "message" Decoder.string record
    let _ ← Decoder.absentable "percentage" Decoder.unsigned32 record
  | .ended, j => do
    let record ← Decoder.fields "WorkDoneProgressEnd" ["message"] j
    let _ ← Decoder.absentable "message" Decoder.string record

/-- How work has gone on. The stage is the field `kind` of an object or the first item of an
array, the report is what else there is. -/
def workDone : Decoder Unit
  | .arr (stage :: report) => do stageReport (← Stage.ofJson stage) (.arr report)
  | .obj fields => do
    let stage ← Decoder.required "kind" Stage.ofJson (Json.obj fields).field?
    stageReport stage (.obj fields)
  | j => .error (.wrongType j.describe "internally tagged enum WorkDoneProgress")

/-- The progress of the work with a token. -/
def progress : Decoder Unit := fun j => do
  let record ← Decoder.fields "ProgressParams" ["token", "value"] j
  let _ ← Decoder.required "token" MessageId.ofJson record
  Decoder.required "value" workDone record

/-- A link to the description of the code of a diagnostic. -/
def codeDescription : Decoder Unit := fun j => do
  let record ← Decoder.fields "CodeDescription" ["href"] j
  let _ ← Decoder.required "href" Uri.ofJson record

/-- A place that has to do with a diagnostic. -/
def relatedPlace : Decoder Unit := fun j => do
  let record ← Decoder.fields "DiagnosticRelatedInformation" ["location", "message"] j
  let _ ← Decoder.required "location" Place.ofJson record
  let _ ← Decoder.required "message" Decoder.string record

/-- A diagnostic. -/
def diagnostic : Decoder Unit := fun j => do
  let record ← Decoder.fields "Diagnostic"
    ["range", "severity", "code", "codeDescription", "source", "message", "relatedInformation",
      "tags", "data"] j
  let _ ← Decoder.required "range" Range.ofJson record
  let _ ← Decoder.absentable "severity" Decoder.signed32 record
  let _ ← Decoder.absentable "code" MessageId.ofJson record
  let _ ← Decoder.absentable "codeDescription" codeDescription record
  let _ ← Decoder.absentable "source" Decoder.string record
  let _ ← Decoder.required "message" Decoder.string record
  let _ ← Decoder.absentable "relatedInformation" (Decoder.list relatedPlace) record
  let _ ← Decoder.absentable "tags" (Decoder.list Decoder.signed32) record

/-- The diagnostics of a document. -/
def diagnostics : Decoder Unit := fun j => do
  let record ← Decoder.fields "PublishDiagnosticsParams" ["uri", "diagnostics", "version"] j
  let _ ← Decoder.required "uri" Uri.ofJson record
  let _ ← Decoder.required "diagnostics" (Decoder.list diagnostic) record
  let _ ← Decoder.absentable "version" Decoder.signed32 record

/-- The notifications that a client knows, with the shapes of their parameters. -/
def known : List (String × Decoder Unit) :=
  let shown : Decoder Unit := fun j => (shownMessage j).map fun _ => ()
  [("$/progress", progress), ("$/logTrace", loggedLine), ("window/showMessage", shown),
    ("window/logMessage", shown), ("textDocument/publishDiagnostics", diagnostics)]

/-- Why a client gives up on a notification, if it does. -/
def noticeComplaint? (method : String) (params : Json) : Option Complaint :=
  match known.find? (·.1 == method) with
  | some (_, decode) => if (decode params).isOk then none else some .unreadable
  | none => if ['$', '/'].isPrefixOf method.toList then none else some (.unhandled method)

/-- Why a client gives up on a message that it has read, if it does. -/
def complaint? : Incoming → Option Complaint
  | .notice method params => noticeComplaint? method params
  | _ => none

/-- What a message shows to the user. -/
def shown? : Incoming → Option ShownMessage
  | .notice "window/showMessage" params => (shownMessage params).toOption
  | _ => none

end Incoming

/-- What a client has heard from a server besides answers. -/
inductive Heard
  /-- A message for the user. -/
  | shown (message : ShownMessage)
  /-- A message that made the client give up. -/
  | lost (complaint : Complaint)

/-- What was heard as a log entry. -/
def Heard.entry : Heard → LogEntry
  | shown message =>
    ⟨.debug, "depclip_core::lsp::state", s!"Server says ({message.kindName}): {message.text}"⟩
  | lost complaint =>
    ⟨.warning, "depclip_core::lsp::client", s!"LSP mainloop error: {complaint.message}"⟩

end CallerClosure
