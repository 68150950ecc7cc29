import CallerClosure.Json.Carried
import CallerClosure.Server.Environment
import CallerClosure.Server.Incoming

/-!
# Replayed servers

A replayed server answers from tables and keeps a log of what it was sent. Its tables can
also make it answer with errors, send messages of its own before an answer, or stop.

Requests are numbered from zero. The answer to a request is the first message with its number,
whether it comes from the tables or is one of the messages before it. Everything is sent in
writing, and the log is kept in writing.
-/

namespace CallerClosure

/-- An answer to a question about a stretch of a line. -/
structure ReplayEntry where
  /-- The document; without one the entry is about nothing, as without a line or a last column. -/
  uri : Option String
  line : Option Nat
  /-- The first column; without one the stretch starts with the line. -/
  first : Option Nat
  last : Option Nat
  result : Json

/-- A message that the server sends before an answer. -/
structure ReplayNotice where
  /-- The method of the request that is about to be answered. -/
  before : String
  message : Json

/-- The tables of a replayed server. -/
structure ReplayTables where
  outlines : List (String × Json)
  definitions : List ReplayEntry
  references : List ReplayEntry
  /-- The errors that methods answer with. -/
  errors : List (String × Json)
  notices : List ReplayNotice
  /-- The method on which the server stops. -/
  stopsOn : Option String

/-- A server that answers from tables. -/
structure Replay where
  tables : ReplayTables
  /-- The methods and parameters of the messages so far. -/
  log : List (String × Json)
  /-- The number of requests so far. -/
  requests : Nat
  running : Bool
  /-- What the client has heard besides answers. -/
  heard : List Heard

namespace ReplayEntry

/-- Whether an entry is about a position. -/
def IsAbout (e : ReplayEntry) (uri : String) (p : Position) : Prop :=
  e.uri = some uri ∧ e.line = some p.line ∧ e.first.getD 0 ≤ p.character ∧
    ∃ last ∈ e.last, p.character ≤ last

instance (e : ReplayEntry) (uri : String) (p : Position) : Decidable (e.IsAbout uri p) :=
  inferInstanceAs (Decidable (_ ∧ _ ∧ _ ∧ _))

end ReplayEntry

namespace ReplayTables

/-- The tables of a server that answers nothing. -/
def empty : ReplayTables := ⟨[], [], [], [], [], none⟩

/-- A JSON value that is a text. -/
def text? : Json → Option String
  | .str s => some s
  | _ => none

/-- A JSON value that is a natural number. -/
def number? : Json → Option Nat
  | .int n => if 0 ≤ n then some n.toNat else none
  | _ => none

/-- The items of a JSON value that is an array. -/
def itemsOf : Json → List Json
  | .arr items => items
  | _ => []

/-- The fields of a JSON value that is an object. -/
def fieldsOf : Json → List (String × Json)
  | .obj fields => fields
  | _ => []

/-- An entry from JSON. -/
def entryOfJson (j : Json) : ReplayEntry :=
  { uri := text? (j.fieldD "uri")
    line := number? (j.fieldD "line")
    first := number? (j.fieldD "from")
    last := number? (j.fieldD "to")
    result := j.fieldD "result" }

/-- A notice from JSON, if it names a method. -/
def notice? (j : Json) : Option ReplayNotice :=
  (text? (j.fieldD "before")).map fun method => ⟨method, j.fieldD "message"⟩

/-- The tables from JSON; what is absent is empty. -/
def ofJson (j : Json) : ReplayTables :=
  { outlines := fieldsOf (j.fieldD "symbols")
    definitions := (itemsOf (j.fieldD "definitions")).map entryOfJson
    references := (itemsOf (j.fieldD "references")).map entryOfJson
    errors := fieldsOf (j.fieldD "errors")
    notices := (itemsOf (j.fieldD "notify")).filterMap notice?
    stopsOn := text? (j.fieldD "die_on") }

/-- The result of the first entry about a position. -/
def find (entries : List ReplayEntry) (uri : String) (p : Position) : Json :=
  match entries.find? fun e => decide (e.IsAbout uri p) with
  | some e => e.result
  | none => .null

/-- The result of a request. -/
def result (t : ReplayTables) : ServerRequest → Json
  | .start .. => .obj [("capabilities", .obj [])]
  | .outline uri => (Json.lastField? uri t.outlines).getD .null
  | .definition uri position => find t.definitions uri position
  | .references uri position _ => find t.references uri position
  | .shutdown => .null

/-- The answer to a request with a number, as it is written. -/
def answer (t : ReplayTables) (number : Nat) (q : ServerRequest) : Json :=
  match Json.lastField? q.method t.errors with
  | some error => .obj [("id", .nat number), ("error", error)]
  | none => .obj [("id", .nat number), ("result", t.result q)]

/-- What is sent when a request with a number is answered. -/
def replies (t : ReplayTables) (number : Nat) (q : ServerRequest) : List Json :=
  (t.notices.filter (·.before == q.method)).map (·.message) ++ [t.answer number q]

end ReplayTables

namespace Replay

/-- A server that has just been started. -/
def start (tables : ReplayTables) : Replay := ⟨tables, [], 0, true, []⟩

/-- Take a message into the log. -/
def note (r : Replay) (method : String) (params : Json) : Replay :=
  { r with log := r.log ++ [(method, params.carried.carried)] }

/-- Whether a message can be read that has these parameters. -/
def canRead (params : Json) : Bool := decide (params.nesting < Json.deepest)

/-- What a client makes of messages. -/
structure Reception where
  /-- The answer to its request. -/
  answer : Option (Except Refusal Json)
  heard : List Heard
  /-- Whether it goes on reading. -/
  goesOn : Bool

/-- What a client makes of messages while it waits for the answer to the request with a number.
It takes the first answer with the number, and reads nothing after a message that makes it give
up. -/
def receive (number : Nat) : List Json → Reception
  | [] => ⟨none, [], true⟩
  | j :: rest =>
    match Incoming.ofJson j.carried with
    | .error _ => ⟨none, [.lost .unreadable], false⟩
    | .ok message =>
      match message.complaint? with
      | some complaint => ⟨none, [.lost complaint], false⟩
      | none =>
        let later := receive number rest
        let heard := message.shown?.toList.map .shown ++ later.heard
        match message with
        | .answer id result =>
          if id = .number number then ⟨some result, heard, later.goesOn⟩
          else ⟨later.answer, heard, later.goesOn⟩
        | _ => ⟨later.answer, heard, later.goesOn⟩

/-- An answer as the client takes it. No answer comes from a server that has stopped. -/
def outcome : Option (Except Refusal Json) → Except ServerError Json
  | none => .error .stopped
  | some (.error refusal) => .error (.refused refusal.message refusal.code)
  | some (.ok result) => .ok result

/-- Answer a request. -/
def request (q : ServerRequest) (r : Replay) : Except ServerError Json × Replay :=
  if !r.running then (.error .stopped, r)
  else if !canRead q.params then (.error .stopped, { r with running := false })
  else
    let noted := { r.note q.method q.params with requests := r.requests + 1 }
    if r.tables.stopsOn = some q.method then (.error .stopped, { noted with running := false })
    else
      let reception := receive r.requests (r.tables.replies r.requests q)
      (outcome reception.answer,
        { noted with
          running := reception.goesOn
          heard := noted.heard ++ reception.heard })

/-- Take a notification. The last one is not logged. -/
def notify (n : ServerNotice) (r : Replay) : Except ServerError Unit × Replay :=
  if !r.running then (.error .stopped, r)
  else
    match n with
    | .exit => (.ok (), { r with running := false })
    | n =>
      let noted := r.note n.method n.params
      (.ok (), { noted with running := r.tables.stopsOn ≠ some n.method })

end Replay

end CallerClosure
