import CallerClosure.Server.Capabilities
import CallerClosure.Server.Environment

/-!
# Talking to a language server

Each function sends a message and decodes the answer. A document is named by the text of its
URI, which has to parse and is sent in its normal form.
-/

namespace CallerClosure

/-- A conversation with a server in a world of type `ω`. -/
abbrev Conversation (ω α : Type) := ExceptT ServerError (StateM ω) α

namespace Conversation

variable {ω α β : Type}

/-- The result of a conversation, and the world after it. -/
def hold (c : Conversation ω α) (w : ω) : Except ServerError α × ω := c.run.run w

/-- The conversation with a given effect. -/
def ofFunction (f : ω → Except ServerError α × ω) : Conversation ω α := ExceptT.mk f

@[simp] theorem hold_pure (a : α) (w : ω) :
    (pure a : Conversation ω α).hold w = (.ok a, w) := rfl

@[simp] theorem hold_throw (e : ServerError) (w : ω) :
    (throw e : Conversation ω α).hold w = (.error e, w) := rfl

@[simp] theorem hold_ofFunction (f : ω → Except ServerError α × ω) (w : ω) :
    (ofFunction f).hold w = f w := rfl

/-- What follows in a conversation sees the answers so far and the world after them; after
an error nothing follows. -/
theorem hold_bind (c : Conversation ω α) (k : α → Conversation ω β) (w : ω) :
    (c >>= k).hold w =
      match c.hold w with
      | (.ok a, v) => (k a).hold v
      | (.error e, v) => (.error e, v) := by
  change (match c.hold w with
    | (r, v) => ExceptT.bindCont k r v) = _
  rcases c.hold w with ⟨_ | _, _⟩ <;> rfl

end Conversation

namespace Environment

variable {ω α : Type}

/-- The normal form of a URI. -/
def normalUri (uri : String) : Conversation ω String :=
  match Uri.parse uri with
  | .ok u => pure u.text
  | .error e => throw (.malformedUri e)

/-- Send a request and decode the answer. -/
def ask (env : Environment ω) (request : ServerRequest) (decode : Json.Decoder α) :
    Conversation ω α := do
  let answer ← Conversation.ofFunction (env.request request)
  match decode answer with
  | .ok a => pure a
  | .error e => throw (.undecodable e)

/-- Send a notification. -/
def tell (env : Environment ω) (notice : ServerNotice) : Conversation ω Unit :=
  Conversation.ofFunction (env.notify notice)

/-- Make a remark. -/
def mention (env : Environment ω) (remark : Remark) : Conversation ω Unit :=
  Conversation.ofFunction fun w => (.ok (), env.remark remark w)

/-- Begin: name the workspace, wait for the description of the server and confirm it. -/
def greet (env : Environment ω) (root : String) (options : Option Json) :
    Conversation ω Unit := do
  let uri ← normalUri root
  env.ask (.start uri options) ServerDescription.check
  env.tell .started

/-- Announce a document and its text. -/
def openDocument (env : Environment ω) (uri languageId : String) (text : Text) :
    Conversation ω Unit := do
  let uri ← normalUri uri
  env.tell (.opened uri languageId text)

/-- Ask for the outline of a document. -/
def outline (env : Environment ω) (uri : String) : Conversation ω Outline := do
  let uri ← normalUri uri
  env.mention (.asking uri)
  let answer ← env.ask (.outline uri) (Json.Decoder.optional OutlineAnswer.ofJson)
  env.mention (.answered uri answer.isSome)
  pure (OutlineAnswer.toOutline answer)

/-- Ask where the symbol at a position is used. -/
def references (env : Environment ω) (uri : String) (position : Position)
    (withDeclaration : Bool) : Conversation ω (List Place) := do
  let uri ← normalUri uri
  env.ask (.references uri position withDeclaration) Place.listOfJson

/-- Ask where the symbol at a position is declared. -/
def definition (env : Environment ω) (uri : String) (position : Position) :
    Conversation ω (List Place) := do
  let uri ← normalUri uri
  let answer ← env.ask (.definition uri position) (Json.Decoder.optional PlaceAnswer.ofJson)
  pure (PlaceAnswer.toPlaces answer)

/-- End: ask the server to shut down and, when it has, to exit. -/
def shutdown (env : Environment ω) : Conversation ω Unit := do
  env.ask .shutdown Json.Decoder.nothing
  env.tell .exit

end Environment

end CallerClosure
