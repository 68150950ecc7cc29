import CallerClosure.Outline.Codec

/-!
# Messages to a language server

The requests and notifications that the library sends, with the names and parameters that
the language server protocol gives them. Documents are named by their URIs.
-/

namespace CallerClosure

/-- A message that is answered. -/
inductive ServerRequest
  /-- The first message: the workspace and the options of the server. -/
  | start (root : String) (options : Option Json)
  /-- The declarations of a document. -/
  | outline (uri : String)
  /-- Where the symbol at a position is declared. -/
  | definition (uri : String) (position : Position)
  /-- Where the symbol at a position is used. -/
  | references (uri : String) (position : Position) (withDeclaration : Bool)
  | shutdown

/-- A message that is not answered. -/
inductive ServerNotice
  /-- The answer to the first message has arrived. -/
  | started
  /-- A document was opened, and this is its text. -/
  | opened (uri languageId : String) (text : Text)
  | exit

namespace ServerRequest

/-- The method of a request. -/
def method : ServerRequest → String
  | start .. => "initialize"
  | outline _ => "textDocument/documentSymbol"
  | definition .. => "textDocument/definition"
  | references .. => "textDocument/references"
  | shutdown => "shutdown"

/-- A document as a parameter. -/
def documentParam (uri : String) : Json := .obj [("uri", .str uri)]

/-- What the library can do, as it tells the server. -/
def capabilities : Json :=
  .obj [
    ("textDocument", .obj [("documentSymbol",
      .obj [("hierarchicalDocumentSymbolSupport", .bool true)])]),
    ("window", .obj [("workDoneProgress", .bool true)])]

/-- The parameters of a request. -/
def params : ServerRequest → Json
  | start root options =>
    .obj ([("rootUri", .str root), ("capabilities", capabilities),
      ("workspaceFolders", .arr [.obj [("uri", .str root), ("name", .str "root")]])] ++
      options.toList.map fun o => ("initializationOptions", o))
  | outline uri => .obj [("textDocument", documentParam uri)]
  | definition uri position =>
    .obj [("textDocument", documentParam uri), ("position", position.toJson)]
  | references uri position withDeclaration =>
    .obj [("textDocument", documentParam uri), ("position", position.toJson),
      ("context", .obj [("includeDeclaration", .bool withDeclaration)])]
  | shutdown => .null

end ServerRequest

namespace ServerNotice

/-- The method of a notification. -/
def method : ServerNotice → String
  | started => "initialized"
  | opened .. => "textDocument/didOpen"
  | exit => "exit"

/-- The parameters of a notification. -/
def params : ServerNotice → Json
  | started => .obj []
  | opened uri languageId text =>
    .obj [("textDocument", .obj [("uri", .str uri), ("languageId", .str languageId),
      ("version", .nat 1), ("text", .str (String.ofList text))])]
  | exit => .null

end ServerNotice

end CallerClosure
