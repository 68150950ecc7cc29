import CallerClosure.Json.Decode

/-!
# What a server says that it can do

The answer to the first message describes the server. A client does not use the description
but insists that it has the right shape, which `ServerDescription.check` looks at.

* `fits` looks at the fields of a record in the order of their names;
* `choice` is a union, `switch` one of a truth value and a record of options;
* `mapping` is a record that is always an object and may say whether it reports progress.
-/

namespace CallerClosure.ServerDescription

open Json (Decoder)

/-- Look at the fields that a record has, in the order of the list. -/
def fits (fields : List (String × Decoder Unit)) (record : String → Option Json) :
    Except DecodeError Unit :=
  fields.forM fun (name, decode) => do
    let _ ← Decoder.absentable name decode record

/-- A record that has to have some fields. -/
def requires (names : List String) (record : String → Option Json) : Except DecodeError Unit :=
  match names.find? fun name => (record name).isNone with
  | some name => .error (.missingField name)
  | none => .ok ()

/-- A required field does not take `null` for absence. -/
def present (name : String) (decode : Decoder Unit) (record : String → Option Json) :
    Except DecodeError Unit :=
  match record name with
  | some j => decode j
  | none => .ok ()

/-- Anything. -/
def anything : Decoder Unit := fun _ => .ok ()

/-- A truth value. -/
def flag : Decoder Unit := fun j => (Decoder.boolean j).map fun _ => ()

/-- A text. -/
def text : Decoder Unit := fun j => (Decoder.string j).map fun _ => ()

/-- A code. -/
def code : Decoder Unit := fun j => (Decoder.signed32 j).map fun _ => ()

/-- An array. -/
def all (decode : Decoder Unit) : Decoder Unit := fun j =>
  (Decoder.list decode j).map fun _ => ()

/-- One of several shapes, in a union of a name. -/
def choice (union : String) (shapes : List (Decoder Unit)) : Decoder Unit := fun j =>
  if shapes.any fun shape => (shape j).isOk then .ok () else .error (.noVariant union)

/-- A record that is an object or an array of all its fields. The optional fields come in the
order of the record. -/
def record (type : String) (fields : List (String × Decoder Unit)) : Decoder Unit := fun j => do
  let r ← Decoder.fields type (fields.map Prod.fst) j
  fits (fields.mergeSort fun a b => decide (a.1 ≤ b.1)) r

/-- A record that is always an object. Besides its own fields it may say whether it reports
progress. -/
def mapping (type : String) (needed optional : List (String × Decoder Unit)) : Decoder Unit
  | .obj fields => do
    let r := (Json.obj fields).field?
    needed.forM fun (name, decode) => present name decode r
    fits optional r
    requires (needed.map Prod.fst) r
    fits [("workDoneProgress", flag)] r
  | j => .error (.wrongType j.describe s!"struct {type}")

/-- A truth value or options. -/
def switch (union : String) (fields : List (String × Decoder Unit)) : Decoder Unit :=
  choice union [flag, mapping union [] fields]

/-- Which documents something is about. -/
def selector : Decoder Unit :=
  all (record "DocumentFilter" [("language", text), ("scheme", text), ("pattern", text)])

/-- A truth value or the registration of documents. -/
def registered (union : String) (shapes : List (Decoder Unit)) : Decoder Unit :=
  choice union (flag :: shapes ++
    [record "Registration" [("documentSelector", selector), ("id", text)]])

/-- How documents are kept up to date. -/
def documentSync : Decoder Unit :=
  choice "TextDocumentSyncCapability"
    [code,
      record "TextDocumentSyncOptions"
        [("openClose", flag), ("change", code), ("willSave", flag), ("willSaveWaitUntil", flag),
          ("save", choice "TextDocumentSyncSaveOptions"
            [flag, record "SaveOptions" [("includeText", flag)]])]]

/-- Which notebooks something is about. -/
def notebook : Decoder Unit :=
  choice "Notebook"
    [text,
      record "NotebookDocumentFilter"
        [("notebookType", text), ("scheme", text), ("pattern", text)]]

/-- The cells of notebooks. -/
def cells : Decoder Unit :=
  all fun j => do
    let r ← Decoder.fields "NotebookCellSelector" ["language"] j
    let _ ← Decoder.required "language" Decoder.string r

/-- How notebooks are kept up to date. -/
def notebookSync : Decoder Unit := fun j =>
  let byNotebook : Decoder Unit := fun j => do
    let r ← Decoder.fields "NotebookSelector" ["notebook", "cells"] j
    Decoder.required "notebook" notebook r
    let _ ← Decoder.absentable "cells" cells r
  let byCells : Decoder Unit := fun j => do
    let r ← Decoder.fields "NotebookSelector" ["notebook", "cells"] j
    let _ ← Decoder.absentable "notebook" notebook r
    Decoder.required "cells" cells r
  let options : Decoder Unit := fun j => do
    let r ← Decoder.fields "NotebookDocumentSyncOptions" ["notebookSelector", "save"] j
    Decoder.required "notebookSelector"
      (all (choice "NotebookSelector" [byNotebook, byCells])) r
    let _ ← Decoder.absentable "save" flag r
  choice "OneOf" [options] j

/-- How files are named that an operation is about. -/
def filePattern : Decoder Unit := fun j => do
  let r ← Decoder.fields "FileOperationPattern" ["glob", "matches", "options"] j
  let _ ← Decoder.required "glob" Decoder.string r
  let _ ← Decoder.absentable "matches" (fun kind => do
    let name ← Decoder.variantName kind
    if name = "file" ∨ name = "folder" then pure () else throw (.unknownVariant name)) r
  fits [("options", record "FileOperationPatternOptions" [("ignoreCase", flag)])] r

/-- Which files an operation is about. -/
def fileOperation : Decoder Unit := fun j => do
  let r ← Decoder.fields "FileOperationRegistrationOptions" ["filters"] j
  Decoder.required "filters"
    (all fun filter => do
      let r ← Decoder.fields "FileOperationFilter" ["scheme", "pattern"] filter
      let _ ← Decoder.absentable "scheme" text r
      Decoder.required "pattern" filePattern r) r

/-- What a server can do with the workspace. -/
def workspace : Decoder Unit :=
  record "WorkspaceServerCapabilities"
    [("workspaceFolders", record "WorkspaceFoldersServerCapabilities"
        [("supported", flag), ("changeNotifications", choice "OneOf" [flag, text])]),
      ("fileOperations", record "WorkspaceFileOperationsServerCapabilities"
        [("didCreate", fileOperation), ("willCreate", fileOperation),
          ("didRename", fileOperation), ("willRename", fileOperation),
          ("didDelete", fileOperation), ("willDelete", fileOperation)])]

/-- How a server classifies tokens. -/
def tokens : Decoder Unit :=
  let legend : Decoder Unit := fun j => do
    let r ← Decoder.fields "SemanticTokensLegend" ["tokenTypes", "tokenModifiers"] j
    Decoder.required "tokenTypes" (all text) r
    Decoder.required "tokenModifiers" (all text) r
  choice "SemanticTokensServerCapabilities"
    [mapping "SemanticTokensOptions" [("legend", legend)]
      [("range", flag), ("full", choice "SemanticTokensFullOptions"
        [flag, record "SemanticTokensFullOptions" [("delta", flag)]])]]

/-- An empty record of options. -/
def noOptions : Decoder Unit := record "ColorProviderOptions" []

/-- What a server can do, in the order of the record. -/
def capabilities : List (String × Decoder Unit) :=
  [("positionEncoding", text),
    ("textDocumentSync", documentSync),
    ("notebookDocumentSync", notebookSync),
    ("selectionRangeProvider", switch "SelectionRangeProviderCapability" []),
    ("hoverProvider", switch "HoverProviderCapability" []),
    ("completionProvider", mapping "CompletionOptions" []
      [("allCommitCharacters", all text),
        ("completionItem",
          record "CompletionOptionsCompletionItem" [("labelDetailsSupport", flag)]),
        ("resolveProvider", flag), ("triggerCharacters", all text)]),
    ("signatureHelpProvider", mapping "SignatureHelpOptions" []
      [("retriggerCharacters", all text), ("triggerCharacters", all text)]),
    ("definitionProvider", switch "OneOf" []),
    ("typeDefinitionProvider", registered "TypeDefinitionProviderCapability" []),
    ("implementationProvider", registered "ImplementationProviderCapability" []),
    ("referencesProvider", switch "OneOf" []),
    ("documentHighlightProvider", switch "OneOf" []),
    ("documentSymbolProvider", switch "OneOf" [("label", text)]),
    ("workspaceSymbolProvider", switch "OneOf" [("resolveProvider", flag)]),
    ("codeActionProvider", switch "CodeActionProviderCapability"
      [("codeActionKinds", all text), ("resolveProvider", flag)]),
    ("codeLensProvider", record "CodeLensOptions" [("resolveProvider", flag)]),
    ("documentFormattingProvider", switch "OneOf" []),
    ("documentRangeFormattingProvider", switch "OneOf" []),
    ("documentOnTypeFormattingProvider", fun j => do
      let r ← Decoder.fields "DocumentOnTypeFormattingOptions"
        ["firstTriggerCharacter", "moreTriggerCharacter"] j
      present "firstTriggerCharacter" text r
      fits [("moreTriggerCharacter", all text)] r
      requires ["firstTriggerCharacter"] r),
    ("renameProvider", switch "OneOf" [("prepareProvider", flag)]),
    ("documentLinkProvider", mapping "DocumentLinkOptions" [] [("resolveProvider", flag)]),
    ("colorProvider", registered "ColorProviderCapability" [noOptions]),
    ("foldingRangeProvider", registered "FoldingRangeProviderCapability" [noOptions]),
    ("declarationProvider", switch "DeclarationCapability" []),
    ("executeCommandProvider", mapping "ExecuteCommandOptions" [("commands", all text)] []),
    ("workspace", workspace),
    ("callHierarchyProvider", switch "CallHierarchyServerCapability" []),
    ("semanticTokensProvider", tokens),
    ("monikerProvider", switch "OneOf" []),
    ("linkedEditingRangeProvider", switch "LinkedEditingRangeServerCapabilities" []),
    ("inlineValueProvider", switch "OneOf" []),
    ("inlayHintProvider", switch "OneOf" [("resolveProvider", flag)]),
    ("diagnosticProvider", choice "DiagnosticServerCapabilities"
      [mapping "DiagnosticOptions"
        [("interFileDependencies", flag), ("workspaceDiagnostics", flag)]
        [("identifier", text)]]),
    ("experimental", anything)]

/-- The name and the version of a server. -/
def serverInfo : Decoder Unit := fun j => do
  let r ← Decoder.fields "ServerInfo" ["name", "version"] j
  present "name" text r
  fits [("version", text)] r
  requires ["name"] r

/-- The description of a server. -/
def check : Decoder Unit := fun j => do
  let r ← Decoder.fields "InitializeResult" ["capabilities", "serverInfo"] j
  present "capabilities" (record "ServerCapabilities" capabilities) r
  fits [("serverInfo", serverInfo)] r
  requires ["capabilities"] r

end CallerClosure.ServerDescription
