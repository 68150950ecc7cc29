import CallerClosure.Json.Reader
import CallerClosure.Machine

/-!
# The command line

The command is carried out on a machine in memory. Its server is replayed from tables: the
last `--server-arg` names a JSON file with the tables, and the files of the machine are the
selected file and those that the tables speak of. What the command prints and writes is
brought out in the end.
-/

namespace CallerClosure

/-- The bound on the steps of each walk and traversal, beyond anything that fits in memory. -/
def stepLimit : Nat := 4611686018427387904

/-- The content of a file on disk; nothing if it cannot be read. -/
def diskContent? (path : String) : IO (Option ByteArray) := do
  try
    let content ← IO.FS.readBinFile path
    pure (some content)
  catch _ => pure none

/-- A tree with one more file of the disk, if it is there. -/
def loadFile (t : FileTree) (p : Path) : IO FileTree := do
  match ← diskContent? p.text with
  | none => pure t
  | some content =>
    let steps := FileTree.nameOf p
    pure ((t.makeDirectories [] steps.dropLast).put steps (.file content.toList))

/-- The tables that the last argument of the server names. -/
def loadTables (arguments : List String) : IO ReplayTables := do
  match arguments.getLast? with
  | none => pure .empty
  | some path =>
    match ← diskContent? path with
    | none => pure .empty
    | some content =>
      let json := (Utf8.decode? content.toList).bind fun t => Json.parse? (String.ofList t)
      pure (ReplayTables.ofJson (json.getD .null))

/-- The files that tables speak of. -/
def tableFiles (t : ReplayTables) : List Path :=
  t.outlines.filterMap fun o => ((Uri.parse o.1).toOption).map Uri.filePath

/-- The machine that an invocation is carried out on. -/
def loadMachine (directory : Path) (invocation : Invocation) : IO Machine := do
  let tables ← loadTables invocation.server.arguments
  let root := directory.anchored invocation.server.root
  let start := FileTree.empty.makeDirectories [] (FileTree.nameOf directory)
  let files ← (directory.anchored invocation.file :: tableFiles tables).foldlM loadFile
    (start.makeDirectories [] (FileTree.nameOf root))
  pure
    { files
      workingDirectory := directory
      serverCommand := invocation.server.command.getD ""
      server := .start tables
      output := []
      messages := [] }

/-- Write the document of an extraction to the file that was asked for. -/
def saveOutput (m : Machine) (invocation : Invocation) : IO Unit := do
  match invocation.task with
  | .extract _ (some path) =>
    match m.files.readText m.directory path with
    | .ok text => IO.FS.writeFile path.text (String.ofList text)
    | .error _ => pure ()
  | _ => pure ()

end CallerClosure

/-- Carry out a command line. -/
def main (arguments : List String) : IO UInt32 := do
  match CallerClosure.CommandLine.parse arguments with
  | .error e =>
    IO.eprintln e.name
    pure e.exitCode.toUInt32
  | .ok invocation =>
    let directory : CallerClosure.Path := ⟨toString (← IO.currentDir)⟩
    let m ← CallerClosure.loadMachine directory invocation
    let terminal := CallerClosure.Machine.terminal directory (.threshold invocation.verbose)
    let (result, m) := terminal.run CallerClosure.stepLimit invocation m
    IO.print (String.ofList m.output)
    m.messages.forM fun line => IO.eprintln line
    match result with
    | .error e => IO.eprintln (CallerClosure.failureLine e.message)
    | .ok _ => CallerClosure.saveOutput m invocation
    pure (CallerClosure.CommandResult.exitCode result).toUInt32
