import CallerClosure.CommandLine.Run
import CallerClosure.Files.Tree
import CallerClosure.Server.Replay

/-!
# Machines in memory

A `Machine` holds a file tree, a replayed server and what has been printed. It is a terminal
on which every command can be carried out without touching anything outside.
-/

namespace CallerClosure

/-- Files, a server and a screen. -/
structure Machine where
  files : FileTree
  workingDirectory : Path
  /-- The only command that can be run. -/
  serverCommand : String
  server : Replay
  output : Text
  messages : List String

namespace Machine

/-- The name of the working directory. -/
def directory (m : Machine) : List String := FileTree.nameOf m.workingDirectory

/-- Why a command cannot be run in a directory. A command without a slash is looked for on the
search path, where the only files are those of the directories `.` and `..`. -/
def commandFault (m : Machine) (directory : List String) (command : String) : FileError :=
  let t := command.toList
  if t.contains '/' then
    match m.files.resolve directory ⟨command⟩ with
    | .ok _ => .permissionDenied
    | .error e => e
  else if t = ['.'] ∨ t = ['.', '.'] then .permissionDenied
  else if FileTree.longestName < Text.size t then .nameTooLong
  else .notFound

/-- Why the server of a configuration cannot be started, if it cannot. -/
def launchFault? (m : Machine) (config : ServerConfig) : Option FileError :=
  let texts := config.root.text :: config.command :: config.arguments
  if texts.any fun s => s.toList.contains '\x00' then some .nulInCommand
  else
    match m.files.resolveDirectory m.directory config.root with
    | .error e => some e
    | .ok root =>
      if config.command = m.serverCommand then none
      else some (m.commandFault root config.command)

/-- Write a line of the log, if its level is shown. -/
def log (threshold : LogLevel) (line : LogLine) (m : Machine) : Machine :=
  if line.entry.level.IsShown threshold then { m with messages := m.messages ++ [line.text] }
  else m

/-- Log what was heard from the server. -/
def logHeard (threshold : LogLevel) (m : Machine) : Machine :=
  let quiet := { m with server := { m.server with heard := [] } }
  m.server.heard.foldl (fun m heard => m.log threshold ⟨none, heard.entry⟩) quiet

/-- The machine as a terminal that shows the log from a level on. -/
def terminal (workingDirectory : Path) (threshold : LogLevel) : Terminal Machine where
  workingDirectory := workingDirectory
  canonicalize p m := m.files.canonicalize m.directory p
  readText p m := (m.files.readText m.directory p, m)
  seek p m := ((m.files.readText m.directory p).map fun _ => (), m)
  launch config m :=
    match m.launchFault? config with
    | some e => (.error e, m)
    | none => (.ok (), m)
  request q m :=
    let r := Replay.request q m.server
    (r.1, { m with server := r.2 }.logHeard threshold)
  notify n m :=
    let r := Replay.notify n m.server
    (r.1, { m with server := r.2 })
  writeText p text m :=
    match m.files.write m.directory p text with
    | .error e => (.error e, m)
    | .ok files => (.ok (), { m with files })
  print text m := { m with output := m.output ++ text }
  remark remark m := m.log threshold ⟨none, remark.entry⟩
  report line m := { m with messages := m.messages ++ [line] }
  log line m := m.log threshold line

end Machine

end CallerClosure
