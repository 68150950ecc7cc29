import CallerClosure.CommandLine.Invocation
import CallerClosure.Text.Lowercase

/-!
# Reading a command line

    [-v] extract FILE --line N --column N [options]
    [-v] callers FILE --line N --column N [options]
    help [COMMAND]

* A long option takes its value after `=` or as the next argument; a short one also takes
  the rest of its argument. Flags may be bundled: `-vox` is `-v -o x`.
* Only `--server-arg` takes a value that starts with a hyphen. After `--` every argument
  stands for itself.
* A value is checked when the next argument has been recognised, so of two faults the
  unknown argument wins.
* No option but `--server-arg` may be given twice.
-/

namespace CallerClosure

/-- Why a command line is not carried out. -/
inductive UsageError
  | displayHelp
  | displayVersion
  | displayHelpOnMissingArgumentOrSubcommand
  | missingSubcommand
  | invalidSubcommand
  | unknownArgument
  | missingRequiredArgument
  /-- A value is missing, or empty where it must not be. -/
  | invalidValue
  /-- A number or an order does not read. -/
  | valueValidation
  /-- An option is given twice. -/
  | argumentConflict
  /-- A flag is given a value. -/
  | tooManyValues
  deriving DecidableEq

namespace UsageError

/-- The name of a kind of error. -/
def name : UsageError → String
  | displayHelp => "DisplayHelp"
  | displayVersion => "DisplayVersion"
  | displayHelpOnMissingArgumentOrSubcommand => "DisplayHelpOnMissingArgumentOrSubcommand"
  | missingSubcommand => "MissingSubcommand"
  | invalidSubcommand => "InvalidSubcommand"
  | unknownArgument => "UnknownArgument"
  | missingRequiredArgument => "MissingRequiredArgument"
  | invalidValue => "InvalidValue"
  | valueValidation => "ValueValidation"
  | argumentConflict => "ArgumentConflict"
  | tooManyValues => "TooManyValues"

/-- The exit code: help and version are no failures when they are asked for. -/
def exitCode : UsageError → Nat
  | displayHelp => 0
  | displayVersion => 0
  | _ => 2

end UsageError

namespace CommandLine

/-- A part of the grammar: the command itself or one of its subcommands. -/
inductive Level
  | top
  | extract
  | callers
  deriving DecidableEq

/-- An option without a value. -/
inductive Flag
  | verbose
  | json
  | help
  | version
  deriving DecidableEq

/-- An argument with a value. The file is the only one without a name. -/
inductive Setting
  | file
  | line
  | column
  | endLine
  | endColumn
  | root
  | server
  | serverArgument
  | indexTimeout
  | order
  | output
  deriving DecidableEq

/-- A value that has been read. -/
inductive Value
  | number (n : Nat)
  | text (s : String)
  | order (o : FragmentOrder)
  deriving DecidableEq

/-- What the name of an option stands for. -/
inductive Named
  | flag (f : Flag)
  | setting (s : Setting)
  deriving DecidableEq

/-- The long options of both subcommands. -/
def sharedOptions : List (String × Named) :=
  [("verbose", .flag .verbose), ("help", .flag .help), ("line", .setting .line),
    ("column", .setting .column), ("end-line", .setting .endLine),
    ("end-column", .setting .endColumn), ("root", .setting .root),
    ("server", .setting .server), ("server-arg", .setting .serverArgument),
    ("index-timeout", .setting .indexTimeout)]

/-- The long options of a level. -/
def longOptions : Level → List (String × Named)
  | .top => [("verbose", .flag .verbose), ("help", .flag .help), ("version", .flag .version)]
  | .extract => sharedOptions ++ [("order", .setting .order), ("output", .setting .output)]
  | .callers => sharedOptions ++ [("json", .flag .json)]

/-- The short options of a level. -/
def shortOptions : Level → List (Char × Named)
  | .top => [('v', .flag .verbose), ('h', .flag .help), ('V', .flag .version)]
  | .extract => [('v', .flag .verbose), ('h', .flag .help), ('o', .setting .output)]
  | .callers => [('v', .flag .verbose), ('h', .flag .help)]

/-- The largest number that a value can spell. -/
def largestNumber : Nat := 18446744073709551615

/-- The number that a value spells: decimal digits, perhaps after a plus sign. -/
def number? (s : String) : Option Nat :=
  let digits := match s.toList with
    | '+' :: rest => rest
    | cs => cs
  if digits.isEmpty || !digits.all Char.isDigit then none
  else
    let n := digits.foldl (fun n c => n * 10 + (c.toNat - 48)) 0
    if n ≤ largestNumber then some n else none

/-- A value in lower case. -/
def lowered (s : String) : String := String.ofList (Text.lowercase s.toList)

/-- The order that a value names, in any case. -/
def order? (s : String) : Option FragmentOrder := FragmentOrder.ofName? (lowered s)

/-- The message about a value that names no order. -/
def orderMessage (s : String) : String := s!"unknown document order '{lowered s}'"

/-- The value of a setting from its text. -/
def readValue (setting : Setting) (s : String) : Except UsageError Value :=
  match setting with
  | .file | .root | .output => if s.isEmpty then .error .invalidValue else .ok (.text s)
  | .server | .serverArgument => .ok (.text s)
  | .order =>
    match order? s with
    | some o => .ok (.order o)
    | none => .error .valueValidation
  | .line | .column | .endLine | .endColumn | .indexTimeout =>
    match number? s with
    | some n => .ok (.number n)
    | none => .error .valueValidation

/-- A setting whose value has not been checked yet. -/
structure Pending where
  setting : Setting
  value : Option String

/-- What has been read of the arguments of a level. -/
structure Progress where
  flags : List Flag
  values : List (Setting × Value)
  pending : Option Pending
  /-- Whether the next argument is the value of the pending setting. -/
  awaiting : Bool
  /-- Whether a file has been given. -/
  filed : Bool
  /-- Whether `--` has been passed. -/
  escaped : Bool

namespace Progress

/-- Nothing read. -/
def start : Progress := ⟨[], [], none, false, false, false⟩

/-- Keep a value of a setting. -/
def store (p : Progress) (setting : Setting) (value : String) : Except UsageError Progress :=
  if setting ≠ .serverArgument ∧ setting ∈ p.values.map (·.1) then .error .argumentConflict
  else do
    let v ← readValue setting value
    pure { p with values := p.values ++ [(setting, v)] }

/-- Check the pending value and keep it. -/
def settle (p : Progress) : Except UsageError Progress :=
  match p.pending with
  | none => .ok p
  | some ⟨_, none⟩ => .error .invalidValue
  | some ⟨setting, some value⟩ =>
    ({ p with pending := none, awaiting := false } : Progress).store setting value

/-- Take a flag. -/
def setFlag (p : Progress) (f : Flag) : Except UsageError Progress := do
  let p ← p.settle
  match f with
  | .help => .error .displayHelp
  | .version => .error .displayVersion
  | _ =>
    if f ∈ p.flags then .error .argumentConflict
    else pure { p with flags := f :: p.flags, awaiting := false }

/-- Take a setting with a value attached to it, or wait for its value. -/
def setSetting (p : Progress) (setting : Setting) (attached : Option String) :
    Except UsageError Progress := do
  let p ← p.settle
  match attached with
  | some value => do
    let p ← p.store setting value
    pure { p with awaiting := false }
  | none => pure { p with pending := some ⟨setting, none⟩, awaiting := true }

/-- Take an option that starts with two hyphens. -/
def long (level : Level) (p : Progress) (name : String) (attached : Option String) :
    Except UsageError Progress :=
  match (longOptions level).find? (·.1 == name), attached with
  | none, _ => .error .unknownArgument
  | some (_, .flag _), some _ => .error .tooManyValues
  | some (_, .flag f), none => p.setFlag f
  | some (_, .setting s), _ => p.setSetting s attached

/-- The value that follows a short option in its own argument. -/
def attachedValue : Text → Option String
  | [] => none
  | '=' :: rest => some (String.ofList rest)
  | rest => some (String.ofList rest)

/-- Take the options of an argument that starts with one hyphen. -/
def short (level : Level) : Progress → Text → Except UsageError Progress
  | p, [] => .ok p
  | p, c :: rest =>
    match (shortOptions level).find? (·.1 == c) with
    | none => .error .unknownArgument
    | some (_, .flag f) => do short level (← p.setFlag f) rest
    | some (_, .setting s) => p.setSetting s (attachedValue rest)

/-- Take an argument that is no option. -/
def positional (level : Level) (p : Progress) (argument : String) :
    Except UsageError Progress :=
  if level = .top then .error .invalidSubcommand
  else if p.filed then .error .unknownArgument
  else do
    let p ← p.settle
    pure { p with pending := some ⟨.file, some argument⟩, awaiting := false, filed := true }

/-- Whether the next argument is taken as a value even if it starts with a hyphen. -/
def takesHyphens (p : Progress) : Bool :=
  p.awaiting && (p.pending.map (·.setting)) == some .serverArgument

/-- Take an argument as the value that is waited for, or else by itself. -/
def plain (level : Level) (p : Progress) (argument : String) : Except UsageError Progress :=
  match p.awaiting, p.pending with
  | true, some pending =>
    .ok { p with pending := some { pending with value := some argument }, awaiting := false }
  | _, _ => p.positional level argument

/-- The name and the attached value of a long option. -/
def splitLong (body : Text) : String × Option String :=
  let name := body.takeWhile (· ≠ '=')
  match body.dropWhile (· ≠ '=') with
  | [] => (String.ofList name, none)
  | _ :: value => (String.ofList name, some (String.ofList value))

/-- Take one argument. -/
def read (level : Level) (p : Progress) (argument : String) : Except UsageError Progress :=
  if p.escaped then p.positional level argument
  else if p.takesHyphens then p.plain level argument
  else
    match argument.toList with
    | ['-', '-'] => .ok { p with escaped := true }
    | '-' :: '-' :: body =>
      let parts := splitLong body
      p.long level parts.1 parts.2
    | '-' :: c :: rest => p.short level (c :: rest)
    | _ => p.plain level argument

/-- Take all arguments. -/
def readAll (level : Level) : Progress → List String → Except UsageError Progress
  | p, [] => p.settle
  | p, a :: rest => do readAll level (← p.read level a) rest

/-- The number that a setting was given. -/
def number (p : Progress) (setting : Setting) : Option Nat :=
  match p.values.find? (·.1 == setting) with
  | some (_, .number n) => some n
  | _ => none

/-- The texts that a setting was given. -/
def texts (p : Progress) (setting : Setting) : List String :=
  p.values.filterMap fun
    | (s, .text t) => if s = setting then some t else none
    | _ => none

/-- The order that was given, or the standard one. -/
def order (p : Progress) : FragmentOrder :=
  match p.values.find? (·.1 == .order) with
  | some (_, .order o) => o
  | _ => .standard

/-- The invocation that the arguments of a subcommand make. -/
def invocation (p : Progress) (task : Task) (verbose : Bool) : Except UsageError Invocation :=
  match (p.texts .file).head?, p.number .line, p.number .column with
  | some file, some line, some column =>
    if (p.number .endLine).isSome && (p.number .endColumn).isNone then
      .error .missingRequiredArgument
    else
      .ok
        { verbose := verbose || p.flags.contains .verbose
          task
          file := ⟨file⟩
          selection := ⟨line, column, p.number .endLine, p.number .endColumn⟩
          server :=
            { root := ⟨(p.texts .root).headD "."⟩
              command := (p.texts .server).head?
              arguments := p.texts .serverArgument
              indexTimeout := (p.number .indexTimeout).getD 30 } }
  | _, _, _ => .error .missingRequiredArgument

end Progress

/-- Read the arguments of `extract`. -/
def parseExtract (verbose : Bool) (arguments : List String) : Except UsageError Invocation := do
  let p ← Progress.start.readAll .extract arguments
  p.invocation (.extract p.order ((p.texts .output).head?.map Path.mk)) verbose

/-- Read the arguments of `callers`. -/
def parseCallers (verbose : Bool) (arguments : List String) : Except UsageError Invocation := do
  let p ← Progress.start.readAll .callers arguments
  p.invocation (.callers (p.flags.contains .json)) verbose

/-- The names of the subcommands. -/
def subcommands : List String := ["extract", "callers", "help"]

/-- What `help` answers: there is help for the command and for its subcommands. -/
def help : List String → UsageError
  | [] => .displayHelp
  | [name] => if name ∈ subcommands then .displayHelp else .invalidSubcommand
  | _ => .invalidSubcommand

/-- Read the arguments up to a subcommand, and then its own. -/
def parseFrom : Progress → List String → Except UsageError Invocation
  | p, [] =>
    if p.flags.isEmpty then .error .displayHelpOnMissingArgumentOrSubcommand
    else .error .missingSubcommand
  | p, a :: rest =>
    if p.escaped then
      .error (if a ∈ subcommands then .unknownArgument else .invalidSubcommand)
    else if a = "extract" then parseExtract (p.flags.contains .verbose) rest
    else if a = "callers" then parseCallers (p.flags.contains .verbose) rest
    else if a = "help" then .error (help rest)
    else do parseFrom (← p.read .top a) rest

/-- The invocation that a command line makes, without the name of the program. -/
def parse (arguments : List String) : Except UsageError Invocation :=
  parseFrom .start arguments

end CommandLine

end CallerClosure
