import CallerClosure.Path
import CallerClosure.Span
import CallerClosure.Text.Basic

/-!
# Log lines

What goes on behind a command is told in log lines. A line has a level, and lines below a
threshold are left out. It names the extraction that it is about, if there is one, and the
part of the program that wrote it.

* `LogEntry` is what is told, `LogScope` the extraction that it is about;
* `LogLine.text` is the line. Names are set off by terminal styles. Characters of the message
  that would control a terminal are spelt out, but newlines are not.
-/

namespace CallerClosure

/-- How much a log line matters. -/
inductive LogLevel
  | debug
  | info
  | warning
  deriving DecidableEq

namespace LogLevel

/-- The name of a level in a line. -/
def name : LogLevel → String
  | debug => "DEBUG"
  | info => "INFO"
  | warning => "WARN"

/-- The name of a level as a threshold. -/
def directive : LogLevel → String
  | debug => "debug"
  | info => "info"
  | warning => "warn"

/-- The lowest level that is shown. -/
def threshold (verbose : Bool) : LogLevel := if verbose then debug else info

/-- The place of a level among the levels. -/
def rank : LogLevel → Nat
  | debug => 0
  | info => 1
  | warning => 2

/-- Whether lines of a level are shown with a threshold. -/
def IsShown (level threshold : LogLevel) : Prop := threshold.rank ≤ level.rank

instance (level threshold : LogLevel) : Decidable (level.IsShown threshold) :=
  inferInstanceAs (Decidable (_ ≤ _))

end LogLevel

/-- Something that is told. -/
structure LogEntry where
  level : LogLevel
  /-- The part of the program that tells it. -/
  origin : String
  message : String

/-- The extraction that something is told about. -/
structure LogScope where
  document : Path
  selection : Span

/-- A line of a log. -/
structure LogLine where
  scope : Option LogScope
  entry : LogEntry

/-- A style of a terminal. -/
inductive LogStyle
  | bold
  | faint
  | italic

/-- The number of a style. -/
def LogStyle.code : LogStyle → Nat
  | bold => 1
  | faint => 2
  | italic => 3

/-- A text in a style. -/
def LogStyle.paint (style : LogStyle) (text : String) : String :=
  s!"\x1b[{style.code}m{text}\x1b[0m"

namespace LogScope

/-- A named value. -/
def field (name value : String) : String :=
  LogStyle.italic.paint name ++ LogStyle.faint.paint "=" ++ value

/-- The extraction, in front of what is told about it. -/
def text (s : LogScope) : String :=
  LogStyle.bold.paint "extract" ++ LogStyle.bold.paint "\x7b" ++
    field "document" s.document.text ++ " " ++ field "selection" s.selection.display ++
    LogStyle.bold.paint "\x7d" ++ LogStyle.faint.paint ":" ++ " "

end LogScope

namespace LogLine

/-- A character of a message. -/
def spelt (c : Char) : Text :=
  let n := c.toNat
  if n = 7 ∨ n = 8 then ['\\', 'x', '0', Char.ofNat (48 + n)]
  else if n = 12 then ['\\', 'x', '0', 'c']
  else if n = 27 then ['\\', 'x', '1', 'b']
  else if n = 127 then ['\\', 'x', '7', 'f']
  else if 128 ≤ n ∧ n ≤ 159 then '\\' :: 'u' :: '\x7b' :: (Nat.toDigits 16 n ++ ['\x7d'])
  else [c]

/-- The message of a line. -/
def message (l : LogLine) : String := String.ofList (l.entry.message.toList.flatMap spelt)

/-- The part of the program in front of a message. -/
def origin (l : LogLine) : String :=
  LogStyle.faint.paint l.entry.origin ++ LogStyle.faint.paint ":" ++ " "

/-- The text of a line. -/
def text (l : LogLine) : String :=
  l.entry.level.name ++ " " ++ (l.scope.map LogScope.text).getD "" ++ l.origin ++ l.message

end LogLine

end CallerClosure
