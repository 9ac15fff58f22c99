import ComponentCatalog.FileTree
import ComponentCatalog.Log.Fill
import ComponentCatalog.OrderedMap
import ComponentCatalog.Settings
import ComponentCatalog.Text.Capital

namespace ComponentCatalog.Log

inductive Level
  | debug
  | info
  | warning
  | error
  | critical
deriving DecidableEq, Repr

namespace Level

def number : Level → Nat
  | .debug    => 10
  | .info     => 20
  | .warning  => 30
  | .error    => 40
  | .critical => 50

def name : Level → String
  | .debug    => "debug"
  | .info     => "info"
  | .warning  => "warning"
  | .error    => "error"
  | .critical => "critical"

end Level

-- The names under which the least level may be asked for.
def levelNumbers : List (String × Nat) := [
  ("NOTSET", 0), ("DEBUG", 10), ("INFO", 20), ("WARN", 30), ("WARNING", 30), ("ERROR", 40),
  ("CRITICAL", 50), ("FATAL", 50)]

inductive Asked
  | name (s : String)
  | number (n : Int)
deriving DecidableEq, Repr

inductive Fault
  | unknownLevel (n : Int)
  | embeddedNul
  | fill (e : FillError)
  -- a trace that is no text
  | notText (kind : String)
  -- a detail named like the text of its event
  | textTwice (written : Bool)
deriving DecidableEq, Repr

namespace Fault

def message : Fault → String
  | .unknownLevel n  => toString n
  | .embeddedNul     => Path.nulMessage
  | .fill e          => e.message
  | .notText kind    => "can only concatenate str (not \"" ++ kind ++ "\") to str"
  | .textTwice true  =>
    "_make_filtering_bound_logger.<locals>.make_method.<locals>.meth() got multiple values for " ++
      "argument 'event'"
  | .textTwice false => "_nop() got multiple values for argument 'event'"

end Fault

structure Config where
  least : Nat
  -- the error stream is used if there is no file
  file  : Option Path
  json  : Bool
deriving DecidableEq, Repr

def flag (env : Environment) (name : String) : Bool :=
  let value := Text.lower (Text.trim (env.value name).toList)
  ["1", "true", "yes", "on"].any (·.toList == value)

-- Unknown names stand for the info level.
def ofName (s : String) : Nat :=
  (levelNumbers.lookup (String.ofList (Text.capitalize (Text.trim s.toList)))).getD
    Level.info.number

def least? (env : Environment) : Option Asked → Except Fault Nat
  | some (.number n) =>
    if 0 ≤ n ∧ n ≤ 50 ∧ n % 10 = 0 then .ok n.toNat else .error (.unknownLevel n)
  | some (.name s)   => .ok (ofName s)
  | none             =>
    if flag env "CODZILLA_DEBUG" then .ok Level.debug.number
    else .ok (ofName ((env.lookup "CODZILLA_LOG_LEVEL").getD "info"))

def fileOf (env : Environment) : Option Path :=
  (env.set? "CODZILLA_LOG_FILE").map .ofString

-- The log is opened before its level is looked at.
def configure (env : Environment) (level : Option Asked) (file : Option Path)
    (json : Option Bool) : Except Fault Config := do
  let file := file.or (fileOf env)
  if file.any (·.hasNul) then throw .embeddedNul
  return {
    least := ← least? env level
    file
    json  := json.getD (flag env "CODZILLA_LOG_JSON") }

-- The disk once the log is open: its file is there, empty if it was not there before.
def openOn (d : Disk) : Option Path → Disk
  | some p => if (d.find? p).isSome then d else d.modify p (FileTree.write .empty)
  | none   => d

-- A text that could be mistaken for several values is put in quotes.
def consoleValue : Json → String
  | .string s =>
    if s.toList.any (" \t=\r\n\"'".toList.contains ·) then Text.quoted s else s
  | v         => v.display

structure Event where
  level   : Level
  text    : String
  values  : List Json
  details : List (String × Json)

namespace Event

-- An event without values is taken as it is written.
def message (e : Event) : Except Fault String :=
  if e.values.isEmpty then .ok e.text else (fill e.text e.values).mapError .fill

end Event

-- An object, or a text for a console, which begins with the level and the text of the event.
inductive Line
  | object (members : List (String × Json))
  | text (s : String)

def padTo (width : Nat) (s : String) : String :=
  s.pushn ' ' (width - s.length)

-- Details that an event sets itself, or that ask for a trace when there is none.
def reserved : List String := ["level", "timestamp", "exc_info", "stack_info"]

def loggerNames : List String := ["logger", "logger_name"]

def traces : List String := ["stack", "exception"]

def without (names : List String) (details : List (String × Json)) : List (String × Json) :=
  details.filter fun m => !names.contains m.1

-- The lines of a trace, which must be a text or null.
def trace (details : List (String × Json)) (name : String) : Except Fault (Option String) :=
  match details.lookup name with
  | none | some .null => .ok none
  | some (.string s)  => .ok (some s)
  | some v            => .error (.notText v.kind)

def ruler : String :=
  "".pushn '=' 79

def withTraces (line : String) : Option String → Option String → String
  | none, none           => line
  | some s, none         => line ++ "\n" ++ s
  | none, some e         => line ++ "\n" ++ e
  | some s, some e       => line ++ "\n" ++ s ++ "\n\n" ++ ruler ++ "\n\n" ++ e

def columns (message : String) (details : List (String × Json)) : List String :=
  let loggers := loggerNames.filterMap fun name =>
    (details.lookup name).map fun v => "[" ++ v.plain ++ "]"
  let rest := (without (loggerNames ++ traces) details).mergeSort fun a b => !(b.1 < a.1)
  padTo 30 message :: loggers ++ rest.map fun (k, v) => k ++ "=" ++ consoleValue v

def trimSpaces (s : String) : String :=
  String.ofList ((s.toList.reverse.dropWhile (· == ' ')).reverse)

def consoleLine (level : Level) (message : String) (details : List (String × Json)) :
    Except Fault String := do
  let stack ← trace details "stack"
  let exception ← trace details "exception"
  let head := "[" ++ padTo 9 level.name ++ "] "
  return withTraces (trimSpaces (head ++ " ".intercalate (columns message details)))
    stack exception

def line (c : Config) (level : Level) (message : String) (details : List (String × Json)) :
    Except Fault Line :=
  let details := without reserved details
  if c.json then
    .ok (.object (OrderedMap.put "level" (.string level.name)
      (OrderedMap.put "event" (.string message) details)))
  else (consoleLine level message details).map .text

def write (c : Config) (e : Event) : Except Fault (List Line) := do
  let written := c.least ≤ e.level.number
  if e.details.any (·.1 == "event") then throw (.textTwice written)
  if written then return [← line c e.level (← e.message) e.details]
  else return []

def writeAll (c : Config) (es : List Event) : Except Fault (List Line) :=
  return (← es.mapM (write c)).flatten

end ComponentCatalog.Log
