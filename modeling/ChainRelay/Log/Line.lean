import ChainRelay.Fault
import ChainRelay.Json.Same

/-!
# Log lines

What the relayer reports about its work. A line is written as one JSON object: the time, the
level, the message, the logger, the members of the context that lines are searched by, and the
fault that was met, if any.
-/

namespace ChainRelay

/-- The level of a log line. -/
inductive LogLevel where
  | unset
  | debug
  /-- Progress. -/
  | info
  /-- Something that will be tried again. -/
  | warning
  /-- Something that an operator should see. -/
  | error
  | critical
  /-- A level without a name, known by the text of its rank. -/
  | other (rank : String)
  deriving DecidableEq, Repr, Inhabited

namespace LogLevel

/-- The levels with names and their ranks. Higher ranks are more urgent. -/
def ranks : List (Int × LogLevel) :=
  [(0, unset), (10, debug), (20, info), (30, warning), (40, error), (50, critical)]

/-- The level of a rank. -/
def ofRank (rank : Json) : LogLevel :=
  match ranks.find? fun known => Json.same rank (.int known.1) with
  | some known => known.2
  | none => other rank.shown

/-- The word for a level. -/
def word : LogLevel → String
  | unset => "NOTSET"
  | debug => "DEBUG"
  | info => "INFO"
  | warning => "WARNING"
  | error => "ERROR"
  | critical => "CRITICAL"
  | other rank => "Level " ++ rank

end LogLevel

/-- A log line. -/
structure LogLine where
  level : LogLevel
  logger : String
  message : String
  context : Fields := []
  /-- The fault that was met. -/
  fault : Option Fault := none
  deriving Inhabited

namespace LogLine

/-- The members of the context that a written line shows, in their order. -/
def shownContext : List String := ["role", "service", "run_id", "job", "family", "natural_key"]

/-- The shown members that are set. -/
def visible (line : LogLine) : Fields :=
  shownContext.filterMap fun name =>
    match line.context.get? name with
    | none | some .null => none
    | some value => some (name, value)

/-- The full title of a fault. -/
def faultTitle (fault : Fault) : String :=
  if fault.isDomain then "relayer.domain.errors." ++ fault.title else fault.title

/-- The report of a fault, without where it was met. -/
def faultReport (fault : Fault) : String :=
  if fault.message = "" then faultTitle fault else faultTitle fault ++ ": " ++ fault.message

/-- The members of a written line that come after its message. -/
def tail (line : LogLine) : Fields :=
  ("logger", .str line.logger) :: line.visible ++
    line.fault.toList.map fun fault => ("exc_info", .str (faultReport fault))

/-- The written line, `message` being the message as a JSON string. -/
def writeAs (line : LogLine) (time message : String) : String :=
  "\x7b" ++ Json.Style.json.writeFields [("ts", .str time), ("level", .str line.level.word)] ++
    ", \"message\": " ++ message ++ ", " ++ Json.Style.json.writeFields line.tail ++ "\x7d"

/-- The written line. -/
def write (line : LogLine) (time : String) : String :=
  line.writeAs time (Text.escaped line.message)

end LogLine

end ChainRelay
