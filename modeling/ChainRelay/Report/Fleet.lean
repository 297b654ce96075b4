import ChainRelay.Fleet.Course
import ChainRelay.Report.World

/-!
# Reports of fleets

What went on at the workers of a fleet, as one list. Workers take turns, and who comes first at one
time does not matter; so the list is ordered by time in whole milliseconds, by worker and by name,
and log lines are ordered by run and by job. What is equal in all of these keeps its order.
-/

namespace ChainRelay

/-- Something that happened at a worker. -/
structure Moment where
  /-- The time in whole milliseconds. -/
  millis : Int
  worker : Nat := 0
  /-- The job or the hook to which it happened. -/
  name : String
  what : String

namespace Moment

/-- A time in whole milliseconds. -/
def millisOf (time : Float) : Int := Decimal.roundEven (Quantity.real (time * 1000.0)).toRat

/-- The start or the end of a run. -/
def ofMark (m : Mark Float) : Moment where
  millis := millisOf m.time
  worker := m.worker
  name := m.job
  what := if m.ends then "end" else "start"

/-- A hook that was called. -/
def ofHook (hook : Float × String) : Moment where
  millis := millisOf hook.1
  name := hook.2
  what := "hook"

/-- Whether something comes before something else, or at the same place. -/
def isBefore (a b : Moment) : Bool :=
  a.millis < b.millis || (a.millis == b.millis &&
    (a.worker < b.worker || (a.worker == b.worker && a.name ≤ b.name)))

/-- Something that happened, in a report. -/
def report (m : Moment) : Json := .arr [.int m.millis, .int m.worker, .str m.name, .str m.what]

/-- Hooks and runs in a report. -/
def reportAll (hooks : List (Float × String)) (marks : Array (Mark Float)) : Json :=
  .arr (((hooks.map ofHook ++ marks.toList.map ofMark).mergeSort isBefore).map report)

end Moment

namespace LogLine

/-- The text of a field of a log line, empty if there is none. -/
def fieldText (line : LogLine) (name : String) : String :=
  ((Fields.get? line.visible name).map Json.shown).getD ""

/-- The run and the job of a log line. -/
def place (line : LogLine) : String × String := (line.fieldText "run_id", line.fieldText "job")

/-- Log lines in the order of a report: by run and by job. -/
def sorted (lines : Array LogLine) : List LogLine :=
  let placed := lines.toList.map fun line => (line.place, line)
  let isBefore (a b : String × String) : Bool := a.1 < b.1 || (a.1 == b.1 && a.2 ≤ b.2)
  (placed.mergeSort fun a b => isBefore a.1 b.1).map Prod.snd

end LogLine

end ChainRelay
