import ChainRelay.Fault

/-!
# Counters of a job

Each attempt to run a job is a tick. Ticks, completed runs, ticks that found the lock of the job
busy, and runs that ended with a fault are counted, and the last fault is kept.
-/

namespace ChainRelay

/-- The counters of a job. -/
structure JobState where
  ticks : Nat := 0
  runs : Nat := 0
  skipped : Nat := 0
  errors : Nat := 0
  lastError : Option String := none
  deriving Inhabited, DecidableEq, Repr

namespace JobState

/-- The report of a fault that ended a run. -/
def errorText (fault : Fault) : String := fault.title ++ ": " ++ fault.message

/-- The counters when a tick has begun. -/
def begun (s : JobState) : JobState := { s with ticks := s.ticks + 1 }

/-- The counters when a tick has ended with this result: whether the job ran, or the fault that
ended it. -/
def ended (s : JobState) : Except Fault Bool → JobState
  | .ok true => { s with runs := s.runs + 1 }
  | .ok false => { s with skipped := s.skipped + 1 }
  | .error fault => { s with errors := s.errors + 1, lastError := some (errorText fault) }

/-- The counters after a whole tick. -/
def after (s : JobState) (result : Except Fault Bool) : JobState := s.begun.ended result

/-- The counters in a report. -/
def report (s : JobState) : Json :=
  .obj [("ticks_total", .int s.ticks), ("runs_total", .int s.runs),
    ("skipped_locked_total", .int s.skipped), ("errors_total", .int s.errors),
    ("last_error", Json.ofText? s.lastError)]

end JobState

end ChainRelay
