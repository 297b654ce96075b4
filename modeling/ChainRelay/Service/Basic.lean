import ChainRelay.Fleet.Course

/-!
# The service

A process under a role: a worker, if the role has jobs to run, and two pages by which the process is
watched. The health page says that the process answers; the readiness page says whether its worker
is at work, and shows the counters of its jobs.
-/

namespace ChainRelay

/-- Whether a relayer works on shared stores or keeps everything to itself. -/
inductive Mode where
  | skeleton
  | live
  deriving DecidableEq, Repr, Inhabited

/-- The word for a mode. -/
def Mode.word : Mode → String
  | skeleton => "skeleton"
  | live => "live"

/-- A process under a role. -/
structure Service (τ : Type) where
  role : String
  runId : String
  mode : Mode := .skeleton
  jobs : List ScheduledJob
  /-- The worker, or no worker if there are no jobs. -/
  fleet : Fleet τ

namespace Service

variable {τ : Type} [Seconds τ]

/-- A service that has not been started. Jobs need a lock. -/
def make (role runId : String) (mode : Mode) (jobs : List ScheduledJob) (settings : RunnerSettings)
    (lockTtl : Option Quantity) (now : τ) : Except Fault (Service τ) :=
  if !jobs.isEmpty && lockTtl.isNone then
    .error (.badValue "scheduled jobs require a single-flight lock")
  else
    let workers : List Worker := if jobs.isEmpty then [] else [{ role, runId, settings, jobs }]
    let loops := Fleet.loopsOf workers
    .ok { role, runId, mode, jobs, fleet := { agenda := { now }, workers, loops, lockTtl := lockTtl.getD 300 } }

/-- Write a log line of the service. -/
def log (s : Service τ) (message : String) : Service τ :=
  let line : LogLine := {
    level := .info, logger := "runtime", message
    context := [("role", .str s.role), ("service", .str s.role), ("run_id", .str s.runId)] }
  { s with fleet := { s.fleet with journal := s.fleet.journal.push line } }

/-- Start the service. -/
def start (s : Service τ) : Service τ :=
  let s := s.log "role started"
  { s with fleet := s.fleet.start }

/-- Let time pass. -/
def pass (b : Behavior) (steps : Nat) (s : Service τ) (pause : τ) : Service τ :=
  { s with fleet := s.fleet.pass b pause steps }

/-- Stop the worker and wait until its runs have ended. -/
def stopWorker (b : Behavior) (steps : Nat) (s : Service τ) : Service τ :=
  { s with fleet := s.fleet.askToStop.finish b steps }

/-- Stop the service. -/
def stop (b : Behavior) (steps : Nat) (s : Service τ) : Service τ :=
  (s.stopWorker b steps).log "role stopped"

/-! ### Pages -/

/-- The health page. -/
def health (s : Service τ) : Json :=
  .obj [("status", .str "ok"), ("role", .str s.role), ("mode", .str s.mode.word)]

/-- Whether the jobs are at work, or there are none. -/
def isReady (s : Service τ) : Bool :=
  s.jobs.isEmpty || ((s.fleet.workerOf 0).started && (s.fleet.workerOf 0).atWork)

/-- The readiness page. -/
def readiness (s : Service τ) : Json :=
  let worker := s.fleet.workerOf 0
  let counters := Fields.ofList (s.jobs.map fun job => (job.name, (worker.counter job.name).report))
  .obj [("status", .str (if s.isReady then "ready" else "starting")), ("role", .str s.role),
    ("mode", .str s.mode.word), ("jobs_enabled", .bool (!s.jobs.isEmpty)),
    ("jobs_ready", .bool s.isReady), ("started", .bool worker.started),
    ("stopped", .bool worker.stopped), ("jobs", .obj counters)]

/-- The body of a page of the service. One line end after its path does no harm. -/
def body? (s : Service τ) (path : List Char) : Option Json :=
  match String.ofList (if path.getLast? = some '\n' then path.dropLast else path) with
  | "/health" => some s.health
  | "/ready" => some s.readiness
  | _ => none

/-- The status and the body of a page. Who puts slashes behind a path is sent to the path without
them, and gets no body. -/
def page (s : Service τ) (path : String) : Int × Option Json :=
  let cs := path.toList
  let bare := (cs.reverse.dropWhile (· = '/')).reverse
  match s.body? cs with
  | some body => (200, some body)
  | none =>
    if (s.body? bare).isSome then (307, none)
    else (404, some (.obj [("detail", .str "Not Found")]))

end Service

end ChainRelay
