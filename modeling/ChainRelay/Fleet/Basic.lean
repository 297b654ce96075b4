import ChainRelay.Settings
import ChainRelay.Time.Agenda
import ChainRelay.Worker.JobState
import ChainRelay.World.Lock

/-!
# Fleets of workers

Workers that share a cache run their jobs side by side. Each job of each worker has a loop of its
own: it starts after a delay, runs the job under its lock, rests for the job's interval (or for a
shorter while after a fault), and goes on until all workers are asked to stop. A run that has begun
is never cut short.

## Main definitions

* `Fleet` — the state: an agenda, the shared cache, the workers with their loops, and what was
  logged and run
* `Errand` — what stands on the agenda
* `Fleet.act` — what a loop does when it is its turn
* `Behavior` — what the runs of the jobs come to, which is not the concern of this module

## Implementation notes

A loop acts only when it is its turn and then goes on until it waits again, so its actions are never
mixed with those of another loop. Whose turn it is shows where jobs of one name compete for their
lock at one time, so a wait goes through its rounds one by one. A rest is watched from two sides: an
alarm rings at its end, and a listener hears when the workers are asked to stop. Both release the
loop, which wakes in the next round. If it was the alarm, the loop first calls its listener off and
waits until that is done.
-/

namespace ChainRelay

/-- A job that is run again and again. -/
structure ScheduledJob where
  name : String
  interval : Quantity
  deriving Inhabited

/-- What one run of a job comes to. -/
structure JobRun where
  /-- How many seconds it waits; one that never waits is over at once. -/
  waits : Option Quantity := none
  fault : Option Fault := none
  /-- Whether it asks all workers to stop. -/
  stops : Bool := false
  deriving Inhabited

/-- What the runs of the jobs come to, by worker, place of the job and number of the run. -/
abbrev Behavior := (worker place run : Nat) → JobRun

/-- What a loop is about. -/
inductive Phase where
  /-- It has not been started, or it has ended. -/
  | idle
  /-- It has been started and has not acted yet. -/
  | fresh
  /-- It rests: the number of the wait, whether the listener has heard that the workers stop, and
  whether the loop has been released. -/
  | resting (wait : Nat) (heard released : Bool)
  /-- It has rested and calls its listener off. -/
  | withdrawing (wait : Nat)
  /-- It has rested for no time at all, without a listener. -/
  | pausing
  /-- It runs its job, holding the lock by a token. -/
  | running (token : String) (fault : Option Fault)
  deriving Inhabited

/-- The loop of one job of one worker. -/
structure JobLoop where
  worker : Nat
  /-- The place of the job among those of its worker. -/
  place : Nat
  job : ScheduledJob
  phase : Phase := .idle
  /-- How many runs have begun. -/
  runs : Nat := 0
  deriving Inhabited

/-- What stands on the agenda of a fleet. Loops are named by their place, and their rests by the
number of the wait. -/
inductive Errand where
  /-- A worker starts its loops. -/
  | startWorker (worker : Nat)
  /-- A loop begins. -/
  | startLoop (loop : Nat)
  /-- A listener begins to listen. -/
  | listen (loop wait : Nat)
  /-- A listener goes, having heard that the workers stop or having been called off. -/
  | leave (loop wait : Nat)
  /-- A loop is released from its rest. -/
  | release (loop wait : Nat)
  /-- A loop wakes from its rest. -/
  | wake (loop wait : Nat)
  /-- A loop goes on, after some more rounds. -/
  | goOn (loop rounds : Nat)
  /-- All workers are asked to stop. -/
  | askToStop
  /-- Whoever waits outside the fleet goes on, after some more rounds. -/
  | outside (rounds : Nat)

/-- A worker. -/
structure Worker where
  role : String
  runId : String
  settings : RunnerSettings
  jobs : List ScheduledJob
  started : Bool := false
  stopped : Bool := false
  /-- Whether it has been started and has not ended since. -/
  atWork : Bool := false
  counters : List (String × JobState) := []

/-- The beginning or the end of a run. -/
structure Mark (τ : Type) where
  time : τ
  worker : Nat
  job : String
  ends : Bool

/-- Workers that share a cache. -/
structure Fleet (τ : Type) where
  agenda : Agenda τ Errand
  stopping : Bool := false
  /-- The rests in which somebody listens, the first one first. -/
  listeners : List (Nat × Nat) := []
  /-- How many rests there have been. -/
  waits : Nat := 0
  cache : Cache τ := {}
  /-- How many lock tokens have been made. -/
  tokens : Nat := 0
  /-- How long locks live. -/
  lockTtl : Quantity := 300
  workers : List Worker
  loops : List JobLoop
  journal : Array LogLine := #[]
  marks : Array (Mark τ) := #[]

namespace Worker

/-- The context of a worker's log lines. -/
def context (w : Worker) : Fields :=
  [("role", .str w.role), ("service", .str w.role), ("run_id", .str w.runId)]

/-- The counters of a job. -/
def counter (w : Worker) (job : String) : JobState := (w.counters.lookup job).getD {}

/-- Set the counters of a job: a known job keeps its place. -/
def putCounter : List (String × JobState) → String → JobState → List (String × JobState)
  | [], job, s => [(job, s)]
  | (j, old) :: rest, job, s =>
    if j = job then (j, s) :: rest else (j, old) :: putCounter rest job s

/-- Change the counters of a job. -/
def count (w : Worker) (job : String) (f : JobState → JobState) : Worker :=
  { w with counters := putCounter w.counters job (f (w.counter job)) }

end Worker

namespace Fleet

variable {τ : Type} [Seconds τ]

/-- The time. -/
def now (f : Fleet τ) : τ := f.agenda.now

/-- The loops of workers. -/
def loopsOf (workers : List Worker) : List JobLoop :=
  workers.zipIdx.flatMap fun (w, i) =>
    w.jobs.zipIdx.map fun (job, place) => { worker := i, place, job }

/-- Change one worker. -/
def changeWorker (f : Fleet τ) (worker : Nat) (change : Worker → Worker) : Fleet τ :=
  { f with workers := f.workers.modify worker change }

/-- Change the counters of the job of a loop. -/
def count (f : Fleet τ) (l : JobLoop) (change : JobState → JobState) : Fleet τ :=
  f.changeWorker l.worker fun w => w.count l.job.name change

/-- The worker of a loop. -/
def workerOf (f : Fleet τ) (worker : Nat) : Worker :=
  f.workers.getD worker { role := "", runId := "", settings := {}, jobs := [] }

/-- Write a log line of a worker. -/
def log (f : Fleet τ) (worker : Nat) (level : LogLevel) (message : String) (context : Fields)
    (fault : Option Fault) : Fleet τ :=
  let line : LogLine := {
    level, logger := "runtime", message, fault
    context := (f.workerOf worker).context ++ context }
  { f with journal := f.journal.push line }

/-- Write a log line of a loop. -/
def logJob (f : Fleet τ) (l : JobLoop) (level : LogLevel) (message : String)
    (fault : Option Fault) : Fleet τ :=
  f.log l.worker level message [("job", .str l.job.name)] fault

/-- Mark the beginning or the end of a run. -/
def mark (f : Fleet τ) (l : JobLoop) (ends : Bool) : Fleet τ :=
  { f with marks := f.marks.push ⟨f.now, l.worker, l.job.name, ends⟩ }

/-- The loop at a place. -/
def loopAt (f : Fleet τ) (index : Nat) : JobLoop := f.loops.getD index default

/-- Put a loop in its place. -/
def putLoop (f : Fleet τ) (index : Nat) (l : JobLoop) : Fleet τ :=
  { f with loops := f.loops.set index l }

/-- Put an errand off to the next round. -/
def putOff (f : Fleet τ) (errand : Errand) : Fleet τ := { f with agenda := f.agenda.putOff errand }

/-- Put an errand off for some time. -/
def doAfter (f : Fleet τ) (pause : τ) (errand : Errand) : Fleet τ :=
  { f with agenda := f.agenda.doAfter pause errand }

/-! ### Waiting -/

/-- Let a loop rest. -/
def rest (f : Fleet τ) (index : Nat) (l : JobLoop) (pause : τ) : Fleet τ :=
  if pause ≤ Seconds.whole 0 then
    (f.putLoop index { l with phase := .pausing }).putOff (.goOn index 2)
  else
    let wait := f.waits
    let f := { f with waits := wait + 1 }
    ((f.putLoop index { l with phase := .resting wait false false }).doAfter pause
      (.release index wait)).putOff (.listen index wait)

/-- Ask all workers to stop. Those who listen hear it in the next round. -/
def askToStop (f : Fleet τ) : Fleet τ :=
  if f.stopping then f
  else
    let called := f.listeners.map fun (index, wait) => Errand.leave index wait
    { f with
      stopping := true, listeners := []
      agenda := called.foldl Agenda.putOff f.agenda }

/-- Begin to listen in a rest. -/
def listen (f : Fleet τ) (index wait : Nat) : Fleet τ :=
  if f.stopping then
    (f.putLoop index { f.loopAt index with phase := .resting wait true false }).putOff
      (.release index wait)
  else { f with listeners := f.listeners ++ [(index, wait)] }

/-- A listener goes. If it has not been called off, it releases its loop in the next round. -/
def leave (f : Fleet τ) (index wait : Nat) : Fleet τ :=
  let l := f.loopAt index
  match l.phase with
  | .resting _ _ released =>
    (f.putLoop index { l with phase := .resting wait true released }).putOff (.release index wait)
  | _ => f.putOff (.goOn index 1)

/-- Release a loop from a rest, if it still rests and has not been released. -/
def release (f : Fleet τ) (index wait : Nat) : Fleet τ :=
  let l := f.loopAt index
  match l.phase with
  | .resting w heard false =>
    if w = wait then
      (f.putLoop index { l with phase := .resting wait heard true }).putOff (.wake index wait)
    else f
  | _ => f

/-- Call the listener of a rest off. One that has been called already goes by itself. -/
def withdraw (f : Fleet τ) (index wait : Nat) (l : JobLoop) : Fleet τ :=
  let f := f.putLoop index { l with phase := .withdrawing wait }
  if f.listeners.contains (index, wait) then
    { f with listeners := f.listeners.erase (index, wait) }.putOff (.leave index wait)
  else f

/-- Whether nobody waits for an alarm any more: its rest has ended. -/
def isStale (f : Fleet τ) (errand : Errand) : Bool :=
  match errand with
  | .release index wait =>
    match (f.loopAt index).phase with
    | .resting w _ _ => w != wait
    | _ => true
  | _ => false

/-! ### Starting and stopping -/

/-- Whether a loop is at work. -/
def busy (l : JobLoop) : Bool :=
  match l.phase with
  | .idle => false
  | _ => true

/-- A worker ends when the last of its loops has ended. -/
def endWorker (f : Fleet τ) (worker : Nat) : Fleet τ :=
  if f.loops.any fun l => l.worker == worker && busy l then f
  else (f.changeWorker worker fun w => { w with stopped := true, atWork := false }).log worker
    .info "worker stopped" [] none

/-- End a loop. -/
def endLoop (f : Fleet τ) (index : Nat) (l : JobLoop) : Fleet τ :=
  ((f.putLoop index { l with phase := .idle }).logJob l .info "job loop stopped" none).endWorker
    l.worker

/-- Start the loops of a worker, which begin in the next round. -/
def startLoops (f : Fleet τ) (worker : Nat) : Fleet τ :=
  let names := (f.workerOf worker).jobs.map ScheduledJob.name
  let start (w : Worker) : Worker :=
    names.foldl (fun w job => w.count job id) { w with started := true }
  let f := (f.changeWorker worker start).log worker .info "worker started"
    [("jobs", .str (",".intercalate names))] none
  let begin (f : Fleet τ) (entry : JobLoop × Nat) : Fleet τ :=
    if entry.1.worker == worker then
      (f.putLoop entry.2 { entry.1 with phase := .fresh }).putOff (.startLoop entry.2)
    else f
  (f.loops.zipIdx.foldl begin f).endWorker worker

/-- Start all workers. -/
def start (f : Fleet τ) : Fleet τ :=
  let workers := f.workers.map fun w => { w with atWork := true }
  let errands := (List.range workers.length).map Errand.startWorker
  { f with
    stopping := false, listeners := [], workers
    agenda := errands.foldl Agenda.putOff f.agenda }

/-! ### Ticks -/

/-- Count what a tick came to, and rest. -/
def settle (f : Fleet τ) (index : Nat) (l : JobLoop) (result : Except Fault Bool) : Fleet τ :=
  let f := f.count l fun s => s.ended result
  match result with
  | .ok _ => (f.logJob l .info "job tick" none).rest index l (Seconds.ofQuantity l.job.interval)
  | .error fault =>
    (f.logJob l .error "job tick error" fault).rest index l
      (Seconds.ofMillis (f.workerOf l.worker).settings.errorBackoffMs)

/-- End a run: give the lock back and count the run. -/
def finishRun (f : Fleet τ) (index : Nat) (l : JobLoop) (token : String)
    (fault : Option Fault) : Fleet τ :=
  let (released, cache) := f.cache.eraseIfEqual f.now (Work.lockKey l.job.name) (.str token)
  let f := { f with cache }
  let f := if released then f
    else { f with journal := f.journal.push {
      level := .warning, logger := "relayer.lock"
      message := "lock expired before the run finished, ttl " ++
        toString f.lockTtl.truncated ++ "s"
      context := [("job", .str l.job.name)] } }
  f.settle index l (match fault with
    | none => .ok true
    | some fault => .error fault)

/-- Run a job, having its lock. -/
def beginRun (b : Behavior) (f : Fleet τ) (index : Nat) (l : JobLoop) (token : String) :
    Fleet τ :=
  let run := b l.worker l.place l.runs
  let l := { l with runs := l.runs + 1 }
  let f := f.mark l false
  let f := if run.stops then f.askToStop else f
  match run.waits with
  | none => f.finishRun index l token run.fault
  | some seconds =>
    let pause : τ := Seconds.ofQuantity seconds
    let f := f.putLoop index { l with phase := .running token run.fault }
    if pause ≤ Seconds.whole 0 then f.putOff (.goOn index 0) else f.doAfter pause (.goOn index 1)

/-- Try to run a job. -/
def tick (b : Behavior) (f : Fleet τ) (index : Nat) (l : JobLoop) : Fleet τ :=
  let f := f.count l JobState.begun
  let token := Text.Ulid.lockToken f.tokens
  let (acquired, cache) := f.cache.setIfAbsent f.now (Work.lockKey l.job.name) (.str token) f.lockTtl
  let f := { f with cache, tokens := f.tokens + 1 }
  if acquired then
    match f.lockTtl.check with
    | .ok () => beginRun b f index l token
    | .error fault => f.settle index l (.error fault)
  else f.settle index l (.ok false)

/-- Go on with a loop that has waited: run its job, or end if it is asked to stop. -/
def proceed (b : Behavior) (f : Fleet τ) (index : Nat) (l : JobLoop) : Fleet τ :=
  if f.stopping then f.endLoop index l else tick b f index l

/-- Whether a delay is none at all. -/
def noDelay (ms : Quantity) : Bool := ms == .whole 0 || ms == .real 0.0

/-- What a loop does when it is its turn. -/
def act (b : Behavior) (f : Fleet τ) (index : Nat) : Fleet τ :=
  let l := f.loopAt index
  match l.phase with
  | .idle => f
  | .fresh =>
    let f := f.logJob l .info "job loop started" none
    let delay := (f.workerOf l.worker).settings.startupDelayMs
    if noDelay delay then proceed b f index l else f.rest index l (Seconds.ofMillis delay)
  | .running token fault => (f.mark l true).finishRun index l token fault
  | _ => proceed b f index l

/-- Wake a loop from its rest. It goes on if its listener has heard that the workers stop. -/
def wake (b : Behavior) (f : Fleet τ) (index wait : Nat) : Fleet τ :=
  let l := f.loopAt index
  match l.phase with
  | .resting _ true _ => proceed b f index l
  | _ => f.withdraw index wait l

end Fleet

end ChainRelay
