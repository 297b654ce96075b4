import ChainRelay.Cache
import ChainRelay.Log.Line
import ChainRelay.WorkItem.Store
import ChainRelay.World.Collaborators

/-!
# The world of a relayer

The state that the relayer works on: its durable queue, its cache, its cursors, two clocks, the
state of its collaborators, and the record of what it asked them.

## Main definitions

* `World` — the state
* `Work` — what the relayer does: a computation on the state that ends with a value or a halt; what
  was done before a halt stays done
* `Work.ask` — put a question to a collaborator and record it with its answer
* `Work.withTimeout` and `Work.suspend` — transactions with a time limit, and waiting inside them

## Implementation notes

Waiting inside a transaction is timed by a clock of its own, `waited`, as it is the event loop that
measures it. When a limit is reached, everything inside its transaction is cancelled; a
cancellation is no fault and cannot be handled like one. The clock of waiting has a grain: what is
due within it of the time at which the clock stands still is due then, and of limits that are due
together the outermost counts.

The wall clock and the monotonic clock show how they were set, as far as this library moves them.
Time may pass while collaborators answer, so what a clock shows may also depend on their state.

Sources that are read page by page may have no last page. Reading them is bounded, and one that
reaches its bound halts as `endless`, which is no fault either: no run that ends was cut short.
-/

namespace ChainRelay

/-- What the relayer has done, in order, with the answers it got. -/
inductive Event where
  | lookedUp (txHash : String) (answer : Except Fault (Option ChainTransaction))
  | balanceRead (account : String) (answer : Except Fault AccountBalance)
  | eventsRead (contract : String) (offset limit : Int) (answer : Except Fault (List ContractEvent))
  | tasksRead (after : Option String) (limit : Int) (answer : Except Fault (List HubTask))
  | posted (events : List Json) (correlation : String) (answer : Except Fault (List EventResult))
  | broadcast (contract : String) (request : Fields) (answer : Except Fault String)
  | statusRead (broadcast contract : String) (answer : Except Fault BroadcastStatus)
  | built (item : WorkItem) (answer : Except Fault BuildOutcome)
  | sent (transaction : SignedTransaction) (answer : Except Fault SendResult)
  | invalidated (item : WorkItem) (answer : Except Fault Unit)
  | decoded (transaction : ChainTransaction) (answer : Except Fault (List Json))
  | notified (severity : Severity) (title body : String) (answer : Except Fault Unit)
  /-- A row of the durable queue was written. -/
  | stored (key : RowKey)
  | committed (family : Family) (keys : List String)
  | cursorSet (name value : String)

/-- The limit of a transaction: the reading of the waiting clock at which it is reached, or none if
it is reached at the first wait. -/
abbrev Limit (τ : Type) := Option τ

/-- The state of a relayer and of everything that it works with. -/
structure World (σ τ : Type) where
  store : Store
  cache : Cache τ
  cursors : List (String × String)
  /-- The wall clock as it was set. -/
  wall : Instant
  /-- The monotonic clock as it was set. -/
  mono : τ
  /-- The clock of waiting. -/
  waited : τ
  /-- The limits of the transactions in progress, the outermost first. -/
  limits : List (Limit τ)
  /-- How many lock tokens have been made. -/
  tokens : Nat
  /-- The state of the collaborators. -/
  env : σ
  trace : List Event
  journal : List LogLine
  /-- What the wall clock shows by the state of the collaborators and by how it was set. -/
  wallShown : σ → Instant → Instant := fun _ set => set
  /-- What the monotonic clock shows by the state of the collaborators and by how it was set. -/
  monoShown : σ → τ → τ := fun _ set => set

namespace World

variable {σ τ : Type}

/-- The reading of the wall clock. -/
def wallNow (w : World σ τ) : Instant := w.wallShown w.env w.wall

/-- The reading of the monotonic clock. -/
def monoNow (w : World σ τ) : τ := w.monoShown w.env w.mono

end World

/-- Why work ends early. -/
inductive Halt where
  | fault (f : Fault)
  /-- The transaction of this depth has reached its limit. -/
  | cancelled (depth : Nat)
  /-- There is more to read than the bound allows, and perhaps no end of it. -/
  | endless

/-- Work on the state of a relayer. -/
abbrev Work (σ τ α : Type) := ExceptT Halt (StateM (World σ τ)) α

namespace Work

variable {σ τ α β : Type}

/-- Fail. -/
def fail (f : Fault) : Work σ τ α := throw (.fault f)

/-- Give up on something that does not come to an end. -/
def giveUp : Work σ τ α := throw .endless

/-- Take the value, or fail. -/
def ofExcept : Except Fault α → Work σ τ α
  | .ok a => pure a
  | .error f => fail f

/-- Do something and keep a fault as a value. Any other halt goes on. -/
def attempt (work : Work σ τ α) : Work σ τ (Except Fault α) :=
  fun w =>
    match work w with
    | (.ok a, w) => (.ok (.ok a), w)
    | (.error (.fault f), w) => (.ok (.error f), w)
    | (.error halt, w) => (.error halt, w)

/-- Do something, and then something else whatever became of the first. -/
def andFinally (work : Work σ τ α) (last : Work σ τ Unit) : Work σ τ α :=
  fun w =>
    let (result, w) := work w
    match last w with
    | (.ok (), w) => (result, w)
    | (.error halt, w) => (.error halt, w)

/-- Record what was done. -/
def record (event : Event) : Work σ τ Unit :=
  modify fun w => { w with trace := w.trace ++ [event] }

/-- Write a log line. -/
def log (line : LogLine) : Work σ τ Unit :=
  modify fun w => { w with journal := w.journal ++ [line] }

/-- Put a question to the collaborators and record it with its answer, which may be a fault. -/
def query (answers : Answers σ α) (event : Except Fault α → Event) (w : World σ τ) :
    Except Fault α × World σ τ :=
  let (answer, env) := answers w.env
  (answer, { w with env, trace := w.trace ++ [event answer] })

/-- Put a question to the collaborators; the work ends if the answer is a fault. -/
def ask (answers : Answers σ α) (event : Except Fault α → Event) : Work σ τ α :=
  fun w =>
    match query answers event w with
    | (.ok a, w) => (.ok a, w)
    | (.error f, w) => (.error (.fault f), w)

/-- Work on the cache at the present reading of the monotonic clock. -/
def withCache (f : Cache τ → τ → α × Cache τ) : Work σ τ α :=
  fun w =>
    let (a, cache) := f w.cache w.monoNow
    (.ok a, { w with cache })

/-- The wall clock. -/
def now : Work σ τ Instant := do return (← get).wallNow

/-! ### Cursors -/

/-- The value of a cursor. -/
def cursor? (name : String) : Work σ τ (Option String) := do
  return (← get).cursors.lookup name

/-- Set an entry of an association list: a known name keeps its place. -/
def putCursor : List (String × String) → String → String → List (String × String)
  | [], name, value => [(name, value)]
  | (n, v) :: rest, name, value =>
    if n = name then (n, value) :: rest else (n, v) :: putCursor rest name value

/-- Set a cursor. -/
def setCursor (name value : String) : Work σ τ Unit := do
  modify fun w => { w with cursors := putCursor w.cursors name value }
  record (.cursorSet name value)

/-! ### Time limits -/

/-- When a limit is reached: at once, if it is reached at the first wait. -/
def limitTime (now : τ) (limit : Limit τ) : τ := limit.getD now

/-- When the clock next stands still in a wait until `wake`: at the end of the wait, or at the first
limit before it. -/
def firstStop [Seconds τ] (now wake : τ) (limits : List (Limit τ)) : τ :=
  limits.foldl (fun first limit =>
    if limitTime now limit < first then limitTime now limit else first) wake

/-- The depth of the outermost limit that is due when the clock stands still. -/
def reached [Seconds τ] (now stop : τ) (limits : List (Limit τ)) : Option Nat :=
  limits.findIdx? fun limit => Seconds.isDue (limitTime now limit) stop

/-- Wait. The wait ends early, by cancellation, if a limit is due at its end or before. -/
def suspend [Seconds τ] (seconds : Quantity) : Work σ τ Unit :=
  fun w =>
    let pause : τ := Seconds.ofQuantity seconds
    let wake := if pause ≤ Seconds.whole 0 then w.waited else w.waited + pause
    let stop := firstStop w.waited wake w.limits
    let stop := if stop < w.waited then w.waited else stop
    match reached w.waited stop w.limits with
    | some depth => (.error (.cancelled depth), { w with waited := stop })
    | none => (.ok (), { w with waited := stop })

/-- Do something under a time limit, which no clock can show if it is too large. There is no result
if the limit was reached. -/
def withTimeout [Seconds τ] (seconds : Quantity) (work : Work σ τ α) : Work σ τ (Option α) :=
  fun w =>
    match seconds.check with
    | .error fault => (.error (.fault fault), w)
    | .ok () =>
    let span : τ := Seconds.ofQuantity seconds
    let limit : Limit τ := if span ≤ Seconds.whole 0 then none else some (w.waited + span)
    let (result, w') := work { w with limits := w.limits ++ [limit] }
    let w' := { w' with limits := w.limits }
    match result with
    | .ok a => (.ok (some a), w')
    | .error (.cancelled depth) =>
      if depth = w.limits.length then (.ok none, w') else (.error (.cancelled depth), w')
    | .error halt => (.error halt, w')

end Work

end ChainRelay
