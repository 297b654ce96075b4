import ChainRelay.Chain.Basic
import ChainRelay.Confirmation.Poll
import ChainRelay.Hub.Basic
import ChainRelay.Time.Instant

/-!
# Confirmation of what is in flight

A tracker turns a poll about something in flight into one of five outcomes. Only an answer can
make it confirmed or failed. Without one it is errored if asking failed, timed out if it was sent
longer ago than the time after which it is given up, and pending otherwise.
-/

namespace ChainRelay

/-- What has become of something in flight. -/
inductive Confirmation where
  | confirmed
  | failed
  | pending
  | timedOut
  | errored
  deriving DecidableEq, Repr, Inhabited

namespace Confirmation

/-- The word for an outcome. -/
def word : Confirmation → String
  | confirmed => "confirmed"
  | failed => "failed"
  | pending => "pending"
  | timedOut => "timed_out"
  | errored => "errored"

/-- The outcome of a word. -/
def ofWord? : String → Option Confirmation
  | "confirmed" => some confirmed
  | "failed" => some failed
  | "pending" => some pending
  | "timed_out" => some timedOut
  | "errored" => some errored
  | _ => none

/-- What a transaction's status says; a transaction that the chain does not know is pending. -/
def ofTransaction : Option ChainTransaction → Confirmation
  | none => pending
  | some tx =>
    match tx.status with
    | .pending => pending
    | .success => confirmed
    | .failed => failed

/-- What a broadcast's status says. -/
def ofBroadcast : BroadcastStatus → Confirmation
  | .received => pending
  | .success => confirmed
  | .error => failed

@[simp] theorem ofWord?_word (x : Confirmation) : ofWord? x.word = some x := by cases x <;> rfl

end Confirmation

/-- Whether an age in microseconds is greater than a number of seconds. The age is rounded to a
double, the limit is not. -/
def olderThan (age : Int) (limit : Quantity) : Bool :=
  let seconds := Decimal.nearest (mkRat age 1000000)
  match limit with
  | .whole n => n < seconds
  | .real x =>
    match Decimal.ofFloat? x with
    | some exact => exact < seconds
    | none => x < 0

/-- A tracker of handles whose status is of type `α`. -/
structure Tracker (α : Type) where
  classify : α → Confirmation
  /-- Whether a status is no status at all. -/
  absent : α → Bool
  /-- After how many seconds something pending is given up. -/
  finality : Quantity
  pollTimeoutMs : Quantity := 1
  pollIntervalMs : Quantity := 1

namespace Tracker

variable {σ τ α : Type} [Seconds τ]

/-- The poll of a tracker: done when a status is not pending. -/
def poll (t : Tracker α) (fetch : σ → (Except Fault α × τ) × σ) : Poll σ τ α where
  fetch := fetch
  done value := t.classify value != .pending
  timeoutMs := t.pollTimeoutMs
  intervalMs := t.pollIntervalMs

/-- The outcome of a poll about something that was sent `age` microseconds ago. -/
def outcome (t : Tracker α) (ending : PollEnding α) (age : Int) : Confirmation :=
  let byAge : Confirmation := if olderThan age t.finality then .timedOut else .pending
  match ending with
  | .errored _ => .errored
  | .confirmed value => if t.absent value then byAge else t.classify value
  | .timedOut => byAge

/-- The tracker of chain transactions. One that is still pending after 240 seconds is given up. -/
def transactions : Tracker (Option ChainTransaction) where
  classify := Confirmation.ofTransaction
  absent := Option.isNone
  finality := 240

/-- The tracker of broadcasts. One that is still pending after 120 seconds is given up. -/
def broadcasts : Tracker BroadcastStatus where
  classify := Confirmation.ofBroadcast
  absent _ := false
  finality := 120

end Tracker

end ChainRelay
