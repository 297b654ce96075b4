import ChainRelay.Log.Line
import ChainRelay.Time.Seconds

/-!
# Polling

A poll asks again and again, sleeping in between, until an answer settles the matter, an answer
fails, or the time is up. No question is asked once the time is up.

## Implementation notes

The clock of a poll is moved by what each question takes and by each sleep. A state `σ` is handed
through the questions. The recursion is bounded by `fuel`; a poll that uses it up has no result.
-/

namespace ChainRelay

/-- How a poll ends. -/
inductive PollEnding (α : Type) where
  | confirmed (value : α)
  | errored (fault : Fault)
  | timedOut

namespace PollEnding

variable {α : Type}

/-- The word for an ending. -/
def word : PollEnding α → String
  | confirmed _ => "confirmed"
  | errored _ => "errored"
  | timedOut => "timed_out"

/-- What is logged about an ending: nothing about a success. -/
def report (logger key : String) (timeoutMs : Quantity) (ending : PollEnding α) :
    Option LogLine :=
  let line : LogLine := {
    level := .error, logger, message := "Cannot await success for key"
    context := [("poll_key", .str key), ("poll_state", .str ending.word)] }
  match ending with
  | confirmed _ => none
  | errored fault => some { line with fault := some fault }
  | timedOut => some { line with context := line.context ++ [("timeout_ms", timeoutMs.toJson)] }

end PollEnding

/-- The length of a sleep of so many milliseconds, in whole ones. -/
def sleepMillis (intervalMs : Quantity) : Except Fault Int :=
  let seconds := intervalMs.thousandth
  if seconds.isNaN then .error (.badValue "cannot convert float NaN to integer")
  else if (seconds * 1000).isInf then .error (.outOfRange "a sleep too long")
  else .ok (Quantity.real (seconds * 1000)).rounded

/-- A poll: how to ask, which answers settle the matter, and the times in milliseconds. -/
structure Poll (σ τ α : Type) where
  /-- Ask once: the answer, how many seconds it took, and the state after it. -/
  fetch : σ → (Except Fault α × τ) × σ
  done : α → Bool
  timeoutMs : Quantity
  intervalMs : Quantity

/-- The course of a poll that ended. -/
structure PollRun (σ α : Type) where
  ending : PollEnding α
  fetches : Nat
  sleeps : Nat
  state : σ

namespace Poll

variable {σ τ α : Type} [Seconds τ]

/-- One sleep in seconds. -/
def pause (p : Poll σ τ α) : τ := Seconds.ofMillis p.intervalMs

/-- Whether a poll that started at `started` may still ask at `now`. -/
def open? (p : Poll σ τ α) (started now : τ) : Bool :=
  Seconds.isUnder ((now - started) * Seconds.whole 1000) p.timeoutMs

/-- Run a poll that started at `started`, from `now`. -/
def runFrom (p : Poll σ τ α) (started : τ) : Nat → τ → Nat → σ → Option (PollRun σ α)
  | 0, _, _, _ => none
  | fuel + 1, now, asked, state =>
    if p.open? started now then
      match p.fetch state with
      | ((.error fault, _), state) => some ⟨.errored fault, asked + 1, asked, state⟩
      | ((.ok value, took), state) =>
        if p.done value then some ⟨.confirmed value, asked + 1, asked, state⟩
        else runFrom p started fuel (now + took + p.pause) (asked + 1) state
    else some ⟨.timedOut, asked, asked, state⟩

/-- Run a poll whose clock starts at `started`. -/
def run (p : Poll σ τ α) (fuel : Nat) (started : τ) (state : σ) : Option (PollRun σ α) :=
  p.runFrom started fuel started 0 state

/-- Enough fuel for a poll whose questions take no time: twice the number of sleeps that fit into
its time, as the clock may lag behind by rounding, and a good measure for polls whose sleeps do not
move the clock. -/
def ampleFuel (timeoutMs intervalMs : Quantity) : Nat :=
  if 0 < intervalMs.toRat then 2 * (timeoutMs.toRat / intervalMs.toRat).ceil.toNat + 10
  else 100000

end Poll

end ChainRelay
