import ChainRelay.Worker.Basic
import ChainRelay.World.Queue

/-!
# Draining a queue

Batches are claimed and worked off until one of them advances nothing, the greatest number of
batches is reached, or no further batch would be sure to end before the deadline.
-/

namespace ChainRelay

/-- How a queue is drained. -/
structure Drain (σ τ : Type) where
  settings : QueueSettings
  handler : List WorkItem → Work σ τ (List WorkItem)
  maxBatches : Int := 100
  /-- How many seconds a drain may take. -/
  deadline : Option Quantity := none

namespace Drain

variable {σ τ : Type} [Seconds τ]

/-- A log line about a drain. -/
def line (d : Drain σ τ) (level : LogLevel) (message : String) : LogLine where
  level := level
  logger := "runtime"
  message := message
  context := [("family", .str d.settings.family.word)]

/-- Work off one batch and count the items that it advanced. -/
def once (d : Drain σ τ) : Work σ τ Nat := do
  let order : Work.BatchOrder :=
    ⟨d.settings.family, d.settings.batchSize, d.settings.timeout, d.settings.backoff⟩
  let results ← Work.processPending order d.handler
  return results.length

/-- Whether a batch that starts now might end after the deadline. -/
def late (d : Drain σ τ) (started now : τ) : Bool :=
  match d.deadline with
  | none => false
  | some deadline =>
    Seconds.isOver (now - started + Seconds.ofQuantity d.settings.timeout) deadline

/-- Tell the operators that a batch took too long. -/
def reportTimeout (r : Relayer σ) (d : Drain σ τ) : Work σ τ Unit := do
  Work.log (d.line .warning "queue processing has timed out, will be retried")
  match ← Work.attempt (r.notify .warn (d.settings.family.word ++ " processing timeout")
      "Processing has timed out. Will be retried") with
  | .ok () => pure ()
  | .error fault =>
    Work.log { d.line .warning "notification failed" with fault := some fault }

/-- Drain with so many batches left, after `done` batches that advanced `total` items. -/
def runFrom (r : Relayer σ) (d : Drain σ τ) (started : τ) : Nat → Nat → Nat → Work σ τ Nat
  | 0, _, total => do
    Work.log (d.line .warning
      ("queue drain stopped after " ++ toString d.maxBatches ++ " batches"))
    return total
  | left + 1, done, total => do
    if done ≠ 0 && d.late started (← get).monoNow then
      Work.log (d.line .info
        ("queue drain paused after " ++ toString done ++ " batches to stay within " ++
          (d.deadline.getD 0).text ++ "s"))
      return total
    else
      match ← Work.attempt d.once with
      | .ok advanced =>
        if advanced = 0 then return total
        else runFrom r d started left (done + 1) (total + advanced)
      | .error fault =>
        match fault with
        | .queueTimeout _ _ => reportTimeout r d
        | _ => pure ()
        Work.fail fault

/-- Drain a queue and count the advanced items. -/
def run (r : Relayer σ) (d : Drain σ τ) : Work σ τ Nat := do
  runFrom r d (← get).monoNow d.maxBatches.toNat 0 0

end Drain

end ChainRelay
