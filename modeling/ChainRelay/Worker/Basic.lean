import ChainRelay.Broadcast.Queue
import ChainRelay.Broadcast.Request
import ChainRelay.Confirmation.Tracker
import ChainRelay.Settings
import ChainRelay.World.Basic

/-!
# What all workers share

The configuration of a relayer, notifications that never do harm, and the resolution of what is in
flight.
-/

namespace ChainRelay

/-- A relayer: its collaborators and its configuration. -/
structure Relayer (σ : Type) where
  collaborators : Collaborators σ
  settings : Settings
  services : TokenServices
  broadcasts : BroadcastQueue := {}
  /-- How many pages of a source are read in one run; one that needs more counts as endless. -/
  pageLimit : Nat := 100000

namespace Relayer

variable {σ τ α : Type}

/-- Notify the operators. -/
def notify (r : Relayer σ) (severity : Severity) (title body : String) : Work σ τ Unit :=
  Work.ask (r.collaborators.notify severity title body) (.notified severity title body)

/-- Notify the operators; a failure to do so is only logged. -/
def notifySafely (r : Relayer σ) (severity : Severity) (title body : String) : Work σ τ Unit := do
  match ← Work.attempt (r.notify severity title body) with
  | .ok () => pure ()
  | .error fault =>
    Work.log {
      level := .warning, logger := "relayer.processor", message := "notification failed"
      context := [("severity", .str severity.word)], fault := some fault }

/-- Ask the chain for a transaction. -/
def lookUp (r : Relayer σ) (txHash : String) : Work σ τ (Option ChainTransaction) :=
  Work.ask (r.collaborators.chain.transaction txHash) (.lookedUp txHash)

/-- Resolve something that was sent at `sentAt`. The poll runs on an exact clock of its own that
only its sleeps move. -/
def resolve (tracker : Tracker α) (logger key : String) (answers : Answers σ α)
    (event : Except Fault α → Event) (sentAt : Instant) : Work σ τ Confirmation :=
  fun w =>
    let fetch (w : World σ τ) : (Except Fault α × Rat) × World σ τ :=
      let (answer, w) := Work.query answers event w
      ((answer, 0), w)
    let fuel := Poll.ampleFuel tracker.pollTimeoutMs tracker.pollIntervalMs
    match (tracker.poll fetch).run fuel 0 w with
    | none => (.error .endless, w)
    | some run =>
      let w := run.state
      let report := (run.ending.report logger key tracker.pollTimeoutMs).toList
      (.ok (tracker.outcome run.ending (w.wallNow - sentAt)),
        { w with journal := w.journal ++ report })

/-- Resolve a transaction in flight. -/
def resolveTransaction (r : Relayer σ) (logger txHash : String) (sentAt : Instant) :
    Work σ τ Confirmation :=
  resolve Tracker.transactions logger ("chain-transaction:" ++ txHash)
    (r.collaborators.chain.transaction txHash) (.lookedUp txHash) sentAt

end Relayer

/-- The text of something that may be missing. -/
def shownText (text : Option String) : String := text.getD "None"

end ChainRelay
