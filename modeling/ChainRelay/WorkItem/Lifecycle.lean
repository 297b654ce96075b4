import ChainRelay.Fault
import ChainRelay.Time.Calendar
import ChainRelay.WorkItem.Basic

/-!
# The life of a work item

A pending item may stay pending, succeed or fail; an item that has succeeded or failed never
changes again. Its retry count never decreases, and at the ceiling it is not attempted any more.
A pending item rests before it can be claimed: for one delay before its first attempt and for
another one between attempts.
-/

namespace ChainRelay

namespace Status

/-- The statuses that may follow a status. -/
def successors : Status → List Status
  | pending => [pending, success, failed]
  | success => []
  | failed => []

/-- Whether an item with this status never changes again. -/
def isTerminal (s : Status) : Bool := s.successors.isEmpty

/-- Check a change of status. -/
def checkChange (source target : Status) : Except Fault Unit :=
  if source.successors.contains target then .ok ()
  else .error (.invariant ("illegal transition " ++ source.word ++ " -> " ++ target.word))

theorem isTerminal_iff (s : Status) : s.isTerminal = true ↔ s ≠ pending := by
  cases s <;> simp [isTerminal, successors]

theorem checkChange_eq_ok_iff (s t : Status) : checkChange s t = .ok () ↔ s = pending := by
  cases s <;> cases t <;> simp [checkChange, successors]

end Status

/-- The number of failed attempts after which an item is given up. -/
def retryCeiling : Int := 3

/-- Whether an item is given up. -/
def ceilingReached (retry : Int) (ceiling : Int) : Bool := ceiling ≤ retry

theorem ceilingReached_eq_false_iff {retry ceiling : Int} :
    ceilingReached retry ceiling = false ↔ retry < ceiling := by
  rw [ceilingReached, decide_eq_false_iff_not, Int.not_le]

theorem ceilingReached_iff {retry ceiling : Int} :
    ceilingReached retry ceiling = true ↔ ceiling ≤ retry := by
  rw [ceilingReached, decide_eq_true_iff]

/-- Check a change of the retry count. -/
def checkRetry (before after : Int) : Except Fault Unit :=
  if after < before then
    .error (.invariant
      ("retry must not decrease (" ++ toString before ++ " -> " ++ toString after ++ ")"))
  else .ok ()

theorem checkRetry_eq_ok_iff (before after : Int) :
    checkRetry before after = .ok () ↔ before ≤ after := by
  unfold checkRetry
  split <;> simp <;> omega

/-! ### Backoff -/

/-- How long an item rests before a claim, in seconds. -/
structure Backoff where
  /-- Before the first attempt. -/
  first : Quantity := 0
  /-- Between attempts. -/
  between : Quantity := 0
  deriving Inhabited

namespace Backoff

/-- The rest of an item with this retry count as configured. -/
def quietTime (b : Backoff) (retry : Int) : Quantity := if retry ≤ 0 then b.first else b.between

/-- The rest of an item with this retry count, in microseconds. -/
def delay (b : Backoff) (retry : Int) : Int :=
  (b.quietTime retry).micros

/-- Check that the rest of an item with this retry count can be counted back from `now`. -/
def check (b : Backoff) (retry : Int) (now : Instant) : Except Fault Unit := do
  let span ← (b.quietTime retry).span
  let _ ← Instant.checked (now - span)

/-- Whether an item last written at `updatedAt` can be claimed at `now`. -/
def eligible (b : Backoff) (retry : Int) (updatedAt now : Instant) : Bool :=
  updatedAt ≤ now - b.delay retry

end Backoff

/-! ### Settings of the queues -/

/-- How the queue of a family is worked off. -/
structure QueueSettings where
  family : Family
  backoff : Backoff
  batchSize : Int := 10
  timeout : Quantity := 60
  ceiling : Int := retryCeiling
  deriving Inhabited

/-- The settings of each family: messages wait for their task to be written out and are retried
slowly, the others are tried at once. -/
def QueueSettings.standard (family : Family) : QueueSettings :=
  match family with
  | .messageApproved => { family, backoff := ⟨15, 360⟩ }
  | .stacksTransaction => { family, backoff := ⟨0, 15⟩ }
  | .crossChainTransaction => { family, backoff := ⟨0, 5⟩ }

end ChainRelay
