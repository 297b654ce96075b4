import ChainRelay.Time.Seconds

/-!
# Alarms

Things that are to be done at given times. They are kept in a binary heap: the parent of place `i`
is place `(i - 1) / 2`, and no alarm is earlier than its parent. Nothing but the time is compared,
so it is the shape of the heap that says which of two alarms for one time comes first.

## Main definitions

* `Alarms.insert` — set an alarm
* `Alarms.popFirst?` — take the first alarm away
* `Alarms.takeDue`, `Alarms.dropStale` — take those that are due, or those at the front that nobody
  waits for any more
-/

namespace ChainRelay

/-- Something that is to be done at a time. -/
structure Alarm (τ α : Type) where
  time : τ
  what : α

/-- A heap of alarms. -/
abbrev Alarms (τ α : Type) := Array (Alarm τ α)

namespace Alarms

variable {τ α : Type} [Seconds τ]

/-- Let the alarm at a place rise until its parent is not later. -/
def rise (alarms : Alarms τ α) (place : Nat) : Alarms τ α :=
  if h : 0 < place ∧ place < alarms.size then
    let parent := (place - 1) / 2
    if alarms[place].time < alarms[parent].time then
      rise (alarms.swapIfInBounds place parent) parent
    else alarms
  else alarms
termination_by place

/-- The earlier child of a place, the right one if they are for the same time. -/
def child? (alarms : Alarms τ α) (place : Nat) : Option Nat :=
  let left := 2 * place + 1
  if h : left + 1 < alarms.size then
    some (if alarms[left].time < alarms[left + 1].time then left else left + 1)
  else if left < alarms.size then some left
  else none

theorem lt_of_child?_eq_some {alarms : Alarms τ α} {place child : Nat}
    (h : alarms.child? place = some child) : place < child ∧ child < alarms.size := by
  simp only [child?] at h
  split at h
  · split at h <;> simp only [Option.some.injEq] at h <;> omega
  · split at h
    · simp only [Option.some.injEq] at h
      omega
    · simp at h

/-- Let the alarm at a place sink to the bottom, past the earlier child each time. -/
def sink (alarms : Alarms τ α) (place : Nat) : Alarms τ α × Nat :=
  match _ : alarms.child? place with
  | none => (alarms, place)
  | some child => sink (alarms.swapIfInBounds place child) child
termination_by alarms.size - place
decreasing_by
  have := lt_of_child?_eq_some ‹alarms.child? place = some child›
  simp only [Array.size_swapIfInBounds]
  omega

/-- Set an alarm. -/
def insert (alarms : Alarms τ α) (alarm : Alarm τ α) : Alarms τ α :=
  rise (alarms.push alarm) alarms.size

/-- The first alarm, and the others. The last one takes its place, sinks to the bottom and rises
from there. -/
def popFirst? (alarms : Alarms τ α) : Option (Alarm τ α × Alarms τ α) :=
  match alarms[0]?, alarms.back? with
  | some first, some last =>
    let (others, place) := sink (alarms.pop.setIfInBounds 0 last) 0
    some (first, rise others place)
  | _, _ => none

/-- Take the alarms away that are due, as many as `count` at most, one after the other. -/
def takeDue (now : τ) : Nat → Alarms τ α → List α × Alarms τ α
  | 0, alarms => ([], alarms)
  | count + 1, alarms =>
    match alarms.popFirst? with
    | none => ([], alarms)
    | some (first, others) =>
      if Seconds.isDue first.time now then
        let (due, others) := takeDue now count others
        (first.what :: due, others)
      else ([], alarms)

/-- Take first alarms away, as many as `count` at most, for as long as nobody waits for them. -/
def dropStale (isStale : α → Bool) : Nat → Alarms τ α → Alarms τ α
  | 0, alarms => alarms
  | count + 1, alarms =>
    match alarms.popFirst? with
    | none => alarms
    | some (first, others) =>
      if isStale first.what then dropStale isStale count others else alarms

end Alarms

end ChainRelay
