import ChainRelay.Time.Alarms

/-!
# Agendas

What is to be done, by a single hand that never stops in the middle of something. It works in
rounds. What is put off in one round is done in the next one, in the same order and followed by
whatever has become due. The clock stands still during a round. When nothing has been put off it
leaps to the first alarm; then all alarms within a grain of that time are due together.
-/

namespace ChainRelay

/-- What is to be done. -/
structure Agenda (τ α : Type) where
  now : τ
  /-- What is left of this round. -/
  current : List α := []
  /-- What has been put off to the next round. -/
  later : Array α := #[]
  alarms : Alarms τ α := #[]

namespace Agenda

variable {τ α : Type} [Seconds τ]

/-- Put something off to the next round. -/
def putOff (a : Agenda τ α) (what : α) : Agenda τ α := { a with later := a.later.push what }

/-- Have something done after a while. -/
def doAfter (a : Agenda τ α) (pause : τ) (what : α) : Agenda τ α :=
  { a with alarms := a.alarms.insert ⟨a.now + pause, what⟩ }

/-- The time of the next round: that of the first alarm, unless something has been put off or the
alarm is late already. -/
def nextTime (a : Agenda τ α) : τ :=
  match a.alarms[0]? with
  | some first => if a.later.isEmpty && decide (a.now < first.time) then first.time else a.now
  | none => a.now

/-- Begin the next round. First alarms that nobody waits for any more are forgotten. -/
def nextRound (isStale : α → Bool) (a : Agenda τ α) : Agenda τ α :=
  let a := { a with alarms := Alarms.dropStale isStale a.alarms.size a.alarms }
  let now := a.nextTime
  let (due, alarms) := Alarms.takeDue now a.alarms.size a.alarms
  { now, current := a.later.toList ++ due, alarms }

/-- The next thing to do, if there is one left in this round. -/
def next? (a : Agenda τ α) : Option (α × Agenda τ α) :=
  match a.current with
  | [] => none
  | what :: rest => some (what, { a with current := rest })

end Agenda

end ChainRelay
