import ChainRelay.Fleet.Basic

/-!
# The course of a fleet

The errands on the agenda of a fleet are done one after the other, and round after round. How many
errands may be done is bounded, as a fleet may go on for ever.

## Main definitions

* `Fleet.step` — do one errand, or begin the next round
* `Fleet.finish` — go on until all workers have ended
* `Fleet.passUntilCalled` — go on until whoever waits outside is called
-/

namespace ChainRelay.Fleet

variable {τ : Type} [Seconds τ]

/-- Do an errand. -/
def perform (b : Behavior) (f : Fleet τ) : Errand → Fleet τ
  | .startWorker worker => f.startLoops worker
  | .startLoop index | .goOn index 0 => f.act b index
  | .listen index wait => f.listen index wait
  | .leave index wait => f.leave index wait
  | .release index wait => f.release index wait
  | .wake index wait => f.wake b index wait
  | .goOn index (rounds + 1) => f.putOff (.goOn index rounds)
  | .askToStop => f.askToStop
  | .outside 0 => f
  | .outside (rounds + 1) => f.putOff (.outside rounds)

/-- Do one errand, or begin the next round. -/
def step (b : Behavior) (f : Fleet τ) : Fleet τ :=
  match f.agenda.next? with
  | some (errand, agenda) => perform b { f with agenda } errand
  | none => { f with agenda := f.agenda.nextRound f.isStale }

/-- Go on until all workers have ended, in so many steps at most. -/
def finish (b : Behavior) : Nat → Fleet τ → Fleet τ
  | 0, f => f
  | steps + 1, f => if f.workers.any Worker.atWork then finish b steps (f.step b) else f

/-- Start all workers and go on until all have ended. At `stopAt`, unless they have been asked
before, they are asked to stop. -/
def run (b : Behavior) (stopAt : Option τ) (steps : Nat) (f : Fleet τ) : Fleet τ :=
  let f := match stopAt with
    | some pause => f.doAfter pause .askToStop
    | none => f
  f.start.finish b steps

/-- Go on until whoever waits outside is called, in so many steps at most. -/
def passUntilCalled (b : Behavior) : Nat → Fleet τ → Fleet τ
  | 0, f => f
  | steps + 1, f =>
    match f.agenda.next? with
    | some (.outside 0, agenda) => { f with agenda }
    | _ => passUntilCalled b steps (f.step b)

/-- Wait outside of a fleet, which goes on meanwhile. -/
def pass (b : Behavior) (pause : τ) (steps : Nat) (f : Fleet τ) : Fleet τ :=
  let f := if pause ≤ Seconds.whole 0 then f.putOff (.outside 0) else f.doAfter pause (.outside 1)
  f.passUntilCalled b steps

end ChainRelay.Fleet
