import ChainRelay.Proofs.Worker.InFlight
import ChainRelay.Worker.Outbound

/-!
# What becomes of an outbound item

An outbound item that is worked on afresh is given up, held back or sent, and its transaction is
sent in the same turn in which it was built. A failing collaborator ends the turn at any point
without a result.

## Main definitions

* `SignedTransaction.knownAs` — the hash under which an accepted transaction is known
* `OutboundCourse` — work on an item with nothing in flight, by how far it came
* `OutboundTurn` — the same with the report of a failure that ended it

## Main results

* `Relayer.outboundFresh_asks` — fresh work takes one of these courses
* `Relayer.outboundItem_course` — the course of an outbound item, whatever is in flight for it
-/

namespace ChainRelay

variable {σ τ : Type}

/-- The hash under which an accepted transaction is known: the one that was answered, if there is
one. -/
def SignedTransaction.knownAs (transaction : SignedTransaction) (answer : SendResult) : String :=
  if answer.txHash.getD "" = "" then transaction.txId else answer.txHash.getD ""

/-- An item whose transaction was sent. One that replaces another costs a retry. -/
def WorkItem.sentAs (item : WorkItem) (txHash : String) : WorkItem :=
  { item with
    txHash := some txHash
    retry := if item.txHash.isSome then item.retry + 1 else item.retry }

/-- Work on an outbound item with nothing in flight, by what was recorded and how it ended. -/
inductive OutboundCourse (item : WorkItem) :
    List Event → Except Halt (Option WorkItem) → Prop
  /-- Nothing was built. -/
  | givenUp {events : List Event} {result : Except Halt (Option WorkItem)}
      (asides : ∀ e ∈ events, e.IsAside)
      (decided : ∀ out, result = .ok out → out = some { item with status := .failed }) :
      OutboundCourse item events result
  /-- A transaction was asked for, and none was sent. -/
  | unbuilt {first rest : List Event} {answer : Except Fault BuildOutcome}
      {result : Except Halt (Option WorkItem)} (asides : ∀ e ∈ first ++ rest, e.IsAside)
      (decided : ∀ out, result = .ok out →
        out = some { item with retry := item.retry + 1, txHash := none } ∨
        out = some { item with status := .failed }) :
      OutboundCourse item (first ++ .built item answer :: rest) result
  /-- A transaction was built and sent. There is a result exactly if it was accepted. -/
  | sent {first : List Event} {o : BuildOutcome} {transaction : SignedTransaction}
      {answer : Except Fault SendResult} {result : Except Halt (Option WorkItem)}
      (asides : ∀ e ∈ first, e.IsAside) (built : o.transaction = some transaction)
      (decided : ∀ out, result = .ok out ↔ ∃ accepted, answer = .ok accepted ∧
        accepted.success = true ∧ out = some (item.sentAs (transaction.knownAs accepted))) :
      OutboundCourse item (first ++ [.built item (.ok o), .sent transaction answer]) result

/-- The turn of an outbound item with nothing in flight: a failing collaborator is reported, and
there is no result then. -/
def OutboundTurn (item : WorkItem) (events : List Event)
    (result : Except Halt (Option WorkItem)) : Prop :=
  ∃ main report ending, events = main ++ report ∧ (∀ e ∈ report, e.IsAside) ∧
    OutboundCourse item main ending ∧
    ((∃ out, ending = .ok out ∧ result = .ok out) ∨
      (∃ halt, ending = .error halt) ∧ ∀ out, result = .ok out → out = none)

namespace Relayer

/-! ### Before a build -/

theorem failOutbound_yields (r : Relayer σ) (item : WorkItem) (reason : String) :
    (r.failOutbound item reason : Work σ τ WorkItem).Yields Event.IsAside
      fun out => out = { item with status := .failed } :=
  Work.Yields.bind (Work.yields_log _) fun _ _ =>
    Work.Yields.bind (r.notifySafely_yields _ _ _) fun _ _ => Work.yields_pure rfl

theorem refundObstacle_yields (r : Relayer σ) (refund : Refund) :
    (r.refundObstacle refund : Work σ τ (Option String)).Yields Event.IsAside fun _ => True := by
  rw [refundObstacle]
  split
  · exact Work.yields_pure trivial
  · refine Work.Yields.bind (Work.yields_ask fun _ => ⟨rfl, rfl⟩) fun balance _ => ?_
    split
    · exact Work.yields_fail _
    · split
      · exact Work.yields_pure trivial
      · exact Work.yields_pure trivial

theorem outboundObstacle_yields (r : Relayer σ) (item : WorkItem) :
    (r.outboundObstacle item : Work σ τ (Option String)).Yields Event.IsAside fun _ => True := by
  rw [outboundObstacle]
  split
  · exact Work.yields_pure trivial
  · exact r.refundObstacle_yields _
  · exact Work.yields_pure trivial

/-! ### From the build on -/

/-- A transaction is sent once, and a rejection is a failure. -/
theorem sendBuilt_asks (r : Relayer σ) (item : WorkItem) (transaction : SignedTransaction) :
    (r.sendBuilt item transaction : Work σ τ WorkItem).Asks fun events result =>
      ∃ answer, events = [.sent transaction answer] ∧
        ∀ out, result = .ok out ↔ ∃ accepted, answer = .ok accepted ∧ accepted.success = true ∧
          out = item.sentAs (transaction.knownAs accepted) := by
  rw [sendBuilt]
  refine Work.Asks.bind (Work.asks_ask _ _) ?_ ?_
  · rintro accepted first ⟨answer, rfl, hanswer⟩
    obtain rfl : .ok accepted = answer := Work.mapError_fault_injective hanswer
    -- nothing is recorded after the answer
    cases hsuccess : accepted.success with
    | true =>
      rw [if_pos rfl]
      refine Work.asks_log_bind ((Work.asks_pure _).mono ?_)
      rintro rest ending ⟨rfl, rfl⟩
      refine ⟨.ok accepted, rfl, fun out => ⟨fun h => ?_, ?_⟩⟩
      · cases h
        exact ⟨accepted, rfl, hsuccess, rfl⟩
      · rintro ⟨_, hsame, -, rfl⟩
        cases hsame
        rfl
    | false =>
      rw [if_neg Bool.false_ne_true]
      refine (Work.asks_fail _).mono ?_
      rintro rest ending ⟨rfl, rfl⟩
      refine ⟨.ok accepted, rfl, fun out => ⟨fun h => (by cases h), ?_⟩⟩
      rintro ⟨_, hsame, htrue, -⟩
      cases hsame
      cases hsuccess.symm.trans htrue
  · rintro halt events ⟨answer, rfl, hanswer⟩
    refine ⟨answer, rfl, fun out => ⟨fun h => (by cases h), ?_⟩⟩
    rintro ⟨accepted, rfl, -⟩
    cases hanswer

/-- What follows the answer to a build, once the item was found fit to be sent. -/
theorem buildOutbound_asks (r : Relayer σ) (item : WorkItem) {first : List Event}
    (hfirst : ∀ e ∈ first, e.IsAside) :
    (r.buildOutbound item : Work σ τ WorkItem).Asks fun events result =>
      OutboundCourse item (first ++ events) (result.map some) := by
  rw [buildOutbound]
  refine Work.Asks.bind (Work.asks_ask _ _) ?_ ?_
  · rintro o second ⟨answer, rfl, hanswer⟩
    obtain rfl : .ok o = answer := Work.mapError_fault_injective hanswer
    -- an outcome after which nothing is sent
    have unbuilt {next : Work σ τ WorkItem}
        (hnext : next.Yields Event.IsAside fun out =>
          out = { item with retry := item.retry + 1, txHash := none } ∨
          out = { item with status := .failed }) :
        next.Asks fun rest result => OutboundCourse item
          (first ++ ([.built item (.ok o)] ++ rest)) (result.map some) := by
      refine Work.Asks.mono hnext fun rest result ⟨hrest, hout⟩ => ?_
      refine .unbuilt (fun e he => ?_) fun out h => ?_
      · rcases List.mem_append.mp he with he | he
        · exact hfirst e he
        · exact hrest e he
      · cases result with
        | error halt => cases h
        | ok out' =>
          cases h
          exact (hout out' rfl).imp (congrArg some) (congrArg some)
    cases hkind : o.kind? with
    | none => exact unbuilt (Work.yields_fail _)
    | some kind =>
      cases kind with
      | recoverable =>
        apply unbuilt
        refine Work.Yields.bind (Work.yields_log _) fun _ _ => ?_
        refine Work.Yields.bind (Work.yields_ask fun _ => ⟨rfl, rfl⟩) fun _ _ => ?_
        exact Work.yields_pure (.inl rfl)
      | insufficientBalance =>
        exact unbuilt (Work.Yields.mono (r.failOutbound_yields item _) (fun _ h => h)
          fun _ h => .inr h)
      | invalidPayload =>
        exact unbuilt (Work.Yields.mono (r.failOutbound_yields item _) (fun _ h => h)
          fun _ h => .inr h)
      | built =>
        dsimp only
        cases htx : o.transaction with
        | none => exact unbuilt (Work.yields_fail _)
        | some transaction =>
          refine (r.sendBuilt_asks item transaction).mono ?_
          rintro rest result ⟨answer, rfl, hout⟩
          refine .sent hfirst htx fun out => ⟨fun h => ?_, ?_⟩
          · cases result with
            | error halt => cases h
            | ok out' =>
              cases h
              obtain ⟨accepted, hanswer, hsuccess, rfl⟩ := (hout out').mp rfl
              exact ⟨accepted, hanswer, hsuccess, rfl⟩
          · rintro ⟨accepted, hanswer, hsuccess, rfl⟩
            rw [(hout _).mpr ⟨accepted, hanswer, hsuccess, rfl⟩]
            rfl
  · rintro halt second ⟨answer, rfl, -⟩
    have hasides : ∀ e ∈ first ++ [], e.IsAside := by simpa using hfirst
    exact .unbuilt hasides fun out h => by cases h

theorem sendOutbound_asks (r : Relayer σ) (item : WorkItem) :
    (r.sendOutbound item : Work σ τ WorkItem).Asks fun events result =>
      OutboundCourse item events (result.map some) := by
  rw [sendOutbound]
  refine Work.Asks.bind (r.outboundObstacle_yields item) ?_ ?_
  · rintro obstacle first ⟨hfirst, -⟩
    cases obstacle with
    | none => exact r.buildOutbound_asks item hfirst
    | some reason =>
      refine Work.Asks.mono (r.failOutbound_yields item reason) fun rest result ⟨hrest, hout⟩ => ?_
      refine .givenUp (fun e he => ?_) fun out h => ?_
      · rcases List.mem_append.mp he with he | he
        · exact hfirst e he
        · exact hrest e he
      · cases result with
        | error halt => cases h
        | ok out' =>
          cases h
          rw [hout out' rfl]
  · rintro halt events ⟨hevents, -⟩
    exact .givenUp hevents fun out h => by cases h

/-! ### A whole turn -/

/-- **Fresh work on an outbound item.** -/
theorem outboundFresh_asks (r : Relayer σ) (item : WorkItem) :
    (r.outboundFresh item : Work σ τ (Option WorkItem)).Asks (OutboundCourse item) := by
  rw [outboundFresh]
  split
  · refine Work.Asks.bind (r.failOutbound_yields item _) ?_ ?_
    · rintro out first ⟨hfirst, hout⟩
      refine (Work.asks_pure _).mono ?_
      rintro rest result ⟨rfl, rfl⟩
      rw [List.append_nil]
      refine .givenUp hfirst fun out' h => ?_
      cases h
      rw [hout out rfl]
    · rintro halt events ⟨hevents, -⟩
      exact .givenUp hevents fun out h => by cases h
  · refine Work.Asks.bind (r.sendOutbound_asks item) ?_ ?_
    · rintro out first hfirst
      refine (Work.asks_pure _).mono ?_
      rintro rest result ⟨rfl, rfl⟩
      rw [List.append_nil]
      exact hfirst
    · rintro halt events h
      exact h

/-- The course of an outbound item up to a failure, for every description of fresh work. -/
theorem advanceOutbound_course_of (r : Relayer σ) (item : WorkItem)
    {fresh : List Event → Except Halt (Option WorkItem) → Prop}
    (hfresh : (r.outboundFresh item : Work σ τ (Option WorkItem)).Asks fresh) (w : World σ τ) :
    ∃ events, w.Later (r.advanceOutbound item w).2 events ∧
      Course r item w false fresh none
        (some { item with status := .success }) events (r.advanceOutbound item w).1 := by
  refine Course.of_resolution outboundLogger (r.outboundFresh item) (r.outboundResolved item)
    (fun h => ?_) (fun txHash h => ?_) (fun _ => rfl) (fun _ => rfl) (fun _ => rfl)
    (fun _ => rfl) (fun txHash => ?_) hfresh w
  · rw [advanceOutbound, h]
  · rw [advanceOutbound, h]
  · rw [outboundResolved]
    refine Work.asks_log_bind ?_
    exact (Work.asks_pure _).mono fun events result ⟨hnil, hok⟩ => .inr ⟨rfl, hnil, hok⟩

/-- The course of an outbound item up to a failure. -/
theorem advanceOutbound_course (r : Relayer σ) (item : WorkItem) (w : World σ τ) :
    ∃ events, w.Later (r.advanceOutbound item w).2 events ∧
      Course r item w false (OutboundCourse item) none
        (some { item with status := .success }) events (r.advanceOutbound item w).1 :=
  r.advanceOutbound_course_of item (r.outboundFresh_asks item) w

/-- What follows a failure only reports it, and there is no result. -/
theorem outboundItem_apply (r : Relayer σ) (item : WorkItem) (w : World σ τ) :
    (∃ out w', r.advanceOutbound item w = (.ok out, w') ∧
      r.outboundItem item w = (.ok out, w')) ∨
    ∃ halt w', r.advanceOutbound item w = (.error halt, w') ∧
      ∃ report, w'.Later (r.outboundItem item w).2 report ∧ (∀ e ∈ report, e.IsAside) ∧
        ∀ out, (r.outboundItem item w).1 = .ok out → out = none := by
  cases hrun : r.advanceOutbound item w with
  | mk result w' =>
    match result with
    | .ok out =>
      refine .inl ⟨out, w', rfl, ?_⟩
      rw [outboundItem, Work.bind_apply_of_ok (Work.attempt_apply_of_ok hrun)]
      rfl
    | .error (.fault fault) =>
      refine .inr ⟨_, w', rfl, ?_⟩
      rw [outboundItem, Work.bind_apply_of_ok (Work.attempt_apply_of_fault hrun)]
      -- the report
      have hreport : (if fault.isDependency then do
          Work.log (outboundLine .warning item
            ("error while processing stacks transaction, will be retried: " ++ fault.message))
          r.notifySafely .warn "Stacks transaction processing error"
            ("An error occurred while processing StacksTransaction with id " ++ item.key ++
              ". Will be retried")
          return none
        else Work.fail fault : Work σ τ (Option WorkItem)).Yields Event.IsAside
          fun out => out = none := by
        split
        · refine Work.Yields.bind (Work.yields_log _) fun _ _ => ?_
          exact Work.Yields.bind (r.notifySafely_yields _ _ _) fun _ _ => Work.yields_pure rfl
        · exact Work.yields_fail _
      obtain ⟨report, later, hasides, hnone⟩ := hreport w'
      exact ⟨report, later, hasides, hnone⟩
    | .error (.cancelled depth) =>
      refine .inr ⟨_, w', rfl, ?_⟩
      have hhalted : Work.attempt (r.advanceOutbound item) w = (.error (.cancelled depth), w') := by
        rw [Work.attempt, hrun]
      rw [outboundItem, Work.bind_apply_of_error hhalted]
      exact ⟨[], World.Later.refl w', by simp, fun out h => by cases h⟩
    | .error .endless =>
      refine .inr ⟨_, w', rfl, ?_⟩
      have hhalted : Work.attempt (r.advanceOutbound item) w = (.error .endless, w') := by
        rw [Work.attempt, hrun]
      rw [outboundItem, Work.bind_apply_of_error hhalted]
      exact ⟨[], World.Later.refl w', by simp, fun out h => by cases h⟩

/-- **The course of an outbound item**, whatever is in flight for it. -/
theorem outboundItem_course (r : Relayer σ) (item : WorkItem) (w : World σ τ) :
    ∃ events, w.Later (r.outboundItem item w).2 events ∧
      Course r item w false (OutboundTurn item) none
        (some { item with status := .success }) events (r.outboundItem item w).1 := by
  obtain ⟨main, later, course⟩ := r.advanceOutbound_course item w
  rcases r.outboundItem_apply item w with
    ⟨out, w', hadvance, hitem⟩ | ⟨halt, w', hadvance, report, later', hasides, hnone⟩
  · rw [hadvance] at later course
    rw [hitem]
    refine ⟨main, later, ?_⟩
    cases course with
    | unsent unsent h =>
      exact .unsent unsent ⟨_, [], _, by simp, by simp, h, .inl ⟨out, rfl, rfl⟩⟩
    | left sent waiting => exact .left sent waiting
    | finished sent succeeded last => exact .finished sent succeeded last
    | renewed sent releases h =>
      exact .renewed sent releases ⟨_, [], _, by simp, by simp, h, .inl ⟨out, rfl, rfl⟩⟩
  · rw [hadvance] at later course
    refine ⟨main ++ report, later.trans later', ?_⟩
    cases course with
    | unsent unsent h =>
      exact .unsent unsent ⟨_, report, _, rfl, hasides, h, .inr ⟨⟨halt, rfl⟩, hnone⟩⟩
    | renewed sent releases h =>
      exact .renewed sent releases
        ⟨_, report, _, rfl, hasides, h, .inr ⟨⟨halt, rfl⟩, hnone⟩⟩

end Relayer

end ChainRelay
