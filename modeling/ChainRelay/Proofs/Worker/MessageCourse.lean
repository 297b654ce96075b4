import ChainRelay.Proofs.Worker.InFlight
import ChainRelay.Worker.MessageApproved

/-!
# What becomes of an approved message

The decision about a message is a function of one answer: that of the executor that was asked to
build a transaction for it. Everything else that is done in its turn, from notifications to the
event for the hub, has no influence on the decision unless it ends the batch.

## Main definitions

* `BuildOutcome.decision?` — the decision that an outcome of a build leads to
* `MessageCourse` — work on a message with nothing in flight: given up, or built

## Main results

* `Relayer.failTerminal_asks` — what is recorded when a message is given up
* `Relayer.decideFresh_asks` — fresh work takes one of these two courses
* `Relayer.decideMessage_course` — the course of a message, whatever is in flight for it
-/

namespace ChainRelay

variable {σ τ : Type}

/-! ### Reports -/

namespace Relayer

/-- Going through the results of a post records reports at most, and none if nobody is to be
told. -/
theorem reviewResults_yields_of (r : Relayer σ) (events : List Json) (correlation : String)
    {tell : Bool} (results : List EventResult) {p : Event → Prop}
    (h : tell = true → ∀ severity title body answer, p (.notified severity title body answer)) :
    (r.reviewResults events correlation tell results : Work σ τ Unit).Yields p fun _ => True := by
  induction results with
  | nil => exact Work.yields_pure trivial
  | cons result rest ih =>
    rw [reviewResults]
    split
    · exact ih
    · refine Work.Yields.bind (Work.yields_ofExcept _) fun type _ => ?_
      dsimp only
      split
      · refine Work.Yields.bind (Work.yields_log _) fun _ _ => ?_
        split
        · exact Work.Yields.bind (r.notifySafely_yields_of _ _ _ (h ‹_› _ _ _)) fun _ _ => ih
        · exact ih
      · refine Work.Yields.bind (Work.yields_log _) fun _ _ => ?_
        have hend : (Work.ofExcept ((eventOf events result.index).get "eventID") >>= fun id =>
            Work.fail (.retriableRejection (id.getD (.str correlation)).shown result.error) :
              Work σ τ Unit).Yields p fun _ => True :=
          Work.Yields.bind (Work.yields_ofExcept _) fun _ _ => Work.yields_fail _
        split
        · exact Work.Yields.bind (r.notifySafely_yields_of _ _ _ (h ‹_› _ _ _)) fun _ _ => hend
        · exact hend

theorem reviewResults_yields (r : Relayer σ) (events : List Json) (correlation : String)
    (tell : Bool) (results : List EventResult) :
    (r.reviewResults events correlation tell results : Work σ τ Unit).Yields Event.IsAside
      fun _ => True :=
  r.reviewResults_yields_of events correlation results fun _ _ _ _ _ => ⟨rfl, rfl⟩

theorem publish_yields (r : Relayer σ) (events : List Json) (correlation : String) (tell : Bool) :
    (r.publish events correlation tell : Work σ τ Unit).Yields Event.IsAside fun _ => True := by
  rw [publish]
  split
  · exact Work.yields_pure trivial
  · refine Work.Yields.bind (Work.yields_ask fun _ => ⟨rfl, rfl⟩) fun results _ => ?_
    split
    · exact Work.yields_fail _
    · exact r.reviewResults_yields _ _ _ _

theorem failInvalid_yields (r : Relayer σ) (item : WorkItem) (detail : String) :
    (r.failInvalid item detail : Work σ τ WorkItem).Yields Event.IsAside
      fun out => out = { item with status := .failed } :=
  Work.Yields.bind (Work.yields_log _) fun _ _ =>
    Work.Yields.bind (r.notifySafely_yields _ _ _) fun _ _ => Work.yields_pure rfl

theorem reportGivenUp_yields (r : Relayer σ) (item : WorkItem) (reason : CannotExecute) :
    (r.reportGivenUp item reason : Work σ τ Unit).Yields Event.IsAside fun _ => True := by
  unfold reportGivenUp
  cases reason with
  | error => exact Work.Yields.bind (Work.yields_log _) fun _ _ => r.notifySafely_yields _ _ _
  | insufficientGas =>
    exact Work.Yields.bind (Work.yields_log _) fun _ _ => r.notifySafely_yields _ _ _

theorem tellHub_yields (r : Relayer σ) (item : WorkItem) (reason : CannotExecute) :
    (r.tellHub item reason : Work σ τ Unit).Yields Event.IsAside fun _ => True := by
  rw [tellHub]
  split
  · refine Work.Yields.bind (Work.yields_attempt (r.publish_yields _ _ _)) fun outcome _ => ?_
    cases outcome with
    | ok _ => exact Work.yields_pure trivial
    | error fault =>
      dsimp only
      split
      · exact Work.yields_log _
      · exact Work.yields_fail _
  · exact Work.yields_pure trivial

theorem failTerminal_yields (r : Relayer σ) (item : WorkItem) (reason : CannotExecute) :
    (r.failTerminal item reason : Work σ τ WorkItem).Yields Event.IsAside
      fun out => out = { item with status := .failed } :=
  Work.Yields.bind (r.reportGivenUp_yields item reason) fun _ _ =>
    Work.Yields.bind (r.tellHub_yields item reason) fun _ _ => Work.yields_pure rfl

end Relayer

/-! ### Giving up -/

/-- How bad it is for the operators. -/
def CannotExecute.severity : CannotExecute → Severity
  | error => .error
  | insufficientGas => .warn

/-- How the operators are told that a message is given up. -/
def WorkItem.givenUpReport (item : WorkItem) (reason : CannotExecute) : String :=
  "Could not execute MessageApproved " ++ item.description ++ " after " ++
    toString item.retry ++ " retries, " ++ reason.word

namespace Relayer

variable (r : Relayer σ)

/-- The record of giving a message up, by the answers of operators and hub. -/
def givenUpEvents (item : WorkItem) (m : Message) (reason : CannotExecute)
    (told : Except Fault Unit) (answer : Except Fault (List EventResult)) : List Event :=
  [.notified reason.severity "Message approved failed" (item.givenUpReport reason) told,
    .posted [cannotExecuteEvent item m r.settings.sourceChain reason] (item.txHash.getD "") answer]

theorem reportGivenUp_asks (item : WorkItem) (reason : CannotExecute) :
    (r.reportGivenUp item reason : Work σ τ Unit).Asks fun events result =>
      ∃ told, events = [.notified reason.severity "Message approved failed"
        (item.givenUpReport reason) told] ∧ result = .ok () := by
  unfold reportGivenUp
  cases reason with
  | error => exact Work.asks_log_bind (r.notifySafely_asks _ _ _)
  | insufficientGas => exact Work.asks_log_bind (r.notifySafely_asks _ _ _)

/-- A single event that nobody is told about leaves one entry in the record. -/
theorem publish_asks (event : Json) (correlation : String) :
    (r.publish [event] correlation false : Work σ τ Unit).Asks fun events _ =>
      ∃ answer, events = [.posted [event] correlation answer] := by
  rw [publish, if_neg (by simp)]
  refine Work.Asks.bind (Work.asks_ask _ _) ?_ ?_
  · rintro results first ⟨answer, rfl, -⟩
    -- nothing else is recorded
    have hend {next : Work σ τ Unit} (hnext : next.Yields (fun _ => False) fun _ => True) :
        next.Asks fun rest _ => ∃ answer',
          [Event.posted [event] correlation answer] ++ rest =
            [.posted [event] correlation answer'] := by
      refine Work.Asks.mono hnext fun rest _ hrest => ⟨answer, ?_⟩
      rw [List.eq_nil_iff_forall_not_mem.mpr hrest.1, List.append_nil]
    split
    · exact hend (Work.yields_fail _)
    · exact hend (r.reviewResults_yields_of _ _ _ fun htell => by cases htell)
  · rintro halt events ⟨answer, rfl, -⟩
    exact ⟨answer, rfl⟩

theorem tellHub_asks {item : WorkItem} {m : Message} (hpayload : item.payload = .message m)
    (reason : CannotExecute) :
    (r.tellHub item reason : Work σ τ Unit).Asks fun events _ =>
      ∃ answer, events = [.posted [cannotExecuteEvent item m r.settings.sourceChain reason]
        (item.txHash.getD "") answer] := by
  rw [tellHub, hpayload]
  refine Work.Asks.bind (Work.asks_attempt (r.publish_asks _ _)) ?_ ?_
  · rintro outcome first ⟨answer, rfl⟩
    have hend {next : Work σ τ Unit} (hnext : next.Asks fun rest _ => rest = []) :
        next.Asks fun rest _ => ∃ answer',
          [Event.posted [cannotExecuteEvent item m r.settings.sourceChain reason]
            (item.txHash.getD "") answer] ++ rest = [.posted _ _ answer'] :=
      hnext.mono fun rest _ hrest => ⟨answer, by rw [hrest, List.append_nil]⟩
    cases outcome with
    | ok _ => exact hend ((Work.asks_pure _).mono fun _ _ h => h.1)
    | error fault =>
      dsimp only
      split
      · exact hend ((Work.asks_log _).mono fun _ _ h => h.1)
      · exact hend ((Work.asks_fail _).mono fun _ _ h => h.1)
  · exact fun halt events h => h

/-- **Giving a message up**: one report, one event for the hub, and nothing else. -/
theorem failTerminal_asks {item : WorkItem} {m : Message} (hpayload : item.payload = .message m)
    (reason : CannotExecute) :
    (r.failTerminal item reason : Work σ τ WorkItem).Asks fun events result =>
      (∃ told answer, events = r.givenUpEvents item m reason told answer) ∧
        ∀ out, result = .ok out → out = { item with status := .failed } := by
  refine Work.Asks.bind (r.reportGivenUp_asks item reason) ?_ ?_
  · rintro _ first ⟨told, rfl, -⟩
    refine Work.Asks.bind (r.tellHub_asks hpayload reason) ?_ ?_
    · rintro _ second ⟨answer, rfl⟩
      refine (Work.asks_pure _).mono ?_
      rintro events result ⟨rfl, rfl⟩
      exact ⟨⟨told, answer, rfl⟩, fun out hout => by cases hout; rfl⟩
    · rintro halt events ⟨answer, rfl⟩
      exact ⟨⟨told, answer, rfl⟩, fun out hout => by cases hout⟩
  · rintro halt events ⟨told, -, hok⟩
    cases hok

end Relayer

/-! ### Decisions -/

/-- The decision that an outcome of a build leads to; none if it ends the batch. -/
def BuildOutcome.decision? (o : BuildOutcome) (item : WorkItem) (m : Message) : Option Decision :=
  match o.kind? with
  | none => none
  | some .built =>
    match o.transaction with
    | none => some (.settle (Relayer.advancedBy item m o))
    | some tx => some (.submit
        ⟨{ Relayer.advancedBy item m o with txHash := some tx.txId }, tx, item.retry⟩)
  | some .recoverable => some (.settle { item with retry := item.retry + 1, txHash := none })
  | some .insufficientBalance | some .invalidPayload =>
    some (.settle { item with status := .failed })

/-- Work on a message with nothing in flight, by what was recorded and how it ended. -/
inductive MessageCourse (item : WorkItem) : List Event → Except Halt Decision → Prop
  /-- The item is failed without a build: it has been tried too often, or there is nothing to
  execute. -/
  | givenUp {events : List Event} {result : Except Halt Decision}
      (hopeless : ceilingReached item.retry retryCeiling = true ∨
        ∀ m, item.payload = .message m → m.payload.isEmpty = true)
      (asides : ∀ e ∈ events, e.IsAside)
      (decided : ∀ d, result = .ok d → d = .settle { item with status := .failed }) :
      MessageCourse item events result
  /-- A transaction was asked for, and the answer decides. -/
  | built {m : Message} {answer : Except Fault BuildOutcome} {events : List Event}
      {result : Except Halt Decision} (payload : item.payload = .message m)
      (nonempty : m.payload.isEmpty = false)
      (hopeful : ceilingReached item.retry retryCeiling = false)
      (asides : ∀ e ∈ events, e.IsAside)
      (decided : ∀ d, result = .ok d → ∃ o, answer = .ok o ∧ o.decision? item m = some d) :
      MessageCourse item (.built item answer :: events) result

namespace Relayer

/-- The answer to a build decides; what follows it only reports. -/
theorem decideByBuild_asks (r : Relayer σ) (item : WorkItem) (m : Message) :
    (r.decideByBuild item m : Work σ τ Decision).Asks fun events result =>
      ∃ answer rest, events = .built item answer :: rest ∧ (∀ e ∈ rest, e.IsAside) ∧
        ∀ d, result = .ok d → ∃ o, answer = .ok o ∧ o.decision? item m = some d := by
  rw [decideByBuild]
  refine Work.Asks.bind (Work.asks_ask _ _) ?_ ?_
  · rintro o first ⟨answer, rfl, hanswer⟩
    obtain rfl : .ok o = answer := Work.mapError_fault_injective hanswer
    -- whatever is done next reports only, and ends with the decision for this outcome
    have finish {next : Work σ τ Decision}
        (hnext : next.Yields Event.IsAside fun d => o.decision? item m = some d) :
        next.Asks fun rest result => ∃ answer rest',
          [Event.built item (.ok o)] ++ rest = .built item answer :: rest' ∧
          (∀ e ∈ rest', e.IsAside) ∧
          ∀ d, result = .ok d → ∃ o, answer = .ok o ∧ o.decision? item m = some d :=
      Work.Asks.mono hnext fun rest _ ⟨hrest, hd⟩ =>
        ⟨.ok o, rest, rfl, hrest, fun d h => ⟨o, rfl, hd d h⟩⟩
    apply finish
    cases hkind : o.kind? with
    | none => exact Work.yields_fail _
    | some kind =>
      cases kind with
      | built =>
        dsimp only
        cases htx : o.transaction with
        | none => exact Work.yields_pure (by simp [BuildOutcome.decision?, hkind, htx])
        | some tx => exact Work.yields_pure (by simp [BuildOutcome.decision?, hkind, htx])
      | recoverable =>
        refine Work.Yields.bind (Work.yields_log _) fun _ _ => ?_
        refine Work.Yields.bind (r.notifySafely_yields _ _ _) fun _ _ => ?_
        refine Work.Yields.bind (Work.yields_ask fun _ => ⟨rfl, rfl⟩) fun _ _ => ?_
        exact Work.yields_pure (by simp [BuildOutcome.decision?, hkind])
      | insufficientBalance =>
        refine Work.Yields.bind (r.failTerminal_yields _ _) fun out hout => ?_
        exact Work.yields_pure (by simp [BuildOutcome.decision?, hkind, hout])
      | invalidPayload =>
        refine Work.Yields.bind (r.failInvalid_yields _ _) fun out hout => ?_
        exact Work.yields_pure (by simp [BuildOutcome.decision?, hkind, hout])
  · rintro halt events ⟨answer, rfl, -⟩
    exact ⟨answer, [], rfl, by simp, fun d h => by cases h⟩

/-- **Fresh work on a message** takes one of two courses. -/
theorem decideFresh_asks (r : Relayer σ) (item : WorkItem) :
    (r.decideFresh item : Work σ τ Decision).Asks (MessageCourse item) := by
  -- an item that is given up
  have giveUp {work : Work σ τ WorkItem}
      (hopeless : ceilingReached item.retry retryCeiling = true ∨
        ∀ m, item.payload = .message m → m.payload.isEmpty = true)
      (h : work.Yields Event.IsAside fun out => out = { item with status := .failed }) :
      (work >>= fun out => pure (.settle out)).Asks (MessageCourse item) := by
    have hsettled : (work >>= fun out => pure (Decision.settle out)).Yields Event.IsAside
        fun d => d = .settle { item with status := .failed } :=
      Work.Yields.bind h fun out hout => Work.yields_pure (by rw [hout])
    exact Work.Asks.mono hsettled fun events result ⟨hasides, hd⟩ => .givenUp hopeless hasides hd
  rw [decideFresh]
  split
  · exact giveUp (.inl ‹_›) (r.failTerminal_yields item .error)
  · have hopeful : ceilingReached item.retry retryCeiling = false := by simp_all
    split
    · rename_i m hpayload
      split
      · refine giveUp (.inr fun m' h => ?_) (r.failInvalid_yields item _)
        cases hpayload.symm.trans h
        assumption
      · refine (r.decideByBuild_asks item m).mono ?_
        rintro events result ⟨answer, rest, rfl, hasides, hd⟩
        exact .built hpayload (by simp_all) hopeful hasides hd
    · rename_i hpayload
      exact giveUp (.inr fun m h => absurd h (hpayload m)) (r.failInvalid_yields item _)

/-- The course of a message, for every description of fresh work. -/
theorem decideMessage_course_of (r : Relayer σ) (item : WorkItem)
    {fresh : List Event → Except Halt Decision → Prop}
    (hfresh : (r.decideFresh item : Work σ τ Decision).Asks fresh) (w : World σ τ) :
    ∃ events, w.Later (r.decideMessage item w).2 events ∧
      Course r item w item.hasContinuation fresh .leave
        (.settle { item with status := .success }) events (r.decideMessage item w).1 := by
  refine Course.of_resolution messageLogger (r.decideFresh item) (r.decideResolved item)
    (fun h => ?_) (fun txHash h => ?_) (fun _ => rfl) (fun _ => rfl) (fun _ => rfl)
    (fun _ => rfl) (fun txHash => ?_) hfresh w
  · rw [decideMessage, h]
  · rw [decideMessage, h]
  · rw [decideResolved]
    cases hcontinues : item.hasContinuation with
    | true =>
      refine Work.asks_log_bind ?_
      exact hfresh.mono fun events result h => .inl ⟨rfl, h⟩
    | false =>
      refine Work.asks_log_bind ?_
      exact (Work.asks_pure _).mono fun events result ⟨hnil, hok⟩ => .inr ⟨rfl, hnil, hok⟩

/-- **The course of a message**, whatever is in flight for it. -/
theorem decideMessage_course (r : Relayer σ) (item : WorkItem) (w : World σ τ) :
    ∃ events, w.Later (r.decideMessage item w).2 events ∧
      Course r item w item.hasContinuation (MessageCourse item) .leave
        (.settle { item with status := .success }) events (r.decideMessage item w).1 :=
  r.decideMessage_course_of item (r.decideFresh_asks item) w

end Relayer

end ChainRelay
