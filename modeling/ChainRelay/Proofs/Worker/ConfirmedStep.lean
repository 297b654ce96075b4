import ChainRelay.Proofs.Worker.RetryCeiling
import Mathlib.Tactic.IntervalCases

/-!
# A step that has confirmed

An execution in several steps goes on when the step in flight has confirmed: the message is handed
back to the executor, who builds the next step from the state that is kept with the message.

## The contract

Before anything is built the retries are counted, and so they are after a step that has confirmed.
A build may cost a retry whether or not its step succeeds, and nobody pays that back. Below the
ceiling the executor is asked for the next step right after the chain was asked for the last one. At
the ceiling a message whose step has confirmed is given up like one that nobody could execute: the
operators and the hub are told so, its row fails, and the steps to come are never built.

## Main definitions

* `NextStep` — what is done for a message with something to execute: built, or given up
* `Relayer.Confirms` — a message whose step is seen to have confirmed, with steps to come
* `StepTaken`, `StepsFollowed` — what a history promises about the confirmed steps of a message

## Main results

* `Relayer.nextStep_of_confirms` — one turn of a confirmed step
* `Relayer.messageHistory_confirmedStep` — all of them, along every history
* `Relayer.confirmedStep_givenUp` — three steps that confirm, and the end of the message
-/

namespace ChainRelay

variable {σ τ : Type}

/-! ### The next step -/

/-- What is done for a message that has something to execute and nothing in its way, by what was
recorded and how it ended. -/
inductive NextStep (r : Relayer σ) (item : WorkItem) (m : Message) :
    List Event → Except Halt Decision → Prop
  /-- The executor is asked to build, and the answer decides. -/
  | built {answer : Except Fault BuildOutcome} {rest : List Event} {result : Except Halt Decision}
      (hopeful : item.retry < retryCeiling) (asides : ∀ e ∈ rest, e.IsAside)
      (decided : ∀ d, result = .ok d → ∃ o, answer = .ok o ∧ o.decision? item m = some d) :
      NextStep r item m (.built item answer :: rest) result
  /-- All retries are paid: operators and hub are told, and the message fails. -/
  | givenUp {told : Except Fault Unit} {answer : Except Fault (List EventResult)}
      {result : Except Halt Decision} (hopeless : retryCeiling ≤ item.retry)
      (decided : ∀ d, result = .ok d → d = .settle { item with status := .failed }) :
      NextStep r item m (r.givenUpEvents item m .error told answer) result

namespace NextStep

variable {r : Relayer σ} {item : WorkItem} {m : Message} {events : List Event}
  {result : Except Halt Decision}

/-- The retries alone decide whether something is built. -/
theorem built_iff (h : NextStep r item m events result) :
    (∃ answer, .built item answer ∈ events) ↔ item.retry < retryCeiling := by
  cases h with
  | built hopeful => exact iff_of_true ⟨_, List.mem_cons_self⟩ hopeful
  | givenUp hopeless =>
    refine iff_of_false ?_ (not_lt.mpr hopeless)
    rintro ⟨answer, hmem⟩
    simp [Relayer.givenUpEvents] at hmem

/-- A message with no retry left is given up. -/
theorem of_hopeless (h : NextStep r item m events result) (hopeless : retryCeiling ≤ item.retry) :
    ∃ told answer, events = r.givenUpEvents item m .error told answer ∧
      ∀ d, result = .ok d → d = .settle { item with status := .failed } := by
  cases h with
  | built hopeful => exact absurd hopeful (not_lt.mpr hopeless)
  | givenUp _ decided => exact ⟨_, _, rfl, decided⟩

end NextStep

namespace Relayer

/-- Fresh work on a message with something to execute. -/
theorem decideFresh_nextStep (r : Relayer σ) {item : WorkItem} {m : Message}
    (hpayload : item.payload = .message m) (hnonempty : m.payload.isEmpty = false) :
    (r.decideFresh item : Work σ τ Decision).Asks (NextStep r item m) := by
  rw [decideFresh, hpayload]
  dsimp only
  rw [hnonempty, if_neg Bool.false_ne_true]
  split
  · rename_i hceiling
    refine Work.Asks.bind (r.failTerminal_asks hpayload .error) ?_ ?_
    · rintro out first ⟨⟨told, answer, rfl⟩, hout⟩
      cases hout out rfl
      refine (Work.asks_pure _).mono ?_
      rintro events result ⟨rfl, rfl⟩
      exact .givenUp (ceilingReached_iff.mp hceiling) fun d hd => by cases hd; rfl
    · rintro halt events ⟨⟨told, answer, rfl⟩, -⟩
      exact .givenUp (ceilingReached_iff.mp hceiling) fun d hd => by cases hd
  · rename_i hceiling
    refine (r.decideByBuild_asks item m).mono ?_
    rintro events result ⟨answer, rest, rfl, hasides, hdecided⟩
    exact .built (not_le.mp fun hle => hceiling (ceilingReached_iff.mpr hle)) hasides hdecided

end Relayer

/-! ### Turns of confirmed steps -/

/-- The chain answers in a world that the step in flight for a message has succeeded, and the
message has something to execute and steps to come. -/
structure Relayer.Confirms (r : Relayer σ) (item : WorkItem) (w : World σ τ) (m : Message)
    (txHash : String) : Prop where
  payload : item.payload = .message m
  nonempty : m.payload.isEmpty = false
  continues : m.extra ≠ .null
  sent : item.txHash = some txHash
  succeeded : (r.sighting txHash w).Succeeded

namespace Relayer

variable {r : Relayer σ} {item : WorkItem} {ordered : Bool} {items results : List WorkItem}
  {w : World σ τ} {t : Turn σ τ Decision} {m : Message} {txHash : String}

theorem Confirms.hasContinuation (h : r.Confirms item w m txHash) :
    item.hasContinuation = true := by
  have hextra := h.continues
  rw [WorkItem.hasContinuation, h.payload]
  dsimp only
  split
  · exact absurd ‹_› hextra
  · rfl

/-- A confirmed step does not stand in the way of the next one. -/
theorem Confirms.releases (h : r.Confirms item w m txHash) :
    (r.sighting txHash w).Releases (r.age item txHash w) item.hasContinuation :=
  .inr (.inr ⟨h.succeeded, h.hasContinuation⟩)

/-- After the lookup a message whose step has confirmed is worked on afresh. -/
theorem decideMessage_apply_of_confirms (h : r.Confirms item w m txHash) :
    ∃ journal, r.decideMessage item w =
      r.decideFresh item { r.lookedAt txHash w with journal } := by
  obtain ⟨journal, hresolve⟩ := r.resolveTransaction_apply messageLogger txHash
    (item.updatedAt.getD w.wallNow) w
  rw [h.succeeded.outcome_eq] at hresolve
  have hdecide : (r.decideMessage item : Work σ τ Decision) = (Work.now >>= fun now =>
      r.resolveTransaction messageLogger txHash (item.updatedAt.getD now) >>=
        r.decideResolved item txHash) := by
    rw [decideMessage, h.sent]
  rw [hdecide, Work.bind_apply_of_ok (Work.now_apply w), Work.bind_apply_of_ok hresolve,
    decideResolved, h.hasContinuation, if_pos rfl, Work.bind_apply_of_ok (Work.log_apply _ _)]
  exact ⟨_, rfl⟩

/-- **One turn.** The chain is asked for the step, and then the next one is up. -/
theorem nextStep_of_confirms (ht : t ∈ r.messageTurns items w)
    (h : r.Confirms t.item t.before m txHash) :
    ∃ rest, t.events = .lookedUp txHash (r.sighting txHash t.before) :: rest ∧
      NextStep r t.item m rest t.result := by
  obtain ⟨journal, hagain⟩ := decideMessage_apply_of_confirms h
  have hlooked : t.before.Later { r.lookedAt txHash t.before with journal }
      [.lookedUp txHash (r.sighting txHash t.before)] := ⟨_, journal, rfl⟩
  obtain ⟨rest, later, hnext⟩ := r.decideFresh_nextStep h.payload h.nonempty
    { r.lookedAt txHash t.before with journal }
  rw [← hagain, Work.apply_of_mem_turns ht] at later hnext
  exact ⟨rest, (hlooked.trans later).drop_trace, hnext⟩

end Relayer

/-! ### The promise -/

/-- How the turn of a confirmed step goes on. -/
structure StepTaken (r : Relayer σ) (t : Turn σ τ Decision) (m : Message) (txHash : String) :
    Prop where
  /-- No more than three retries are ever paid. -/
  paid : t.item.retry ≤ 3
  /-- The chain is asked for the step, and what comes next is the next step or the end. -/
  next : ∃ rest, t.events = .lookedUp txHash (r.sighting txHash t.before) :: rest ∧
    NextStep r t.item m rest t.result
  /-- With fewer than three retries the next step is asked for, and with three it is not. -/
  built : (∃ answer, .built t.item answer ∈ t.events) ↔ t.item.retry < 3

/-- What a history promises about the confirmed steps of a message. -/
structure StepsFollowed (r : Relayer σ) (τ : Type) (key : String) (q : Queue) : Prop where
  /-- In whatever batch the message has its turn. -/
  taken : ∀ (i : Nat) (call : Call) (w : World σ τ), q.call? i = some call →
    call.family = .messageApproved → ∀ t ∈ r.messageTurns call.claimed w, t.item.key = key →
    ∀ m txHash, r.Confirms t.item t.before m txHash → StepTaken r t m txHash
  /-- It has its turn in every batch that ends with results. If its retries are all paid then,
  nothing is built or sent for it, and its row fails. -/
  returned : ∀ (i : Nat) (call : Call) (ordered : Bool) (w : World σ τ) (results : List WorkItem),
    MessagesReturned r q i call ordered w results → ∀ item ∈ call.claimed, item.key = key →
    ∃ t ∈ r.messageTurns call.claimed w, t.item = item ∧
      ∀ m txHash, r.Confirms t.item t.before m txHash → item.retry = 3 →
        (∀ e ∈ t.events, e.isAttempt = false) ∧
        (∀ s ∈ r.submissions ordered call.claimed w, s.1.advanced.rowKey ≠ item.rowKey) ∧
        ∀ now, ∃ row, (q.step (.finish i (.returned results now))).store.row?
          (.messageApproved, key) = some row ∧ row.item.status = .failed

namespace Relayer

variable {key : String} {q : Queue}

/-- **Steps that have confirmed.** Whatever chain, executor, hub and notifier do: along every
history from its first row on, a message whose step confirms is handed back to the executor as long
as it has retries left, and only so long. -/
theorem messageHistory_confirmedStep (r : Relayer σ) (ops : List Operation) {row : Row}
    (hrow : (Queue.run {} ops).store.row? (.messageApproved, key) = some row)
    (hretry : row.item.retry = 0) {failures : ℕ}
    (history : Queue.Tallied .messageApproved (r.Fails τ key) (Queue.run {} ops) q failures) :
    StepsFollowed r τ key q := by
  have hstart : (Queue.run {} ops).Staged := Queue.run_staged Queue.staged_empty ops
  have hfirst : ((0 : ℕ) : Int) ≤ row.item.retry ∧ row.item.retry ≤ retryCeiling := by
    rw [hretry]
    decide
  obtain ⟨row', hrow', -, hceiling⟩ := history.keeps (r.messages_law τ key) hstart hrow hfirst
  have hstaged := history.staged hstart
  constructor
  · intro i call w hcall hfamily t ht hkey m txHash hconfirms
    -- the item has as many retries as its row
    have hitem := Work.item_mem_of_mem_turns ht
    obtain ⟨held, hheld, hstage⟩ :=
      hstaged.stages call (Queue.mem_calls_of_call? hcall) t.item hitem
    have hplace : t.item.rowKey = (.messageApproved, key) :=
      Prod.ext (((hstaged.sound.claimed hcall).2 _ hitem).trans hfamily) hkey
    rw [hplace, hrow'] at hheld
    cases hheld
    obtain ⟨rest, hevents, hnext⟩ := nextStep_of_confirms ht hconfirms
    refine ⟨(congrArg Stage.retry hstage).symm.trans_le hceiling, ⟨rest, hevents, hnext⟩, ?_⟩
    rw [hevents]
    change _ ↔ t.item.retry < retryCeiling
    simpa only [List.mem_cons, reduceCtorEq, false_or] using hnext.built_iff
  · rintro i call ordered w results h item hitem rfl
    obtain ⟨hclaimed, -⟩ := hstaged.sound.claimed h.progress
    obtain ⟨t, ht, rfl⟩ := exists_messageTurn h.returns hitem
    refine ⟨t, ht, rfl, fun m txHash hconfirms hthree => ?_⟩
    obtain ⟨hout, hevents, hsubmissions⟩ := messageTurn_at_ceiling hclaimed h.returns ht
      (ceilingReached_iff.mpr hthree.ge) (.inr ⟨txHash, hconfirms.sent, hconfirms.releases⟩)
    refine ⟨hevents, hsubmissions, fun now => ?_⟩
    obtain ⟨row, hrow, hstage⟩ := row_of_messagesReturned hstaged h hitem hout rfl now
    exact ⟨row, hrow, congrArg Stage.status hstage⟩

end Relayer

/-! ### Batches of one message -/

namespace Relayer

variable {item : WorkItem} {w : World σ τ}

theorem messageBatch_singleton (r : Relayer σ) (ordered : Bool) {d : Decision} {w' : World σ τ}
    (h : r.decideMessage item { w with journal := w.journal ++ [messageHeading [item]] } =
      (.ok d, w')) :
    r.messageBatch ordered [item] w =
      (r.submit ordered ([d].filterMap Decision.attempt?) >>= fun submitted =>
        pure ([d].filterMap Decision.settled? ++ submitted)) w' := by
  have hmap : [item].mapM r.decideMessage
      { w with journal := w.journal ++ [messageHeading [item]] } = (.ok [d], w') := by
    rw [List.mapM_cons, Work.bind_apply_of_ok h]
    rfl
  rw [messageBatch, Work.bind_apply_of_ok (Work.log_apply _ _), Work.bind_apply_of_ok hmap]

theorem messageTurns_singleton (r : Relayer σ) {w₀ : World σ τ}
    (h : w₀ = { w with journal := w.journal ++ [messageHeading [item]] }) :
    r.messageTurns [item] w =
      [⟨item, w₀, (r.decideMessage item w₀).1, (r.decideMessage item w₀).2⟩] := by
  rw [messageTurns, ← h]
  cases hrun : r.decideMessage item w₀ with
  | mk result w' =>
    cases result with
    | ok d => exact Work.turns_cons_of_ok hrun
    | error halt => exact Work.turns_cons_of_error hrun

end Relayer

/-! ### Three steps that confirm -/

/-- The hash of the step of a number. -/
def stepHash (n : ℕ) : String := "0x0" ++ toString n

/-- The step of a number. Building it costs a retry. -/
def paidStep (n : ℕ) : BuildOutcome where
  kind := BuildKind.built.word
  transaction := some { txId := stepHash n, serialized := "signed" }
  extra := .int n
  incrementRetry := true

/-- When the step of a number is sent. -/
def stepTime (n : ℕ) : Instant := n * 400000000

/-- A message in an execution of which so many steps were sent. -/
def steppedMessage (n : ℕ) : Message :=
  ⟨"source-chain", "first", "sender", "recipient", "hash", [1], "0", .null,
    if n = 0 then .null else .int n⟩

/-- Its item, as it was written last. -/
def steppedItem (n : ℕ) : WorkItem where
  family := .messageApproved
  key := "first"
  payload := .message (steppedMessage n)
  retry := n
  txHash := if n = 0 then none else some (stepHash n)
  createdAt := some 0
  updatedAt := some (stepTime n)

/-- What is returned for it when the next step was sent. -/
def steppedResult (n : ℕ) : WorkItem :=
  { steppedItem (n + 1) with updatedAt := some (stepTime n) }

/-- The queue that holds it. -/
def steppedQueue (n : ℕ) : Queue :=
  ⟨{ rows := [⟨steppedItem n, 0⟩]
     commits := List.replicate n (.messageApproved, ["first"])
     next := 1 }, List.replicate n none⟩

/-- When the next step is up: all steps that were sent have succeeded, and the executor can build
the next one. -/
def stepWorld (n : ℕ) : World Simulation Rat :=
  { World.initial {
      transactions := [1, 2, 3].map fun n =>
        (stepHash n, { txHash := stepHash n, status := .success })
      outcomes := [("first", paidStep (n + 1))] } 0 with
    wall := stepTime (n + 1) }

/-- The same once the batch was announced. -/
def stepBegun (n : ℕ) : World Simulation Rat :=
  { stepWorld n with journal := [Relayer.messageHeading [steppedItem n]] }

namespace Relayer

/-- The last step is seen to have confirmed. -/
theorem confirms_stepped {n : ℕ} (hpos : 0 < n) (hn : n ≤ 3) :
    simulated.Confirms (steppedItem n) (stepBegun n) (steppedMessage n) (stepHash n) where
  payload := rfl
  nonempty := rfl
  continues := by
    rw [steppedMessage, if_neg hpos.ne']
    simp
  sent := if_neg hpos.ne'
  succeeded := by interval_cases n <;> exact ⟨_, rfl, rfl⟩

/-- Three times the next step is built and sent. -/
theorem messageBatch_stepped {n : ℕ} (hn : n < 3) :
    (simulated.messageBatch true [steppedItem n] (stepWorld n)).1 = .ok [steppedResult n] := by
  cases n with
  | zero => rfl
  | succ n =>
    obtain ⟨journal, hagain⟩ :=
      decideMessage_apply_of_confirms (confirms_stepped (Nat.succ_pos n) hn.le)
    have hfew : n < 2 := Nat.lt_of_succ_lt_succ hn
    interval_cases n
    all_goals
      rw [messageBatch_singleton simulated true (hagain.trans rfl)]
      rfl

/-- No attempt fails. -/
theorem fails_stepped {n : ℕ} (hn : n < 3) :
    simulated.Fails Rat "first" [steppedItem n] [steppedResult n] 0 := by
  refine ⟨true, stepWorld n, messageBatch_stepped hn, ?_⟩
  have hclaimed : Claimed [steppedItem n] := ⟨by simp [steppedItem], by simp⟩
  obtain ⟨t, ht, heq⟩ := exists_messageTurn (messageBatch_stepped hn) List.mem_cons_self
  have hverdict := messageBatch_verdict hclaimed (messageBatch_stepped hn) ht
  rw [heq, show (steppedItem n).rowKey = (.messageApproved, "first") from rfl] at hverdict
  generalize simulated.failures _ _ _ _ = k at hverdict ⊢
  cases hverdict with
  | left _ => rfl
  | moved _ _ _ => rfl
  | failed _ returned _ _ txHash =>
    -- what was returned has its step in flight
    rw [List.mem_singleton.mp returned] at txHash
    simp [steppedResult, steppedItem] at txHash

end Relayer

namespace Queue

theorem steppedQueue_start {n : ℕ} (hn : n ≤ 3) :
    (steppedQueue n).step (.start (stepTime (n + 1)) messageOrder) =
      ⟨{ (steppedQueue n).store with locked := [(.messageApproved, "first")] },
        List.replicate n none ++ [some ⟨.messageApproved, [steppedItem n]⟩]⟩ := by
  have hrests : (steppedQueue n).store.checkRests messageOrder.family messageOrder.backoff
      (stepTime (n + 1)) = .ok () := by
    interval_cases n <;> rfl
  have hclaim : ((steppedQueue n).store.claim messageOrder.family messageOrder.size
      messageOrder.backoff (stepTime (n + 1))).1 = [steppedItem n] := by
    refine Store.claim_of_ordered ?_ (List.pairwise_singleton _ _)
    interval_cases n <;> decide +kernel
  rw [step_start hrests hclaim]
  rfl

theorem steppedQueue_call? {n : ℕ} (hn : n ≤ 3) :
    ((steppedQueue n).step (.start (stepTime (n + 1)) messageOrder)).call? n =
      some ⟨.messageApproved, [steppedItem n]⟩ := by
  rw [steppedQueue_start hn, call?_eq_some_iff]
  simp

theorem steppedQueue_finish {n : ℕ} (hn : n < 3) :
    ((steppedQueue n).step (.start (stepTime (n + 1)) messageOrder)).step
        (.finish n (.returned [steppedResult n] (stepTime (n + 1)))) =
      steppedQueue (n + 1) := by
  rw [steppedQueue_start hn.le]
  interval_cases n <;> rfl

/-- Each step is a call. -/
theorem steppedQueue_history {n : ℕ} (hn : n ≤ 3) :
    Tallied .messageApproved (Relayer.simulated.Fails Rat "first")
      (run {} [.upsert 0 (.shortMessage "first")])
      ((steppedQueue n).step (.start (stepTime (n + 1)) messageOrder)) 0 := by
  refine Tallied.call_starts ?_ _ _
  induction n with
  | zero => exact .refl
  | succ n ih =>
    rw [← steppedQueue_finish hn]
    exact ((ih (Nat.le_of_succ_le hn)).call_starts _ _).batch _
      (steppedQueue_call? (Nat.le_of_succ_le hn)) rfl (Relayer.fails_stepped hn)

end Queue

namespace Relayer

/-- There is such a turn. -/
theorem exists_turn_stepped {n : ℕ} (hpos : 0 < n) (hn : n ≤ 3) :
    ∃ t ∈ simulated.messageTurns [steppedItem n] (stepWorld n), t.item = steppedItem n ∧
      simulated.Confirms t.item t.before (steppedMessage n) (stepHash n) := by
  have hbegun : stepBegun n = { stepWorld n with
    journal := (stepWorld n).journal ++ [messageHeading [steppedItem n]] } := rfl
  rw [messageTurns_singleton simulated hbegun]
  exact ⟨_, List.mem_cons_self, rfl, confirms_stepped hpos hn⟩

/-- **The last step is never built.** Three steps have confirmed, nothing has failed, and the
message is given up before its fourth step is asked for. -/
theorem confirmedStep_givenUp : ∃ q call, ∃ t ∈ simulated.messageTurns call.claimed (stepWorld 3),
    Queue.Tallied .messageApproved (simulated.Fails Rat "first")
      (Queue.run {} [.upsert 0 (.shortMessage "first")]) q 0 ∧
    q.call? 3 = some call ∧ t.item = steppedItem 3 ∧
    simulated.Confirms t.item t.before (steppedMessage 3) (stepHash 3) ∧
    (∀ answer, .built t.item answer ∉ t.events) ∧
    (∃ answer, .posted [cannotExecuteEvent t.item (steppedMessage 3)
      simulated.settings.sourceChain .error] (stepHash 3) answer ∈ t.events) ∧
    (simulated.messageBatch true call.claimed (stepWorld 3)).1 =
      .ok [{ steppedItem 3 with status := .failed }] := by
  obtain ⟨t, ht, hitem, hconfirms⟩ := exists_turn_stepped (n := 3) (by decide) le_rfl
  obtain ⟨rest, hevents, hnext⟩ := nextStep_of_confirms ht hconfirms
  obtain ⟨told, answer, rfl, -⟩ := hnext.of_hopeless (by rw [hitem]; decide)
  have hreturns : (simulated.messageBatch true [steppedItem 3] (stepWorld 3)).1 =
      .ok [{ steppedItem 3 with status := .failed }] := by
    obtain ⟨journal, hagain⟩ :=
      decideMessage_apply_of_confirms (confirms_stepped (n := 3) (by decide) le_rfl)
    rw [messageBatch_singleton simulated true (hagain.trans rfl)]
    rfl
  refine ⟨_, _, t, ht, Queue.steppedQueue_history le_rfl, Queue.steppedQueue_call? le_rfl, hitem,
    hconfirms, ?_, ⟨answer, ?_⟩, hreturns⟩
  · rw [hevents]
    simp [givenUpEvents]
  · rw [hevents, givenUpEvents, hconfirms.sent, Option.getD_some]
    simp

/-- The second step has confirmed, and the third is built. -/
theorem messageHistory_confirmedStep_second : ∃ row q call,
    (Queue.run {} [.upsert 0 (.shortMessage "first")]).store.row? (.messageApproved, "first") =
      some row ∧ row.item.retry = 0 ∧
    Queue.Tallied .messageApproved (simulated.Fails Rat "first")
      (Queue.run {} [.upsert 0 (.shortMessage "first")]) q 0 ∧
    StepsFollowed simulated Rat "first" q ∧ q.call? 2 = some call ∧
    ∃ t ∈ simulated.messageTurns call.claimed (stepWorld 2),
      simulated.Confirms t.item t.before (steppedMessage 2) (stepHash 2) ∧
      ∃ answer, .built t.item answer ∈ t.events := by
  obtain ⟨t, ht, hitem, hconfirms⟩ := exists_turn_stepped (n := 2) (by decide) (by decide)
  have history := Queue.steppedQueue_history (n := 2) (by decide)
  have hcall := Queue.steppedQueue_call? (n := 2) (by decide)
  have hfollowed : StepsFollowed simulated Rat "first" _ :=
    messageHistory_confirmedStep simulated _ rfl rfl history
  refine ⟨_, _, _, rfl, rfl, history, hfollowed, hcall, t, ht, hconfirms, ?_⟩
  have htaken := hfollowed.taken 2 _ (stepWorld 2) hcall rfl t ht (by rw [hitem]; rfl) _ _ hconfirms
  exact htaken.built.mpr (by rw [hitem]; decide)

end Relayer

end ChainRelay
