import ChainRelay.Proofs.Queue.QuietTimes
import ChainRelay.Proofs.Worker.AcceptedSends
import ChainRelay.Worker.MessageApproved
import ChainRelay.Worker.Tasks

/-!
# How long a transaction is waited for

A transaction that stays pending for 240 seconds is given up. The time at which it was sent is not
stored: its age counts from the stamp of its row, which is renewed by every write.

## The contract

A transaction is committed to its row by the call that has sent it. From then on it stays in the row
until another call writes the row. Upserts leave it alone but renew the stamp: a task that is taken
in again makes the transaction look as young as the task. So the time for which a transaction is
waited for ends 240 seconds after its commit only if the row was not written in between, and no
sooner than 240 seconds after any write of the row.

## Main definitions

* `Queue.Commits` — a call commits a transaction to a row
* `Queue.OnlyUpserted` — nothing but upserts writes a row in a history
* `Aged` — by which age an item is resolved that has a transaction in flight

## Main results

* `Queue.exists_commit` — a row holds a transaction because a call has committed it
* `Relayer.run_aged` — the age that both workers go by, after every history
* `Relayer.inFlight_rejuvenated` — a transaction that is waited for longer, because of a task
-/

namespace ChainRelay

variable {σ τ : Type}

/-- An operation that takes in no transaction from outside. -/
def Operation.Unsent (op : Operation) : Prop :=
  ∀ now item, op = .upsert now item → item.txHash = none

/-! ### How a transaction comes into a row -/

namespace Queue

variable {q : Queue} {key : RowKey} {row : Row} {op : Operation} {ops ops' : List Operation}
  {txHash : String} {time : Instant}

/-- A call commits a transaction to a row: it writes the row, which has the transaction then. -/
def Commits (q : Queue) (op : Operation) (key : RowKey) (txHash : String) (time : Instant) : Prop :=
  ∃ n results, op = .finish n (.returned results time) ∧ key ∈ q.writes op ∧
    ∃ row, (q.step op).store.row? key = some row ∧ row.item.txHash = some txHash

/-- Nothing but upserts writes a row in a history. -/
def OnlyUpserted (q : Queue) (key : RowKey) : List Operation → Prop
  | [] => True
  | op :: rest =>
    (key ∈ q.writes op → ∃ now item, op = .upsert now item) ∧ (q.step op).OnlyUpserted key rest

theorem onlyUpserted_append : q.OnlyUpserted key (ops ++ ops') ↔
    q.OnlyUpserted key ops ∧ (q.run ops).OnlyUpserted key ops' := by
  induction ops generalizing q with
  | nil => exact (and_iff_right trivial).symm
  | cons op rest ih =>
    rw [List.cons_append, OnlyUpserted, OnlyUpserted, ih, and_assoc]
    rfl

/-- An upsert that takes in no transaction brings none into a row. -/
theorem exists_row?_of_upsert {now : Instant} {item : WorkItem} (hitem : item.txHash = none)
    (hrow : (q.step (.upsert now item)).store.row? key = some row)
    (hsent : row.item.txHash = some txHash) :
    ∃ row', q.store.row? key = some row' ∧ row'.item.txHash = some txHash := by
  by_cases hwritten : key ∈ q.writes (.upsert now item)
  · rw [writes] at hwritten
    by_cases hwrites : q.store.writes item = true
    · rw [if_pos hwrites, List.mem_singleton] at hwritten
      subst hwritten
      cases hold : q.store.row? item.rowKey with
      | none =>
        -- a new row is the item that was taken in
        rw [row?_upsert_new now hold] at hrow
        cases hrow
        cases hitem.symm.trans hsent
      | some row' =>
        have hopen : row'.item.status.isTerminal = false := by
          rw [Store.writes, hold] at hwrites
          simpa using hwrites
        rw [row?_upsert now hold hopen] at hrow
        cases hrow
        exact ⟨row', rfl, hsent⟩
    · rw [if_neg hwrites] at hwritten
      cases hwritten
  · rw [row?_step hwritten] at hrow
    exact ⟨row, hrow, hsent⟩

/-- **A row holds a transaction because a call has committed it**, and nothing but upserts has
written the row since. -/
theorem exists_commit (hops : ∀ op ∈ ops, op.Unsent)
    (hrow : (run {} ops).store.row? key = some row) (hsent : row.item.txHash = some txHash) :
    ∃ earlier op later time, ops = earlier ++ op :: later ∧
      (run {} earlier).Commits op key txHash time ∧
      (run {} (earlier ++ [op])).OnlyUpserted key later := by
  induction ops using List.reverseRecOn generalizing row with
  | nil => cases hrow
  | append_singleton ops op ih =>
    have hops' : ∀ op ∈ ops, op.Unsent := fun op hop => hops op (List.mem_append_left _ hop)
    rw [run_append] at hrow
    -- an operation after the commit
    have goOn {row' : Row} (hrow' : (run {} ops).store.row? key = some row')
        (hsent' : row'.item.txHash = some txHash)
        (hop : key ∈ (run {} ops).writes op → ∃ now item, op = .upsert now item) :
        ∃ earlier op' later time, ops ++ [op] = earlier ++ op' :: later ∧
          (run {} earlier).Commits op' key txHash time ∧
          (run {} (earlier ++ [op'])).OnlyUpserted key later := by
      obtain ⟨earlier, op', later, time, rfl, hcommits, honly⟩ := ih hops' hrow' hsent'
      refine ⟨earlier, op', later ++ [op], time, by simp, hcommits, ?_⟩
      rw [onlyUpserted_append, ← run_append]
      refine ⟨honly, ?_, trivial⟩
      simpa using hop
    by_cases hwritten : key ∈ (run {} ops).writes op
    · cases op with
      | upsert now item =>
        have hitem := hops _ (List.mem_append_right _ List.mem_cons_self) now item rfl
        obtain ⟨row', hrow', hsent'⟩ := exists_row?_of_upsert hitem hrow hsent
        exact goOn hrow' hsent' fun _ => ⟨now, item, rfl⟩
      | start now order => cases hwritten
      | finish n ending =>
        cases ending with
        | raised =>
          cases hcall : (run {} ops).call? n with
          | none =>
            rw [writes, hcall] at hwritten
            cases hwritten
          | some call => cases (mem_writes_finish_iff hcall).mp hwritten
        | returned results time =>
          exact ⟨ops, _, [], time, rfl, ⟨n, results, rfl, hwritten, row, hrow, hsent⟩, trivial⟩
    · exact goOn ((row?_step hwritten).symm.trans hrow) hsent fun h => absurd h hwritten

/-- The last write of a row, counted from any write of it. -/
theorem getLast?_writeTimes {earlier later : List Operation}
    (hwritten : key ∈ (q.run earlier).writes op) (htime : op.time? = some time) :
    (q.writeTimes key (earlier ++ op :: later)).getLast? =
      some (((q.run (earlier ++ [op])).writeTimes key later).getLast?.getD time) := by
  rw [writeTimes_append, writeTimes, if_pos hwritten, htime, run_append]
  change (_ ++ (time :: _)).getLast? = _
  rw [List.getLast?_append_of_ne_nil _ (List.cons_ne_nil _ _), List.getLast?_cons]
  rfl

end Queue

/-! ### What is resolved -/

/-- How an item is resolved that is claimed after a history, with a transaction in flight: the age
of the transaction counts from `since`. -/
structure Aged (ops : List Operation) (item : WorkItem) (txHash : String) (since : Instant) :
    Prop where
  /-- A call has committed the transaction to the row, which was only upserted from then on. -/
  committed : ∃ earlier op later time, ops = earlier ++ op :: later ∧
    (Queue.run {} earlier).Commits op item.rowKey txHash time ∧
    (Queue.run {} (earlier ++ [op])).OnlyUpserted item.rowKey later
  /-- The age counts from any write of the row that is the last one, and otherwise from the last
  one that has followed it. -/
  counted : ∀ earlier op later time, ops = earlier ++ op :: later →
    item.rowKey ∈ (Queue.run {} earlier).writes op → op.time? = some time →
      since = ((Queue.run {} (earlier ++ [op])).writeTimes item.rowKey later).getLast?.getD time
  /-- By this age messages are resolved, -/
  messages : ∀ {σ τ : Type} (r : Relayer σ), (r.decideMessage item : Work σ τ Decision) =
    r.resolveTransaction Relayer.messageLogger txHash since >>= r.decideResolved item txHash
  /-- and so are outbound transactions. -/
  outbound : ∀ {σ τ : Type} (r : Relayer σ),
    (r.advanceOutbound item : Work σ τ (Option WorkItem)) =
      r.resolveTransaction Relayer.outboundLogger txHash since >>= r.outboundResolved item txHash
  /-- The transaction is given up exactly if it is pending and older than 240 seconds by then. -/
  givenUp : ∀ {σ τ : Type} (r : Relayer σ) (logger : String) (w : World σ τ),
    (r.resolveTransaction logger txHash since w).1 = .ok .timedOut ↔
      (r.sighting txHash w).Unsettled ∧
        since + finalityMicros < (r.lookedAt txHash w).wallNow
  /-- If the row was not written since the transaction was committed, that is as soon as 240 seconds
  have gone by since the commit. -/
  prompt : ∀ earlier op later time, ops = earlier ++ op :: later →
    (Queue.run {} earlier).Commits op item.rowKey txHash time →
    (Queue.run {} (earlier ++ [op])).writeTimes item.rowKey later = [] →
      since = time ∧ ∀ {σ τ : Type} (r : Relayer σ) (logger : String) (w : World σ τ),
        (r.sighting txHash w).Unsettled →
        time + finalityMicros < (r.lookedAt txHash w).wallNow →
          (r.resolveTransaction logger txHash since w).1 = .ok .timedOut
  /-- Every write of the row makes it young again, if the clock has not gone back: it is not given
  up until 240 seconds have gone by since the write. -/
  renewed : (ops.filterMap Operation.time?).Pairwise (· ≤ ·) →
    ∀ earlier op later time, ops = earlier ++ op :: later →
    item.rowKey ∈ (Queue.run {} earlier).writes op → op.time? = some time →
      ∀ {σ τ : Type} (r : Relayer σ) (logger : String) (w : World σ τ),
        (r.sighting txHash w).Unsettled →
        (r.lookedAt txHash w).wallNow ≤ time + finalityMicros →
          (r.resolveTransaction logger txHash since w).1 = .ok .pending

namespace Relayer

/-- Resolving a transaction, by what the chain answers and by its age. -/
theorem resolveTransaction_fst (r : Relayer σ) (logger txHash : String) (since : Instant)
    (w : World σ τ) : (r.resolveTransaction logger txHash since w).1 =
      .ok ((r.sighting txHash w).outcome ((r.lookedAt txHash w).wallNow - since)) := by
  obtain ⟨journal, hresolve⟩ := r.resolveTransaction_apply logger txHash since w
  rw [hresolve]

theorem resolveTransaction_timedOut_iff (r : Relayer σ) (logger txHash : String)
    (since : Instant) (w : World σ τ) :
    (r.resolveTransaction logger txHash since w).1 = .ok .timedOut ↔
      (r.sighting txHash w).Unsettled ∧ since + finalityMicros < (r.lookedAt txHash w).wallNow := by
  rw [resolveTransaction_fst, Except.ok.injEq]
  constructor
  · intro h
    rcases (r.sighting txHash w).outcome_cases ((r.lookedAt txHash w).wallNow - since) with
      ⟨-, ho⟩ | ⟨-, -, ho⟩ | ⟨hs, hage, -⟩ | ⟨-, ho⟩ | ⟨-, ho⟩
    · cases ho.symm.trans h
    · cases ho.symm.trans h
    · exact ⟨hs, lt_sub_iff_add_lt'.mp hage⟩
    · cases ho.symm.trans h
    · cases ho.symm.trans h
  · rintro ⟨hs, hage⟩
    rw [hs.outcome_eq, if_pos (lt_sub_iff_add_lt'.mpr hage)]

variable {ops : List Operation} {now : Instant} {order : Work.BatchOrder} {call : Call}
  {item : WorkItem} {txHash : String}

/-- **The age of what is in flight.** Whatever has happened on the queue, in whatever order calls
have started and ended: the age of a transaction that an item is claimed with counts from the last
write of its row. That is its commit only if the row was not written since. -/
theorem run_aged (ops : List Operation) (now : Instant) (order : Work.BatchOrder)
    (hops : ∀ op ∈ ops, op.Unstamped ∧ op.Unsent)
    (hstart : ((Queue.run {} ops).step (.start now order)).call? (Queue.run {} ops).calls.length =
      some call)
    (hitem : item ∈ call.claimed) (hsent : item.txHash = some txHash) :
    ∃ since, Aged ops item txHash since := by
  have hsound : (Queue.run {} ops).Sound := Queue.run_sound Queue.sound_empty ops
  obtain ⟨row, hrow, hrowitem, -⟩ := hsound.row?_of_start hstart hitem
  obtain ⟨since, hlast, hstamp⟩ := Queue.updatedAt_run (fun op hop => (hops op hop).1) hrow
  rw [hrowitem] at hstamp
  have hcounted : ∀ earlier op later time, ops = earlier ++ op :: later →
      item.rowKey ∈ (Queue.run {} earlier).writes op → op.time? = some time →
        since = ((Queue.run {} (earlier ++ [op])).writeTimes item.rowKey later).getLast?.getD
          time := by
    rintro earlier op later time rfl hwritten htime
    rw [Queue.getLast?_writeTimes hwritten htime, Option.some_inj] at hlast
    exact hlast.symm
  refine ⟨since, Queue.exists_commit (fun op hop => (hops op hop).2) hrow (hrowitem ▸ hsent),
    hcounted, fun r => ?_, fun r => ?_,
    fun r logger w => r.resolveTransaction_timedOut_iff logger txHash since w, ?_, ?_⟩
  · rw [decideMessage, hsent, hstamp]
    rfl
  · rw [advanceOutbound, hsent, hstamp]
    rfl
  · rintro earlier op later time rfl hcommits hquiet
    obtain ⟨n, results, rfl, hwritten, -⟩ := hcommits
    have hsince := hcounted earlier _ later time rfl hwritten rfl
    rw [hquiet] at hsince
    change since = time at hsince
    subst hsince
    exact ⟨rfl, fun r logger w hs hage =>
      (r.resolveTransaction_timedOut_iff logger txHash since w).mpr ⟨hs, hage⟩⟩
  · intro hclock earlier op later time hsplit hwritten htime σ τ r logger w hs hage
    -- the last write is no earlier than this one
    have hle : time ≤ since := by
      refine Queue.le_of_getLast?_eq (hclock.sublist (Queue.writeTimes_sublist {} item.rowKey ops))
        hlast ?_
      rw [hsplit, Queue.writeTimes_append, Queue.writeTimes, if_pos hwritten, htime]
      exact List.mem_append_right _ (List.mem_append_left _ List.mem_cons_self)
    have hyoung : (r.lookedAt txHash w).wallNow - since ≤ finalityMicros :=
      sub_le_iff_le_add'.mpr (hage.trans (Int.add_le_add_right hle _))
    rw [resolveTransaction_fst, hs.outcome_eq, if_neg (not_lt.mpr hyoung)]

end Relayer

/-! ### A task that is taken in again -/

/-- The task of a gateway transaction. -/
def gatewayTask : HubTask := ⟨"task-1", "GATEWAY_TX", .obj [("executeData", .str "0x01")]⟩

/-- A chain on which its transaction stays pending. -/
def slowChain : Simulation where
  transactions := [("0xtask-1-0", { txHash := "0xtask-1-0", status := .pending })]

namespace World

/-- The world when so many seconds have gone by. -/
def after (w : World Simulation Rat) (seconds : Int) : World Simulation Rat :=
  { w with wall := w.wall + seconds * 1000000 }

/-- The task is taken in. -/
def gatewayTaken (w : World Simulation Rat) : World Simulation Rat :=
  (Relayer.simulated.processTask gatewayTask w).2

/-- The outbound transactions that wait are worked off. -/
def gatewayWorked (w : World Simulation Rat) : World Simulation Rat :=
  (Work.processPending outboundOrder Relayer.simulated.outboundBatch w).2

/-- What the row of the task says: its retries, the transaction in flight, and its stamp. -/
def inFlight (w : World Simulation Rat) : Option (Int × Option String × Option Instant) :=
  (w.store.get? .stacksTransaction "task-1").map fun item =>
    (item.retry, item.txHash, item.updatedAt)

/-- The transaction has been sent, and committed at time zero. -/
def flying : World Simulation Rat := (World.initial slowChain 0).gatewayTaken.gatewayWorked

end World

namespace Relayer

/-- **A transaction that is waited for longer.** It was committed at time zero and is pending after
260 seconds. If its task was taken in again after 230 seconds, it is claimed as one of 230 seconds
and left alone; otherwise it is given up, and another one is sent in its place. -/
theorem inFlight_rejuvenated :
    let late := (World.flying.after 230).gatewayTaken.after 30
    World.flying.inFlight = some (0, some "0xtask-1-0", some 0) ∧
    late.wallNow = 260000000 ∧
    late.inFlight = some (0, some "0xtask-1-0", some 230000000) ∧
    (simulated.resolveTransaction outboundLogger "0xtask-1-0" 230000000 late).1 = .ok .pending ∧
    (simulated.resolveTransaction outboundLogger "0xtask-1-0" 0 late).1 = .ok .timedOut ∧
    late.gatewayWorked.inFlight = some (0, some "0xtask-1-0", some 230000000) ∧
    (World.flying.after 260).gatewayWorked.inFlight =
      some (1, some "0xtask-1-0", some 260000000) := by
  intro late
  have hoften : late.wallNow = 260000000 ∧
      late.inFlight = some (0, some "0xtask-1-0", some 230000000) ∧
      late.gatewayWorked.inFlight = some (0, some "0xtask-1-0", some 230000000) := by decide +kernel
  have houtcome : (simulated.sighting "0xtask-1-0" late).outcome
        ((simulated.lookedAt "0xtask-1-0" late).wallNow - 230000000) = .pending ∧
      (simulated.sighting "0xtask-1-0" late).outcome
        ((simulated.lookedAt "0xtask-1-0" late).wallNow - 0) = .timedOut := by decide +kernel
  refine ⟨by decide +kernel, hoften.1, hoften.2.1, ?_, ?_, hoften.2.2, by decide +kernel⟩
  · rw [resolveTransaction_fst, houtcome.1]
  · rw [resolveTransaction_fst, houtcome.2]

end Relayer

/-! ### The same history, operation by operation -/

/-- The item of the task as its row has it, with the stamp of the last write. -/
def forwardedItem (time : Instant) : WorkItem :=
  { WorkItem.shortGateway "task-1" with txHash := some "0xtask-1-0", updatedAt := some time }

/-- The item is taken in, sent by a call, and taken in again. -/
def rejuvenation : List Operation :=
  [.upsert 0 { WorkItem.shortGateway "task-1" with createdAt := none, updatedAt := none },
    .start 0 outboundOrder, .finish 0 (.returned [forwardedItem 0] 0),
    .upsert 230000000 { WorkItem.shortGateway "task-1" with createdAt := none, updatedAt := none }]

theorem run_rejuvenation : Queue.run {} rejuvenation =
    ⟨{ rows := [⟨forwardedItem 230000000, 0⟩],
       commits := [(.stacksTransaction, ["task-1"])], next := 1 }, [none]⟩ := by
  have hclaim : ((Queue.run {} (rejuvenation.take 1)).store.claim outboundOrder.family
      outboundOrder.size outboundOrder.backoff 0).1 = [.shortGateway "task-1"] :=
    Store.claim_of_ordered (by decide +kernel) (by decide +kernel)
  have hsplit : Queue.run {} rejuvenation =
      ((Queue.run {} (rejuvenation.take 1)).step (.start 0 outboundOrder)).run
        (rejuvenation.drop 2) := rfl
  rw [hsplit, Queue.step_start rfl hclaim]
  rfl

namespace Relayer

/-- A call that starts after 260 seconds claims the item with an age of 30 seconds. -/
theorem run_aged_rejuvenated :
    (∀ op ∈ rejuvenation, op.Unstamped ∧ op.Unsent) ∧
    ((Queue.run {} rejuvenation).step (.start 260000000 outboundOrder)).call?
      (Queue.run {} rejuvenation).calls.length =
        some ⟨.stacksTransaction, [forwardedItem 230000000]⟩ ∧
    (forwardedItem 230000000).txHash = some "0xtask-1-0" ∧
    ∃ since, Aged rejuvenation (forwardedItem 230000000) "0xtask-1-0" since := by
  have hops : ∀ op ∈ rejuvenation, op.Unstamped ∧ op.Unsent := by
    have hitem : ∀ op ∈ rejuvenation, ∀ now item, op = .upsert now item →
        item.updatedAt = none ∧ item.txHash = none := by
      rintro op hop now item rfl
      simp only [rejuvenation, List.mem_cons, Operation.upsert.injEq, reduceCtorEq,
        List.not_mem_nil, or_false, false_or] at hop
      rcases hop with ⟨-, rfl⟩ | ⟨-, rfl⟩ <;> exact ⟨rfl, rfl⟩
    exact fun op hop => ⟨fun now item h => (hitem op hop now item h).1,
      fun now item h => (hitem op hop now item h).2⟩
  have hstart : ((Queue.run {} rejuvenation).step (.start 260000000 outboundOrder)).call?
      (Queue.run {} rejuvenation).calls.length =
        some ⟨.stacksTransaction, [forwardedItem 230000000]⟩ := by
    rw [run_rejuvenation, Queue.call?_start_iff,
      Store.claim_of_ordered (by decide +kernel) (by decide +kernel)]
    exact ⟨rfl, rfl⟩
  exact ⟨hops, hstart, rfl,
    run_aged rejuvenation 260000000 outboundOrder hops hstart List.mem_cons_self rfl⟩

end Relayer

end ChainRelay
