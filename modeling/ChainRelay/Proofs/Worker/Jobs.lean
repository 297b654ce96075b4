import ChainRelay.Proofs.Worker.BroadcastTurn
import ChainRelay.Proofs.Worker.Results
import ChainRelay.Proofs.World.SingleFlight
import ChainRelay.Worker.Jobs

/-!
# What jobs do to the queue

Pollers write work items, drains make calls that work off batches, and pending broadcasts live
elsewhere. So a tick of any job is a history of the queue, and ticks of all jobs keep its promises,
whatever the collaborators of the relayer do and however the ticks end.

## Scope

A tick is followed as a whole: around it there may be calls in progress, but what they do while it
lasts is not told here. That is told by histories, of which ticks are parts.

## Main definitions

* `Relayer.ticks` — ticks of jobs, one after the other

## Main results

* `Relayer.worker_operates` — calls of all three workers operate
* `Relayer.handleNewTasks_operates`, `Relayer.pollEvents_operates`, `Drain.run_operates`,
  `Relayer.processBroadcasts_operates` — so does what jobs do
* `Relayer.tick_operates` — a tick operates
* `Relayer.ticks_keep_promises` — ticks are durable and leave claims exclusive
-/

namespace ChainRelay

variable {σ τ α : Type}

/-! ### Work aside from the queue -/

namespace Work

theorem operates_pure (a : α) : (pure a : Work σ τ α).Operates :=
  .of_store_eq fun _ => rfl

theorem operates_fail (fault : Fault) : (fail fault : Work σ τ α).Operates :=
  .of_store_eq fun _ => rfl

theorem operates_log (line : LogLine) : (log line : Work σ τ Unit).Operates :=
  .of_store_eq fun _ => rfl

theorem operates_ofExcept (value : Except Fault α) : (ofExcept value : Work σ τ α).Operates := by
  cases value with
  | ok a => exact operates_pure a
  | error fault => exact operates_fail fault

theorem operates_ask (answers : Answers σ α) (event : Except Fault α → Event) :
    (ask answers event : Work σ τ α).Operates :=
  .of_asks (asks_ask answers event)

/-- A lock is nothing that the queue knows of. -/
theorem Operates.underLock [Seconds τ] {work : Work σ τ Unit} (h : work.Operates) (name : String)
    (ttl : Quantity) : (Work.underLock name ttl work).Operates := by
  have hunlock (token : String) : (unlock name token ttl : Work σ τ Unit).Operates := by
    refine .of_store_eq fun w => ?_
    obtain ⟨journal, hw⟩ := unlock_apply name token ttl w
    rw [hw]
  refine Operates.bind (.of_store_eq fun _ => rfl) fun token => ?_
  refine Operates.bind (.of_store_eq fun _ => rfl) fun acquired => ?_
  split
  · refine (operates_ofExcept _).bind fun _ => ?_
    exact (h.andFinally (hunlock token)).bind fun _ => operates_pure true
  · exact operates_pure false

end Work

namespace Relayer

open Work

/-- Reports are nothing that the queue knows of. -/
theorem notifySafely_operates (r : Relayer σ) (severity : Severity) (title body : String) :
    (r.notifySafely severity title body : Work σ τ Unit).Operates :=
  .of_asks (r.notifySafely_asks severity title body)

/-! ### Batches -/

/-- A call of the worker of any family is a history of the queue. -/
theorem worker_operates [Seconds τ] (r : Relayer σ) (ordered : Bool) (family : Family)
    (order : BatchOrder) :
    (processPending order (r.worker ordered family) : Work σ τ (List WorkItem)).Operates := by
  cases family with
  | messageApproved => exact r.messageBatch_operates ordered order
  | stacksTransaction => exact r.outboundBatch_operates order
  | crossChainTransaction =>
    exact processPending_operates order fun items => .of_asks (r.crossChainBatch_asks items)

theorem batchHandler_operates [Seconds τ] (r : Relayer σ) (family : Family) (order : BatchOrder) :
    (processPending order (r.batchHandler family) : Work σ τ (List WorkItem)).Operates := by
  rw [batchHandler_eq_worker]
  exact r.worker_operates true family order

end Relayer

namespace Drain

open Work

theorem reportTimeout_operates (r : Relayer σ) (d : Drain σ τ) : (reportTimeout r d).Operates := by
  refine (operates_log _).bind fun _ => ?_
  refine (operates_ask _ _).attempt.bind fun answer => ?_
  split
  · exact operates_pure ()
  · exact operates_log _

variable [Seconds τ]

/-- A drain makes calls, as many as it may. -/
theorem runFrom_operates (r : Relayer σ) {d : Drain σ τ}
    (h : ∀ order, (processPending order d.handler).Operates) (started : τ)
    (left done total : ℕ) : (runFrom r d started left done total).Operates := by
  induction left generalizing done total with
  | zero => exact (operates_log _).bind fun _ => operates_pure total
  | succ left ih =>
    refine Operates.bind (.of_store_eq fun _ => rfl) fun w => ?_
    split
    · exact (operates_log _).bind fun _ => operates_pure total
    · have honce : d.once.Operates := (h _).bind fun results => operates_pure results.length
      refine honce.attempt.bind fun answer => ?_
      split
      · split
        · exact operates_pure total
        · exact ih _ _
      · dsimp only
        split
        · exact (reportTimeout_operates r d).bind fun _ => operates_fail _
        · exact operates_fail _

theorem run_operates (r : Relayer σ) {d : Drain σ τ}
    (h : ∀ order, (processPending order d.handler).Operates) : (run r d).Operates :=
  Operates.bind (.of_store_eq fun _ => rfl) fun _ => runFrom_operates r h _ _ _ _

end Drain

namespace Relayer

open Work

/-! ### Tasks -/

theorem enqueueItem_operates (item : Except Fault WorkItem) :
    (enqueueItem item : Work σ τ Unit).Operates :=
  (operates_ofExcept item).bind fun item => (upsert_operates item).bind fun _ => operates_pure ()

section Tasks

variable [Seconds τ]

theorem enqueueBroadcast_operates (r : Relayer σ)
    (found : Except Fault (String × PendingBroadcast)) :
    (r.enqueueBroadcast found : Work σ τ Unit).Operates := by
  refine (operates_ofExcept found).bind fun ⟨id, item⟩ => ?_
  refine Operates.bind (.of_store_eq fun _ => rfl) fun timestamp => .of_store_eq fun w => ?_
  rw [BroadcastQueue.put_apply]

/-- A task is written as a work item, or not to the queue at all. -/
theorem taskHandler_operates (r : Relayer σ) {task : HubTask} {work : Work σ τ Unit}
    (h : r.taskHandler task = some work) : work.Operates := by
  unfold taskHandler at h
  split at h <;> cases h
  · exact enqueueItem_operates _
  · exact enqueueItem_operates _
  · exact enqueueItem_operates _
  · exact r.enqueueBroadcast_operates _
  · exact r.enqueueBroadcast_operates _
  · exact r.enqueueBroadcast_operates _
  · exact r.enqueueBroadcast_operates _

theorem processTask_operates (r : Relayer σ) (task : HubTask) :
    (r.processTask task : Work σ τ Bool).Operates := by
  rw [processTask]
  split
  · exact (operates_log _).bind fun _ => operates_pure false
  · exact (r.taskHandler_operates ‹_›).bind fun _ => operates_pure true

theorem processTasks_operates (r : Relayer σ) (tasks : List HubTask) :
    (r.processTasks tasks : Work σ τ (ℕ × Bool)).Operates := by
  induction tasks with
  | nil => exact operates_pure (0, true)
  | cons task rest ih =>
    refine (r.processTask_operates task).attempt.bind fun answer => ?_
    split
    · split
      · refine (operates_log _).bind fun _ => ?_
        exact (r.notifySafely_operates _ _ _).bind fun _ => operates_pure (0, false)
      · exact operates_fail _
    · refine Operates.bind (.of_store_eq fun _ => rfl) fun _ => ?_
      exact ih.bind fun ⟨count, all⟩ => operates_pure (count + 1, all)

theorem processTaskPages_operates (r : Relayer σ) (size : Int) (pages : ℕ) (last : Option String) :
    (r.processTaskPages size pages last : Work σ τ ℕ).Operates := by
  induction pages generalizing last with
  | zero => exact .of_store_eq fun _ => rfl
  | succ pages ih =>
    refine (operates_ask _ _).attempt.bind fun answer => ?_
    split
    · split
      · refine (operates_log _).bind fun _ => ?_
        exact (r.notifySafely_operates _ _ _).bind fun _ => operates_pure 0
      · exact operates_fail _
    · split
      · exact operates_pure 0
      · refine (r.processTasks_operates _).bind fun ⟨count, all⟩ => ?_
        dsimp only
        split
        · refine (operates_log _).bind fun _ => ?_
          exact (ih _).bind fun more => operates_pure (count + more)
        · exact operates_pure count

theorem handleNewTasks_operates (r : Relayer σ) (size : Int) :
    (r.handleNewTasks size : Work σ τ ℕ).Operates :=
  Operates.bind (.of_store_eq fun _ => rfl) fun last => r.processTaskPages_operates _ _ last

end Tasks

/-! ### Events -/

theorem readPages_operates (r : Relayer σ) (contract : String) (last : Option String) (size : Int)
    (pages : ℕ) (offset : Int) :
    (r.readPages contract last size pages offset : Work σ τ (List ContractEvent)).Operates := by
  induction pages generalizing offset with
  | zero => exact .of_store_eq fun _ => rfl
  | succ pages ih =>
    refine (operates_ask _ _).bind fun page => ?_
    dsimp only
    split
    · exact operates_pure _
    · exact (ih _).bind fun older => operates_pure _

/-- The transactions of new events are written, one after the other. -/
theorem pollContract_operates (r : Relayer σ) (name contract : String) :
    (r.pollContract name contract : Work σ τ ℕ).Operates := by
  have hnew (last : Option String) :
      (r.newEvents contract last eventPageSize : Work σ τ (List ContractEvent)).Operates :=
    (r.readPages_operates _ _ _ _ _).bind fun events => operates_pure events.reverse
  refine Operates.bind (.of_store_eq fun _ => rfl) fun last => ?_
  refine (hnew last).bind fun events => ?_
  split
  · exact operates_pure 0
  · refine (upsertAll_operates _).bind fun _ => ?_
    refine Operates.bind (.of_store_eq fun _ => rfl) fun _ => ?_
    exact (operates_log _).bind fun _ => operates_pure events.length

theorem pollContracts_operates (r : Relayer σ) (contracts : List (String × String)) :
    (r.pollContracts contracts : Work σ τ ℕ).Operates := by
  induction contracts with
  | nil => exact operates_pure 0
  | cons head rest ih =>
    refine (r.pollContract_operates head.1 head.2).bind fun count => ?_
    exact ih.bind fun others => operates_pure (count + others)

theorem pollEvents_operates (r : Relayer σ) : (r.pollEvents : Work σ τ ℕ).Operates :=
  r.pollContracts_operates _

/-! ### Pending broadcasts -/

variable [Seconds τ]

theorem advanceBroadcasts_operates (r : Relayer σ) (keys : List String) :
    (r.advanceBroadcasts keys : Work σ τ ℕ).Operates := by
  induction keys with
  | nil => exact operates_pure 0
  | cons key rest ih =>
    refine Operates.bind (.of_store_eq fun w => ?_) fun present =>
      ih.bind fun handled => operates_pure _
    obtain ⟨events, ⟨env, journal, cache, hw⟩, -⟩ := r.advanceBroadcast_turn key w
    rw [hw]

theorem processBroadcasts_operates (r : Relayer σ) : (r.processBroadcasts : Work σ τ ℕ).Operates :=
  Operates.bind (.of_store_eq fun _ => rfl) fun keys => r.advanceBroadcasts_operates keys

/-! ### Jobs -/

theorem drainQueue_operates (r : Relayer σ) (family : Family) (lockTtl : Quantity) :
    (r.drainQueue family lockTtl : Work σ τ Unit).Operates :=
  (Drain.run_operates r (d := r.jobDrain family lockTtl) (r.batchHandler_operates family)).bind
    fun _ => operates_pure ()

theorem runJob_operates (r : Relayer σ) (lockTtl : Quantity) (job : Job) :
    (r.runJob lockTtl job : Work σ τ Unit).Operates := by
  cases job with
  | handleNewTasks =>
    exact (r.handleNewTasks_operates taskPageSize).bind fun _ => operates_pure ()
  | pollEvents => exact r.pollEvents_operates.bind fun _ => operates_pure ()
  | processCrossChain => exact r.drainQueue_operates .crossChainTransaction lockTtl
  | processMessages => exact r.drainQueue_operates .messageApproved lockTtl
  | processStacks => exact r.drainQueue_operates .stacksTransaction lockTtl
  | pendingBroadcasts => exact r.processBroadcasts_operates.bind fun _ => operates_pure ()

/-- **A tick is a history of the queue**, whether it runs its job or finds the lock busy, and
however the run ends. -/
theorem tick_operates (r : Relayer σ) (job : Job) (lockTtl : Quantity) :
    (r.tick job lockTtl : Work σ τ (Except Fault Bool)).Operates :=
  ((r.runJob_operates lockTtl job).underLock job.name lockTtl).attempt

/-- Ticks of jobs, one after the other, each with the lifetime of its lock. -/
def ticks (r : Relayer σ) (jobs : List (Job × Quantity)) : Work σ τ (List (Except Fault Bool)) :=
  jobs.mapM fun (job, lockTtl) => r.tick job lockTtl

theorem ticks_operates (r : Relayer σ) (jobs : List (Job × Quantity)) :
    (r.ticks jobs : Work σ τ (List (Except Fault Bool))).Operates :=
  Operates.mapM (fun (job, lockTtl) => r.tick_operates job lockTtl) jobs

/-- **Ticks keep the promises of the queue.** Whatever has been done on an empty queue before and
whichever calls are in progress: after ticks of any jobs, with any lifetimes of their locks, rows are
there for good, finished ones are as they were, claims are exclusive, and nothing else is locked
than before. -/
theorem ticks_keep_promises (r : Relayer σ) (jobs : List (Job × Quantity)) (ops : List Operation)
    {w : World σ τ} (hstore : w.store = (Queue.run {} ops).store) :
    Queue.Durable (Queue.run {} ops) ⟨(r.ticks jobs w).2.store, (Queue.run {} ops).calls⟩ ∧
    Queue.Exclusive ⟨(r.ticks jobs w).2.store, (Queue.run {} ops).calls⟩ ∧
    (r.ticks jobs w).2.store.locked = w.store.locked :=
  (r.ticks_operates jobs).keeps_promises ops hstore

end Relayer

end ChainRelay
