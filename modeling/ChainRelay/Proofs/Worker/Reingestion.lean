import ChainRelay.Proofs.Queue.Overlap
import ChainRelay.Proofs.Worker.RetryCeiling
import ChainRelay.Worker.Tasks

/-!
# A task that is taken in again

A hub may serve the task of a message again while the message is executed step by step. The row of
the message then stays as far as it is; its payload becomes that of the task, which knows nothing of
the steps that were made.

## The contract

Whether a message is complete once the transaction in flight has succeeded is decided by its payload
as it was claimed. The message whose task is taken in between two of its steps is therefore
completed by the next confirmation, though steps are missing. While a call holds the message, a task
does no harm: the result of the call replaces all that the task has written.

## Main definitions

* `Reingestion` — what a task does to a queue that may know its message already

## Main results

* `Relayer.completed_iff` — when a batch completes a message
* `Relayer.processTask_execute` — a task to execute a message is refused, or its item is upserted
* `Relayer.reingestion_law` — what becomes of the message, now and later
* `Relayer.reingestion_completes` — two steps, and a task between them
-/

namespace ChainRelay

variable {σ τ : Type}

/-! ### When a message is complete -/

namespace MessageTurn

variable {r : Relayer σ} {item : WorkItem} {w : World σ τ} {events : List Event} {d : Decision}

/-- Nothing but the success of what is in flight completes an item. -/
theorem of_success {out : WorkItem} (h : MessageTurn r item w events (.ok (.settle out)))
    (hpending : item.status = .pending) (hout : out.status = .success) :
    item.hasContinuation = false ∧
      ∃ txHash, item.txHash = some txHash ∧ (r.sighting txHash w).Succeeded := by
  have hfresh {events : List Event} (h : MessageCourse item events (.ok (.settle out))) :
      out.status ≠ .success := by
    rcases h.settled.2 with hstatus | hstatus <;> simp [hstatus, hpending]
  cases h with
  | unsent _ h => exact absurd hout (hfresh h)
  | finished sent succeeded last => exact ⟨last, _, sent, succeeded⟩
  | renewed _ _ h => exact absurd hout (hfresh h)

/-- What is in flight has succeeded, and there is nothing more to do. -/
theorem success {txHash : String} (h : MessageTurn r item w events (.ok d))
    (hlast : item.hasContinuation = false) (hsent : item.txHash = some txHash)
    (hsucceeded : (r.sighting txHash w).Succeeded) :
    d = .settle { item with status := .success } := by
  cases h with
  | unsent hunsent _ =>
    rw [hsent] at hunsent
    cases hunsent
  | left sent waiting =>
    cases hsent.symm.trans sent
    rcases waiting with hraised | ⟨hunsettled, -⟩
    · exact absurd hraised hsucceeded.not_raised
    · exact absurd hunsettled hsucceeded.not_unsettled
  | finished _ _ _ => rfl
  | renewed sent releases _ =>
    cases hsent.symm.trans sent
    rcases releases with hfailed | ⟨hunsettled, -⟩ | ⟨-, hcontinues⟩
    · exact absurd hfailed hsucceeded.not_failed
    · exact absurd hunsettled hsucceeded.not_unsettled
    · rw [hlast] at hcontinues
      cases hcontinues

end MessageTurn

namespace Relayer

variable {r : Relayer σ} {ordered : Bool} {items results : List WorkItem} {w : World σ τ}

/-- **When a batch completes a message**: the transaction in flight has succeeded, and no step
follows it. -/
theorem completed_iff (hclaimed : Claimed items)
    (h : (r.messageBatch ordered items w).1 = .ok results) {t : Turn σ τ Decision}
    (ht : t ∈ r.messageTurns items w) :
    (∃ out ∈ results, out.rowKey = t.item.rowKey ∧ out.status = .success) ↔
      t.item.hasContinuation = false ∧
        ∃ txHash, t.item.txHash = some txHash ∧ (r.sighting txHash t.before).Succeeded := by
  obtain ⟨-, hvalues, hresults, -⟩ := of_messageBatch h
  have hmem : t.item ∈ items := Work.item_mem_of_mem_turns ht
  have hpending := hclaimed.pending t.item hmem
  constructor
  · rintro ⟨out, hout, hkey, hstatus⟩
    obtain ⟨t', ht', hkey', -, hcases⟩ := result_cases h hout
    obtain rfl : t' = t :=
      Work.eq_of_rowKey_eq hclaimed.distinct ht' ht (hkey'.symm.trans hkey)
    rcases hcases with hsettled | ⟨s, -, ha, rfl⟩
    · have hcourse := course_of_mem_messageTurns ht
      rw [Turn.settled?_eq_some_iff.mp hsettled] at hcourse
      exact hcourse.of_success hpending hstatus
    · -- what was submitted is still pending
      obtain ⟨-, -, hadvanced, -⟩ := attempt_of_mem_messageTurns ht ha
      obtain ⟨txHash, retry, houtcome⟩ := s.1.outcome_eq s.2
      rw [houtcome] at hstatus
      cases (hadvanced.trans hpending).symm.trans hstatus
  · rintro ⟨hlast, txHash, hsent, hsucceeded⟩
    obtain ⟨d, hd⟩ := hvalues t ht
    have hcourse := course_of_mem_messageTurns ht
    rw [hd] at hcourse
    obtain rfl := hcourse.success hlast hsent hsucceeded
    refine ⟨{ t.item with status := .success }, ?_, rfl, rfl⟩
    rw [hresults]
    exact List.mem_append_left _
      (List.mem_filterMap.mpr ⟨t, ht, Turn.settled?_eq_some_iff.mpr hd⟩)

end Relayer

/-! ### The task of a message -/

namespace Relayer

/-- The item of a task is a message of which no step has been made. -/
theorem messageItem_eq_ok {task : HubTask} {item : WorkItem} (h : messageItem task = .ok item) :
    ∃ m : Message, m.extra = .null ∧
      item = { family := .messageApproved, key := m.sourceChain ++ ":" ++ m.messageId,
               payload := .message m } := by
  rw [messageItem] at h
  obtain ⟨message, -, h⟩ := exists_of_bind_eq_ok h
  obtain ⟨sourceChain, -, h⟩ := exists_of_bind_eq_ok h
  obtain ⟨messageId, -, h⟩ := exists_of_bind_eq_ok h
  obtain ⟨availableGasBalance, -, h⟩ := exists_of_bind_eq_ok h
  obtain ⟨sourceAddress, -, h⟩ := exists_of_bind_eq_ok h
  obtain ⟨contractAddress, -, h⟩ := exists_of_bind_eq_ok h
  obtain ⟨encodedHash, -, h⟩ := exists_of_bind_eq_ok h
  obtain ⟨hash, -, h⟩ := exists_of_bind_eq_ok h
  obtain ⟨encodedPayload, -, h⟩ := exists_of_bind_eq_ok h
  obtain ⟨payload, -, h⟩ := exists_of_bind_eq_ok h
  cases h
  exact ⟨⟨_, _, _, _, _, _, _, _, _⟩, rfl, rfl⟩

theorem hasContinuation_messageItem {task : HubTask} {item : WorkItem}
    (h : messageItem task = .ok item) : item.hasContinuation = false := by
  obtain ⟨m, hextra, rfl⟩ := messageItem_eq_ok h
  rw [WorkItem.hasContinuation]
  simp only [hextra]

/-- **A task to execute a message** is refused, or its item is upserted and nothing else is done. -/
theorem processTask_execute [Seconds τ] (r : Relayer σ) {task : HubTask}
    (htype : task.type = "EXECUTE") (w : World σ τ) :
    (∃ fault, messageItem task = .error fault ∧
      r.processTask task w = (.error (.fault fault), w)) ∨
    ∃ item trace, messageItem task = .ok item ∧ r.processTask task w =
      (.ok true, { w with store := (w.store.upsert w.wallNow item).2, trace }) := by
  have hhandler : (r.taskHandler task : Option (Work σ τ Unit)) =
      some (enqueueItem (messageItem task)) := by
    rw [taskHandler, htype]
    rfl
  have hprocess : (r.processTask task : Work σ τ Bool) =
      enqueueItem (messageItem task) >>= fun _ => pure true := by
    rw [processTask, hhandler]
  rw [hprocess]
  cases hitem : messageItem task with
  | error fault => exact .inl ⟨fault, rfl, rfl⟩
  | ok item => exact .inr ⟨item, _, rfl, rfl⟩

end Relayer

/-! ### What becomes of the message -/

/-- What a task to execute a message does to a queue, where `item` is the item of the task and `now`
the time at which it is taken in. -/
structure Reingestion (r : Relayer σ) (τ : Type) (q : Queue) (now : Instant) (item : WorkItem) :
    Prop where
  /-- The task knows of no step. -/
  forgets : item.hasContinuation = false
  /-- Every row stays as far as it is. -/
  stages : ∀ key row, q.store.row? key = some row →
    ∃ row', (q.step (.upsert now item)).store.row? key = some row' ∧
      row'.item.stage = row.item.stage
  /-- Other rows, and rows that are finished, stay as they are. -/
  others : ∀ key row, q.store.row? key = some row →
    key ≠ item.rowKey ∨ row.item.status.isTerminal = true →
      (q.step (.upsert now item)).store.row? key = some row
  /-- The row of the message takes over the payload of the task. -/
  renewed : ∀ row, q.store.row? item.rowKey = some row → row.item.status = .pending →
    (q.step (.upsert now item)).store.row? item.rowKey =
      some { row with item := { row.item with payload := item.payload, updatedAt := some now } }
  /-- If a call holds the message and returns it, the row is then as if the task had not been taken
  in. -/
  replaced : ∀ (i : Nat) (call : Call) (results : List WorkItem) (later : Instant),
    q.call? i = some call → Store.checkResults call.family call.claimed results = .ok () →
    (∃ out ∈ results, out.rowKey = item.rowKey) →
      ((q.step (.upsert now item)).step (.finish i (.returned results later))).store.row?
          item.rowKey =
        (q.step (.finish i (.returned results later))).store.row? item.rowKey
  /-- Whoever claims the message later on, while its row is as the task has left it, finds no step to
  come. -/
  claimed : ∀ (ops : List Operation),
    ((q.step (.upsert now item)).run ops).store.row? item.rowKey =
      (q.step (.upsert now item)).store.row? item.rowKey →
    (∃ row, q.store.row? item.rowKey = some row ∧ row.item.status = .pending) →
    ∀ (family : Family) (size : Int) (backoff : Backoff) (later : Instant),
      ∀ held ∈ (((q.step (.upsert now item)).run ops).store.claim family size backoff later).1,
        held.rowKey = item.rowKey → held.hasContinuation = false
  /-- Now and later a call completes exactly those of its messages whose transaction in flight has
  succeeded, with no step to come when they were claimed. -/
  completed : ∀ (ops : List Operation) (i : Nat) (call : Call) (ordered : Bool) (w : World σ τ)
    (results : List WorkItem),
    MessagesReturned r (q.run ops) i call ordered w results →
    ∀ t ∈ r.messageTurns call.claimed w, ∀ later,
      ∃ row, ((q.run ops).step (.finish i (.returned results later))).store.row? t.item.rowKey =
        some row ∧
          (row.item.status = .success ↔ t.item.hasContinuation = false ∧
            ∃ txHash, t.item.txHash = some txHash ∧ (r.sighting txHash t.before).Succeeded)

namespace Relayer

variable {q : Queue} {item : WorkItem} {now : Instant}

/-- What a call returns for a message replaces what a task has written meanwhile. -/
theorem replaced_of_staged (hstaged : q.Staged) {i : Nat} {call : Call}
    {results : List WorkItem} (later : Instant) (hcall : q.call? i = some call)
    (hsound : Store.checkResults call.family call.claimed results = .ok ())
    (hreturned : ∃ out ∈ results, out.rowKey = item.rowKey) :
    ((q.step (.upsert now item)).step (.finish i (.returned results later))).store.row?
        item.rowKey =
      (q.step (.finish i (.returned results later))).store.row? item.rowKey := by
  have hending : (Ending.returned results later).Writes call item.rowKey := ⟨hsound, hreturned⟩
  have hkey : item.rowKey ∈ call.keys :=
    hstaged.sound.mem_keys_of_writes hcall ((Queue.mem_writes_finish_iff hcall).mpr hending)
  obtain ⟨held, hheld, hplace⟩ := List.mem_map.mp hkey
  obtain ⟨row, hrow, -⟩ := hstaged.stages call (Queue.mem_calls_of_call? hcall) held hheld
  rw [hplace] at hrow
  have hopen : row.item.status.isTerminal = false := by
    rw [hstaged.sound.pending_of_held hcall hkey hrow]
    rfl
  exact Queue.row?_finish_congr hcall hcall hending hrow (Queue.row?_upsert now hrow hopen)

/-- The end of a call completes what its batch has completed. -/
theorem completed_of_staged {r : Relayer σ} (hstaged : q.Staged) {i : Nat} {call : Call}
    {ordered : Bool} {w : World σ τ} {results : List WorkItem}
    (h : MessagesReturned r q i call ordered w results) {t : Turn σ τ Decision}
    (ht : t ∈ r.messageTurns call.claimed w) (later : Instant) :
    ∃ row, (q.step (.finish i (.returned results later))).store.row? t.item.rowKey = some row ∧
      (row.item.status = .success ↔ t.item.hasContinuation = false ∧
        ∃ txHash, t.item.txHash = some txHash ∧ (r.sighting txHash t.before).Succeeded) := by
  obtain ⟨hclaimed, hfamilies⟩ := hstaged.sound.claimed h.progress
  obtain ⟨hsound, hdistinct⟩ := sound_messageBatch hclaimed hfamilies h.returns
  have hitem : t.item ∈ call.claimed := Work.item_mem_of_mem_turns ht
  have hkey : t.item.rowKey = (.messageApproved, t.item.key) :=
    Prod.ext ((hfamilies t.item hitem).trans h.family) rfl
  have hcompleted := completed_iff hclaimed h.returns ht
  by_cases hreturned : ∃ out ∈ results, out.rowKey = t.item.rowKey
  · obtain ⟨out, hout, hout'⟩ := hreturned
    obtain ⟨row, hrow, hstage⟩ := row_of_messagesReturned hstaged h hitem hout hout' later
    refine ⟨row, hkey ▸ hrow, ?_⟩
    rw [← hcompleted, show row.item.status = out.status from congrArg Stage.status hstage]
    constructor
    · exact fun hstatus => ⟨out, hout, hout', hstatus⟩
    · rintro ⟨out', hmem, hsame, hstatus⟩
      rw [List.inj_on_of_nodup_map hdistinct hout hmem (hout'.trans hsame.symm)]
      exact hstatus
  · -- the row is as it was when the call claimed the message
    obtain ⟨row, hrow, hstage⟩ :=
      hstaged.stages call (Queue.mem_calls_of_call? h.progress) t.item hitem
    refine ⟨row, ?_, ?_⟩
    · rw [Queue.row?_finish later h.progress hsound, hrow, Option.map_some,
        Row.afterResults_of_not_mem]
      intro out hout hsame
      refine hreturned ⟨out, hout, ?_⟩
      rw [← Store.rowKey_of_row? hrow, hsame]
      exact Store.rowKey_of_checkResults hsound hout
    · rw [← hcompleted, show row.item.status = t.item.status from congrArg Stage.status hstage,
        hclaimed.pending t.item hitem]
      constructor
      · rintro ⟨⟩
      · rintro ⟨out, hout, hsame, -⟩
        exact absurd ⟨out, hout, hsame⟩ hreturned

/-- What is claimed from a row that a task has renewed has no step to come. -/
theorem claimed_of_staged (hstaged : q.Staged) (hforgets : item.hasContinuation = false)
    (ops : List Operation)
    (hsame : ((q.step (.upsert now item)).run ops).store.row? item.rowKey =
      (q.step (.upsert now item)).store.row? item.rowKey)
    (hpending : ∃ row, q.store.row? item.rowKey = some row ∧ row.item.status = .pending)
    {family : Family} {size : Int} {backoff : Backoff} {later : Instant} {held : WorkItem}
    (hheld : held ∈
      (((q.step (.upsert now item)).run ops).store.claim family size backoff later).1)
    (hkey : held.rowKey = item.rowKey) : held.hasContinuation = false := by
  obtain ⟨row, hrow, hpending⟩ := hpending
  obtain ⟨-, -, -, row', hrow', rfl⟩ := Store.of_mem_claim hheld
  have hlater : ((q.step (.upsert now item)).run ops).Staged :=
    Queue.run_staged (Queue.step_staged hstaged _) ops
  have hfound := Store.row?_of_mem hlater.sound.keys hrow'
  rw [hkey, hsame, Queue.row?_upsert now hrow (by rw [hpending]; rfl)] at hfound
  cases hfound
  exact hforgets

theorem reingestion_of_staged (r : Relayer σ) (τ : Type) (hstaged : q.Staged)
    (hforgets : item.hasContinuation = false) (now : Instant) : Reingestion r τ q now item where
  forgets := hforgets
  stages _ _ hrow := Queue.stage_upsert now item hrow
  others := by
    intro key row hrow hother
    refine (Queue.row?_step ?_).trans hrow
    rcases hother with hne | hterminal
    · rw [Queue.writes]
      split
      · rw [List.mem_singleton]
        exact hne
      · exact List.not_mem_nil
    · rw [← Store.rowKey_of_row? hrow]
      exact hstaged.sound.not_mem_writes (Store.mem_of_row? hrow) hterminal _
  renewed _ hrow hpending := Queue.row?_upsert now hrow (by rw [hpending]; rfl)
  replaced _ _ _ later hcall hsound hreturned :=
    replaced_of_staged hstaged later hcall hsound hreturned
  claimed ops hsame hpending _ _ _ _ _ hheld hkey :=
    claimed_of_staged hstaged hforgets ops hsame hpending hheld hkey
  completed ops _ _ _ _ _ h _ ht later :=
    completed_of_staged (Queue.run_staged hstaged ops) h ht later

/-- **A task that is taken in again.** In every reachable state, with calls in progress or without,
a task to execute a message leaves all rows as far as they are. The row of the message takes over
the payload of the task, and with it the steps to come are forgotten, unless a call holds the row
and returns it. -/
theorem reingestion_law [Seconds τ] (r : Relayer σ) (ops : List Operation) {w : World σ τ}
    (hstore : w.store = (Queue.run {} ops).store) {task : HubTask}
    (htype : task.type = "EXECUTE") :
    (∃ fault, messageItem task = .error fault ∧
      r.processTask task w = (.error (.fault fault), w)) ∨
    ∃ item trace, messageItem task = .ok item ∧
      r.processTask task w = (.ok true, { w with
        store := ((Queue.run {} ops).step (.upsert w.wallNow item)).store, trace }) ∧
      Reingestion r τ (Queue.run {} ops) w.wallNow item := by
  rcases r.processTask_execute htype w with hrefused | ⟨item, trace, hitem, hprocess⟩
  · exact .inl hrefused
  have hstaged : (Queue.run {} ops).Staged := Queue.run_staged Queue.staged_empty ops
  rw [hstore] at hprocess
  exact .inr ⟨item, trace, hitem, hprocess,
    r.reingestion_of_staged τ hstaged (hasContinuation_messageItem hitem) w.wallNow⟩

end Relayer

/-! ### A task between two steps -/

/-- The task of a message that deploys something before it is executed. -/
def deployTask : HubTask := ⟨"task-1", "EXECUTE", .obj [
  ("message", .obj [("sourceChain", .str "ethereum"), ("messageID", .str "m-1")]),
  ("payload", .str "AQI=")]⟩

/-- An executor that has a first step for it, which succeeds. -/
def deployer : Simulation where
  transactions := [("0x01", { txHash := "0x01", status := .success })]
  outcomes := [("ethereum:m-1", {
    kind := BuildKind.built.word
    transaction := some { txId := "0x01", serialized := "signed:0x01" }
    extra := .str "deployed"
    incrementRetry := false })]

namespace World

/-- The world when half a minute has gone by. -/
def rested (w : World σ τ) : World σ τ := { w with wall := w.wall + 30000000 }

/-- What the row of the message says: its status, whether there are steps to come, and the
transaction in flight. -/
def progress (w : World σ τ) : Option (Status × Bool × Option String) :=
  (w.store.get? .messageApproved "ethereum:m-1").map fun item =>
    (item.status, item.hasContinuation, item.txHash)

/-- The task is taken in. -/
def takeIn (w : World Simulation Rat) : World Simulation Rat :=
  (Relayer.simulated.processTask deployTask w).2

/-- The messages that wait are worked off. -/
def workOff (w : World Simulation Rat) : World Simulation Rat :=
  (Work.processPending messageOrder (Relayer.simulated.messageBatch true) w.rested).2

/-- The first step has been sent, and there are steps to come. -/
def deploying : World Simulation Rat := (World.initial deployer 0).takeIn.workOff

end World

namespace Relayer

/-- **A message whose steps are forgotten.** Its first step has been sent. Then its task is taken in
again, and when the step has succeeded the message is complete; without the task it goes on to its
next step. -/
theorem reingestion_completes :
    World.deploying.progress = some (.pending, true, some "0x01") ∧
    World.deploying.takeIn.progress = some (.pending, false, some "0x01") ∧
    World.deploying.takeIn.workOff.progress = some (.success, false, some "0x01") ∧
    World.deploying.workOff.progress = some (.pending, true, some "0x01") := by
  decide +kernel

/-- The law on this task, and on a message with a step to come. -/
theorem reingestion_law_deploying :
    let held : WorkItem := { family := .messageApproved, key := "ethereum:m-1", txHash := some "0x01"
                             payload := .message {
                               sourceChain := "ethereum", messageId := "m-1", sourceAddress := ""
                               contractAddress := "", payloadHash := "", payload := [1, 2]
                               extra := .str "deployed" } }
    let w : World Simulation Rat :=
      { World.initial deployer 0 with store := (Queue.run {} [.upsert 0 held]).store }
    w.store = (Queue.run {} [.upsert 0 held]).store ∧ deployTask.type = "EXECUTE" ∧
    ((∃ fault, messageItem deployTask = .error fault ∧
        simulated.processTask deployTask w = (.error (.fault fault), w)) ∨
      ∃ item trace, messageItem deployTask = .ok item ∧
        simulated.processTask deployTask w = (.ok true, { w with
          store := ((Queue.run {} [.upsert 0 held]).step (.upsert w.wallNow item)).store, trace }) ∧
        Reingestion simulated Rat (Queue.run {} [.upsert 0 held]) w.wallNow item) := by
  intro held w
  exact ⟨rfl, rfl, reingestion_law simulated [.upsert 0 held] rfl rfl⟩

end Relayer

end ChainRelay
