import ChainRelay.Proofs.Queue.Stages
import ChainRelay.Proofs.Worker.MessageVerdict

/-!
# Three failed attempts

A message is attempted again after an attempt has failed, but not for ever: every failed attempt
costs one of three retries, and with all of them paid the message is given up.

## The contract

The count of failed attempts runs along a history of the queue, over all batches of messages that
were committed in it. Between them anything may happen on the queue: other workers work off their
own batches, calls end without results, and tasks are taken in, the one of the message among them.

## Main definitions

* `Relayer.Fails` — how many attempts on a message fail in a batch
* `CeilingKept` — what a history promises about a message

## Main results

* `Relayer.messages_law` — what every batch keeps of a message and of its failed attempts
* `Relayer.messageHistory_ceiling` — the promise is kept along every history
-/

namespace ChainRelay

variable {σ τ : Type}

namespace Relayer

/-- Whether a batch of messages can end with these results, with so many failed attempts on the
message of a key in it. -/
def Fails (r : Relayer σ) (τ : Type) (key : String) (claimed results : List WorkItem) (k : ℕ) :
    Prop :=
  ∃ (ordered : Bool) (w : World σ τ), (r.messageBatch ordered claimed w).1 = .ok results ∧
    k = r.failures ordered claimed w (.messageApproved, key)

variable {r : Relayer σ} {ordered : Bool} {items results : List WorkItem} {w : World σ τ}

/-- Every item of a batch that ends with results has its turn. -/
theorem exists_messageTurn (h : (r.messageBatch ordered items w).1 = .ok results)
    {item : WorkItem} (hitem : item ∈ items) : ∃ t ∈ r.messageTurns items w, t.item = item := by
  rw [← (of_messageBatch h).1] at hitem
  exact List.mem_map.mp hitem

/-- No attempt fails on what is not in the batch. -/
theorem failures_of_not_mem {key : RowKey} (hkey : key ∉ items.map WorkItem.rowKey) :
    r.failures ordered items w key = 0 := by
  have hother : ∀ t ∈ r.messageTurns items w, t.item.rowKey ≠ key := by
    intro t ht heq
    exact hkey (List.mem_map.mpr ⟨t.item, Work.item_mem_of_mem_turns ht, heq⟩)
  have hturns : (r.messageTurns items w).filter (fun t => t.item.rowKey == key) = [] :=
    List.filter_eq_nil_iff.mpr fun t ht heq => hother t ht (eq_of_beq heq)
  have hsubmissions : (r.submissions ordered items w).filter
      (fun s => s.1.advanced.rowKey == key) = [] := by
    refine List.filter_eq_nil_iff.mpr fun s hs heq => ?_
    obtain ⟨t, ht, -, hsame⟩ := turn_of_mem_submissions hs
    exact hother t ht (hsame.symm.trans (eq_of_beq heq))
  rw [failures, hturns, hsubmissions]
  rfl

/-- **What every batch keeps.** As many retries are paid as attempts have failed, and no more than
the ceiling allows. -/
theorem messages_law (r : Relayer σ) (τ : Type) (key : String) :
    BatchLaw .messageApproved key (r.Fails τ key)
      fun s n => (n : Int) ≤ s.retry ∧ s.retry ≤ retryCeiling where
  sound := by
    rintro claimed results k hclaimed hfamily ⟨ordered, w, hreturns, -⟩
    obtain ⟨hsound, hdistinct⟩ := sound_messageBatch hclaimed hfamily hreturns
    exact ⟨hsound, Store.nodup_key_of_checkResults hsound hdistinct⟩
  away := by
    rintro claimed results k - - ⟨ordered, w, -, rfl⟩ hkey
    refine failures_of_not_mem fun hmem => hkey ?_
    obtain ⟨item, hitem, heq⟩ := List.mem_map.mp hmem
    exact List.mem_map.mpr ⟨item, hitem, congrArg Prod.snd heq⟩
  held := by
    rintro claimed results k hclaimed hfamily ⟨ordered, w, hreturns, rfl⟩ item hitem rfl n
      ⟨hpaid, hceiling⟩
    obtain ⟨t, ht, rfl⟩ := exists_messageTurn hreturns hitem
    have hverdict := messageBatch_verdict hclaimed hreturns ht
    have hrowKey : t.item.rowKey = (.messageApproved, t.item.key) :=
      Prod.ext (hfamily t.item hitem) rfl
    change (n : Int) ≤ t.item.retry at hpaid
    change t.item.retry ≤ retryCeiling at hceiling
    rw [← hrowKey]
    generalize r.failures ordered claimed w t.item.rowKey = k at hverdict
    cases hverdict with
    | left absent =>
      refine .inl ⟨rfl, fun hmem => absent ?_⟩
      obtain ⟨out, hout, hkey⟩ := List.mem_map.mp hmem
      obtain ⟨t', ht', hsame, -⟩ := result_cases hreturns hout
      have hfamily' : out.family = .messageApproved :=
        (congrArg Prod.fst hsame).trans (hfamily t'.item (Work.item_mem_of_mem_turns ht'))
      rw [hrowKey, ← hkey, ← hfamily']
      exact List.mem_map_of_mem hout
    | @failed out hopeful returned rowKey _ _ retry =>
      refine .inr ⟨out, returned, congrArg Prod.snd rowKey, ?_⟩
      have hnext := ceilingReached_eq_false_iff.mp hopeful
      change ((n + 1 : ℕ) : Int) ≤ out.retry ∧ out.retry ≤ retryCeiling
      omega
    | @moved out returned rowKey retry =>
      refine .inr ⟨out, returned, congrArg Prod.snd rowKey, ?_⟩
      change ((n + 0 : ℕ) : Int) ≤ out.retry ∧ out.retry ≤ retryCeiling
      rcases retry with hsame | ⟨hopeful, hone⟩
      · omega
      · have hnext := ceilingReached_eq_false_iff.mp hopeful
        omega

end Relayer

/-! ### The promise -/

/-- A call of a queue whose handler has worked off its batch of messages in `w` and returned. -/
structure MessagesReturned (r : Relayer σ) (q : Queue) (i : Nat) (call : Call) (ordered : Bool)
    (w : World σ τ) (results : List WorkItem) : Prop where
  progress : q.call? i = some call
  family : call.family = .messageApproved
  returns : (r.messageBatch ordered call.claimed w).1 = .ok results

/-- What a history promises about a message on which so many attempts have failed. -/
structure CeilingKept (r : Relayer σ) (τ : Type) (key : String) (q : Queue) (failures : ℕ) :
    Prop where
  /-- Each of them has cost a retry, and there are three. -/
  paid : ∃ row, q.store.row? (.messageApproved, key) = some row ∧
    (failures : Int) ≤ row.item.retry ∧ row.item.retry ≤ 3
  few : failures ≤ 3
  /-- In the next batch that holds the message at most one attempt fails, and then the row stays
  pending without a handle and with one retry more than when it was claimed. -/
  failed : ∀ (i : Nat) (call : Call) (ordered : Bool) (w : World σ τ) (results : List WorkItem),
    MessagesReturned r q i call ordered w results → ∀ item ∈ call.claimed, item.key = key →
    ∀ now, r.failures ordered call.claimed w (.messageApproved, key) ≤ 1 ∧
      (r.failures ordered call.claimed w (.messageApproved, key) = 1 →
        ∃ row, (q.step (.finish i (.returned results now))).store.row? (.messageApproved, key) =
          some row ∧ row.item.status = .pending ∧ row.item.txHash = none ∧
          row.item.retry = item.retry + 1)
  /-- With three retries paid the message fails as soon as nothing is in flight for it that may
  still succeed, and nothing is built or sent for it. -/
  givenUp : ∀ (i : Nat) (call : Call) (ordered : Bool) (w : World σ τ) (results : List WorkItem),
    MessagesReturned r q i call ordered w results → ∀ item ∈ call.claimed, item.key = key →
    item.retry = 3 → ∃ t ∈ r.messageTurns call.claimed w, t.item = item ∧
      ((item.txHash = none ∨ ∃ txHash, item.txHash = some txHash ∧
          (r.sighting txHash t.before).Releases (r.age item txHash t.before)
            item.hasContinuation) →
        (∀ now, ∃ row, (q.step (.finish i (.returned results now))).store.row?
          (.messageApproved, key) = some row ∧ row.item.status = .failed) ∧
        (∀ e ∈ t.events, e.isAttempt = false) ∧
        ∀ s ∈ r.submissions ordered call.claimed w, s.1.advanced.rowKey ≠ item.rowKey)

namespace Relayer

variable {r : Relayer σ} {key : String} {q : Queue} {i : Nat} {call : Call} {ordered : Bool}
  {w : World σ τ} {results : List WorkItem}

/-- What is returned for a message its row takes over. -/
theorem row_of_messagesReturned (hstaged : q.Staged)
    (h : MessagesReturned r q i call ordered w results) {item out : WorkItem}
    (hitem : item ∈ call.claimed) (hout : out ∈ results) (hkey : out.rowKey = item.rowKey)
    (now : Instant) :
    ∃ row, (q.step (.finish i (.returned results now))).store.row? (.messageApproved, item.key) =
      some row ∧ row.item.stage = out.stage := by
  obtain ⟨hclaimed, hfamilies⟩ := hstaged.sound.claimed h.progress
  obtain ⟨hsound, hdistinct⟩ := sound_messageBatch hclaimed hfamilies h.returns
  obtain ⟨row, hrow, -⟩ :=
    hstaged.stages call (Queue.mem_calls_of_call? h.progress) item hitem
  have hplace : item.rowKey = (call.family, out.key) :=
    Prod.ext (hfamilies item hitem) (congrArg Prod.snd hkey).symm
  rw [hplace] at hrow
  obtain ⟨row', hrow', hstage⟩ := Queue.row?_finish_of_mem now h.progress hsound
    (Store.nodup_key_of_checkResults hsound hdistinct) hout hrow
  refine ⟨row', ?_, hstage⟩
  rw [← h.family, show item.key = out.key from congrArg Prod.snd hplace]
  exact hrow'

/-- **The retry ceiling.** Whatever chain, executor, hub and notifier do: from its first row on a
message is attempted at most three times without success, each time at the cost of a retry, and when
all are paid it is given up without another attempt. -/
theorem messageHistory_ceiling (r : Relayer σ) (ops : List Operation) {row : Row}
    (hrow : (Queue.run {} ops).store.row? (.messageApproved, key) = some row)
    (hretry : row.item.retry = 0) {failures : ℕ}
    (history : Queue.Tallied .messageApproved (r.Fails τ key) (Queue.run {} ops) q failures) :
    CeilingKept r τ key q failures := by
  have hstart : (Queue.run {} ops).Staged := Queue.run_staged Queue.staged_empty ops
  have hfirst : ((0 : ℕ) : Int) ≤ row.item.retry ∧ row.item.retry ≤ retryCeiling := by
    rw [hretry]
    decide
  obtain ⟨row', hrow', hpaid, hceiling⟩ :=
    history.keeps (r.messages_law τ key) hstart hrow hfirst
  have hstaged := history.staged hstart
  change (failures : Int) ≤ row'.item.retry at hpaid
  change row'.item.retry ≤ 3 at hceiling
  refine ⟨⟨row', hrow', hpaid, hceiling⟩, by omega, ?_, ?_⟩
  · rintro i call ordered w results h item hitem rfl now
    obtain ⟨hclaimed, hfamilies⟩ := hstaged.sound.claimed h.progress
    obtain ⟨t, ht, rfl⟩ := exists_messageTurn h.returns hitem
    have hverdict := messageBatch_verdict hclaimed h.returns ht
    rw [show t.item.rowKey = (.messageApproved, t.item.key) from
      Prod.ext ((hfamilies t.item hitem).trans h.family) rfl] at hverdict
    generalize r.failures ordered call.claimed w (.messageApproved, t.item.key) = k at hverdict
    cases hverdict with
    | left absent => exact ⟨Nat.zero_le _, fun h => by cases h⟩
    | @failed out _ returned rowKey status txHash retry =>
      refine ⟨Nat.le_refl _, fun _ => ?_⟩
      obtain ⟨row, hrow, hstage⟩ := row_of_messagesReturned hstaged h hitem returned rowKey now
      have hpending := hclaimed.pending t.item hitem
      exact ⟨row, hrow, (congrArg Stage.status hstage).trans (status.trans hpending),
        (congrArg Stage.txHash hstage).trans txHash, (congrArg Stage.retry hstage).trans retry⟩
    | moved _ _ _ => exact ⟨Nat.zero_le _, fun h => by cases h⟩
  · rintro i call ordered w results h item hitem rfl hthree
    obtain ⟨hclaimed, -⟩ := hstaged.sound.claimed h.progress
    obtain ⟨t, ht, rfl⟩ := exists_messageTurn h.returns hitem
    refine ⟨t, ht, rfl, fun hfree => ?_⟩
    have hreached : ceilingReached t.item.retry retryCeiling = true := by
      rw [hthree]
      decide
    obtain ⟨hout, hevents, hsubmissions⟩ :=
      messageTurn_at_ceiling hclaimed h.returns ht hreached hfree
    refine ⟨fun now => ?_, hevents, hsubmissions⟩
    obtain ⟨row, hrow, hstage⟩ := row_of_messagesReturned hstaged h hitem hout rfl now
    exact ⟨row, hrow, congrArg Stage.status hstage⟩

end Relayer

/-! ### A message that was rejected -/

/-- How messages are worked off. -/
def messageOrder : Work.BatchOrder := (QueueSettings.standard .messageApproved).order

/-- A relayer whose transactions nobody accepts. -/
def rejecting : Relayer Simulation :=
  Relayer.simulated.withSend fun _ env => (.ok { success := false }, env)

/-- A message that was taken in long enough ago. -/
def oneMessage : World Simulation Rat :=
  { World.initial {} 0 with
    store := (Queue.run {} [.upsert 0 (.shortMessage "first")]).store
    wall := 15000000 }

theorem batch_oneMessage : oneMessage.batch messageOrder =
    [{ WorkItem.shortMessage "first" with createdAt := some 0, updatedAt := some 0 }] :=
  World.batch_of_ordered (by decide +kernel) (by decide +kernel)

namespace Relayer

/-- After the first call one attempt has failed. -/
theorem messageHistory_ceiling_rejected : ∃ row q,
    (Queue.run {} [.upsert 0 (.shortMessage "first")]).store.row? (.messageApproved, "first") =
      some row ∧ row.item.retry = 0 ∧
    Queue.Tallied .messageApproved (rejecting.Fails Rat "first")
      (Queue.run {} [.upsert 0 (.shortMessage "first")]) q 1 ∧
    CeilingKept rejecting Rat "first" q 1 := by
  have hrests : oneMessage.store.checkRests messageOrder.family messageOrder.backoff
      oneMessage.wallNow = .ok () := rfl
  have htimeout : messageOrder.timeout.check = .ok () := QueueSettings.check_timeout _
  obtain ⟨results, w', hrun, hfails⟩ : ∃ results w',
      Work.processPending messageOrder (rejecting.messageBatch true) oneMessage =
        (.ok results, w') ∧
      rejecting.Fails Rat "first" (oneMessage.batch messageOrder) results 1 := by
    rw [Work.processPending_apply _ _ _ hrests htimeout, batch_oneMessage]
    exact ⟨_, _, rfl, true, oneMessage.handed messageOrder, rfl, rfl⟩
  have hfirst : Queue.Tallied messageOrder.family (rejecting.Fails Rat "first")
      (Queue.run {} [.upsert 0 (.shortMessage "first")])
      (Queue.run {} [.upsert 0 (.shortMessage "first")]) 0 := .refl
  obtain ⟨q, -, history⟩ := hfirst.of_processPending rfl
    (fun items w => (rejecting.messageBatch_later true items w).store_eq) hrun hfails
  exact ⟨_, q, rfl, rfl, history, messageHistory_ceiling rejecting _ rfl rfl history⟩

end Relayer

end ChainRelay
