import ChainRelay.Proofs.Queue.Stages
import ChainRelay.Proofs.Worker.AcceptedSends

/-!
# Four accepted transactions

An outbound transaction that was accepted may still fail on the chain, and then another one is sent
in its place. The first one costs nothing, each one that replaces another costs one of three
retries, and so does a build that is to be tried again. A task is therefore paid for four times at
most.

## The contract

The transactions are counted that were accepted in committed batches. The retries that are paid
account for all of them but one, and that one is in flight: an item without a handle has paid for
everything that was accepted for it. What is sent by a call that ends without results is not
stored, and not counted here; how far such a call can get is the subject of
`ChainRelay.Proofs.Worker.AcceptedSends`.

## Main definitions

* `Relayer.acceptances` — how many transactions for an item are accepted in a batch
* `OutboundVerdict` — what a turn makes of an item, by the number of transactions accepted in it
* `BudgetKept` — what a history promises about an outbound item

## Main results

* `Relayer.outboundItem_at_ceiling` — nothing is built or sent at the ceiling
* `Relayer.outbound_law` — what every batch keeps of an item and of its accepted transactions
* `Relayer.outboundHistory_budget` — the promise is kept along every history
-/

namespace ChainRelay

variable {σ τ : Type}

/-- A transaction was sent and accepted. -/
def Event.isAccepted : Event → Bool
  | sent _ (.ok answer) => answer.success
  | _ => false

theorem Event.IsAside.isAccepted_eq {e : Event} (h : e.IsAside) : e.isAccepted = false := by
  cases e <;> first | rfl | cases h.2

theorem Event.countP_isAccepted_of_asides {events : List Event} (h : ∀ e ∈ events, e.IsAside) :
    events.countP isAccepted = 0 := by
  rw [List.countP_eq_zero]
  intro e he
  simp [(h e he).isAccepted_eq]

/-! ### At the ceiling -/

namespace Relayer

/-- **Nothing is built or sent at the ceiling**, and the item pays nothing more. -/
theorem outboundItem_at_ceiling (r : Relayer σ) {item : WorkItem}
    (hceiling : ceilingReached item.retry retryCeiling = true) (w : World σ τ) :
    ∃ events, w.Later (r.outboundItem item w).2 events ∧
      (∀ e ∈ events, e.isAttempt = false) ∧
      ∀ out, (r.outboundItem item w).1 = .ok (some out) → ∃ status, out = { item with status } := by
  have hfresh : (r.outboundFresh item : Work σ τ (Option WorkItem)).Yields Event.IsAside
      fun out => out = some { item with status := .failed } := by
    rw [outboundFresh, if_pos hceiling]
    exact Work.Yields.bind (r.failOutbound_yields item _) fun out hout =>
      Work.yields_pure (by rw [hout])
  obtain ⟨main, later, course⟩ := r.advanceOutbound_course_of item hfresh w
  -- the course of the item makes no attempt
  obtain ⟨hmain, hsettled⟩ : (∀ e ∈ main, e.isAttempt = false) ∧
      ∀ out, (r.advanceOutbound item w).1 = .ok (some out) → ∃ status, out = { item with status } := by
    generalize (r.advanceOutbound item w).1 = result at course
    cases course with
    | unsent _ h =>
      refine ⟨fun e he => (h.1 e he).2, fun out hout => ⟨.failed, ?_⟩⟩
      exact Option.some.inj (h.2 _ hout)
    | left _ _ => exact ⟨by simp [Event.isAttempt], fun out hout => by cases hout⟩
    | finished _ _ _ =>
      refine ⟨by simp [Event.isAttempt], fun out hout => ⟨.success, ?_⟩⟩
      cases hout
      rfl
    | renewed _ _ h =>
      refine ⟨fun e he => ?_, fun out hout => ⟨.failed, Option.some.inj (h.2 _ hout)⟩⟩
      rcases List.mem_cons.mp he with rfl | he
      · rfl
      · exact (h.1 e he).2
  rcases r.outboundItem_apply item w with
    ⟨out, w', hadvance, hitem⟩ | ⟨halt, w', hadvance, report, later', hasides, hnone⟩
  · rw [hadvance] at later hsettled
    rw [hitem]
    exact ⟨main, later, hmain, hsettled⟩
  · rw [hadvance] at later
    refine ⟨main ++ report, later.trans later', fun e he => ?_, fun out hout => ?_⟩
    · rcases List.mem_append.mp he with he | he
      · exact hmain e he
      · exact (hasides e he).2
    · cases hnone _ hout

end Relayer

/-! ### One turn -/

/-- What a turn makes of an outbound item, by the number of transactions that were accepted in
it. -/
inductive OutboundVerdict (item : WorkItem) : ℕ → Option WorkItem → Prop
  /-- The item is left alone. -/
  | left : OutboundVerdict item 0 none
  /-- It is finished or given up. -/
  | settled (status : Status) : OutboundVerdict item 0 (some { item with status })
  /-- A build is to be tried again. -/
  | setback (hopeful : ceilingReached item.retry retryCeiling = false) :
      OutboundVerdict item 0 (some { item with retry := item.retry + 1, txHash := none })
  /-- A transaction was accepted. -/
  | accepted (hopeful : ceilingReached item.retry retryCeiling = false) (txHash : String) :
      OutboundVerdict item 1 (some (item.sentAs txHash))

section

variable {item : WorkItem} {events : List Event} {out : Option WorkItem}

/-- Fresh work below the ceiling. -/
theorem OutboundTurn.verdict (h : OutboundTurn item events (.ok out))
    (hopeful : ceilingReached item.retry retryCeiling = false) :
    OutboundVerdict item (events.countP Event.isAccepted) out := by
  obtain ⟨main, report, ending, rfl, hreport, hmain, hending⟩ := h
  rw [List.countP_append, Event.countP_isAccepted_of_asides hreport, Nat.add_zero]
  cases hmain with
  | givenUp asides decided =>
    rw [Event.countP_isAccepted_of_asides asides]
    rcases hending with ⟨out', hended, hsame⟩ | ⟨-, hnone⟩
    · cases hsame
      rw [decided _ hended]
      exact .settled _
    · rw [hnone out rfl]
      exact .left
  | @unbuilt first rest answer _ asides decided =>
    have hbuilt : (Event.built item answer).isAccepted = false := rfl
    have hfirst := Event.countP_isAccepted_of_asides fun e he =>
      asides e (List.mem_append_left rest he)
    have hrest := Event.countP_isAccepted_of_asides fun e he =>
      asides e (List.mem_append_right first he)
    rw [List.countP_append, List.countP_cons_of_neg (by simp [hbuilt]), hfirst, hrest]
    rcases hending with ⟨out', hended, hsame⟩ | ⟨-, hnone⟩
    · cases hsame
      rcases decided _ hended with rfl | rfl
      · exact .setback hopeful
      · exact .settled _
    · rw [hnone out rfl]
      exact .left
  | @sent first o transaction answer _ asides built decided =>
    have hbuilt : (Event.built item (.ok o)).isAccepted = false := rfl
    rw [List.countP_append, Event.countP_isAccepted_of_asides asides,
      List.countP_cons_of_neg (by simp [hbuilt]), List.countP_singleton, Nat.zero_add]
    rcases hending with ⟨out', hended, hsame⟩ | ⟨⟨halt, hhalt⟩, hnone⟩
    · cases hsame
      obtain ⟨accepted, rfl, hsuccess, rfl⟩ := (decided _).mp hended
      rw [if_pos (show (Event.sent transaction (.ok accepted)).isAccepted = true from hsuccess)]
      exact .accepted hopeful _
    · -- an accepted transaction is a result
      rw [hnone out rfl, if_neg]
      · exact .left
      · intro haccepted
        cases answer with
        | error fault => cases haccepted
        | ok accepted =>
          have hended := (decided _).mpr ⟨accepted, rfl, haccepted, rfl⟩
          cases hended.symm.trans hhalt

end

namespace Relayer

variable {r : Relayer σ} {items results : List WorkItem} {w : World σ τ}
  {t : Turn σ τ (Option WorkItem)}

theorem course_of_mem_outboundTurns (ht : t ∈ Work.turns r.outboundItem items w) :
    Course r t.item t.before false (OutboundTurn t.item) none
      (some { t.item with status := .success }) t.events t.result :=
  Work.holds_of_mem_turns
    (P := fun item w events result => Course r item w false (OutboundTurn item) none
      (some { item with status := .success }) events result)
    r.outboundItem_course ht

theorem at_ceiling_of_mem_outboundTurns (ht : t ∈ Work.turns r.outboundItem items w)
    (hceiling : ceilingReached t.item.retry retryCeiling = true) :
    (∀ e ∈ t.events, e.isAttempt = false) ∧
      ∀ out, t.result = .ok (some out) → ∃ status, out = { t.item with status } := by
  obtain ⟨events, later, hevents, hsettled⟩ := r.outboundItem_at_ceiling hceiling t.before
  rw [Work.apply_of_mem_turns ht] at later hsettled
  rw [Turn.events, later.drop_trace]
  exact ⟨hevents, hsettled⟩

/-- **Every turn that ends with a value gives its item a verdict.** -/
theorem outboundTurn_verdict (ht : t ∈ Work.turns r.outboundItem items w)
    {out : Option WorkItem} (hout : t.result = .ok out) :
    OutboundVerdict t.item (t.events.countP Event.isAccepted) out := by
  cases hceiling : ceilingReached t.item.retry retryCeiling with
  | true =>
    obtain ⟨hevents, hsettled⟩ := at_ceiling_of_mem_outboundTurns ht hceiling
    have hnone : t.events.countP Event.isAccepted = 0 := by
      rw [List.countP_eq_zero]
      intro e he haccepted
      have hattempt := hevents e he
      cases e <;> first | cases haccepted | cases hattempt
    rw [hnone]
    cases out with
    | none => exact .left
    | some out =>
      obtain ⟨status, rfl⟩ := hsettled out hout
      exact .settled status
  | false =>
    have hcourse := course_of_mem_outboundTurns ht
    rw [hout] at hcourse
    generalize t.events = events at hcourse
    cases hcourse with
    | unsent _ h => exact h.verdict hceiling
    | left _ _ => exact .left
    | finished _ _ _ => exact .settled _
    | renewed _ _ h =>
      rw [List.countP_cons_of_neg (by simp [Event.isAccepted])]
      exact h.verdict hceiling

/-! ### A batch -/

/-- How many transactions for the item of a key are accepted in a batch. -/
def acceptances (r : Relayer σ) (items : List WorkItem) (w : World σ τ) (key : RowKey) : ℕ :=
  (((Work.turns r.outboundItem items w).filter fun t => t.item.rowKey == key).flatMap
    Turn.events).countP Event.isAccepted

/-- Whether a batch can end with these results, with so many accepted transactions for the item of a
key in it. -/
def AcceptsIn (r : Relayer σ) (τ : Type) (key : String) (claimed results : List WorkItem) (k : ℕ) :
    Prop :=
  ∃ w : World σ τ, (r.outboundBatch claimed w).1 = .ok results ∧
    k = r.acceptances claimed w (.stacksTransaction, key)

/-- A batch that ends with results has given every item its turn. -/
theorem items_of_outboundBatch (h : (r.outboundBatch items w).1 = .ok results) :
    (Work.turns r.outboundItem items w).map Turn.item = items := by
  obtain ⟨w', hrun⟩ : ∃ w', r.outboundBatch items w = (.ok results, w') := ⟨_, Prod.ext h rfl⟩
  obtain ⟨outs, w₁, hmap, -⟩ := Work.bind_apply_eq_ok hrun
  exact (Work.turns_of_mapM (congrArg Prod.fst hmap)).1

/-- In a claimed batch an item is worked on in its own turn only. -/
theorem acceptances_eq (hclaimed : Claimed items)
    (ht : t ∈ Work.turns r.outboundItem items w) :
    r.acceptances items w t.item.rowKey = t.events.countP Event.isAccepted := by
  have hturn : (Work.turns r.outboundItem items w).filter
      (fun t' => t'.item.rowKey == t.item.rowKey) = [t] :=
    filter_eq_singleton (Work.nodup_rowKey_turns hclaimed.distinct) ht
  rw [acceptances, hturn, List.flatMap_singleton]

/-- A result about an item comes from its turn. -/
theorem value_of_mem_results (hclaimed : Claimed items)
    (h : (r.outboundBatch items w).1 = .ok results) (ht : t ∈ Work.turns r.outboundItem items w)
    {out : WorkItem} (hout : out ∈ results) (hkey : out.rowKey = t.item.rowKey) :
    t.result = .ok (some out) := by
  rw [(r.outboundBatch_eq_ok h).2] at hout
  obtain ⟨t', ht', hvalue⟩ := List.mem_filterMap.mp hout
  obtain ⟨value, hended, rfl⟩ := Option.bind_eq_some_iff.mp hvalue
  have hresult := Turn.value?_eq_some_iff.mp hended
  obtain rfl : t' = t := Work.eq_of_rowKey_eq hclaimed.distinct ht' ht
    (((r.turned_of_mem_turns ht').2 out hresult).1.symm.trans hkey)
  exact hresult

/-- **What every batch keeps.** All transactions that were accepted for an item are paid for with a
retry, but for the one that is in flight. -/
theorem outbound_law (r : Relayer σ) (τ : Type) (key : String) :
    BatchLaw .stacksTransaction key (r.AcceptsIn τ key) fun s n =>
      (n : Int) ≤ s.retry + (if s.txHash.isSome then 1 else 0) ∧ s.retry ≤ retryCeiling where
  sound := by
    rintro claimed results k hclaimed hfamily ⟨w, hreturns, -⟩
    obtain ⟨hsound, hdistinct⟩ := r.sound_outboundBatch hclaimed hfamily hreturns
    exact ⟨hsound, Store.nodup_key_of_checkResults hsound hdistinct⟩
  away := by
    rintro claimed results k - - ⟨w, -, rfl⟩ hkey
    have hturns : (Work.turns r.outboundItem claimed w).filter
        (fun t => t.item.rowKey == (Family.stacksTransaction, key)) = [] := by
      refine List.filter_eq_nil_iff.mpr fun t ht heq => hkey ?_
      exact List.mem_map.mpr
        ⟨t.item, Work.item_mem_of_mem_turns ht, congrArg Prod.snd (eq_of_beq heq)⟩
    rw [acceptances, hturns]
    rfl
  held := by
    rintro claimed results k hclaimed hfamily ⟨w, hreturns, rfl⟩ item hitem rfl n ⟨hpaid, hceiling⟩
    rw [← items_of_outboundBatch hreturns] at hitem
    obtain ⟨t, ht, rfl⟩ := List.mem_map.mp hitem
    have hmem : t.item ∈ claimed := Work.item_mem_of_mem_turns ht
    have hrowKey : t.item.rowKey = (.stacksTransaction, t.item.key) :=
      Prod.ext (hfamily t.item hmem) rfl
    obtain ⟨out, hout⟩ := (r.outboundBatch_eq_ok hreturns).1 t ht
    have hverdict := outboundTurn_verdict ht hout
    have hreturned {out' : WorkItem} (h : out = some out') : out' ∈ results :=
      mem_results_of_turn hreturns ht (h ▸ hout)
    change (n : Int) ≤ t.item.retry + (if t.item.txHash.isSome then 1 else 0) at hpaid
    change t.item.retry ≤ retryCeiling at hceiling
    rw [← hrowKey, acceptances_eq hclaimed ht]
    generalize t.events.countP Event.isAccepted = k at hverdict
    cases hverdict with
    | left =>
      refine .inl ⟨rfl, fun habsent => ?_⟩
      obtain ⟨out, hmem', hkey⟩ := List.mem_map.mp habsent
      have hsound := (r.sound_outboundBatch hclaimed hfamily hreturns).1
      have hfamily' := (Store.of_checkResults hsound out hmem').1
      have hresult := value_of_mem_results hclaimed hreturns ht hmem'
        (hrowKey ▸ Prod.ext hfamily' hkey)
      cases hout.symm.trans hresult
    | settled status => exact .inr ⟨_, hreturned rfl, rfl, hpaid, hceiling⟩
    | setback hopeful =>
      refine .inr ⟨_, hreturned rfl, rfl, ?_, ceilingReached_eq_false_iff.mp hopeful⟩
      change (n : Int) ≤ t.item.retry + 1 + 0
      split at hpaid <;> omega
    | accepted hopeful txHash =>
      refine .inr ⟨_, hreturned rfl, rfl, ?_⟩
      have hnext : t.item.retry < retryCeiling := ceilingReached_eq_false_iff.mp hopeful
      change ((n + 1 : ℕ) : Int) ≤ (if t.item.txHash.isSome then t.item.retry + 1
          else t.item.retry) + 1 ∧
        (if t.item.txHash.isSome then t.item.retry + 1 else t.item.retry) ≤ retryCeiling
      split at hpaid
      · rename_i hsent
        rw [if_pos hsent]
        omega
      · rename_i hunsent
        rw [if_neg hunsent]
        omega

end Relayer

/-! ### The promise -/

/-- What a history promises about an outbound item for which so many transactions have been
accepted. -/
structure BudgetKept (r : Relayer σ) (τ : Type) (key : String) (q : Queue) (accepted : ℕ) :
    Prop where
  /-- Each of them was paid for with one of three retries, but for the one in flight. -/
  paid : ∃ row, q.store.row? (.stacksTransaction, key) = some row ∧
    (accepted : Int) ≤ row.item.retry + (if row.item.txHash.isSome then 1 else 0) ∧
      row.item.retry ≤ 3
  few : accepted ≤ 4
  /-- With three retries paid nothing is built or sent for the item, in whatever world a call works
  it off, and whether or not the call gets as far as its results. -/
  spent : ∀ row, q.store.row? (.stacksTransaction, key) = some row → row.item.retry = 3 →
    ∀ (i : Nat) (call : Call), q.call? i = some call →
      ∀ (w : World σ τ), ∀ t ∈ Work.turns r.outboundItem call.claimed w,
        t.item.rowKey = (.stacksTransaction, key) → ∀ e ∈ t.events, e.isAttempt = false

namespace Relayer

variable {r : Relayer σ} {key : String} {q : Queue}

/-- **The budget of an outbound item.** Whatever chain and executor do, and however often its task
is taken in again: from its first row on four transactions at most are accepted for it, and the
retries tell how many. -/
theorem outboundHistory_budget (r : Relayer σ) (ops : List Operation) {row : Row}
    (hrow : (Queue.run {} ops).store.row? (.stacksTransaction, key) = some row)
    (hretry : row.item.retry = 0) {accepted : ℕ}
    (history : Queue.Tallied .stacksTransaction (r.AcceptsIn τ key) (Queue.run {} ops) q accepted) :
    BudgetKept r τ key q accepted := by
  have hstart : (Queue.run {} ops).Staged := Queue.run_staged Queue.staged_empty ops
  have hfirst : ((0 : ℕ) : Int) ≤ row.item.retry + (if row.item.txHash.isSome then 1 else 0) ∧
      row.item.retry ≤ retryCeiling := by
    rw [hretry]
    exact ⟨by split <;> decide, by decide⟩
  obtain ⟨row', hrow', hpaid, hceiling⟩ :=
    history.keeps (r.outbound_law τ key) hstart hrow hfirst
  have hstaged := history.staged hstart
  change (accepted : Int) ≤ row'.item.retry + (if row'.item.txHash.isSome then 1 else 0) at hpaid
  change row'.item.retry ≤ 3 at hceiling
  refine ⟨⟨row', hrow', hpaid, hceiling⟩, by split at hpaid <;> omega, ?_⟩
  intro row hrow hthree i call hcall w t ht hkey
  -- the call has claimed the item with the retries of its row
  have hmem : t.item ∈ call.claimed := Work.item_mem_of_mem_turns ht
  obtain ⟨held, hheld, hstage⟩ := hstaged.stages call (Queue.mem_calls_of_call? hcall) t.item hmem
  rw [hkey, hrow] at hheld
  cases hheld
  have hreached : ceilingReached t.item.retry retryCeiling = true := by
    rw [← show row.item.retry = t.item.retry from congrArg Stage.retry hstage, hthree]
    decide
  exact (at_ceiling_of_mem_outboundTurns ht hreached).1

end Relayer

/-! ### A task that is paid for once -/

/-- A task that was taken in long enough ago. -/
def oneTask : World Simulation Rat :=
  { World.initial {} 0 with
    store := (Queue.run {} [.upsert 0 (.shortGateway "task-1")]).store
    wall := 15000000 }

theorem batch_oneTask : oneTask.batch outboundOrder = [.shortGateway "task-1"] :=
  World.batch_of_ordered (by decide +kernel) (by decide +kernel)

namespace Relayer

/-- After the first call one transaction has been accepted. -/
theorem outboundHistory_budget_oneTask : ∃ row q,
    (Queue.run {} [.upsert 0 (.shortGateway "task-1")]).store.row? (.stacksTransaction, "task-1") =
      some row ∧ row.item.retry = 0 ∧
    Queue.Tallied .stacksTransaction (simulated.AcceptsIn Rat "task-1")
      (Queue.run {} [.upsert 0 (.shortGateway "task-1")]) q 1 ∧
    BudgetKept simulated Rat "task-1" q 1 := by
  have hrests : oneTask.store.checkRests outboundOrder.family outboundOrder.backoff
      oneTask.wallNow = .ok () := rfl
  have htimeout : outboundOrder.timeout.check = .ok () := QueueSettings.check_timeout _
  obtain ⟨results, w', hrun, haccepts⟩ : ∃ results w',
      Work.processPending outboundOrder simulated.outboundBatch oneTask = (.ok results, w') ∧
      simulated.AcceptsIn Rat "task-1" (oneTask.batch outboundOrder) results 1 := by
    rw [Work.processPending_apply _ _ _ hrests htimeout, batch_oneTask]
    exact ⟨_, _, rfl, oneTask.handed outboundOrder, rfl, rfl⟩
  have hfirst : Queue.Tallied outboundOrder.family (simulated.AcceptsIn Rat "task-1")
      (Queue.run {} [.upsert 0 (.shortGateway "task-1")])
      (Queue.run {} [.upsert 0 (.shortGateway "task-1")]) 0 := .refl
  obtain ⟨q, -, history⟩ := hfirst.of_processPending rfl
    (fun items w => (simulated.outboundBatch_later items w).store_eq) hrun haccepts
  exact ⟨_, q, rfl, rfl, history, outboundHistory_budget simulated _ rfl rfl history⟩

end Relayer

end ChainRelay
