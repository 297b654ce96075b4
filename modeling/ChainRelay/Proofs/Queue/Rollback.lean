import ChainRelay.Proofs.Database.Contents
import ChainRelay.Proofs.Queue.Overlap
import Mathlib.Algebra.Order.Ring.Rat

/-!
# Calls that come to nothing

A handler can fail in many ways: it raises a fault, it takes too long, or it returns what it must
not return. In all of them nothing of the call is left in the queue but what others have done while
it was going on, and nothing stays locked.

## The contract

A handler is any work on the world. What it does on the queue, and what others do while it waits, is
all part of the world in which it ends; the call adds nothing to that. Results are looked through
before the first of them is written, so it makes no difference where among them the bad one stands.

## Main definitions

* `WorkItem.Refused` — an item that a call must not return
* `Work.RolledBack` — what a call leaves that has come to nothing, and how it ends

## Main results

* `Store.commit_of_refused` — one bad item refuses a whole result
* `Work.suspend_exceeded` — a wait past the limit reaches it
* `Work.processPending_rollback` — every call whose handler fails comes to nothing
-/

namespace ChainRelay

/-- An item that a call must not return. -/
inductive WorkItem.Refused (family : Family) (claimed : List WorkItem) (item : WorkItem) : Prop
  /-- No item of this key was claimed. -/
  | unclaimed (h : ∀ held ∈ claimed, held.key ≠ item.key)
  /-- It is one of another family. -/
  | foreign (h : item.family ≠ family)
  /-- It takes back retries. -/
  | lowered (held : WorkItem) (hheld : held ∈ claimed) (hkey : held.key = item.key)
      (h : item.retry < held.retry)

namespace Store

variable {s : Store} {family : Family} {claimed results : List WorkItem} {item : WorkItem}
  {now : Instant}

/-- No sound result has such an item. -/
theorem checkResults_ne_ok_of_refused (hdistinct : (claimed.map WorkItem.key).Nodup)
    (hitem : item ∈ results) (h : item.Refused family claimed) :
    checkResults family claimed results ≠ .ok () := by
  intro hcheck
  obtain ⟨hfamily, held, hheld, hkey, -, hretry⟩ := of_checkResults hcheck item hitem
  cases h with
  | unclaimed h => exact h held hheld hkey
  | foreign h => exact h hfamily
  | lowered held' hheld' hkey' h =>
    obtain rfl : held' = held :=
      List.inj_on_of_nodup_map hdistinct hheld' hheld (hkey'.trans hkey.symm)
    exact absurd hretry (Int.not_le.mpr h)

/-- **One bad item refuses a whole result**, wherever it stands. -/
theorem commit_of_refused (hdistinct : (claimed.map WorkItem.key).Nodup) (hitem : item ∈ results)
    (h : item.Refused family claimed) :
    ∃ message, s.commit family claimed results now = .error (.invariant message) := by
  rw [commit]
  cases hcheck : checkResults family claimed results with
  | ok _ => exact absurd hcheck (checkResults_ne_ok_of_refused hdistinct hitem h)
  | error fault =>
    obtain ⟨message, rfl⟩ := invariant_of_checkResults hcheck
    exact ⟨message, rfl⟩

/-- What is claimed from rows with distinct keys has distinct keys, as it is of one family. -/
theorem nodup_key_claim (hkeys : s.keys.Nodup) (size : Int) (backoff : Backoff) :
    ((s.claim family size backoff now).1.map WorkItem.key).Nodup := by
  have hdistinct : ((s.claim family size backoff now).1.map WorkItem.rowKey).Nodup :=
    (claimed_claim hkeys).distinct
  rw [List.nodup_map_iff_inj_on hdistinct.of_map]
  intro a ha b hb heq
  refine List.inj_on_of_nodup_map hdistinct ha hb (Prod.ext ?_ heq)
  exact (of_mem_claim ha).1.trans (of_mem_claim hb).1.symm

theorem mem_locked_release {items : List WorkItem} {key : RowKey} :
    key ∈ (s.release items).locked ↔ key ∈ s.locked ∧ key ∉ items.map WorkItem.rowKey := by
  rw [release, List.mem_filter]
  simp

end Store

namespace Work

/-! ### Limits -/

variable {σ : Type}

/-- A limit is reached at its time. -/
theorem reached_of_le {now stop : Rat} {limit : Limit Rat} (h : limitTime now limit ≤ stop) :
    reached now stop [limit] = some 0 := by
  have hgrain : stop < stop + 1 / 1000000000 := lt_add_of_pos_right _ (by decide +kernel)
  have hdue : Seconds.isDue (limitTime now limit) stop = true :=
    decide_eq_true (h.trans_lt hgrain)
  rw [reached, List.findIdx?_cons, if_pos hdue]

/-- The clock does not stand still before the limit, if the wait ends after it. -/
theorem limitTime_le_firstStop {now wake : Rat} {limit : Limit Rat}
    (h : limitTime now limit ≤ wake) : limitTime now limit ≤ firstStop now wake [limit] := by
  rw [firstStop, List.foldl_cons, List.foldl_nil]
  split
  · exact le_refl _
  · exact h

/-- **Waiting too long.** In a call that is not part of another one, a wait that ends at the limit
or after it is cut short. -/
theorem suspend_exceeded {w : World σ Rat} {limit : Limit Rat} (hlimits : w.limits = [limit])
    {seconds : Quantity} (hlate : limitTime w.waited limit ≤ w.waited + max 0 seconds.toRat) :
    (suspend seconds w).1 = .error (.cancelled 0) := by
  obtain ⟨wake, hwake⟩ : ∃ wake : Rat, wake =
      if (Seconds.ofQuantity seconds : Rat) ≤ Seconds.whole 0 then w.waited
      else w.waited + Seconds.ofQuantity seconds := ⟨_, rfl⟩
  have hwakes : limitTime w.waited limit ≤ wake := by
    refine hlate.trans (le_of_eq ?_)
    change wake = if seconds.toRat ≤ ((0 : Int) : Rat) then w.waited
      else w.waited + seconds.toRat at hwake
    rw [hwake, Int.cast_zero]
    split
    · rename_i hnone
      rw [max_eq_left hnone, add_zero]
    · rename_i hsome
      rw [max_eq_right (not_le.mp hsome).le]
  obtain ⟨stop, hstop⟩ : ∃ stop : Rat, stop =
      if firstStop w.waited wake [limit] < w.waited then w.waited
      else firstStop w.waited wake [limit] := ⟨_, rfl⟩
  have hdue : limitTime w.waited limit ≤ stop := by
    have hfirst := limitTime_le_firstStop hwakes
    rw [hstop]
    split
    · rename_i hbefore
      exact hfirst.trans hbefore.le
    · exact hfirst
  rw [suspend, hlimits, ← hwake, ← hstop, reached_of_le hdue]

/-! ### Calls -/

variable {τ : Type} [Seconds τ]

/-- How a call has come to nothing whose handler ended with `ended` in the world `left`. -/
structure RolledBack (order : BatchOrder) (w : World σ τ) (ended : Except Halt (List WorkItem))
    (left : World σ τ) (call : Except Halt (List WorkItem) × World σ τ) : Prop where
  /-- A fault that the handler raised goes on, -/
  raised : ∀ fault, ended = .error (.fault fault) → (∀ message, fault ≠ .timeout message) →
    call.1 = .error (.fault fault)
  /-- a limit that was reached is a timeout of the queue, and so is one that the handler met, -/
  exceeded : (ended = .error (.cancelled w.limits.length) ∨
      ∃ message, ended = .error (.fault (.timeout message))) →
    call.1 = .error (.fault (.queueTimeout order.family order.timeout))
  /-- a cancellation of what is around the call goes on, as every other halt does, -/
  halted : ∀ halt, ended = .error halt → (∀ fault, halt ≠ .fault fault) →
    halt ≠ .cancelled w.limits.length → call.1 = .error halt
  /-- and a result that is refused breaks an invariant. -/
  refused : ∀ results, ended = .ok results →
    ∃ message, call.1 = .error (.fault (.invariant message))
  /-- The call has written nothing before its handler started, -/
  before : (w.handed order).store.rows = w.store.rows ∧
    (w.handed order).store.commits = w.store.commits ∧ (w.handed order).trace = w.trace
  /-- and nothing after it has ended. -/
  after : call.2.store.rows = left.store.rows ∧ call.2.store.commits = left.store.commits ∧
    call.2.store.next = left.store.next ∧ call.2.trace = left.trace
  /-- What it has claimed is not locked any more, -/
  unlocked : ∀ item ∈ w.batch order, item.rowKey ∉ call.2.store.locked
  /-- and other locks are as they were. -/
  others : ∀ key, key ∉ (w.batch order).map WorkItem.rowKey →
    (key ∈ call.2.store.locked ↔ key ∈ left.store.locked)
  /-- So the whole queue is as before if nobody else has changed it meanwhile. -/
  untouched : left.store = (w.handed order).store → call.2.store = w.store

/-- A call that ends without results has only released what it had claimed. -/
theorem RolledBack.of_released {order : BatchOrder} {w left : World σ τ}
    {ended : Except Halt (List WorkItem)} {call : Except Halt (List WorkItem) × World σ τ}
    (hworld : call.2 =
      { left with limits := w.limits, store := left.store.release (w.batch order) })
    (hhalt : ∀ halt, ended = .error halt → call.1 = .error (order.ending w.limits.length halt))
    (hrefused : ∀ results, ended = .ok results →
      ∃ message, call.1 = .error (.fault (.invariant message))) :
    RolledBack order w ended left call where
  raised fault hended hplain := by
    rw [hhalt _ hended]
    cases fault <;> first | rfl | exact absurd rfl (hplain _)
  exceeded hended := by
    rcases hended with hended | ⟨message, hended⟩
    · rw [hhalt _ hended, BatchOrder.ending, if_pos rfl]
    · rw [hhalt _ hended, BatchOrder.ending]
  halted halt hended hfault hcancelled := by
    rw [hhalt _ hended]
    cases halt with
    | fault fault => exact absurd rfl (hfault fault)
    | cancelled depth =>
      rw [BatchOrder.ending, if_neg fun heq => hcancelled (by rw [heq])]
    | endless => rfl
  refused := hrefused
  before := ⟨rfl, rfl, rfl⟩
  after := by
    rw [hworld]
    exact ⟨rfl, rfl, rfl, rfl⟩
  unlocked item hitem := by
    rw [hworld, Store.mem_locked_release]
    exact fun hlocked => hlocked.2 (List.mem_map_of_mem hitem)
  others key hkey := by
    rw [hworld, Store.mem_locked_release]
    exact and_iff_left hkey
  untouched hleft := by
    rw [hworld]
    change left.store.release (w.batch order) = w.store
    rw [hleft]
    exact Store.release_claim _ _ _ _ _

/-- **All or nothing.** A call comes to nothing if its handler ends without results, or if any of
the items that it returns must not be returned. -/
theorem processPending_rollback (order : BatchOrder)
    (handler : List WorkItem → Work σ τ (List WorkItem)) {w left : World σ τ}
    {ended : Except Halt (List WorkItem)} (hkeys : w.store.keys.Nodup)
    (hstarts : w.starts order = true)
    (hrun : handler (w.batch order) (w.handed order) = (ended, left))
    (hfails : ∀ results, ended = .ok results →
      ∃ item ∈ results, item.Refused order.family (w.batch order)) :
    RolledBack order w ended left (processPending order handler w) := by
  obtain ⟨hrests, htimeout⟩ := World.starts_iff.mp hstarts
  rw [processPending_apply order handler w hrests htimeout, hrun]
  cases ended with
  | error halt =>
    refine RolledBack.of_released rfl (fun halt' hended => ?_) fun results hended => by cases hended
    cases hended
    rfl
  | ok results =>
    obtain ⟨item, hitem, hrefused⟩ := hfails results rfl
    have hdistinct : ((w.batch order).map WorkItem.key).Nodup :=
      Store.nodup_key_claim hkeys order.size order.backoff
    obtain ⟨message, hcommit⟩ : ∃ message, left.store.commit order.family (w.batch order) results
        left.wallNow = .error (.invariant message) :=
      Store.commit_of_refused hdistinct hitem hrefused
    rw [BatchOrder.conclude, hcommit]
    exact RolledBack.of_released rfl (fun halt hended => by cases hended)
      fun results' _ => ⟨message, rfl⟩

/-! ### Two ways to fail -/

/-- A handler that returns each of its items twice, and takes a retry back the second time. Another
transaction is taken in meanwhile. -/
def takingBack (claimed : List WorkItem) : Work Unit Rat (List WorkItem) := do
  let _ ← upsert { relayedAs "0x01" with key := "0x01" }
  return claimed ++ claimed.map fun item => { item with retry := item.retry - 1 }

/-- A handler that waits for longer than it may take. -/
def oversleeping (claimed : List WorkItem) : Work Unit Rat (List WorkItem) := do
  suspend 61
  return claimed

/-- Both leave the row of the transaction as it was, and unlocked. The one that was taken in stays.
-/
theorem rolledBack_relayed :
    World.relayed.store.keys.Nodup ∧ World.relayed.starts relayedOrder = true ∧
    (∃ results, (takingBack (World.relayed.batch relayedOrder)
        (World.relayed.handed relayedOrder)).1 = .ok results ∧
      ∃ item ∈ results, item.Refused relayedOrder.family (World.relayed.batch relayedOrder)) ∧
    (oversleeping (World.relayed.batch relayedOrder)
      (World.relayed.handed relayedOrder)).1 = .error (.cancelled 0) ∧
    (∀ handler ∈ [takingBack, oversleeping], RolledBack relayedOrder World.relayed
      (handler (World.relayed.batch relayedOrder) (World.relayed.handed relayedOrder)).1
      (handler (World.relayed.batch relayedOrder) (World.relayed.handed relayedOrder)).2
      (processPending relayedOrder handler World.relayed)) ∧
    (World.relayed.relay takingBack).store.rows.map (fun row => row.item.key) = ["0x00", "0x01"] ∧
    (World.relayed.relay oversleeping).store.rows.map (fun row => row.item.key) = ["0x00"] := by
  have hkeys : World.relayed.store.keys.Nodup := by decide +kernel
  have hstarts : World.relayed.starts relayedOrder = true := by decide +kernel
  obtain ⟨item, hbatch⟩ : ∃ item, World.relayed.batch relayedOrder = [item] :=
    ⟨_, World.batch_of_ordered (by decide +kernel) (by decide +kernel)⟩
  have hrefused : WorkItem.Refused relayedOrder.family (World.relayed.batch relayedOrder)
      { item with retry := item.retry - 1 } := by
    rw [hbatch]
    exact .lowered item List.mem_cons_self rfl (Int.sub_lt_self _ Int.one_pos)
  have hslept : (oversleeping (World.relayed.batch relayedOrder)
      (World.relayed.handed relayedOrder)).1 = .error (.cancelled 0) := by
    have hlimits : (World.relayed.handed relayedOrder).limits = [some 60] := by
      decide +kernel
    have hlate : (suspend 61 (World.relayed.handed relayedOrder)).1 = .error (.cancelled 0) :=
      suspend_exceeded hlimits (by decide +kernel)
    have hrun : suspend 61 (World.relayed.handed relayedOrder) = (.error (.cancelled 0),
        (suspend 61 (World.relayed.handed relayedOrder)).2) := Prod.ext hlate rfl
    rw [oversleeping, bind_apply_of_error hrun]
  have hreturned : (takingBack (World.relayed.batch relayedOrder)
      (World.relayed.handed relayedOrder)).1 =
        .ok ([item] ++ [{ item with retry := item.retry - 1 }]) := by
    rw [hbatch]
    rfl
  have hmem : { item with retry := item.retry - 1 } ∈
      [item] ++ [{ item with retry := item.retry - 1 }] :=
    List.mem_append_right _ List.mem_cons_self
  refine ⟨hkeys, hstarts, ⟨_, hreturned, _, hmem, hrefused⟩, hslept, ?_, by decide +kernel,
    by decide +kernel⟩
  intro handler hhandler
  refine processPending_rollback relayedOrder handler hkeys hstarts rfl fun results hended => ?_
  rcases List.mem_cons.mp hhandler with rfl | hhandler
  · rw [hreturned] at hended
    cases hended
    exact ⟨_, hmem, hrefused⟩
  · rw [List.mem_singleton.mp hhandler, hslept] at hended
    cases hended

end Work

end ChainRelay
