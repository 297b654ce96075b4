import ChainRelay.Proofs.Queue.Overlap
import ChainRelay.Proofs.Queue.Selection
import Mathlib.Data.List.Induction

/-!
# How long rows rest

A row that was written is left in peace for a while: for one delay if it was never tried, for
another one if it was. So a row whose attempt has failed is not tried again at once, however often
the queue is worked off in the meantime.

## The contract

Every write stamps its row with the time at which it is made, whether it comes from an upsert or
from the end of a call. An item that is taken in must not bring a stamp of its own. A call compares
the stamp with its own time; for earlier writes of the row this says something only if the clock has
not gone back since.

## Main definitions

* `Operation.time?`, `Queue.writeTimes` — when operations happen, and when a history writes a row
* `Queue.Raises` — the end of a call by which the retries of a row are raised
* `Rested` — what holds of an item when it is handed out

## Main results

* `Queue.updatedAt_step`, `Queue.updatedAt_run` — the stamp of a row is the time of its last write
* `Queue.run_rested` — every item that is handed out has rested
-/

namespace ChainRelay

/-- When an operation happens, by the clock of whoever carries it out. -/
def Operation.time? : Operation → Option Instant
  | .upsert now _ => some now
  | .start now _ => some now
  | .finish _ (.returned _ now) => some now
  | .finish _ .raised => none

/-- An operation that takes in no stamp from outside. -/
def Operation.Unstamped (op : Operation) : Prop :=
  ∀ now item, op = .upsert now item → item.updatedAt = none

namespace Queue

variable {q : Queue} {key : RowKey} {row : Row} {op : Operation} {ops : List Operation}
  {time : Instant}

/-- The times at which a history writes a row, in their order. -/
def writeTimes (q : Queue) (key : RowKey) : List Operation → List Instant
  | [] => []
  | op :: rest =>
    (if key ∈ q.writes op then op.time?.toList else []) ++ (q.step op).writeTimes key rest

theorem writeTimes_append (ops ops' : List Operation) : q.writeTimes key (ops ++ ops') =
    q.writeTimes key ops ++ (q.run ops).writeTimes key ops' := by
  induction ops generalizing q with
  | nil => rfl
  | cons op rest ih =>
    rw [List.cons_append, writeTimes, writeTimes, ih, List.append_assoc]
    rfl

theorem writeTimes_singleton (h : key ∈ q.writes op) : q.writeTimes key [op] = op.time?.toList := by
  rw [writeTimes, if_pos h, writeTimes, List.append_nil]

theorem writeTimes_singleton_of_not_mem (h : key ∉ q.writes op) : q.writeTimes key [op] = [] := by
  rw [writeTimes, if_neg h, writeTimes, List.append_nil]

/-- They are times of the history. -/
theorem writeTimes_sublist (q : Queue) (key : RowKey) (ops : List Operation) :
    (q.writeTimes key ops).Sublist (ops.filterMap Operation.time?) := by
  induction ops generalizing q with
  | nil => exact List.Sublist.refl _
  | cons op rest ih =>
    have hfirst : (if key ∈ q.writes op then op.time?.toList else []).Sublist op.time?.toList := by
      split
      · exact List.Sublist.refl _
      · exact List.nil_sublist _
    have hcons : (op :: rest).filterMap Operation.time? =
        op.time?.toList ++ rest.filterMap Operation.time? := by
      rw [List.filterMap_cons]
      cases op.time? <;> rfl
    rw [writeTimes, hcons]
    exact hfirst.append (ih _)

/-! ### The stamp of a row -/

/-- A new item becomes a row as it is. One that brings no stamp is stamped when it is taken in. -/
theorem row?_upsert_new (now : Instant) {item : WorkItem}
    (hnew : q.store.row? item.rowKey = none) :
    (q.step (.upsert now item)).store.row? item.rowKey = some ⟨{ item with
      createdAt := some (item.createdAt.getD now)
      updatedAt := some (item.updatedAt.getD now) }, q.store.next⟩ := by
  obtain ⟨created, hcreated⟩ : ∃ created : WorkItem, created = { item with
      createdAt := some (item.createdAt.getD now)
      updatedAt := some (item.updatedAt.getD now) } := ⟨_, rfl⟩
  have hstore : (q.step (.upsert now item)).store.rows =
      q.store.rows ++ [⟨created, q.store.next⟩] := by
    rw [step, Store.upsert, hnew, hcreated]
  have hkey : created.rowKey = item.rowKey := by rw [hcreated]; rfl
  rw [← hcreated]
  rw [Store.row?] at hnew ⊢
  rw [hstore, List.find?_append, hnew, Option.none_or, List.find?_cons_of_pos (by simpa using hkey)]

/-- **Every write is stamped** with the time at which it is made. -/
theorem updatedAt_step (h : q.Sound) (hop : op.Unstamped) (hwritten : key ∈ q.writes op) :
    ∃ row now, op.time? = some now ∧ (q.step op).store.row? key = some row ∧
      row.item.updatedAt = some now := by
  cases op with
  | upsert now item =>
    rw [writes] at hwritten
    by_cases hwrites : q.store.writes item = true
    · rw [if_pos hwrites, List.mem_singleton] at hwritten
      subst hwritten
      cases hrow : q.store.row? item.rowKey with
      | none =>
        refine ⟨_, now, rfl, row?_upsert_new now hrow, ?_⟩
        dsimp only
        rw [hop now item rfl, Option.getD_none]
      | some row =>
        have hopen : row.item.status.isTerminal = false := by
          rw [Store.writes, hrow] at hwrites
          simpa using hwrites
        exact ⟨_, now, rfl, row?_upsert now hrow hopen, rfl⟩
    · rw [if_neg hwrites] at hwritten
      cases hwritten
  | start now order => cases hwritten
  | finish n ending =>
    cases hcall : q.call? n with
    | none =>
      rw [writes, hcall] at hwritten
      cases hwritten
    | some call =>
      have hkey := h.mem_keys_of_writes hcall hwritten
      have hending := (mem_writes_finish_iff hcall).mp hwritten
      cases ending with
      | raised => cases hending
      | returned results now =>
        obtain ⟨held, hheld, rfl⟩ := List.mem_map.mp hkey
        obtain ⟨-, -, r, hr, hsame, -⟩ := h.current call (mem_calls_of_call? hcall) held hheld
        have hrow := Store.row?_of_mem h.keys hr
        rw [hsame] at hrow
        obtain ⟨out, -, -, hrow'⟩ := row?_finish_of_writes hcall hending hrow
        exact ⟨_, now, rfl, hrow', rfl⟩

/-- **The stamp of a row** is the time of its last write. -/
theorem updatedAt_run (hops : ∀ op ∈ ops, op.Unstamped)
    (hrow : (run {} ops).store.row? key = some row) :
    ∃ time, (writeTimes {} key ops).getLast? = some time ∧ row.item.updatedAt = some time := by
  induction ops using List.reverseRecOn generalizing row with
  | nil => cases hrow
  | append_singleton ops op ih =>
    rw [run_append] at hrow
    rw [writeTimes_append]
    by_cases hwritten : key ∈ (run {} ops).writes op
    · obtain ⟨row', now, htime, hrow', hstamp⟩ := updatedAt_step (run_sound sound_empty ops)
        (hops op (List.mem_append_right _ List.mem_cons_self)) hwritten
      have hsame : some row' = some row := hrow'.symm.trans hrow
      cases hsame
      refine ⟨now, ?_, hstamp⟩
      rw [writeTimes_singleton hwritten, htime]
      exact List.getLast?_concat
    · obtain ⟨time, hlast, hstamp⟩ := ih (fun op hop => hops op (List.mem_append_left _ hop))
        ((row?_step hwritten).symm.trans hrow)
      refine ⟨time, ?_, hstamp⟩
      rw [writeTimes_singleton_of_not_mem hwritten, List.append_nil]
      exact hlast

/-- Retries only become more. -/
theorem Sound.retry_le_of_run (h : q.Sound) {row' : Row} (hrow : q.store.row? key = some row)
    (hrow' : (q.run ops).store.row? key = some row') : row.item.retry ≤ row'.item.retry := by
  obtain ⟨r, hr, hbecomes⟩ := (run_grows h ops).exists_becomes (Store.mem_of_row? hrow)
  have hfound := Store.row?_of_mem (run_sound h ops).keys hr
  rw [hbecomes.rowKey, Store.rowKey_of_row? hrow, hrow'] at hfound
  cases hfound
  exact hbecomes.retry

/-! ### Attempts that have failed -/

/-- A call ends, and with it the retries of a row are raised: they were fewer when it was claimed,
and by now it counts as tried. -/
def Raises (q : Queue) (op : Operation) (key : RowKey) (time : Instant) : Prop :=
  ∃ n results call, op = .finish n (.returned results time) ∧ q.call? n = some call ∧
    ∃ held ∈ call.claimed, held.rowKey = key ∧ ∃ row, (q.step op).store.row? key = some row ∧
      held.retry < row.item.retry ∧ 0 < row.item.retry

/-- It has written the row. -/
theorem Staged.mem_writes_of_raises (h : q.Staged) (hraises : q.Raises op key time) :
    key ∈ q.writes op := by
  obtain ⟨n, results, call, -, hcall, held, hheld, rfl, row, hrow, hlt, -⟩ := hraises
  by_contra hunwritten
  -- what was not written has as many retries as when it was claimed
  obtain ⟨row', hrow', hstage⟩ := h.stages call (mem_calls_of_call? hcall) held hheld
  rw [row?_step hunwritten, hrow'] at hrow
  cases hrow
  have hretry : row.item.retry = held.retry := congrArg Stage.retry hstage
  omega

end Queue

/-- The rest of an item that was tried. -/
theorem Backoff.delay_of_pos {b : Backoff} {retry : Int} (h : 0 < retry) :
    b.delay retry = b.between.micros := by
  rw [delay, quietTime, if_neg (by omega)]

/-! ### What is handed out -/

/-- What holds of an item when it is handed out, after a history, to a call that starts now. -/
structure Rested (ops : List Operation) (now : Instant) (order : Work.BatchOrder)
    (item : WorkItem) : Prop where
  /-- It has rested since its row was last written, -/
  last : ∃ time, (Queue.writeTimes {} item.rowKey ops).getLast? = some time ∧
    item.updatedAt = some time ∧ time + order.backoff.delay item.retry ≤ now
  /-- and since every earlier write. -/
  written : ∀ time ∈ Queue.writeTimes {} item.rowKey ops,
    time + order.backoff.delay item.retry ≤ now
  /-- After an attempt by which its retries were raised it has rested as long as items do that were
  tried. -/
  retried : ∀ earlier op later time, ops = earlier ++ op :: later →
    (Queue.run {} earlier).Raises op item.rowKey time →
      time + order.backoff.between.micros ≤ now

namespace Queue

/-- The last of several times that do not decrease is the greatest. -/
theorem le_of_getLast?_eq {times : List Instant} {last time : Instant}
    (hordered : times.Pairwise (· ≤ ·)) (hlast : times.getLast? = some last)
    (htime : time ∈ times) : time ≤ last := by
  obtain ⟨front, rfl⟩ := List.getLast?_eq_some_iff.mp hlast
  rcases List.mem_append.mp htime with hfront | hmem
  · exact (List.pairwise_append.mp hordered).2.2 time hfront last List.mem_cons_self
  · exact (List.mem_singleton.mp hmem).le

/-- **No hot retries.** Whatever has happened on the queue, in whatever order calls have started
and ended: an item that is handed out has rested, if no stamp was taken in from outside and the
clock has not gone back. -/
theorem run_rested (ops : List Operation) (now : Instant) (order : Work.BatchOrder)
    (hops : ∀ op ∈ ops, op.Unstamped)
    (hclock : ((ops ++ [Operation.start now order]).filterMap Operation.time?).Pairwise (· ≤ ·))
    {call : Call} {item : WorkItem}
    (hstart : ((run {} ops).step (.start now order)).call? (run {} ops).calls.length = some call)
    (hitem : item ∈ call.claimed) : Rested ops now order item := by
  have hsound : (run {} ops).Sound := run_sound sound_empty ops
  obtain ⟨row, hrow, hrowitem, -⟩ := hsound.row?_of_start hstart hitem
  obtain ⟨last, hlast, hstamp⟩ := updatedAt_run hops hrow
  rw [hrowitem] at hstamp
  -- the call compares the stamp with its own time
  have hrested : last + order.backoff.delay item.retry ≤ now := by
    rw [(call?_start_iff.mp hstart).2] at hitem
    obtain ⟨r, -, rfl, hready⟩ := Store.ready_of_mem_claim hitem
    have hle := hready.rested
    rw [hstamp, Option.getD_some] at hle
    exact Int.add_le_of_le_sub_right hle
  have hordered : (writeTimes {} item.rowKey ops).Pairwise (· ≤ ·) := by
    rw [List.filterMap_append] at hclock
    exact (List.pairwise_append.mp hclock).1.sublist (writeTimes_sublist {} item.rowKey ops)
  have hwritten : ∀ time ∈ writeTimes {} item.rowKey ops,
      time + order.backoff.delay item.retry ≤ now := fun time htime =>
    (Int.add_le_add_right (le_of_getLast?_eq hordered hlast htime) _).trans hrested
  refine ⟨⟨last, hlast, hstamp, hrested⟩, hwritten, ?_⟩
  rintro earlier op later time rfl hraises
  have hearlier : (run {} earlier).Staged := run_staged staged_empty earlier
  have hwrites := hearlier.mem_writes_of_raises hraises
  obtain ⟨n, results, raising, rfl, -, held, -, -, raised, hraised, -, htried⟩ := hraises
  -- the retries are those of the attempt or more
  have hpositive : 0 < item.retry := by
    rw [run_append, run_cons] at hrow
    have hle := (step_sound hearlier.sound _).retry_le_of_run hraised hrow
    rw [hrowitem] at hle
    exact htried.trans_le hle
  rw [← Backoff.delay_of_pos hpositive]
  refine hwritten time ?_
  rw [writeTimes_append, writeTimes, if_pos hwrites]
  exact List.mem_append_right _ (List.mem_append_left _ List.mem_cons_self)

/-! ### A transaction whose events were refused once -/

/-- How it waits, with so many retries, since it was written last. -/
def refusedItem (retry : Int) (time : Instant) : WorkItem :=
  { relayedAs "0x00" with retry := retry, createdAt := some 0, updatedAt := some time }

/-- It is taken in, and a call starts. -/
def beforeRefusal : List Operation := [.upsert 0 (relayedAs "0x00"), .start 1 relayedOrder]

/-- It is worked off, and its retries are raised. -/
def refusal : Operation := .finish 0 (.returned [{ relayedAs "0x00" with retry := 1 }] 2)

theorem run_beforeRefusal : run {} beforeRefusal =
    ⟨{ rows := [⟨refusedItem 0 0, 0⟩], locked := [(.crossChainTransaction, "0x00")], next := 1 },
      [some ⟨.crossChainTransaction, [refusedItem 0 0]⟩]⟩ := by
  have hclaim : ((run {} [.upsert 0 (relayedAs "0x00")]).store.claim relayedOrder.family
      relayedOrder.size relayedOrder.backoff 1).1 = [refusedItem 0 0] :=
    Store.claim_of_ordered (by decide +kernel) (by decide +kernel)
  have hsplit : run {} beforeRefusal =
      (run {} [.upsert 0 (relayedAs "0x00")]).step (.start 1 relayedOrder) := rfl
  rw [hsplit, step_start rfl hclaim]
  rfl

theorem run_refusal : run {} (beforeRefusal ++ [refusal]) =
    ⟨{ rows := [⟨refusedItem 1 2, 0⟩], commits := [(.crossChainTransaction, ["0x00"])],
       next := 1 }, [none]⟩ := by
  rw [run_append, run_beforeRefusal]
  rfl

/-- It is handed out again when it has rested for five seconds. -/
theorem run_rested_refused :
    (∀ op ∈ beforeRefusal ++ [refusal], op.Unstamped) ∧
    ((beforeRefusal ++ [refusal] ++ [Operation.start 5000002 relayedOrder]).filterMap
      Operation.time?).Pairwise (· ≤ ·) ∧
    ((run {} (beforeRefusal ++ [refusal])).step (.start 5000002 relayedOrder)).call?
      (run {} (beforeRefusal ++ [refusal])).calls.length =
        some ⟨.crossChainTransaction, [refusedItem 1 2]⟩ ∧
    (run {} beforeRefusal).Raises refusal (refusedItem 1 2).rowKey 2 ∧
    Rested (beforeRefusal ++ [refusal]) 5000002 relayedOrder (refusedItem 1 2) := by
  have hops : ∀ op ∈ beforeRefusal ++ [refusal], op.Unstamped := by
    rintro op hop now new rfl
    have hnew : now = 0 ∧ new = relayedAs "0x00" := by simpa [beforeRefusal, refusal] using hop
    rw [hnew.2]
    rfl
  have hclock : ((beforeRefusal ++ [refusal] ++ [Operation.start 5000002 relayedOrder]).filterMap
      Operation.time?).Pairwise (· ≤ ·) := by decide
  have hstart : ((run {} (beforeRefusal ++ [refusal])).step (.start 5000002 relayedOrder)).call?
      (run {} (beforeRefusal ++ [refusal])).calls.length =
        some ⟨.crossChainTransaction, [refusedItem 1 2]⟩ := by
    rw [run_refusal, call?_start_iff,
      Store.claim_of_ordered (by decide +kernel) (by decide +kernel)]
    exact ⟨rfl, rfl⟩
  have hraises : (run {} beforeRefusal).Raises refusal (refusedItem 1 2).rowKey 2 := by
    rw [run_beforeRefusal]
    exact ⟨0, _, _, rfl, rfl, refusedItem 0 0, List.mem_cons_self, rfl, _, rfl, Int.one_pos,
      Int.one_pos⟩
  exact ⟨hops, hclock, hstart, hraises, run_rested (beforeRefusal ++ [refusal]) 5000002
    relayedOrder hops hclock hstart List.mem_cons_self⟩

end Queue

end ChainRelay
