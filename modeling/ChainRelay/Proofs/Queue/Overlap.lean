import ChainRelay.Proofs.Queue.Stages

/-!
# Upserts of rows that are held

A call works on items as it has claimed them. An upsert does not ask who holds its row: while a call
is in progress, the payloads of its rows are renewed like those of any other pending row.

## The contract

While a call holds a row, nothing but an upsert writes it. What upserts have written stays if the
call does not return the item. If it does, the row is as if no upsert had come in since the call
started: all columns are written back, and with an item that the handler has not changed that is the
payload as it was claimed. An upsert that comes before the call or after it is not lost in this way.

## Main definitions

* `WorkItem.overwritten` — what an operation makes of an item whose row is held
* `Ending.Writes` — whether the end of a call writes a row
* `Overlap` — what becomes of an item while a call holds it, and when the call ends

## Main results

* `Queue.Sound.run_held` — histories in which a call goes on
* `Queue.run_overlap` — every call, every item of it, and whatever happens meanwhile
-/

namespace ChainRelay

/-! ### Items whose rows are held -/

namespace WorkItem

/-- What an operation makes of an item whose row a call holds that goes on. -/
def overwritten (item : WorkItem) : Operation → WorkItem
  | .upsert now new =>
    if new.rowKey = item.rowKey then { item with payload := new.payload, updatedAt := some now }
    else item
  | .start _ _ => item
  | .finish _ _ => item

theorem overwritten_of_ne {item : WorkItem} {op : Operation}
    (h : ∀ now new, op = .upsert now new → new.rowKey ≠ item.rowKey) :
    item.overwritten op = item := by
  cases op with
  | upsert now new => rw [overwritten, if_neg (h now new rfl)]
  | start now order => rfl
  | finish n ending => rfl

/-- Only the payload and the time of the last change are overwritten. -/
theorem overwritten_eq (item : WorkItem) (op : Operation) :
    ∃ payload updatedAt, item.overwritten op = { item with payload, updatedAt } := by
  cases op with
  | upsert now new =>
    rw [overwritten]
    split
    · exact ⟨_, _, rfl⟩
    · exact ⟨item.payload, item.updatedAt, rfl⟩
  | start now order => exact ⟨item.payload, item.updatedAt, rfl⟩
  | finish n ending => exact ⟨item.payload, item.updatedAt, rfl⟩

theorem foldl_overwritten_eq (item : WorkItem) (ops : List Operation) :
    ∃ payload updatedAt, ops.foldl overwritten item = { item with payload, updatedAt } := by
  induction ops generalizing item with
  | nil => exact ⟨item.payload, item.updatedAt, rfl⟩
  | cons op rest ih =>
    obtain ⟨payload, updatedAt, hop⟩ := item.overwritten_eq op
    rw [List.foldl_cons, hop]
    exact ih _

/-- Without an upsert of its row an item stays as it is. -/
theorem foldl_overwritten_of_ne {item : WorkItem} {ops : List Operation}
    (h : ∀ now new, .upsert now new ∈ ops → new.rowKey ≠ item.rowKey) :
    ops.foldl overwritten item = item := by
  induction ops with
  | nil => rfl
  | cons op rest ih =>
    have hfirst : item.overwritten op = item :=
      overwritten_of_ne fun now new heq => h now new (heq ▸ List.mem_cons_self)
    rw [List.foldl_cons, hfirst]
    exact ih fun now new hmem => h now new (List.mem_cons_of_mem _ hmem)

/-- The last upsert of its row decides on the payload of an item. -/
theorem payload_foldl_overwritten {item new : WorkItem} {now : Instant}
    {earlier later : List Operation} (hkey : new.rowKey = item.rowKey)
    (hlast : ∀ now other, .upsert now other ∈ later → other.rowKey ≠ item.rowKey) :
    ((earlier ++ .upsert now new :: later).foldl overwritten item).payload =
      new.payload := by
  obtain ⟨payload, updatedAt, hearlier⟩ := item.foldl_overwritten_eq earlier
  have hwritten : overwritten { item with payload, updatedAt } (.upsert now new) =
      { item with payload := new.payload, updatedAt := some now } := if_pos hkey
  have hrest : ∀ time other, .upsert time other ∈ later → other.rowKey ≠
      rowKey { item with payload := new.payload, updatedAt := some now } := hlast
  rw [List.foldl_append, List.foldl_cons, hearlier, hwritten, foldl_overwritten_of_ne hrest]

end WorkItem

/-! ### While a call goes on -/

namespace Queue

variable {q : Queue} {n : Nat} {call : Call} {key : RowKey} {row : Row}

/-- A row that a call holds is pending. -/
theorem Sound.pending_of_held (h : q.Sound) (hcall : q.call? n = some call) (hkey : key ∈ call.keys)
    (hrow : q.store.row? key = some row) : row.item.status = .pending := by
  obtain ⟨held, hheld, rfl⟩ := List.mem_map.mp hkey
  obtain ⟨-, -, r, hr, hsame, hpending, -⟩ :=
    h.current call (mem_calls_of_call? hcall) held hheld
  have hfound := Store.row?_of_mem h.keys hr
  rw [hsame, hrow] at hfound
  cases hfound
  exact hpending

/-- A call goes on until it is ended. -/
theorem call?_step {op : Operation} (hcall : q.call? n = some call)
    (hop : ∀ ending, op ≠ .finish n ending) : (q.step op).call? n = some call := by
  have hplace := call?_eq_some_iff.mp hcall
  have happended (started : Option Call) : (q.calls ++ [started])[n]? = some (some call) := by
    rw [List.getElem?_append_left (List.getElem?_eq_some_iff.mp hplace).1]
    exact hplace
  cases op with
  | upsert now item => exact hcall
  | start now order =>
    rw [step]
    cases q.store.checkRests order.family order.backoff now with
    | error fault => exact call?_eq_some_iff.mpr (happended none)
    | ok _ => exact call?_eq_some_iff.mpr (happended _)
  | finish m ending =>
    have hother : m ≠ n := fun heq => hop ending (by rw [heq])
    rw [step]
    cases q.call? m with
    | none => exact hcall
    | some ended =>
      rw [call?_eq_some_iff]
      exact (List.getElem?_set_ne hother).trans hplace

/-- The end of another call does not write what a call holds. -/
theorem Sound.not_mem_writes_of_held (h : q.Sound) (hcall : q.call? n = some call)
    (hkey : key ∈ call.keys) {m : Nat} (hother : m ≠ n) (ending : Ending) :
    key ∉ q.writes (.finish m ending) := by
  cases hended : q.call? m with
  | none =>
    rw [writes, hended]
    exact List.not_mem_nil
  | some ended =>
    have hmem : some call ∈ q.calls.set m none := by
      refine List.mem_of_getElem? (i := n) ?_
      rw [List.getElem?_set_ne hother]
      exact call?_eq_some_iff.mp hcall
    exact fun hwritten =>
      (h.not_mem_keys hended hmem hkey).2 (h.mem_keys_of_writes hended hwritten)

/-- **One operation** while a call goes on: only an upsert writes a row that the call holds. -/
theorem Sound.step_held (h : q.Sound) {op : Operation} (hcall : q.call? n = some call)
    (hkey : key ∈ call.keys) (hrow : q.store.row? key = some row)
    (hop : ∀ ending, op ≠ .finish n ending) :
    (q.step op).store.row? key = some { row with item := row.item.overwritten op } := by
  have hrowkey := Store.rowKey_of_row? hrow
  have hunwritten (hkept : key ∉ q.writes op) (hsame : row.item.overwritten op = row.item) :
      (q.step op).store.row? key = some { row with item := row.item.overwritten op } := by
    rw [row?_step hkept, hrow, hsame]
  cases op with
  | upsert now new =>
    by_cases hnamed : new.rowKey = key
    · subst hnamed
      have hopen : row.item.status.isTerminal = false := by
        rw [h.pending_of_held hcall hkey hrow]
        rfl
      rw [row?_upsert now hrow hopen, WorkItem.overwritten, if_pos hrowkey.symm]
    · refine hunwritten ?_ ?_
      · rw [writes]
        split
        · simpa using Ne.symm hnamed
        · exact List.not_mem_nil
      · rw [WorkItem.overwritten, if_neg (hrowkey ▸ hnamed)]
  | start now order => exact hunwritten List.not_mem_nil rfl
  | finish m ending =>
    have hother : m ≠ n := fun heq => hop ending (by rw [heq])
    exact hunwritten (h.not_mem_writes_of_held hcall hkey hother ending) rfl

/-- **While a call goes on** its rows are what upserts make of them. -/
theorem Sound.run_held (h : q.Sound) {during : List Operation} (hcall : q.call? n = some call)
    (hkey : key ∈ call.keys) (hrow : q.store.row? key = some row)
    (hgoing : ∀ ending, .finish n ending ∉ during) :
    (q.run during).call? n = some call ∧
      (q.run during).store.row? key =
        some { row with item := during.foldl WorkItem.overwritten row.item } := by
  induction during generalizing q row with
  | nil => exact ⟨hcall, hrow⟩
  | cons op rest ih =>
    have hop : ∀ ending, op ≠ .finish n ending :=
      fun ending heq => hgoing ending (heq ▸ List.mem_cons_self)
    exact ih (step_sound h op) (call?_step hcall hop) (h.step_held hcall hkey hrow hop)
      fun ending hmem => hgoing ending (List.mem_cons_of_mem _ hmem)

end Queue

/-! ### When the call ends -/

/-- Whether the end of a call writes a row: the results are sound, and one of them names it. -/
def Ending.Writes (call : Call) (key : RowKey) : Ending → Prop
  | .raised => False
  | .returned results _ => Store.checkResults call.family call.claimed results = .ok () ∧
      ∃ out ∈ results, out.rowKey = key

namespace Queue

variable {q : Queue} {n : Nat} {call : Call} {key : RowKey} {row : Row}

theorem mem_writes_finish_iff {ending : Ending} (hcall : q.call? n = some call) :
    key ∈ q.writes (.finish n ending) ↔ ending.Writes call key := by
  rw [writes, hcall]
  cases ending with
  | raised => exact iff_of_false List.not_mem_nil id
  | returned results now =>
    change key ∈ q.store.settledKeys call (.returned results now) ↔ _
    cases hsound : Store.checkResults call.family call.claimed results with
    | error fault =>
      have hcommit : q.store.settledKeys call (.returned results now) = [] := by
        simp only [Store.settledKeys, Store.commit, hsound]
      rw [hcommit]
      refine iff_of_false List.not_mem_nil fun hwritten => ?_
      rw [Ending.Writes, hsound] at hwritten
      cases hwritten.1
    | ok _ =>
      have hcommit : q.store.settledKeys call (.returned results now) =
          results.map WorkItem.rowKey := by
        simp only [Store.settledKeys, Store.commit, hsound]
        exact List.map_congr_left fun out hout => (Store.rowKey_of_checkResults hsound hout).symm
      rw [hcommit, List.mem_map, Ending.Writes]
      exact (and_iff_right hsound).symm

/-- A row that the end of a call writes takes over one of the results that name it. -/
theorem row?_finish_of_writes {results : List WorkItem} {now : Instant}
    (hcall : q.call? n = some call) (hending : (Ending.returned results now).Writes call key)
    (hrow : q.store.row? key = some row) : ∃ out ∈ results, out.rowKey = key ∧
      (q.step (.finish n (.returned results now))).store.row? key =
        some { row with item := { row.item with
          status := out.status
          retry := out.retry
          txHash := out.txHash
          payload := out.payload
          updatedAt := some now } } := by
  obtain ⟨hsound, out, hout, rfl⟩ := hending
  have hrowkey := Store.rowKey_of_row? hrow
  obtain ⟨last, hlast, hnamed, hwritten⟩ := Row.exists_afterResults_eq
    ⟨out, hout, hrowkey.trans (Store.rowKey_of_checkResults hsound hout)⟩
  refine ⟨last, hlast,
    (Store.rowKey_of_checkResults hsound hlast).trans (hnamed.symm.trans hrowkey), ?_⟩
  rw [row?_finish now hcall hsound, hrow, Option.map_some, hwritten, Row.afterResult,
    if_pos (by simpa using hnamed)]

/-- What it takes over does not depend on what has been written over it since the call started. -/
theorem row?_finish_congr {q' : Queue} {ending : Ending} (hcall : q.call? n = some call)
    (hcall' : q'.call? n = some call) (hending : ending.Writes call key)
    (hrow : q.store.row? key = some row) {payload : Payload} {updatedAt : Option Instant}
    (hrow' : q'.store.row? key =
      some { row with item := { row.item with payload, updatedAt } }) :
    (q'.step (.finish n ending)).store.row? key = (q.step (.finish n ending)).store.row? key := by
  cases ending with
  | raised => cases hending
  | returned results now =>
    obtain ⟨hsound, out, hout, rfl⟩ := hending
    have hnamed : row.item.rowKey = (call.family, out.key) :=
      (Store.rowKey_of_row? hrow).trans (Store.rowKey_of_checkResults hsound hout)
    rw [row?_finish now hcall hsound, row?_finish now hcall' hsound, hrow, hrow',
      Option.map_some, Option.map_some]
    exact congrArg some (Row.afterResults_congr ⟨out, hout, hnamed⟩ rfl rfl rfl)

end Queue

/-! ### Calls with upserts in between -/

/-- What becomes of an item that a call claims. The call starts on the queue `before`, and is the
`n`-th one that does; it is just about to work in `started`, and about to end in `running`, with the
operations `during` in between. -/
structure Overlap (before started running : Queue) (n : Nat) (call : Call) (item : WorkItem)
    (during : List Operation) : Prop where
  going : running.call? n = some call
  /-- The row is the claimed item with what upserts have written over it. -/
  stored : ∃ row, started.store.row? item.rowKey = some row ∧ row.item = item ∧
    running.store.row? item.rowKey =
      some { row with item := during.foldl WorkItem.overwritten item }
  /-- So it has the payload of the last of them. -/
  renewed : ∀ earlier time new later, during = earlier ++ .upsert time new :: later →
    new.rowKey = item.rowKey →
    (∀ time other, .upsert time other ∈ later → other.rowKey ≠ item.rowKey) →
      (during.foldl WorkItem.overwritten item).payload = new.payload
  /-- Nothing of it is lost if the call does not return the item, or ends without results, or with
  results that are refused. -/
  kept : ∀ ending : Ending, ¬ ending.Writes call item.rowKey →
    (running.step (.finish n ending)).store.row? item.rowKey = running.store.row? item.rowKey
  /-- All of it is lost if the call returns the item: the row is as if the call had ended right
  after its start. -/
  lost : ∀ ending : Ending, ending.Writes call item.rowKey →
    (running.step (.finish n ending)).store.row? item.rowKey =
      (started.step (.finish n ending)).store.row? item.rowKey
  /-- If it is returned with the payload that was claimed, the row has that payload again. -/
  restored : ∀ (results : List WorkItem) (later : Instant),
    (Ending.returned results later).Writes call item.rowKey →
    (∀ out ∈ results, out.rowKey = item.rowKey → out.payload = item.payload) →
      ∃ row, (running.step (.finish n (.returned results later))).store.row? item.rowKey =
        some row ∧ row.item.payload = item.payload
  /-- An upsert that comes before the call is not lost: whoever claims the item then has its
  payload. -/
  ahead : ∀ time new, new.rowKey = item.rowKey →
    ∀ (family : Family) (size : Int) (backoff : Backoff) (later : Instant),
      ∀ held ∈ ((before.step (.upsert time new)).store.claim family size backoff later).1,
        held.rowKey = item.rowKey → held.payload = new.payload
  /-- Nor is one that comes after the call, if the row is pending. -/
  behind : ∀ (ending : Ending) (time : Instant) (new : WorkItem) (row : Row),
    new.rowKey = item.rowKey →
    (running.step (.finish n ending)).store.row? item.rowKey = some row →
    row.item.status = .pending →
      ((running.step (.finish n ending)).step (.upsert time new)).store.row? item.rowKey =
        some { row with
          item := { row.item with payload := new.payload, updatedAt := some time } }

namespace Queue

variable {q : Queue} {now : Instant} {order : Work.BatchOrder} {call : Call} {item : WorkItem}

/-- A call is in progress when it has started, if the rests of all rows could be told. -/
theorem call?_start_iff : (q.step (.start now order)).call? q.calls.length = some call ↔
    q.store.checkRests order.family order.backoff now = .ok () ∧
      call = ⟨order.family, (q.store.claim order.family order.size order.backoff now).1⟩ := by
  rw [call?_eq_some_iff, step]
  cases q.store.checkRests order.family order.backoff now with
  | error fault => simp
  | ok _ =>
    simp only [List.getElem?_concat_length, Option.some.injEq, true_and]
    exact eq_comm

/-- The row of a claimed item, before the call starts. -/
theorem Sound.row?_of_start (h : q.Sound)
    (hstart : (q.step (.start now order)).call? q.calls.length = some call)
    (hitem : item ∈ call.claimed) :
    ∃ row, q.store.row? item.rowKey = some row ∧ row.item = item ∧ item.status = .pending := by
  rw [(call?_start_iff.mp hstart).2] at hitem
  obtain ⟨-, hpending, -, row, hrow, rfl⟩ := Store.of_mem_claim hitem
  exact ⟨row, Store.row?_of_mem h.keys hrow, rfl, hpending⟩

/-- An upsert of a pending row is known to whoever claims the row next. -/
theorem Sound.payload_of_claim (h : q.Sound) {row : Row} {time later : Instant}
    {new held : WorkItem} {family : Family} {size : Int} {backoff : Backoff}
    (hrow : q.store.row? new.rowKey = some row)
    (hpending : row.item.status = .pending)
    (hheld : held ∈ ((q.step (.upsert time new)).store.claim family size backoff later).1)
    (hsame : held.rowKey = new.rowKey) : held.payload = new.payload := by
  obtain ⟨-, -, -, row', hrow', rfl⟩ := Store.of_mem_claim hheld
  have hfound := Store.row?_of_mem (step_sound h (.upsert time new)).keys hrow'
  rw [hsame, row?_upsert time hrow (by rw [hpending]; rfl)] at hfound
  cases hfound
  rfl

/-- **Upserts while a call is in progress.** Whatever has happened on the queue before a call starts
and whatever happens until it ends, upserts of its rows go through. They stay if the call does not
return the item; if it does, they are lost. -/
theorem run_overlap (ops : List Operation) (now : Instant) (order : Work.BatchOrder)
    {call : Call} {item : WorkItem}
    (hstart : ((run {} ops).step (.start now order)).call? (run {} ops).calls.length = some call)
    (hitem : item ∈ call.claimed) {during : List Operation}
    (hgoing : ∀ ending, .finish (run {} ops).calls.length ending ∉ during) :
    Overlap (run {} ops) ((run {} ops).step (.start now order))
      (((run {} ops).step (.start now order)).run during) (run {} ops).calls.length call item
      during := by
  have hsound : (run {} ops).Sound := run_sound sound_empty ops
  have hstarted := step_sound hsound (.start now order)
  have hkey : item.rowKey ∈ call.keys := List.mem_map_of_mem hitem
  obtain ⟨row, hrow, hrowitem, hpending⟩ := hsound.row?_of_start hstart hitem
  have hclaimed : ((run {} ops).step (.start now order)).store.row? item.rowKey = some row :=
    (row?_step List.not_mem_nil).trans hrow
  obtain ⟨hcall, hheld⟩ := hstarted.run_held hstart hkey hclaimed hgoing
  subst hrowitem
  obtain ⟨payload, updatedAt, hoverwritten⟩ := row.item.foldl_overwritten_eq during
  exact {
    going := hcall
    stored := ⟨row, hclaimed, rfl, hheld⟩
    renewed := by
      rintro earlier time new later rfl hnew hlast
      exact WorkItem.payload_foldl_overwritten hnew hlast
    kept := fun ending hending =>
      row?_step fun hmem => hending ((mem_writes_finish_iff hcall).mp hmem)
    lost := fun ending hending =>
      row?_finish_congr hstart hcall hending hclaimed (hoverwritten ▸ hheld)
    restored := by
      intro results later hending hunchanged
      obtain ⟨out, hout, hnamed, hwritten⟩ := row?_finish_of_writes hcall hending hheld
      exact ⟨_, hwritten, hunchanged out hout hnamed⟩
    ahead := fun time new hnew family size backoff later held hmem hsame =>
      hsound.payload_of_claim (hnew ▸ hrow) hpending hmem (hsame.trans hnew.symm)
    behind := by
      intro ending time new row' hnew hrow' hpending'
      rw [← hnew] at hrow' ⊢
      exact row?_upsert time hrow' (by rw [hpending']; rfl) }

end Queue

/-! ### An upsert that is lost -/

/-- A transaction whose events are to be relayed, with the hash of its receipt. -/
def relayedAs (txHash : String) : WorkItem where
  family := .crossChainTransaction
  key := "0x00"
  payload := .crossChain txHash

/-- How it is worked off. -/
def relayedOrder : Work.BatchOrder := (QueueSettings.standard .crossChainTransaction).order

/-- A handler that advances nothing. -/
def idling (claimed : List WorkItem) : Work Unit Rat (List WorkItem) := pure claimed

/-- The same while the transaction is taken in with another hash. -/
def idlingThrough (claimed : List WorkItem) : Work Unit Rat (List WorkItem) := do
  let _ ← Work.upsert (relayedAs "0x01")
  idling claimed

namespace World

/-- The hash in the row of the transaction. -/
def relayedHash (w : World Unit Rat) : Option String :=
  match w.store.get? .crossChainTransaction "0x00" with
  | some ⟨_, _, .crossChain txHash, _, _, _, _, _⟩ => some txHash
  | _ => none

/-- The transaction is taken in. -/
def takeInAs (w : World Unit Rat) (txHash : String) : World Unit Rat :=
  (Work.upsert (relayedAs txHash) w).2

/-- It is worked off. -/
def relay (w : World Unit Rat) (handler : List WorkItem → Work Unit Rat (List WorkItem)) :
    World Unit Rat :=
  (Work.processPending relayedOrder handler w).2

/-- The world in which it was taken in once. -/
def relayed : World Unit Rat := (World.initial () 0).takeInAs "0x00"

end World

namespace Work

/-- **An upsert that is lost.** It has gone through when the handler returns what it was handed, and
is gone when the call has ended. Before the call or after it, it would have stayed. -/
theorem upsert_lost :
    (idlingThrough (World.relayed.batch relayedOrder) (World.relayed.handed relayedOrder)).1 =
      .ok (World.relayed.batch relayedOrder) ∧
    (World.relayed.batch relayedOrder).map WorkItem.key = ["0x00"] ∧
    (idlingThrough (World.relayed.batch relayedOrder)
      (World.relayed.handed relayedOrder)).2.relayedHash = some "0x01" ∧
    (World.relayed.relay idlingThrough).relayedHash = some "0x00" ∧
    ((World.relayed.takeInAs "0x01").relay idling).relayedHash = some "0x01" ∧
    ((World.relayed.relay idling).takeInAs "0x01").relayedHash = some "0x01" := by
  refine ⟨rfl, ?_⟩
  decide +kernel

end Work

namespace Queue

/-- What becomes of this transaction. -/
theorem run_overlap_relayed :
    let ops : List Operation := [.upsert 0 (relayedAs "0x00")]
    let item : WorkItem := { relayedAs "0x00" with createdAt := some 0, updatedAt := some 0 }
    let during : List Operation := [.upsert 0 (relayedAs "0x01")]
    ((run {} ops).step (.start 0 relayedOrder)).call? (run {} ops).calls.length =
      some ⟨.crossChainTransaction, [item]⟩ ∧
    (∀ ending, .finish (run {} ops).calls.length ending ∉ during) ∧
    Overlap (run {} ops) ((run {} ops).step (.start 0 relayedOrder))
      (((run {} ops).step (.start 0 relayedOrder)).run during) (run {} ops).calls.length
      ⟨.crossChainTransaction, [item]⟩ item during := by
  intro ops item during
  have hstart : ((run {} ops).step (.start 0 relayedOrder)).call? (run {} ops).calls.length =
      some ⟨.crossChainTransaction, [item]⟩ := by
    rw [call?_start_iff, Store.claim_of_ordered (by decide +kernel) (by decide +kernel)]
    exact ⟨rfl, rfl⟩
  have hgoing (ending : Ending) : .finish (run {} ops).calls.length ending ∉ during := by
    simp [during]
  exact ⟨hstart, hgoing, run_overlap ops 0 relayedOrder hstart List.mem_cons_self hgoing⟩

end Queue

end ChainRelay
