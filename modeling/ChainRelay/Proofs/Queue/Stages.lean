import ChainRelay.Proofs.Queue.Calls
import ChainRelay.Proofs.Queue.History

/-!
# How far rows are

What a worker makes of a row it makes in the batches that hold the row. Between them anything else
may happen on the queue, and the task of the row may be taken in again; the row stays as far as it
was, with its status, the retries that it has paid and the handle of what is in flight for it.

## The contract

A call works on items as it has claimed them. How far they are is still what their rows say when the
call ends, so that what the call makes of an item is made of the row as it stands then. A law that
every batch keeps about an item and a count is therefore a law about the row and the sum of the
counts, along every history.

## Main definitions

* `Stage` — how far an item is
* `Queue.Staged` — calls in progress know how far their rows are
* `Queue.Tallied` — histories along which something is counted in the batches of a family
* `BatchLaw` — what every batch keeps of an item and of a count

## Main results

* `Queue.run_staged` — every history keeps `Queue.Staged`
* `Queue.Tallied.keeps` — what batches keep, histories keep
* `Queue.Tallied.of_processPending` — a call that commits belongs to such a history
-/

namespace ChainRelay

/-- How far an item is. -/
structure Stage where
  status : Status
  retry : Int
  txHash : Option String

/-- How far an item is. -/
def WorkItem.stage (item : WorkItem) : Stage := ⟨item.status, item.retry, item.txHash⟩

theorem Store.stage_renew (key : RowKey) (payload : Payload) (now : Instant) (r : Row) :
    (Store.renew key payload now r).item.stage = r.item.stage := by
  obtain ⟨payload', updatedAt, hrenew⟩ := Store.renew_eq key payload now r
  rw [hrenew]
  rfl

theorem Row.stage_afterResult {family : Family} {now : Instant} {r : Row} {item : WorkItem}
    (h : r.item.rowKey = (family, item.key)) :
    (r.afterResult family now item).item.stage = item.stage := by
  rw [Row.afterResult, if_pos (by simpa using h)]
  rfl

namespace Queue

variable {q q' : Queue} {n : Nat} {call : Call} {key : RowKey} {row : Row}

/-- What a call has claimed is a batch of its family. -/
theorem Sound.claimed (h : q.Sound) (hcall : q.call? n = some call) :
    Claimed call.claimed ∧ ∀ item ∈ call.claimed, item.family = call.family := by
  have hcurrent := h.current call (mem_calls_of_call? hcall)
  refine ⟨⟨fun item hitem => (hcurrent item hitem).2.1, ?_⟩,
    fun item hitem => (hcurrent item hitem).1⟩
  obtain ⟨before, after, hcalls, -, -⟩ := calls_eq hcall
  have hexclusive : (Queue.mk q.store (before ++ some call :: after)).held.Nodup := by
    rw [← hcalls]
    exact h.exclusive
  rw [held_insert] at hexclusive
  exact hexclusive.of_append_right.of_append_left

/-- The end of a call writes rows only that the call holds. -/
theorem Sound.mem_keys_of_writes (h : q.Sound) (hcall : q.call? n = some call) {ending : Ending}
    (hkey : key ∈ q.writes (.finish n ending)) : key ∈ call.keys := by
  rw [writes, hcall] at hkey
  obtain ⟨held, hheld, rfl⟩ := Store.exists_of_mem_settledKeys hkey
  rw [← (h.claimed hcall).2 held hheld]
  exact List.mem_map_of_mem hheld

/-! ### Between the batches of a row -/

/-- An upsert leaves every row as far as it is. -/
theorem stage_upsert (now : Instant) (item : WorkItem) (hrow : q.store.row? key = some row) :
    ∃ row', (q.step (.upsert now item)).store.row? key = some row' ∧
      row'.item.stage = row.item.stage := by
  rw [step]
  rcases q.store.upsert_cases now item with
    ⟨-, -, created, -, hstore⟩ | ⟨r, -, -, -, hstore⟩ | ⟨r, -, -, -, hstore⟩
  · refine ⟨row, ?_, rfl⟩
    rw [Store.row?] at hrow
    rw [hstore, Store.row?, List.find?_append, hrow, Option.some_or]
  · exact ⟨row, by rw [hstore]; exact hrow, rfl⟩
  · refine ⟨Store.renew item.rowKey item.payload now row, ?_, Store.stage_renew _ _ _ _⟩
    rw [hstore, Store.row?, Store.find?_map_rows (Store.renew_rowKey _ _ _)]
    exact congrArg (Option.map _) hrow

/-- An operation leaves a row as far as it is, unless it ends a call that writes the row. -/
theorem stage_step (op : Operation) (hrow : q.store.row? key = some row)
    (hop : ∀ n ending, op = .finish n ending → key ∉ q.writes op) :
    ∃ row', (q.step op).store.row? key = some row' ∧ row'.item.stage = row.item.stage := by
  cases op with
  | upsert now item => exact stage_upsert now item hrow
  | start now order => exact ⟨row, (row?_step (by simp [writes])).trans hrow, rfl⟩
  | finish n ending => exact ⟨row, (row?_step (hop n ending rfl)).trans hrow, rfl⟩

/-! ### What calls know -/

/-- Calls in progress know how far their rows are. -/
structure Staged (q : Queue) : Prop where
  sound : q.Sound
  stages : ∀ call, some call ∈ q.calls → ∀ item ∈ call.claimed,
    ∃ row, q.store.row? item.rowKey = some row ∧ row.item.stage = item.stage

theorem staged_empty : Staged {} := ⟨sound_empty, fun _ h => by cases h⟩

/-- What a call holds it still knows after an operation that does not write it. -/
theorem Staged.step_of (h : q.Staged) (op : Operation) (hcall : some call ∈ q.calls)
    (hop : ∀ n ending, op = .finish n ending → ∀ item ∈ call.claimed,
      item.rowKey ∉ q.writes op) : ∀ item ∈ call.claimed,
    ∃ row, (q.step op).store.row? item.rowKey = some row ∧ row.item.stage = item.stage := by
  intro item hitem
  obtain ⟨row, hrow, hstage⟩ := h.stages call hcall item hitem
  obtain ⟨row', hrow', hstage'⟩ :=
    stage_step op hrow fun n ending heq => hop n ending heq item hitem
  exact ⟨row', hrow', hstage'.trans hstage⟩

/-- Every operation keeps it. -/
theorem step_staged (h : q.Staged) (op : Operation) : (q.step op).Staged := by
  refine ⟨step_sound h.sound op, fun call hcall => ?_⟩
  cases op with
  | upsert now item => exact h.step_of _ hcall fun n ending heq => by cases heq
  | start now order =>
    have hold (hmem : some call ∈ q.calls) :=
      h.step_of (.start now order) hmem fun n ending heq => by cases heq
    rw [step] at hcall hold ⊢
    cases hrests : q.store.checkRests order.family order.backoff now with
    | error fault =>
      simp only [hrests, List.mem_append, List.mem_singleton, reduceCtorEq, or_false]
        at hcall hold
      exact hold hcall
    | ok _ =>
      simp only [hrests, List.mem_append, List.mem_singleton, Option.some.injEq] at hcall hold
      rcases hcall with hmem | rfl
      · exact hold hmem
      · -- what is claimed is what the rows say
        intro item hitem
        obtain ⟨-, -, -, row, hrow, rfl⟩ := Store.of_mem_claim hitem
        exact ⟨row, Store.row?_of_mem h.sound.keys hrow, rfl⟩
  | finish n ending =>
    cases hended : q.call? n with
    | none =>
      have hsame : q.step (.finish n ending) = q := by rw [step, hended]
      rw [hsame] at hcall ⊢
      exact h.stages call hcall
    | some ended =>
      have hmem : some call ∈ q.calls.set n none := by
        rw [step, hended] at hcall
        exact hcall
      have hothers {key : RowKey} (hkey : key ∈ call.keys) :=
        h.sound.not_mem_keys hended hmem hkey
      intro item hitem
      have hprogress := (hothers (List.mem_map_of_mem hitem)).1
      refine h.step_of (.finish n ending) hprogress (fun _ _ _ item hitem hwritten => ?_) item hitem
      exact (hothers (List.mem_map_of_mem hitem)).2 (h.sound.mem_keys_of_writes hended hwritten)

/-- **Every history keeps it.** -/
theorem run_staged (h : q.Staged) (ops : List Operation) : (q.run ops).Staged := by
  induction ops generalizing q with
  | nil => exact h
  | cons op rest ih => exact ih (step_staged h op)

/-! ### The end of a batch -/

/-- Sound results are written row by row, and the rows of the batch are released. -/
theorem row?_finish {results : List WorkItem} (now : Instant) (hcall : q.call? n = some call)
    (hsound : Store.checkResults call.family call.claimed results = .ok ()) :
    (q.step (.finish n (.returned results now))).store.row? key =
      (q.store.row? key).map (Row.afterResults call.family now results) := by
  have hcommit : q.store.commit call.family call.claimed results now =
      .ok { q.store.writeResults call.family now results with
        commits := (q.store.writeResults call.family now results).commits ++
          [(call.family, results.map WorkItem.key)] } := by
    rw [Store.commit, hsound]
  rw [step, hcall]
  dsimp only
  rw [Store.settle, hcommit]
  dsimp only
  rw [Store.writeResults_eq]
  exact Store.find?_map_rows (Row.afterResults_rowKey results) _ _

/-- The row of a result takes over how far the result is. -/
theorem row?_finish_of_mem {results : List WorkItem} (now : Instant)
    (hcall : q.call? n = some call)
    (hsound : Store.checkResults call.family call.claimed results = .ok ())
    (hdistinct : (results.map WorkItem.key).Nodup) {out : WorkItem} (hout : out ∈ results)
    (hrow : q.store.row? (call.family, out.key) = some row) :
    ∃ row', (q.step (.finish n (.returned results now))).store.row? (call.family, out.key) =
      some row' ∧ row'.item.stage = out.stage := by
  have hkey := Store.rowKey_of_row? hrow
  refine ⟨row.afterResult call.family now out, ?_, Row.stage_afterResult hkey⟩
  rw [row?_finish now hcall hsound, hrow, Option.map_some,
    Row.afterResults_of_mem hdistinct hout hkey]

end Queue

/-! ### Counting along a history -/

/-- What every batch of a family keeps, where `batch claimed results k` says that a batch may end
with these results and adds `k` to the count about the item `key`. -/
structure BatchLaw (family : Family) (key : String)
    (batch : List WorkItem → List WorkItem → ℕ → Prop) (law : Stage → ℕ → Prop) : Prop where
  /-- The results are sound, and no two are about the same item. -/
  sound : ∀ claimed results k, Claimed claimed → (∀ item ∈ claimed, item.family = family) →
    batch claimed results k → Store.checkResults family claimed results = .ok () ∧
      (results.map WorkItem.key).Nodup
  /-- A batch without the item does not count. -/
  away : ∀ claimed results k, Claimed claimed → (∀ item ∈ claimed, item.family = family) →
    batch claimed results k → key ∉ claimed.map WorkItem.key → k = 0
  /-- A batch with the item leaves it alone, or makes of it what the law says. -/
  held : ∀ claimed results k, Claimed claimed → (∀ item ∈ claimed, item.family = family) →
    batch claimed results k → ∀ item ∈ claimed, item.key = key → ∀ n, law item.stage n →
      (k = 0 ∧ key ∉ results.map WorkItem.key) ∨
        ∃ out ∈ results, out.key = key ∧ law out.stage (n + k)

namespace Queue

variable {family : Family} {batch : List WorkItem → List WorkItem → ℕ → Prop} {start q : Queue}
  {n : ℕ}

/-- Whether an operation ends a call of a family with results. -/
def Returns (q : Queue) (family : Family) (op : Operation) : Prop :=
  ∃ i results now call, op = .finish i (.returned results now) ∧ q.call? i = some call ∧
    call.family = family

/-- The histories from `start` on in which calls of a family end with results of `batch` only, with
the sum of its counts. Calls of other families, calls that end without results and upserts come in
between as they like. -/
inductive Tallied (family : Family) (batch : List WorkItem → List WorkItem → ℕ → Prop)
    (start : Queue) : Queue → ℕ → Prop
  | refl : Tallied family batch start start 0
  | aside {q : Queue} {n : ℕ} {op : Operation} (history : Tallied family batch start q n)
      (hop : ¬ q.Returns family op) : Tallied family batch start (q.step op) n
  | batch {q : Queue} {n k i : ℕ} {call : Call} {results : List WorkItem} (now : Instant)
      (history : Tallied family batch start q n) (hcall : q.call? i = some call)
      (hfamily : call.family = family) (hbatch : batch call.claimed results k) :
      Tallied family batch start (q.step (.finish i (.returned results now))) (n + k)

namespace Tallied

/-- Calls may start at any time. -/
theorem call_starts (history : Tallied family batch start q n) (now : Instant)
    (order : Work.BatchOrder) : Tallied family batch start (q.step (.start now order)) n :=
  history.aside (by rintro ⟨_, _, _, _, heq, -⟩; cases heq)

theorem staged (h : Tallied family batch start q n) (hstart : start.Staged) : q.Staged := by
  induction h with
  | refl => exact hstart
  | aside _ _ ih => exact step_staged ih _
  | batch _ _ _ _ _ ih => exact step_staged ih _

/-- What is not the end of a batch of the family leaves its rows as far as they are. -/
theorem stage_aside {op : Operation} {key : String} {row : Row} (hop : ¬ q.Returns family op)
    (hrow : q.store.row? (family, key) = some row) :
    ∃ row', (q.step op).store.row? (family, key) = some row' ∧
      row'.item.stage = row.item.stage := by
  refine stage_step op hrow fun i ending heq hwritten => hop ?_
  subst heq
  cases hcall : q.call? i with
  | none =>
    rw [writes, hcall] at hwritten
    cases hwritten
  | some call =>
    rw [writes, hcall] at hwritten
    obtain ⟨held, -, hkey⟩ := Store.exists_of_mem_settledKeys hwritten
    cases ending with
    | raised => cases hwritten
    | returned results now =>
      exact ⟨i, results, now, call, rfl, hcall, (congrArg Prod.fst hkey).symm⟩

/-- **What batches keep, histories keep.** -/
theorem keeps {key : String} {law : Stage → ℕ → Prop} (hlaw : BatchLaw family key batch law)
    (hstart : start.Staged) {row : Row} (hrow : start.store.row? (family, key) = some row)
    (hholds : law row.item.stage 0) (h : Tallied family batch start q n) :
    ∃ row', q.store.row? (family, key) = some row' ∧ law row'.item.stage n := by
  induction h with
  | refl => exact ⟨row, hrow, hholds⟩
  | aside _ hop ih =>
    obtain ⟨row', hrow', hholds'⟩ := ih
    obtain ⟨row'', hrow'', hstage⟩ := stage_aside hop hrow'
    exact ⟨row'', hrow'', hstage ▸ hholds'⟩
  | @batch q n k i call results now history hcall hfamily hbatch ih =>
    obtain ⟨row', hrow', hholds'⟩ := ih
    have hstaged := history.staged hstart
    obtain ⟨hclaimed, hfamilies⟩ := hstaged.sound.claimed hcall
    subst hfamily
    obtain ⟨hsound, hdistinct⟩ := hlaw.sound _ _ _ hclaimed hfamilies hbatch
    -- a row that no result names is left as it is
    have hleft (hk : k = 0) (hkey : key ∉ results.map WorkItem.key) :
        ∃ row', (q.step (.finish i (.returned results now))).store.row? (call.family, key) =
          some row' ∧ law row'.item.stage (n + k) := by
      refine ⟨row', ?_, by rw [hk]; exact hholds'⟩
      rw [row?_finish now hcall hsound, hrow', Option.map_some, Row.afterResults_of_not_mem]
      intro item hitem hsame
      rw [Store.rowKey_of_row? hrow'] at hsame
      exact hkey (List.mem_map.mpr ⟨item, hitem, (Prod.mk.inj hsame).2.symm⟩)
    by_cases hheld : key ∈ call.claimed.map WorkItem.key
    · obtain ⟨item, hitem, rfl⟩ := List.mem_map.mp hheld
      obtain ⟨held, hheldrow, hstage⟩ :=
        hstaged.stages call (mem_calls_of_call? hcall) item hitem
      rw [WorkItem.rowKey, hfamilies item hitem, hrow'] at hheldrow
      cases hheldrow
      rw [hstage] at hholds'
      rcases hlaw.held _ _ _ hclaimed hfamilies hbatch item hitem rfl n hholds' with
        ⟨hk, hkey⟩ | ⟨out, hout, hkey, hholds''⟩
      · exact hleft hk hkey
      · rw [← hkey] at hrow' ⊢
        obtain ⟨row'', hrow'', hstage''⟩ :=
          row?_finish_of_mem now hcall hsound hdistinct hout hrow'
        exact ⟨row'', hrow'', hstage'' ▸ hholds''⟩
    · refine hleft (hlaw.away _ _ _ hclaimed hfamilies hbatch hheld) fun hmem => hheld ?_
      -- results are about claimed items only
      obtain ⟨item, hitem, rfl⟩ := List.mem_map.mp hmem
      obtain ⟨-, held, hmem', hkey, -⟩ := Store.of_checkResults hsound item hitem
      rw [← hkey]
      exact List.mem_map_of_mem hmem'

/-- **A call that commits** belongs to a history: it starts, and it ends with its results. -/
theorem of_processPending {σ τ : Type} [Seconds τ] {order : Work.BatchOrder}
    {handler : List WorkItem → Work σ τ (List WorkItem)} {w w' : World σ τ}
    {results : List WorkItem} {k : ℕ} (history : Tallied order.family batch start q n)
    (hstore : w.store = q.store) (hkeeps : ∀ items w, (handler items w).2.store = w.store)
    (hrun : Work.processPending order handler w = (.ok results, w'))
    (hbatch : batch (w.batch order) results k) :
    ∃ q', w'.store = q'.store ∧ Tallied order.family batch start q' (n + k) := by
  have hrests : w.store.checkRests order.family order.backoff w.wallNow = .ok () := by
    by_contra hnot
    obtain ⟨fault, hfault⟩ := Work.processPending_unstarted order handler w (.inl hnot)
    rw [hfault] at hrun
    cases hrun
  obtain ⟨w₁, s, hended, hcommit, rfl⟩ := Work.processPending_eq_ok hrun
  have hclaimed : w₁.store =
      (w.store.claim order.family order.size order.backoff w.wallNow).2 := by
    have hsame := hkeeps (w.batch order) (w.handed order)
    rw [hended] at hsame
    exact hsame
  have hstep : q.step (.start w.wallNow order) =
      ⟨w₁.store, q.calls ++ [some ⟨order.family, w.batch order⟩]⟩ := by
    rw [step, ← hstore, hrests, hclaimed]
    rfl
  have hstarted : Tallied order.family batch start (q.step (.start w.wallNow order)) n :=
    history.call_starts w.wallNow order
  rw [hstep] at hstarted
  have hplace : Queue.call? ⟨w₁.store, q.calls ++ [some ⟨order.family, w.batch order⟩]⟩
      q.calls.length = some ⟨order.family, w.batch order⟩ := by
    rw [call?_eq_some_iff, List.getElem?_concat_length]
  refine ⟨_, ?_, hstarted.batch w₁.wallNow hplace rfl hbatch⟩
  rw [step, hplace]
  dsimp only
  rw [Store.settle, hcommit]

end Tallied

end Queue

end ChainRelay
