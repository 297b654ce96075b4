import ChainRelay.Proofs.Queue.Operations

/-!
# Histories of the queue

What can be relied on however operations follow each other: rows are there for good, a finished row
is never written again, and no row is worked on by two calls at a time.

## Main definitions

* `Queue.writes` — the rows that an operation writes
* `Queue.Durable` — what one point of a history promises for a later one
* `Queue.Exclusive` — what calls in progress promise each other

## Main results

* `Queue.step_grows`, `Queue.run_grows` — rows only get better
* `Queue.row?_step` — rows that an operation does not write stay as they are
* `Queue.durable_of_sound`, `Queue.exclusive_of_sound` — where the promises come from
* `Queue.run_durable`, `Queue.run_exclusive` — the promises hold along every history

Calls of a queue in a world are histories too, and so are all jobs: see
`Work.processPending_keeps_promises` and `Relayer.ticks_keep_promises`.
-/

namespace ChainRelay

/-! ### Rows that are written -/

namespace Store

variable {s : Store} {call : Call} {key : RowKey}

/-- The rows that the end of a call writes. -/
def settledKeys (s : Store) (call : Call) : Ending → List RowKey
  | .raised => []
  | .returned results now =>
    match s.commit call.family call.claimed results now with
    | .ok _ => results.map fun item => (call.family, item.key)
    | .error _ => []

/-- What is written was claimed. -/
theorem exists_of_mem_settledKeys {ending : Ending} (h : key ∈ s.settledKeys call ending) :
    ∃ held ∈ call.claimed, key = (call.family, held.key) := by
  cases ending with
  | raised => cases h
  | returned results now =>
    rw [settledKeys] at h
    cases hcommit : s.commit call.family call.claimed results now with
    | error fault =>
      rw [hcommit] at h
      cases h
    | ok s' =>
      rw [hcommit] at h
      obtain ⟨item, hitem, rfl⟩ := List.mem_map.mp h
      obtain ⟨-, held, hheld, hkey, -⟩ := of_checkResults (commit_eq_ok hcommit).1 item hitem
      exact ⟨held, hheld, by rw [hkey]⟩

/-- Rows that the end of a call does not write stay as they are. -/
theorem row?_settle {ending : Ending} (h : key ∉ s.settledKeys call ending) :
    (s.settle call ending).row? key = s.row? key := by
  cases ending with
  | raised => rfl
  | returned results now =>
    rw [settledKeys] at h
    rw [settle]
    cases hcommit : s.commit call.family call.claimed results now with
    | error fault => rfl
    | ok s' =>
      rw [hcommit] at h
      refine row?_commit hcommit fun hmem => h ?_
      obtain ⟨item, hitem, rfl⟩ := List.mem_map.mp hmem
      refine List.mem_map.mpr ⟨item, hitem, ?_⟩
      rw [← (of_checkResults (commit_eq_ok hcommit).1 item hitem).1]
      rfl

end Store

namespace Queue

variable {q : Queue}

/-- The rows that an operation writes. -/
def writes (q : Queue) : Operation → List RowKey
  | .upsert _ item => if q.store.writes item then [item.rowKey] else []
  | .start _ _ => []
  | .finish n ending =>
    match q.call? n with
    | none => []
    | some call => q.store.settledKeys call ending

/-- **The frame of an operation.** A row that is not written stays as it is, and none is created. -/
theorem row?_step {op : Operation} {key : RowKey} (h : key ∉ q.writes op) :
    (q.step op).store.row? key = q.store.row? key := by
  cases op with
  | upsert now item =>
    rw [writes] at h
    rw [step]
    rcases q.store.upsert_cases now item with
      ⟨-, hwrites, created, hcreated, hstore⟩ | ⟨r, -, -, -, hstore⟩ | ⟨r, -, -, hwrites, hstore⟩
    · rw [if_pos hwrites, List.mem_singleton] at h
      rw [hstore, Store.row?, Store.row?, List.find?_append]
      have hother : (created.rowKey == key) = false := by
        rw [hcreated]
        simpa using Ne.symm h
      simp [hother]
    · rw [hstore]
    · rw [if_pos hwrites, List.mem_singleton] at h
      rw [hstore, Store.row?, Store.find?_map_rows (Store.renew_rowKey _ _ _)]
      change (q.store.row? key).map _ = q.store.row? key
      cases hrow : q.store.row? key with
      | none => rfl
      | some r =>
        rw [Option.map_some, Store.renew_of_ne]
        rw [Store.rowKey_of_row? hrow]
        exact h
  | start now order =>
    rw [step]
    cases q.store.checkRests order.family order.backoff now with
    | error fault => rfl
    | ok _ => rfl
  | finish n ending =>
    rw [writes] at h
    rw [step]
    cases hcall : q.call? n with
    | none => rfl
    | some call =>
      rw [hcall] at h
      exact Store.row?_settle h

/-- An upsert renews the payload of the row of its item, if that is not finished. -/
theorem row?_upsert (now : Instant) {item : WorkItem} {row : Row}
    (hrow : q.store.row? item.rowKey = some row) (hopen : row.item.status.isTerminal = false) :
    (q.step (.upsert now item)).store.row? item.rowKey =
      some { row with item := { row.item with payload := item.payload, updatedAt := some now } } := by
  rw [step]
  rcases q.store.upsert_cases now item with
    ⟨hnone, -⟩ | ⟨r, hr, hterminal, -⟩ | ⟨r, hr, -, -, hstore⟩
  · rw [hrow] at hnone
    cases hnone
  · rw [hrow] at hr
    cases hr
    rw [hopen] at hterminal
    cases hterminal
  · rw [hstore, Store.row?, Store.find?_map_rows (Store.renew_rowKey _ _ _)]
    change (q.store.row? item.rowKey).map _ = _
    rw [hrow, Option.map_some, Store.renew, if_pos (by simp [Store.rowKey_of_row? hrow])]

/-- A finished row is not written. -/
theorem Sound.not_mem_writes (h : q.Sound) {r : Row} (hr : r ∈ q.store.rows)
    (hfinished : r.item.status.isTerminal = true) (op : Operation) :
    r.item.rowKey ∉ q.writes op := by
  intro hmem
  cases op with
  | upsert now item =>
    rw [writes] at hmem
    by_cases hwrites : q.store.writes item = true
    · rw [if_pos hwrites, List.mem_singleton] at hmem
      rw [Store.writes, ← hmem, Store.row?_of_mem h.keys hr] at hwrites
      simp [hfinished] at hwrites
    · rw [if_neg hwrites] at hmem
      cases hmem
  | start now order => cases hmem
  | finish n ending =>
    rw [writes] at hmem
    cases hcall : q.call? n with
    | none =>
      rw [hcall] at hmem
      cases hmem
    | some call =>
      rw [hcall] at hmem
      obtain ⟨held, hheld, hkey⟩ := Store.exists_of_mem_settledKeys hmem
      -- the row was claimed as pending, and is so still
      obtain ⟨hfamily, -, r', hr', hrow, hpending, -⟩ :=
        h.current call (mem_calls_of_call? hcall) held hheld
      have hsame : held.rowKey = r.item.rowKey := by
        rw [hkey, ← hfamily]
        rfl
      obtain rfl : r' = r := List.inj_on_of_nodup_map h.keys hr' hr (hrow.trans hsame)
      rw [Status.isTerminal_iff] at hfinished
      exact hfinished hpending

/-! ### Rows over time -/

/-- One operation makes no row worse. -/
theorem step_grows (h : q.Sound) (op : Operation) : q.store.Grows (q.step op).store := by
  cases op with
  | upsert now item =>
    rw [step]
    rcases q.store.upsert_cases now item with
      ⟨-, -, created, -, hstore⟩ | ⟨r, -, -, -, hstore⟩ | ⟨r, hrow, hpending, -, hstore⟩
    · exact Store.Grows.of_append (by rw [hstore])
    · rw [hstore]
      exact Store.Grows.refl _
    · refine Store.Grows.of_map (by rw [hstore]) fun r' hr' => ?_
      obtain ⟨payload, updatedAt, hrenew⟩ := Store.renew_eq item.rowKey item.payload now r'
      refine ⟨by rw [hrenew], by rw [hrenew]; rfl, by rw [hrenew], Int.le_of_eq (by rw [hrenew]),
        fun hfinished => ?_⟩
      refine Store.renew_of_ne fun hkey => ?_
      obtain rfl : r' = r := List.inj_on_of_nodup_map h.keys hr' (Store.mem_of_row? hrow)
        (hkey.trans (Store.rowKey_of_row? hrow).symm)
      rw [hpending] at hfinished
      cases hfinished
  | start now order =>
    rw [step]
    cases q.store.checkRests order.family order.backoff now with
    | error fault => exact Store.Grows.refl _
    | ok _ => exact Store.Grows.refl _
  | finish n ending =>
    rw [step]
    cases hcall : q.call? n with
    | none => exact Store.Grows.refl _
    | some call =>
      obtain ⟨f, hrows, -, -, hf⟩ :=
        Store.settle_rows h.keys (h.current call (mem_calls_of_call? hcall)) ending
      exact Store.Grows.of_map hrows fun r hr => (hf r hr).1

theorem run_grows (h : q.Sound) (ops : List Operation) : q.store.Grows (q.run ops).store := by
  induction ops generalizing q with
  | nil => exact Store.Grows.refl _
  | cons op rest ih => exact (step_grows h op).trans (ih (step_sound h op))

/-! ### The promises -/

/-- What one point of a history promises for a later one. -/
structure Durable (q q' : Queue) : Prop where
  /-- There is at most one row for a key. -/
  unique : (q.store.rows.map fun r => r.item.rowKey).Nodup
  /-- The number of a row is its place in the order of creation. -/
  numbered : ∀ (i : Nat) (r : Row), q.store.rows[i]? = some r → r.number = i
  /-- A row is there for good, and its retry count does not decrease. -/
  kept : ∀ (i : Nat) (r : Row), q.store.rows[i]? = some r → ∃ r', q'.store.rows[i]? = some r' ∧
    r'.number = r.number ∧ r'.item.family = r.item.family ∧ r'.item.key = r.item.key ∧
    r'.item.createdAt = r.item.createdAt ∧ r.item.retry ≤ r'.item.retry
  /-- A finished row stays as it is, and no operation writes it. -/
  finished : ∀ r ∈ q.store.rows, r.item.status = .success ∨ r.item.status = .failed →
    q'.store.row? r.item.rowKey = some r ∧ ∀ op, r.item.rowKey ∉ q'.writes op

/-- Durability comes from soundness and growth: nothing else need be known of what leads from `q` to
`q'`. -/
theorem durable_of_sound {q q' : Queue} (h : q.Sound) (h' : q'.Sound)
    (hgrows : q.store.Grows q'.store) : Durable q q' := by
  refine ⟨h.keys, fun i r hr => ?_, fun i r hr => ?_, fun r hr hfinished => ?_⟩
  · have hnumber : (q.store.rows.map Row.number)[i]? = some r.number := by
      rw [List.getElem?_map, hr, Option.map_some]
    rw [h.numbers, List.getElem?_eq_some_iff] at hnumber
    obtain ⟨hi, hrange⟩ := hnumber
    rw [← hrange, List.getElem_range]
  · obtain ⟨r', hr', hbecomes⟩ := hgrows i r hr
    exact ⟨r', hr', hbecomes.number, congrArg Prod.fst hbecomes.rowKey,
      congrArg Prod.snd hbecomes.rowKey, hbecomes.createdAt, hbecomes.retry⟩
  · have hterminal : r.item.status.isTerminal = true := by
      rw [Status.isTerminal_iff]
      rcases hfinished with h | h <;> rw [h] <;> decide
    obtain ⟨r', hr', hbecomes⟩ := hgrows.exists_becomes hr
    obtain rfl : r' = r := hbecomes.terminal hterminal
    exact ⟨Store.row?_of_mem h'.keys hr', h'.not_mem_writes hr' hterminal⟩

/-- **Durability.** Whatever is done on an empty queue and however calls overlap, each point keeps
its promises for all that comes after it. -/
theorem run_durable (ops later : List Operation) :
    Durable (run {} ops) (run {} (ops ++ later)) := by
  have hsound := run_sound sound_empty ops
  rw [run_append]
  exact durable_of_sound hsound (run_sound hsound later) (run_grows hsound later)

/-- What calls in progress promise each other. -/
structure Exclusive (q : Queue) : Prop where
  /-- A call holds each of its rows once, and no other call holds any of them. -/
  once : ∀ (m : Nat) (a : Call), q.call? m = some a → a.keys.Nodup
  disjoint : ∀ (m n : Nat) (a b : Call), m ≠ n → q.call? m = some a → q.call? n = some b →
    List.Disjoint a.keys b.keys
  /-- The locked rows are those that some call in progress holds. -/
  locked : ∀ key, key ∈ q.store.locked ↔ ∃ n call, q.call? n = some call ∧ key ∈ call.keys
  /-- When all calls have ended nothing is locked. -/
  idle : (∀ n, q.call? n = none) → q.store.locked = []

/-- Exclusive claims come from soundness. -/
theorem exclusive_of_sound (h : q.Sound) : Exclusive q := by
  refine ⟨fun m a ha => ?_, fun m n a b hne ha hb => ?_, fun key => ?_, fun hended => ?_⟩
  · obtain ⟨before, after, hcalls, -, -⟩ := calls_eq ha
    have hexclusive : (Queue.mk q.store (before ++ some a :: after)).held.Nodup := by
      rw [← hcalls]
      exact h.exclusive
    rw [held_insert] at hexclusive
    exact hexclusive.of_append_right.of_append_left
  · have hother : some b ∈ q.calls.set m none := by
      refine List.mem_of_getElem? (i := n) ?_
      rw [List.getElem?_set_ne hne]
      exact call?_eq_some_iff.mp hb
    exact fun key hkey hkey' => (h.not_mem_keys ha hother hkey').2 hkey
  · rw [h.locked, mem_held_iff]
  · rw [h.locked]
    refine List.eq_nil_iff_forall_not_mem.mpr fun key hkey => ?_
    obtain ⟨n, call, hcall, -⟩ := mem_held_iff.mp hkey
    rw [hended n] at hcall
    cases hcall

/-- **Exclusive claims.** In whatever order calls start and end on an empty queue, with upserts
between them, no two calls in progress hold a row in common, exactly the rows that are held are
locked, and nothing stays locked when all calls have ended. -/
theorem run_exclusive (ops : List Operation) : Exclusive (run {} ops) :=
  exclusive_of_sound (run_sound sound_empty ops)

end Queue

end ChainRelay
