import ChainRelay.WorkItem.Store
import Mathlib.Data.List.Nodup
import Mathlib.Data.List.Perm.Subperm

/-!
# What operations do to rows

Every operation of the queue treats each row on its own: it may change the item of a row, and a new
row is only ever added at the end. What a commit makes of a row depends on the row and on the
result, not on the other rows.

## Main definitions

* `Row.Becomes` — what may become of a row
* `Row.afterResults` — what the results of a batch make of a row
* `Store.Grows` — all rows are still there, in their order, and new ones may have been added

## Main results

* `Store.writeResults_rows` — results are written row by row
* `Store.row?_commit` — a commit leaves rows alone that its results do not name
-/

namespace ChainRelay

/-! ### What may become of a row -/

/-- What may become of a row: it keeps its place, its key and its time of creation, its retry count
does not decrease, and once it is finished nothing changes any more. -/
structure Row.Becomes (old new : Row) : Prop where
  number : new.number = old.number
  rowKey : new.item.rowKey = old.item.rowKey
  createdAt : new.item.createdAt = old.item.createdAt
  retry : old.item.retry ≤ new.item.retry
  terminal : old.item.status.isTerminal = true → new = old

namespace Row.Becomes

theorem refl (r : Row) : r.Becomes r :=
  ⟨rfl, rfl, rfl, Int.le_refl _, fun _ => rfl⟩

theorem trans {a b c : Row} (hab : a.Becomes b) (hbc : b.Becomes c) : a.Becomes c where
  number := hbc.number.trans hab.number
  rowKey := hbc.rowKey.trans hab.rowKey
  createdAt := hbc.createdAt.trans hab.createdAt
  retry := Int.le_trans hab.retry hbc.retry
  terminal := by
    intro h
    have hb : b = a := hab.terminal h
    subst hb
    exact hbc.terminal h

end Row.Becomes

/-! ### Results, row by row -/

namespace Row

variable {family : Family} {now : Instant}

/-- What one item of a result makes of a row. -/
def afterResult (family : Family) (now : Instant) (r : Row) (item : WorkItem) : Row :=
  if r.item.rowKey == (family, item.key) then
    { r with item := { r.item with
        status := item.status
        retry := item.retry
        txHash := item.txHash
        payload := item.payload
        updatedAt := some now } }
  else r

/-- What the results of a batch make of a row. -/
def afterResults (family : Family) (now : Instant) (results : List WorkItem) (r : Row) : Row :=
  results.foldl (afterResult family now) r

theorem afterResult_of_ne {r : Row} {item : WorkItem} (h : r.item.rowKey ≠ (family, item.key)) :
    r.afterResult family now item = r := by
  rw [afterResult, if_neg]
  simpa using h

theorem afterResult_number (r : Row) (item : WorkItem) :
    (r.afterResult family now item).number = r.number := by
  unfold afterResult
  split <;> rfl

theorem afterResult_rowKey (r : Row) (item : WorkItem) :
    (r.afterResult family now item).item.rowKey = r.item.rowKey := by
  unfold afterResult
  split <;> rfl

theorem afterResult_createdAt (r : Row) (item : WorkItem) :
    (r.afterResult family now item).item.createdAt = r.item.createdAt := by
  unfold afterResult
  split <;> rfl

theorem afterResults_cons (item : WorkItem) (results : List WorkItem) (r : Row) :
    r.afterResults family now (item :: results) =
      (r.afterResult family now item).afterResults family now results := rfl

theorem afterResults_number (results : List WorkItem) (r : Row) :
    (r.afterResults family now results).number = r.number := by
  induction results generalizing r with
  | nil => rfl
  | cons item rest ih => rw [afterResults_cons, ih, afterResult_number]

theorem afterResults_rowKey (results : List WorkItem) (r : Row) :
    (r.afterResults family now results).item.rowKey = r.item.rowKey := by
  induction results generalizing r with
  | nil => rfl
  | cons item rest ih => rw [afterResults_cons, ih, afterResult_rowKey]

theorem afterResults_createdAt (results : List WorkItem) (r : Row) :
    (r.afterResults family now results).item.createdAt = r.item.createdAt := by
  induction results generalizing r with
  | nil => rfl
  | cons item rest ih => rw [afterResults_cons, ih, afterResult_createdAt]

/-- A row that no result names is left as it is. -/
theorem afterResults_of_not_mem {results : List WorkItem} {r : Row}
    (h : ∀ item ∈ results, r.item.rowKey ≠ (family, item.key)) :
    r.afterResults family now results = r := by
  induction results with
  | nil => rfl
  | cons item rest ih =>
    rw [afterResults_cons, afterResult_of_ne (h item List.mem_cons_self)]
    exact ih fun item hitem => h item (List.mem_cons_of_mem _ hitem)

/-- A result replaces all of a row but its place, its key and its time of creation. -/
theorem afterResult_congr {item : WorkItem} {r r' : Row}
    (hnamed : r.item.rowKey = (family, item.key)) (hnumber : r'.number = r.number)
    (hkey : r'.item.rowKey = r.item.rowKey)
    (hcreated : r'.item.createdAt = r.item.createdAt) :
    r'.afterResult family now item = r.afterResult family now item := by
  rw [afterResult, afterResult, if_pos (by simpa [hkey] using hnamed),
    if_pos (by simpa using hnamed)]
  obtain ⟨hfamily, hname⟩ := Prod.mk.inj hkey
  simp only [hnumber, hcreated, hfamily, hname]

/-- So does a list of results that names the row. -/
theorem afterResults_congr {results : List WorkItem} {r r' : Row}
    (h : ∃ item ∈ results, r.item.rowKey = (family, item.key)) (hnumber : r'.number = r.number)
    (hkey : r'.item.rowKey = r.item.rowKey) (hcreated : r'.item.createdAt = r.item.createdAt) :
    r'.afterResults family now results = r.afterResults family now results := by
  induction results with
  | nil =>
    obtain ⟨item, hitem, -⟩ := h
    cases hitem
  | cons item rest ih =>
    rw [afterResults_cons, afterResults_cons]
    by_cases hnamed : r.item.rowKey = (family, item.key)
    · -- both rows are the same from here on
      rw [afterResult_congr hnamed hnumber hkey hcreated]
    · rw [afterResult_of_ne hnamed, afterResult_of_ne (hkey ▸ hnamed)]
      refine ih ?_
      obtain ⟨item', hitem, hnamed'⟩ := h
      rcases List.mem_cons.mp hitem with rfl | hitem
      · exact absurd hnamed' hnamed
      · exact ⟨item', hitem, hnamed'⟩

/-- A row is as the last result that names it has made it. -/
theorem exists_afterResults_eq {results : List WorkItem} {r : Row}
    (h : ∃ item ∈ results, r.item.rowKey = (family, item.key)) :
    ∃ item ∈ results, r.item.rowKey = (family, item.key) ∧
      r.afterResults family now results = r.afterResult family now item := by
  induction results generalizing r with
  | nil => simp at h
  | cons item rest ih =>
    rw [afterResults_cons]
    by_cases hrest : ∃ item' ∈ rest, r.item.rowKey = (family, item'.key)
    · -- a later result overwrites this one
      obtain ⟨item', hmem, hkey, hwritten⟩ := ih (r := r.afterResult family now item)
        (by rwa [afterResult_rowKey])
      rw [afterResult_rowKey] at hkey
      refine ⟨item', List.mem_cons_of_mem _ hmem, hkey, hwritten.trans ?_⟩
      exact afterResult_congr hkey (afterResult_number r item) (afterResult_rowKey r item)
        (afterResult_createdAt r item)
    · obtain ⟨item', hmem, hkey⟩ := h
      rcases List.mem_cons.mp hmem with rfl | hmem
      · refine ⟨item', List.mem_cons_self, hkey, afterResults_of_not_mem fun item hitem hsame => ?_⟩
        rw [afterResult_rowKey] at hsame
        exact hrest ⟨item, hitem, hsame⟩
      · exact absurd ⟨item', hmem, hkey⟩ hrest

/-- A row that a result names takes over its status and its retry count from one of them. -/
theorem exists_of_afterResults {results : List WorkItem} {r : Row}
    (h : ∃ item ∈ results, r.item.rowKey = (family, item.key)) :
    ∃ item ∈ results, r.item.rowKey = (family, item.key) ∧
      (r.afterResults family now results).item.status = item.status ∧
      (r.afterResults family now results).item.retry = item.retry := by
  obtain ⟨item, hitem, hkey, hwritten⟩ := exists_afterResults_eq h
  rw [hwritten, afterResult, if_pos (by simpa using hkey)]
  exact ⟨item, hitem, hkey, rfl, rfl⟩

/-- A row takes over what the result says that names it, if only one does. -/
theorem afterResults_of_mem {results : List WorkItem} {item : WorkItem} {r : Row}
    (hdistinct : (results.map WorkItem.key).Nodup) (hitem : item ∈ results)
    (hkey : r.item.rowKey = (family, item.key)) :
    r.afterResults family now results = r.afterResult family now item := by
  obtain ⟨last, hlast, hkey', hwritten⟩ :=
    exists_afterResults_eq ⟨item, hitem, hkey⟩
  have hsame : last.key = item.key := (Prod.mk.inj (hkey'.symm.trans hkey)).2
  rw [hwritten, List.inj_on_of_nodup_map hdistinct hlast hitem hsame]

end Row

/-! ### All rows -/

namespace Store

/-- All rows are still there, each at its place, and new ones may have been added after them. -/
def Grows (s s' : Store) : Prop :=
  ∀ (i : ℕ) (r : Row), s.rows[i]? = some r → ∃ r', s'.rows[i]? = some r' ∧ r.Becomes r'

namespace Grows

theorem refl (s : Store) : s.Grows s :=
  fun _ r h => ⟨r, h, Row.Becomes.refl r⟩

theorem trans {s s' s'' : Store} (h : s.Grows s') (h' : s'.Grows s'') : s.Grows s'' := by
  intro i r hr
  obtain ⟨r', hr', hbecomes⟩ := h i r hr
  obtain ⟨r'', hr'', hbecomes'⟩ := h' i r' hr'
  exact ⟨r'', hr'', hbecomes.trans hbecomes'⟩

/-- Rows that are treated one by one. -/
theorem of_map {s s' : Store} {f : Row → Row} (hrows : s'.rows = s.rows.map f)
    (hf : ∀ r ∈ s.rows, r.Becomes (f r)) : s.Grows s' := by
  intro i r hr
  refine ⟨f r, ?_, hf r (List.mem_of_getElem? hr)⟩
  rw [hrows, List.getElem?_map, hr, Option.map_some]

/-- A row that is added at the end. -/
theorem of_append {s s' : Store} {added : List Row} (hrows : s'.rows = s.rows ++ added) :
    s.Grows s' := by
  intro i r hr
  obtain ⟨hi, -⟩ := List.getElem?_eq_some_iff.mp hr
  exact ⟨r, by rw [hrows, List.getElem?_append_left hi, hr], Row.Becomes.refl r⟩

/-- What has become of a row. -/
theorem exists_becomes {s s' : Store} (h : s.Grows s') {r : Row} (hr : r ∈ s.rows) :
    ∃ r' ∈ s'.rows, r.Becomes r' := by
  obtain ⟨i, hi⟩ := List.mem_iff_getElem?.mp hr
  obtain ⟨r', hr', hbecomes⟩ := h i r hi
  exact ⟨r', List.mem_of_getElem? hr', hbecomes⟩

end Grows

variable {s s' : Store} {family : Family} {now : Instant}

theorem writeResults_cons (item : WorkItem) (results : List WorkItem) :
    s.writeResults family now (item :: results) =
      (s.writeResult family now item).writeResults family now results := rfl

/-- **Results are written row by row.** -/
theorem writeResults_eq (s : Store) (results : List WorkItem) :
    s.writeResults family now results =
      { s with rows := s.rows.map (Row.afterResults family now results) } := by
  induction results generalizing s with
  | nil =>
    have hid : Row.afterResults family now [] = id := rfl
    rw [hid, List.map_id]
    rfl
  | cons item rest ih =>
    rw [writeResults_cons, ih, writeResult, update]
    dsimp only
    rw [List.map_map]
    rfl

/-! ### Looking up a row -/

theorem rowKey_of_row? {key : RowKey} {r : Row} (h : s.row? key = some r) :
    r.item.rowKey = key := by
  simpa using List.find?_some h

theorem mem_of_row? {key : RowKey} {r : Row} (h : s.row? key = some r) : r ∈ s.rows :=
  List.mem_of_find?_eq_some h

/-- A change of rows that keeps their keys does not change which row is found. -/
theorem find?_map_rows {f : Row → Row} (hf : ∀ r, (f r).item.rowKey = r.item.rowKey)
    (rows : List Row) (key : RowKey) :
    (rows.map f).find? (fun r => r.item.rowKey == key) =
      (rows.find? fun r => r.item.rowKey == key).map f := by
  rw [List.find?_map]
  congr 2
  funext r
  simp only [Function.comp_apply, hf]

/-- One item of a sound result. -/
theorem of_checkResult {claimed : List WorkItem} {item : WorkItem}
    (h : checkResult family claimed item = .ok ()) : item.family = family ∧
      ∃ held ∈ claimed, held.key = item.key ∧ held.status = .pending ∧ held.retry ≤ item.retry := by
  rw [checkResult] at h
  cases hfound : claimed.reverse.find? fun c => c.key == item.key with
  | none =>
    rw [hfound] at h
    cases h
  | some held =>
    rw [hfound] at h
    dsimp only at h
    by_cases hfamily : item.family = family
    · rw [if_neg (by simpa using hfamily)] at h
      cases hchange : Status.checkChange held.status item.status with
      | error fault =>
        rw [hchange] at h
        cases h
      | ok _ =>
        rw [hchange] at h
        refine ⟨hfamily, held, List.mem_reverse.mp (List.mem_of_find?_eq_some hfound), ?_, ?_, ?_⟩
        · simpa using List.find?_some hfound
        · exact (Status.checkChange_eq_ok_iff _ _).mp hchange
        · exact (checkRetry_eq_ok_iff _ _).mp h
    · rw [if_pos (by simpa using hfamily)] at h
      cases h

/-- A sound result names items of its batch only, which were pending, and takes no retry back. -/
theorem of_checkResults {claimed results : List WorkItem}
    (h : checkResults family claimed results = .ok ()) : ∀ item ∈ results, item.family = family ∧
      ∃ held ∈ claimed, held.key = item.key ∧ held.status = .pending ∧ held.retry ≤ item.retry := by
  induction results with
  | nil => simp
  | cons item rest ih =>
    rw [checkResults] at h
    cases hfirst : checkResult family claimed item with
    | error fault =>
      rw [hfirst] at h
      cases h
    | ok _ =>
      rw [hfirst] at h
      intro item' hitem'
      rcases List.mem_cons.mp hitem' with rfl | hitem'
      · exact of_checkResult hfirst
      · exact ih h item' hitem'

/-- Sound results are about rows of their family. -/
theorem rowKey_of_checkResults {claimed results : List WorkItem}
    (h : checkResults family claimed results = .ok ()) {item : WorkItem} (hitem : item ∈ results) :
    item.rowKey = (family, item.key) :=
  Prod.ext (of_checkResults h item hitem).1 rfl

/-- Sound results are of one family, so that distinct rows have distinct keys. -/
theorem nodup_key_of_checkResults {claimed results : List WorkItem}
    (h : checkResults family claimed results = .ok ())
    (hdistinct : (results.map WorkItem.rowKey).Nodup) : (results.map WorkItem.key).Nodup := by
  have hmap : results.map WorkItem.rowKey =
      (results.map WorkItem.key).map fun key => (family, key) := by
    rw [List.map_map]
    exact List.map_congr_left fun item hitem => rowKey_of_checkResults h hitem
  rw [hmap] at hdistinct
  exact hdistinct.of_map _

/-- A commit either writes its results, each of them sound, or nothing. -/
theorem commit_eq_ok {claimed results : List WorkItem}
    (h : s.commit family claimed results now = .ok s') :
    checkResults family claimed results = .ok () ∧
      s'.rows = s.rows.map (Row.afterResults family now results) ∧
      s'.locked = s.locked ∧ s'.next = s.next := by
  rw [commit] at h
  split at h
  · cases h
  · rename_i hcheck
    cases h
    rw [writeResults_eq]
    exact ⟨hcheck, rfl, rfl, rfl⟩

/-- **The frame of a commit.** A row that no result names is left as it is. -/
theorem row?_commit {claimed results : List WorkItem} {key : RowKey}
    (h : s.commit family claimed results now = .ok s')
    (hkey : key ∉ results.map WorkItem.rowKey) : s'.row? key = s.row? key := by
  obtain ⟨hcheck, hrows, -⟩ := commit_eq_ok h
  rw [row?, hrows, find?_map_rows (Row.afterResults_rowKey results)]
  change (s.row? key).map _ = s.row? key
  cases hrow : s.row? key with
  | none => rfl
  | some r =>
    rw [Option.map_some, Row.afterResults_of_not_mem]
    intro item hitem hsame
    rw [rowKey_of_row? hrow, ← (of_checkResults hcheck item hitem).1] at hsame
    exact hkey (List.mem_map.mpr ⟨item, hitem, hsame.symm⟩)

/-! ### Upserts -/

/-- What an upsert makes of a known row that is not finished. -/
def renew (key : RowKey) (payload : Payload) (now : Instant) (r : Row) : Row :=
  if r.item.rowKey == key then { r with item := { r.item with payload, updatedAt := some now } }
  else r

theorem renew_of_ne {key : RowKey} {payload : Payload} {r : Row} (h : r.item.rowKey ≠ key) :
    renew key payload now r = r := by
  rw [renew, if_neg]
  simpa using h

/-- Only the payload and the time of the last change are renewed. -/
theorem renew_eq (key : RowKey) (payload : Payload) (now : Instant) (r : Row) :
    ∃ payload' updatedAt, renew key payload now r =
      { r with item := { r.item with payload := payload', updatedAt } } := by
  unfold renew
  split
  · exact ⟨_, _, rfl⟩
  · exact ⟨r.item.payload, r.item.updatedAt, rfl⟩

theorem renew_rowKey (key : RowKey) (payload : Payload) (now : Instant) (r : Row) :
    (renew key payload now r).item.rowKey = r.item.rowKey := by
  unfold renew
  split <;> rfl

/-- **Upserts.** A new item is added as a row, a finished one is left alone, and any other one has
its payload renewed. -/
theorem upsert_cases (s : Store) (now : Instant) (item : WorkItem) :
    (s.row? item.rowKey = none ∧ s.writes item = true ∧ ∃ created : WorkItem,
      created.rowKey = item.rowKey ∧ (s.upsert now item).2 =
        { s with rows := s.rows ++ [⟨created, s.next⟩], next := s.next + 1 }) ∨
    (∃ r, s.row? item.rowKey = some r ∧ r.item.status.isTerminal = true ∧
      s.writes item = false ∧ (s.upsert now item).2 = s) ∨
    ∃ r, s.row? item.rowKey = some r ∧ r.item.status.isTerminal = false ∧
      s.writes item = true ∧ (s.upsert now item).2 =
        { s with rows := s.rows.map (renew item.rowKey item.payload now) } := by
  unfold upsert writes
  cases hrow : s.row? item.rowKey with
  | none =>
    exact .inl ⟨rfl, rfl, { item with
      createdAt := some (item.createdAt.getD now)
      updatedAt := some (item.updatedAt.getD now) }, rfl, rfl⟩
  | some r =>
    dsimp only
    cases hterminal : r.item.status.isTerminal with
    | true => exact .inr (.inl ⟨r, rfl, hterminal, rfl, rfl⟩)
    | false => exact .inr (.inr ⟨r, rfl, hterminal, rfl, rfl⟩)

/-- With distinct keys the row of a key is found. -/
theorem row?_of_mem (hkeys : (s.rows.map fun r => r.item.rowKey).Nodup) {r : Row}
    (hr : r ∈ s.rows) : s.row? r.item.rowKey = some r := by
  cases hrow : s.row? r.item.rowKey with
  | none => simpa using List.find?_eq_none.mp hrow r hr
  | some r' =>
    rw [List.inj_on_of_nodup_map hkeys (mem_of_row? hrow) hr (rowKey_of_row? hrow)]

/-- The keys of all rows. -/
def keys (s : Store) : List RowKey := s.rows.map fun r => r.item.rowKey

theorem mem_keys_iff {key : RowKey} : key ∈ s.keys ↔ ∃ r, s.row? key = some r := by
  constructor
  · intro h
    obtain ⟨r, hr, rfl⟩ := List.mem_map.mp h
    cases hrow : s.row? r.item.rowKey with
    | none => simpa using List.find?_eq_none.mp hrow r hr
    | some r' => exact ⟨r', rfl⟩
  · rintro ⟨r, hr⟩
    rw [← rowKey_of_row? hr]
    exact List.mem_map_of_mem (mem_of_row? hr)

/-- An upsert adds the key of its item, if there is no row of that key yet. -/
theorem keys_upsert (s : Store) (now : Instant) (item : WorkItem) :
    (s.upsert now item).2.keys =
      if item.rowKey ∈ s.keys then s.keys else s.keys ++ [item.rowKey] := by
  rcases s.upsert_cases now item with
    ⟨hnew, -, created, hcreated, hstore⟩ | ⟨r, hrow, -, -, hstore⟩ | ⟨r, hrow, -, -, hstore⟩
  · have hnot : item.rowKey ∉ s.keys := by
      rw [mem_keys_iff, hnew]
      rintro ⟨r, hr⟩
      cases hr
    rw [hstore, if_neg hnot, keys, List.map_append, List.map_singleton, hcreated]
    rfl
  · rw [hstore, if_pos (mem_keys_iff.mpr ⟨r, hrow⟩)]
  · rw [hstore, if_pos (mem_keys_iff.mpr ⟨r, hrow⟩), keys, List.map_map]
    exact List.map_congr_left fun row _ => renew_rowKey item.rowKey item.payload now row

/-! ### Claimed batches -/

theorem firstOf_eq_take {α : Type} (size : Int) (xs : List α) :
    ∃ n, firstOf size xs = xs.take n := by
  unfold firstOf
  split
  · exact ⟨_, rfl⟩
  · exact ⟨_, rfl⟩

/-- A batch is made of items of rows that wait, and none of them is taken twice. -/
theorem claim_items (s : Store) (family : Family) (size : Int) (backoff : Backoff) (now : Instant) :
    ∃ rows, (s.claim family size backoff now).1 = rows.map Row.item ∧
      List.Subperm rows (s.rows.filter (s.waiting family)) := by
  obtain ⟨n, hn⟩ := firstOf_eq_take size (s.candidates family backoff now)
  refine ⟨firstOf size (s.candidates family backoff now), rfl, ?_⟩
  have hclaimable : List.Sublist (s.rows.filter (s.claimable family backoff now))
      (s.rows.filter (s.waiting family)) := by
    refine List.monotone_filter_right _ fun r hr => ?_
    rw [claimable, Bool.and_eq_true] at hr
    exact hr.1
  rw [hn]
  have htake : List.Subperm ((s.candidates family backoff now).take n)
      (s.candidates family backoff now) := (List.take_sublist _ _).subperm
  exact htake.trans ((List.mergeSort_perm _ _).subperm.trans hclaimable.subperm)

end Store

/-- A batch as it is claimed: its items are pending, and no two of them share a row. -/
structure Claimed (items : List WorkItem) : Prop where
  pending : ∀ item ∈ items, item.status = .pending
  distinct : (items.map WorkItem.rowKey).Nodup

namespace Store

variable {s : Store} {family : Family} {size : Int} {backoff : Backoff} {now : Instant}

/-- A claimed item is that of a row of the family which nobody held. -/
theorem of_mem_claim {item : WorkItem} (h : item ∈ (s.claim family size backoff now).1) :
    item.family = family ∧ item.status = .pending ∧ item.rowKey ∉ s.locked ∧
      ∃ r ∈ s.rows, r.item = item := by
  obtain ⟨rows, hclaim, hrows⟩ := s.claim_items family size backoff now
  rw [hclaim] at h
  obtain ⟨r, hr, rfl⟩ := List.mem_map.mp h
  obtain ⟨hmem, hwaiting⟩ := List.mem_filter.mp (hrows.subset hr)
  simp only [waiting, Bool.and_eq_true, beq_iff_eq, Bool.not_eq_true', List.contains_eq_mem,
    decide_eq_false_iff_not] at hwaiting
  exact ⟨hwaiting.1.1, hwaiting.2, hwaiting.1.2, r, hmem, rfl⟩

/-- **Claims are batches.** What is claimed from rows with distinct keys is pending and distinct. -/
theorem claimed_claim (hkeys : (s.rows.map fun r => r.item.rowKey).Nodup) :
    Claimed (s.claim family size backoff now).1 := by
  refine ⟨fun item h => (of_mem_claim h).2.1, ?_⟩
  obtain ⟨rows, hclaim, hrows⟩ := s.claim_items family size backoff now
  rw [hclaim, List.map_map]
  have hall : List.Subperm rows s.rows := hrows.trans (List.filter_sublist).subperm
  obtain ⟨kept, hperm, hkept⟩ := hall
  rw [← (hperm.map _).nodup_iff]
  exact hkeys.sublist (hkept.map _)

/-- One item of a result is sound if it is that of a claimed item, with no retry taken back. -/
theorem checkResult_of_claimed {claimed : List WorkItem} (hclaimed : Claimed claimed)
    (hfamily : ∀ item ∈ claimed, item.family = family) {held out : WorkItem}
    (hheld : held ∈ claimed)
    (hkey : out.rowKey = held.rowKey) (hretry : held.retry ≤ out.retry) :
    checkResult family claimed out = .ok () := by
  have houtfamily : out.family = family := (congrArg Prod.fst hkey).trans (hfamily held hheld)
  have hsame : held.key = out.key := (congrArg Prod.snd hkey).symm
  rw [checkResult]
  cases hfound : claimed.reverse.find? fun c => c.key == out.key with
  | none =>
    have hnot := List.find?_eq_none.mp hfound held (List.mem_reverse.mpr hheld)
    simp [hsame] at hnot
  | some found =>
    have hfoundkey : found.key = out.key := by simpa using List.find?_some hfound
    have hmem : found ∈ claimed := List.mem_reverse.mp (List.mem_of_find?_eq_some hfound)
    have hfoundRow : found.rowKey = held.rowKey :=
      Prod.ext ((hfamily found hmem).trans (hfamily held hheld).symm) (hfoundkey.trans hsame.symm)
    obtain rfl : found = held := List.inj_on_of_nodup_map hclaimed.distinct hmem hheld hfoundRow
    dsimp only
    rw [if_neg (by simpa using houtfamily), (Status.checkChange_eq_ok_iff _ _).mpr
      (hclaimed.pending found hmem)]
    exact (checkRetry_eq_ok_iff _ _).mpr hretry

/-- A result is sound if all of its items are. -/
theorem checkResults_of_claimed {claimed results : List WorkItem} (hclaimed : Claimed claimed)
    (hfamily : ∀ item ∈ claimed, item.family = family)
    (h : ∀ out ∈ results, ∃ held ∈ claimed, out.rowKey = held.rowKey ∧ held.retry ≤ out.retry) :
    checkResults family claimed results = .ok () := by
  induction results with
  | nil => rfl
  | cons out rest ih =>
    obtain ⟨held, hheld, hkey, hretry⟩ := h out List.mem_cons_self
    rw [checkResults, checkResult_of_claimed hclaimed hfamily hheld hkey hretry]
    exact ih fun out' hout' => h out' (List.mem_cons_of_mem _ hout')

end Store

end ChainRelay
