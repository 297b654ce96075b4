import ChainRelay.Proofs.Queue.Rows
import ChainRelay.WorkItem.Codec
import Mathlib.Data.List.Induction
import Mathlib.Logic.Function.Basic

/-!
# What a commit leaves in the rows

A commit writes some columns of each row that it names. What it leaves in them can be told without a
word about where the rows are kept: each item of the result replaces the columns of its row, one
after the other.

## Main definitions

* `Columns`, `Contents` — the columns of rows, by their keys
* `Store.contents` — those of a store in memory
* `FinishesLast` — results in which nothing comes after an item that finishes its row

## Main results

* `Store.contents_writeResults` — what a store in memory writes
* `Store.invariant_of_checkResults` — what it refuses
* `FinishesLast.putAll_eq` — what has finished its row stays
* `FinishesLast.exists_of_not` — otherwise there is a first item that comes too late
-/

namespace ChainRelay

/-! ### Columns -/

/-- The columns of a row that a batch writes. -/
structure Columns where
  status : Status
  retry : Int
  txHash : Option String
  kind : String
  payload : Json

/-- The columns of an item. -/
def WorkItem.columns (item : WorkItem) : Columns :=
  ⟨item.status, item.retry, item.txHash, item.payload.kind, item.payload.toJson⟩

/-- The columns of all rows, by their keys. -/
abbrev Contents := RowKey → Option Columns

namespace Contents

variable {t : Contents} {family : Family} {results : List WorkItem}

/-- There is a row, and it is pending. -/
def IsPending (t : Contents) (key : RowKey) : Prop := (t key).map Columns.status = some .pending

instance (t : Contents) (key : RowKey) : Decidable (t.IsPending key) :=
  inferInstanceAs (Decidable (_ = _))

/-- The columns of one row are written. -/
def put (t : Contents) (key : RowKey) (new : Columns) : Contents :=
  Function.update t key (some new)

/-- Items are written, one after the other. -/
def putAll (t : Contents) (family : Family) (results : List WorkItem) : Contents :=
  results.foldl (fun t item => t.put (family, item.key) item.columns) t

theorem put_self (t : Contents) (key : RowKey) (new : Columns) : t.put key new key = some new :=
  Function.update_self ..

theorem put_of_ne {key key' : RowKey} (h : key' ≠ key) (new : Columns) :
    t.put key new key' = t key' :=
  Function.update_of_ne h _ _

theorem putAll_cons (item : WorkItem) (rest : List WorkItem) :
    t.putAll family (item :: rest) = (t.put (family, item.key) item.columns).putAll family rest :=
  rfl

theorem putAll_of_not_mem {key : String} (h : ∀ item ∈ results, item.key ≠ key) :
    t.putAll family results (family, key) = t (family, key) := by
  induction results generalizing t with
  | nil => rfl
  | cons item rest ih =>
    have hne : (family, key) ≠ (family, item.key) := fun heq =>
      h item List.mem_cons_self (Prod.mk.inj heq).2.symm
    rw [putAll_cons, ih fun item' hitem => h item' (List.mem_cons_of_mem _ hitem), put_of_ne hne]

end Contents

/-! ### The store in memory -/

theorem Status.invariant_of_checkChange {source target : Status} {fault : Fault}
    (h : source.checkChange target = .error fault) : ∃ message, fault = .invariant message := by
  rw [checkChange] at h
  split at h
  · cases h
  · cases h
    exact ⟨_, rfl⟩

theorem invariant_of_checkRetry {before after : Int} {fault : Fault}
    (h : checkRetry before after = .error fault) : ∃ message, fault = .invariant message := by
  rw [checkRetry] at h
  split at h
  · cases h
    exact ⟨_, rfl⟩
  · cases h

/-- The columns of the rows of a store. -/
def Store.contents (s : Store) : Contents := fun key => (s.row? key).map fun r => r.item.columns

namespace Store

variable {s : Store} {family : Family} {now : Instant}

theorem row?_writeResult (s : Store) (item : WorkItem) (key : RowKey) :
    (s.writeResult family now item).row? key =
      (s.row? key).map fun r => r.afterResult family now item :=
  find?_map_rows (fun r => Row.afterResult_rowKey r item) s.rows key

/-- An item that has a row is written to it. -/
theorem contents_writeResult {item : WorkItem} {row : Row}
    (hrow : s.row? (family, item.key) = some row) :
    (s.writeResult family now item).contents =
      s.contents.put (family, item.key) item.columns := by
  funext key
  rw [contents, row?_writeResult]
  by_cases hkey : key = (family, item.key)
  · have hsame : (row.item.rowKey == (family, item.key)) = true :=
      beq_iff_eq.mpr (rowKey_of_row? hrow)
    rw [hkey, Contents.put_self, hrow, Option.map_some, Option.map_some, Row.afterResult,
      if_pos hsame]
    rfl
  · rw [Contents.put_of_ne hkey, contents]
    cases hother : s.row? key with
    | none => rfl
    | some r =>
      have hne : r.item.rowKey ≠ (family, item.key) := by rwa [rowKey_of_row? hother]
      rw [Option.map_some, Option.map_some, Option.map_some, Row.afterResult_of_ne hne]

/-- Results that have rows are written to them, one after the other. -/
theorem contents_writeResults {results : List WorkItem}
    (hrows : ∀ item ∈ results, ∃ row, s.row? (family, item.key) = some row) :
    (s.writeResults family now results).contents = s.contents.putAll family results := by
  induction results generalizing s with
  | nil => rfl
  | cons item rest ih =>
    obtain ⟨row, hrow⟩ := hrows item List.mem_cons_self
    rw [writeResults_cons, Contents.putAll_cons, ← contents_writeResult hrow]
    refine ih fun item' hitem => ?_
    obtain ⟨row', hrow'⟩ := hrows item' (List.mem_cons_of_mem _ hitem)
    exact ⟨_, by rw [row?_writeResult, hrow', Option.map_some]⟩

/-- What a check refuses is a broken invariant. -/
theorem invariant_of_checkResult {claimed : List WorkItem} {item : WorkItem} {fault : Fault}
    (h : checkResult family claimed item = .error fault) :
    ∃ message, fault = .invariant message := by
  rw [checkResult] at h
  split at h
  · cases h
    exact ⟨_, rfl⟩
  · rename_i held _
    split at h
    · cases h
      exact ⟨_, rfl⟩
    · cases hchange : held.status.checkChange item.status with
      | error refused =>
        rw [hchange] at h
        cases h
        exact Status.invariant_of_checkChange hchange
      | ok _ =>
        rw [hchange] at h
        exact invariant_of_checkRetry h

theorem invariant_of_checkResults {claimed results : List WorkItem} {fault : Fault}
    (h : checkResults family claimed results = .error fault) :
    ∃ message, fault = .invariant message := by
  induction results with
  | nil => cases h
  | cons item rest ih =>
    rw [checkResults] at h
    cases hcheck : checkResult family claimed item with
    | ok _ =>
      rw [hcheck] at h
      exact ih h
    | error refused =>
      rw [hcheck] at h
      cases h
      exact invariant_of_checkResult hcheck

end Store

/-! ### Results that finish rows -/

/-- No item of a result comes after another one that has finished the same row. -/
def FinishesLast (results : List WorkItem) : Prop :=
  results.Pairwise fun earlier later => earlier.key = later.key → earlier.status = .pending

namespace FinishesLast

variable {results : List WorkItem}

/-- Results of different rows finish each of them last. -/
theorem of_nodup (h : (results.map WorkItem.key).Nodup) : FinishesLast results :=
  (List.pairwise_map.mp h).imp fun hne heq => absurd heq hne

/-- What has finished its row stays. -/
theorem putAll_eq {t : Contents} {family : Family} (h : FinishesLast results) {item : WorkItem}
    (hitem : item ∈ results) (hfinished : item.status ≠ .pending) :
    t.putAll family results (family, item.key) = some item.columns := by
  induction results generalizing t with
  | nil => cases hitem
  | cons first rest ih =>
    obtain ⟨hfirst, hrest⟩ := List.pairwise_cons.mp h
    rw [Contents.putAll_cons]
    rcases List.mem_cons.mp hitem with rfl | hitem
    · rw [Contents.putAll_of_not_mem fun later hlater heq =>
        hfinished (hfirst later hlater heq.symm)]
      exact Contents.put_self _ _ _
    · exact ih hrest hitem

/-- Otherwise there is a first item that comes too late. -/
theorem exists_of_not (h : ¬ FinishesLast results) :
    ∃ front item rest, results = front ++ item :: rest ∧ FinishesLast front ∧
      ∃ earlier ∈ front, earlier.key = item.key ∧ earlier.status ≠ .pending := by
  induction results using List.reverseRecOn with
  | nil => exact absurd List.Pairwise.nil h
  | append_singleton init last ih =>
    by_cases hinit : FinishesLast init
    · obtain ⟨earlier, hearlier, hkey, hfinished⟩ :
          ∃ earlier ∈ init, earlier.key = last.key ∧ earlier.status ≠ .pending := by
        by_contra hnone
        refine h (List.pairwise_append.mpr ⟨hinit, List.pairwise_singleton _ _, ?_⟩)
        intro earlier hearlier later hlater hkey
        rw [List.mem_singleton.mp hlater] at hkey
        by_contra hfinished
        exact hnone ⟨earlier, hearlier, hkey, hfinished⟩
      exact ⟨init, last, [], rfl, hinit, earlier, hearlier, hkey, hfinished⟩
    · obtain ⟨front, item, rest, rfl, hfront, hlate⟩ := ih hinit
      exact ⟨front, item, rest ++ [last], by simp, hfront, hlate⟩

end FinishesLast

end ChainRelay
