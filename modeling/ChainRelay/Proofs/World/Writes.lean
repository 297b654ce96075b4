import ChainRelay.Proofs.Queue.Rows
import ChainRelay.Proofs.World.Course
import ChainRelay.World.Queue

/-!
# Work that writes

Pollers write work items and cursors and ask nothing while they do. What they write goes to one
place of the world each, and the rest of it stays as it was.

## Main results

* `Work.upsertAll_apply` — items that are written one after the other all have a row then
* `Work.lookup_putCursor` — a cursor that was set has its value, and the others keep theirs
-/

namespace ChainRelay.Work

variable {σ τ α β : Type}

/-! ### Work items -/

/-- Written items have rows, no row is lost, and there is still one row for a key. -/
theorem upsertAll_apply (items : List WorkItem) (w : World σ τ) :
    ∃ answers store trace, upsertAll items w = (.ok answers, { w with store, trace }) ∧
      w.store.keys ⊆ store.keys ∧ (∀ item ∈ items, item.rowKey ∈ store.keys) ∧
      (w.store.keys.Nodup → store.keys.Nodup) := by
  induction items generalizing w with
  | nil => exact ⟨[], w.store, w.trace, rfl, List.Subset.refl _, by simp, id⟩
  | cons item rest ih =>
    obtain ⟨answer, store₁, trace₁, hfirst, hstore₁⟩ : ∃ answer store₁ trace₁,
        upsert item w = (.ok answer, { w with store := store₁, trace := trace₁ }) ∧
          store₁ = (w.store.upsert w.wallNow item).2 := ⟨_, _, _, rfl, rfl⟩
    have hkeys := w.store.keys_upsert w.wallNow item
    rw [← hstore₁] at hkeys
    obtain ⟨hkept, hwritten, hdistinct⟩ : w.store.keys ⊆ store₁.keys ∧
        item.rowKey ∈ store₁.keys ∧ (w.store.keys.Nodup → store₁.keys.Nodup) := by
      rw [hkeys]
      split
      · rename_i hknown
        exact ⟨List.Subset.refl _, hknown, id⟩
      · rename_i hnew
        refine ⟨List.subset_append_left _ _, by simp, fun h => ?_⟩
        exact List.Nodup.append h (List.nodup_singleton _) (by simpa using hnew)
    obtain ⟨answers, store, trace, hrest, hkept', hwritten', hdistinct'⟩ :=
      ih { w with store := store₁, trace := trace₁ }
    refine ⟨answer :: answers, store, trace, ?_, List.Subset.trans hkept hkept', ?_,
      fun h => hdistinct' (hdistinct h)⟩
    · rw [upsertAll, List.mapM_cons, bind_apply_of_ok hfirst]
      exact bind_apply_of_ok hrest
    · exact List.forall_mem_cons.mpr ⟨hkept' hwritten, hwritten'⟩

/-! ### Cursors -/

/-- A cursor that was set has its value, and the others keep theirs. -/
theorem lookup_putCursor (cursors : List (String × String)) (name value other : String) :
    (putCursor cursors name value).lookup other =
      if other = name then some value else cursors.lookup other := by
  have miss {a b : String} (h : a ≠ b) : (a == b) = false := beq_eq_false_iff_ne.mpr h
  induction cursors with
  | nil => by_cases h : other = name <;> simp [putCursor, List.lookup_cons, h, miss]
  | cons head rest ih =>
    obtain ⟨n, v⟩ := head
    by_cases hn : n = name
    · subst hn
      by_cases h : other = n <;> simp [putCursor, List.lookup_cons, h, miss]
    · by_cases h : other = n
      · simp [putCursor, hn, h]
      · simp [putCursor, List.lookup_cons, hn, miss h, ih]

theorem setCursor_apply (name value : String) (w : World σ τ) :
    (setCursor name value : Work σ τ Unit) w = (.ok (), { w with
      cursors := putCursor w.cursors name value
      trace := w.trace ++ [.cursorSet name value] }) := rfl

end ChainRelay.Work
