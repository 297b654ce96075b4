import ChainRelay.Proofs.Queue.Rows
import ChainRelay.Proofs.World.Course
import Mathlib.Data.List.Nodup

/-!
# The turns of a batch

A batch is worked off item by item, each item finding the world as the ones before it have left it.
The turns say which item met which world and what came of it, so that a statement about one item in
any world becomes a statement about every item of a batch.

## Main definitions

* `Turn` — an item with the worlds before and after it and its result
* `turns work items w` — the turns of a batch; the first item without a value has the last turn

## Main results

* `apply_of_mem_turns`, `holds_of_mem_turns` — a turn is a run of `work`
* `mapM_later` — the record of a batch is the record of its turns, in order
* `turns_of_mapM`, `filterMap_of_mapM` — of a batch that ends with values
-/

namespace ChainRelay

variable {σ τ β : Type}

/-- The turn of an item in a batch. -/
structure Turn (σ τ β : Type) where
  item : WorkItem
  before : World σ τ
  result : Except Halt β
  after : World σ τ

namespace Turn

/-- What was recorded in a turn. -/
def events (t : Turn σ τ β) : List Event := t.after.trace.drop t.before.trace.length

/-- The value that a turn ended with. -/
def value? (t : Turn σ τ β) : Option β := t.result.toOption

theorem value?_eq_some_iff {t : Turn σ τ β} {b : β} : t.value? = some b ↔ t.result = .ok b := by
  rw [value?]
  cases t.result <;> simp [Except.toOption]

end Turn

/-- Of values with distinct keys one has the key of any of them. -/
theorem filter_eq_singleton {α κ : Type} [BEq κ] [LawfulBEq κ] {f : α → κ} {as : List α} {a : α}
    (h : (as.map f).Nodup) (ha : a ∈ as) : as.filter (fun b => f b == f a) = [a] := by
  induction as with
  | nil => cases ha
  | cons b rest ih =>
    obtain ⟨hb, hrest⟩ := List.nodup_cons.mp h
    rcases List.mem_cons.mp ha with rfl | ha
    · have hnone : rest.filter (fun b => f b == f a) = [] := by
        refine List.filter_eq_nil_iff.mpr fun c hc heq => hb ?_
        rw [← eq_of_beq heq]
        exact List.mem_map_of_mem hc
      rw [List.filter_cons_of_pos (by simp), hnone]
    · rw [List.filter_cons_of_neg, ih hrest ha]
      intro heq
      rw [eq_of_beq heq] at hb
      exact hb (List.mem_map_of_mem ha)

namespace Work

/-- The turns of a batch, up to and with the first one that does not end with a value. -/
def turns (work : WorkItem → Work σ τ β) : List WorkItem → World σ τ → List (Turn σ τ β)
  | [], _ => []
  | item :: rest, w =>
    match work item w with
    | (.ok b, w') => ⟨item, w, .ok b, w'⟩ :: turns work rest w'
    | (.error halt, w') => [⟨item, w, .error halt, w'⟩]

variable {work : WorkItem → Work σ τ β} {items : List WorkItem} {w : World σ τ}

theorem turns_cons_of_ok {item : WorkItem} {rest : List WorkItem} {b : β} {w' : World σ τ}
    (h : work item w = (.ok b, w')) :
    turns work (item :: rest) w = ⟨item, w, .ok b, w'⟩ :: turns work rest w' := by
  rw [turns, h]

theorem turns_cons_of_error {item : WorkItem} {rest : List WorkItem} {halt : Halt}
    {w' : World σ τ} (h : work item w = (.error halt, w')) :
    turns work (item :: rest) w = [⟨item, w, .error halt, w'⟩] := by
  rw [turns, h]

/-- A turn is a run of the work on its item. -/
theorem apply_of_mem_turns {t : Turn σ τ β} (ht : t ∈ turns work items w) :
    work t.item t.before = (t.result, t.after) := by
  induction items generalizing w with
  | nil => simp [turns] at ht
  | cons item rest ih =>
    cases hrun : work item w with
    | mk result w' =>
      cases result with
      | ok b =>
        rw [turns_cons_of_ok hrun] at ht
        rcases List.mem_cons.mp ht with rfl | ht
        · exact hrun
        · exact ih ht
      | error halt =>
        rw [turns_cons_of_error hrun, List.mem_singleton] at ht
        subst ht
        exact hrun

/-- What holds of every run holds of every turn. -/
theorem holds_of_mem_turns {P : WorkItem → World σ τ → List Event → Except Halt β → Prop}
    (h : ∀ item w, ∃ events, w.Later (work item w).2 events ∧ P item w events (work item w).1)
    {t : Turn σ τ β} (ht : t ∈ turns work items w) : P t.item t.before t.events t.result := by
  obtain ⟨events, later, holds⟩ := h t.item t.before
  rw [apply_of_mem_turns ht] at later holds
  rw [Turn.events, later.drop_trace]
  exact holds

/-- Turns come in the order of the batch. -/
theorem turns_in_order (work : WorkItem → Work σ τ β) (items : List WorkItem)
    (w : World σ τ) :
    (turns work items w).map Turn.item <+: items := by
  induction items generalizing w with
  | nil => exact List.nil_prefix
  | cons item rest ih =>
    cases hrun : work item w with
    | mk result w' =>
      cases result with
      | ok b =>
        rw [turns_cons_of_ok hrun, List.map_cons]
        exact (List.prefix_cons_inj item).mpr (ih w')
      | error halt =>
        rw [turns_cons_of_error hrun]
        exact ⟨rest, rfl⟩

/-- What has a turn is in the batch. -/
theorem item_mem_of_mem_turns {t : Turn σ τ β} (ht : t ∈ turns work items w) : t.item ∈ items :=
  (turns_in_order work items w).subset (List.mem_map_of_mem ht)

/-- In a claimed batch no two turns are about the same row. -/
theorem nodup_rowKey_turns (hitems : (items.map WorkItem.rowKey).Nodup) :
    ((turns work items w).map fun t => t.item.rowKey).Nodup := by
  have hsublist := (turns_in_order work items w).sublist.map WorkItem.rowKey
  rw [List.map_map] at hsublist
  exact hitems.sublist hsublist

theorem eq_of_rowKey_eq (hitems : (items.map WorkItem.rowKey).Nodup) {t t' : Turn σ τ β}
    (ht : t ∈ turns work items w) (ht' : t' ∈ turns work items w)
    (h : t.item.rowKey = t'.item.rowKey) : t = t' :=
  List.inj_on_of_nodup_map (nodup_rowKey_turns hitems) ht ht' h

/-- **The record of a batch.** It is made of the records of the turns, in order, whether or not the
batch ends with values. -/
theorem mapM_later (h : ∀ item (w : World σ τ), ∃ events, w.Later (work item w).2 events)
    (items : List WorkItem) (w : World σ τ) :
    w.Later ((items.mapM work) w).2 ((turns work items w).flatMap Turn.events) := by
  induction items generalizing w with
  | nil => exact World.Later.refl w
  | cons item rest ih =>
    obtain ⟨events, later⟩ := h item w
    rw [List.mapM_cons, bind_apply]
    cases hrun : work item w with
    | mk result w' =>
      rw [hrun] at later
      cases result with
      | ok b =>
        rw [turns_cons_of_ok hrun, List.flatMap_cons, Turn.events, later.drop_trace]
        refine later.trans ?_
        have hrest := ih w'
        dsimp only
        rw [bind_apply]
        cases hmap : rest.mapM work w' with
        | mk results w'' =>
          rw [hmap] at hrest
          cases results <;> exact hrest
      | error halt =>
        rw [turns_cons_of_error hrun, List.flatMap_singleton, Turn.events, later.drop_trace]
        exact later

/-- A batch that ends with values gave every item its turn, and the values are those of the
turns. -/
theorem turns_of_mapM {bs : List β} (h : ((items.mapM work) w).1 = .ok bs) :
    (turns work items w).map Turn.item = items ∧
      (turns work items w).map Turn.result = bs.map .ok := by
  induction items generalizing w bs with
  | nil =>
    cases h
    exact ⟨rfl, rfl⟩
  | cons item rest ih =>
    obtain ⟨w'', hbs⟩ : ∃ w'', ((item :: rest).mapM work) w = (.ok bs, w'') :=
      ⟨_, Prod.ext h rfl⟩
    rw [List.mapM_cons] at hbs
    obtain ⟨b, w', hrun, hbs⟩ := bind_apply_eq_ok hbs
    obtain ⟨bs', w₃, hrest, hbs⟩ := bind_apply_eq_ok hbs
    cases hbs
    obtain ⟨hitems, hresults⟩ := ih (congrArg Prod.fst hrest)
    rw [turns_cons_of_ok hrun]
    exact ⟨by rw [List.map_cons, hitems], by rw [List.map_cons, hresults, List.map_cons]⟩

/-- No turn of such a batch was cut short. -/
theorem result_of_mem_turns {bs : List β} (h : ((items.mapM work) w).1 = .ok bs) {t : Turn σ τ β}
    (ht : t ∈ turns work items w) : ∃ b, t.result = .ok b := by
  have hmem : t.result ∈ bs.map Except.ok := by
    rw [← (turns_of_mapM h).2]
    exact List.mem_map_of_mem ht
  obtain ⟨b, -, hb⟩ := List.mem_map.mp hmem
  exact ⟨b, hb.symm⟩

/-- A batch ends with values if every turn does. -/
theorem mapM_of_turns (h : ∀ t ∈ turns work items w, ∃ b, t.result = .ok b) :
    ∃ bs, ((items.mapM work) w).1 = .ok bs := by
  induction items generalizing w with
  | nil => exact ⟨[], rfl⟩
  | cons item rest ih =>
    cases hrun : work item w with
    | mk result w' =>
      cases result with
      | error halt =>
        rw [turns_cons_of_error hrun, List.forall_mem_singleton] at h
        obtain ⟨b, hb⟩ := h
        cases hb
      | ok b =>
        rw [turns_cons_of_ok hrun, List.forall_mem_cons] at h
        obtain ⟨bs, hbs⟩ := ih h.2
        rw [List.mapM_cons, bind_apply_of_ok hrun, bind_apply]
        cases hrest : rest.mapM work w' with
        | mk values w'' =>
          rw [hrest] at hbs
          cases hbs
          exact ⟨b :: bs, rfl⟩

/-- What is read off the values of a batch can be read off its turns. -/
theorem filterMap_of_mapM {γ : Type} {bs : List β} (h : ((items.mapM work) w).1 = .ok bs)
    (f : β → Option γ) :
    bs.filterMap f = (turns work items w).filterMap fun t => t.value?.bind f := by
  have hresults := (turns_of_mapM h).2
  have hvalue : (fun t : Turn σ τ β => t.value?.bind f) =
      (fun result => result.toOption.bind f) ∘ Turn.result := rfl
  have hok : (fun result : Except Halt β => result.toOption.bind f) ∘ Except.ok = f := rfl
  rw [hvalue, ← List.filterMap_map, hresults, List.filterMap_map, hok]

end Work

end ChainRelay
