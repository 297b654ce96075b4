import ChainRelay.Proofs.Queue.Handlers
import ChainRelay.Proofs.Worker.MessageBatch
import ChainRelay.Proofs.Worker.OutboundCourse
import Mathlib.Data.List.Flatten

/-!
# One transaction at a time

A transaction that may still succeed is never replaced. What is known about it is what the chain
answers in the same batch, when it is asked about the very hash that the item holds; and an item is
completed by such an answer and by nothing else.

## Main definitions

* `Fresh` — what both workers have in common in their work on an item with nothing in flight
* `Guarded` — the law for one turn
* `InFlightLaw` — the law for a batch

## Main results

* `Course.guarded` — the law follows from the four courses
* `Relayer.inFlightLaw` — both workers keep it
-/

namespace ChainRelay

variable {σ τ β : Type}

/-! ### Fresh work -/

/-- What is common to all fresh work on an item: it asks nothing about transactions, builds for this
item only, and completes nothing. `output` is the item that a result holds. -/
structure Fresh (output : β → Option WorkItem) (item : WorkItem) (events : List Event)
    (result : Except Halt β) : Prop where
  no_lookup : ∀ e ∈ events, e.isLookup = false
  own : ∀ item' answer, .built item' answer ∈ events → item' = item
  output : ∀ b out, result = .ok b → output b = some out →
    out.rowKey = item.rowKey ∧ (out.status = item.status ∨ out.status = .failed)

/-- The item that a decision holds. -/
def Decision.item? : Decision → Option WorkItem
  | leave => none
  | settle item => some item
  | submit attempt => some attempt.advanced

theorem MessageCourse.fresh {item : WorkItem} {events : List Event} {result : Except Halt Decision}
    (h : MessageCourse item events result) : Fresh Decision.item? item events result := by
  have houtput : ∀ d out, result = .ok d → d.item? = some out →
      out.rowKey = item.rowKey ∧ (out.status = item.status ∨ out.status = .failed) := by
    rintro d out rfl hout
    cases d with
    | leave => cases hout
    | settle item' =>
      cases hout
      exact h.settled
    | submit a =>
      cases hout
      obtain ⟨m, o, -, -, hd⟩ := h.of_submit
      obtain ⟨-, tx, -, rfl⟩ := BuildOutcome.decision?_eq_submit_iff.mp hd
      exact ⟨BuildOutcome.advancedBy_rowKey item m o,
        .inl (BuildOutcome.advancedBy_status item m o)⟩
  cases h with
  | givenUp _ asides _ =>
    refine ⟨fun e he => (asides e he).1, fun item' answer hbuilt => ?_, houtput⟩
    exact absurd (asides _ hbuilt) Event.IsAside.not_built
  | built _ _ _ asides _ =>
    refine ⟨fun e he => ?_, fun item' answer hbuilt => ?_, houtput⟩
    · rcases List.mem_cons.mp he with rfl | he
      · rfl
      · exact (asides e he).1
    · rcases List.mem_cons.mp hbuilt with hbuilt | hbuilt
      · cases hbuilt
        rfl
      · exact absurd (asides _ hbuilt) Event.IsAside.not_built

theorem OutboundCourse.fresh {item : WorkItem} {events : List Event}
    {result : Except Halt (Option WorkItem)} (h : OutboundCourse item events result) :
    Fresh id item events result := by
  cases h with
  | givenUp asides decided =>
    refine ⟨fun e he => (asides e he).1, fun item' answer hbuilt => ?_, fun b out hb hout => ?_⟩
    · exact absurd (asides _ hbuilt) Event.IsAside.not_built
    · cases (decided b hb).symm.trans hout
      exact ⟨rfl, .inr rfl⟩
  | unbuilt asides decided =>
    refine ⟨fun e he => ?_, fun item' answer hbuilt => ?_, fun b out hb hout => ?_⟩
    · rcases List.mem_append.mp he with he | he
      · exact (asides e (List.mem_append_left _ he)).1
      · rcases List.mem_cons.mp he with rfl | he
        · rfl
        · exact (asides e (List.mem_append_right _ he)).1
    · rcases List.mem_append.mp hbuilt with hbuilt | hbuilt
      · exact absurd (asides _ (List.mem_append_left _ hbuilt)) Event.IsAside.not_built
      · rcases List.mem_cons.mp hbuilt with hbuilt | hbuilt
        · cases hbuilt
          rfl
        · exact absurd (asides _ (List.mem_append_right _ hbuilt)) Event.IsAside.not_built
    · rcases decided b hb with hd | hd
      · cases hd.symm.trans hout
        exact ⟨rfl, .inl rfl⟩
      · cases hd.symm.trans hout
        exact ⟨rfl, .inr rfl⟩
  | sent asides _ decided =>
    refine ⟨fun e he => ?_, fun item' answer hbuilt => ?_, fun b out hb hout => ?_⟩
    · rcases List.mem_append.mp he with he | he
      · exact (asides e he).1
      · rcases List.mem_pair.mp he with rfl | rfl <;> rfl
    · rcases List.mem_append.mp hbuilt with hbuilt | hbuilt
      · exact absurd (asides _ hbuilt) Event.IsAside.not_built
      · rcases List.mem_pair.mp hbuilt with hbuilt | hbuilt <;> cases hbuilt
        rfl
    · obtain ⟨accepted, -, -, hd⟩ := (decided b).mp hb
      cases hd.symm.trans hout
      exact ⟨rfl, .inl rfl⟩

/-- A report at the end makes no difference. -/
theorem OutboundTurn.fresh {item : WorkItem} {events : List Event}
    {result : Except Halt (Option WorkItem)} (h : OutboundTurn item events result) :
    Fresh id item events result := by
  obtain ⟨main, report, ending, rfl, hasides, hmain, hending⟩ := h
  obtain ⟨hlookup, hown, houtput⟩ := hmain.fresh
  refine ⟨fun e he => ?_, fun item' answer hbuilt => ?_, fun b out hb hout => ?_⟩
  · rcases List.mem_append.mp he with he | he
    · exact hlookup e he
    · exact (hasides e he).1
  · rcases List.mem_append.mp hbuilt with hbuilt | hbuilt
    · exact hown item' answer hbuilt
    · exact absurd (hasides _ hbuilt) Event.IsAside.not_built
  · rcases hending with ⟨out', hended, hsame⟩ | ⟨-, hnone⟩
    · obtain rfl := Except.ok.inj (hsame.symm.trans hb)
      exact houtput out' out hended hout
    · rw [hnone b hb] at hout
      cases hout

/-! ### One turn -/

/-- The law for the turn of an item in a world. -/
structure Guarded (r : Relayer σ) (item : WorkItem) (w : World σ τ) (continues : Bool)
    (output : β → Option WorkItem) (events : List Event) (result : Except Halt β) : Prop where
  /-- The hash in flight is looked up first, and no other one at any time. -/
  lookup : ∀ txHash, item.txHash = some txHash → ∃ rest,
    events = .lookedUp txHash (r.sighting txHash w) :: rest ∧ ∀ e ∈ rest, e.isLookup = false
  no_lookup : item.txHash = none → ∀ e ∈ events, e.isLookup = false
  /-- Transactions are built for this item, and only if nothing stands in the way. -/
  build : ∀ item' answer, .built item' answer ∈ events → item' = item ∧
    ∀ txHash, item.txHash = some txHash →
      (r.sighting txHash w).Releases (r.age item txHash w) continues
  /-- What may still succeed is looked at, and that is all. -/
  waiting : ∀ txHash, item.txHash = some txHash →
    (r.sighting txHash w).Waiting (r.age item txHash w) →
    events = [.lookedUp txHash (r.sighting txHash w)] ∧
      ∃ b, result = .ok b ∧ output b = none
  own : ∀ b out, result = .ok b → output b = some out → out.rowKey = item.rowKey
  /-- The answer of the chain completes an item, and nothing else does. -/
  completed : item.status = .pending → ∀ b, result = .ok b →
    ((∃ out, output b = some out ∧ out.status = .success) ↔
      ∃ txHash, item.txHash = some txHash ∧ (r.sighting txHash w).Succeeded ∧ continues = false)

/-- What succeeded and was the last step does not stand back for another transaction. -/
theorem Sighting.Succeeded.not_releases {s : Sighting} {age : ℤ} (h : s.Succeeded) :
    ¬ s.Releases age false := by
  rintro (hs | ⟨hs, -⟩ | ⟨-, hs⟩)
  · exact h.not_failed hs
  · exact h.not_unsettled hs
  · cases hs

theorem Sighting.Succeeded.not_waiting {s : Sighting} {age : ℤ} (h : s.Succeeded) :
    ¬ s.Waiting age := by
  rintro (hs | ⟨hs, -⟩)
  · exact h.not_raised hs
  · exact h.not_unsettled hs

/-- The law for an item with something in flight: there is only one hash to speak of. -/
theorem Guarded.of_sent {r : Relayer σ} {item : WorkItem} {w : World σ τ} {continues : Bool}
    {output : β → Option WorkItem} {rest : List Event} {result : Except Halt β} {txHash : String}
    (sent : item.txHash = some txHash) (hlookup : ∀ e ∈ rest, e.isLookup = false)
    (hbuild : ∀ item' answer, .built item' answer ∈ rest → item' = item ∧
      (r.sighting txHash w).Releases (r.age item txHash w) continues)
    (hwaiting : (r.sighting txHash w).Waiting (r.age item txHash w) →
      rest = [] ∧ ∃ b, result = .ok b ∧ output b = none)
    (hown : ∀ b out, result = .ok b → output b = some out → out.rowKey = item.rowKey)
    (hcompleted : item.status = .pending → ∀ b, result = .ok b →
      ((∃ out, output b = some out ∧ out.status = .success) ↔
        (r.sighting txHash w).Succeeded ∧ continues = false)) :
    Guarded r item w continues output (.lookedUp txHash (r.sighting txHash w) :: rest) result where
  lookup := by
    intro txHash' h
    cases sent.symm.trans h
    exact ⟨rest, rfl, hlookup⟩
  no_lookup := by
    intro h
    cases sent.symm.trans h
  build := by
    intro item' answer hmem
    rcases List.mem_cons.mp hmem with h | hmem
    · cases h
    · obtain ⟨hitem, hreleases⟩ := hbuild item' answer hmem
      refine ⟨hitem, fun txHash' h => ?_⟩
      cases sent.symm.trans h
      exact hreleases
  waiting := by
    intro txHash' h hwait
    cases sent.symm.trans h
    obtain ⟨rfl, hb⟩ := hwaiting hwait
    exact ⟨rfl, hb⟩
  own := hown
  completed := by
    intro hpending b hb
    rw [hcompleted hpending b hb]
    constructor
    · rintro ⟨hsucceeded, hlast⟩
      exact ⟨txHash, sent, hsucceeded, hlast⟩
    · rintro ⟨txHash', h, hsucceeded, hlast⟩
      cases sent.symm.trans h
      exact ⟨hsucceeded, hlast⟩

/-- Fresh work does not complete a pending item. -/
theorem Fresh.not_completed {output : β → Option WorkItem} {item : WorkItem}
    {events : List Event} {result : Except Halt β} (h : Fresh output item events result)
    (hpending : item.status = .pending) {b : β} (hb : result = .ok b) :
    ¬ ∃ out, output b = some out ∧ out.status = .success := by
  rintro ⟨out, hout, hsuccess⟩
  rcases (h.output b out hb hout).2 with hstatus | hstatus
  · rw [hsuccess, hpending] at hstatus
    cases hstatus
  · rw [hsuccess] at hstatus
    cases hstatus

/-- The law for an item with nothing in flight. -/
theorem Fresh.guarded {r : Relayer σ} {item : WorkItem} {w : World σ τ} {continues : Bool}
    {output : β → Option WorkItem} {events : List Event} {result : Except Halt β}
    (unsent : item.txHash = none) (h : Fresh output item events result) :
    Guarded r item w continues output events result := by
  have hnone {txHash : String} (hsent : item.txHash = some txHash) : False := by
    rw [unsent] at hsent
    cases hsent
  refine ⟨fun _ hsent => (hnone hsent).elim, fun _ => h.no_lookup, fun item' answer hbuilt => ?_,
    fun _ hsent => (hnone hsent).elim, fun b out hb hout => (h.output b out hb hout).1,
    fun hpending b hb => ?_⟩
  · exact ⟨h.own item' answer hbuilt, fun _ hsent => (hnone hsent).elim⟩
  · refine iff_of_false (h.not_completed hpending hb) ?_
    rintro ⟨txHash, hsent, -⟩
    exact hnone hsent

/-- **The law follows from the courses.** -/
theorem Course.guarded {r : Relayer σ} {item : WorkItem} {w : World σ τ} {continues : Bool}
    {fresh : List Event → Except Halt β → Prop} {leave finish : β} {events : List Event}
    {result : Except Halt β} {output : β → Option WorkItem}
    (h : Course r item w continues fresh leave finish events result)
    (hfresh : ∀ events result, fresh events result → Fresh output item events result)
    (hleave : output leave = none)
    (hfinish : output finish = some { item with status := .success }) :
    Guarded r item w continues output events result := by
  cases h with
  | unsent unsent hrest => exact (hfresh _ _ hrest).guarded unsent
  | left sent waiting =>
    have hnothing : ∀ b out, (.ok leave : Except Halt β) = .ok b → output b ≠ some out := by
      intro b out hb hout
      cases hb
      rw [hleave] at hout
      cases hout
    refine Guarded.of_sent sent (by simp) (by simp) (fun _ => ⟨rfl, leave, rfl, hleave⟩)
      (fun b out hb hout => absurd hout (hnothing b out hb)) fun _ b hb => iff_of_false ?_ ?_
    · rintro ⟨out, hout, -⟩
      exact hnothing b out hb hout
    · rintro ⟨hsucceeded, -⟩
      exact hsucceeded.not_waiting waiting
  | finished sent succeeded last =>
    refine Guarded.of_sent sent (by simp) (by simp)
      (fun hwaiting => absurd hwaiting succeeded.not_waiting) (fun b out hb hout => ?_)
      fun _ b hb => iff_of_true ?_ ⟨succeeded, last⟩
    · cases hb
      cases hfinish.symm.trans hout
      rfl
    · cases hb
      exact ⟨_, hfinish, rfl⟩
  | renewed sent releases hrest =>
    have hwork := hfresh _ _ hrest
    refine Guarded.of_sent sent hwork.no_lookup
      (fun item' answer hbuilt => ⟨hwork.own item' answer hbuilt, releases⟩)
      (fun hwaiting => absurd releases hwaiting.not_releases)
      (fun b out hb hout => (hwork.output b out hb hout).1)
      fun hpending b hb => iff_of_false (hwork.not_completed hpending hb) ?_
    rintro ⟨hsucceeded, rfl⟩
    exact hsucceeded.not_releases releases

/-! ### A batch -/

/-- The law for the run of a batch that began in `w`. The batch was worked off in `turns`, and
`continues` says which items have steps to come. -/
structure InFlightLaw (r : Relayer σ) (continues : WorkItem → Bool) (items : List WorkItem)
    (w : World σ τ) (turns : List (Turn σ τ β)) (run : Except Halt (List WorkItem) × World σ τ) :
    Prop where
  /-- Items have their turns in order. -/
  order : turns.map Turn.item <+: items
  /-- Turns are all that is recorded, but for transactions that are sent at the end. Every one that
  is sent was built in a turn, and no build is sent twice. -/
  record : ∃ sends, run.2.trace = w.trace ++ (turns.flatMap Turn.events ++ sends) ∧
    (∀ e ∈ sends, ∃ transaction answer, e = .sent transaction answer) ∧
    List.Sublist ((turns.flatMap Turn.events ++ sends).filterMap Event.sent?)
      ((turns.flatMap Turn.events).filterMap Event.built?)
  store : run.2.store = w.store
  /-- The hash that an item holds is looked up first, and no other one at any time. -/
  lookup : ∀ t ∈ turns, ∀ txHash, t.item.txHash = some txHash → ∃ rest,
    t.events = .lookedUp txHash (r.sighting txHash t.before) :: rest ∧
      ∀ e ∈ rest, e.isLookup = false
  /-- A transaction is built in the turn of its item, and only if that lookup allows it. -/
  build : ∀ t ∈ turns, ∀ item answer, .built item answer ∈ t.events → item = t.item ∧
    ∀ txHash, t.item.txHash = some txHash →
      (r.sighting txHash t.before).Releases (r.age t.item txHash t.before) (continues t.item)
  /-- An item whose transaction may still succeed is looked at, and that is all: it is not returned,
  and a commit leaves its row alone. -/
  waiting : ∀ t ∈ turns, ∀ txHash, t.item.txHash = some txHash →
    (r.sighting txHash t.before).Waiting (r.age t.item txHash t.before) →
    t.events = [.lookedUp txHash (r.sighting txHash t.before)] ∧
      ∀ results, run.1 = .ok results → t.item.rowKey ∉ results.map WorkItem.rowKey ∧
        ∀ (s s' : Store) (family : Family) (claimed : List WorkItem) (now : Instant),
          s.commit family claimed results now = .ok s' →
          s'.row? t.item.rowKey = s.row? t.item.rowKey
  /-- A batch that ends with results has given each item its turn, and returns no other items. -/
  own : ∀ results, run.1 = .ok results → turns.map Turn.item = items ∧
    ∀ out ∈ results, ∃ t ∈ turns, out.rowKey = t.item.rowKey
  /-- The lookup of its own hash completes an item, and nothing else does. -/
  completed : ∀ results, run.1 = .ok results → ∀ t ∈ turns,
    ((∃ out ∈ results, out.rowKey = t.item.rowKey ∧ out.status = .success) ↔
      ∃ txHash, t.item.txHash = some txHash ∧ (r.sighting txHash t.before).Succeeded ∧
        continues t.item = false)

/-- From turns to the batch. A batch must return what its turns hold, but for handles and retry
counts, and all that they have completed. -/
theorem InFlightLaw.of_guarded {r : Relayer σ} {continues : WorkItem → Bool}
    {items : List WorkItem} {w w₀ : World σ τ} {work : WorkItem → Work σ τ β}
    {output : β → Option WorkItem} {run : Except Halt (List WorkItem) × World σ τ}
    {sends : List Event} (hclaimed : Claimed items)
    (hguarded : ∀ t ∈ Work.turns work items w₀,
      Guarded r t.item t.before (continues t.item) output t.events t.result)
    (later : w.Later run.2 ((Work.turns work items w₀).flatMap Turn.events ++ sends))
    (hsends : ∀ e ∈ sends, ∃ transaction answer, e = .sent transaction answer)
    (hbuilt : List.Sublist
      (((Work.turns work items w₀).flatMap Turn.events ++ sends).filterMap Event.sent?)
      (((Work.turns work items w₀).flatMap Turn.events).filterMap Event.built?))
    (hends : ∀ results, run.1 = .ok results →
      (Work.turns work items w₀).map Turn.item = items ∧
      (∀ t ∈ Work.turns work items w₀, ∃ b, t.result = .ok b) ∧
      (∀ out ∈ results, ∃ t ∈ Work.turns work items w₀, ∃ b held, t.result = .ok b ∧
        output b = some held ∧ out.rowKey = held.rowKey ∧ out.status = held.status) ∧
      ∀ t ∈ Work.turns work items w₀, ∀ b out, t.result = .ok b → output b = some out →
        out.status = .success → out ∈ results) :
    InFlightLaw r continues items w (Work.turns work items w₀) run := by
  -- a returned item comes from the turn of its row
  have returned {results : List WorkItem} (h : run.1 = .ok results) {out : WorkItem}
      (hout : out ∈ results) {t : Turn σ τ β} (ht : t ∈ Work.turns work items w₀)
      (hkey : out.rowKey = t.item.rowKey) :
      ∃ b held, t.result = .ok b ∧ output b = some held ∧ out.status = held.status := by
    obtain ⟨t', ht', b, held, hb, hheld, houtkey, hstatus⟩ := (hends results h).2.2.1 out hout
    have hsame : t' = t := Work.eq_of_rowKey_eq hclaimed.distinct ht' ht
      (((hguarded t' ht').own b held hb hheld).symm.trans (houtkey.symm.trans hkey))
    rw [← hsame]
    exact ⟨b, held, hb, hheld, hstatus⟩
  refine ⟨Work.turns_in_order work items w₀, ⟨sends, later.trace_eq, hsends, hbuilt⟩, ?_,
    fun t ht => (hguarded t ht).lookup, fun t ht => (hguarded t ht).build,
    fun t ht txHash hsent hwaiting => ?_, fun results h => ⟨(hends results h).1, ?_⟩,
    fun results h t ht => ?_⟩
  · obtain ⟨env, journal, hafter⟩ := later
    rw [hafter]
  · obtain ⟨hevents, b, hb, hnone⟩ := (hguarded t ht).waiting txHash hsent hwaiting
    refine ⟨hevents, fun results h => ?_⟩
    have hkey : t.item.rowKey ∉ results.map WorkItem.rowKey := by
      intro hmem
      obtain ⟨out, hout, hkey⟩ := List.mem_map.mp hmem
      obtain ⟨b', held, hb', hheld, -⟩ := returned h hout ht hkey
      cases hb.symm.trans hb'
      rw [hnone] at hheld
      cases hheld
    exact ⟨hkey, fun s s' family claimed now hcommit => Store.row?_commit hcommit hkey⟩
  · intro out hout
    obtain ⟨t, ht, b, held, hb, hheld, hkey, -⟩ := (hends results h).2.2.1 out hout
    exact ⟨t, ht, hkey.trans ((hguarded t ht).own b held hb hheld)⟩
  · have hpending : t.item.status = .pending :=
      hclaimed.pending t.item (Work.item_mem_of_mem_turns ht)
    obtain ⟨b, hb⟩ := (hends results h).2.1 t ht
    rw [← (hguarded t ht).completed hpending b hb]
    constructor
    · rintro ⟨out, hout, hkey, hsuccess⟩
      obtain ⟨b', held, hb', hheld, hstatus⟩ := returned h hout ht hkey
      cases hb.symm.trans hb'
      exact ⟨held, hheld, hstatus.symm.trans hsuccess⟩
    · rintro ⟨out, hout, hsuccess⟩
      exact ⟨out, (hends results h).2.2.2 t ht b out hb hout hsuccess,
        (hguarded t ht).own b out hb hout, hsuccess⟩

/-! ### What is sent was built -/

/-- What is sent for attempts is at most what was built for them. -/
theorem sent_sublist_attempts (attempts : List Attempt) (deliveries : List Delivery) :
    List.Sublist ((List.zipWith Attempt.delivered attempts deliveries).filterMap Event.sent?)
      (attempts.map Attempt.transaction) := by
  induction attempts generalizing deliveries with
  | nil => exact List.nil_sublist _
  | cons a rest ih =>
    cases deliveries with
    | nil => exact List.nil_sublist _
    | cons d deliveries =>
      rw [List.zipWith_cons_cons, List.map_cons,
        List.filterMap_cons_some (show (a.delivered d).sent? = some a.transaction from rfl)]
      exact (ih deliveries).cons_cons _

/-- Attempts are made of transactions that were built, each of its own. -/
theorem attempts_sublist_built {turns : List (Turn σ τ Decision)}
    (h : ∀ t ∈ turns, ∀ a, t.attempt? = some a → t.Builds a.transaction) :
    List.Sublist ((turns.filterMap Turn.attempt?).map Attempt.transaction)
      ((turns.flatMap Turn.events).filterMap Event.built?) := by
  rw [List.map_filterMap, List.filterMap_eq_flatMap_toList, List.filterMap_flatMap]
  refine List.Sublist.flatMap_right _ fun t ht => ?_
  cases ha : t.attempt? with
  | none => exact List.nil_sublist _
  | some a =>
    obtain ⟨o, hbuilt, -, htx⟩ := h t ht a ha
    rw [Option.map_some, Option.toList_some, List.singleton_sublist, List.mem_filterMap]
    exact ⟨_, hbuilt, htx⟩

/-- An outbound transaction is sent in the turn in which it was built. -/
theorem OutboundTurn.sent_sublist {item : WorkItem} {events : List Event}
    {result : Except Halt (Option WorkItem)} (h : OutboundTurn item events result) :
    List.Sublist (events.filterMap Event.sent?) (events.filterMap Event.built?) := by
  have hasides {events : List Event} (h : ∀ e ∈ events, e.IsAside) :
      events.filterMap Event.sent? = [] :=
    List.filterMap_eq_nil_iff.mpr fun e he => (h e he).sent?_eq
  obtain ⟨main, report, ending, rfl, hreport, hmain, -⟩ := h
  rw [List.filterMap_append, List.filterMap_append, hasides hreport, List.append_nil]
  refine List.Sublist.trans ?_ (List.sublist_append_left _ _)
  cases hmain with
  | givenUp asides _ =>
    rw [hasides asides]
    exact List.nil_sublist _
  | @unbuilt first rest answer _ asides _ =>
    have hfirst := hasides fun e he => asides e (List.mem_append_left _ he)
    have hrest := hasides fun e he => asides e (List.mem_append_right _ he)
    rw [List.filterMap_append, hfirst, List.filterMap_cons_none rfl, hrest]
    exact List.nil_sublist _
  | @sent first o transaction answer _ asides built _ =>
    have hsent : [Event.built item (.ok o), Event.sent transaction answer].filterMap Event.sent? =
        [transaction] := rfl
    have hbuilt : [Event.built item (.ok o), Event.sent transaction answer].filterMap Event.built? =
        [transaction] := by
      simp [Event.built?, built]
    rw [List.filterMap_append, List.filterMap_append, hasides asides, hsent, hbuilt]
    exact List.sublist_append_right _ _

/-- A lookup in front makes no difference. -/
theorem Course.sent_sublist {r : Relayer σ} {item : WorkItem} {w : World σ τ} {continues : Bool}
    {fresh : List Event → Except Halt β → Prop} {leave finish : β} {events : List Event}
    {result : Except Halt β} (h : Course r item w continues fresh leave finish events result)
    (hfresh : ∀ events result, fresh events result →
      List.Sublist (events.filterMap Event.sent?) (events.filterMap Event.built?)) :
    List.Sublist (events.filterMap Event.sent?) (events.filterMap Event.built?) := by
  cases h with
  | unsent _ h => exact hfresh _ _ h
  | left _ _ => exact List.nil_sublist _
  | finished _ _ _ => exact List.nil_sublist _
  | renewed _ _ h =>
    rw [List.filterMap_cons_none rfl, List.filterMap_cons_none rfl]
    exact hfresh _ _ h

/-! ### Both workers -/

namespace Relayer

/-- The law for messages. -/
theorem inFlightLaw_messages (r : Relayer σ) {items : List WorkItem} (hclaimed : Claimed items)
    (ordered : Bool) (w : World σ τ) :
    InFlightLaw r WorkItem.hasContinuation items w (r.messageTurns items w)
      (r.messageBatch ordered items w) := by
  obtain ⟨deliveries, later, -, hends⟩ := r.messageBatch_run ordered items w
  have hguarded : ∀ t ∈ r.messageTurns items w,
      Guarded r t.item t.before t.item.hasContinuation Decision.item? t.events t.result :=
    fun t ht => (course_of_mem_messageTurns ht).guarded (fun _ _ h => h.fresh) rfl rfl
  refine InFlightLaw.of_guarded hclaimed hguarded later ?_ ?_ fun results h => ?_
  · intro e he
    rw [← List.map_uncurry_zip_eq_zipWith] at he
    obtain ⟨⟨a, d⟩, -, rfl⟩ := List.mem_map.mp he
    exact ⟨a.transaction, d, rfl⟩
  · have hunsent : ((r.messageTurns items w).flatMap Turn.events).filterMap Event.sent? = [] := by
      refine List.filterMap_eq_nil_iff.mpr fun e he => ?_
      obtain ⟨t, ht, he⟩ := List.mem_flatMap.mp he
      exact (course_of_mem_messageTurns ht).sent?_eq e he
    change List.Sublist (List.filterMap Event.sent?
      ((r.messageTurns items w).flatMap Turn.events ++ _)) _
    rw [List.filterMap_append, hunsent, List.nil_append]
    refine (sent_sublist_attempts _ _).trans (attempts_sublist_built fun t ht a ha => ?_)
    exact (attempt_of_mem_messageTurns ht ha).1
  · obtain ⟨horder, hvalues, rfl, -⟩ := hends results h
    refine ⟨horder, hvalues, fun out hout => ?_, fun t ht d out hd hout hsuccess => ?_⟩
    · rcases List.mem_append.mp hout with hout | hout
      · obtain ⟨t, ht, hsettled⟩ := List.mem_filterMap.mp hout
        exact ⟨t, ht, _, out, Turn.settled?_eq_some_iff.mp hsettled, rfl, rfl, rfl⟩
      · rw [← List.map_uncurry_zip_eq_zipWith] at hout
        obtain ⟨⟨a, d⟩, hzip, rfl⟩ := List.mem_map.mp hout
        obtain ⟨t, ht, ha⟩ := List.mem_filterMap.mp (List.of_mem_zip hzip).1
        obtain ⟨txHash, retry, houtcome⟩ := a.outcome_eq d
        rw [Function.uncurry_apply_pair, houtcome]
        exact ⟨t, ht, _, a.advanced, Turn.attempt?_eq_some_iff.mp ha, rfl, rfl, rfl⟩
    · cases d with
      | leave => cases hout
      | settle out' =>
        cases hout
        exact List.mem_append_left _
          (List.mem_filterMap.mpr ⟨t, ht, Turn.settled?_eq_some_iff.mpr hd⟩)
      | submit a =>
        -- an attempt is as pending as the item that it was made for
        cases hout
        have hstatus := (attempt_of_mem_messageTurns ht (Turn.attempt?_eq_some_iff.mpr hd)).2.2.1
        have hmem : t.item ∈ items := Work.item_mem_of_mem_turns ht
        rw [hsuccess, hclaimed.pending t.item hmem] at hstatus
        cases hstatus

/-- A batch of outbound items records what its turns record. -/
theorem outboundBatch_later (r : Relayer σ) (items : List WorkItem) (w : World σ τ) :
    w.Later (r.outboundBatch items w).2
      ((Work.turns r.outboundItem items w).flatMap Turn.events) := by
  have hturns : w.Later ((items.mapM r.outboundItem) w).2
      ((Work.turns r.outboundItem items w).flatMap Turn.events) :=
    Work.mapM_later (fun item w => (r.outboundItem_course item w).imp fun _ h => h.1) items w
  rw [outboundBatch, Work.bind_apply]
  cases hmap : items.mapM r.outboundItem w with
  | mk result w' =>
    rw [hmap] at hturns
    cases result with
    | ok outs => exact hturns
    | error halt => exact hturns

/-- The law for outbound items. -/
theorem inFlightLaw_outbound (r : Relayer σ) {items : List WorkItem} (hclaimed : Claimed items)
    (w : World σ τ) :
    InFlightLaw r (fun _ => false) items w (Work.turns r.outboundItem items w)
      (r.outboundBatch items w) := by
  have hcourse : ∀ t ∈ Work.turns r.outboundItem items w,
      Course r t.item t.before false (OutboundTurn t.item) none
        (some { t.item with status := .success }) t.events t.result := fun t ht =>
    Work.holds_of_mem_turns
      (P := fun item w events result => Course r item w false (OutboundTurn item) none
        (some { item with status := .success }) events result)
      r.outboundItem_course ht
  have hguarded : ∀ t ∈ Work.turns r.outboundItem items w,
      Guarded r t.item t.before false id t.events t.result :=
    fun t ht => (hcourse t ht).guarded (fun _ _ h => h.fresh) rfl rfl
  have hlater : w.Later (r.outboundBatch items w).2
      ((Work.turns r.outboundItem items w).flatMap Turn.events ++ []) := by
    rw [List.append_nil]
    exact r.outboundBatch_later items w
  refine InFlightLaw.of_guarded hclaimed hguarded hlater (by simp) ?_ fun results h => ?_
  · rw [List.append_nil, List.filterMap_flatMap, List.filterMap_flatMap]
    exact List.Sublist.flatMap_right _ fun t ht =>
      (hcourse t ht).sent_sublist fun _ _ h => h.sent_sublist
  · obtain ⟨w', hrun⟩ : ∃ w', r.outboundBatch items w = (.ok results, w') := ⟨_, Prod.ext h rfl⟩
    obtain ⟨outs, w₁, hmap, hpure⟩ := Work.bind_apply_eq_ok hrun
    cases hpure
    have hvalues : ((items.mapM r.outboundItem) w).1 = .ok outs := by rw [hmap]
    refine ⟨(Work.turns_of_mapM hvalues).1, fun t ht => Work.result_of_mem_turns hvalues ht,
      fun out hout => ?_, fun t ht b out hb hout _ => ?_⟩
    · rw [Work.filterMap_of_mapM hvalues id] at hout
      obtain ⟨t, ht, hheld⟩ := List.mem_filterMap.mp hout
      obtain ⟨b, hvalue, hid⟩ := Option.bind_eq_some_iff.mp hheld
      exact ⟨t, ht, b, out, Turn.value?_eq_some_iff.mp hvalue, hid, rfl, rfl⟩
    · rw [Work.filterMap_of_mapM hvalues id]
      refine List.mem_filterMap.mpr ⟨t, ht, Option.bind_eq_some_iff.mpr ⟨b, ?_, hout⟩⟩
      exact Turn.value?_eq_some_iff.mpr hb

/-- **One transaction at a time.** Whatever chain, executors and hub do, both workers replace a
transaction only when the chain has just reported that very transaction failed, has not settled it
in 240 seconds, or has reported it successful as a step with another one to come; and they complete
an item exactly when its own transaction has just been reported successful as the last step. -/
theorem inFlightLaw (r : Relayer σ) {items : List WorkItem} (hclaimed : Claimed items)
    (ordered : Bool) (w : World σ τ) :
    InFlightLaw r WorkItem.hasContinuation items w (r.messageTurns items w)
      (r.messageBatch ordered items w) ∧
    InFlightLaw r (fun _ => false) items w (Work.turns r.outboundItem items w)
      (r.outboundBatch items w) :=
  ⟨r.inFlightLaw_messages hclaimed ordered w, r.inFlightLaw_outbound hclaimed w⟩

/-- Two messages: the chain does not know the transaction of the first one yet, and the second one
has none. -/
def unknownBatch : List WorkItem :=
  [{ WorkItem.shortMessage "first" with txHash := some "0x01" }, .shortMessage "second"]

/-- The first message is looked at and left, and a transaction is built and sent for the second. -/
theorem inFlightLaw_unknown :
    Claimed unknownBatch ∧
    InFlightLaw simulated WorkItem.hasContinuation unknownBatch (World.initial {} ())
      (simulated.messageTurns unknownBatch (World.initial {} ()))
      (simulated.messageBatch true unknownBatch (World.initial {} ())) := by
  have hclaimed : Claimed unknownBatch := ⟨by decide, by decide⟩
  exact ⟨hclaimed, (inFlightLaw simulated hclaimed true (World.initial {} ())).1⟩

/-! ### Calls of both workers -/

/-- A call that works on messages is a history of the queue. -/
theorem messageBatch_operates [Seconds τ] (r : Relayer σ) (ordered : Bool)
    (order : Work.BatchOrder) :
    (Work.processPending order (r.messageBatch ordered) : Work σ τ (List WorkItem)).Operates := by
  refine Work.processPending_operates order fun items => Work.Operates.of_store_eq fun w => ?_
  obtain ⟨deliveries, later, -⟩ := r.messageBatch_run ordered items w
  exact later.store_eq

/-- A call that works on outbound items is a history of the queue. -/
theorem outboundBatch_operates [Seconds τ] (r : Relayer σ) (order : Work.BatchOrder) :
    (Work.processPending order r.outboundBatch : Work σ τ (List WorkItem)).Operates := by
  refine Work.processPending_operates order fun items => Work.Operates.of_store_eq fun w => ?_
  exact (r.outboundBatch_later items w).store_eq

end Relayer

end ChainRelay
