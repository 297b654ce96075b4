import ChainRelay.Proofs.Queue.Calls
import ChainRelay.Proofs.Queue.Operations
import Mathlib.Data.Prod.Lex

/-!
# Which rows a call is handed

A call hands to its handler the first rows that are ready. Which rows are ready depends on each row
alone and on what others hold; which of them come first depends on an order in which no two rows are
equal. So there is only one way to choose, and it does not depend on how the choice is made.

## The contract

Rows are told apart by their numbers, which are those of the order in which they were created. That
is what makes the order strict, and every history of the queue keeps it.

## Main definitions

* `Store.Ready` — what makes a row ready
* `Row.rank` — the place of a row in the order of claims
* `Store.Schedule` — all rows that are ready, in their order
* `Store.Selection` — the first of them, and nothing else

## Main results

* `Store.Schedule.unique`, `Store.schedule_candidates` — there is exactly one schedule
* `Store.selection_claim` — a claim takes its first rows
* `Work.processPending_selection` — and a call hands them to its handler
-/

namespace ChainRelay

/-- The place of a row in the order of claims: by its retries, then by the time at which it was
created, then by its number. -/
def Row.rank (now : Instant) (r : Row) : ℤ ×ₗ ℤ ×ₗ ℕ :=
  toLex (r.item.retry, toLex (r.item.createdAt.getD now, r.number))

theorem Row.number_eq_of_rank_eq {now : Instant} {a b : Row} (h : a.rank now = b.rank now) :
    a.number = b.number :=
  congrArg Prod.snd (toLex_inj.mp (congrArg Prod.snd (toLex_inj.mp h)))

namespace Store

variable {s : Store} {family : Family} {backoff : Backoff} {now : Instant} {size : Int}

/-- There is one row for a key, and rows are numbered in the order in which they were created. -/
structure Indexed (s : Store) : Prop where
  keys : (s.rows.map fun r => r.item.rowKey).Nodup
  numbers : (s.rows.map Row.number).Pairwise (· < ·)

theorem Indexed.eq_of_number_eq (hs : s.Indexed) {a b : Row} (ha : a ∈ s.rows) (hb : b ∈ s.rows)
    (h : a.number = b.number) : a = b :=
  List.inj_on_of_nodup_map (hs.numbers.imp fun hlt => hlt.ne) ha hb h

/-- What makes a row ready to be handed out. -/
structure Ready (s : Store) (family : Family) (backoff : Backoff) (now : Instant) (r : Row) :
    Prop where
  family : r.item.family = family
  pending : r.item.status = .pending
  free : r.item.rowKey ∉ s.locked
  /-- It has rested since it was last written. -/
  rested : r.item.updatedAt.getD now ≤ now - backoff.delay r.item.retry

theorem claimable_iff {r : Row} :
    s.claimable family backoff now r = true ↔ s.Ready family backoff now r := by
  simp only [claimable, waiting, Backoff.eligible, Bool.and_eq_true, beq_iff_eq, Bool.not_eq_true',
    List.contains_eq_mem, decide_eq_false_iff_not, decide_eq_true_eq]
  constructor
  · rintro ⟨⟨⟨hfamily, hfree⟩, hpending⟩, hrested⟩
    exact ⟨hfamily, hpending, hfree, hrested⟩
  · intro h
    exact ⟨⟨⟨h.family, h.free⟩, h.pending⟩, h.rested⟩

/-- Rows are claimed in the order of their ranks. -/
theorem claimsBefore_iff {a b : Row} :
    claimsBefore now a b = true ↔ a.rank now ≤ b.rank now := by
  simp only [claimsBefore, Row.rank, Prod.Lex.toLex_le_toLex, Bool.or_eq_true, Bool.and_eq_true,
    decide_eq_true_eq, beq_iff_eq]

theorem ready_of_mem_claim {item : WorkItem} (h : item ∈ (s.claim family size backoff now).1) :
    ∃ r ∈ s.rows, r.item = item ∧ s.Ready family backoff now r := by
  obtain ⟨n, htake⟩ := firstOf_eq_take size (s.candidates family backoff now)
  have hmem : item ∈ (firstOf size (s.candidates family backoff now)).map Row.item := h
  rw [htake] at hmem
  obtain ⟨r, hr, rfl⟩ := List.mem_map.mp hmem
  obtain ⟨hrow, hclaimable⟩ := mem_candidates.mp (List.mem_of_mem_take hr)
  exact ⟨r, hrow, rfl, claimable_iff.mp hclaimable⟩

/-! ### Schedules -/

/-- All rows that are ready, in the order of their ranks. -/
structure Schedule (s : Store) (family : Family) (backoff : Backoff) (now : Instant)
    (rows : List Row) : Prop where
  complete : ∀ r, r ∈ rows ↔ r ∈ s.rows ∧ s.Ready family backoff now r
  ordered : rows.Pairwise fun a b => a.rank now < b.rank now

namespace Schedule

variable {rows rows' : List Row}

/-- No row stands in it twice. -/
theorem nodup (h : s.Schedule family backoff now rows) : rows.Nodup :=
  h.ordered.imp fun hlt heq => absurd (heq ▸ hlt) (lt_irrefl _)

/-- **There is no other one.** -/
theorem unique (h : s.Schedule family backoff now rows)
    (h' : s.Schedule family backoff now rows') : rows' = rows := by
  have hperm : rows'.Perm rows :=
    (List.perm_ext_iff_of_nodup h'.nodup h.nodup).mpr fun r =>
      (h'.complete r).trans (h.complete r).symm
  exact hperm.eq_of_pairwise (fun a b _ _ hab hba => absurd hba (lt_asymm hab)) h'.ordered h.ordered

end Schedule

/-- The rows that can be claimed are a schedule once they are sorted. -/
theorem Schedule.of_perm {rows : List Row}
    (hperm : rows.Perm (s.rows.filter (s.claimable family backoff now)))
    (hordered : rows.Pairwise fun a b => a.rank now < b.rank now) :
    s.Schedule family backoff now rows where
  complete r := by rw [hperm.mem_iff, List.mem_filter, claimable_iff]
  ordered := hordered

/-- The candidates of a claim are a schedule. -/
theorem schedule_candidates (hs : s.Indexed) (family : Family) (backoff : Backoff)
    (now : Instant) : s.Schedule family backoff now (s.candidates family backoff now) := by
  have hperm : (s.candidates family backoff now).Perm
      (s.rows.filter (s.claimable family backoff now)) := List.mergeSort_perm _ _
  have hnumbers : ((s.candidates family backoff now).map Row.number).Nodup := by
    rw [(hperm.map Row.number).nodup_iff]
    exact (hs.numbers.imp fun h => h.ne).sublist (List.filter_sublist.map _)
  have hranks := pairwise_candidates s family backoff now
  refine Schedule.of_perm hperm ?_
  -- rows of one rank have one number
  refine (hranks.and (List.pairwise_map.mp hnumbers)).imp fun ⟨hle, hne⟩ => ?_
  exact lt_of_le_of_ne (claimsBefore_iff.mp hle) fun heq => hne (Row.number_eq_of_rank_eq heq)

/-! ### Selections -/

/-- What is handed out are the first so many of all rows that are ready, in the order of their
ranks. -/
structure Selection (s : Store) (family : Family) (size : Int) (backoff : Backoff) (now : Instant)
    (handed : List WorkItem) : Prop where
  exists_schedule : ∃ rows, s.Schedule family backoff now rows
  first : ∀ rows, s.Schedule family backoff now rows →
    handed = (rows.take size.toNat).map Row.item
  /-- Nothing else is handed out, -/
  ready : ∀ item ∈ handed, ∃ r ∈ s.rows, r.item = item ∧ s.Ready family backoff now r
  /-- nothing is handed out twice, -/
  distinct : (handed.map WorkItem.rowKey).Nodup
  /-- and a row that is ready is left out only behind as many others as are wanted. -/
  behind : ∀ r ∈ s.rows, s.Ready family backoff now r → r.item ∉ handed →
    handed.length = size.toNat ∧
      ∀ item ∈ handed, ∃ r' ∈ s.rows, r'.item = item ∧ r'.rank now < r.rank now

/-- **Claims are exact.** -/
theorem selection_claim (hs : s.Indexed) (hsize : 0 ≤ size) :
    s.Selection family size backoff now (s.claim family size backoff now).1 := by
  have hschedule := schedule_candidates hs family backoff now
  have hclaim := s.claim_of_nonneg family hsize backoff now
  refine ⟨⟨_, hschedule⟩, fun rows h => ?_, fun item hitem => ready_of_mem_claim hitem,
    (claimed_claim hs.keys).distinct, fun r hr hready hleft => ?_⟩
  · rw [hclaim, h.unique hschedule]
  · obtain ⟨hfull, hbehind⟩ :=
      (claimed_or_behind hsize hr (claimable_iff.mpr hready)).resolve_left hleft
    refine ⟨hfull, fun item hitem => ?_⟩
    obtain ⟨first, hfirst, hitemeq, hbefore⟩ := hbehind item hitem
    refine ⟨first, hfirst, hitemeq,
      lt_of_le_of_ne (claimsBefore_iff.mp hbefore) fun heq => hleft ?_⟩
    -- a row of the same rank would be the same row
    rw [← hs.eq_of_number_eq hfirst hr (Row.number_eq_of_rank_eq heq), hitemeq]
    exact hitem

end Store

/-- What holds between operations tells rows apart. -/
theorem Queue.Sound.indexed {q : Queue} (h : q.Sound) : q.store.Indexed where
  keys := h.keys
  numbers := by
    rw [h.numbers]
    exact List.pairwise_lt_range

/-! ### Calls -/

/-- The rests of all rows that wait can be counted back if that of each one can. -/
theorem Store.checkRests_eq_ok_iff {s : Store} {family : Family} {backoff : Backoff}
    {now : Instant} : s.checkRests family backoff now = .ok () ↔
      ∀ r ∈ s.rows, s.waiting family r = true → backoff.check r.item.retry now = .ok () := by
  have hall (rows : List Row) : (rows.forM fun r => backoff.check r.item.retry now) = .ok () ↔
      ∀ r ∈ rows, backoff.check r.item.retry now = .ok () := by
    induction rows with
    | nil => exact iff_of_true rfl fun r hr => absurd hr List.not_mem_nil
    | cons r rest ih =>
      change ((backoff.check r.item.retry now) >>= fun _ =>
        rest.forM fun r => backoff.check r.item.retry now) = .ok () ↔ _
      rw [List.forall_mem_cons, ← ih]
      cases backoff.check r.item.retry now with
      | error fault => simp [bind, Except.bind]
      | ok _ => simp [bind, Except.bind]
  rw [checkRests, hall]
  simp only [List.mem_filter, and_imp]

namespace Work

variable {σ τ : Type} [Seconds τ]

/-- Whom a call works on. -/
structure Selects (order : BatchOrder) (w : World σ τ) : Prop where
  /-- It starts unless its limit is beyond all clocks, or the rest of a row that waits. -/
  starts_iff : w.starts order = true ↔ order.timeout.check = .ok () ∧
    ∀ r ∈ w.store.rows, w.store.waiting order.family r = true →
      order.backoff.check r.item.retry w.wallNow = .ok ()
  /-- A call that starts depends on its handler only through what that makes of the selection. -/
  handed : w.starts order = true → ∀ handler, processPending order handler w =
    order.conclude (w.batch order) w.limits (handler (w.batch order) (w.handed order))
  /-- One that does not start fails and changes nothing. -/
  unstarted : w.starts order = false → ∀ handler,
    ∃ fault, processPending order handler w = (.error (.fault fault), w)
  selection :
    w.store.Selection order.family order.size order.backoff w.wallNow (w.batch order)

/-- **Whom a call works on.** On every store and at every time, a call hands to its handler the
first so many of the rows that are ready. -/
theorem processPending_selection (order : BatchOrder) (hsize : 0 ≤ order.size) (w : World σ τ)
    (hw : w.store.Indexed) : Selects order w where
  starts_iff := by rw [World.starts_iff, Store.checkRests_eq_ok_iff, and_comm]
  handed hstarts handler := by
    obtain ⟨hrests, htimeout⟩ := World.starts_iff.mp hstarts
    exact processPending_apply order handler w hrests htimeout
  unstarted hstarts handler := by
    refine processPending_unstarted order handler w (not_and_or.mp fun hboth => ?_)
    rw [World.starts_iff.mpr hboth] at hstarts
    cases hstarts
  selection := Store.selection_claim hw hsize

end Work

/-! ### A batch of three -/

/-- A transaction that was tried so many times. -/
def triedItem (key : String) (created retry : Int) : WorkItem where
  family := .crossChainTransaction
  key := key
  payload := .crossChain key
  retry := retry
  createdAt := some created
  updatedAt := some created

/-- Four of them, in the order in which they are written. -/
def triedItems : List WorkItem :=
  [triedItem "0x00" 0 1, triedItem "0x01" 2 0, triedItem "0x02" 1 0, triedItem "0x03" 2 0]

/-- The queue on which they were written. -/
def triedQueue : Queue := Queue.run {} (triedItems.map (Operation.upsert 2))

/-- A world with this queue, nine seconds later. -/
def triedWorld : World Unit Rat :=
  { World.initial () 0 with store := triedQueue.store, wall := 9000002 }

/-- How three of them are worked off. -/
def triedOrder : Work.BatchOrder :=
  { (QueueSettings.standard .crossChainTransaction).order with size := 3 }

/-- The one that was tried before is left out, and among the others age decides, and then the order
in which they were written. -/
theorem processPending_selects_tried : 0 ≤ triedOrder.size ∧ triedWorld.store.Indexed ∧
    Work.Selects triedOrder triedWorld ∧
    (triedWorld.batch triedOrder).map WorkItem.key = ["0x02", "0x01", "0x03"] := by
  have hsize : 0 ≤ triedOrder.size := by decide
  have hindexed : triedWorld.store.Indexed := (Queue.run_sound Queue.sound_empty _).indexed
  have hselects := Work.processPending_selection triedOrder hsize triedWorld hindexed
  have hschedule : triedWorld.store.Schedule triedOrder.family triedOrder.backoff triedWorld.wallNow
      [⟨triedItem "0x02" 1 0, 2⟩, ⟨triedItem "0x01" 2 0, 1⟩, ⟨triedItem "0x03" 2 0, 3⟩,
        ⟨triedItem "0x00" 0 1, 0⟩] := by
    refine Store.Schedule.of_perm ?_ (by decide +kernel)
    have hready : triedWorld.store.rows.filter
        (triedWorld.store.claimable triedOrder.family triedOrder.backoff triedWorld.wallNow) =
          [⟨triedItem "0x00" 0 1, 0⟩, ⟨triedItem "0x01" 2 0, 1⟩, ⟨triedItem "0x02" 1 0, 2⟩,
            ⟨triedItem "0x03" 2 0, 3⟩] := by rfl
    rw [hready]
    exact (List.Perm.swap _ _ _).trans (List.perm_append_singleton _ [_, _, _])
  refine ⟨hsize, hindexed, hselects, ?_⟩
  rw [hselects.selection.first _ hschedule]
  rfl

end ChainRelay
