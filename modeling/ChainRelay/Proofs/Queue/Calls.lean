import ChainRelay.Proofs.Queue.Rows
import ChainRelay.Proofs.World.Course
import ChainRelay.World.Queue

/-!
# One call of the queue

A call claims a batch, hands it to its handler and commits what the handler returns. Seen from
outside it does one of two things: it ends with results, and all of them were written; or it ends
without, and the rows are as the handler has left them.

## Main definitions

* `World.batch`, `World.handed` — what a call hands to its handler, and in which world
* `Work.BatchOrder.ending` — how a call ends whose handler was cut short

## Main results

* `Work.processPending_apply` — a call, by how its handler has ended
* `Work.processPending_eq_ok`, `Work.store_of_processPending_error` — all or nothing
-/

namespace ChainRelay

variable {σ τ : Type}

/-! ### Claim and release -/

namespace Store

variable {s s' : Store} {family : Family} {size : Int} {backoff : Backoff} {now later : Instant}

/-- Releasing a batch right after its claim leaves the queue as it was. -/
theorem release_claim (s : Store) (family : Family) (size : Int) (backoff : Backoff)
    (now : Instant) :
    (s.claim family size backoff now).2.release (s.claim family size backoff now).1 = s := by
  have hfree : ∀ key ∈ s.locked,
      key ∉ (s.claim family size backoff now).1.map WorkItem.rowKey := by
    intro key hkey hmem
    obtain ⟨item, hitem, rfl⟩ := List.mem_map.mp hmem
    exact (of_mem_claim hitem).2.2.1 hkey
  obtain ⟨keys, hkeys⟩ : ∃ keys,
      (s.claim family size backoff now).1.map WorkItem.rowKey = keys := ⟨_, rfl⟩
  have hclaim : (s.claim family size backoff now).2 = { s with locked := s.locked ++ keys } := by
    rw [← hkeys]
    rfl
  rw [hkeys] at hfree
  rw [hclaim, release, hkeys, List.filter_append, List.filter_eq_self.mpr,
    List.filter_eq_nil_iff.mpr, List.append_nil]
  · intro key hkey
    simpa using hkey
  · intro key hkey
    simpa using hfree key hkey

/-- A released batch locks nothing. -/
theorem locked_release_subset (s : Store) (items : List WorkItem) :
    (s.release items).locked ⊆ s.locked :=
  (List.filter_sublist).subset

/-- A row that can be claimed can still be claimed later, as long as nobody else has locked it. -/
theorem claimable_of_le {row : Row} (h : s.claimable family backoff now row = true)
    (hfree : row.item.rowKey ∉ s'.locked) (hle : now ≤ later) :
    s'.claimable family backoff later row = true := by
  simp only [claimable, waiting, Backoff.eligible, Bool.and_eq_true, Bool.not_eq_true',
    List.contains_eq_mem, decide_eq_false_iff_not, decide_eq_true_eq] at h ⊢
  refine ⟨⟨⟨h.1.1.1, hfree⟩, h.1.2⟩, ?_⟩
  have heligible := h.2
  -- a row without a time counts as written now
  cases hsince : row.item.updatedAt with
  | none =>
    rw [hsince, Option.getD_none] at heligible
    rw [Option.getD_none]
    grind
  | some since =>
    rw [hsince, Option.getD_some] at heligible
    rw [Option.getD_some]
    grind

theorem not_mem_locked_of_claimable {row : Row}
    (h : s.claimable family backoff now row = true) : row.item.rowKey ∉ s.locked := by
  simp only [claimable, waiting, Bool.and_eq_true, Bool.not_eq_true', List.contains_eq_mem,
    decide_eq_false_iff_not] at h
  exact h.1.1.2

theorem firstOf_of_nonneg {α : Type} {size : Int} (h : 0 ≤ size) (xs : List α) :
    firstOf size xs = xs.take size.toNat := if_pos h

/-- Rows are claimed in an order that is total. -/
theorem claimsBefore_total (now : Instant) (a b : Row) :
    (claimsBefore now a b || claimsBefore now b a) = true := by
  simp only [claimsBefore, Bool.or_eq_true, Bool.and_eq_true, decide_eq_true_eq, beq_iff_eq]
  grind

theorem claimsBefore_trans (now : Instant) (a b c : Row) (hab : claimsBefore now a b = true)
    (hbc : claimsBefore now b c = true) : claimsBefore now a c = true := by
  simp only [claimsBefore, Bool.or_eq_true, Bool.and_eq_true, decide_eq_true_eq, beq_iff_eq]
    at hab hbc ⊢
  grind

theorem mem_candidates {row : Row} : row ∈ s.candidates family backoff now ↔
    row ∈ s.rows ∧ s.claimable family backoff now row = true := by
  rw [candidates, List.mem_mergeSort, List.mem_filter]

theorem pairwise_candidates (s : Store) (family : Family) (backoff : Backoff) (now : Instant) :
    (s.candidates family backoff now).Pairwise fun a b => claimsBefore now a b = true :=
  List.pairwise_mergeSort (claimsBefore_trans now) (claimsBefore_total now) _

theorem claim_of_nonneg (s : Store) (family : Family) (hsize : 0 ≤ size) (backoff : Backoff)
    (now : Instant) : (s.claim family size backoff now).1 =
      ((s.candidates family backoff now).take size.toNat).map Row.item := by
  rw [← firstOf_of_nonneg hsize]
  rfl

/-- **Who is left out of a claim.** A row that can be claimed is claimed, unless the batch is full
of rows that come before it. -/
theorem claimed_or_behind (hsize : 0 ≤ size) {row : Row} (hrow : row ∈ s.rows)
    (hclaimable : s.claimable family backoff now row = true) :
    row.item ∈ (s.claim family size backoff now).1 ∨
      ((s.claim family size backoff now).1.length = size.toNat ∧
        ∀ item ∈ (s.claim family size backoff now).1,
          ∃ first ∈ s.rows, first.item = item ∧ claimsBefore now first row = true) := by
  have hclaim := s.claim_of_nonneg family hsize backoff now
  have hsorted := s.pairwise_candidates family backoff now
  have hcases := mem_candidates.mpr ⟨hrow, hclaimable⟩
  obtain ⟨candidates, hcandidates⟩ : ∃ candidates, s.candidates family backoff now = candidates :=
    ⟨_, rfl⟩
  rw [hcandidates] at hclaim hsorted hcases
  rw [hclaim]
  rw [← List.take_append_drop size.toNat candidates] at hcases hsorted
  rcases List.mem_append.mp hcases with htake | hdrop
  · exact .inl (List.mem_map_of_mem htake)
  · refine .inr ⟨?_, fun item hitem => ?_⟩
    · -- something is left after the first ones
      have hlength := List.length_pos_of_mem hdrop
      rw [List.length_drop] at hlength
      rw [List.length_map, List.length_take]
      omega
    · obtain ⟨first, hfirst, rfl⟩ := List.mem_map.mp hitem
      have hmem : first ∈ s.candidates family backoff now :=
        hcandidates ▸ List.mem_of_mem_take hfirst
      refine ⟨first, (mem_candidates.mp hmem).1, rfl, ?_⟩
      exact (List.pairwise_append.mp hsorted).2.2 first hfirst row hdrop

/-- Rows that can all be claimed and stand in the order of claims are claimed in their order. -/
theorem claim_of_ordered {size : Int}
    (hclaimable : ∀ row ∈ s.rows, s.claimable family backoff now row = true)
    (hordered : s.rows.Pairwise fun a b => claimsBefore now a b = true) :
    (s.claim family size backoff now).1 = (firstOf size s.rows).map Row.item := by
  have hcandidates : s.candidates family backoff now = s.rows := by
    rw [candidates, List.filter_eq_self.mpr hclaimable, List.mergeSort_of_pairwise hordered]
  rw [claim, hcandidates]

end Store

/-! ### What is handed over -/

/-- How a batch is worked off by the settings of its queue. -/
def QueueSettings.order (settings : QueueSettings) : Work.BatchOrder :=
  ⟨settings.family, settings.batchSize, settings.timeout, settings.backoff⟩

/-- The limits of all queues are small enough for a clock. -/
theorem QueueSettings.check_timeout (family : Family) :
    (QueueSettings.standard family).timeout.check = .ok () := by
  have hcheck : (60 : Quantity).check = .ok () := Quantity.check_eq_ok (by decide +kernel)
  cases family <;> exact hcheck

namespace World

variable [Seconds τ]

omit [Seconds τ] in
/-- The batch that a call claims. -/
def batch (w : World σ τ) (order : Work.BatchOrder) : List WorkItem :=
  (w.store.claim order.family order.size order.backoff w.wallNow).1

omit [Seconds τ] in
theorem batch_of_ordered {w : World σ τ} {order : Work.BatchOrder}
    (hclaimable : ∀ row ∈ w.store.rows,
      w.store.claimable order.family order.backoff w.wallNow row = true)
    (hordered : w.store.rows.Pairwise fun a b => Store.claimsBefore w.wallNow a b = true) :
    w.batch order = (Store.firstOf order.size w.store.rows).map Row.item :=
  Store.claim_of_ordered hclaimable hordered

/-- The world in which the handler of a call starts. -/
def handed (w : World σ τ) (order : Work.BatchOrder) : World σ τ :=
  let span : τ := Seconds.ofQuantity order.timeout
  { w with
    store := (w.store.claim order.family order.size order.backoff w.wallNow).2
    limits := w.limits ++ [if span ≤ Seconds.whole 0 then none else some (w.waited + span)] }

/-- Whether a call can start: the rests of all rows that wait can be counted back, and a clock can
show its limit. -/
def starts (w : World σ τ) (order : Work.BatchOrder) : Bool :=
  (w.store.checkRests order.family order.backoff w.wallNow).isOk && order.timeout.check.isOk

omit [Seconds τ] in
theorem starts_iff {w : World σ τ} {order : Work.BatchOrder} : w.starts order = true ↔
    w.store.checkRests order.family order.backoff w.wallNow = .ok () ∧
      order.timeout.check = .ok () := by
  have hok (check : Except Fault Unit) : check.isOk = true ↔ check = .ok () := by
    cases check <;> simp [Except.isOk, Except.toBool]
  rw [starts, Bool.and_eq_true, hok, hok]

end World

namespace Work

/-- How a call ends whose handler was cut short inside so many transactions: a limit that was
reached counts as one of the call, and so does a timeout that the handler met. -/
def BatchOrder.ending (order : BatchOrder) (depth : Nat) : Halt → Halt
  | .cancelled reached =>
    if reached = depth then .fault (.queueTimeout order.family order.timeout)
    else .cancelled reached
  | .fault (.timeout _) => .fault (.queueTimeout order.family order.timeout)
  | halt => halt

/-- The record of a commit. -/
def commitEvents (order : BatchOrder) (results : List WorkItem) : List Event :=
  (results.map WorkItem.key).map (fun key => Event.stored (order.family, key)) ++
    [.committed order.family (results.map WorkItem.key)]

/-- What a call makes of its rows, by how its handler has ended; `limits` are those around it. -/
def BatchOrder.conclude (order : BatchOrder) (claimed : List WorkItem) (limits : List (Limit τ)) :
    Except Halt (List WorkItem) × World σ τ → Except Halt (List WorkItem) × World σ τ
  | (.ok results, w) =>
    match w.store.commit order.family claimed results w.wallNow with
    | .ok s => (.ok results, { w with
        limits, store := s.release claimed, trace := w.trace ++ commitEvents order results })
    | .error fault => (.error (.fault fault), { w with limits, store := w.store.release claimed })
  | (.error halt, w) =>
    (.error (order.ending limits.length halt), { w with limits, store := w.store.release claimed })

/-- What becomes of a result under the limit of a transaction inside so many others. -/
def afterLimit {α : Type} (depth : Nat) : Except Halt α → Except Halt (Option α)
  | .ok a => .ok (some a)
  | .error (.cancelled reached) =>
    if reached = depth then .ok none else .error (.cancelled reached)
  | .error halt => .error halt

variable [Seconds τ] {order : BatchOrder} {handler : List WorkItem → Work σ τ (List WorkItem)}
  {w w' : World σ τ}

/-- Work under a limit, by how the work has ended. -/
theorem withTimeout_apply {α : Type} {work : Work σ τ α} {seconds : Quantity} {w w₁ : World σ τ}
    {result : Except Halt α} (hcheck : seconds.check = .ok ())
    (hrun : work { w with limits := w.limits ++ [if (Seconds.ofQuantity seconds : τ) ≤
      Seconds.whole 0 then none else some (w.waited + Seconds.ofQuantity seconds)] } =
        (result, w₁)) :
    withTimeout seconds work w =
      (afterLimit w.limits.length result, { w₁ with limits := w.limits }) := by
  rw [withTimeout, hcheck]
  dsimp only
  rw [hrun]
  match result with
  | .ok a => rfl
  | .error (.fault fault) => rfl
  | .error (.cancelled depth) =>
    dsimp only [afterLimit]
    split <;> rfl
  | .error .endless => rfl

/-- **A call**, by how its handler has ended. -/
theorem processPending_apply (order : BatchOrder)
    (handler : List WorkItem → Work σ τ (List WorkItem)) (w : World σ τ)
    (hrests : w.store.checkRests order.family order.backoff w.wallNow = .ok ())
    (htimeout : order.timeout.check = .ok ()) :
    processPending order handler w = order.conclude (w.batch order) w.limits
      (handler (w.batch order) (w.handed order)) := by
  obtain ⟨claimed, hclaimed⟩ : ∃ claimed, claimed = { w with
      store := (w.store.claim order.family order.size order.backoff w.wallNow).2 } := ⟨_, rfl⟩
  have hclaim : claimBatch order w = (.ok (w.batch order), claimed) := by
    rw [claimBatch, hrests, hclaimed]
    rfl
  rw [processPending, bind_apply_of_ok hclaim, andFinally]
  cases hrun : handler (w.batch order) (w.handed order) with
  | mk result w₁ =>
    obtain ⟨w₂, hw₂⟩ : ∃ w₂, w₂ = { w₁ with limits := w.limits } := ⟨_, rfl⟩
    -- the handler ran under the limit of the call
    have hlimited : withTimeout order.timeout (handler (w.batch order)) claimed =
        (afterLimit w.limits.length result, w₂) := by
      rw [hclaimed, hw₂]
      exact withTimeout_apply htimeout hrun
    rw [handleBatch, bind_apply, attempt, hlimited]
    cases result with
    | ok results =>
      have hcommit : w₂.store.commit order.family (w.batch order) results w₂.wallNow =
          w₁.store.commit order.family (w.batch order) results w₁.wallNow := by
        rw [hw₂]
        rfl
      dsimp only [afterLimit, BatchOrder.conclude]
      rw [bind_apply, commitBatch, hcommit, hw₂]
      cases w₁.store.commit order.family (w.batch order) results w₁.wallNow with
      | error fault => rfl
      | ok s =>
        rw [commitEvents, ← List.append_assoc]
        rfl
    | error halt =>
      rw [hw₂]
      cases halt with
      | fault fault => cases fault <;> rfl
      | cancelled depth =>
        dsimp only [afterLimit, BatchOrder.conclude, BatchOrder.ending]
        by_cases hdepth : depth = w.limits.length
        · rw [if_pos hdepth, if_pos hdepth]
          rfl
        · rw [if_neg hdepth, if_neg hdepth]
          rfl
      | endless => rfl

/-- A call that cannot start changes nothing: a rest cannot be counted back, or no clock can show
its limit. -/
theorem processPending_unstarted (order : BatchOrder)
    (handler : List WorkItem → Work σ τ (List WorkItem)) (w : World σ τ)
    (h : w.store.checkRests order.family order.backoff w.wallNow ≠ .ok () ∨
      order.timeout.check ≠ .ok ()) :
    ∃ fault, processPending order handler w = (.error (.fault fault), w) := by
  cases hrests : w.store.checkRests order.family order.backoff w.wallNow with
  | error fault =>
    refine ⟨fault, ?_⟩
    rw [processPending, bind_apply, claimBatch, hrests]
  | ok _ =>
    cases htimeout : order.timeout.check with
    | ok _ =>
      rw [hrests, htimeout] at h
      exact absurd rfl (h.elim id id)
    | error fault =>
      have hclaim : claimBatch order w = (.ok (w.batch order), { w with
          store := (w.store.claim order.family order.size order.backoff w.wallNow).2 }) := by
        rw [claimBatch, hrests]
        rfl
      obtain ⟨held, hheld⟩ : ∃ held,
          held = (w.store.claim order.family order.size order.backoff w.wallNow).2 := ⟨_, rfl⟩
      have hreleased : held.release (w.batch order) = w.store := by
        rw [hheld]
        exact Store.release_claim _ _ _ _ _
      obtain ⟨late, hlate⟩ : ∃ late, withTimeout order.timeout (handler (w.batch order))
          { w with store := held } = (.error (.fault late), { w with store := held }) := by
        refine ⟨fault, ?_⟩
        rw [withTimeout, htimeout]
      rw [processPending, bind_apply_of_ok hclaim, ← hheld, andFinally, handleBatch, bind_apply,
        attempt, hlate]
      have hfailed (f : Fault) : andFinally (fail f) (releaseBatch (w.batch order))
          { w with store := held } = ((.error (.fault f), w) :
            Except Halt (List WorkItem) × World σ τ) := by
        change ((.error (.fault f), { w with store := held.release (w.batch order) }) :
          Except Halt (List WorkItem) × World σ τ) = _
        rw [hreleased]
      cases late <;> exact ⟨_, hfailed _⟩

/-- A call that ends with results has written all of them. -/
theorem processPending_eq_ok {results : List WorkItem}
    (h : processPending order handler w = (.ok results, w')) :
    ∃ w₁ s, handler (w.batch order) (w.handed order) = (.ok results, w₁) ∧
      w₁.store.commit order.family (w.batch order) results w₁.wallNow = .ok s ∧
      w' = { w₁ with
        limits := w.limits, store := s.release (w.batch order)
        trace := w₁.trace ++ commitEvents order results } := by
  by_cases hstart : w.store.checkRests order.family order.backoff w.wallNow = .ok () ∧
      order.timeout.check = .ok ()
  · rw [processPending_apply order handler w hstart.1 hstart.2] at h
    cases hrun : handler (w.batch order) (w.handed order) with
    | mk result w₁ =>
      rw [hrun] at h
      cases result with
      | error halt => cases h
      | ok out =>
        rw [BatchOrder.conclude] at h
        cases hcommit : w₁.store.commit order.family (w.batch order) out w₁.wallNow with
        | error fault =>
          rw [hcommit] at h
          cases h
        | ok s =>
          rw [hcommit] at h
          cases h
          exact ⟨w₁, s, rfl, hcommit, rfl⟩
  · obtain ⟨fault, hfault⟩ := processPending_unstarted order handler w (not_and_or.mp hstart)
    rw [hfault] at h
    cases h

/-- **Nothing by halves.** A call that ends without results has changed nothing on the queue, if its
handler leaves the queue alone. -/
theorem store_of_processPending_error {halt : Halt}
    (hkeeps : ∀ items w, (handler items w).2.store = w.store)
    (h : (processPending order handler w).1 = .error halt) :
    (processPending order handler w).2.store = w.store := by
  by_cases hstart : w.store.checkRests order.family order.backoff w.wallNow = .ok () ∧
      order.timeout.check = .ok ()
  · rw [processPending_apply order handler w hstart.1 hstart.2] at h ⊢
    have hstore := hkeeps (w.batch order) (w.handed order)
    have hreleased : (w.handed order).store.release (w.batch order) = w.store :=
      Store.release_claim _ _ _ _ _
    cases hrun : handler (w.batch order) (w.handed order) with
    | mk result w₁ =>
      rw [hrun] at h hstore
      rw [← hstore] at hreleased
      cases result with
      | error halt' => exact hreleased
      | ok out =>
        rw [BatchOrder.conclude] at h ⊢
        cases hcommit : w₁.store.commit order.family (w.batch order) out w₁.wallNow with
        | error fault => exact hreleased
        | ok s =>
          rw [hcommit] at h
          cases h
  · obtain ⟨fault, hfault⟩ := processPending_unstarted order handler w (not_and_or.mp hstart)
    rw [hfault]

/-- A call leaves the cache alone if its handler does. -/
theorem cache_of_processPending (hkeeps : ∀ items w, (handler items w).2.cache = w.cache) :
    (processPending order handler w).2.cache = w.cache := by
  by_cases hstart : w.store.checkRests order.family order.backoff w.wallNow = .ok () ∧
      order.timeout.check = .ok ()
  · have hsame : (handler (w.batch order) (w.handed order)).2.cache = w.cache := hkeeps _ _
    rw [processPending_apply order handler w hstart.1 hstart.2]
    cases hrun : handler (w.batch order) (w.handed order) with
    | mk result w₁ =>
      rw [hrun] at hsame
      cases result with
      | error halt => exact hsame
      | ok out =>
        rw [BatchOrder.conclude]
        cases w₁.store.commit order.family (w.batch order) out w₁.wallNow <;> exact hsame
  · obtain ⟨fault, hfault⟩ := processPending_unstarted order handler w (not_and_or.mp hstart)
    rw [hfault]

/-- A call that returns nothing has left all rows as they were, and holds none of them. -/
theorem rows_of_processPending_nil (hkeeps : ∀ items w, (handler items w).2.store = w.store)
    (h : processPending order handler w = (.ok [], w')) :
    w'.store.rows = w.store.rows ∧ w'.store.locked = w.store.locked := by
  obtain ⟨w₁, s, hrun, hcommit, rfl⟩ := processPending_eq_ok h
  have hstore := hkeeps (w.batch order) (w.handed order)
  rw [hrun] at hstore
  have hreleased : (w.handed order).store.release (w.batch order) = w.store :=
    Store.release_claim _ _ _ _ _
  cases hcommit
  rw [← hstore] at hreleased
  have hrows := congrArg Store.rows hreleased
  have hlocked := congrArg Store.locked hreleased
  exact ⟨hrows, hlocked⟩

/-- A row that a call has not claimed is left as it is, and is not locked by the call. -/
theorem row_of_processPending {results : List WorkItem}
    (hkeeps : ∀ items w, (handler items w).2.store = w.store)
    (h : processPending order handler w = (.ok results, w')) {row : Row} (hrow : row ∈ w.store.rows)
    (hfree : row.item.rowKey ∉ w.store.locked)
    (hkey : row.item.rowKey ∉ (w.batch order).map WorkItem.rowKey) :
    row ∈ w'.store.rows ∧ row.item.rowKey ∉ w'.store.locked := by
  obtain ⟨w₁, s, hrun, hcommit, rfl⟩ := processPending_eq_ok h
  have hstore : w₁.store =
      (w.store.claim order.family order.size order.backoff w.wallNow).2 := by
    have hsame := hkeeps (w.batch order) (w.handed order)
    rw [hrun] at hsame
    exact hsame
  obtain ⟨hcheck, hrows, hlocked, -⟩ := Store.commit_eq_ok hcommit
  rw [hstore] at hrows hlocked
  constructor
  · have hkept : row.afterResults order.family w₁.wallNow results = row := by
      refine Row.afterResults_of_not_mem fun item hitem hsame => hkey ?_
      obtain ⟨-, held, hheld, hheldkey, -⟩ := Store.of_checkResults hcheck item hitem
      rw [hsame, ← hheldkey, ← (Store.of_mem_claim hheld).1]
      exact List.mem_map_of_mem hheld
    change row ∈ s.rows
    rw [hrows, ← hkept]
    exact List.mem_map_of_mem hrow
  · intro hmem
    have hmem := Store.locked_release_subset s (w.batch order) hmem
    rw [hlocked] at hmem
    exact (List.mem_append.mp hmem).elim hfree hkey

end Work

end ChainRelay
