import ChainRelay.Proofs.Queue.Calls
import ChainRelay.Proofs.Worker.Exclusivity
import ChainRelay.Worker.Jobs

/-!
# The rounds of a drain

A drain works off batch after batch until one of them advances nothing. Items that are handed over
and not returned stay where they are in the order of claims, so a batch that is full of them hides
everything behind it: the drain ends there.

## The contract

Of the rows that are ready when a drain starts, those that it never hands over stand behind the last
batch, which was full, and all of which was left alone. If the last batch was not full there are no
such rows. Time may pass during the drain; a row that was ready stays so.

## Main definitions

* `Drain.rounds` — the batches of a drain with the worlds in which they were claimed
* `Drained` — what a drain owes to the rows that were ready

## Main results

* `Drain.runFrom_eq_of_idle` — the rounds are those of the drain
* `Relayer.queueDrain_drained` — the law for the queues of all families
* `Relayer.queueDrain_passes_over` — ten transactions that wait hide one that is done
-/

namespace ChainRelay

variable {σ τ : Type}

/-- A round of a drain: the world in which its batch was claimed, and how it ended. -/
structure Round (σ τ : Type) where
  before : World σ τ
  result : Except Halt (List WorkItem)
  after : World σ τ

namespace Round

/-- How many items a round has advanced. -/
def advanced (round : Round σ τ) : Nat :=
  match round.result with
  | .ok results => results.length
  | .error _ => 0

end Round

namespace Drain

variable [Seconds τ]

omit [Seconds τ] in
/-- How the batches of a drain are worked off. -/
def order (d : Drain σ τ) : Work.BatchOrder := d.settings.order

/-- The rounds of a drain with so many left, after `done` rounds. The first one that advances
nothing or fails is the last one. -/
def roundsFrom (d : Drain σ τ) (started : τ) : Nat → Nat → World σ τ → List (Round σ τ)
  | 0, _, _ => []
  | left + 1, done, w =>
    if done ≠ 0 && d.late started w.monoNow then []
    else
      match Work.processPending d.order d.handler w with
      | (.error halt, w') => [⟨w, .error halt, w'⟩]
      | (.ok results, w') =>
        ⟨w, .ok results, w'⟩ ::
          if results.length = 0 then [] else roundsFrom d started left (done + 1) w'

/-- The rounds of a drain. -/
def rounds (d : Drain σ τ) (w : World σ τ) : List (Round σ τ) :=
  d.roundsFrom w.monoNow d.maxBatches.toNat 0 w

variable {d : Drain σ τ} {started : τ} {left done : Nat} {w : World σ τ} {last : Round σ τ}

theorem once_apply (d : Drain σ τ) (w : World σ τ) :
    d.once w =
      ((Work.processPending d.order d.handler w).1.map List.length,
        (Work.processPending d.order d.handler w).2) := by
  change (Work.processPending d.order d.handler >>= fun results => pure results.length) w = _
  rw [Work.bind_apply]
  cases Work.processPending d.order d.handler w with
  | mk result w' => cases result <;> rfl

/-- A drain that may go on starts with a call. -/
theorem roundsFrom_succ (d : Drain σ τ) (started : τ) (left done : Nat) (w : World σ τ) :
    (d.roundsFrom started (left + 1) done w = [] ∧
      (done ≠ 0 && d.late started w.monoNow) = true) ∨
    ((done ≠ 0 && d.late started w.monoNow) = false ∧
      ((∃ halt w', Work.processPending d.order d.handler w = (.error halt, w') ∧
        d.roundsFrom started (left + 1) done w = [⟨w, .error halt, w'⟩]) ∨
      (∃ w', Work.processPending d.order d.handler w = (.ok [], w') ∧
        d.roundsFrom started (left + 1) done w = [⟨w, .ok [], w'⟩]) ∨
      ∃ results w', results ≠ [] ∧
        Work.processPending d.order d.handler w = (.ok results, w') ∧
        d.roundsFrom started (left + 1) done w =
          ⟨w, .ok results, w'⟩ :: d.roundsFrom started left (done + 1) w')) := by
  rw [roundsFrom]
  cases hlate : (done ≠ 0 && d.late started w.monoNow) with
  | true => exact .inl ⟨rfl, rfl⟩
  | false =>
    refine .inr ⟨rfl, ?_⟩
    cases hcall : Work.processPending d.order d.handler w with
    | mk result w' =>
      match result with
      | .error halt => exact .inl ⟨halt, w', rfl, rfl⟩
      | .ok [] => exact .inr (.inl ⟨w', rfl, rfl⟩)
      | .ok (item :: rest) =>
        exact .inr (.inr ⟨item :: rest, w', by simp, rfl, by simp⟩)

/-- A drain that ends with a round which advances nothing, by its first round. -/
theorem roundsFrom_of_idle (hlast : (d.roundsFrom started (left + 1) done w).getLast? = some last)
    (hidle : last.result = .ok []) :
    (done ≠ 0 && d.late started w.monoNow) = false ∧
      ((∃ w', Work.processPending d.order d.handler w = (.ok [], w') ∧
        d.roundsFrom started (left + 1) done w = [⟨w, .ok [], w'⟩] ∧ last = ⟨w, .ok [], w'⟩) ∨
      ∃ results w', results ≠ [] ∧
        Work.processPending d.order d.handler w = (.ok results, w') ∧
        d.roundsFrom started (left + 1) done w =
          ⟨w, .ok results, w'⟩ :: d.roundsFrom started left (done + 1) w' ∧
        (d.roundsFrom started left (done + 1) w').getLast? = some last) := by
  rcases d.roundsFrom_succ started left done w with
    ⟨hrounds, -⟩ | ⟨hlate, ⟨halt, w', -, hrounds⟩ | ⟨w', hcall, hrounds⟩ |
      ⟨results, w', hresults, hcall, hrounds⟩⟩
  · rw [hrounds] at hlast
    cases hlast
  · rw [hrounds] at hlast
    cases hlast
    cases hidle
  · rw [hrounds] at hlast
    cases hlast
    exact ⟨hlate, .inl ⟨w', hcall, hrounds, rfl⟩⟩
  · refine ⟨hlate, .inr ⟨results, w', hresults, hcall, hrounds, ?_⟩⟩
    rw [hrounds, List.getLast?_cons] at hlast
    cases hrest : (d.roundsFrom started left (done + 1) w').getLast? with
    | some round =>
      rw [hrest] at hlast
      exact hlast
    | none =>
      -- the round before it has advanced something
      rw [hrest] at hlast
      cases hlast
      exact absurd (Except.ok.inj hidle) hresults

/-- **The rounds of a drain are what it does.** If the last one has advanced nothing, the drain
counts what the others have advanced, and leaves the world as the last one has left it. -/
theorem runFrom_eq_of_idle (r : Relayer σ) (total : Nat)
    (hlast : (d.roundsFrom started left done w).getLast? = some last)
    (hidle : last.result = .ok []) :
    runFrom r d started left done total w =
      (.ok (total + ((d.roundsFrom started left done w).map Round.advanced).sum),
        last.after) := by
  induction left generalizing done w total with
  | zero => cases hlast
  | succ left ih =>
    have hget : (get : Work σ τ (World σ τ)) w = (.ok w, w) := rfl
    obtain ⟨hlate, hcases⟩ := roundsFrom_of_idle hlast hidle
    rw [runFrom, Work.bind_apply_of_ok hget, hlate]
    rcases hcases with ⟨w', hcall, hrounds, rfl⟩ | ⟨results, w', hresults, hcall, hrounds, hrest⟩
    · have honce : Work.attempt d.once w = (.ok (.ok 0), w') := by
        rw [Work.attempt, once_apply, hcall]
        rfl
      rw [if_neg Bool.false_ne_true, Work.bind_apply_of_ok honce, hrounds]
      rfl
    · have honce : Work.attempt d.once w = (.ok (.ok results.length), w') := by
        rw [Work.attempt, once_apply, hcall]
        rfl
      have hlength : results.length ≠ 0 := by simpa using hresults
      rw [if_neg Bool.false_ne_true, Work.bind_apply_of_ok honce]
      dsimp only
      rw [if_neg hlength, ih (total + results.length) hrest, hrounds, List.map_cons, List.sum_cons,
        ← Nat.add_assoc]
      rfl

theorem run_eq_of_idle (r : Relayer σ) (hlast : (d.rounds w).getLast? = some last)
    (hidle : last.result = .ok []) :
    Drain.run r d w = (.ok ((d.rounds w).map Round.advanced).sum, last.after) := by
  have hrun := runFrom_eq_of_idle r 0 hlast hidle
  rw [Nat.zero_add] at hrun
  exact hrun

/-! ### What is handed over -/

omit [Seconds τ] in
/-- A row that is claimed is handed over. -/
theorem mem_batch_or_behind (order : Work.BatchOrder) (w : World σ τ) (hsize : 0 ≤ order.size)
    {row : Row} (hrow : row ∈ w.store.rows)
    (hready : w.store.claimable order.family order.backoff w.wallNow row = true) :
    row.item.rowKey ∈ (w.batch order).map WorkItem.rowKey ∨
      ((w.batch order).length = order.size.toNat ∧
        ∀ item ∈ w.batch order, ∃ first ∈ w.store.rows, first.item = item ∧
          Store.claimsBefore w.wallNow first row = true) :=
  (Store.claimed_or_behind hsize hrow hready).imp List.mem_map_of_mem id

/-- **Who is never handed over.** A row that stays ready is handed over in some round, or the last
batch is full of rows that come before it. -/
theorem handed_or_behind (hkeeps : ∀ items w, (d.handler items w).2.store = w.store)
    (hsize : 0 ≤ d.settings.batchSize)
    (hlast : (d.roundsFrom started left done w).getLast? = some last)
    (hidle : last.result = .ok []) {since : Instant} {row : Row} (hrow : row ∈ w.store.rows)
    (hready : w.store.claimable d.settings.family d.settings.backoff since row = true)
    (hclock : ∀ round ∈ d.roundsFrom started left done w, since ≤ round.before.wallNow) :
    (∃ round ∈ d.roundsFrom started left done w,
      row.item.rowKey ∈ (round.before.batch d.order).map WorkItem.rowKey) ∨
    ((last.before.batch d.order).length = d.settings.batchSize.toNat ∧
      ∀ item ∈ last.before.batch d.order, ∃ first ∈ last.before.store.rows, first.item = item ∧
        Store.claimsBefore last.before.wallNow first row = true) := by
  induction left generalizing done w with
  | zero => cases hlast
  | succ left ih =>
    obtain ⟨-, ⟨w', hcall, hrounds, rfl⟩ | ⟨results, w', hresults, hcall, hrounds, hrest⟩⟩ :=
      roundsFrom_of_idle hlast hidle
    · -- the last round
      rw [hrounds, List.forall_mem_singleton] at hclock
      have hnow : w.store.claimable d.order.family d.order.backoff w.wallNow row = true :=
        Store.claimable_of_le hready (Store.not_mem_locked_of_claimable hready) hclock
      rcases mem_batch_or_behind d.order w hsize hrow hnow with hmem | hbehind
      · exact .inl ⟨⟨w, .ok [], w'⟩, by rw [hrounds]; exact List.mem_singleton_self _, hmem⟩
      · exact .inr hbehind
    · rw [hrounds, List.forall_mem_cons] at hclock
      by_cases hmem : row.item.rowKey ∈ (w.batch d.order).map WorkItem.rowKey
      · exact .inl ⟨⟨w, .ok results, w'⟩, by rw [hrounds]; exact List.mem_cons_self, hmem⟩
      · -- the row is still there and nobody holds it
        obtain ⟨hrow', hfree⟩ := Work.row_of_processPending hkeeps hcall hrow
          (Store.not_mem_locked_of_claimable hready) hmem
        have hready' := Store.claimable_of_le hready hfree le_rfl
        refine (ih hrest hrow' hready' hclock.2).imp ?_ id
        rintro ⟨round, hround, hhanded⟩
        exact ⟨round, by rw [hrounds]; exact List.mem_cons_of_mem _ hround, hhanded⟩

/-- The last round of such a drain is a call that has returned nothing. -/
theorem call_of_idle (hlast : (d.roundsFrom started left done w).getLast? = some last)
    (hidle : last.result = .ok []) :
    Work.processPending d.order d.handler last.before = (.ok [], last.after) := by
  induction left generalizing done w with
  | zero => cases hlast
  | succ left ih =>
    obtain ⟨-, ⟨w', hcall, -, rfl⟩ | ⟨results, w', -, -, -, hrest⟩⟩ :=
      roundsFrom_of_idle hlast hidle
    · exact hcall
    · exact ih hrest

/-- A drain whose first batch advances nothing. -/
theorem rounds_of_idle {d : Drain σ τ} {w w' : World σ τ} (hmax : 0 < d.maxBatches)
    (hcall : Work.processPending d.order d.handler w = (.ok [], w')) :
    d.rounds w = [⟨w, .ok [], w'⟩] := by
  obtain ⟨left, hleft⟩ : ∃ left, d.maxBatches.toNat = left + 1 :=
    ⟨d.maxBatches.toNat - 1, by omega⟩
  rw [rounds, hleft]
  rcases d.roundsFrom_succ w.monoNow left 0 w with
    ⟨-, hlate⟩ | ⟨-, ⟨halt, w'', hother, -⟩ | ⟨w'', hother, hrounds⟩ |
      ⟨results, w'', hresults, hother, -⟩⟩
  · cases hlate
  · cases hcall.symm.trans hother
  · cases hcall.symm.trans hother
    exact hrounds
  · cases hcall.symm.trans hother
    exact absurd rfl hresults
end Drain

/-! ### The law -/

/-- What a drain that began in `w` owes to the rows that were ready then, if the `last` of its
rounds has advanced nothing. -/
structure Drained [Seconds τ] (d : Drain σ τ) (w : World σ τ) (last : Round σ τ)
    (run : Except Halt Nat × World σ τ) : Prop where
  /-- The drain counts what its rounds have advanced. -/
  returns : run = (.ok ((d.rounds w).map Round.advanced).sum, last.after)
  /-- The last batch was left alone. -/
  idle : last.after.store.rows = last.before.store.rows ∧
    last.after.store.locked = last.before.store.locked
  /-- A row that was ready was handed over, or the last batch was full of rows before it. -/
  handed : ∀ row ∈ w.store.rows,
    w.store.claimable d.settings.family d.settings.backoff w.wallNow row = true →
    (∃ round ∈ d.rounds w, row.item.rowKey ∈ (round.before.batch d.order).map WorkItem.rowKey) ∨
    ((last.before.batch d.order).length = d.settings.batchSize.toNat ∧
      ∀ item ∈ last.before.batch d.order, ∃ first ∈ last.before.store.rows, first.item = item ∧
        Store.claimsBefore last.before.wallNow first row = true)

/-- **The law of drains**, for all handlers that leave the queue alone. -/
theorem Drain.drained [Seconds τ] (r : Relayer σ) {d : Drain σ τ} {w : World σ τ}
    {last : Round σ τ} (hkeeps : ∀ items w, (d.handler items w).2.store = w.store)
    (hsize : 0 ≤ d.settings.batchSize) (hlast : (d.rounds w).getLast? = some last)
    (hidle : last.result = .ok [])
    (hclock : ∀ round ∈ d.rounds w, w.wallNow ≤ round.before.wallNow) :
    Drained d w last (Drain.run r d w) where
  returns := run_eq_of_idle r hlast hidle
  idle := Work.rows_of_processPending_nil hkeeps (call_of_idle hlast hidle)
  handed := fun _ hrow hready => handed_or_behind hkeeps hsize hlast hidle hrow hready hclock

/-! ### The queues -/

namespace Relayer

/-- Work on a transaction of the chain only asks. It is left alone, or it is done. -/
theorem relayEvents_yields (r : Relayer σ) (item : WorkItem) :
    (r.relayEvents item : Work σ τ (Option WorkItem)).Yields (fun _ => True)
      fun out => out = none ∨ out = some { item with status := .success } := by
  have hdone : (pure (some { item with status := .success }) :
      Work σ τ (Option WorkItem)).Yields (fun _ => True)
        fun out => out = none ∨ out = some { item with status := .success } :=
    Work.yields_pure (.inr rfl)
  rw [relayEvents]
  refine Work.Yields.bind (Work.yields_ask fun _ => trivial) fun found _ => ?_
  cases found with
  | none => exact Work.yields_pure (.inl rfl)
  | some transaction =>
    dsimp only
    split
    · exact Work.yields_pure (.inl rfl)
    · refine Work.Yields.bind (Work.yields_ask fun _ => trivial) fun events _ => ?_
      refine Work.Yields.bind (Work.Yields.mono (r.publish_yields events item.key true)
        (fun _ _ => trivial) fun _ _ => trivial) fun _ _ => ?_
      exact Work.Yields.bind (Work.yields_log _) fun _ _ => hdone
    · exact Work.Yields.bind (Work.yields_log _) fun _ _ => hdone

theorem crossChainItem_yields (r : Relayer σ) (item : WorkItem) :
    (r.crossChainItem item : Work σ τ (Option WorkItem)).Yields (fun _ => True)
      fun out => out = none ∨ out = some { item with status := .success } := by
  rw [crossChainItem]
  refine Work.Yields.bind (Work.yields_attempt_value (r.relayEvents_yields item))
    fun outcome hout => ?_
  cases outcome with
  | ok out => exact Work.yields_pure (hout out rfl)
  | error fault =>
    dsimp only
    split
    · refine Work.Yields.bind (Work.yields_log _) fun _ _ => ?_
      refine Work.Yields.bind (Work.Yields.mono (r.notifySafely_yields _ _ _)
        (fun _ _ => trivial) fun _ _ => trivial) fun _ _ => ?_
      exact Work.yields_pure (.inl rfl)
    · exact Work.yields_fail _

theorem crossChainBatch_asks (r : Relayer σ) (items : List WorkItem) :
    (r.crossChainBatch items : Work σ τ (List WorkItem)).Asks fun _ _ => True := by
  have hitems : (items.mapM r.crossChainItem : Work σ τ _).Asks fun _ _ => True := fun w =>
    ⟨_, Work.mapM_later (fun item w => (r.crossChainItem_yields item w).imp fun _ h => h.1)
      items w, trivial⟩
  rw [crossChainBatch]
  refine Work.asks_log_bind (Work.Asks.bind hitems (fun outs _ _ => ?_) fun _ _ _ => trivial)
  exact (Work.asks_pure _).mono fun _ _ _ => trivial

/-- The workers only ask; it is the call that writes what they return. -/
theorem batchHandler_later (r : Relayer σ) (family : Family) (items : List WorkItem)
    (w : World σ τ) : ∃ events, w.Later (r.batchHandler family items w).2 events := by
  cases family with
  | messageApproved =>
    obtain ⟨deliveries, later, -⟩ := r.messageBatch_run true items w
    exact ⟨_, later⟩
  | stacksTransaction => exact ⟨_, r.outboundBatch_later items w⟩
  | crossChainTransaction =>
    obtain ⟨events, later, -⟩ := r.crossChainBatch_asks items w
    exact ⟨events, later⟩

/-- The workers leave the queue alone. -/
theorem store_of_batchHandler (r : Relayer σ) (family : Family) (items : List WorkItem)
    (w : World σ τ) : (r.batchHandler family items w).2.store = w.store := by
  obtain ⟨events, later⟩ := r.batchHandler_later family items w
  exact later.store_eq

/-- The workers leave the cache alone. -/
theorem cache_of_batchHandler (r : Relayer σ) (family : Family) (items : List WorkItem)
    (w : World σ τ) : (r.batchHandler family items w).2.cache = w.cache := by
  obtain ⟨events, later⟩ := r.batchHandler_later family items w
  exact later.cache_eq

variable [Seconds τ]

/-- How the queue of a family is drained. -/
def queueDrain (r : Relayer σ) (family : Family) (maxBatches : Int) (deadline : Option Quantity) :
    Drain σ τ where
  settings := QueueSettings.standard family
  handler := r.batchHandler family
  maxBatches := maxBatches
  deadline := deadline

/-- **What a drain leaves behind.** A drain of a queue that ends because nothing advanced has handed
over every row that was ready, but for those that stand behind a full batch which it left alone. -/
theorem queueDrain_drained (r : Relayer σ) (family : Family) (maxBatches : Int)
    (deadline : Option Quantity) (w : World σ τ) {last : Round σ τ}
    (hlast : ((r.queueDrain family maxBatches deadline).rounds w).getLast? = some last)
    (hidle : last.result = .ok [])
    (hclock : ∀ round ∈ (r.queueDrain family maxBatches deadline).rounds w,
      w.wallNow ≤ round.before.wallNow) :
    Drained (r.queueDrain family maxBatches deadline) w last
      (Drain.run r (r.queueDrain family maxBatches deadline) w) := by
  have hsize : (0 : Int) ≤ (QueueSettings.standard family).batchSize := by
    cases family <;> decide
  exact Drain.drained r (r.store_of_batchHandler family) hsize hlast hidle hclock

/-! ### Rows that hide another one -/

omit [Seconds τ] in
/-- A transaction that the chain has not settled is left for later. -/
theorem crossChainItem_of_pending (r : Relayer σ) {item : WorkItem} {w : World σ τ}
    {transaction : ChainTransaction} {env : σ}
    (hanswer : r.collaborators.chain.transaction item.key w.env = (.ok (some transaction), env))
    (hpending : transaction.status = .pending) :
    r.crossChainItem item w = (.ok none, { w with
      env, trace := w.trace ++ [.lookedUp item.key (.ok (some transaction))] }) := by
  obtain ⟨w', hw'⟩ : ∃ w' : World σ τ, w' = { w with
      env, trace := w.trace ++ [.lookedUp item.key (.ok (some transaction))] } := ⟨_, rfl⟩
  have hlook : (r.lookUp item.key : Work σ τ (Option ChainTransaction)) w =
      (.ok (some transaction), w') := by
    rw [lookUp, Work.ask, Work.query, hanswer, hw']
  have hrelay : r.relayEvents item w = (.ok none, w') := by
    rw [relayEvents, Work.bind_apply_of_ok hlook]
    dsimp only
    rw [hpending]
    rfl
  have hkept : Work.attempt (r.relayEvents item) w = (.ok (.ok none), w') := by
    rw [Work.attempt, hrelay]
  rw [crossChainItem, Work.bind_apply_of_ok hkept, ← hw']
  rfl

omit [Seconds τ] in
/-- A batch of such transactions advances nothing, if asking about them does not move the chain. -/
theorem crossChainBatch_of_pending (r : Relayer σ) {items : List WorkItem} {w : World σ τ}
    (h : ∀ item ∈ items, ∃ transaction, transaction.status = .pending ∧
      r.collaborators.chain.transaction item.key w.env = (.ok (some transaction), w.env)) :
    (r.crossChainBatch items w).1 = .ok [] := by
  have hitems : ∀ w' : World σ τ, w'.env = w.env →
      ((items.mapM r.crossChainItem) w').1 = .ok (items.map fun _ => none) := by
    induction items with
    | nil => exact fun _ _ => rfl
    | cons item rest ih =>
      intro w' henv
      obtain ⟨transaction, hpending, hanswer⟩ := h item List.mem_cons_self
      rw [← henv] at hanswer
      rw [List.mapM_cons, Work.bind_apply_of_ok (r.crossChainItem_of_pending hanswer hpending),
        Work.bind_apply]
      have hrest := ih (fun item hitem => h item (List.mem_cons_of_mem _ hitem)) { w' with
        trace := w'.trace ++ [.lookedUp item.key (.ok (some transaction))] } henv
      cases hmap : rest.mapM r.crossChainItem { w' with
          trace := w'.trace ++ [.lookedUp item.key (.ok (some transaction))] } with
      | mk result w'' =>
        rw [hmap] at hrest
        cases hrest
        rfl
  obtain ⟨line, hline⟩ : ∃ line, r.crossChainBatch items w =
      (do let outs ← items.mapM r.crossChainItem; return outs.filterMap id)
        { w with journal := w.journal ++ [line] } := ⟨_, rfl⟩
  have hnone := hitems { w with journal := w.journal ++ [line] } rfl
  rw [hline, Work.bind_apply]
  cases hmap : items.mapM r.crossChainItem { w with journal := w.journal ++ [line] } with
  | mk result w' =>
    rw [hmap] at hnone
    cases hnone
    exact congrArg Except.ok (by simp)
end Relayer

/-- As many transactions as a batch can hold. -/
def waitingHashes : List String :=
  ["0x00", "0x01", "0x02", "0x03", "0x04", "0x05", "0x06", "0x07", "0x08", "0x09"]

/-- A chain that has not settled them, and on which another transaction has succeeded. -/
def crowdedChain : Simulation where
  transactions :=
    waitingHashes.map (fun txHash => (txHash, { txHash, status := .pending })) ++
      [("0x10", { txHash := "0x10", status := .success })]

/-- A relayer that has seen all of these transactions, the one that has succeeded last. -/
def crowdedWorld : World Simulation Rat :=
  { World.initial crowdedChain 0 with
    store := (waitingHashes ++ ["0x10"]).foldl
      (fun s txHash => (s.upsert 0 (Relayer.seenTransaction txHash)).2) {} }

/-- The row of the transaction that has succeeded. -/
def successRow : Row where
  item := { Relayer.seenTransaction "0x10" with createdAt := some 0, updatedAt := some 0 }
  number := 10

/-- How the queue of these transactions is drained. -/
def crowdedDrain : Drain Simulation Rat :=
  Relayer.simulated.queueDrain .crossChainTransaction 100 none

theorem batch_crowdedWorld : crowdedWorld.batch crowdedDrain.order = waitingHashes.map fun txHash =>
    { Relayer.seenTransaction txHash with createdAt := some 0, updatedAt := some 0 } :=
  World.batch_of_ordered (by decide +kernel) (by decide +kernel)

/-- The first batch advances nothing, and takes no time. -/
theorem call_crowdedWorld : ∃ w',
    Work.processPending crowdedDrain.order crowdedDrain.handler crowdedWorld = (.ok [], w') ∧
      w'.wallNow = crowdedWorld.wallNow := by
  have hpending : ∀ txHash ∈ waitingHashes,
      (crowdedChain.transactions.lookup txHash).map ChainTransaction.status = some .pending := by
    decide
  obtain ⟨items, hitems⟩ : ∃ items, items = crowdedWorld.batch crowdedDrain.order := ⟨_, rfl⟩
  obtain ⟨w, hw, henv, hwall, hshown⟩ : ∃ w, crowdedWorld.handed crowdedDrain.order = w ∧
      w.env = crowdedChain ∧ w.wall = crowdedWorld.wall ∧
      w.wallShown = crowdedWorld.wallShown := ⟨_, rfl, rfl, rfl, rfl⟩
  have hrun : (Relayer.simulated.crossChainBatch items w).1 = .ok [] := by
    refine Relayer.crossChainBatch_of_pending _ fun item hitem => ?_
    rw [hitems, batch_crowdedWorld] at hitem
    obtain ⟨txHash, hmem, rfl⟩ := List.mem_map.mp hitem
    obtain ⟨transaction, hlookup, hstatus⟩ := Option.map_eq_some_iff.mp (hpending txHash hmem)
    refine ⟨transaction, hstatus, ?_⟩
    rw [henv]
    change (Except.ok (crowdedChain.transactions.lookup txHash), crowdedChain) = _
    rw [hlookup]
  obtain ⟨events, ⟨env, journal, hafter⟩, -⟩ := Relayer.simulated.crossChainBatch_asks items w
  have hcall : crowdedDrain.handler items w = (.ok [], { w with
      env, trace := w.trace ++ events, journal }) := Prod.ext hrun hafter
  have hrests : crowdedWorld.store.checkRests crowdedDrain.order.family
      crowdedDrain.order.backoff crowdedWorld.wallNow = .ok () := rfl
  have htimeout : crowdedDrain.order.timeout.check = .ok () :=
    QueueSettings.check_timeout .crossChainTransaction
  rw [Work.processPending_apply _ _ _ hrests htimeout, ← hitems, hw, hcall]
  refine ⟨_, rfl, ?_⟩
  change w.wallShown env w.wall = _
  rw [hwall, hshown]
  rfl

namespace Relayer

/-- **A row that is passed over.** Ten transactions that wait fill the only batch of the drain. An
eleventh one has succeeded and its row is ready, but it is not handed over. -/
theorem queueDrain_passes_over : ∃ last : Round Simulation Rat,
    crowdedDrain.rounds crowdedWorld = [last] ∧ last.before = crowdedWorld ∧
    last.result = .ok [] ∧ last.after.wallNow = crowdedWorld.wallNow ∧
    Drain.run simulated crowdedDrain crowdedWorld = (.ok 0, last.after) ∧
    successRow ∈ crowdedWorld.store.rows ∧
    crowdedWorld.store.claimable crowdedDrain.settings.family crowdedDrain.settings.backoff
      crowdedWorld.wallNow successRow = true ∧
    (crowdedChain.transactions.lookup successRow.item.key).map ChainTransaction.status =
      some .success ∧
    successRow.item.rowKey ∉
      (crowdedWorld.batch crowdedDrain.order).map WorkItem.rowKey := by
  obtain ⟨w', hcall, hclock⟩ := call_crowdedWorld
  have hrounds : crowdedDrain.rounds crowdedWorld = [⟨crowdedWorld, .ok [], w'⟩] :=
    Drain.rounds_of_idle (by decide) hcall
  have hlast : (crowdedDrain.rounds crowdedWorld).getLast? = some ⟨crowdedWorld, .ok [], w'⟩ := by
    rw [hrounds]
    rfl
  have hrun := Drain.run_eq_of_idle simulated hlast rfl
  refine ⟨_, hrounds, rfl, rfl, hclock, ?_, ?_, by decide, by decide, ?_⟩
  · rw [hrun, hrounds]
    rfl
  · exact List.mem_of_getElem? (i := 10) rfl
  · rw [batch_crowdedWorld]
    decide

/-- The law on this drain: the row that was not handed over stands behind a full batch. -/
theorem queueDrain_drained_crowded : ∃ last : Round Simulation Rat,
    (crowdedDrain.rounds crowdedWorld).getLast? = some last ∧ last.result = .ok [] ∧
    (∀ round ∈ crowdedDrain.rounds crowdedWorld,
      crowdedWorld.wallNow ≤ round.before.wallNow) ∧
    Drained crowdedDrain crowdedWorld last (Drain.run simulated crowdedDrain crowdedWorld) := by
  obtain ⟨w', hcall, -⟩ := call_crowdedWorld
  have hrounds : crowdedDrain.rounds crowdedWorld = [⟨crowdedWorld, .ok [], w'⟩] :=
    Drain.rounds_of_idle (by decide) hcall
  have hlast : (crowdedDrain.rounds crowdedWorld).getLast? = some ⟨crowdedWorld, .ok [], w'⟩ := by
    rw [hrounds]
    rfl
  have hclock : ∀ round ∈ crowdedDrain.rounds crowdedWorld,
      crowdedWorld.wallNow ≤ round.before.wallNow := by
    rw [hrounds, List.forall_mem_singleton]
  exact ⟨_, hlast, rfl, hclock,
    queueDrain_drained simulated .crossChainTransaction 100 none crowdedWorld hlast rfl hclock⟩

end Relayer

end ChainRelay
