import ChainRelay.Proofs.Queue.History
import ChainRelay.Proofs.World.Course

/-!
# Work as operations

Histories are lists of operations; what a relayer does is work. The two meet here: upserts are
operations, a call of `processPending` starts and finishes, and what its handler does on the queue
in the meantime happens between the two. A handler may call the queue again, to any depth.

## Main definitions

* `Work.Operates work` — `work` changes the queue by operations only, and ends all calls that it
  starts

## Main results

* `Work.processPending_operates` — a call operates if its handler does
* `Work.Operates.keeps` — what such work leaves of the rows and of the locks
* `Work.Operates.keeps_promises`, `Work.processPending_keeps_promises` — such work, and calls above
  all, are durable and have exclusive claims
-/

namespace ChainRelay.Work

variable {σ τ α β : Type}

/-- `work` changes the queue by operations only, whatever calls are in progress around it, and every
call that it starts has ended when it ends. -/
def Operates (work : Work σ τ α) : Prop :=
  ∀ (w : World σ τ) (q : Queue), w.store = q.store → ∃ ops ended,
    (work w).2.store = (q.run ops).store ∧
      (q.run ops).calls = q.calls ++ List.replicate ended none

/-- Work that leaves the queue alone. -/
theorem Operates.of_store_eq {work : Work σ τ α} (h : ∀ w, (work w).2.store = w.store) :
    work.Operates := by
  intro w q hstore
  exact ⟨[], 0, (h w).trans hstore, (List.append_nil _).symm⟩

theorem Operates.of_asks {work : Work σ τ α} {post : List Event → Except Halt α → Prop}
    (h : work.Asks post) : work.Operates := by
  refine Operates.of_store_eq fun w => ?_
  obtain ⟨events, later, -⟩ := h w
  exact later.store_eq

theorem Operates.bind {work : Work σ τ α} {next : α → Work σ τ β} (h : work.Operates)
    (hnext : ∀ a, (next a).Operates) : (work >>= next).Operates := by
  intro w q hstore
  obtain ⟨ops, ended, hops, hcalls⟩ := h w q hstore
  rw [bind_apply]
  cases hrun : work w with
  | mk result w' =>
    rw [hrun] at hops
    cases result with
    | error halt => exact ⟨ops, ended, hops, hcalls⟩
    | ok a =>
      obtain ⟨ops', ended', hops', hcalls'⟩ := hnext a w' (q.run ops) hops
      refine ⟨ops ++ ops', ended + ended', ?_, ?_⟩
      · rw [Queue.run_append]
        exact hops'
      · rw [Queue.run_append, hcalls', hcalls, List.append_assoc, List.replicate_add]

theorem Operates.mapM {work : β → Work σ τ α} (h : ∀ b, (work b).Operates) (bs : List β) :
    (bs.mapM work).Operates := by
  induction bs with
  | nil => exact Operates.of_asks (asks_pure [])
  | cons b rest ih =>
    rw [List.mapM_cons]
    exact (h b).bind fun _ => ih.bind fun _ => Operates.of_asks (asks_pure _)

theorem Operates.attempt {work : Work σ τ α} (h : work.Operates) :
    (Work.attempt work).Operates := by
  intro w q hstore
  rw [attempt_snd]
  exact h w q hstore

/-- What is done in the end comes after the work, however that ends. -/
theorem andFinally_snd (work : Work σ τ α) (last : Work σ τ Unit) (w : World σ τ) :
    (Work.andFinally work last w).2 = (last (work w).2).2 := by
  rw [Work.andFinally]
  cases work w with
  | mk result w' =>
    dsimp only
    cases last w' with
    | mk ending w'' => cases ending <;> rfl

theorem Operates.andFinally {work : Work σ τ α} {last : Work σ τ Unit} (h : work.Operates)
    (hlast : last.Operates) : (Work.andFinally work last).Operates := by
  intro w q hstore
  obtain ⟨ops, ended, hops, hcalls⟩ := h w q hstore
  obtain ⟨ops', ended', hops', hcalls'⟩ := hlast (work w).2 (q.run ops) hops
  refine ⟨ops ++ ops', ended + ended', ?_, ?_⟩
  · rw [Queue.run_append, ← hops', andFinally_snd]
  · rw [Queue.run_append, hcalls', hcalls, List.append_assoc, List.replicate_add]

theorem Operates.withTimeout [Seconds τ] {work : Work σ τ α} (h : work.Operates)
    (seconds : Quantity) : (Work.withTimeout seconds work).Operates := by
  intro w q hstore
  rw [Work.withTimeout]
  cases seconds.check with
  | error fault => exact ⟨[], 0, hstore, (List.append_nil _).symm⟩
  | ok _ =>
    dsimp only
    generalize (if Seconds.ofQuantity seconds ≤ (Seconds.whole 0 : τ) then none
      else some (w.waited + Seconds.ofQuantity seconds) : Limit τ) = limit
    obtain ⟨ops, ended, hops, hcalls⟩ := h { w with limits := w.limits ++ [limit] } q hstore
    refine ⟨ops, ended, ?_, hcalls⟩
    rw [← hops]
    cases work { w with limits := w.limits ++ [limit] } with
    | mk result w' =>
      match result with
      | .ok a => rfl
      | .error (.fault fault) => rfl
      | .error (.cancelled depth) =>
        dsimp only
        split <;> rfl
      | .error .endless => rfl

/-! ### Upserts -/

theorem upsert_operates (item : WorkItem) : (upsert item : Work σ τ Upserted).Operates := by
  intro w q hstore
  refine ⟨[.upsert w.wallNow item], 0, ?_, (List.append_nil _).symm⟩
  change (w.store.upsert w.wallNow item).2 = (q.store.upsert w.wallNow item).2
  rw [hstore]

theorem upsertAll_operates (items : List WorkItem) :
    (upsertAll items : Work σ τ (List Upserted)).Operates :=
  Operates.mapM upsert_operates items

/-! ### Calls -/

/-- A claim is the start of a call, which is over at once if the rest of a row cannot be told. -/
theorem claimBatch_cases (order : BatchOrder) {w : World σ τ} {q : Queue}
    (hstore : w.store = q.store) :
    (∃ fault, claimBatch order w = (.error (.fault fault), w) ∧
      q.step (.start w.wallNow order) = { q with calls := q.calls ++ [none] }) ∨
    ∃ claimed store, claimBatch order w = (.ok claimed, { w with store }) ∧
      q.step (.start w.wallNow order) =
        { store, calls := q.calls ++ [some ⟨order.family, claimed⟩] } := by
  rw [claimBatch, Queue.step, ← hstore]
  cases w.store.checkRests order.family order.backoff w.wallNow with
  | error fault => exact .inl ⟨fault, rfl, rfl⟩
  | ok _ => exact .inr ⟨_, _, rfl, rfl⟩

/-- Between a claim and its release, the rows change by what the handler does and by the end of the
call. -/
theorem handleBatch_store [Seconds τ] (order : BatchOrder)
    (handler : List WorkItem → Work σ τ (List WorkItem)) (claimed : List WorkItem)
    (w : World σ τ) : ∃ ending, (handleBatch order handler claimed w).2.store =
      (Work.attempt (Work.withTimeout order.timeout (handler claimed)) w).2.store.settle
        ⟨order.family, claimed⟩ ending := by
  rw [handleBatch, bind_apply]
  cases Work.attempt (Work.withTimeout order.timeout (handler claimed)) w with
  | mk kept w' =>
    match kept with
    | .error halt => exact ⟨.raised, rfl⟩
    | .ok (.ok none) => exact ⟨.raised, rfl⟩
    | .ok (.ok (some results)) =>
      refine ⟨.returned results w'.wallNow, ?_⟩
      dsimp only
      rw [bind_apply, commitBatch, Store.settle]
      dsimp only
      cases w'.store.commit order.family claimed results w'.wallNow with
      | error fault => rfl
      | ok s => rfl
    | .ok (.error fault) => exact ⟨.raised, by cases fault <;> rfl⟩

/-- **Calls of the queue are operations**: the start, what the handler does, and the end. -/
theorem processPending_operates [Seconds τ] (order : BatchOrder)
    {handler : List WorkItem → Work σ τ (List WorkItem)}
    (h : ∀ claimed, (handler claimed).Operates) : (processPending order handler).Operates := by
  intro w q hstore
  rw [processPending]
  rcases claimBatch_cases order hstore with
    ⟨fault, hclaim, hstep⟩ | ⟨claimed, store, hclaim, hstep⟩
  · rw [bind_apply_of_error hclaim]
    refine ⟨[.start w.wallNow order], 1, ?_, ?_⟩
    · rw [Queue.run_cons, hstep]
      exact hstore
    · rw [Queue.run_cons, hstep]
      rfl
  · rw [bind_apply_of_ok hclaim]
    obtain ⟨call, hcall⟩ : ∃ call : Call, call = ⟨order.family, claimed⟩ := ⟨_, rfl⟩
    rw [← hcall] at hstep
    obtain ⟨ops, ended, hops, hcalls⟩ := ((h claimed).withTimeout order.timeout).attempt
      { w with store } (q.step (.start w.wallNow order)) (by rw [hstep])
    obtain ⟨ending, hending⟩ := handleBatch_store order handler claimed { w with store }
    rw [hstep] at hops hcalls
    -- the place of the call among those in progress
    have hplace : (Queue.run { store, calls := q.calls ++ [some call] } ops).call?
        q.calls.length = some call := by
      rw [Queue.call?_eq_some_iff, hcalls]
      simp
    refine ⟨.start w.wallNow order :: (ops ++ [.finish q.calls.length ending]), ended + 1, ?_, ?_⟩
    · rw [andFinally_snd]
      change ((handleBatch order handler claimed { w with store }).2.store).release claimed = _
      rw [hending, hops, Queue.run_cons, hstep, Queue.run_append, Queue.run_cons,
        Queue.step, hplace, hcall]
      rfl
    · rw [Queue.run_cons, hstep, Queue.run_append, Queue.run_cons, Queue.step, hplace]
      change (Queue.run _ ops).calls.set q.calls.length none = _
      rw [hcalls, List.append_assoc, List.set_append_right _ _ (Nat.le_refl _), Nat.sub_self]
      rfl

/-! ### What such work leaves -/

/-- Calls that have ended make no difference. -/
theorem sound_of_ended {store : Store} {calls : List (Option Call)} {ended : ℕ}
    (h : (Queue.mk store (calls ++ List.replicate ended none)).Sound) :
    (Queue.mk store calls).Sound := by
  have hheld : (Queue.mk store (calls ++ List.replicate ended none)).held =
      (Queue.mk store calls).held := by
    rw [Queue.held, Queue.held, List.filterMap_append, List.filterMap_replicate_of_none rfl,
      List.append_nil]
  exact ⟨h.keys, h.numbers, h.locked.trans hheld, hheld ▸ h.exclusive,
    fun call hcall => h.current call (List.mem_append_left _ hcall)⟩

/-- Work that operates leaves a sound queue, with the calls in progress that there were. -/
theorem Operates.sound {work : Work σ τ α} (h : work.Operates) {w : World σ τ} {q : Queue}
    (hq : q.Sound) (hstore : w.store = q.store) :
    (Queue.mk (work w).2.store q.calls).Sound := by
  obtain ⟨ops, ended, hops, hcalls⟩ := h w q hstore
  have hsound : (Queue.mk (q.run ops).store (q.run ops).calls).Sound := Queue.run_sound hq ops
  rw [hcalls, ← hops] at hsound
  exact sound_of_ended hsound

/-- **What callers may rely on.** Work that operates makes no row worse, and what it has locked is
released when it ends. -/
theorem Operates.keeps {work : Work σ τ α} (h : work.Operates) {w : World σ τ} {q : Queue}
    (hq : q.Sound) (hstore : w.store = q.store) :
    w.store.Grows (work w).2.store ∧ (work w).2.store.locked = w.store.locked := by
  obtain ⟨ops, ended, hops, -⟩ := h w q hstore
  constructor
  · rw [hops, hstore]
    exact Queue.run_grows hq ops
  · rw [hstore, hq.locked]
    exact (h.sound hq hstore).locked

/-- **Work keeps the promises of the queue.** Whatever has been done on an empty queue before, and
whichever calls are in progress around it: what was promised then holds after work that operates,
claims are still exclusive, and nothing else is locked than before. -/
theorem Operates.keeps_promises {work : Work σ τ α} (h : work.Operates) (ops : List Operation)
    {w : World σ τ} (hstore : w.store = (Queue.run {} ops).store) :
    Queue.Durable (Queue.run {} ops) ⟨(work w).2.store, (Queue.run {} ops).calls⟩ ∧
    Queue.Exclusive ⟨(work w).2.store, (Queue.run {} ops).calls⟩ ∧
    (work w).2.store.locked = w.store.locked := by
  have hq := Queue.run_sound Queue.sound_empty ops
  have hsound := h.sound hq hstore
  obtain ⟨hgrows, hlocked⟩ := h.keeps hq hstore
  rw [hstore] at hgrows
  exact ⟨Queue.durable_of_sound hq hsound hgrows, Queue.exclusive_of_sound hsound, hlocked⟩

/-- What a call has claimed is its own: nothing of it is held by another call in progress. -/
theorem claimBatch_exclusive (order : BatchOrder) (ops : List Operation) {w w' : World σ τ}
    (hstore : w.store = (Queue.run {} ops).store) {claimed : List WorkItem}
    (hclaim : claimBatch order w = (.ok claimed, w')) :
    Queue.Exclusive
      ⟨w'.store, (Queue.run {} ops).calls ++ [some ⟨order.family, claimed⟩]⟩ := by
  have hsound := Queue.step_sound (Queue.run_sound Queue.sound_empty ops)
    (.start w.wallNow order)
  rcases claimBatch_cases order hstore with ⟨fault, hfailed, -⟩ | ⟨batch, store, hok, hstep⟩
  · cases hclaim.symm.trans hfailed
  · cases hclaim.symm.trans hok
    rw [hstep] at hsound
    exact Queue.exclusive_of_sound hsound

/-- **Calls keep the promises of the queue.** Whatever has been done on an empty queue before, and
whichever calls are in progress around it: a call has its batch for itself while its handler works.
When it has ended, however that was, the promises are kept, and nothing else is locked than
before. -/
theorem processPending_keeps_promises [Seconds τ] (order : BatchOrder)
    {handler : List WorkItem → Work σ τ (List WorkItem)}
    (h : ∀ claimed, (handler claimed).Operates) (ops : List Operation) {w : World σ τ}
    (hstore : w.store = (Queue.run {} ops).store) :
    (∀ claimed w', claimBatch order w = (.ok claimed, w') → Queue.Exclusive
      ⟨w'.store, (Queue.run {} ops).calls ++ [some ⟨order.family, claimed⟩]⟩) ∧
    Queue.Durable (Queue.run {} ops)
      ⟨(processPending order handler w).2.store, (Queue.run {} ops).calls⟩ ∧
    Queue.Exclusive ⟨(processPending order handler w).2.store, (Queue.run {} ops).calls⟩ ∧
    (processPending order handler w).2.store.locked = w.store.locked :=
  ⟨fun _ _ => claimBatch_exclusive order ops hstore,
    (processPending_operates order h).keeps_promises ops hstore⟩

end ChainRelay.Work
