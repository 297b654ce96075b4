import ChainRelay.Proofs.Queue.Calls
import ChainRelay.Proofs.Worker.Exclusivity

/-!
# What becomes of accepted transactions

A transaction takes effect when it is sent, and the hash that stands for it is stored when the call
ends that has sent it. A call writes all of its results or none, so the hashes of a call are stored
together, and they are lost together.

## The contract

A call ends with results exactly if it could start and the turn of every item has ended with a
value. Then every transaction that was accepted in the call is known by its hash in the row of its
item. A call that ends otherwise leaves the queue as it was, whatever it has sent until then.

## Main definitions

* `Turned` — what a turn says about the transactions that were sent in it
* `Relayer.outboundTurns` — the turns of a call on outbound transactions
* `SendsKept` — what a call owes to the transactions that it has sent

## Main results

* `Relayer.outboundItem_turned` — every turn ends with the hash of what was accepted in it
* `Relayer.outboundCall_sends` — the law of a call
* `Relayer.outboundCall_forgets` — a transaction that was accepted and is not known
-/

namespace ChainRelay

variable {σ τ : Type}

/-! ### One turn -/

section

variable {item : WorkItem} {events : List Event} {result : Except Halt (Option WorkItem)}
  {transaction : SignedTransaction} {answer : Except Fault SendResult}

/-- What is sent in a turn was built in it, and the turn ends with the hash if it was accepted. -/
theorem OutboundCourse.sends (h : OutboundCourse item events result)
    (hsent : .sent transaction answer ∈ events) :
    (∃ o, .built item (.ok o) ∈ events ∧ o.transaction = some transaction) ∧
      ∀ out, result = .ok out ↔ ∃ accepted, answer = .ok accepted ∧ accepted.success = true ∧
        out = some (item.sentAs (transaction.knownAs accepted)) := by
  have hnot {e : Event} (haside : e.IsAside) : e ≠ .sent transaction answer := by
    rintro rfl
    cases haside.2
  cases h with
  | givenUp asides _ => exact absurd rfl (hnot (asides _ hsent))
  | unbuilt asides _ =>
    rcases List.mem_append.mp hsent with hmem | hmem
    · exact absurd rfl (hnot (asides _ (List.mem_append_left _ hmem)))
    · rcases List.mem_cons.mp hmem with h | hmem
      · cases h
      · exact absurd rfl (hnot (asides _ (List.mem_append_right _ hmem)))
  | sent asides built decided =>
    rcases List.mem_append.mp hsent with hmem | hmem
    · exact absurd rfl (hnot (asides _ hmem))
    · rcases List.mem_pair.mp hmem with h | h
      · cases h
      · cases h
        exact ⟨⟨_, List.mem_append_right _ List.mem_cons_self, built⟩, decided⟩

/-- No retry is taken back by fresh work. -/
theorem OutboundCourse.retry_le (h : OutboundCourse item events result) {out : WorkItem}
    (hout : result = .ok (some out)) : item.retry ≤ out.retry := by
  have hnext : item.retry ≤ item.retry + 1 := Int.le_add_one (Int.le_refl _)
  cases h with
  | givenUp _ decided =>
    cases decided _ hout
    exact Int.le_refl _
  | unbuilt _ decided =>
    rcases decided _ hout with h | h
    · cases h
      exact hnext
    · cases h
      exact Int.le_refl _
  | sent _ _ decided =>
    obtain ⟨accepted, -, -, h⟩ := (decided _).mp hout
    cases h
    rw [WorkItem.sentAs]
    split
    · exact hnext
    · exact Int.le_refl _

/-- What a turn says about a transaction that was sent in it: it was built in this turn, and if it
was accepted the turn ends with its hash. -/
def Turned (item : WorkItem) (events : List Event) (result : Except Halt (Option WorkItem)) :
    Prop :=
  ∀ transaction answer, .sent transaction answer ∈ events →
    (∃ o, .built item (.ok o) ∈ events ∧ o.transaction = some transaction) ∧
      ∀ accepted, answer = .ok accepted → accepted.success = true →
        result = .ok (some (item.sentAs (transaction.knownAs accepted)))

/-- The report of a failure says nothing about what was sent, and nothing was accepted then. -/
theorem OutboundTurn.turned (h : OutboundTurn item events result) : Turned item events result := by
  obtain ⟨main, report, ending, rfl, hreport, hmain, hending⟩ := h
  intro transaction answer hsent
  have hmem : .sent transaction answer ∈ main := by
    rcases List.mem_append.mp hsent with hmem | hmem
    · exact hmem
    · cases (hreport _ hmem).2
  obtain ⟨⟨o, hbuilt, htransaction⟩, hdecided⟩ := hmain.sends hmem
  refine ⟨⟨o, List.mem_append_left _ hbuilt, htransaction⟩, fun accepted hanswer hsuccess => ?_⟩
  have hended := (hdecided _).mpr ⟨accepted, hanswer, hsuccess, rfl⟩
  rcases hending with ⟨out, hout, hsame⟩ | ⟨⟨halt, hhalt⟩, -⟩
  · rw [hsame, ← hout, hended]
  · cases hended.symm.trans hhalt

theorem OutboundTurn.retry_le (h : OutboundTurn item events result) {out : WorkItem}
    (hout : result = .ok (some out)) : item.retry ≤ out.retry := by
  obtain ⟨main, report, ending, -, -, hmain, hending⟩ := h
  rcases hending with ⟨out', hended, hsame⟩ | ⟨-, hnone⟩
  · exact hmain.retry_le (hended.trans (hsame.symm.trans hout))
  · cases hnone _ hout

end

namespace Relayer

/-- The turn of an outbound item, whatever is in flight for it. -/
theorem outboundItem_turned (r : Relayer σ) (item : WorkItem) (w : World σ τ) :
    ∃ events, w.Later (r.outboundItem item w).2 events ∧
      Turned item events (r.outboundItem item w).1 ∧
      ∀ out, (r.outboundItem item w).1 = .ok (some out) →
        out.rowKey = item.rowKey ∧ item.retry ≤ out.retry := by
  obtain ⟨events, later, course⟩ := r.outboundItem_course item w
  have hguarded : Guarded r item w false id events (r.outboundItem item w).1 :=
    course.guarded (fun _ _ h => h.fresh) rfl rfl
  refine ⟨events, later, ?_⟩
  generalize (r.outboundItem item w).1 = result at course hguarded ⊢
  refine ⟨?_, fun out hout => ⟨hguarded.own _ out hout rfl, ?_⟩⟩
  · cases course with
    | unsent _ h => exact h.turned
    | left _ _ =>
      intro transaction answer hsent
      cases List.mem_singleton.mp hsent
    | finished _ _ _ =>
      intro transaction answer hsent
      cases List.mem_singleton.mp hsent
    | renewed _ _ h =>
      intro transaction answer hsent
      rcases List.mem_cons.mp hsent with hlookup | hmem
      · cases hlookup
      · obtain ⟨⟨o, hbuilt, htransaction⟩, haccepted⟩ := h.turned transaction answer hmem
        exact ⟨⟨o, List.mem_cons_of_mem _ hbuilt, htransaction⟩, haccepted⟩
  · cases course with
    | unsent _ h => exact h.retry_le hout
    | left _ _ => cases hout
    | finished _ _ _ =>
      cases hout
      exact Int.le_refl _
    | renewed _ _ h => exact h.retry_le hout

/-! ### A batch -/

/-- A batch that ends with results returns what its turns have ended with. -/
theorem outboundBatch_eq_ok (r : Relayer σ) {items results : List WorkItem} {w : World σ τ}
    (h : (r.outboundBatch items w).1 = .ok results) :
    (∀ t ∈ Work.turns r.outboundItem items w, ∃ out, t.result = .ok out) ∧
      results = (Work.turns r.outboundItem items w).filterMap fun t => t.value?.bind id := by
  obtain ⟨w', hrun⟩ : ∃ w', r.outboundBatch items w = (.ok results, w') := ⟨_, Prod.ext h rfl⟩
  obtain ⟨outs, w₁, hmap, hpure⟩ := Work.bind_apply_eq_ok hrun
  cases hpure
  have hvalues : ((items.mapM r.outboundItem) w).1 = .ok outs := by rw [hmap]
  exact ⟨fun t ht => Work.result_of_mem_turns hvalues ht, Work.filterMap_of_mapM hvalues id⟩

/-- An item that a turn has ended with is among the results. -/
theorem mem_results_of_turn {r : Relayer σ} {items results : List WorkItem} {w : World σ τ}
    (h : (r.outboundBatch items w).1 = .ok results) {t : Turn σ τ (Option WorkItem)}
    (ht : t ∈ Work.turns r.outboundItem items w) {out : WorkItem}
    (hout : t.result = .ok (some out)) : out ∈ results := by
  rw [(r.outboundBatch_eq_ok h).2]
  refine List.mem_filterMap.mpr ⟨t, ht, ?_⟩
  rw [Turn.value?_eq_some_iff.mpr hout]
  rfl

/-- A batch ends with results if every turn ends with a value. -/
theorem outboundBatch_of_turns (r : Relayer σ) {items : List WorkItem} {w : World σ τ}
    (h : ∀ t ∈ Work.turns r.outboundItem items w, ∃ out, t.result = .ok out) :
    ∃ results, (r.outboundBatch items w).1 = .ok results := by
  obtain ⟨outs, houts⟩ := Work.mapM_of_turns h
  rw [outboundBatch, Work.bind_apply]
  cases hmap : items.mapM r.outboundItem w with
  | mk result w' =>
    rw [hmap] at houts
    cases houts
    exact ⟨outs.filterMap id, rfl⟩

/-- What is known of the turns of a batch. -/
theorem turned_of_mem_turns (r : Relayer σ) {items : List WorkItem} {w : World σ τ}
    {t : Turn σ τ (Option WorkItem)} (ht : t ∈ Work.turns r.outboundItem items w) :
    Turned t.item t.events t.result ∧ ∀ out, t.result = .ok (some out) →
      out.rowKey = t.item.rowKey ∧ t.item.retry ≤ out.retry :=
  Work.holds_of_mem_turns
    (P := fun item _ events result => Turned item events result ∧
      ∀ out, result = .ok (some out) → out.rowKey = item.rowKey ∧ item.retry ≤ out.retry)
    r.outboundItem_turned ht

/-- The results of a claimed batch are sound, and each of them is of another row. -/
theorem sound_outboundBatch (r : Relayer σ) {items results : List WorkItem} {w : World σ τ}
    {family : Family} (hclaimed : Claimed items) (hfamily : ∀ item ∈ items, item.family = family)
    (h : (r.outboundBatch items w).1 = .ok results) :
    Store.checkResults family items results = .ok () ∧ (results.map WorkItem.rowKey).Nodup := by
  obtain ⟨-, rfl⟩ := r.outboundBatch_eq_ok h
  have hout : ∀ t ∈ Work.turns r.outboundItem items w, ∀ out, t.value?.bind id = some out →
      out.rowKey = t.item.rowKey ∧ t.item.retry ≤ out.retry := by
    intro t ht out hvalue
    obtain ⟨held, hheld, rfl⟩ := Option.bind_eq_some_iff.mp hvalue
    exact (r.turned_of_mem_turns ht).2 out (Turn.value?_eq_some_iff.mp hheld)
  constructor
  · refine Store.checkResults_of_claimed hclaimed hfamily fun out hmem => ?_
    obtain ⟨t, ht, hvalue⟩ := List.mem_filterMap.mp hmem
    obtain ⟨hkey, hretry⟩ := hout t ht out hvalue
    exact ⟨t.item, Work.item_mem_of_mem_turns ht, hkey, hretry⟩
  · exact (Work.nodup_rowKey_turns hclaimed.distinct).sublist
      (map_filterMap_sublist fun t ht out hvalue => (hout t ht out hvalue).1)

end Relayer

/-! ### A call -/

/-- What a call that began in `w` owes to the transactions that it has sent in its `turns`. -/
structure SendsKept (w : World σ τ) (starts : Bool) (turns : List (Turn σ τ (Option WorkItem)))
    (run : Except Halt (List WorkItem) × World σ τ) : Prop where
  /-- Turns are all that is recorded, but for what is written at the end. -/
  record : ∃ stored, run.2.trace = w.trace ++ (turns.flatMap Turn.events ++ stored) ∧
    ∀ e ∈ stored, e.isAttempt = false
  /-- A transaction is sent in the turn in which it was built. -/
  built : ∀ t ∈ turns, ∀ transaction answer, .sent transaction answer ∈ t.events →
    ∃ o, .built t.item (.ok o) ∈ t.events ∧ o.transaction = some transaction
  /-- The call ends with results exactly if every turn does. -/
  ends : (∃ results, run.1 = .ok results) ↔
    starts = true ∧ ∀ t ∈ turns, ∃ out, t.result = .ok out
  /-- The row of an item then holds the hash of what was accepted for it. -/
  kept : ∀ results, run.1 = .ok results → ∀ t ∈ turns, ∀ transaction accepted,
    .sent transaction (.ok accepted) ∈ t.events → accepted.success = true →
    ∃ row ∈ run.2.store.rows, row.item.rowKey = t.item.rowKey ∧ row.item.status = .pending ∧
      row.item.txHash = some (transaction.knownAs accepted)
  /-- A call that ends otherwise has written nothing, whatever was accepted. -/
  lost : ∀ halt, run.1 = .error halt → run.2.store = w.store

namespace Relayer

variable [Seconds τ]

/-- The turns of a call on outbound transactions. There are none if the call cannot start. -/
def outboundTurns (r : Relayer σ) (order : Work.BatchOrder) (w : World σ τ) :
    List (Turn σ τ (Option WorkItem)) :=
  if w.starts order then Work.turns r.outboundItem (w.batch order) (w.handed order) else []

variable {r : Relayer σ} {order : Work.BatchOrder} {w : World σ τ}

theorem outboundTurns_of_starts (h : w.starts order = true) :
    r.outboundTurns order w = Work.turns r.outboundItem (w.batch order) (w.handed order) := if_pos h

/-- The turns of the call, as those of a batch. -/
theorem mem_outboundTurns {t : Turn σ τ (Option WorkItem)} (ht : t ∈ r.outboundTurns order w) :
    w.starts order = true ∧
      t ∈ Work.turns r.outboundItem (w.batch order) (w.handed order) := by
  rw [outboundTurns] at ht
  split at ht
  · rename_i hstarts
    exact ⟨hstarts, ht⟩
  · cases ht

/-- What is written at the end of a call is no attempt. -/
theorem isAttempt_of_mem_commitEvents {results : List WorkItem} {e : Event}
    (he : e ∈ Work.commitEvents order results) : e.isAttempt = false := by
  rcases List.mem_append.mp he with hmem | hmem
  · obtain ⟨key, -, rfl⟩ := List.mem_map.mp hmem
    rfl
  · rw [List.mem_singleton.mp hmem]
    rfl

/-- A call records what its turns record, and what it writes. -/
theorem trace_outboundCall (r : Relayer σ) (order : Work.BatchOrder) (w : World σ τ) :
    ∃ stored, (Work.processPending order r.outboundBatch w).2.trace =
      w.trace ++ ((r.outboundTurns order w).flatMap Turn.events ++ stored) ∧
      ∀ e ∈ stored, e.isAttempt = false := by
  cases hstarts : w.starts order with
  | false =>
    obtain ⟨fault, hfault⟩ := Work.processPending_unstarted order r.outboundBatch w
      (not_and_or.mp fun h => by rw [World.starts_iff.mpr h] at hstarts; cases hstarts)
    refine ⟨[], ?_, by simp⟩
    rw [hfault, outboundTurns, hstarts]
    simp
  | true =>
    obtain ⟨hrests, htimeout⟩ := World.starts_iff.mp hstarts
    have later := (r.outboundBatch_later (w.batch order) (w.handed order)).trace_eq
    rw [Work.processPending_apply order r.outboundBatch w hrests htimeout,
      outboundTurns_of_starts hstarts]
    cases hrun : r.outboundBatch (w.batch order) (w.handed order) with
    | mk result w₁ =>
      rw [hrun] at later
      have hnothing : w₁.trace = w.trace ++ ((Work.turns r.outboundItem (w.batch order)
          (w.handed order)).flatMap Turn.events ++ []) := by
        rw [List.append_nil]
        exact later
      cases result with
      | error halt => exact ⟨[], hnothing, by simp⟩
      | ok results =>
        rw [Work.BatchOrder.conclude]
        cases w₁.store.commit order.family (w.batch order) results w₁.wallNow with
        | error fault => exact ⟨[], hnothing, by simp⟩
        | ok s =>
          refine ⟨Work.commitEvents order results, ?_, fun e he =>
            isAttempt_of_mem_commitEvents he⟩
          rw [← List.append_assoc]
          exact congrArg (· ++ Work.commitEvents order results) later

/-- **When a call ends with results.** What its turns have ended with is always sound. -/
theorem outboundCall_ok_iff (hkeys : (w.store.rows.map fun row => row.item.rowKey).Nodup) :
    (∃ results, (Work.processPending order r.outboundBatch w).1 = .ok results) ↔
      w.starts order = true ∧ ∀ t ∈ r.outboundTurns order w, ∃ out, t.result = .ok out := by
  constructor
  · rintro ⟨results, h⟩
    have hstarts : w.starts order = true := by
      by_contra hnot
      obtain ⟨fault, hfault⟩ := Work.processPending_unstarted order r.outboundBatch w
        (not_and_or.mp fun h => hnot (World.starts_iff.mpr h))
      rw [hfault] at h
      cases h
    obtain ⟨w₁, s, hrun, -⟩ := Work.processPending_eq_ok (Prod.ext h rfl)
    rw [outboundTurns_of_starts hstarts]
    exact ⟨hstarts, (r.outboundBatch_eq_ok (congrArg Prod.fst hrun)).1⟩
  · rintro ⟨hstarts, hturns⟩
    rw [outboundTurns_of_starts hstarts] at hturns
    obtain ⟨results, hresults⟩ := r.outboundBatch_of_turns hturns
    obtain ⟨hrests, htimeout⟩ := World.starts_iff.mp hstarts
    have hclaimed : Claimed (w.batch order) := Store.claimed_claim hkeys
    obtain ⟨hsound, -⟩ := r.sound_outboundBatch hclaimed
      (fun item hitem => (Store.of_mem_claim hitem).1) hresults
    refine ⟨results, ?_⟩
    rw [Work.processPending_apply order r.outboundBatch w hrests htimeout]
    cases hrun : r.outboundBatch (w.batch order) (w.handed order) with
    | mk result w₁ =>
      rw [hrun] at hresults
      cases hresults
      rw [Work.BatchOrder.conclude, Store.commit, hsound]

/-- **What is stored.** The row of an item holds the hash that its turn has ended with. -/
theorem row_of_outboundCall (hkeys : (w.store.rows.map fun row => row.item.rowKey).Nodup)
    {results : List WorkItem} {w' : World σ τ}
    (h : Work.processPending order r.outboundBatch w = (.ok results, w'))
    {t : Turn σ τ (Option WorkItem)} (ht : t ∈ r.outboundTurns order w) {txHash : String}
    (hended : t.result = .ok (some (t.item.sentAs txHash))) :
    ∃ row ∈ w'.store.rows, row.item.rowKey = t.item.rowKey ∧ row.item.status = .pending ∧
      row.item.txHash = some txHash := by
  obtain ⟨hstarts, hturn⟩ := mem_outboundTurns ht
  have hclaimed : Claimed (w.batch order) := Store.claimed_claim hkeys
  have hitem : t.item ∈ w.batch order := Work.item_mem_of_mem_turns hturn
  obtain ⟨hfamily, -, -, row, hrow, hrowitem⟩ := Store.of_mem_claim hitem
  obtain ⟨w₁, s, hrun, hcommit, rfl⟩ := Work.processPending_eq_ok h
  have hrows : s.rows = w.store.rows.map (Row.afterResults order.family w₁.wallNow results) := by
    have hstore := (r.outboundBatch_later (w.batch order) (w.handed order)).store_eq
    rw [hrun] at hstore
    rw [(Store.commit_eq_ok hcommit).2.1, hstore]
    rfl
  have hresults := congrArg Prod.fst hrun
  have hmem : t.item.sentAs txHash ∈ results := mem_results_of_turn hresults hturn hended
  have hdistinct : (results.map WorkItem.key).Nodup :=
    Store.nodup_key_of_checkResults (Store.commit_eq_ok hcommit).1 (r.sound_outboundBatch hclaimed
      (fun item hitem => (Store.of_mem_claim hitem).1) hresults).2
  have hkey : row.item.rowKey = (order.family, (t.item.sentAs txHash).key) := by
    rw [hrowitem, ← hfamily]
    rfl
  refine ⟨row.afterResults order.family w₁.wallNow results, ?_, ?_, ?_⟩
  · change _ ∈ s.rows
    rw [hrows]
    exact List.mem_map_of_mem hrow
  · rw [Row.afterResults_rowKey, hrowitem]
  · rw [Row.afterResults_of_mem hdistinct hmem hkey, Row.afterResult, if_pos (by simpa using hkey)]
    exact ⟨hclaimed.pending t.item hitem, rfl⟩

/-- **Accepted transactions.** Whatever chain, notifier and executor do, a call on outbound items
stores the hash of every transaction that was accepted, if every turn has ended with a value. If
one has not, the call stores none of them. -/
theorem outboundCall_sends (r : Relayer σ) (order : Work.BatchOrder) (w : World σ τ)
    (hkeys : (w.store.rows.map fun row => row.item.rowKey).Nodup) :
    SendsKept w (w.starts order) (r.outboundTurns order w)
      (Work.processPending order r.outboundBatch w) where
  record := r.trace_outboundCall order w
  built := fun t ht transaction answer hsent =>
    ((r.turned_of_mem_turns (mem_outboundTurns ht).2).1 transaction answer hsent).1
  ends := outboundCall_ok_iff hkeys
  kept := by
    intro results h t ht transaction accepted hsent hsuccess
    have hturned := (r.turned_of_mem_turns (mem_outboundTurns ht).2).1 transaction _ hsent
    exact row_of_outboundCall hkeys (Prod.ext h rfl) ht (hturned.2 accepted rfl hsuccess)
  lost := fun halt h => Work.store_of_processPending_error
    (fun items w => (r.outboundBatch_later items w).store_eq) h

end Relayer

/-! ### A transaction that is forgotten -/

/-- A gateway transaction for a task, as it is stored. -/
def WorkItem.shortGateway (key : String) : WorkItem where
  family := .stacksTransaction
  key := key
  payload := .gateway "0x01"
  createdAt := some 0
  updatedAt := some 0

/-- An executor that fails on the second of two tasks. -/
def brokenSigner : Simulation where
  buildFaults := [("task-2", .failure "signer exploded")]

/-- A relayer with two tasks to work on. -/
def twoTasks : World Simulation Rat :=
  { World.initial brokenSigner 0 with
    store := (["task-1", "task-2"]).foldl (fun s key => (s.upsert 0 (.shortGateway key)).2) {} }

/-- How outbound transactions are worked off. -/
def outboundOrder : Work.BatchOrder := (QueueSettings.standard .stacksTransaction).order

theorem batch_twoTasks :
    twoTasks.batch outboundOrder = [.shortGateway "task-1", .shortGateway "task-2"] :=
  World.batch_of_ordered (by decide +kernel) (by decide +kernel)

namespace Relayer

/-- The transaction of the first task is accepted. -/
theorem firstTask_accepted {w : World Simulation Rat} (h : w.env = brokenSigner) :
    ∃ out transaction accepted w',
      simulated.outboundItem (.shortGateway "task-1") w = (.ok out, w') ∧
        w'.env = brokenSigner ∧ .sent transaction (.ok accepted) ∈ w'.trace ∧
        accepted.success = true := by
  cases w
  cases h
  exact ⟨_, _, _, _, rfl, rfl, List.mem_append_right _ (List.mem_singleton_self _), rfl⟩

/-- The one of the second task cannot be built. -/
theorem secondTask_halts {w : World Simulation Rat} (h : w.env = brokenSigner) :
    ∃ w', simulated.outboundItem (.shortGateway "task-2") w =
      (.error (.fault (.failure "signer exploded")), w') := by
  cases w
  cases h
  exact ⟨_, rfl⟩

/-- The handler of the call is cut short after it has sent a transaction. -/
theorem batch_halts {w : World Simulation Rat} (h : w.env = brokenSigner) :
    ∃ transaction accepted halt w',
      simulated.outboundBatch [.shortGateway "task-1", .shortGateway "task-2"] w =
        (.error halt, w') ∧ .sent transaction (.ok accepted) ∈ w'.trace ∧
        accepted.success = true := by
  obtain ⟨out, transaction, accepted, w₁, hfirst, henv, hsent, hsuccess⟩ := firstTask_accepted h
  obtain ⟨w₂, hsecond⟩ := secondTask_halts henv
  obtain ⟨events, later, -⟩ := simulated.outboundItem_course (.shortGateway "task-2") w₁
  rw [hsecond] at later
  refine ⟨transaction, accepted, .fault (.failure "signer exploded"), w₂, ?_, ?_, hsuccess⟩
  · rw [outboundBatch, List.mapM_cons, List.mapM_cons, bind_assoc, Work.bind_apply_of_ok hfirst,
      bind_assoc, bind_assoc, Work.bind_apply_of_error hsecond]
  · rw [later.trace_eq]
    exact List.mem_append_left _ hsent

/-- **An accepted transaction that nobody knows.** The second task fails in the call in which the
transaction of the first one was accepted, and no row holds its hash afterwards. -/
theorem outboundCall_forgets : ∃ transaction accepted halt w',
    Work.processPending outboundOrder simulated.outboundBatch twoTasks = (.error halt, w') ∧
      .sent transaction (.ok accepted) ∈ w'.trace ∧ accepted.success = true ∧
      ∀ row ∈ w'.store.rows, row.item.txHash = none := by
  have hrests : twoTasks.store.checkRests outboundOrder.family outboundOrder.backoff
      twoTasks.wallNow = .ok () := rfl
  have htimeout : outboundOrder.timeout.check = .ok () := QueueSettings.check_timeout _
  have henv : (twoTasks.handed outboundOrder).env = brokenSigner := rfl
  obtain ⟨transaction, accepted, halt, w₁, hrun, hsent, hsuccess⟩ := batch_halts henv
  obtain ⟨halt', w', hcall, htrace⟩ : ∃ halt' w',
      Work.processPending outboundOrder simulated.outboundBatch twoTasks = (.error halt', w') ∧
        w'.trace = w₁.trace := by
    rw [Work.processPending_apply _ _ _ hrests htimeout, batch_twoTasks, hrun]
    exact ⟨_, _, rfl, rfl⟩
  have hstore := Work.store_of_processPending_error
    (fun items w => (simulated.outboundBatch_later items w).store_eq) (congrArg Prod.fst hcall)
  rw [hcall] at hstore
  refine ⟨transaction, accepted, halt', w', hcall, ?_, hsuccess, ?_⟩
  · rw [htrace]
    exact hsent
  · change w'.store = twoTasks.store at hstore
    rw [hstore]
    decide

/-- The law on this call. -/
theorem outboundCall_sends_twoTasks :
    (twoTasks.store.rows.map fun row => row.item.rowKey).Nodup ∧
    SendsKept twoTasks (twoTasks.starts outboundOrder)
      (simulated.outboundTurns outboundOrder twoTasks)
      (Work.processPending outboundOrder simulated.outboundBatch twoTasks) := by
  have hkeys : (twoTasks.store.rows.map fun row => row.item.rowKey).Nodup := by decide
  exact ⟨hkeys, outboundCall_sends simulated outboundOrder twoTasks hkeys⟩

end Relayer

end ChainRelay
