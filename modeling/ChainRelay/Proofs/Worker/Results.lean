import ChainRelay.Proofs.Database.Commit
import ChainRelay.Proofs.Worker.DrainRounds
import ChainRelay.Proofs.Worker.RejectedStep
import ChainRelay.Proofs.Worker.SendBudget

/-!
# What workers return

A queue takes the result of a batch only if it fits the batch: a single item that does not fit
keeps all rows of the batch from being written, and the batch would be claimed again and again. The
three workers have many ways to come to a result, and all of them fit.

## The contract

Each result is a claimed item that has advanced, and each claimed item is returned at most once. An
item that is finished differs in its status only. One that stays pending may hold another handle and
pays one retry at most; its payload stays, but for the state of an execution in several steps.

## Main definitions

* `WorkItem.Advances` — how an item may be returned
* `Fits` — what makes a result acceptable to both stores
* `Relayer.worker` — the worker of a family

## Main results

* `Relayer.worker_fits` — whatever a worker returns fits, whatever its collaborators do
-/

namespace ChainRelay

variable {σ τ : Type}

/-! ### Items that advance -/

/-- How a claimed item may be returned. -/
structure WorkItem.Advances (held out : WorkItem) : Prop where
  rowKey : out.rowKey = held.rowKey
  createdAt : out.createdAt = held.createdAt
  retry : out.retry = held.retry ∨ out.retry = held.retry + 1
  /-- An item that is finished differs in its status only. -/
  finished : out.status ≠ .pending → out = { held with status := out.status }
  /-- One that stays pending keeps its payload, but for the continuation state of a message. -/
  kept : out.status = .pending → out.payload = held.payload ∨
    (held.family = .messageApproved ∧ ∃ m extra, held.payload = .message m ∧
      out.payload = .message { m with extra })

namespace WorkItem.Advances

variable {held : WorkItem}

theorem of_status (held : WorkItem) (status : Status) : held.Advances { held with status } where
  rowKey := rfl
  createdAt := rfl
  retry := .inl rfl
  finished _ := rfl
  kept _ := .inl rfl

/-- A pending item that goes on. -/
theorem of_pending (hpending : held.status = .pending) {payload : Payload} {retry : Int}
    (txHash : Option String) (hretry : retry = held.retry ∨ retry = held.retry + 1)
    (hpayload : payload = held.payload ∨ (held.family = .messageApproved ∧
      ∃ m extra, held.payload = .message m ∧ payload = .message { m with extra })) :
    held.Advances { held with payload, retry, txHash } where
  rowKey := rfl
  createdAt := rfl
  retry := hretry
  finished h := absurd hpending h
  kept _ := hpayload

theorem retry_le {out : WorkItem} (h : held.Advances out) : held.retry ≤ out.retry := by
  rcases h.retry with hretry | hretry <;> omega

end WorkItem.Advances

/-! ### Results that fit -/

/-- What makes the result of a batch acceptable. -/
structure Fits (family : Family) (claimed results : List WorkItem) : Prop where
  /-- Each item of it is a claimed one that has advanced. -/
  own : ∀ out ∈ results, ∃ held ∈ claimed, held.Advances out
  /-- No claimed item is returned twice. -/
  once : (results.map WorkItem.rowKey).Nodup
  /-- The store in memory commits it. -/
  commits : ∀ (s : Store) (now : Instant), ∃ s', s.commit family claimed results now = .ok s'
  /-- The database finds nothing wrong with it and goes on to its rows. -/
  writes : ∀ {ρ υ : Type} (c : Database.Connection ρ),
    (Database.commitResults c family claimed results : Database.InSession ρ υ Unit) =
      results.forM (Database.writeResult c family)
  /-- Nothing comes after an item that finishes its row, so the two stores agree on it. -/
  last : FinishesLast results

theorem Fits.of_advances {family : Family} {claimed results : List WorkItem}
    (hclaimed : Claimed claimed) (hfamily : ∀ item ∈ claimed, item.family = family)
    (hown : ∀ out ∈ results, ∃ held ∈ claimed, held.Advances out)
    (honce : (results.map WorkItem.rowKey).Nodup) : Fits family claimed results := by
  have hcheck : Store.checkResults family claimed results = .ok () := by
    refine Store.checkResults_of_claimed hclaimed hfamily fun out hout => ?_
    obtain ⟨held, hheld, hadvances⟩ := hown out hout
    exact ⟨held, hheld, hadvances.rowKey, hadvances.retry_le⟩
  refine ⟨hown, honce, fun s now => ?_, fun c => Database.commitResults_of_checkResults hcheck,
    .of_nodup (Store.nodup_key_of_checkResults hcheck honce)⟩
  rw [Store.commit, hcheck]
  exact ⟨_, rfl⟩

/-- Results that come from the turns of a batch, one at most from each. -/
theorem Fits.of_turns {family : Family} {items : List WorkItem} (hclaimed : Claimed items)
    (hfamily : ∀ item ∈ items, item.family = family)
    {work : WorkItem → Work σ τ (Option WorkItem)} {w : World σ τ}
    (h : ∀ t ∈ Work.turns work items w, ∀ out, t.result = .ok (some out) → t.item.Advances out) :
    Fits family items ((Work.turns work items w).filterMap fun t => t.value?.bind id) := by
  have hadvances : ∀ t ∈ Work.turns work items w, ∀ out, t.value?.bind id = some out →
      t.item.Advances out := by
    intro t ht out hvalue
    obtain ⟨value, hended, rfl⟩ := Option.bind_eq_some_iff.mp hvalue
    exact h t ht out (Turn.value?_eq_some_iff.mp hended)
  refine .of_advances hclaimed hfamily (fun out hout => ?_) ?_
  · obtain ⟨t, ht, hvalue⟩ := List.mem_filterMap.mp hout
    exact ⟨t.item, Work.item_mem_of_mem_turns ht, hadvances t ht out hvalue⟩
  · exact (Work.nodup_rowKey_turns hclaimed.distinct).sublist
      (map_filterMap_sublist fun t ht out hvalue => (hadvances t ht out hvalue).rowKey)

/-! ### Messages -/

section

variable {item : WorkItem} {m : Message} {o : BuildOutcome}

/-- A built message takes over the continuation state. -/
theorem Relayer.advances_advancedBy (hpending : item.status = .pending)
    (hfamily : item.family = .messageApproved) (hpayload : item.payload = .message m)
    (txHash : Option String) : item.Advances { Relayer.advancedBy item m o with txHash } := by
  rw [BuildOutcome.advancedBy_eq]
  refine .of_pending hpending txHash ?_ (.inr ⟨hfamily, m, o.extra, hpayload, rfl⟩)
  split
  · exact .inr rfl
  · exact .inl rfl

/-- An item that is settled by fresh work. -/
theorem MessageCourse.settled_advances {events : List Event} {out : WorkItem}
    (h : MessageCourse item events (.ok (.settle out))) (hpending : item.status = .pending)
    (hfamily : item.family = .messageApproved) : item.Advances out := by
  cases h with
  | givenUp _ _ decided =>
    cases decided _ rfl
    exact .of_status item .failed
  | built payload _ _ _ decided =>
    obtain ⟨o, -, hd⟩ := decided _ rfl
    rcases BuildOutcome.settle_cases hd with rfl | rfl | rfl
    · exact Relayer.advances_advancedBy hpending hfamily payload _
    · exact .of_pending hpending none (.inr rfl) (.inl rfl)
    · exact .of_status item .failed

/-- An item that is submitted, whatever becomes of its transaction. -/
theorem Attempt.outcome_advances {a : Attempt} {d : Delivery}
    (h : o.decision? item m = some (.submit a)) (hpending : item.status = .pending)
    (hfamily : item.family = .messageApproved) (hpayload : item.payload = .message m)
    (hd : d.Accepted ∨ d.Rejected) : item.Advances (a.outcome d) := by
  rcases hd with ⟨answer, rfl, hsuccess⟩ | hrejected
  · obtain ⟨-, tx, -, rfl⟩ := BuildOutcome.decision?_eq_submit_iff.mp h
    rw [outcome_of_accepted hsuccess, accepted_eq rfl]
    exact Relayer.advances_advancedBy hpending hfamily hpayload _
  · rw [outcome_of_rejected hrejected, rejected_eq_afterRejection h]
    exact .of_pending hpending none (.inr rfl) (.inr ⟨hfamily, m, o.extra, hpayload, rfl⟩)

end

namespace Relayer

variable {r : Relayer σ} {items results : List WorkItem} {w : World σ τ}

theorem advances_of_messageBatch {ordered : Bool} (hclaimed : Claimed items)
    (hfamily : ∀ item ∈ items, item.family = .messageApproved)
    (h : (r.messageBatch ordered items w).1 = .ok results) :
    ∀ out ∈ results, ∃ held ∈ items, held.Advances out := by
  intro out hout
  obtain ⟨t, ht, -, -, hcases⟩ := result_cases h hout
  have hitem := Work.item_mem_of_mem_turns ht
  have hpending := hclaimed.pending t.item hitem
  have hcourse := course_of_mem_messageTurns ht
  refine ⟨t.item, hitem, ?_⟩
  rcases hcases with hsettled | ⟨s, hs, ha, rfl⟩
  · rw [Turn.settled?_eq_some_iff.mp hsettled] at hcourse
    generalize t.events = events at hcourse
    cases hcourse with
    | unsent _ h => exact h.settled_advances hpending (hfamily _ hitem)
    | finished _ _ _ => exact .of_status t.item .success
    | renewed _ _ h => exact h.settled_advances hpending (hfamily _ hitem)
  · rw [Turn.attempt?_eq_some_iff.mp ha] at hcourse
    obtain ⟨m, o, hpayload, -, hd⟩ := hcourse.of_submit
    obtain ⟨-, -, -, hdeliveries⟩ := of_messageBatch h
    exact Attempt.outcome_advances hd hpending (hfamily _ hitem) hpayload
      (hdeliveries _ (List.of_mem_zip (a := s.1) hs).2)

/-! ### The other workers -/

/-- What a turn makes of an outbound item. -/
theorem advances_of_outboundVerdict {item out : WorkItem} {n : ℕ}
    (h : OutboundVerdict item n (some out)) (hpending : item.status = .pending) :
    item.Advances out := by
  cases h with
  | settled status => exact .of_status item status
  | setback _ => exact .of_pending hpending none (.inr rfl) (.inl rfl)
  | accepted _ txHash =>
    refine .of_pending hpending (some txHash) ?_ (.inl rfl)
    split
    · exact .inr rfl
    · exact .inl rfl

/-- A batch of chain transactions returns what its turns have ended with. -/
theorem crossChainBatch_eq_ok (h : (r.crossChainBatch items w).1 = .ok results) :
    ∃ w' : World σ τ, results =
      (Work.turns r.crossChainItem items w').filterMap fun t => t.value?.bind id := by
  obtain ⟨w'', hrun⟩ : ∃ w'', r.crossChainBatch items w = (.ok results, w'') := ⟨_, Prod.ext h rfl⟩
  obtain ⟨-, w', -, hrest⟩ := Work.bind_apply_eq_ok hrun
  obtain ⟨outs, w₁, hmap, hpure⟩ := Work.bind_apply_eq_ok hrest
  cases hpure
  exact ⟨w', Work.filterMap_of_mapM (congrArg Prod.fst hmap) id⟩

theorem advances_of_mem_crossChainTurns {t : Turn σ τ (Option WorkItem)}
    (ht : t ∈ Work.turns r.crossChainItem items w) {out : WorkItem}
    (hout : t.result = .ok (some out)) : t.item.Advances out := by
  obtain ⟨-, hvalue⟩ := Work.holds_of_mem_turns
    (P := fun item _ events result => (∀ e ∈ events, True) ∧
      ∀ out, result = .ok out → out = none ∨ out = some { item with status := .success })
    (fun item w => r.crossChainItem_yields item w) ht
  rcases hvalue _ hout with h | h
  · cases h
  · cases h
    exact .of_status t.item .success

/-! ### All workers -/

/-- The worker of a family. Only messages can be sent without regard to their order. -/
def worker (r : Relayer σ) (ordered : Bool) : Family → List WorkItem → Work σ τ (List WorkItem)
  | .messageApproved => r.messageBatch ordered
  | .stacksTransaction => r.outboundBatch
  | .crossChainTransaction => r.crossChainBatch

/-- The jobs send messages in order. -/
theorem batchHandler_eq_worker [Seconds τ] (r : Relayer σ) (family : Family) :
    (r.batchHandler family : List WorkItem → Work σ τ (List WorkItem)) = r.worker true family := by
  cases family <;> rfl

/-- **Every result fits.** Whatever a worker is given by its queue and whatever its collaborators
answer: if it returns, its result can be committed by both stores. -/
theorem worker_fits (r : Relayer σ) (ordered : Bool) {family : Family} (hclaimed : Claimed items)
    (hfamily : ∀ item ∈ items, item.family = family)
    (h : (r.worker ordered family items w).1 = .ok results) : Fits family items results := by
  cases family with
  | messageApproved =>
    exact .of_advances hclaimed hfamily (advances_of_messageBatch hclaimed hfamily h)
      (nodup_messageBatch hclaimed h)
  | stacksTransaction =>
    obtain ⟨-, rfl⟩ := r.outboundBatch_eq_ok h
    exact .of_turns hclaimed hfamily fun t ht out hout => advances_of_outboundVerdict
      (outboundTurn_verdict ht hout) (hclaimed.pending _ (Work.item_mem_of_mem_turns ht))
  | crossChainTransaction =>
    obtain ⟨w', rfl⟩ := crossChainBatch_eq_ok h
    exact .of_turns hclaimed hfamily fun t ht out hout => advances_of_mem_crossChainTurns ht hout

/-- Of two messages that are sent without regard to their order, one is not accepted and the other is
in flight then. Both are returned, and fit. -/
theorem worker_fits_refused : ∃ results,
    Claimed [.shortMessage "first", .shortMessage "second"] ∧
    (∀ item ∈ [WorkItem.shortMessage "first", .shortMessage "second"],
      item.family = .messageApproved) ∧
    (simulated.worker false .messageApproved [.shortMessage "first", .shortMessage "second"]
      (World.initial refusing ())).1 = .ok results ∧
    Fits .messageApproved [.shortMessage "first", .shortMessage "second"] results := by
  have hclaimed : Claimed [.shortMessage "first", .shortMessage "second"] :=
    ⟨by decide, by decide⟩
  have hfamily : ∀ item ∈ [WorkItem.shortMessage "first", .shortMessage "second"],
      item.family = .messageApproved := by
    decide
  have hreturns : (simulated.worker false .messageApproved
    [.shortMessage "first", .shortMessage "second"] (World.initial refusing ())).1 = .ok _ := rfl
  exact ⟨_, hclaimed, hfamily, hreturns, worker_fits simulated false hclaimed hfamily hreturns⟩

end Relayer

end ChainRelay
