import ChainRelay.Proofs.Worker.MessageVerdict

/-!
# A step that was not accepted

An execution in several steps keeps its state with the message: a build answers the state in which
its own step leaves the execution. The message takes that state over before the transaction of the
step is sent, and keeps it if the transaction is not accepted.

## The contract

A rejection takes back what concerns the transaction: nothing is in flight for the message, and one
more retry is paid. It does not take back the state. The next build is asked for the step after one
that was never sent, unless the build had answered the state that the message was claimed with.

## Main definitions

* `WorkItem.afterRejection` — the message after the rejection
* `RejectedStep` — what becomes of it in the batch, in its row and in its next turn

## Main results

* `Relayer.messageBatch_rejectedStep` — every built transaction that is not accepted
-/

namespace ChainRelay

variable {σ τ : Type}

/-- A message of which a step was built with an outcome, sent and not accepted. -/
def WorkItem.afterRejection (item : WorkItem) (m : Message) (o : BuildOutcome) : WorkItem :=
  { item with
    payload := .message { m with extra := o.extra }
    txHash := none
    retry := item.retry + 1 }

theorem WorkItem.payload_afterRejection_eq_iff {item : WorkItem} {m : Message} {o : BuildOutcome}
    (hpayload : item.payload = .message m) :
    (item.afterRejection m o).payload = item.payload ↔ o.extra = m.extra := by
  rw [hpayload, afterRejection, Payload.message.injEq]
  constructor
  · intro h
    exact congrArg Message.extra h
  · intro h
    rw [h]

/-- What is left of an attempt when its transaction is not accepted. -/
theorem Attempt.rejected_eq_afterRejection {item : WorkItem} {m : Message} {o : BuildOutcome}
    {a : Attempt} (h : o.decision? item m = some (.submit a)) :
    a.rejected = item.afterRejection m o := by
  obtain ⟨-, tx, -, rfl⟩ := BuildOutcome.decision?_eq_submit_iff.mp h
  have hretry : max (Relayer.advancedBy item m o).retry (item.retry + 1) = item.retry + 1 := by
    rw [BuildOutcome.advancedBy_retry]
    split <;> omega
  rw [rejected, hretry, BuildOutcome.advancedBy_eq]
  rfl

/-- A message with nothing in flight that may still be attempted is built for as it stands. -/
theorem Relayer.decideMessage_builds (r : Relayer σ) {item : WorkItem} {m : Message}
    (hpayload : item.payload = .message m) (hnonempty : m.payload.isEmpty = false)
    (hunsent : item.txHash = none) (hhopeful : ceilingReached item.retry retryCeiling = false)
    (w : World σ τ) :
    ∃ answer rest, w.Later (r.decideMessage item w).2 (.built item answer :: rest) := by
  obtain ⟨events, later, hfresh⟩ := r.decideFresh_asks item w
  have hdecide : (r.decideMessage item : Work σ τ Decision) = r.decideFresh item := by
    rw [decideMessage, hunsent]
  rw [hdecide]
  cases hfresh with
  | givenUp hopeless =>
    rcases hopeless with hceiling | hempty
    · rw [hhopeful] at hceiling
      cases hceiling
    · rw [hempty m hpayload] at hnonempty
      cases hnonempty
  | built => exact ⟨_, _, later⟩

/-- What becomes of a message whose step was built with an outcome and not accepted, in a batch that
ends with `results`. -/
structure RejectedStep (r : Relayer σ) (τ : Type) (items results : List WorkItem) (item : WorkItem)
    (m : Message) (o : BuildOutcome) : Prop where
  payload : item.payload = .message m
  /-- One item is returned for it. -/
  returned : ∀ out, out ∈ results ∧ out.rowKey = item.rowKey ↔ out = item.afterRejection m o
  /-- Its payload is the claimed one exactly if the build has answered the state it was claimed
  with. -/
  kept : (item.afterRejection m o).payload = item.payload ↔ o.extra = m.extra
  /-- A commit of the batch writes it to the row. -/
  stored : ∀ (s s' : Store) (family : Family) (now : Instant),
    s.commit family items results now = .ok s' → s'.row? item.rowKey =
      (s.row? item.rowKey).map fun row => row.afterResult family now (item.afterRejection m o)
  /-- Whoever has its turn with that payload and nothing in flight is built for with the state after
  the step. -/
  resumed : ∀ next : WorkItem, next.payload = .message { m with extra := o.extra } →
    next.txHash = none → ceilingReached next.retry retryCeiling = false →
    ∀ w : World σ τ, ∃ answer rest,
      w.Later (r.decideMessage next w).2 (.built next answer :: rest)

namespace Relayer

variable {r : Relayer σ} {ordered : Bool} {items results : List WorkItem} {w : World σ τ}

/-- What was submitted for an item is all that is returned for it. -/
theorem mem_results_iff_of_submission (hclaimed : Claimed items)
    (h : (r.messageBatch ordered items w).1 = .ok results) {t : Turn σ τ Decision}
    (ht : t ∈ r.messageTurns items w) {s : Attempt × Delivery}
    (hs : s ∈ r.submissions ordered items w) (ha : t.attempt? = some s.1) (out : WorkItem) :
    out ∈ results ∧ out.rowKey = t.item.rowKey ↔ out = s.1.outcome s.2 := by
  obtain ⟨-, -, hresults, -⟩ := of_messageBatch h
  have hmem : s.1.outcome s.2 ∈ results := by
    rw [hresults]
    exact List.mem_append_right _ (List.mem_map_of_mem hs)
  have hkey : (s.1.outcome s.2).rowKey = t.item.rowKey := by
    obtain ⟨txHash, retry, houtcome⟩ := s.1.outcome_eq s.2
    rw [houtcome]
    exact (attempt_of_mem_messageTurns ht ha).2.1
  constructor
  · rintro ⟨hout, hsame⟩
    exact List.inj_on_of_nodup_map (nodup_messageBatch hclaimed h) hout hmem
      (hsame.trans hkey.symm)
  · rintro rfl
    exact ⟨hmem, hkey⟩

/-- **A step that was not accepted.** Whatever the build of a claimed message has answered with its
transaction: if that is not accepted, the message goes on with the answered state, although the step
that leads to it was never sent. -/
theorem messageBatch_rejectedStep (hclaimed : Claimed items)
    (h : (r.messageBatch ordered items w).1 = .ok results) {t : Turn σ τ Decision}
    (ht : t ∈ r.messageTurns items w) {o : BuildOutcome}
    (hbuilt : .built t.item (.ok o) ∈ t.events) (hkind : o.kind? = some .built)
    {tx : SignedTransaction} (htx : o.transaction = some tx) :
    ∃ a m, t.attempt? = some a ∧ a.transaction = tx ∧ t.item.payload = .message m ∧
      ∀ d, (a, d) ∈ r.submissions ordered items w → d.Rejected →
        RejectedStep r τ items results t.item m o := by
  obtain ⟨-, hvalues, -, -⟩ := of_messageBatch h
  obtain ⟨d, hd⟩ := hvalues t ht
  have hcourse := course_of_mem_messageTurns ht
  rw [hd] at hcourse
  obtain ⟨m, hpayload, hnonempty, hdecided⟩ := hcourse.decided hbuilt
  obtain ⟨a, rfl, hatx⟩ := hcourse.submits hbuilt hkind htx
  have ha := Turn.attempt?_eq_some_iff.mpr hd
  refine ⟨a, m, ha, hatx, hpayload, fun delivery hs hrejected => ?_⟩
  have hreturned : ∀ out, out ∈ results ∧ out.rowKey = t.item.rowKey ↔
      out = t.item.afterRejection m o := by
    intro out
    rw [mem_results_iff_of_submission hclaimed h ht hs ha,
      Attempt.outcome_of_rejected hrejected, Attempt.rejected_eq_afterRejection hdecided]
  refine ⟨hpayload, hreturned, WorkItem.payload_afterRejection_eq_iff hpayload, ?_, ?_⟩
  · intro s s' family now hcommit
    obtain ⟨hsound, hrows, -⟩ := Store.commit_eq_ok hcommit
    obtain ⟨hout, -⟩ := (hreturned _).mpr rfl
    have hkey : t.item.rowKey = (family, (t.item.afterRejection m o).key) :=
      (Store.rowKey_of_checkResults hsound hout :)
    rw [Store.row?, hrows, Store.find?_map_rows (Row.afterResults_rowKey results)]
    change (s.row? t.item.rowKey).map _ = _
    cases hrow : s.row? t.item.rowKey with
    | none => rfl
    | some row =>
      rw [Option.map_some, Option.map_some, Row.afterResults_of_mem
        (Store.nodup_key_of_checkResults hsound (nodup_messageBatch hclaimed h)) hout
        ((Store.rowKey_of_row? hrow).trans hkey)]
  · intro next hnext hunsent hhopeful w'
    exact r.decideMessage_builds hnext hnonempty hunsent hhopeful w'

/-! ### A first step that was not accepted -/

/-- A step after which something is deployed. -/
def deployStep : BuildOutcome where
  kind := BuildKind.built.word
  transaction := some { txId := "0x01", serialized := "signed:0x01" }
  extra := .str "deployed"
  incrementRetry := false

/-- An executor that builds it and does not accept it. -/
def refusing : Simulation where
  outcomes := [("first", deployStep)]
  failingSends := ["0x01"]

/-- **The state runs ahead.** Nothing was deployed for the message, and it is returned with the
state after the deployment. -/
theorem rejectedStep_advances :
    ∃ a d out, (a, d) ∈ simulated.submissions true [.shortMessage "first"]
        (World.initial refusing ()) ∧ d.Rejected ∧
      (simulated.messageBatch true [.shortMessage "first"] (World.initial refusing ())).1 =
        .ok [out] ∧
      out.rowKey = (WorkItem.shortMessage "first").rowKey ∧
      out.payload.message?.map Message.extra = some (.str "deployed") ∧
      (WorkItem.shortMessage "first").payload.message?.map Message.extra = some .null ∧
      out.payload ≠ (WorkItem.shortMessage "first").payload := by
  refine ⟨_, _, _, List.mem_cons_self, .inl ⟨_, rfl, rfl⟩, rfl, rfl, rfl, rfl, fun h => ?_⟩
  cases congrArg (fun p => p.message?.map Message.extra) h

/-- What becomes of this message. -/
theorem messageBatch_rejectedStep_first :
    ∃ results, ∃ t ∈ simulated.messageTurns [.shortMessage "first"] (World.initial refusing ()),
      Claimed [.shortMessage "first"] ∧
      (simulated.messageBatch true [.shortMessage "first"] (World.initial refusing ())).1 =
        .ok results ∧
      .built t.item (.ok deployStep) ∈ t.events ∧ deployStep.kind? = some .built ∧
      ∃ a d m, (a, d) ∈ simulated.submissions true [.shortMessage "first"]
          (World.initial refusing ()) ∧ d.Rejected ∧
        RejectedStep simulated Unit [.shortMessage "first"] results t.item m deployStep := by
  have hclaimed : Claimed [.shortMessage "first"] := ⟨by decide, by decide⟩
  have hreturns : (simulated.messageBatch true [.shortMessage "first"]
      (World.initial refusing ())).1 = .ok _ := rfl
  refine ⟨_, _, List.mem_cons_self, hclaimed, hreturns, List.mem_cons_self, rfl, ?_⟩
  obtain ⟨a, m, ha, -, -, hrejected⟩ := messageBatch_rejectedStep hclaimed hreturns
    List.mem_cons_self (o := deployStep) List.mem_cons_self rfl rfl
  cases ha
  exact ⟨_, _, m, List.mem_cons_self, .inl ⟨_, rfl, rfl⟩,
    hrejected _ List.mem_cons_self (.inl ⟨_, rfl, rfl⟩)⟩

end Relayer

end ChainRelay
