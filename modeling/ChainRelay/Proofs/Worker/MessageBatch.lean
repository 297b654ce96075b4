import ChainRelay.Proofs.Worker.Submission

/-!
# A batch of messages

Both passes of a batch put together: which items became attempts, what was sent for them, and what
the result holds.

## Main definitions

* `Relayer.messageTurns` — the first pass
* `Relayer.withSend` — a relayer whose transactions fare otherwise
* `Submitted` — what a batch of messages has done when it ends with a result

## Main results

* `Relayer.messageBatch_run` — both passes, however the batch ends
* `Relayer.messageBatch_submitted` — a batch of claimed items that ends with a result
-/

namespace ChainRelay

variable {σ τ β : Type}

/-- An approved message with one byte to execute. -/
def WorkItem.shortMessage (key : String) : WorkItem where
  family := .messageApproved
  key := key
  payload := .message ⟨"source-chain", key, "sender", "recipient", "hash", [1], "0", .null, .null⟩

/-! ### What a turn says -/

namespace BuildOutcome

variable {o : BuildOutcome} {item : WorkItem} {m : Message}

/-- Only a transaction that was built makes an attempt. -/
theorem decision?_eq_submit_iff {a : Attempt} :
    o.decision? item m = some (.submit a) ↔ o.kind? = some .built ∧ ∃ tx, o.transaction = some tx ∧
      a = ⟨{ Relayer.advancedBy item m o with txHash := some tx.txId }, tx, item.retry⟩ := by
  rw [decision?]
  cases hkind : o.kind? with
  | none => simp
  | some kind =>
    cases kind with
    | built =>
      cases htx : o.transaction with
      | none => simp
      | some tx => simp [eq_comm]
    | recoverable => simp
    | insufficientBalance => simp
    | invalidPayload => simp

theorem advancedBy_eq (item : WorkItem) (m : Message) (o : BuildOutcome) :
    Relayer.advancedBy item m o = { item with
      payload := .message { m with extra := o.extra }
      retry := if o.incrementRetry then item.retry + 1 else item.retry
      txHash := if o.incrementRetry then none else item.txHash } := by
  unfold Relayer.advancedBy
  cases o.incrementRetry <;> rfl

theorem advancedBy_status (item : WorkItem) (m : Message) (o : BuildOutcome) :
    (Relayer.advancedBy item m o).status = item.status := by
  rw [advancedBy_eq]

theorem advancedBy_rowKey (item : WorkItem) (m : Message) (o : BuildOutcome) :
    (Relayer.advancedBy item m o).rowKey = item.rowKey := by
  rw [advancedBy_eq]
  rfl

theorem advancedBy_retry (item : WorkItem) (m : Message) (o : BuildOutcome) :
    (Relayer.advancedBy item m o).retry =
      if o.incrementRetry then item.retry + 1 else item.retry := by
  rw [advancedBy_eq]

/-- A decision by a build that settles the item: it goes on without a transaction, is to be tried
again, or has failed. -/
theorem settle_cases {out : WorkItem} (h : o.decision? item m = some (.settle out)) :
    out = Relayer.advancedBy item m o ∨
      out = { item with retry := item.retry + 1, txHash := none } ∨
      out = { item with status := .failed } := by
  rw [decision?] at h
  cases hkind : o.kind? with
  | none => simp [hkind] at h
  | some kind =>
    rw [hkind] at h
    cases kind with
    | built =>
      cases htx : o.transaction with
      | none =>
        simp only [htx, Option.some.injEq, Decision.settle.injEq] at h
        exact .inl h.symm
      | some tx => simp [htx] at h
    | recoverable =>
      cases h
      exact .inr (.inl rfl)
    | insufficientBalance =>
      cases h
      exact .inr (.inr rfl)
    | invalidPayload =>
      cases h
      exact .inr (.inr rfl)

/-- A decision by a build is about the item that was built for, and completes nothing. -/
theorem settled_of_decision? {out : WorkItem} (h : o.decision? item m = some (.settle out)) :
    out.rowKey = item.rowKey ∧ (out.status = item.status ∨ out.status = .failed) := by
  rcases settle_cases h with rfl | rfl | rfl
  · exact ⟨advancedBy_rowKey item m o, .inl (advancedBy_status item m o)⟩
  · exact ⟨rfl, .inl rfl⟩
  · exact ⟨rfl, .inr rfl⟩

end BuildOutcome

namespace MessageCourse

variable {item : WorkItem} {events : List Event} {result : Except Halt Decision} {d : Decision}

/-- The first pass sends nothing. -/
theorem sent?_eq (h : MessageCourse item events result) : ∀ e ∈ events, e.sent? = none := by
  cases h with
  | givenUp _ asides _ => exact fun e he => (asides e he).sent?_eq
  | built _ _ _ asides _ =>
    intro e he
    rcases List.mem_cons.mp he with rfl | he
    · rfl
    · exact (asides e he).sent?_eq

/-- An attempt is the decision of a build. -/
theorem of_submit {a : Attempt} (h : MessageCourse item events (.ok (.submit a))) :
    ∃ m o, item.payload = .message m ∧ .built item (.ok o) ∈ events ∧
      o.decision? item m = some (.submit a) := by
  cases h with
  | givenUp _ _ decided => cases decided _ rfl
  | built payload _ _ _ decided =>
    obtain ⟨o, rfl, hd⟩ := decided _ rfl
    exact ⟨_, o, payload, List.mem_cons_self, hd⟩

/-- What was built decides. -/
theorem decided {o : BuildOutcome} (h : MessageCourse item events (.ok d))
    (hbuilt : .built item (.ok o) ∈ events) :
    ∃ m, item.payload = .message m ∧ m.payload.isEmpty = false ∧ o.decision? item m = some d := by
  cases h with
  | givenUp _ asides _ => exact absurd (asides _ hbuilt) Event.IsAside.not_built
  | built payload nonempty _ asides decided =>
    obtain ⟨o', rfl, hd⟩ := decided d rfl
    rcases List.mem_cons.mp hbuilt with hbuilt | hbuilt
    · cases hbuilt
      exact ⟨_, payload, nonempty, hd⟩
    · exact absurd (asides _ hbuilt) Event.IsAside.not_built

/-- A settled item is the item of the turn, and fresh work completes nothing. -/
theorem settled {out : WorkItem} (h : MessageCourse item events (.ok (.settle out))) :
    out.rowKey = item.rowKey ∧ (out.status = item.status ∨ out.status = .failed) := by
  cases h with
  | givenUp _ _ decided =>
    cases decided _ rfl
    exact ⟨rfl, .inr rfl⟩
  | built _ _ _ _ decided =>
    obtain ⟨o, -, hd⟩ := decided _ rfl
    exact BuildOutcome.settled_of_decision? hd

end MessageCourse

/-- The course of a message in a world. -/
abbrev MessageTurn (r : Relayer σ) (item : WorkItem) (w : World σ τ) :
    List Event → Except Halt Decision → Prop :=
  Course r item w item.hasContinuation (MessageCourse item) .leave
    (.settle { item with status := .success })

namespace MessageTurn

variable {r : Relayer σ} {item : WorkItem} {w : World σ τ} {events : List Event}
  {result : Except Halt Decision} {d : Decision}

theorem sent?_eq (h : MessageTurn r item w events result) : ∀ e ∈ events, e.sent? = none := by
  intro e he
  rcases h.looked_or_fresh with ⟨-, hlooked⟩ | ⟨rest, hfresh, hmem⟩
  · cases e <;> first | rfl | cases hlooked _ he
  · cases hlookup : e.isLookup with
    | true => cases e <;> first | rfl | cases hlookup
    | false => exact hfresh.sent?_eq e ((hmem e hlookup).mp he)

theorem of_submit {a : Attempt} (h : MessageTurn r item w events (.ok (.submit a))) :
    ∃ m o, item.payload = .message m ∧ .built item (.ok o) ∈ events ∧
      o.decision? item m = some (.submit a) := by
  rcases h.looked_or_fresh with ⟨hresult, -⟩ | ⟨rest, hfresh, hmem⟩
  · rcases hresult with h | h <;> cases h
  · obtain ⟨m, o, hpayload, hbuilt, hd⟩ := hfresh.of_submit
    exact ⟨m, o, hpayload, (hmem _ rfl).mpr hbuilt, hd⟩

theorem decided {o : BuildOutcome} (h : MessageTurn r item w events (.ok d))
    (hbuilt : .built item (.ok o) ∈ events) :
    ∃ m, item.payload = .message m ∧ m.payload.isEmpty = false ∧ o.decision? item m = some d := by
  rcases h.looked_or_fresh with ⟨-, hlooked⟩ | ⟨rest, hfresh, hmem⟩
  · cases hlooked _ hbuilt
  · exact hfresh.decided ((hmem _ rfl).mp hbuilt)

/-- A transaction that was built makes an attempt. -/
theorem submits {o : BuildOutcome} {tx : SignedTransaction}
    (h : MessageTurn r item w events (.ok d)) (hbuilt : .built item (.ok o) ∈ events)
    (hkind : o.kind? = some .built) (htx : o.transaction = some tx) :
    ∃ a, d = .submit a ∧ a.transaction = tx := by
  obtain ⟨m, -, -, hd⟩ := h.decided hbuilt
  simp only [BuildOutcome.decision?, hkind, htx] at hd
  exact ⟨_, (Option.some.inj hd).symm, rfl⟩

theorem settled {out : WorkItem} (h : MessageTurn r item w events (.ok (.settle out))) :
    out.rowKey = item.rowKey := by
  cases h with
  | unsent _ h => exact h.settled.1
  | finished _ _ _ => rfl
  | renewed _ _ h => exact h.settled.1

end MessageTurn

namespace Turn

/-- The attempt that a turn has made. -/
def attempt? (t : Turn σ τ Decision) : Option Attempt := t.value?.bind Decision.attempt?

/-- The item that a turn has settled. -/
def settled? (t : Turn σ τ Decision) : Option WorkItem := t.value?.bind Decision.settled?

/-- A transaction was built in a turn, for the item of the turn. -/
def Builds (t : Turn σ τ β) (transaction : SignedTransaction) : Prop :=
  ∃ o, .built t.item (.ok o) ∈ t.events ∧ o.kind? = some .built ∧ o.transaction = some transaction

theorem attempt?_eq_some_iff {t : Turn σ τ Decision} {a : Attempt} :
    t.attempt? = some a ↔ t.result = .ok (.submit a) := by
  rw [attempt?, Option.bind_eq_some_iff]
  constructor
  · rintro ⟨d, hvalue, hd⟩
    cases d <;> cases hd
    exact value?_eq_some_iff.mp hvalue
  · intro h
    exact ⟨_, value?_eq_some_iff.mpr h, rfl⟩

theorem settled?_eq_some_iff {t : Turn σ τ Decision} {out : WorkItem} :
    t.settled? = some out ↔ t.result = .ok (.settle out) := by
  rw [settled?, Option.bind_eq_some_iff]
  constructor
  · rintro ⟨d, hvalue, hd⟩
    cases d <;> cases hd
    exact value?_eq_some_iff.mp hvalue
  · intro h
    exact ⟨_, value?_eq_some_iff.mpr h, rfl⟩

end Turn

/-! ### Both passes -/

namespace Relayer

/-- The turns of the first pass, which begins after the line that announces the batch. -/
def messageTurns (r : Relayer σ) (items : List WorkItem) (w : World σ τ) :
    List (Turn σ τ Decision) :=
  Work.turns r.decideMessage items { w with journal := w.journal ++ [messageHeading items] }

variable {r : Relayer σ} {items : List WorkItem} {w : World σ τ}

theorem course_of_mem_messageTurns {t : Turn σ τ Decision} (ht : t ∈ r.messageTurns items w) :
    MessageTurn r t.item t.before t.events t.result :=
  Work.holds_of_mem_turns
    (P := fun item w events result => MessageTurn r item w events result)
    r.decideMessage_course ht

/-- **Both passes.** The record of a batch is that of its turns and then that of its submission,
however the batch ends; its result is made of what was settled and what was submitted. -/
theorem messageBatch_run (r : Relayer σ) (ordered : Bool) (items : List WorkItem)
    (w : World σ τ) :
    ∃ deliveries : List Delivery,
      w.Later (r.messageBatch ordered items w).2
        ((r.messageTurns items w).flatMap Turn.events ++
          List.zipWith Attempt.delivered ((r.messageTurns items w).filterMap Turn.attempt?)
            deliveries) ∧
      deliveries.length ≤ ((r.messageTurns items w).filterMap Turn.attempt?).length ∧
      ∀ results, (r.messageBatch ordered items w).1 = .ok results →
        (r.messageTurns items w).map Turn.item = items ∧
        (∀ t ∈ r.messageTurns items w, ∃ d, t.result = .ok d) ∧
        results = (r.messageTurns items w).filterMap Turn.settled? ++
          List.zipWith Attempt.outcome ((r.messageTurns items w).filterMap Turn.attempt?)
            deliveries ∧
        Complete ordered ((r.messageTurns items w).filterMap Turn.attempt?).length
          deliveries := by
  obtain ⟨w₀, hw₀⟩ : ∃ w₀, w₀ = { w with journal := w.journal ++ [messageHeading items] } :=
    ⟨_, rfl⟩
  have hlog : Work.log (messageHeading items) w = (.ok (), w₀) := by
    rw [Work.log_apply, hw₀]
  have hannounced : w.Later w₀ [] := ⟨w.env, w₀.journal, by rw [hw₀, List.append_nil]⟩
  have hturns : r.messageTurns items w = Work.turns r.decideMessage items w₀ := by
    rw [messageTurns, hw₀]
  have hfirst : w₀.Later ((items.mapM r.decideMessage) w₀).2
      ((Work.turns r.decideMessage items w₀).flatMap Turn.events) :=
    Work.mapM_later (fun item w => (r.decideMessage_course item w).imp fun _ h => h.1) items w₀
  rw [hturns, messageBatch, Work.bind_apply_of_ok hlog, Work.bind_apply]
  cases hmap : items.mapM r.decideMessage w₀ with
  | mk result w₁ =>
    rw [hmap] at hfirst
    cases result with
    | error halt =>
      refine ⟨[], ?_, Nat.zero_le _, fun results h => by cases h⟩
      rw [List.zipWith_nil_right, List.append_nil]
      exact hannounced.trans hfirst
    | ok decisions =>
      have hvalues : ((items.mapM r.decideMessage) w₀).1 = .ok decisions := by rw [hmap]
      have hitems := (Work.turns_of_mapM hvalues).1
      have hattempts : decisions.filterMap Decision.attempt? =
          (Work.turns r.decideMessage items w₀).filterMap Turn.attempt? :=
        Work.filterMap_of_mapM hvalues Decision.attempt?
      have hsettled : decisions.filterMap Decision.settled? =
          (Work.turns r.decideMessage items w₀).filterMap Turn.settled? :=
        Work.filterMap_of_mapM hvalues Decision.settled?
      obtain ⟨events, hsecond, deliveries, hlength, rfl, hout⟩ :=
        r.submit_asks ordered (decisions.filterMap Decision.attempt?) w₁
      rw [hattempts] at hsecond hlength hout
      refine ⟨deliveries, ?_, hlength, ?_⟩
      · have hlater := (hannounced.trans hfirst).trans hsecond
        dsimp only
        rw [Work.bind_apply, hattempts]
        cases hsubmit : r.submit ordered ((Work.turns r.decideMessage items w₀).filterMap
            Turn.attempt?) w₁ with
        | mk submitted w₂ =>
          rw [hsubmit] at hlater
          cases submitted with
          | ok out => exact hlater
          | error halt => exact hlater
      · intro results h
        obtain ⟨w', hrun⟩ : ∃ w', (r.submit ordered (decisions.filterMap Decision.attempt?) >>=
            fun submitted => pure (decisions.filterMap Decision.settled? ++ submitted)) w₁ =
              (.ok results, w') := ⟨_, Prod.ext h rfl⟩
        obtain ⟨submitted, w₂, hsubmit, hpure⟩ := Work.bind_apply_eq_ok hrun
        cases hpure
        rw [hattempts] at hsubmit
        obtain ⟨rfl, hcomplete⟩ := hout submitted (by rw [hsubmit])
        exact ⟨hitems, fun t ht => Work.result_of_mem_turns hvalues ht, by rw [hsettled],
          hcomplete⟩

/-- What an attempt carries over from the item that it was made for. -/
theorem attempt_of_mem_messageTurns {t : Turn σ τ Decision} (ht : t ∈ r.messageTurns items w)
    {a : Attempt} (ha : t.attempt? = some a) :
    t.Builds a.transaction ∧ a.advanced.rowKey = t.item.rowKey ∧
      a.advanced.status = t.item.status ∧ a.advanced.txHash = some a.transaction.txId ∧
      a.claimedRetry = t.item.retry ∧
      (a.advanced.retry = t.item.retry ∨ a.advanced.retry = t.item.retry + 1) := by
  have hcourse := course_of_mem_messageTurns ht
  rw [Turn.attempt?_eq_some_iff.mp ha] at hcourse
  obtain ⟨m, o, -, hbuilt, hd⟩ := hcourse.of_submit
  obtain ⟨hkind, tx, htx, rfl⟩ := BuildOutcome.decision?_eq_submit_iff.mp hd
  refine ⟨⟨o, hbuilt, hkind, htx⟩, BuildOutcome.advancedBy_rowKey _ m o,
    BuildOutcome.advancedBy_status _ m o, rfl, rfl, ?_⟩
  change (advancedBy t.item m o).retry = _ ∨ (advancedBy t.item m o).retry = _
  rw [BuildOutcome.advancedBy_retry]
  split
  · exact .inr rfl
  · exact .inl rfl

end Relayer

/-! ### What was submitted -/

/-- What is paired with one of `n` values is among the first `n`. -/
theorem mem_take_of_mem_zip {α γ : Type} {as : List α} {cs : List γ} {a : α} {c : γ}
    (h : (a, c) ∈ as.zip cs) : a ∈ as.take cs.length := by
  rw [List.zip_eq_zip_take_min] at h
  exact List.take_subset_take_left _ (Nat.min_le_right _ _) (List.of_mem_zip h).1

/-- Values that are derived from some members of a list, each one from its own. -/
theorem map_filterMap_sublist {α γ δ : Type} {as : List α} {f : α → Option γ} {g : γ → δ}
    {h : α → δ} (hfg : ∀ a ∈ as, ∀ c, f a = some c → g c = h a) :
    List.Sublist ((as.filterMap f).map g) (as.map h) := by
  induction as with
  | nil => exact List.Sublist.slnil
  | cons a rest ih =>
    have hrest := ih fun a ha => hfg a (List.mem_cons_of_mem _ ha)
    rw [List.filterMap_cons]
    cases hf : f a with
    | none => exact hrest.cons _
    | some c =>
      rw [List.map_cons, List.map_cons, hfg a List.mem_cons_self c hf]
      exact hrest.cons_cons _

namespace Attempt

variable {a : Attempt}

/-- An accepted item holds the hash under which its transaction is known. -/
theorem accepted_eq (h : a.advanced.txHash = some a.transaction.txId) (result : SendResult) :
    a.accepted result = { a.advanced with txHash := some (a.acceptedHash result) } := by
  have hself : { a.advanced with txHash := some a.transaction.txId } = a.advanced := by rw [← h]
  unfold accepted acceptedHash
  cases result.txHash with
  | none => exact hself.symm
  | some hash =>
    dsimp only
    by_cases hempty : hash = ""
    · rw [if_pos hempty, if_pos hempty]
      exact hself.symm
    · rw [if_neg hempty, if_neg hempty]

/-- A rejected item pays one retry, whether or not it was counted as one when it was built. -/
theorem rejected_retry
    (h : a.advanced.retry = a.claimedRetry ∨ a.advanced.retry = a.claimedRetry + 1) :
    a.rejected.retry = a.claimedRetry + 1 := by
  change max a.advanced.retry (a.claimedRetry + 1) = a.claimedRetry + 1
  omega

end Attempt

/-- What a batch of messages has done that began in `w` and ended in `w'` with `results`. Its first
pass is `turns`, and `deliveries` is what became of the transactions that it sent. -/
structure Submitted (ordered : Bool) (items : List WorkItem) (turns : List (Turn σ τ Decision))
    (w w' : World σ τ) (results : List WorkItem) (deliveries : List Delivery) : Prop where
  /-- Every item has had its turn, in the order of the claim. -/
  order : turns.map Turn.item = items
  /-- The attempts are the items for which a transaction was built. -/
  attempts : ∀ t ∈ turns, ∀ tx, t.Builds tx ↔ ∃ a, t.attempt? = some a ∧ a.transaction = tx
  /-- Nothing is sent before all items are decided. -/
  unsent : ∀ t ∈ turns, ∀ e ∈ t.events, e.sent? = none
  /-- Transactions are sent in the order of the attempts. -/
  sends : w'.trace = w.trace ++ turns.flatMap Turn.events ++
    List.zipWith Attempt.delivered (turns.filterMap Turn.attempt?) deliveries
  complete : Complete ordered (turns.filterMap Turn.attempt?).length deliveries
  /-- What is returned for the attempts comes after what was settled. -/
  returned : results = turns.filterMap Turn.settled? ++
    List.zipWith Attempt.outcome (turns.filterMap Turn.attempt?) deliveries
  accepted : ∀ t ∈ turns, ∀ a d, t.attempt? = some a →
    (a, d) ∈ (turns.filterMap Turn.attempt?).zip deliveries →
    ∀ answer : SendResult, d = .ok answer → answer.success = true →
      a.outcome d = { a.advanced with txHash := some (a.acceptedHash answer) } ∧
      a.advanced.rowKey = t.item.rowKey ∧ a.advanced.status = .pending
  rejected : ∀ t ∈ turns, ∀ a d, t.attempt? = some a →
    (a, d) ∈ (turns.filterMap Turn.attempt?).zip deliveries → d.Rejected →
      (a.outcome d).rowKey = t.item.rowKey ∧ (a.outcome d).status = .pending ∧
      (a.outcome d).txHash = none ∧ (a.outcome d).retry = t.item.retry + 1
  /-- An item whose transaction was not sent is not returned, and a commit leaves its row alone. -/
  skipped : ∀ t ∈ turns, ∀ a ∈ (turns.filterMap Turn.attempt?).drop deliveries.length,
    t.attempt? = some a → t.item.rowKey ∉ results.map WorkItem.rowKey ∧
      ∀ (s s' : Store) (family : Family) (claimed : List WorkItem) (now : Instant),
        s.commit family claimed results now = .ok s' →
        s'.row? t.item.rowKey = s.row? t.item.rowKey

namespace Relayer

/-- The relayer with another way to send the transactions of messages. -/
def withSend (r : Relayer σ) (send : SignedTransaction → Answers σ SendResult) : Relayer σ :=
  { r with collaborators := { r.collaborators with
      messages := { r.collaborators.messages with send } } }

section

variable (r : Relayer σ) (send : SignedTransaction → Answers σ SendResult) (item : WorkItem)

theorem reviewResults_withSend (events : List Json) (correlation : String) (tell : Bool)
    (results : List EventResult) :
    ((r.withSend send).reviewResults events correlation tell results : Work σ τ Unit) =
      r.reviewResults events correlation tell results := by
  induction results with
  | nil => rfl
  | cons result rest ih =>
    rw [reviewResults, reviewResults, ih]
    rfl

theorem tellHub_withSend (reason : CannotExecute) :
    ((r.withSend send).tellHub item reason : Work σ τ Unit) = r.tellHub item reason := by
  unfold tellHub publish
  simp only [reviewResults_withSend]
  rfl

theorem failTerminal_withSend (reason : CannotExecute) :
    ((r.withSend send).failTerminal item reason : Work σ τ WorkItem) =
      r.failTerminal item reason := by
  unfold failTerminal
  rw [tellHub_withSend]
  rfl

theorem decideFresh_withSend :
    ((r.withSend send).decideFresh item : Work σ τ Decision) = r.decideFresh item := by
  unfold decideFresh decideByBuild
  simp only [failTerminal_withSend]
  rfl

theorem decideMessage_withSend :
    ((r.withSend send).decideMessage item : Work σ τ Decision) = r.decideMessage item := by
  have hresolved (txHash : String) (confirmation : Confirmation) :
      ((r.withSend send).decideResolved item txHash confirmation : Work σ τ Decision) =
        r.decideResolved item txHash confirmation := by
    cases confirmation <;> simp only [decideResolved, decideFresh_withSend]
  unfold decideMessage
  simp only [decideFresh_withSend, hresolved]
  rfl

/-- The first pass does not depend on how transactions are sent. -/
theorem messageTurns_withSend (items : List WorkItem) (w : World σ τ) :
    (r.withSend send).messageTurns items w = r.messageTurns items w := by
  have hdecide : ((r.withSend send).decideMessage : WorkItem → Work σ τ Decision) =
      r.decideMessage := funext fun item => r.decideMessage_withSend send item
  rw [messageTurns, messageTurns, hdecide]

end

variable {r : Relayer σ} {items : List WorkItem} {w : World σ τ}

/-- The items of attempts are those of their turns, each once. -/
theorem nodup_attempts (hclaimed : Claimed items) :
    (((r.messageTurns items w).filterMap Turn.attempt?).map fun a => a.advanced.rowKey).Nodup := by
  have hsublist : List.Sublist
      (((r.messageTurns items w).filterMap Turn.attempt?).map fun a => a.advanced.rowKey)
      ((r.messageTurns items w).map fun t => t.item.rowKey) :=
    map_filterMap_sublist fun t ht a ha => (attempt_of_mem_messageTurns ht ha).2.1
  exact (Work.nodup_rowKey_turns hclaimed.distinct).sublist hsublist

/-- An item whose transaction was not sent is not returned. -/
theorem not_mem_of_skipped (hclaimed : Claimed items) {deliveries : List Delivery}
    {t : Turn σ τ Decision} (ht : t ∈ r.messageTurns items w) {a : Attempt}
    (ha : t.attempt? = some a)
    (hdrop : a ∈ ((r.messageTurns items w).filterMap Turn.attempt?).drop deliveries.length) :
    t.item.rowKey ∉ ((r.messageTurns items w).filterMap Turn.settled? ++
      List.zipWith Attempt.outcome ((r.messageTurns items w).filterMap Turn.attempt?)
        deliveries).map WorkItem.rowKey := by
  have hkey := (attempt_of_mem_messageTurns ht ha).2.1
  rw [List.map_append, List.mem_append]
  rintro (h | h)
  · -- one turn does not both settle and submit
    obtain ⟨out, hout, houtkey⟩ := List.mem_map.mp h
    obtain ⟨t', ht', hsettled⟩ := List.mem_filterMap.mp hout
    have hcourse := course_of_mem_messageTurns ht'
    rw [Turn.settled?_eq_some_iff.mp hsettled] at hcourse
    have hsame : t' = t :=
      Work.eq_of_rowKey_eq hclaimed.distinct ht' ht (hcourse.settled.symm.trans houtkey)
    rw [Turn.settled?_eq_some_iff, hsame, Turn.attempt?_eq_some_iff.mp ha] at hsettled
    cases hsettled
  · -- what was sent comes before what was not
    obtain ⟨out, hout, houtkey⟩ := List.mem_map.mp h
    rw [← List.map_uncurry_zip_eq_zipWith] at hout
    obtain ⟨⟨a', d⟩, hmem, rfl⟩ := List.mem_map.mp hout
    obtain ⟨txHash, retry, houtcome⟩ := a'.outcome_eq d
    have htake : a' ∈ ((r.messageTurns items w).filterMap Turn.attempt?).take
        deliveries.length := mem_take_of_mem_zip hmem
    have hnodup := nodup_attempts (r := r) (w := w) hclaimed
    rw [← List.take_append_drop deliveries.length
      ((r.messageTurns items w).filterMap Turn.attempt?), List.map_append] at hnodup
    refine List.disjoint_of_nodup_append hnodup (List.mem_map_of_mem htake) ?_
    rw [Function.uncurry_apply_pair, houtcome] at houtkey
    exact List.mem_map.mpr ⟨a, hdrop, hkey.trans houtkey.symm⟩

/-- **Submission of a batch.** Whatever becomes of the transactions, and whether or not their order
matters: what was built is sent in the order of the claim, up to the first rejection if the order
matters; what was sent is returned with its hash or at the cost of a retry; what was not sent is
left alone. What is settled in the first pass is returned in any case, and is the same for every
way to send. -/
theorem messageBatch_submitted (r : Relayer σ) {items : List WorkItem}
    (hclaimed : Claimed items) (w : World σ τ)
    (send : SignedTransaction → Answers σ SendResult) (ordered : Bool) {results : List WorkItem}
    (hreturns : ((r.withSend send).messageBatch ordered items w).1 = .ok results) :
    ∃ deliveries, Submitted ordered items (r.messageTurns items w) w
      ((r.withSend send).messageBatch ordered items w).2 results deliveries := by
  obtain ⟨deliveries, later, -, hends⟩ := (r.withSend send).messageBatch_run ordered items w
  rw [messageTurns_withSend] at later hends
  obtain ⟨horder, hvalues, hresults, hcomplete⟩ := hends results hreturns
  have hpending : ∀ t ∈ r.messageTurns items w, t.item.status = .pending := by
    intro t ht
    refine hclaimed.pending t.item ?_
    rw [← horder]
    exact List.mem_map_of_mem ht
  refine ⟨deliveries, horder, fun t ht tx => ?_,
    fun t ht => (course_of_mem_messageTurns ht).sent?_eq, ?_, hcomplete, hresults, ?_, ?_, ?_⟩
  · constructor
    · rintro ⟨o, hbuilt, hkind, htx⟩
      obtain ⟨d, hd⟩ := hvalues t ht
      have hcourse := course_of_mem_messageTurns ht
      rw [hd] at hcourse
      obtain ⟨a, rfl, hatx⟩ := hcourse.submits hbuilt hkind htx
      exact ⟨a, Turn.attempt?_eq_some_iff.mpr hd, hatx⟩
    · rintro ⟨a, ha, rfl⟩
      exact (attempt_of_mem_messageTurns ht ha).1
  · rw [later.trace_eq, List.append_assoc]
  · intro t ht a d ha _ answer hd hsuccess
    obtain ⟨-, hkey, hstatus, htxHash, -⟩ := attempt_of_mem_messageTurns ht ha
    rw [hd, Attempt.outcome_of_accepted hsuccess, Attempt.accepted_eq htxHash]
    exact ⟨rfl, hkey, hstatus.trans (hpending t ht)⟩
  · intro t ht a d ha _ hrejected
    obtain ⟨-, hkey, hstatus, -, hclaimedRetry, hretry⟩ := attempt_of_mem_messageTurns ht ha
    rw [← hclaimedRetry] at hretry
    rw [Attempt.outcome_of_rejected hrejected]
    refine ⟨hkey, hstatus.trans (hpending t ht), rfl, ?_⟩
    rw [Attempt.rejected_retry hretry, hclaimedRetry]
  · intro t ht a hdrop ha
    have hkey : t.item.rowKey ∉ results.map WorkItem.rowKey := by
      rw [hresults]
      exact not_mem_of_skipped hclaimed ht ha hdrop
    exact ⟨hkey, fun s s' family claimed now h => Store.row?_commit h hkey⟩

/-- With ordered submission the second of two messages is left alone if the first one is
rejected. -/
theorem messageBatch_submitted_cut :
    ∃ results deliveries, results.map WorkItem.key = ["first"] ∧
      Submitted true [.shortMessage "first", .shortMessage "second"]
        (simulated.messageTurns [.shortMessage "first", .shortMessage "second"]
          (World.initial {} ()))
        (World.initial {} ())
        ((simulated.withSend fun _ env => (.ok { success := false }, env)).messageBatch true
          [.shortMessage "first", .shortMessage "second"] (World.initial {} ())).2
        results deliveries := by
  have hclaimed : Claimed [.shortMessage "first", .shortMessage "second"] :=
    ⟨by decide, by decide⟩
  obtain ⟨deliveries, h⟩ := messageBatch_submitted simulated hclaimed (World.initial {} ())
    (fun _ env => (.ok { success := false }, env)) true rfl
  exact ⟨_, deliveries, rfl, h⟩

end Relayer

end ChainRelay
