import ChainRelay.Proofs.Queue.Rows
import ChainRelay.Proofs.Worker.MessageBatch

/-!
# What a batch makes of a message

An attempt on a message fails in one of two ways: the executor could not build a transaction this
time, or the transaction was built and sent and not accepted. Both are read off the record of the
batch. Whatever else is in the batch, a message in it has one turn and fails at most once.

## The contract

A failed attempt costs one retry and the handle, whether or not the build has counted it already. A
message is left out of the results if it waits, or if another transaction was rejected before its
own could be sent. Nothing else is built or sent for a message that has reached the ceiling.

## Main definitions

* `Relayer.deliveries`, `Relayer.submissions` — what became of the transactions of a batch
* `Relayer.failures` — how many attempts on an item have failed in a batch
* `Verdict` — what a batch makes of an item, by the number of its failures

## Main results

* `Relayer.messageBatch_later` — everything that a batch sends is one of its submissions
* `Relayer.messageBatch_verdict` — every item of a batch that ends with results gets its verdict
* `Relayer.sound_messageBatch` — the results can be committed
* `Relayer.messageTurn_at_ceiling` — a message that has reached the ceiling is given up
-/

namespace ChainRelay

variable {σ τ : Type}

/-! ### Failed attempts -/

namespace Event

/-- A build that is to be tried again. -/
def isSetback : Event → Bool
  | built _ (.ok outcome) => outcome.kind? == some .recoverable
  | _ => false

/-- What became of a transaction that was sent. -/
def delivery? : Event → Option Delivery
  | sent _ d => some d
  | _ => none

theorem IsAside.isSetback_eq {e : Event} (h : e.IsAside) : e.isSetback = false := by
  cases e <;> first | rfl | cases h.2

theorem delivery?_eq_none {e : Event} (h : e.sent? = none) : e.delivery? = none := by
  cases e <;> first | rfl | cases h

/-- Reports are no setbacks. -/
theorem countP_isSetback_of_asides {events : List Event} (h : ∀ e ∈ events, e.IsAside) :
    events.countP isSetback = 0 := by
  rw [List.countP_eq_zero]
  intro e he
  simp [(h e he).isSetback_eq]

end Event

/-- Whether a transaction was not accepted. -/
def Delivery.isRejected : Delivery → Bool
  | .ok result => !result.success
  | .error _ => true

theorem Delivery.Accepted.isRejected_eq {d : Delivery} (h : d.Accepted) :
    d.isRejected = false := by
  obtain ⟨result, rfl, hsuccess⟩ := h
  simp [isRejected, hsuccess]

theorem Delivery.Rejected.isRejected_eq {d : Delivery} (h : d.Rejected) : d.isRejected = true := by
  rcases h with ⟨result, rfl, hsuccess⟩ | ⟨fault, rfl, -⟩
  · simp [isRejected, hsuccess]
  · rfl

theorem Complete.accepted_or_rejected {ordered : Bool} {n : ℕ} {deliveries : List Delivery}
    (h : Complete ordered n deliveries) : ∀ d ∈ deliveries, d.Accepted ∨ d.Rejected := by
  intro d hd
  rcases h with ⟨-, hall⟩ | ⟨-, -, firsts, last, rfl, hfirsts, hlast⟩
  · exact (hall d hd).imp id And.left
  · rcases List.mem_append.mp hd with hmem | hmem
    · exact .inl (hfirsts d hmem)
    · rw [List.mem_singleton.mp hmem]
      exact .inr hlast

/-- The record of a submission says what became of each transaction. -/
theorem Attempt.filterMap_delivered {attempts : List Attempt} {deliveries : List Delivery}
    (h : deliveries.length ≤ attempts.length) :
    (List.zipWith Attempt.delivered attempts deliveries).filterMap Event.delivery? =
      deliveries := by
  induction attempts generalizing deliveries with
  | nil => rw [List.length_eq_zero_iff.mp (Nat.le_zero.mp h)]; rfl
  | cons a rest ih =>
    cases deliveries with
    | nil => rfl
    | cons d deliveries =>
      rw [List.zipWith_cons_cons,
        List.filterMap_cons_some (show (a.delivered d).delivery? = some d from rfl),
        ih (Nat.le_of_succ_le_succ h)]

namespace Relayer

/-- What became of the transactions that a batch has sent, in the order in which they were sent. -/
def deliveries (r : Relayer σ) (ordered : Bool) (items : List WorkItem) (w : World σ τ) :
    List Delivery :=
  ((r.messageBatch ordered items w).2.trace.drop w.trace.length).filterMap Event.delivery?

/-- The attempts of a batch with what became of their transactions. -/
def submissions (r : Relayer σ) (ordered : Bool) (items : List WorkItem) (w : World σ τ) :
    List (Attempt × Delivery) :=
  ((r.messageTurns items w).filterMap Turn.attempt?).zip (r.deliveries ordered items w)

/-- How many attempts on the item of a key have failed in a batch: builds that are to be tried
again, and transactions that were not accepted. -/
def failures (r : Relayer σ) (ordered : Bool) (items : List WorkItem) (w : World σ τ)
    (key : RowKey) : ℕ :=
  (((r.messageTurns items w).filter fun t => t.item.rowKey == key).flatMap Turn.events).countP
      Event.isSetback +
    ((r.submissions ordered items w).filter fun s => s.1.advanced.rowKey == key).countP
      fun s => s.2.isRejected

variable {r : Relayer σ} {ordered : Bool} {items results : List WorkItem} {w : World σ τ}

/-- The transactions of a batch are sent in its second pass only. -/
theorem deliveries_eq {ds : List Delivery}
    (later : w.Later (r.messageBatch ordered items w).2
      ((r.messageTurns items w).flatMap Turn.events ++
        List.zipWith Attempt.delivered ((r.messageTurns items w).filterMap Turn.attempt?) ds))
    (hlength : ds.length ≤ ((r.messageTurns items w).filterMap Turn.attempt?).length) :
    r.deliveries ordered items w = ds := by
  have hunsent : ((r.messageTurns items w).flatMap Turn.events).filterMap Event.delivery? = [] := by
    refine List.filterMap_eq_nil_iff.mpr fun e he => ?_
    obtain ⟨t, ht, he⟩ := List.mem_flatMap.mp he
    exact Event.delivery?_eq_none ((course_of_mem_messageTurns ht).sent?_eq e he)
  rw [deliveries, later.drop_trace, List.filterMap_append, hunsent, List.nil_append,
    Attempt.filterMap_delivered hlength]

/-- **The record of a batch** is that of its turns and then that of its submissions: nothing else is
built or sent. -/
theorem messageBatch_later (r : Relayer σ) (ordered : Bool) (items : List WorkItem)
    (w : World σ τ) : w.Later (r.messageBatch ordered items w).2
      ((r.messageTurns items w).flatMap Turn.events ++
        (r.submissions ordered items w).map fun s => s.1.delivered s.2) := by
  obtain ⟨ds, later, hlength, -⟩ := r.messageBatch_run ordered items w
  have hsubmissions : (r.submissions ordered items w).map (fun s => s.1.delivered s.2) =
      List.zipWith Attempt.delivered ((r.messageTurns items w).filterMap Turn.attempt?) ds := by
    rw [submissions, deliveries_eq later hlength, ← List.map_uncurry_zip_eq_zipWith]
    rfl
  rw [hsubmissions]
  exact later

/-- A batch that ends with results, by its two passes. -/
theorem of_messageBatch (h : (r.messageBatch ordered items w).1 = .ok results) :
    (r.messageTurns items w).map Turn.item = items ∧
      (∀ t ∈ r.messageTurns items w, ∃ d, t.result = .ok d) ∧
      results = (r.messageTurns items w).filterMap Turn.settled? ++
        (r.submissions ordered items w).map (fun s => s.1.outcome s.2) ∧
      ∀ d ∈ r.deliveries ordered items w, d.Accepted ∨ d.Rejected := by
  obtain ⟨ds, later, hlength, hends⟩ := r.messageBatch_run ordered items w
  have hdeliveries := deliveries_eq later hlength
  obtain ⟨horder, hvalues, hresults, hcomplete⟩ := hends results h
  refine ⟨horder, hvalues, ?_, ?_⟩
  · rw [hresults, submissions, hdeliveries, ← List.map_uncurry_zip_eq_zipWith]
    rfl
  · rw [hdeliveries]
    exact hcomplete.accepted_or_rejected

end Relayer

/-! ### One turn -/

namespace MessageCourse

variable {item : WorkItem} {events : List Event} {result : Except Halt Decision} {d : Decision}

/-- A setback is a decision of its own, and there is at most one. -/
theorem setback (h : MessageCourse item events (.ok d)) :
    events.countP Event.isSetback = 0 ∨
      (events.countP Event.isSetback = 1 ∧ ceilingReached item.retry retryCeiling = false ∧
        d = .settle { item with retry := item.retry + 1, txHash := none }) := by
  cases h with
  | givenUp _ asides _ => exact .inl (Event.countP_isSetback_of_asides asides)
  | built _ _ hopeful asides decided =>
    obtain ⟨o, rfl, hd⟩ := decided d rfl
    rw [List.countP_cons, Event.countP_isSetback_of_asides asides]
    cases hsetback : (Event.built item (.ok o)).isSetback with
    | false => exact .inl rfl
    | true =>
      refine .inr ⟨rfl, hopeful, ?_⟩
      have hkind : o.kind? = some .recoverable := by simpa [Event.isSetback] using hsetback
      rw [BuildOutcome.decision?, hkind] at hd
      exact (Option.some.inj hd).symm

/-- A settled item has paid one retry at most, and none at the ceiling. -/
theorem settled_retry {out : WorkItem} (h : MessageCourse item events (.ok (.settle out))) :
    out.retry = item.retry ∨
      (ceilingReached item.retry retryCeiling = false ∧ out.retry = item.retry + 1) := by
  cases h with
  | givenUp _ _ decided =>
    cases decided _ rfl
    exact .inl rfl
  | @built m _ _ _ _ _ hopeful _ decided =>
    obtain ⟨o, -, hd⟩ := decided _ rfl
    rcases BuildOutcome.settle_cases hd with rfl | rfl | rfl
    · rw [BuildOutcome.advancedBy_retry]
      split
      · exact .inr ⟨hopeful, rfl⟩
      · exact .inl rfl
    · exact .inr ⟨hopeful, rfl⟩
    · exact .inl rfl

/-- Nothing is attempted at the ceiling. -/
theorem at_ceiling (h : MessageCourse item events (.ok d))
    (hceiling : ceilingReached item.retry retryCeiling = true) :
    d = .settle { item with status := .failed } ∧ ∀ e ∈ events, e.IsAside := by
  cases h with
  | givenUp _ asides decided => exact ⟨decided d rfl, asides⟩
  | built _ _ hopeful _ _ =>
    rw [hceiling] at hopeful
    cases hopeful

end MessageCourse

namespace MessageTurn

variable {r : Relayer σ} {item : WorkItem} {w : World σ τ} {events : List Event} {d : Decision}

theorem setback (h : MessageTurn r item w events (.ok d)) :
    events.countP Event.isSetback = 0 ∨
      (events.countP Event.isSetback = 1 ∧ ceilingReached item.retry retryCeiling = false ∧
        d = .settle { item with retry := item.retry + 1, txHash := none }) := by
  have hlookup (txHash : String) (answer : Except Fault (Option ChainTransaction)) :
      (Event.lookedUp txHash answer).isSetback = false := rfl
  cases h with
  | unsent _ h => exact h.setback
  | left _ _ => exact .inl rfl
  | finished _ _ _ => exact .inl rfl
  | renewed _ _ h =>
    rw [List.countP_cons_of_neg (by simp [hlookup])]
    exact h.setback

theorem settled_retry {out : WorkItem} (h : MessageTurn r item w events (.ok (.settle out))) :
    out.retry = item.retry ∨
      (ceilingReached item.retry retryCeiling = false ∧ out.retry = item.retry + 1) := by
  cases h with
  | unsent _ h => exact h.settled_retry
  | finished _ _ _ => exact .inl rfl
  | renewed _ _ h => exact h.settled_retry

theorem submit_hopeful {a : Attempt} (h : MessageTurn r item w events (.ok (.submit a))) :
    ceilingReached item.retry retryCeiling = false := by
  have hcourse {events : List Event} (h : MessageCourse item events (.ok (.submit a))) :
      ceilingReached item.retry retryCeiling = false := by
    cases hceiling : ceilingReached item.retry retryCeiling with
    | false => rfl
    | true => cases (h.at_ceiling hceiling).1
  cases h with
  | unsent _ h => exact hcourse h
  | renewed _ _ h => exact hcourse h

/-- At the ceiling there is nothing but a look at what is in flight, unless that may still
succeed. -/
theorem at_ceiling (h : MessageTurn r item w events (.ok d))
    (hceiling : ceilingReached item.retry retryCeiling = true)
    (hfree : item.txHash = none ∨ ∃ txHash, item.txHash = some txHash ∧
      (r.sighting txHash w).Releases (r.age item txHash w) item.hasContinuation) :
    d = .settle { item with status := .failed } ∧ ∀ e ∈ events, e.isAttempt = false := by
  -- what is in flight is out of the way
  have hreleases {txHash : String} (hsent : item.txHash = some txHash) :
      (r.sighting txHash w).Releases (r.age item txHash w) item.hasContinuation := by
    rcases hfree with hnone | ⟨txHash', hsent', hreleases⟩
    · rw [hsent] at hnone
      cases hnone
    · rw [hsent] at hsent'
      cases hsent'
      exact hreleases
  cases h with
  | unsent _ hfresh =>
    obtain ⟨hdecided, hasides⟩ := hfresh.at_ceiling hceiling
    exact ⟨hdecided, fun e he => (hasides e he).2⟩
  | left sent waiting => exact absurd (hreleases sent) waiting.not_releases
  | finished sent succeeded last =>
    rcases hreleases sent with hfailed | ⟨hunsettled, -⟩ | ⟨-, hcontinues⟩
    · exact absurd hfailed succeeded.not_failed
    · exact absurd hunsettled succeeded.not_unsettled
    · rw [last] at hcontinues
      cases hcontinues
  | renewed _ _ hfresh =>
    obtain ⟨hdecided, hasides⟩ := hfresh.at_ceiling hceiling
    refine ⟨hdecided, fun e he => ?_⟩
    rcases List.mem_cons.mp he with rfl | he
    · rfl
    · exact (hasides e he).2

end MessageTurn

/-! ### The verdict -/

/-- What a batch that ends with `results` makes of an item, by the number of attempts on it that
have failed in the batch. -/
inductive Verdict (item : WorkItem) (results : List WorkItem) : ℕ → Prop
  /-- It is left alone. -/
  | left (absent : item.rowKey ∉ results.map WorkItem.rowKey) : Verdict item results 0
  /-- An attempt has failed: the item is returned as pending, with one retry more and without a
  handle. -/
  | failed {out : WorkItem} (hopeful : ceilingReached item.retry retryCeiling = false)
      (returned : out ∈ results) (rowKey : out.rowKey = item.rowKey)
      (status : out.status = item.status) (txHash : out.txHash = none)
      (retry : out.retry = item.retry + 1) : Verdict item results 1
  /-- No attempt has failed, and the item is returned. -/
  | moved {out : WorkItem} (returned : out ∈ results) (rowKey : out.rowKey = item.rowKey)
      (retry : out.retry = item.retry ∨
        (ceilingReached item.retry retryCeiling = false ∧ out.retry = item.retry + 1)) :
      Verdict item results 0

/-- A value is paired with another one, or it comes after all values that are. -/
theorem mem_zip_or_drop {α γ : Type} {as : List α} {a : α} (ha : a ∈ as) (cs : List γ) :
    (∃ c, (a, c) ∈ as.zip cs) ∨ a ∈ as.drop cs.length := by
  induction as generalizing cs with
  | nil => cases ha
  | cons b rest ih =>
    cases cs with
    | nil => exact .inr ha
    | cons c cs =>
      rcases List.mem_cons.mp ha with rfl | ha
      · exact .inl ⟨c, List.mem_cons_self⟩
      · exact (ih ha cs).imp (fun ⟨c', h⟩ => ⟨c', List.mem_cons_of_mem _ h⟩) id

theorem map_fst_zip_sublist {α γ : Type} (as : List α) (cs : List γ) :
    List.Sublist ((as.zip cs).map Prod.fst) as := by
  induction as generalizing cs with
  | nil => exact List.Sublist.slnil
  | cons a rest ih =>
    cases cs with
    | nil => exact List.nil_sublist _
    | cons c cs => exact (ih cs).cons_cons a

namespace Relayer

variable {r : Relayer σ} {ordered : Bool} {items results : List WorkItem} {w : World σ τ}

/-- In a claimed batch an item is submitted once at most. -/
theorem nodup_submissions (hclaimed : Claimed items) :
    ((r.submissions ordered items w).map fun s => s.1.advanced.rowKey).Nodup := by
  have hsublist := (map_fst_zip_sublist ((r.messageTurns items w).filterMap Turn.attempt?)
    (r.deliveries ordered items w)).map fun a => a.advanced.rowKey
  rw [List.map_map] at hsublist
  exact (nodup_attempts hclaimed).sublist hsublist

/-- A submission is made for the item of the turn that has built its transaction. -/
theorem turn_of_mem_submissions {s : Attempt × Delivery}
    (hs : s ∈ r.submissions ordered items w) :
    ∃ t ∈ r.messageTurns items w, t.attempt? = some s.1 ∧ s.1.advanced.rowKey = t.item.rowKey := by
  obtain ⟨t, ht, ha⟩ := List.mem_filterMap.mp (List.of_mem_zip (a := s.1) (b := s.2) hs).1
  exact ⟨t, ht, ha, (attempt_of_mem_messageTurns ht ha).2.1⟩

/-- What a result says about the item of its row: it comes from the turn of that item. -/
theorem result_cases (h : (r.messageBatch ordered items w).1 = .ok results) {out : WorkItem}
    (hout : out ∈ results) : ∃ t ∈ r.messageTurns items w, out.rowKey = t.item.rowKey ∧
      t.item.retry ≤ out.retry ∧ (t.settled? = some out ∨
        ∃ s ∈ r.submissions ordered items w, t.attempt? = some s.1 ∧ out = s.1.outcome s.2) := by
  obtain ⟨-, -, hresults, hdeliveries⟩ := of_messageBatch h
  rw [hresults] at hout
  rcases List.mem_append.mp hout with hmem | hmem
  · obtain ⟨t, ht, hsettled⟩ := List.mem_filterMap.mp hmem
    have hcourse := course_of_mem_messageTurns ht
    rw [Turn.settled?_eq_some_iff.mp hsettled] at hcourse
    refine ⟨t, ht, hcourse.settled, ?_, .inl hsettled⟩
    rcases hcourse.settled_retry with hretry | ⟨-, hretry⟩ <;> omega
  · obtain ⟨s, hs, rfl⟩ := List.mem_map.mp hmem
    obtain ⟨t, ht, ha, hkey⟩ := turn_of_mem_submissions hs
    obtain ⟨-, -, -, htxHash, hclaimedRetry, hretry⟩ := attempt_of_mem_messageTurns ht ha
    have hdelivery : s.2 ∈ r.deliveries ordered items w := (List.of_mem_zip (a := s.1) hs).2
    refine ⟨t, ht, ?_, ?_, .inr ⟨s, hs, ha, rfl⟩⟩
    · obtain ⟨txHash, retry, houtcome⟩ := s.1.outcome_eq s.2
      rw [houtcome]
      exact hkey
    · rcases hdeliveries _ hdelivery with ⟨answer, hanswer, hsuccess⟩ | hrejected
      · rw [hanswer, Attempt.outcome_of_accepted hsuccess, Attempt.accepted_eq htxHash]
        change _ ≤ s.1.advanced.retry
        omega
      · rw [← hclaimedRetry] at hretry
        rw [Attempt.outcome_of_rejected hrejected, Attempt.rejected_retry hretry]
        omega

/-- Each result is about another row. -/
theorem nodup_messageBatch (hclaimed : Claimed items)
    (h : (r.messageBatch ordered items w).1 = .ok results) :
    (results.map WorkItem.rowKey).Nodup := by
  obtain ⟨-, -, hresults, -⟩ := of_messageBatch h
  have houtcome (s : Attempt × Delivery) :
      (s.1.outcome s.2).rowKey = s.1.advanced.rowKey := by
    obtain ⟨txHash, retry, houtcome⟩ := s.1.outcome_eq s.2
    rw [houtcome]
    rfl
  rw [hresults, List.map_append, List.map_map]
  refine List.Nodup.append ?_ ?_ ?_
  · exact (Work.nodup_rowKey_turns hclaimed.distinct).sublist
      (map_filterMap_sublist fun t ht out hsettled => by
        have hcourse := course_of_mem_messageTurns ht
        rw [Turn.settled?_eq_some_iff.mp hsettled] at hcourse
        exact hcourse.settled)
  · have hkeys : (WorkItem.rowKey ∘ fun s : Attempt × Delivery => s.1.outcome s.2) =
        fun s => s.1.advanced.rowKey := funext houtcome
    rw [hkeys]
    exact nodup_submissions hclaimed
  · -- a turn does not settle its item and submit it as well
    intro key hsettled hsubmitted
    obtain ⟨out, hout, hkey⟩ := List.mem_map.mp hsettled
    obtain ⟨t, ht, hsettled⟩ := List.mem_filterMap.mp hout
    obtain ⟨s, hs, hskey⟩ := List.mem_map.mp hsubmitted
    obtain ⟨t', ht', ha, hkey'⟩ := turn_of_mem_submissions hs
    have hcourse := course_of_mem_messageTurns ht
    rw [Turn.settled?_eq_some_iff.mp hsettled] at hcourse
    rw [Function.comp_apply, houtcome] at hskey
    obtain rfl : t = t' := Work.eq_of_rowKey_eq hclaimed.distinct ht ht'
      (hcourse.settled.symm.trans (hkey.trans (hskey.symm.trans hkey')))
    rw [Turn.settled?_eq_some_iff, Turn.attempt?_eq_some_iff.mp ha] at hsettled
    cases hsettled

/-- **The results of a batch can be committed.** They are sound, and each is of another row. -/
theorem sound_messageBatch {family : Family} (hclaimed : Claimed items)
    (hfamily : ∀ item ∈ items, item.family = family)
    (h : (r.messageBatch ordered items w).1 = .ok results) :
    Store.checkResults family items results = .ok () ∧ (results.map WorkItem.rowKey).Nodup := by
  refine ⟨?_, nodup_messageBatch hclaimed h⟩
  refine Store.checkResults_of_claimed hclaimed hfamily fun out hout => ?_
  obtain ⟨t, ht, hkey, hretry, -⟩ := result_cases h hout
  exact ⟨t.item, Work.item_mem_of_mem_turns ht, hkey, hretry⟩

/-! ### Every item gets its verdict -/

/-- In a claimed batch an item is worked on in its own turn only. -/
theorem failures_eq (hclaimed : Claimed items) {t : Turn σ τ Decision}
    (ht : t ∈ r.messageTurns items w) :
    r.failures ordered items w t.item.rowKey = t.events.countP Event.isSetback +
      ((r.submissions ordered items w).filter fun s => s.1.advanced.rowKey ==
        t.item.rowKey).countP fun s => s.2.isRejected := by
  have hturn : (r.messageTurns items w).filter (fun t' => t'.item.rowKey == t.item.rowKey) =
      [t] := filter_eq_singleton (Work.nodup_rowKey_turns hclaimed.distinct) ht
  rw [failures, hturn, List.flatMap_singleton]

/-- What is submitted for an item is the attempt of its turn. -/
theorem attempt_of_mem_submissions (hclaimed : Claimed items) {t : Turn σ τ Decision}
    (ht : t ∈ r.messageTurns items w) {s : Attempt × Delivery}
    (hs : s ∈ r.submissions ordered items w) (hkey : s.1.advanced.rowKey = t.item.rowKey) :
    t.attempt? = some s.1 := by
  obtain ⟨t', ht', ha, hkey'⟩ := turn_of_mem_submissions hs
  obtain rfl : t' = t :=
    Work.eq_of_rowKey_eq hclaimed.distinct ht' ht (hkey'.symm.trans hkey)
  exact ha

/-- Nothing is submitted for an item whose attempt was not, if it has made one. -/
theorem submissions_eq_nil (hclaimed : Claimed items) {t : Turn σ τ Decision}
    (ht : t ∈ r.messageTurns items w)
    (hnone : ∀ s ∈ r.submissions ordered items w, t.attempt? ≠ some s.1) :
    (r.submissions ordered items w).filter (fun s => s.1.advanced.rowKey == t.item.rowKey) =
      [] :=
  List.filter_eq_nil_iff.mpr fun s hs heq =>
    hnone s hs (attempt_of_mem_submissions hclaimed ht hs (eq_of_beq heq))

/-- A result about an item comes from its turn. -/
theorem not_mem_results (hclaimed : Claimed items)
    (h : (r.messageBatch ordered items w).1 = .ok results) {t : Turn σ τ Decision}
    (ht : t ∈ r.messageTurns items w) (hsettled : t.settled? = none)
    (hsubmitted : ∀ s ∈ r.submissions ordered items w, t.attempt? ≠ some s.1) :
    t.item.rowKey ∉ results.map WorkItem.rowKey := by
  intro hmem
  obtain ⟨out, hout, hkey⟩ := List.mem_map.mp hmem
  obtain ⟨t', ht', hkey', -, hcases⟩ := result_cases h hout
  obtain rfl : t' = t :=
    Work.eq_of_rowKey_eq hclaimed.distinct ht' ht (hkey'.symm.trans hkey)
  rcases hcases with hout | ⟨s, hs, ha, -⟩
  · rw [hsettled] at hout
    cases hout
  · exact hsubmitted s hs ha

/-- **Every item of a batch gets its verdict.** -/
theorem messageBatch_verdict (hclaimed : Claimed items)
    (h : (r.messageBatch ordered items w).1 = .ok results) {t : Turn σ τ Decision}
    (ht : t ∈ r.messageTurns items w) :
    Verdict t.item results (r.failures ordered items w t.item.rowKey) := by
  obtain ⟨-, hvalues, hresults, hdeliveries⟩ := of_messageBatch h
  obtain ⟨d, hd⟩ := hvalues t ht
  have hcourse := course_of_mem_messageTurns ht
  rw [hd] at hcourse
  rw [failures_eq hclaimed ht]
  -- without an attempt there is no submission
  have hunsent (hattempt : t.attempt? = none) :
      ∀ s ∈ r.submissions ordered items w, t.attempt? ≠ some s.1 := by simp [hattempt]
  cases d with
  | leave =>
    have hattempt : t.attempt? = none := by rw [Turn.attempt?, Turn.value?, hd]; rfl
    have hsettled : t.settled? = none := by rw [Turn.settled?, Turn.value?, hd]; rfl
    rw [submissions_eq_nil hclaimed ht (hunsent hattempt)]
    rcases hcourse.setback with hnone | ⟨-, -, hsettle⟩
    · rw [hnone]
      exact .left (not_mem_results hclaimed h ht hsettled (hunsent hattempt))
    · cases hsettle
  | settle out =>
    have hattempt : t.attempt? = none := by rw [Turn.attempt?, Turn.value?, hd]; rfl
    have hout : out ∈ results := by
      rw [hresults]
      exact List.mem_append_left _
        (List.mem_filterMap.mpr ⟨t, ht, Turn.settled?_eq_some_iff.mpr hd⟩)
    rw [submissions_eq_nil hclaimed ht (hunsent hattempt)]
    rcases hcourse.setback with hnone | ⟨hone, hopeful, hsettle⟩
    · rw [hnone]
      exact .moved hout hcourse.settled hcourse.settled_retry
    · rw [hone]
      cases hsettle
      exact .failed hopeful hout rfl rfl rfl rfl
  | submit a =>
    have ha := Turn.attempt?_eq_some_iff.mpr hd
    have hsettled : t.settled? = none := by rw [Turn.settled?, Turn.value?, hd]; rfl
    obtain ⟨-, hkey, hstatus, htxHash, hclaimedRetry, hretry⟩ := attempt_of_mem_messageTurns ht ha
    have hnone : t.events.countP Event.isSetback = 0 := by
      rcases hcourse.setback with hnone | ⟨-, -, hsettle⟩
      · exact hnone
      · cases hsettle
    rw [hnone, Nat.zero_add]
    rcases mem_zip_or_drop (List.mem_filterMap.mpr ⟨t, ht, ha⟩) (r.deliveries ordered items w) with
      ⟨d, hsubmitted⟩ | hdropped
    · -- the transaction was sent
      have hmem : (a, d) ∈ r.submissions ordered items w := hsubmitted
      have hreturned : a.outcome d ∈ results := by
        rw [hresults]
        exact List.mem_append_right _ (List.mem_map.mpr ⟨_, hmem, rfl⟩)
      have honly : (r.submissions ordered items w).filter
          (fun s => s.1.advanced.rowKey == t.item.rowKey) = [(a, d)] := by
        rw [← hkey]
        exact filter_eq_singleton (nodup_submissions hclaimed) hmem
      rw [honly, List.countP_singleton]
      rcases hdeliveries d (List.of_mem_zip hsubmitted).2 with haccepted | hrejected
      · obtain ⟨answer, rfl, hsuccess⟩ := haccepted
        rw [Attempt.outcome_of_accepted hsuccess, Attempt.accepted_eq htxHash] at hreturned
        rw [if_neg (by simp [Delivery.isRejected, hsuccess])]
        exact .moved hreturned hkey (hretry.imp id fun h => ⟨hcourse.submit_hopeful, h⟩)
      · rw [Attempt.outcome_of_rejected hrejected] at hreturned
        rw [if_pos hrejected.isRejected_eq]
        rw [← hclaimedRetry] at hretry
        exact .failed hcourse.submit_hopeful hreturned hkey hstatus rfl
          ((Attempt.rejected_retry hretry).trans (by rw [hclaimedRetry]))
    · -- another one was rejected before it
      have hskipped : ∀ s ∈ r.submissions ordered items w, t.attempt? ≠ some s.1 := by
        intro s hs hsame
        rw [ha] at hsame
        have hnodup := nodup_attempts (r := r) (w := w) hclaimed
        rw [← List.take_append_drop (r.deliveries ordered items w).length
          ((r.messageTurns items w).filterMap Turn.attempt?), List.map_append] at hnodup
        refine List.disjoint_of_nodup_append hnodup ?_ (List.mem_map_of_mem hdropped)
        rw [Option.some.inj hsame]
        exact List.mem_map_of_mem (mem_take_of_mem_zip (c := s.2) hs)
      rw [submissions_eq_nil hclaimed ht hskipped]
      exact .left (not_mem_results hclaimed h ht hsettled hskipped)

/-- **A message that has reached the ceiling is given up**, once nothing that is in flight for it
stands in the way: it is returned as failed, and nothing was built or sent for it. -/
theorem messageTurn_at_ceiling (hclaimed : Claimed items)
    (h : (r.messageBatch ordered items w).1 = .ok results) {t : Turn σ τ Decision}
    (ht : t ∈ r.messageTurns items w)
    (hceiling : ceilingReached t.item.retry retryCeiling = true)
    (hfree : t.item.txHash = none ∨ ∃ txHash, t.item.txHash = some txHash ∧
      (r.sighting txHash t.before).Releases (r.age t.item txHash t.before)
        t.item.hasContinuation) :
    { t.item with status := .failed } ∈ results ∧ (∀ e ∈ t.events, e.isAttempt = false) ∧
      ∀ s ∈ r.submissions ordered items w, s.1.advanced.rowKey ≠ t.item.rowKey := by
  obtain ⟨-, hvalues, hresults, -⟩ := of_messageBatch h
  obtain ⟨d, hd⟩ := hvalues t ht
  have hcourse := course_of_mem_messageTurns ht
  rw [hd] at hcourse
  obtain ⟨rfl, hevents⟩ := hcourse.at_ceiling hceiling hfree
  refine ⟨?_, hevents, fun s hs hkey => ?_⟩
  · rw [hresults]
    exact List.mem_append_left _
      (List.mem_filterMap.mpr ⟨t, ht, Turn.settled?_eq_some_iff.mpr hd⟩)
  · have ha := attempt_of_mem_submissions hclaimed ht hs hkey
    rw [Turn.attempt?_eq_some_iff, hd] at ha
    cases ha

end Relayer

end ChainRelay
