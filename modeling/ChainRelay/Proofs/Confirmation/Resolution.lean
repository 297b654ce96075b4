import ChainRelay.Proofs.Decimal.Rounding
import ChainRelay.Proofs.World.Course
import ChainRelay.Worker.Basic
import Mathlib.Tactic.NormNum

/-!
# One look at what is in flight

Inside a batch a poll has one millisecond, so it asks once: either the answer settles the matter, or
asking failed, or the age decides. Resolving a transaction or a broadcast is therefore a function of
one answer and of the reading of the clock at that moment.

## Main definitions

* `Sighting` — an answer of the chain about a transaction
* `Sighting.Raised`, `Unsettled`, `Succeeded`, `Failed` — the four things that it may say
* `Sighting.outcome` — what it means for a transaction of a given age

## Main results

* `Sighting.outcome_cases` — which outcome comes when
* `Tracker.run_poll` — a poll of one millisecond asks exactly once
* `Relayer.resolve_apply` — resolving is one question, whatever is asked
* `Relayer.resolveTransaction_apply` — resolving a transaction is one lookup
-/

namespace ChainRelay

variable {σ τ α : Type}

/-! ### Sightings -/

/-- What the chain answers when it is asked for a transaction. -/
abbrev Sighting := Except Fault (Option ChainTransaction)

/-- The age beyond which a transaction that is still pending is given up: 240 seconds. -/
def finalityMicros : ℤ := 240 * 1000000

namespace Sighting

/-- Asking failed. -/
def Raised (s : Sighting) : Prop := ∃ fault, s = .error fault

/-- The chain does not know the transaction, or knows it as pending. -/
def Unsettled (s : Sighting) : Prop :=
  s = .ok none ∨ ∃ tx, s = .ok (some tx) ∧ tx.status = .pending

/-- The transaction has succeeded. -/
def Succeeded (s : Sighting) : Prop := ∃ tx, s = .ok (some tx) ∧ tx.status = .success

/-- The transaction has failed. -/
def Failed (s : Sighting) : Prop := ∃ tx, s = .ok (some tx) ∧ tx.status = .failed

/-- What a sighting means for a transaction that was sent `age` microseconds ago. -/
def outcome (s : Sighting) (age : ℤ) : Confirmation :=
  match s with
  | .error _ => .errored
  | .ok found =>
    match Confirmation.ofTransaction found with
    | .pending => if finalityMicros < age then .timedOut else .pending
    | settled => settled

variable {s : Sighting} {age : ℤ}

theorem Raised.outcome_eq (h : s.Raised) : s.outcome age = .errored := by
  obtain ⟨fault, rfl⟩ := h
  rfl

theorem Unsettled.outcome_eq (h : s.Unsettled) :
    s.outcome age = if finalityMicros < age then .timedOut else .pending := by
  rcases h with rfl | ⟨tx, rfl, hstatus⟩
  · rfl
  · simp [outcome, Confirmation.ofTransaction, hstatus]

theorem Succeeded.outcome_eq (h : s.Succeeded) : s.outcome age = .confirmed := by
  obtain ⟨tx, rfl, hstatus⟩ := h
  simp [outcome, Confirmation.ofTransaction, hstatus]

theorem Failed.outcome_eq (h : s.Failed) : s.outcome age = .failed := by
  obtain ⟨tx, rfl, hstatus⟩ := h
  simp [outcome, Confirmation.ofTransaction, hstatus]

theorem raised_or (s : Sighting) : s.Raised ∨ s.Unsettled ∨ s.Succeeded ∨ s.Failed := by
  match s with
  | .error fault => exact .inl ⟨fault, rfl⟩
  | .ok none => exact .inr (.inl (.inl rfl))
  | .ok (some tx) =>
    cases h : tx.status with
    | pending => exact .inr (.inl (.inr ⟨tx, rfl, h⟩))
    | success => exact .inr (.inr (.inl ⟨tx, rfl, h⟩))
    | failed => exact .inr (.inr (.inr ⟨tx, rfl, h⟩))

/-- Every outcome has one cause. Only the chain makes a transaction confirmed or failed, and only
age makes it timed out. -/
theorem outcome_cases (s : Sighting) (age : ℤ) :
    (s.Raised ∧ s.outcome age = .errored) ∨
    (s.Unsettled ∧ age ≤ finalityMicros ∧ s.outcome age = .pending) ∨
    (s.Unsettled ∧ finalityMicros < age ∧ s.outcome age = .timedOut) ∨
    (s.Succeeded ∧ s.outcome age = .confirmed) ∨
    (s.Failed ∧ s.outcome age = .failed) := by
  rcases s.raised_or with h | h | h | h
  · exact .inl ⟨h, h.outcome_eq⟩
  · rcases le_or_gt age finalityMicros with hage | hage
    · exact .inr (.inl ⟨h, hage, by rw [h.outcome_eq, if_neg (not_lt.mpr hage)]⟩)
    · exact .inr (.inr (.inl ⟨h, hage, by rw [h.outcome_eq, if_pos hage]⟩))
  · exact .inr (.inr (.inr (.inl ⟨h, h.outcome_eq⟩)))
  · exact .inr (.inr (.inr (.inr ⟨h, h.outcome_eq⟩)))

theorem Succeeded.not_raised (h : s.Succeeded) : ¬ s.Raised := by
  obtain ⟨tx, rfl, -⟩ := h
  rintro ⟨fault, h⟩
  cases h

theorem Raised.not_failed (h : s.Raised) : ¬ s.Failed := by
  obtain ⟨fault, rfl⟩ := h
  rintro ⟨tx, h, -⟩
  cases h

theorem Raised.not_unsettled (h : s.Raised) : ¬ s.Unsettled := by
  obtain ⟨fault, rfl⟩ := h
  rintro (h | ⟨tx, h, -⟩) <;> cases h

theorem Succeeded.not_unsettled (h : s.Succeeded) : ¬ s.Unsettled := by
  obtain ⟨tx, rfl, hstatus⟩ := h
  rintro (h | ⟨tx', h, hpending⟩) <;> cases h
  rw [hstatus] at hpending
  cases hpending

theorem Succeeded.not_failed (h : s.Succeeded) : ¬ s.Failed := by
  obtain ⟨tx, rfl, hstatus⟩ := h
  rintro ⟨tx', h, hfailed⟩
  cases h
  rw [hstatus] at hfailed
  cases hfailed

theorem Unsettled.not_failed (h : s.Unsettled) : ¬ s.Failed := by
  rintro ⟨tx, rfl, hfailed⟩
  rcases h with h | ⟨tx', h, hpending⟩ <;> cases h
  rw [hfailed] at hpending
  cases hpending

end Sighting

/-! ### Polls of one millisecond -/

namespace Tracker

variable {β : Type}

/-- How a poll that asks once ends. -/
def endingOf (t : Tracker α) : Except Fault α → PollEnding α
  | .error fault => .errored fault
  | .ok value => if t.classify value != .pending then .confirmed value else .timedOut

theorem ampleFuel_one : Poll.ampleFuel 1 1 = 12 := by
  have hquot : (Quantity.toRat 1 / Quantity.toRat 1).ceil = 1 := by decide +kernel
  have hpos : 0 < Quantity.toRat 1 := by decide +kernel
  rw [Poll.ampleFuel, if_pos hpos, hquot]
  rfl

/-- **One question.** A poll of one millisecond whose questions take no time, as its clock counts,
asks exactly once: the sleep after the first answer uses the time up. -/
theorem run_poll (t : Tracker α) (ht : t.pollTimeoutMs = 1) (hi : t.pollIntervalMs = 1)
    (answer : β → Except Fault α × β) (state : β) :
    ∃ sleeps, ((t.poll fun s => (((answer s).1, (0 : ℚ)), (answer s).2)).run
        (Poll.ampleFuel t.pollTimeoutMs t.pollIntervalMs) 0 state) =
      some ⟨t.endingOf (answer state).1, 1, sleeps, (answer state).2⟩ := by
  obtain ⟨p, hp⟩ : ∃ p, p = t.poll fun s => (((answer s).1, (0 : ℚ)), (answer s).2) := ⟨_, rfl⟩
  have hopen : p.open? 0 0 = true := by
    rw [Poll.open?, hp, poll, ht]
    dsimp only
    decide +kernel
  have hshut : p.open? 0 (0 + 0 + p.pause) = false := by
    rw [Poll.open?, Poll.pause, hp, poll, ht, hi]
    dsimp only
    decide +kernel
  rw [← hp, ht, hi, ampleFuel_one, Poll.run, Poll.runFrom, if_pos hopen]
  rw [show p.fetch state = (((answer state).1, 0), (answer state).2) by rw [hp]; rfl]
  cases hanswer : (answer state).1 with
  | error fault => exact ⟨0, rfl⟩
  | ok value =>
    have hdone : p.done value = (t.classify value != .pending) := by rw [hp]; rfl
    simp only [hdone, endingOf]
    split
    · exact ⟨0, rfl⟩
    · rw [Poll.runFrom, hshut]
      exact ⟨1, rfl⟩

/-- The tracker of transactions decides as sightings do: no rounding of ages shows. -/
theorem outcome_endingOf_transactions (s : Sighting) (age : ℤ) :
    transactions.outcome (transactions.endingOf s) age = s.outcome age := by
  have hage : olderThan age 240 = decide (finalityMicros < age) := by
    have h := Decimal.lt_nearest_seconds_iff (n := 240) (by norm_num) age
    exact decide_eq_decide.mpr h
  rcases s.outcome_cases age with ⟨⟨fault, rfl⟩, h⟩ | ⟨hs, hle, h⟩ | ⟨hs, hlt, h⟩ |
    ⟨⟨tx, rfl, hstatus⟩, h⟩ | ⟨⟨tx, rfl, hstatus⟩, h⟩
  · rfl
  · rw [h]
    rcases hs with rfl | ⟨tx, rfl, hstatus⟩ <;>
      simp_all [endingOf, outcome, transactions, Confirmation.ofTransaction]
  · rw [h]
    rcases hs with rfl | ⟨tx, rfl, hstatus⟩ <;>
      simp_all [endingOf, outcome, transactions, Confirmation.ofTransaction]
  · rw [h]
    simp [endingOf, outcome, transactions, Confirmation.ofTransaction, hstatus]
  · rw [h]
    simp [endingOf, outcome, transactions, Confirmation.ofTransaction, hstatus]

end Tracker

/-! ### Resolving -/

namespace Relayer

/-- What the chain answers in a world about a transaction. -/
def sighting (r : Relayer σ) (txHash : String) (w : World σ τ) : Sighting :=
  (r.collaborators.chain.transaction txHash w.env).1

/-- The world after the chain was asked for a transaction, but for the journal. -/
def lookedAt (r : Relayer σ) (txHash : String) (w : World σ τ) : World σ τ :=
  { w with
    env := (r.collaborators.chain.transaction txHash w.env).2
    trace := w.trace ++ [.lookedUp txHash (r.sighting txHash w)] }

/-- **Resolving is one question.** It changes the world as the question does, and its outcome is
read off the answer and the age at that moment. -/
theorem resolve_apply (t : Tracker α) (ht : t.pollTimeoutMs = 1) (hi : t.pollIntervalMs = 1)
    (logger key : String) (answers : Answers σ α) (event : Except Fault α → Event)
    (sentAt : Instant) (w : World σ τ) :
    ∃ journal, resolve t logger key answers event sentAt w =
      (.ok (t.outcome (t.endingOf (Work.query answers event w).1)
          ((Work.query answers event w).2.wallNow - sentAt)),
        { (Work.query answers event w).2 with journal }) := by
  obtain ⟨sleeps, hrun⟩ := t.run_poll ht hi (Work.query (τ := τ) answers event) w
  rw [resolve]
  dsimp only
  rw [hrun]
  exact ⟨_, rfl⟩

/-- **Resolving is one lookup.** It changes the world as the lookup does, and its outcome is read
off the answer and the age at that moment. -/
theorem resolveTransaction_apply (r : Relayer σ) (logger txHash : String) (sentAt : Instant)
    (w : World σ τ) :
    ∃ journal, r.resolveTransaction logger txHash sentAt w =
      (.ok ((r.sighting txHash w).outcome ((r.lookedAt txHash w).wallNow - sentAt)),
        { r.lookedAt txHash w with journal }) := by
  have hquery : Work.query (r.collaborators.chain.transaction txHash) (.lookedUp txHash) w =
      (r.sighting txHash w, r.lookedAt txHash w) := rfl
  obtain ⟨journal, hresolve⟩ := resolve_apply Tracker.transactions rfl rfl logger
    ("chain-transaction:" ++ txHash) (r.collaborators.chain.transaction txHash) (.lookedUp txHash)
    sentAt w
  rw [hquery, Tracker.outcome_endingOf_transactions] at hresolve
  exact ⟨journal, hresolve⟩

end Relayer

end ChainRelay
