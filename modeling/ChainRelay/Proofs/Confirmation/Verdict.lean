import ChainRelay.Proofs.Confirmation.PollCourse
import ChainRelay.Proofs.Time.Ages
import ChainRelay.Worker.Basic

/-!
# What a tracker concludes

A tracker knows about something in flight what its poll was told, and when it was sent. Only an
answer makes it confirmed or failed. An error makes it errored, and age makes it timed out if there
were answers and all of them were pending.

## The contract

The poll of a tracker has some time and pauses that are not empty, and runs on an exact clock that
is moved by what each question takes and by each pause. What is asked and how it is answered is
arbitrary, and so are the status that each answer denotes, the limit of the age and the two instants
between which the age is taken. Only a missing status has to count as pending, as it does for
transactions and for broadcasts.

## Main definitions

* `Tracker.Raises`, `Tracker.Says`, `Tracker.Waits` — the three things that a poll may learn
* `Tracker.Law` — what is concluded from that, and when age decides

## Main results

* `Tracker.raises_iff`, `Tracker.says_iff`, `Tracker.waits_iff` — a poll learns one of the three
* `Tracker.law_of_course` — what is concluded from a poll
* `Tracker.transactions_agnostic`, `Tracker.broadcasts_agnostic` — the two trackers in use keep the
  contract
* `Relayer.resolve_law` — resolving ends, and obeys the law
* `Tracker.run_concludes` — so does every poll, whatever its questions take
* `Tracker.outcome_overlooks` — an age beyond the limit may be rounded to it

## Implementation notes

Where age decides, the law says so twice: by the floating number of seconds with which the limit is
compared, and by the exact one, as far as the two agree.
-/

namespace ChainRelay

namespace Tracker

section Poll

variable {σ α : Type} (t : Tracker α) (fetch : σ → (Except Fault α × ℚ) × σ) (started : ℚ)
  (state : σ)

/-! ### What a poll learns -/

/-- A missing status counts as pending. -/
def Agnostic : Prop := ∀ value, t.absent value = true → t.classify value = .pending

/-- A status denotes that something is confirmed, that it is failed or that it is pending. -/
def Plain : Prop :=
  ∀ value, t.classify value = .confirmed ∨ t.classify value = .failed ∨ t.classify value = .pending

/-- A question is answered, and what is asked about is pending. -/
def Open (n : ℕ) : Prop :=
  ∃ value, (t.poll fetch).answer started state n = .ok value ∧ t.classify value = .pending

/-- So many questions are asked in time, and the answers to all of them are pending. -/
def Undecided (n : ℕ) : Prop :=
  ∀ i < n, (t.poll fetch).InTime started state i ∧ t.Open fetch started state i

/-- A question fails in time, before there is an answer that is not pending. -/
def Raises : Prop :=
  ∃ n fault, t.Undecided fetch started state n ∧ (t.poll fetch).InTime started state n ∧
    (t.poll fetch).answer started state n = .error fault

/-- The first answer in time that is not pending denotes this. -/
def Says (verdict : Confirmation) : Prop :=
  ∃ n value, t.Undecided fetch started state n ∧ (t.poll fetch).InTime started state n ∧
    (t.poll fetch).answer started state n = .ok value ∧ t.classify value = verdict ∧
    verdict ≠ .pending

/-- There are answers until the time is up, and all of them are pending. -/
def Waits : Prop :=
  ∃ n, 0 < n ∧ t.Undecided fetch started state n ∧ ¬ (t.poll fetch).InTime started state n

variable {t fetch started state}

theorem done_eq_false_iff (value : α) :
    (t.poll fetch).done value = false ↔ t.classify value = .pending := by
  simp [poll]

theorem done_eq_true_iff (value : α) :
    (t.poll fetch).done value = true ↔ t.classify value ≠ .pending := by
  simp [poll]

/-- The questions of a poll that are not its last are those whose answers are pending. -/
theorem undecided_iff (n : ℕ) :
    t.Undecided fetch started state n ↔ (t.poll fetch).Asked started state n := by
  simp only [Undecided, Open, Poll.Asked, Poll.Inconclusive, done_eq_false_iff]

/-- There is time for the first question. -/
theorem inTime_zero (htimeout : 0 < t.pollTimeoutMs.toRat) :
    (t.poll fetch).InTime started state 0 := by
  have hnone : (t.poll fetch).elapsed started state 0 = 0 := by
    rw [Poll.elapsed, Poll.turn, sub_self, zero_mul]
  rw [Poll.InTime, hnone]
  exact htimeout

variable {run : PollRun σ α}

theorem raises_iff (h : (t.poll fetch).Course started state run) :
    t.Raises fetch started state ↔ ∃ fault, run.ending = .errored fault := by
  constructor
  · rintro ⟨n, fault, hopen, hin, hfailed⟩
    have hrun := h.unique (.errored ((undecided_iff n).mp hopen) hin hfailed)
    exact ⟨fault, by rw [← hrun]⟩
  · rintro ⟨fault, hending⟩
    cases h with
    | timedOut hasked hlate => cases hending
    | errored hasked hin hfailed => exact ⟨_, _, (undecided_iff _).mpr hasked, hin, hfailed⟩
    | confirmed hasked hin hanswered hdone => cases hending

theorem says_iff (h : (t.poll fetch).Course started state run) (verdict : Confirmation) :
    t.Says fetch started state verdict ↔
      verdict ≠ .pending ∧ ∃ value, run.ending = .confirmed value ∧ t.classify value = verdict := by
  constructor
  · rintro ⟨n, value, hopen, hin, hanswered, hvalue, hsettled⟩
    have hdone : (t.poll fetch).done value = true :=
      (done_eq_true_iff value).mpr (hvalue ▸ hsettled)
    have hrun := h.unique (.confirmed ((undecided_iff n).mp hopen) hin hanswered hdone)
    exact ⟨hsettled, value, by rw [← hrun], hvalue⟩
  · rintro ⟨hsettled, value, hending, hvalue⟩
    cases h with
    | timedOut hasked hlate => cases hending
    | errored hasked hin hfailed => cases hending
    | confirmed hasked hin hanswered hdone =>
      cases hending
      exact ⟨_, _, (undecided_iff _).mpr hasked, hin, hanswered, hvalue, hsettled⟩

theorem waits_iff (htimeout : 0 < t.pollTimeoutMs.toRat)
    (h : (t.poll fetch).Course started state run) :
    t.Waits fetch started state ↔ run.ending = .timedOut := by
  constructor
  · rintro ⟨n, -, hopen, hlate⟩
    have hrun := h.unique (.timedOut ((undecided_iff n).mp hopen) hlate)
    rw [← hrun]
  · intro hending
    cases h with
    | @timedOut n hasked hlate =>
      have hsome : n ≠ 0 := by
        rintro rfl
        exact hlate (inTime_zero htimeout)
      exact ⟨n, Nat.pos_of_ne_zero hsome, (undecided_iff n).mpr hasked, hlate⟩
    | errored hasked hin hfailed => cases hending
    | confirmed hasked hin hanswered hdone => cases hending

/-- A status that only confirms, fails or is pending does not say anything else. -/
theorem not_says_of_plain (hplain : t.Plain) :
    ¬ t.Says fetch started state .errored ∧ ¬ t.Says fetch started state .timedOut := by
  constructor
  all_goals
    rintro ⟨n, value, -, -, -, hvalue, -⟩
    rcases hplain value with h | h | h <;> cases hvalue.symm.trans h

/-- An answer that ends a poll is not pending. -/
theorem ne_pending_of_course (h : (t.poll fetch).Course started state run) {value : α}
    (hending : run.ending = .confirmed value) : t.classify value ≠ .pending := by
  cases h with
  | timedOut hasked hlate => cases hending
  | errored hasked hin hfailed => cases hending
  | confirmed hasked hin hanswered hdone =>
    cases hending
    exact (done_eq_true_iff _).mp hdone

/-! ### What is concluded -/

variable (t fetch started state)

/-- What a tracker owes about something that was sent at `sentAt` when it concludes `verdict` at
`now`. -/
structure Law (sentAt now : Instant) (verdict : Confirmation) : Prop where
  /-- It is errored if asking failed, or if its status says so. -/
  errored : verdict = .errored ↔
    t.Raises fetch started state ∨ t.Says fetch started state .errored
  /-- It is confirmed if its status says so, at any age. -/
  confirmed : verdict = .confirmed ↔ t.Says fetch started state .confirmed
  /-- It is failed if its status says so, at no age otherwise, and for no error. -/
  failed : verdict = .failed ↔ t.Says fetch started state .failed
  /-- It is timed out if there are pending answers only and its age, as a floating number of
  seconds, exceeds the limit, or if its status says so. -/
  timedOut : verdict = .timedOut ↔
    t.Waits fetch started state ∧
        t.finality.Exceeded (Decimal.nearest (secondsBetween sentAt now)) ∨
      t.Says fetch started state .timedOut
  /-- It is pending in the remaining case. -/
  pending : verdict = .pending ↔
    t.Waits fetch started state ∧
      ¬ t.finality.Exceeded (Decimal.nearest (secondsBetween sentAt now))
  /-- If a status says no more than that something is confirmed, failed or pending, then only
  failing to ask makes it errored and only age makes it timed out. -/
  plain : t.Plain →
    (verdict = .errored ↔ t.Raises fetch started state) ∧
    (verdict = .timedOut ↔
      t.Waits fetch started state ∧
        t.finality.Exceeded (Decimal.nearest (secondsBetween sentAt now)))
  /-- It is not given up early: between dates, no age is rounded past the limit. -/
  notEarly : sentAt.isInCalendar = true → now.isInCalendar = true →
    t.Waits fetch started state → verdict = .timedOut →
      t.finality.Exceeded (secondsBetween sentAt now)
  /-- It is not given up later than the error of rounding accounts for. -/
  notLate : t.Waits fetch started state →
    t.finality.Exceeded
      (secondsBetween sentAt now - |secondsBetween sentAt now| / 2 ^ 53) → verdict = .timedOut
  /-- Limits of whole seconds, up to more than a century, are kept to the microsecond. -/
  punctual : ∀ n : ℕ, n ≤ 2 ^ 32 → t.finality = .whole n → t.Waits fetch started state →
    (verdict = .timedOut ↔ t.finality.Exceeded (secondsBetween sentAt now))

variable {t fetch started state}

theorem outcome_confirmed (hnone : t.Agnostic) {value : α} (hvalue : t.classify value ≠ .pending)
    (age : ℤ) : t.outcome (.confirmed value) age = t.classify value := by
  have hpresent : t.absent value = false := by
    by_contra habsent
    exact hvalue (hnone value (Bool.not_eq_false _ ▸ habsent))
  simp only [outcome, hpresent, Bool.false_eq_true, if_false]

theorem outcome_timedOut_of_exceeded {sentAt now : Instant}
    (h : t.finality.Exceeded (Decimal.nearest (secondsBetween sentAt now))) :
    t.outcome .timedOut (now - sentAt) = .timedOut := by
  simp only [outcome, Quantity.olderThan_iff.mpr h, if_true]

theorem outcome_timedOut_of_not_exceeded {sentAt now : Instant}
    (h : ¬ t.finality.Exceeded (Decimal.nearest (secondsBetween sentAt now))) :
    t.outcome .timedOut (now - sentAt) = .pending := by
  have hyoung : ¬ olderThan (now - sentAt) t.finality = true := mt Quantity.olderThan_iff.mp h
  simp only [outcome, hyoung, Bool.false_eq_true, if_false]

/-- What is concluded from a poll, if it is not that something is pending. -/
theorem outcome_eq_iff (hnone : t.Agnostic) (htimeout : 0 < t.pollTimeoutMs.toRat)
    (h : (t.poll fetch).Course started state run) (sentAt now : Instant) {verdict : Confirmation}
    (hverdict : verdict ≠ .pending) :
    t.outcome run.ending (now - sentAt) = verdict ↔
      t.Says fetch started state verdict ∨
      (verdict = .errored ∧ t.Raises fetch started state) ∨
      (verdict = .timedOut ∧ t.Waits fetch started state ∧
        t.finality.Exceeded (Decimal.nearest (secondsBetween sentAt now))) := by
  rw [says_iff h, raises_iff h, waits_iff htimeout h]
  cases hending : run.ending with
  | errored fault =>
    simp [outcome, eq_comm]
  | confirmed value =>
    rw [outcome_confirmed hnone (ne_pending_of_course h hending)]
    simp [hverdict]
  | timedOut =>
    by_cases hage : t.finality.Exceeded (Decimal.nearest (secondsBetween sentAt now))
    · rw [outcome_timedOut_of_exceeded hage]
      simp [hage, eq_comm]
    · rw [outcome_timedOut_of_not_exceeded hage]
      simp [hage, hverdict.symm]

/-- Something is concluded to be pending if that was answered whenever it was asked, and its age
does not speak against it. -/
theorem outcome_eq_pending_iff (hnone : t.Agnostic) (htimeout : 0 < t.pollTimeoutMs.toRat)
    (h : (t.poll fetch).Course started state run) (sentAt now : Instant) :
    t.outcome run.ending (now - sentAt) = .pending ↔
      t.Waits fetch started state ∧
        ¬ t.finality.Exceeded (Decimal.nearest (secondsBetween sentAt now)) := by
  rw [waits_iff htimeout h]
  cases hending : run.ending with
  | errored fault => simp [outcome]
  | confirmed value =>
    have hvalue := ne_pending_of_course h hending
    rw [outcome_confirmed hnone hvalue]
    simp [hvalue]
  | timedOut =>
    by_cases hage : t.finality.Exceeded (Decimal.nearest (secondsBetween sentAt now))
    · rw [outcome_timedOut_of_exceeded hage]
      simp [hage]
    · rw [outcome_timedOut_of_not_exceeded hage]
      simp [hage]

/-- Where all answers were pending, age decides. -/
theorem outcome_eq_timedOut_iff (htimeout : 0 < t.pollTimeoutMs.toRat)
    (h : (t.poll fetch).Course started state run) (hwaits : t.Waits fetch started state)
    (sentAt now : Instant) :
    t.outcome run.ending (now - sentAt) = .timedOut ↔
      t.finality.Exceeded (Decimal.nearest (secondsBetween sentAt now)) := by
  rw [(waits_iff htimeout h).mp hwaits]
  by_cases hage : t.finality.Exceeded (Decimal.nearest (secondsBetween sentAt now))
  · simp [outcome_timedOut_of_exceeded hage, hage]
  · simp [outcome_timedOut_of_not_exceeded hage, hage]

/-- **What is concluded from a poll.** -/
theorem law_of_course (hnone : t.Agnostic) (htimeout : 0 < t.pollTimeoutMs.toRat)
    (h : (t.poll fetch).Course started state run) (sentAt now : Instant) :
    t.Law fetch started state sentAt now (t.outcome run.ending (now - sentAt)) := by
  have hiff (verdict : Confirmation) (hverdict : verdict ≠ .pending) :=
    outcome_eq_iff hnone htimeout h sentAt now hverdict
  have hlate (hwaits : t.Waits fetch started state) :=
    outcome_eq_timedOut_iff htimeout h hwaits sentAt now
  have herrored := hiff .errored (by decide)
  have htimedOut := hiff .timedOut (by decide)
  simp only [true_and, false_and, or_false, false_or, reduceCtorEq] at herrored htimedOut
  exact {
    errored := herrored.trans or_comm
    confirmed := by simpa using hiff .confirmed (by decide)
    failed := by simpa using hiff .failed (by decide)
    timedOut := htimedOut.trans or_comm
    pending := outcome_eq_pending_iff hnone htimeout h sentAt now
    plain := fun hplain =>
      ⟨herrored.trans (or_iff_right (not_says_of_plain hplain).1),
        htimedOut.trans (or_iff_right (not_says_of_plain hplain).2)⟩
    notEarly := fun hsent hnow hwaits hverdict =>
      ((hlate hwaits).mp hverdict).of_nearest (abs_secondsBetween_le hsent hnow)
    notLate := fun hwaits hage => (hlate hwaits).mpr (Quantity.Exceeded.nearest hage)
    punctual := fun n hn hlimit hwaits => by
      rw [hlate hwaits, hlimit]
      exact Quantity.exceeded_nearest_iff hn (now - sentAt) }

end Poll

/-! ### The trackers of transactions and of broadcasts -/

theorem transactions_agnostic : transactions.Agnostic := by
  rintro (_ | tx) habsent
  · rfl
  · cases habsent

theorem broadcasts_agnostic : broadcasts.Agnostic := fun _ habsent => nomatch habsent

theorem transactions_plain : transactions.Plain := by
  rintro (_ | tx)
  · exact .inr (.inr rfl)
  · cases h : tx.status <;> simp [transactions, Confirmation.ofTransaction, h]

theorem broadcasts_plain : broadcasts.Plain := by
  rintro (_ | _ | _) <;> simp [broadcasts, Confirmation.ofBroadcast]

end Tracker

/-! ### Resolving -/

variable {σ τ α : Type}

/-- A question that takes no time, as the clock of a poll inside a batch counts. -/
def Work.queryAtOnce (answers : Answers σ α) (event : Except Fault α → Event) (w : World σ τ) :
    (Except Fault α × ℚ) × World σ τ :=
  (((Work.query answers event w).1, 0), (Work.query answers event w).2)

/-- **Resolving always ends, and what it concludes obeys the law** at the time at which it ends. -/
theorem Relayer.resolve_law {t : Tracker α} (hnone : t.Agnostic)
    (htimeout : 0 < t.pollTimeoutMs.toRat) (hinterval : 0 < t.pollIntervalMs.toRat)
    (logger key : String) (answers : Answers σ α) (event : Except Fault α → Event)
    (sentAt : Instant) (w : World σ τ) :
    ∃ verdict w', resolve t logger key answers event sentAt w = (.ok verdict, w') ∧
      t.Law (Work.queryAtOnce answers event) 0 w sentAt w'.wallNow verdict := by
  obtain ⟨run, hcourse, hfetches⟩ := Poll.exists_course
    (p := t.poll (Work.queryAtOnce (τ := τ) answers event)) hinterval (fun _ => le_rfl) 0 w
  have hrun : (t.poll fun w => (((Work.query answers event w).1, (0 : ℚ)),
      (Work.query answers event w).2)).run
        (Poll.ampleFuel t.pollTimeoutMs t.pollIntervalMs) 0 w = some run :=
    hcourse.run_eq (Nat.lt_of_le_of_lt hfetches (Poll.patience_lt_ampleFuel _ hinterval))
  refine ⟨t.outcome run.ending (run.state.wallNow - sentAt), { run.state with
      journal := run.state.journal ++ (run.ending.report logger key t.pollTimeoutMs).toList }, ?_,
    Tracker.law_of_course hnone htimeout hcourse sentAt run.state.wallNow⟩
  rw [resolve]
  dsimp only
  rw [hrun]

namespace Tracker

/-- **Ignorance is no failure.** Every poll of a tracker ends, and what is concluded from it obeys
the law, whenever the thing in flight was sent and whenever the conclusion is drawn. From as many
rounds on as intervals fit into the time of the poll, the bound on its recursion has no say. -/
theorem run_concludes {t : Tracker α} {fetch : σ → (Except Fault α × ℚ) × σ}
    (hnone : t.Agnostic) (htimeout : 0 < t.pollTimeoutMs.toRat)
    (hinterval : 0 < t.pollIntervalMs.toRat) (htook : ∀ s, 0 ≤ (fetch s).1.2) (started : ℚ)
    (state : σ) :
    ∃ run, (∀ fuel, (t.poll fetch).patience < fuel →
        (t.poll fetch).run fuel started state = some run) ∧
      ∀ sentAt now : Instant,
        t.Law fetch started state sentAt now (t.outcome run.ending (now - sentAt)) := by
  obtain ⟨run, hcourse, hfetches⟩ :=
    Poll.exists_course (p := t.poll fetch) hinterval htook started state
  exact ⟨run, fun fuel hfuel => hcourse.run_eq (Nat.lt_of_le_of_lt hfetches hfuel),
    law_of_course hnone htimeout hcourse⟩

/-- A tracker of transactions whose poll has a second and three pauses. -/
def persistent : Tracker (Option ChainTransaction) :=
  { transactions with pollTimeoutMs := 1000, pollIntervalMs := 300 }

/-- A chain that does not know a transaction at first, knows it as pending when it is asked again
and has rejected it after that. Each answer takes a tenth of a second. -/
def rejection (n : ℕ) : (Except Fault (Option ChainTransaction) × ℚ) × ℕ :=
  match n with
  | 0 => ((.ok none, 1 / 10), 1)
  | 1 => ((.ok (some ⟨"0x01", .pending, "0", .null, .null⟩), 1 / 10), 2)
  | n + 2 => ((.ok (some ⟨"0x01", .failed, "0", .null, .null⟩), 1 / 10), n + 3)

/-- The third answer decides. -/
theorem run_concludes_third :
    persistent.Agnostic ∧ 0 < persistent.pollTimeoutMs.toRat ∧ 0 < persistent.pollIntervalMs.toRat ∧
      (∀ n, 0 ≤ (rejection n).1.2) ∧ persistent.Says rejection 0 0 .failed ∧
      ∃ run, (∀ fuel, (persistent.poll rejection).patience < fuel →
          (persistent.poll rejection).run fuel 0 0 = some run) ∧
        ∀ sentAt now : Instant,
          persistent.Law rejection 0 0 sentAt now (persistent.outcome run.ending (now - sentAt)) := by
  have hnone : persistent.Agnostic := transactions_agnostic
  have htimeout : 0 < persistent.pollTimeoutMs.toRat := by decide +kernel
  have hinterval : 0 < persistent.pollIntervalMs.toRat := by decide +kernel
  have htook : ∀ n, 0 ≤ (rejection n).1.2 := by
    rintro (_ | _ | n) <;> norm_num [rejection]
  have hsays : persistent.Says rejection 0 0 .failed := by
    refine ⟨2, _, fun i hi => ?_, by decide +kernel, rfl, rfl, by decide⟩
    match i, hi with
    | 0, _ => exact ⟨by decide +kernel, none, rfl, rfl⟩
    | 1, _ => exact ⟨by decide +kernel, _, rfl, rfl⟩
  exact ⟨hnone, htimeout, hinterval, htook, hsays,
    run_concludes hnone htimeout hinterval htook 0 0⟩

/-- A tracker that gives up after 20 000 000 000 seconds. -/
def patient : Tracker Unit where
  classify _ := .pending
  absent _ := false
  finality := 20000000000

/-- Something that is pending for good. -/
def unending (_ : Unit) : (Except Fault Unit × ℚ) × Unit := ((.ok (), 0), ())

/-- **An age beyond the limit may be rounded to it.** What was sent 20 000 000 000 seconds and a
microsecond ago, and is pending whenever it is asked about, has exceeded the limit, and is not
concluded to be timed out. -/
theorem outcome_overlooks :
    patient.Agnostic ∧ patient.Plain ∧ 0 < patient.pollTimeoutMs.toRat ∧
      0 < patient.pollIntervalMs.toRat ∧ (∀ s, 0 ≤ (unending s).1.2) ∧
      Instant.isInCalendar (-18232731200000001) = true ∧
      Instant.isInCalendar 1767268800000000 = true ∧
      patient.Waits unending 0 () ∧
      patient.finality.Exceeded (secondsBetween (-18232731200000001) 1767268800000000) ∧
      ∃ run, (∀ fuel, 1 < fuel → (patient.poll unending).run fuel 0 () = some run) ∧
        patient.outcome run.ending (1767268800000000 - -18232731200000001) = .pending := by
  have hopen : patient.Undecided unending 0 () 1 := fun i hi => by
    obtain rfl : i = 0 := by omega
    exact ⟨by decide +kernel, (), rfl, rfl⟩
  have hlate : ¬ (patient.poll unending).InTime 0 () 1 := by decide +kernel
  have hcourse : (patient.poll unending).Course 0 () _ :=
    .timedOut ((undecided_iff 1).mp hopen) hlate
  have hage : (20000000000 : ℚ) < mkRat 20000000000000001 1000000 := by decide +kernel
  have hrounded : ¬ (20000000000 : ℚ) < Decimal.nearest (mkRat 20000000000000001 1000000) := by
    decide +kernel
  exact ⟨fun _ _ => rfl, fun _ => .inr (.inr rfl), by decide +kernel, by decide +kernel,
    fun _ => le_rfl, by decide, by decide, ⟨1, Nat.one_pos, hopen, hlate⟩, hage, _,
    fun fuel hfuel => hcourse.run_eq hfuel, outcome_timedOut_of_not_exceeded hrounded⟩

end Tracker

end ChainRelay
