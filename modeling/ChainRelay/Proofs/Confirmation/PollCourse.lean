import ChainRelay.Confirmation.Poll
import Mathlib.Data.Rat.Floor
import Mathlib.Tactic.Linarith

/-!
# The course of a poll

A poll asks until an answer settles the matter, an answer fails, or the time is up. Each round of
asking and sleeping takes at least one interval, so the time is up after as many rounds at most as
intervals fit into it, the last of them perhaps cut short.

## The contract

The clock is exact. It is moved by what each question takes, which is never less than nothing, and
by each sleep, and intervals are positive. What is asked, how it is answered, when the clock starts
and how much time there is are arbitrary; a poll with no time does not ask.

## Main definitions

* `Poll.turn` — when each question would be asked, and in which state
* `Poll.Course` — the three ways in which a poll may go
* `Poll.patience` — how many intervals there are in its time
* `Poll.Law` — what a poll owes

## Main results

* `Poll.course_of_runFrom` — a run that ends has one of the three courses
* `Poll.lt_patience` — no question is asked after as many intervals
* `Poll.run_decides` — every poll ends, and the first answer that fails or settles the matter
  decides

## Implementation notes

The bound on the recursion is not part of the law: from `patience` on, it has no say in the result.
-/

namespace ChainRelay

namespace Poll

variable {σ α : Type} (p : Poll σ ℚ α) (started : ℚ) (state : σ)

/-! ### Turns -/

/-- When the next question would be asked after so many, and in which state, if none of them has
settled the matter. -/
def turn : ℕ → ℚ × σ
  | 0 => (started, state)
  | n + 1 => ((turn n).1 + (p.fetch (turn n).2).1.2 + p.pause, (p.fetch (turn n).2).2)

/-- How many milliseconds have passed by then. -/
def elapsed (n : ℕ) : ℚ := ((p.turn started state n).1 - started) * 1000

/-- The answer to that question. -/
def answer (n : ℕ) : Except Fault α := (p.fetch (p.turn started state n).2).1.1

/-- The state after it. -/
def after (n : ℕ) : σ := (p.fetch (p.turn started state n).2).2

/-- There is time for that question. -/
def InTime (n : ℕ) : Prop := p.elapsed started state n < p.timeoutMs.toRat

/-- An answer neither fails nor settles the matter. -/
def Inconclusive (n : ℕ) : Prop :=
  ∃ value, p.answer started state n = .ok value ∧ p.done value = false

/-- So many questions are asked in time, and none of them is the last one. -/
def Asked (n : ℕ) : Prop := ∀ i < n, p.InTime started state i ∧ p.Inconclusive started state i

/-- How a poll may go. -/
inductive Course : PollRun σ α → Prop
  /-- No answer settles the matter in time. -/
  | timedOut {n : ℕ} (asked : p.Asked started state n) (late : ¬ p.InTime started state n) :
      Course ⟨.timedOut, n, n, (p.turn started state n).2⟩
  /-- A question fails. -/
  | errored {n : ℕ} {fault : Fault} (asked : p.Asked started state n)
      (inTime : p.InTime started state n) (failed : p.answer started state n = .error fault) :
      Course ⟨.errored fault, n + 1, n, p.after started state n⟩
  /-- An answer settles the matter. -/
  | confirmed {n : ℕ} {value : α} (asked : p.Asked started state n)
      (inTime : p.InTime started state n) (answered : p.answer started state n = .ok value)
      (settled : p.done value = true) :
      Course ⟨.confirmed value, n + 1, n, p.after started state n⟩

variable {p started state}

instance (n : ℕ) : Decidable (p.InTime started state n) := inferInstanceAs (Decidable (_ < _))

theorem turn_succ (n : ℕ) : p.turn started state (n + 1) =
    ((p.turn started state n).1 + (p.fetch (p.turn started state n).2).1.2 + p.pause,
      p.after started state n) := rfl

theorem Asked.succ {n : ℕ} (h : p.Asked started state n) (hin : p.InTime started state n)
    (hopen : p.Inconclusive started state n) : p.Asked started state (n + 1) := by
  intro i hi
  rcases Nat.lt_succ_iff_lt_or_eq.mp hi with hlt | rfl
  · exact h i hlt
  · exact ⟨hin, hopen⟩

/-! ### Runs and courses -/

/-- A poll may ask as long as there is time. -/
theorem open?_turn (n : ℕ) :
    p.open? started (p.turn started state n).1 = decide (p.InTime started state n) := rfl

/-- One round of a poll. -/
theorem runFrom_turn (fuel n : ℕ) :
    p.runFrom started (fuel + 1) (p.turn started state n).1 n (p.turn started state n).2 =
      if p.InTime started state n then
        match p.answer started state n with
        | .error fault => some ⟨.errored fault, n + 1, n, p.after started state n⟩
        | .ok value =>
          if p.done value then some ⟨.confirmed value, n + 1, n, p.after started state n⟩
          else p.runFrom started fuel (p.turn started state (n + 1)).1 (n + 1)
            (p.turn started state (n + 1)).2
      else some ⟨.timedOut, n, n, (p.turn started state n).2⟩ := by
  rw [runFrom, open?_turn, turn_succ, answer, after]
  by_cases hin : p.InTime started state n
  · simp only [hin, decide_true, if_true]
    rcases p.fetch (p.turn started state n).2 with ⟨⟨answer, took⟩, next⟩
    cases answer <;> rfl
  · simp only [hin, decide_false, if_false, Bool.false_eq_true]

/-- **A run that ends has one of the three courses.** -/
theorem course_of_runFrom {fuel n : ℕ} {run : PollRun σ α} (hasked : p.Asked started state n)
    (h : p.runFrom started fuel (p.turn started state n).1 n (p.turn started state n).2 =
      some run) : p.Course started state run := by
  induction fuel generalizing n with
  | zero => cases h
  | succ fuel ih =>
    rw [runFrom_turn] at h
    split at h
    · rename_i hin
      split at h
      · rename_i fault hfailed
        cases h
        exact .errored hasked hin hfailed
      · rename_i value hanswered
        split at h
        · rename_i hdone
          cases h
          exact .confirmed hasked hin hanswered hdone
        · rename_i hdone
          exact ih (hasked.succ hin ⟨value, hanswered, Bool.eq_false_iff.mpr hdone⟩) h
    · rename_i hlate
      cases h
      exact .timedOut hasked hlate

/-- A poll passes through the turns of the questions that are not the last one. -/
theorem run_of_asked {n : ℕ} (hasked : p.Asked started state n) (fuel : ℕ) :
    p.run (n + fuel) started state =
      p.runFrom started fuel (p.turn started state n).1 n (p.turn started state n).2 := by
  induction n generalizing fuel with
  | zero => rw [Nat.zero_add, run, turn]
  | succ n ih =>
    obtain ⟨hin, value, hanswered, hdone⟩ := hasked n (Nat.lt_succ_self n)
    have hround := @runFrom_turn _ _ p started state fuel n
    rw [if_pos hin, hanswered] at hround
    rw [Nat.succ_add_eq_add_succ, ih fun i hi => hasked i (Nat.lt_succ_of_lt hi), hround]
    simp only [hdone, Bool.false_eq_true, if_false]

/-- **A poll that has a course runs it**, whatever the bound, if only it does not cut it short. -/
theorem Course.run_eq {run : PollRun σ α} (h : p.Course started state run) {fuel : ℕ}
    (hfuel : run.fetches < fuel) : p.run fuel started state = some run := by
  cases h with
  | timedOut hasked hlate =>
    obtain ⟨more, rfl⟩ := Nat.exists_eq_add_of_lt hfuel
    rw [Nat.add_assoc, run_of_asked hasked, runFrom_turn, if_neg hlate]
  | errored hasked hin hfailed =>
    obtain ⟨more, rfl⟩ := Nat.exists_eq_add_of_lt (Nat.lt_of_succ_lt hfuel)
    rw [Nat.add_assoc, run_of_asked hasked, runFrom_turn, if_pos hin, hfailed]
  | confirmed hasked hin hanswered hdone =>
    obtain ⟨more, rfl⟩ := Nat.exists_eq_add_of_lt (Nat.lt_of_succ_lt hfuel)
    rw [Nat.add_assoc, run_of_asked hasked, runFrom_turn, if_pos hin, hanswered]
    simp only [hdone, if_true]

/-- A poll has one course at most. -/
theorem Course.unique {run run' : PollRun σ α} (h : p.Course started state run)
    (h' : p.Course started state run') : run' = run := by
  have hfuel : run.fetches < max run.fetches run'.fetches + 1 := by omega
  have hfuel' : run'.fetches < max run.fetches run'.fetches + 1 := by omega
  exact Option.some.inj ((h'.run_eq hfuel').symm.trans (h.run_eq hfuel))

/-- Every question of a course is asked in time. -/
theorem Course.inTime {run : PollRun σ α} (h : p.Course started state run) {i : ℕ}
    (hi : i < run.fetches) : p.InTime started state i := by
  cases h with
  | timedOut hasked hlate => exact (hasked i hi).1
  | errored hasked hin _ | confirmed hasked hin _ _ =>
    rcases Nat.lt_succ_iff_lt_or_eq.mp hi with hlt | rfl
    · exact (hasked i hlt).1
    · exact hin

/-! ### How often a poll may ask -/

/-- How many intervals there are in the time of a poll, the last of them perhaps cut short. -/
def patience (p : Poll σ ℚ α) : ℕ := ⌈p.timeoutMs.toRat / p.intervalMs.toRat⌉₊

/-- Nothing settles the matter, and asking takes no time. -/
def Idle (p : Poll σ ℚ α) : Prop :=
  ∀ s, (p.fetch s).1.2 = 0 ∧ ∃ value, (p.fetch s).1.1 = .ok value ∧ p.done value = false

/-- A round takes what its question takes and one interval. -/
theorem elapsed_succ (n : ℕ) : p.elapsed started state (n + 1) =
    p.elapsed started state n + (p.fetch (p.turn started state n).2).1.2 * 1000 +
      p.intervalMs.toRat := by
  have hpause : p.pause = p.intervalMs.toRat / 1000 := rfl
  rw [elapsed, elapsed, turn_succ, hpause]
  ring

/-- So many rounds take as many intervals at least. -/
theorem mul_interval_le_elapsed (htook : ∀ s, 0 ≤ (p.fetch s).1.2) (n : ℕ) :
    n * p.intervalMs.toRat ≤ p.elapsed started state n := by
  induction n with
  | zero => simp [elapsed, turn]
  | succ n ih =>
    have hquestion := htook (p.turn started state n).2
    rw [elapsed_succ, Nat.cast_succ, add_mul, one_mul]
    linarith

/-- Rounds whose questions take no time take their intervals. -/
theorem elapsed_of_idle (h : p.Idle) (n : ℕ) :
    p.elapsed started state n = n * p.intervalMs.toRat := by
  induction n with
  | zero => simp [elapsed, turn]
  | succ n ih =>
    rw [elapsed_succ, (h _).1, ih, Nat.cast_succ]
    ring

/-- **No question is asked after as many intervals as there are.** -/
theorem lt_patience (hinterval : 0 < p.intervalMs.toRat) (htook : ∀ s, 0 ≤ (p.fetch s).1.2) {n : ℕ}
    (h : p.InTime started state n) : n < p.patience := by
  rw [patience, Nat.lt_ceil, lt_div_iff₀ hinterval]
  exact lt_of_le_of_lt (mul_interval_le_elapsed htook n) h

theorem Course.fetches_le (hinterval : 0 < p.intervalMs.toRat)
    (htook : ∀ s, 0 ≤ (p.fetch s).1.2) {run : PollRun σ α} (h : p.Course started state run) :
    run.fetches ≤ p.patience := by
  by_contra hmore
  exact lt_irrefl _ (lt_patience hinterval htook (h.inTime (not_le.mp hmore)))

/-- A poll that nothing settles uses its time up. -/
theorem Course.of_idle (hinterval : 0 < p.intervalMs.toRat) (hidle : p.Idle) {run : PollRun σ α}
    (h : p.Course started state run) : run.ending = .timedOut ∧ p.patience ≤ run.fetches := by
  cases h with
  | @timedOut n hasked hlate =>
    refine ⟨rfl, ?_⟩
    rw [InTime, elapsed_of_idle hidle, not_lt, ← div_le_iff₀ hinterval] at hlate
    exact Nat.ceil_le.mpr hlate
  | @errored n fault _ _ hfailed =>
    obtain ⟨-, value, hanswered, -⟩ := hidle (p.turn started state n).2
    cases hfailed.symm.trans hanswered
  | @confirmed n value _ _ hanswered hdone =>
    obtain ⟨-, value', hanswered', hdone'⟩ := hidle (p.turn started state n).2
    cases hanswered.symm.trans hanswered'
    cases hdone.symm.trans hdone'

/-- As long as nothing is conclusive there is time left. -/
theorem Asked.le_patience (hinterval : 0 < p.intervalMs.toRat) (htook : ∀ s, 0 ≤ (p.fetch s).1.2)
    {n : ℕ} (h : p.Asked started state n) : n ≤ p.patience := by
  cases n with
  | zero => exact Nat.zero_le _
  | succ n => exact lt_patience hinterval htook (h n (Nat.lt_succ_self n)).1

/-- A poll ends before the bound on its recursion is reached, if that is large enough. -/
theorem exists_runFrom (hinterval : 0 < p.intervalMs.toRat) (htook : ∀ s, 0 ≤ (p.fetch s).1.2)
    {fuel n : ℕ} (hasked : p.Asked started state n) (hfuel : p.patience < n + fuel) :
    ∃ run, p.runFrom started fuel (p.turn started state n).1 n (p.turn started state n).2 =
      some run := by
  induction fuel generalizing n with
  | zero => exact absurd (hasked.le_patience hinterval htook) (Nat.not_le.mpr hfuel)
  | succ fuel ih =>
    rw [runFrom_turn]
    split
    · rename_i hin
      split
      · exact ⟨_, rfl⟩
      · rename_i value hanswered
        split
        · exact ⟨_, rfl⟩
        · rename_i hdone
          refine ih (hasked.succ hin ⟨value, hanswered, Bool.eq_false_iff.mpr hdone⟩) ?_
          omega
    · exact ⟨_, rfl⟩

/-- **Every poll has a course.** -/
theorem exists_course (hinterval : 0 < p.intervalMs.toRat) (htook : ∀ s, 0 ≤ (p.fetch s).1.2)
    (started : ℚ) (state : σ) :
    ∃ run, p.Course started state run ∧ run.fetches ≤ p.patience := by
  have hnone : p.Asked started state 0 := fun i hi => absurd hi (Nat.not_lt_zero i)
  have hfuel : p.patience < 0 + (p.patience + 1) := by omega
  obtain ⟨run, hrun⟩ := exists_runFrom hinterval htook hnone hfuel
  have hcourse := course_of_runFrom hnone hrun
  exact ⟨run, hcourse, hcourse.fetches_le hinterval htook⟩

end Poll

/-! ### The law of polls -/

/-- What a poll owes that starts at `started` and runs as `run` says. -/
structure Poll.Law {σ α : Type} (p : Poll σ ℚ α) (started : ℚ) (state : σ) (run : PollRun σ α) :
    Prop where
  /-- The first question that fails or settles the matter is the last thing that it does. -/
  course : p.Course started state run
  /-- Nothing else is possible. -/
  unique : ∀ run', p.Course started state run' → run' = run
  /-- No question is asked once the time is up. -/
  inTime : ∀ i < run.fetches, p.elapsed started state i < p.timeoutMs.toRat
  /-- There are as many questions at most as intervals in the time. -/
  bounded : run.fetches ≤ p.patience
  /-- Without time there is none. -/
  timeless : p.timeoutMs.toRat ≤ 0 → run.fetches = 0
  /-- If nothing settles the matter and asking takes no time, there are as many. -/
  exhausted : p.Idle → run.ending = .timedOut ∧ run.fetches = p.patience

namespace Poll

variable {σ α : Type} {p : Poll σ ℚ α}

/-- **Every poll ends, and the first conclusive answer decides.** From as many rounds on as
intervals fit into the time of a poll, the bound on its recursion has no say in the result. -/
theorem run_decides (hinterval : 0 < p.intervalMs.toRat) (htook : ∀ s, 0 ≤ (p.fetch s).1.2)
    (started : ℚ) (state : σ) :
    ∃ run, (∀ fuel, p.patience < fuel → p.run fuel started state = some run) ∧
      Law p started state run := by
  have hnone : p.Asked started state 0 := fun i hi => absurd hi (Nat.not_lt_zero i)
  have hfuel : p.patience < 0 + (p.patience + 1) := by omega
  obtain ⟨run, hrun⟩ := exists_runFrom hinterval htook hnone hfuel
  have hcourse := course_of_runFrom hnone hrun
  have hbounded := hcourse.fetches_le hinterval htook
  refine ⟨run, fun fuel hfuel => hcourse.run_eq (Nat.lt_of_le_of_lt hbounded hfuel), hcourse,
    fun run' h => hcourse.unique h, fun i hi => hcourse.inTime hi, hbounded, fun htime => ?_,
    fun hidle => ?_⟩
  · have hpatience : p.patience = 0 :=
      Nat.ceil_eq_zero.mpr (div_nonpos_of_nonpos_of_nonneg htime hinterval.le)
    omega
  · obtain ⟨hending, hall⟩ := hcourse.of_idle hinterval hidle
    exact ⟨hending, Nat.le_antisymm hbounded hall⟩

/-- **The bound that polls are given is ample.** -/
theorem patience_lt_ampleFuel (p : Poll σ ℚ α) (hinterval : 0 < p.intervalMs.toRat) :
    p.patience < ampleFuel p.timeoutMs p.intervalMs := by
  have hceil : p.patience ≤ (p.timeoutMs.toRat / p.intervalMs.toRat).ceil.toNat :=
    Nat.ceil_le.mpr (Rat.le_ceil.trans (by exact_mod_cast Int.self_le_toNat _))
  rw [ampleFuel, if_pos hinterval]
  omega

/-- A poll of a second with three pauses in it, whose questions are never answered for good. -/
def hopeless : Poll ℕ ℚ Unit where
  fetch n := ((.ok (), 0), n + 1)
  done _ := false
  timeoutMs := 1000
  intervalMs := 300

/-- It asks four times. -/
theorem run_decides_hopeless :
    0 < hopeless.intervalMs.toRat ∧ (∀ s, 0 ≤ (hopeless.fetch s).1.2) ∧ hopeless.Idle ∧
      hopeless.patience = 4 ∧
      ∃ run, (∀ fuel, hopeless.patience < fuel → hopeless.run fuel 0 0 = some run) ∧
        Law hopeless 0 0 run := by
  have hinterval : 0 < hopeless.intervalMs.toRat := by decide +kernel
  have htook : ∀ s, 0 ≤ (hopeless.fetch s).1.2 := fun _ => le_refl 0
  have hpatience : hopeless.patience = 4 := by
    rw [patience, Nat.ceil_eq_iff (by norm_num)]
    constructor <;> decide +kernel
  exact ⟨hinterval, htook, fun s => ⟨rfl, (), rfl, rfl⟩, hpatience,
    run_decides hinterval htook 0 0⟩

end Poll

end ChainRelay
