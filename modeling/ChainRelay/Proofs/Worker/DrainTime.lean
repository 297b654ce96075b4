import ChainRelay.Proofs.Worker.DrainRounds
import ChainRelay.Proofs.World.SingleFlight
import ChainRelay.Settings
import Mathlib.Tactic.Linarith

/-!
# How long a drain takes

The job of a queue drains it under a lock that expires. The drain knows the lifetime of its lock,
and no batch but the first one starts unless it would end before the lock expires if it took as long
as a batch may take. The first batch starts whatever the lifetime is, so a lock that lives no longer
than a batch takes may be lost during it.

## The contract

The lock and the drain read one clock. Time passes only while the collaborators answer, and no batch
takes longer than its transaction may. The cache belongs to the tick while it runs; what others may
do with a cache that they share is said about all states that calls can reach together.

## Main definitions

* `Drain.worldFrom` — the world after the last round
* `World.lockCall` — the call by which a run has acquired its lock
* `LockedDrain` — what becomes of a lock during a drain

## Main results

* `Drain.first_or_on_time` — when a batch may start
* `Drain.runFrom_leaves` — a drain leaves the world as its last round has left it
* `Relayer.drainTick_lock` — the law for the queues of all families and all configured lifetimes
* `Relayer.drainTick_outlives` — a first batch that takes longer than its lock lives
-/

namespace ChainRelay

variable {σ τ : Type}

namespace Drain

variable [Seconds τ] {d : Drain σ τ} {started : τ} {left done : Nat} {w : World σ τ}
  {round : Round σ τ}

/-! ### What the rounds leave alone -/

/-- No round writes the cache if the handler does not. -/
theorem cache_of_mem_rounds (hkeeps : ∀ items w, (d.handler items w).2.cache = w.cache)
    (h : round ∈ d.roundsFrom started left done w) : round.after.cache = w.cache := by
  have hcalls (w : World σ τ) : (Work.processPending d.order d.handler w).2.cache = w.cache :=
    Work.cache_of_processPending hkeeps
  induction left generalizing done w with
  | zero => cases h
  | succ left ih =>
    have hcache := hcalls w
    rcases d.roundsFrom_succ started left done w with
      ⟨hrounds, -⟩ | ⟨-, ⟨halt, w', hcall, hrounds⟩ | ⟨w', hcall, hrounds⟩ |
        ⟨results, w', -, hcall, hrounds⟩⟩ <;> rw [hrounds] at h
    · cases h
    · rw [hcall] at hcache
      rw [List.mem_singleton.mp h]
      exact hcache
    · rw [hcall] at hcache
      rw [List.mem_singleton.mp h]
      exact hcache
    · rw [hcall] at hcache
      rcases List.mem_cons.mp h with rfl | h
      · exact hcache
      · exact (ih h).trans hcache

/-- **When a batch may start.** The first one starts at once, every other one only in time. -/
theorem first_or_on_time (h : round ∈ d.roundsFrom started left done w) :
    (done = 0 ∧ round.before = w) ∨ d.late started round.before.monoNow = false := by
  have hstart (w : World σ τ) (hlate : (done ≠ 0 && d.late started w.monoNow) = false) :
      (done = 0 ∧ w = w) ∨ d.late started w.monoNow = false := by
    by_cases hdone : done = 0
    · exact .inl ⟨hdone, rfl⟩
    · exact .inr (by simpa [hdone] using hlate)
  induction left generalizing done w with
  | zero => cases h
  | succ left ih =>
    rcases d.roundsFrom_succ started left done w with
      ⟨hrounds, -⟩ | ⟨hlate, ⟨halt, w', -, hrounds⟩ | ⟨w', -, hrounds⟩ |
        ⟨results, w', -, -, hrounds⟩⟩ <;> rw [hrounds] at h
    · cases h
    · rw [List.mem_singleton.mp h]
      exact hstart w hlate
    · rw [List.mem_singleton.mp h]
      exact hstart w hlate
    · rcases List.mem_cons.mp h with rfl | h
      · exact hstart w hlate
      · rcases ih h (fun w hlate => .inr (by simpa using hlate)) with ⟨hdone, -⟩ | hon
        · cases hdone
        · exact .inr hon

/-! ### How a drain ends -/

/-- The world after the last round. -/
def worldFrom (d : Drain σ τ) (started : τ) (left done : Nat) (w : World σ τ) : World σ τ :=
  ((d.roundsFrom started left done w).map Round.after).getLastD w

omit [Seconds τ] in
/-- Telling the operators about a timeout is only asking. -/
theorem reportTimeout_later (r : Relayer σ) (d : Drain σ τ) (w : World σ τ) :
    ∃ events, w.Later (reportTimeout r d w).2 events := by
  have hasks : (reportTimeout r d).Yields (τ := τ) (fun _ => True) fun _ => True := by
    rw [reportTimeout]
    refine Work.Yields.bind (Work.yields_log _) fun _ _ => ?_
    refine Work.Yields.bind (Work.yields_attempt (Work.yields_ask fun _ => trivial))
      fun answer _ => ?_
    cases answer with
    | ok _ => exact Work.yields_pure trivial
    | error fault => exact Work.yields_log _
  obtain ⟨events, later, -⟩ := hasks w
  exact ⟨events, later⟩

/-- A drain that has ended left the world as it was in `w`, but for lines that it wrote; one that
has failed may also have told the operators. -/
def Leaves (w : World σ τ) (run : Except Halt Nat × World σ τ) : Prop :=
  ∃ events, w.Later run.2 events ∧ ∀ count, run.1 = .ok count → run.2.env = w.env

omit [Seconds τ] in
/-- A drain that has failed in a round. -/
theorem leaves_of_failed (r : Relayer σ) (d : Drain σ τ) (fault : Fault) (w : World σ τ) :
    Leaves w ((do
      match fault with
      | .queueTimeout _ _ => reportTimeout r d
      | _ => pure ()
      Work.fail fault : Work σ τ Nat) w) := by
  have hfails (report : Work σ τ Unit) (hreport : ∃ events, w.Later (report w).2 events) :
      Leaves w ((report >>= fun _ => Work.fail fault : Work σ τ Nat) w) := by
    obtain ⟨events, later⟩ := hreport
    rw [Work.bind_apply]
    cases hrun : report w with
    | mk result w' =>
      rw [hrun] at later
      cases result <;> exact ⟨events, later, fun count h => by cases h⟩
  have hsilent : ∃ events, w.Later ((pure () : Work σ τ Unit) w).2 events := ⟨[], .refl w⟩
  cases fault with
  | queueTimeout family timeout => exact hfails _ (reportTimeout_later r d w)
  | _ => exact hfails _ hsilent

/-- **How a drain ends.** It leaves the world as its last round has left it. -/
theorem runFrom_leaves (r : Relayer σ) (total : Nat) :
    Leaves (d.worldFrom started left done w) (runFrom r d started left done total w) := by
  have hlogged (line : LogLine) (w : World σ τ) (total : Nat) :
      Leaves w ((do Work.log line; return total : Work σ τ Nat) w) :=
    ⟨[], ⟨w.env, w.journal ++ [line], by simp [Work.bind_apply, Work.log_apply, pure]; rfl⟩,
      fun _ _ => rfl⟩
  induction left generalizing done w total with
  | zero => exact hlogged _ w total
  | succ left ih =>
    have hget : (get : Work σ τ (World σ τ)) w = (.ok w, w) := rfl
    rw [worldFrom, runFrom, Work.bind_apply_of_ok hget]
    rcases d.roundsFrom_succ started left done w with
      ⟨hrounds, hlate⟩ | ⟨hlate, ⟨halt, w', hcall, hrounds⟩ | ⟨w', hcall, hrounds⟩ |
        ⟨results, w', hresults, hcall, hrounds⟩⟩ <;> rw [hrounds, hlate]
    · exact hlogged _ w total
    · -- a round has failed
      rw [if_neg Bool.false_ne_true]
      have honce : d.once w = (.error halt, w') := by rw [once_apply, hcall]; rfl
      cases halt with
      | fault fault =>
        have hkept : Work.attempt d.once w = (.ok (.error fault), w') := by rw [Work.attempt, honce]
        rw [Work.bind_apply_of_ok hkept]
        exact leaves_of_failed r d fault w'
      | cancelled depth =>
        have hhalt : Work.attempt d.once w = (.error (.cancelled depth), w') := by
          rw [Work.attempt, honce]
        rw [Work.bind_apply_of_error hhalt]
        exact ⟨[], .refl w', fun count h => by cases h⟩
      | endless =>
        have hhalt : Work.attempt d.once w = (.error .endless, w') := by rw [Work.attempt, honce]
        rw [Work.bind_apply_of_error hhalt]
        exact ⟨[], .refl w', fun count h => by cases h⟩
    · have honce : Work.attempt d.once w = (.ok (.ok 0), w') := by
        rw [Work.attempt, once_apply, hcall]
        rfl
      rw [if_neg Bool.false_ne_true, Work.bind_apply_of_ok honce]
      exact ⟨[], .refl w', fun _ _ => rfl⟩
    · have honce : Work.attempt d.once w = (.ok (.ok results.length), w') := by
        rw [Work.attempt, once_apply, hcall]
        rfl
      have hlength : results.length ≠ 0 := by simpa using hresults
      rw [if_neg Bool.false_ne_true, Work.bind_apply_of_ok honce]
      dsimp only
      rw [if_neg hlength, List.map_cons, List.getLastD_cons]
      exact ih (total + results.length)

/-- A drain has rounds, as its first one starts at once, and leaves the world as the last one has
left it. -/
theorem run_leaves (r : Relayer σ) (hmax : 0 < d.maxBatches) (w : World σ τ) :
    ∃ last, (d.rounds w).getLast? = some last ∧ Leaves last.after (run r d w) := by
  obtain ⟨left, hleft⟩ : ∃ left, d.maxBatches.toNat = left + 1 :=
    ⟨d.maxBatches.toNat - 1, by omega⟩
  have hleaves : Leaves (d.worldFrom w.monoNow d.maxBatches.toNat 0 w) (run r d w) :=
    runFrom_leaves r 0
  rw [worldFrom, List.getLastD_eq_getLast?, List.getLast?_map] at hleaves
  rw [rounds]
  cases hlast : (d.roundsFrom w.monoNow d.maxBatches.toNat 0 w).getLast? with
  | some last =>
    rw [hlast] at hleaves
    exact ⟨last, rfl, hleaves⟩
  | none =>
    rw [List.getLast?_eq_none_iff, hleft] at hlast
    rcases d.roundsFrom_succ w.monoNow left 0 w with
      ⟨-, hlate⟩ | ⟨-, ⟨halt, w', -, hcons⟩ | ⟨w', -, hcons⟩ | ⟨results, w', -, -, hcons⟩⟩
    · cases hlate
    all_goals
      rw [hlast] at hcons
      cases hcons

end Drain

/-! ### Configured lifetimes -/

/-- A number of the environment is positive if its default is. -/
theorem Environment.number_pos (env : Environment) (name : String) {fallback : Int}
    (h : 0 < fallback) : 0 < env.number name fallback := by
  rw [number]
  cases List.lookup name env with
  | none => exact h
  | some value =>
    dsimp only
    cases Text.toInt? value with
    | none => exact h
    | some n =>
      dsimp only
      split
      · assumption
      · exact h

theorem Intervals.lockTtl_pos (env : Environment) : 0 < (ofEnvironment env).lockTtl.toRat := by
  have hpos : 0 < env.number "JOB_LOCK_TTL_SECONDS" 300 := env.number_pos _ (by decide)
  exact Int.cast_pos.mpr hpos

/-! ### The law -/

/-- The job that drains the queue of a family. -/
def Family.job : Family → Job
  | .messageApproved => .processMessages
  | .stacksTransaction => .processStacks
  | .crossChainTransaction => .processCrossChain

/-- The call by which a run that starts in this world has acquired the lock of a name. -/
def World.lockCall (w : World σ τ) (name : String) (ttl : Quantity) : LockCall τ :=
  ⟨name, w.nextToken, ttl, w.monoNow, true⟩

/-- How many seconds a round has taken. -/
def Round.duration (round : Round σ ℚ) : ℚ := round.after.monoNow - round.before.monoNow

namespace Relayer

/-- The batches of a family's job that has acquired its lock in this world. -/
def lockedRounds [Seconds τ] (r : Relayer σ) (family : Family) (ttl : Quantity) (w : World σ τ) :
    List (Round σ τ) :=
  (r.jobDrain family ttl).rounds (w.locking family.job.name ttl)

/-- The job of a family does nothing but to drain its queue. -/
theorem runJob_job [Seconds τ] (r : Relayer σ) (family : Family) (ttl : Quantity)
    (w : World σ τ) :
    (r.runJob ttl family.job w).2 = (Drain.run r (r.jobDrain family ttl) w).2 := by
  have hjob : (r.runJob ttl family.job : Work σ τ Unit) = r.drainQueue family ttl := by
    cases family <;> rfl
  rw [hjob, drainQueue, Work.bind_apply]
  cases Drain.run r (r.jobDrain family ttl) w with
  | mk result w' => cases result <;> rfl

variable {r : Relayer σ} {family : Family} {ttl : Quantity} {w : World σ ℚ} {round : Round σ ℚ}

/-- A batch that starts now might end after the lock has expired. -/
theorem late_jobDrain (r : Relayer σ) (family : Family) (ttl : Quantity) (started now : ℚ) :
    (r.jobDrain family ttl).late started now = decide (ttl.toRat < now - started + 60) := by
  cases family <;> rfl

/-- The first batch starts as soon as the lock has been acquired, every other one early enough to
end before the lock expires. -/
theorem start_of_mem_lockedRounds (h : round ∈ r.lockedRounds family ttl w) :
    round.before.monoNow = w.monoNow ∨ round.before.monoNow - w.monoNow + 60 ≤ ttl.toRat := by
  rcases Drain.first_or_on_time h with ⟨-, hfirst⟩ | hon
  · left
    rw [hfirst]
    rfl
  · right
    rw [late_jobDrain, decide_eq_false_iff_not, not_lt] at hon
    exact hon

/-- **When a batch ends**, if none takes longer than it may. -/
theorem end_of_mem_lockedRounds (h : round ∈ r.lockedRounds family ttl w)
    (hduration : round.duration ≤ 60) :
    round.after.monoNow ≤ w.monoNow + max ttl.toRat 60 := by
  rw [Round.duration] at hduration
  have httl := le_max_left ttl.toRat 60
  have hlimit := le_max_right ttl.toRat 60
  rcases start_of_mem_lockedRounds h with hfirst | hon <;> linarith

/-- A batch that ends when the lock has expired is the first one, or has taken all the time that it
may. -/
theorem lost_of_mem_lockedRounds (h : round ∈ r.lockedRounds family ttl w)
    (hduration : round.duration ≤ 60) (hlost : w.monoNow + ttl.toRat ≤ round.after.monoNow) :
    (round.before.monoNow = w.monoNow ∧ ttl.toRat ≤ round.duration) ∨
      (round.duration = 60 ∧ round.after.monoNow = w.monoNow + ttl.toRat) := by
  rw [Round.duration] at hduration ⊢
  rcases start_of_mem_lockedRounds h with hfirst | hon
  · exact .inl ⟨hfirst, by linarith⟩
  · exact .inr ⟨by linarith, by linarith⟩

/-- The lock of a call that has acquired it is there until it expires. -/
theorem live?_locking {name : String} (hacquired : (w.tryLock name ttl).1 = true)
    (hlasts : ttl.isTooLarge = false) (t : ℚ) :
    (w.locking name ttl).cache.live? t (Work.lockKey name) =
      if t < w.monoNow + ttl.toRat then some (w.lockCall name ttl).entry else none := by
  have hentry : Cache.entry? (w.locking name ttl).cache (Work.lockKey name) =
      some (w.lockCall name ttl).entry := by
    rw [World.locking, World.tryLock, Cache.entry?_setIfAbsent hacquired, if_pos rfl]
    rfl
  have hexpired : Cache.expired t (w.lockCall name ttl).entry =
      decide (w.monoNow + ttl.toRat ≤ t) := by
    rw [LockCall.entry, World.lockCall, hlasts]
    rfl
  rw [Cache.live?, hentry, Option.filter, hexpired]
  by_cases hlive : t < w.monoNow + ttl.toRat
  · simp [hlive]
  · simp [hlive, not_lt.mp hlive]

/-- Only the lock of a call that has acquired it is written before the drain starts, and nothing
during the drain. -/
theorem cache_of_mem_lockedRounds (h : round ∈ r.lockedRounds family ttl w) :
    round.after.cache = (w.locking family.job.name ttl).cache :=
  Drain.cache_of_mem_rounds (r.cache_of_batchHandler family) h

end Relayer

/-- What becomes of the lock of a family's job while it drains its queue. The lock lives `ttl`
seconds, was acquired in `w` and is that of `w.lockCall`. -/
structure LockedDrain (r : Relayer σ) (family : Family) (ttl : Quantity) (w : World σ ℚ) :
    Prop where
  /-- The drain starts with the lock. -/
  started : (w.locking family.job.name ttl).cache.live? w.monoNow (Work.lockKey family.job.name) =
    some (w.lockCall family.job.name ttl).entry
  /-- The tick ends with the drain: it gives the lock back if it is still its own. -/
  ended : ∃ journal, (r.tick family.job ttl w).2 =
    let w' := (Drain.run r (r.jobDrain family ttl) (w.locking family.job.name ttl)).2
    { w' with
      cache := (w'.cache.eraseIfEqual w'.monoNow (Work.lockKey family.job.name)
        (.str w.nextToken)).2
      journal }
  /-- A drain that returns does so in the world in which its last batch has ended. -/
  returned : ∃ last, (r.lockedRounds family ttl w).getLast? = some last ∧ ∀ count w',
    Drain.run r (r.jobDrain family ttl) (w.locking family.job.name ttl) = (.ok count, w') →
      w'.monoNow = last.after.monoNow ∧ w'.cache = last.after.cache
  /-- When a batch ends, the lock is held if it has not expired, and free if it has. -/
  lock : ∀ round ∈ r.lockedRounds family ttl w,
    round.after.cache.live? round.after.monoNow (Work.lockKey family.job.name) =
      if round.after.monoNow < w.monoNow + ttl.toRat then
        some (w.lockCall family.job.name ttl).entry
      else none
  /-- No batch ends after the lock has expired, or, if the lock does not live that long, later than
  a batch that started with the lock. -/
  bounded : ∀ round ∈ r.lockedRounds family ttl w,
    round.after.monoNow ≤ w.monoNow + max ttl.toRat 60
  /-- The lock is lost only by a first batch that takes as long as the lock lives, or by a batch
  that takes all the time that it may and ends just when the lock expires. -/
  lost : ∀ round ∈ r.lockedRounds family ttl w, w.monoNow + ttl.toRat ≤ round.after.monoNow →
    (round.before.monoNow = w.monoNow ∧ ttl.toRat ≤ round.duration) ∨
      (round.duration = 60 ∧ round.after.monoNow = w.monoNow + ttl.toRat)
  /-- So a drain holds its lock until it returns if the lock lives as long as a batch may take and
  no batch takes that long. -/
  held : 60 ≤ ttl.toRat → (∀ round ∈ r.lockedRounds family ttl w, round.duration < 60) →
    ∀ count w', Drain.run r (r.jobDrain family ttl) (w.locking family.job.name ttl) =
      (.ok count, w') →
    w'.cache.live? w'.monoNow (Work.lockKey family.job.name) =
      some (w.lockCall family.job.name ttl).entry
  /-- Whoever shares the cache, nobody else acquires the lock before it expires. -/
  exclusive : ∀ (s : Locks ℚ) (now t : ℚ), s.ReachedAt now → now ≤ t →
    w.lockCall family.job.name ttl ∈ s.calls → t < w.monoNow + ttl.toRat →
    ∀ token other,
      (s.cache.setIfAbsent t (Work.lockKey family.job.name) (.str token) other).1 = false

namespace Relayer

variable {r : Relayer σ} {family : Family} {ttl : Quantity} {w : World σ ℚ}

/-- **The law of drains under a lock**, for a lifetime that a clock can show. -/
theorem lockedDrain (r : Relayer σ) (family : Family) (hpos : 0 < ttl.toRat)
    (hlasts : ttl.isTooLarge = false) (hacquired : (w.tryLock family.job.name ttl).1 = true)
    (hbatches : ∀ round ∈ r.lockedRounds family ttl w, round.duration ≤ 60) :
    LockedDrain r family ttl w := by
  have hmax : 0 < (r.jobDrain family ttl : Drain σ ℚ).maxBatches := by
    change (0 : Int) < 100
    decide
  obtain ⟨last, hlast, events, later, hreturns⟩ := Drain.run_leaves r hmax
    (w.locking family.job.name ttl)
  have hmem : last ∈ r.lockedRounds family ttl w := List.mem_of_getLast? hlast
  have hlock : ∀ round ∈ r.lockedRounds family ttl w,
      round.after.cache.live? round.after.monoNow (Work.lockKey family.job.name) =
        if round.after.monoNow < w.monoNow + ttl.toRat then
          some (w.lockCall family.job.name ttl).entry
        else none := by
    intro round hround
    rw [cache_of_mem_lockedRounds hround, live?_locking hacquired hlasts]
  have hreturned : ∀ count w', Drain.run r (r.jobDrain family ttl)
      (w.locking family.job.name ttl) = (.ok count, w') →
        w'.monoNow = last.after.monoNow ∧ w'.cache = last.after.cache := by
    intro count w' hrun
    rw [hrun] at later hreturns
    have henv := hreturns count rfl
    obtain ⟨env, journal, rfl⟩ := later
    exact ⟨congrArg (last.after.monoShown · last.after.mono) henv, rfl⟩
  refine ⟨?_, ?_, ⟨last, hlast, hreturned⟩, hlock, ?_, ?_, ?_, ?_⟩
  · rw [live?_locking hacquired hlasts, if_pos (by linarith)]
  · rw [← runJob_job]
    cases hwork : r.runJob ttl family.job (w.locking family.job.name ttl) with
    | mk result w' =>
      obtain ⟨journal, hrun⟩ := Work.underLock_of_acquired hacquired hlasts hwork
      exact ⟨journal, by rw [tick, Work.attempt_snd, hrun]⟩
  · exact fun round hround => end_of_mem_lockedRounds hround (hbatches round hround)
  · exact fun round hround => lost_of_mem_lockedRounds hround (hbatches round hround)
  · intro hlong hshort count w' hrun
    obtain ⟨hclock, hcache⟩ := hreturned count w' hrun
    have hend : last.after.monoNow < w.monoNow + ttl.toRat := by
      have hduration := hshort last hmem
      rw [Round.duration] at hduration
      rcases start_of_mem_lockedRounds hmem with hfirst | hon <;> linarith
    rw [hclock, hcache, hlock last hmem, if_pos hend]
  · intro s now t hreached hlater hcall ht token other
    have htrans : IsTrans ℚ (· ≤ ·) := ⟨fun _ _ _ => le_trans⟩
    rw [← Bool.not_eq_true]
    intro hother
    have hdeadline := (Locks.sound_of_reachedAt hreached).deadline_le hlater hother hcall rfl rfl
    exact absurd hdeadline (not_le.mpr ht)

/-- **Drains and their locks**, for the queues of all families and all lifetimes of locks that can
be configured. With one that no clock can show the job fails before it drains. -/
theorem drainTick_lock (r : Relayer σ) (family : Family) (env : Environment) (w : World σ ℚ)
    (hacquired : (w.tryLock family.job.name (Intervals.ofEnvironment env).lockTtl).1 = true)
    (hbatches : ∀ round ∈ r.lockedRounds family (Intervals.ofEnvironment env).lockTtl w,
      round.duration ≤ 60) :
    ((Intervals.ofEnvironment env).lockTtl.isTooLarge = true ∧
      r.tick family.job (Intervals.ofEnvironment env).lockTtl w =
        (.ok (.error (.outOfRange "int too large to convert to float")),
          w.locking family.job.name (Intervals.ofEnvironment env).lockTtl)) ∨
    LockedDrain r family (Intervals.ofEnvironment env).lockTtl w := by
  have hpos := Intervals.lockTtl_pos env
  obtain ⟨ttl, httl⟩ : ∃ ttl, ttl = (Intervals.ofEnvironment env).lockTtl := ⟨_, rfl⟩
  rw [← httl] at hpos hacquired hbatches ⊢
  cases hlarge : ttl.isTooLarge with
  | true =>
    refine .inl ⟨rfl, ?_⟩
    rw [tick, Work.attempt, Work.underLock_of_large hacquired hlarge]
  | false => exact .inr (r.lockedDrain family hpos hlarge hacquired hbatches)

end Relayer

/-! ### A lock that is lost -/

/-- Collaborators in memory whose chain takes so many seconds to answer for a transaction. -/
def slowCollaborators (seconds : ℚ) : Collaborators (Simulation × ℚ) :=
  let memory := Simulation.collaborators.onFirst ℚ
  { memory with
    chain := { memory.chain with
      transaction := fun txHash s =>
        ((memory.chain.transaction txHash s).1, s.1, s.2 + seconds) } }

/-- A relayer whose chain takes 45 seconds to answer. -/
def Relayer.slow : Relayer (Simulation × ℚ) where
  collaborators := slowCollaborators 45
  settings := {}
  services := ⟨"", ""⟩

/-- A world in which one transaction has been seen, which has failed on the chain. -/
def slowWorld : World (Simulation × ℚ) ℚ :=
  { World.initial
      ({ transactions := [("0x10", { txHash := "0x10", status := .failed })] }, 0) 0 with
    store := (Store.upsert {} 0 (Relayer.seenTransaction "0x10")).2
    monoShown := fun s set => set + s.2 }

/-- An environment in which locks live for 30 seconds. -/
def shortLocks : Environment := [("JOB_LOCK_TTL_SECONDS", "30")]

example : (Intervals.ofEnvironment shortLocks).lockTtl.toRat = 30 := by decide +kernel

/-- How long the locks of this environment live. -/
def shortTtl : Quantity := (Intervals.ofEnvironment shortLocks).lockTtl

/-- The world in which the job of these transactions starts to drain. -/
def slowLocked : World (Simulation × ℚ) ℚ :=
  slowWorld.locking Family.crossChainTransaction.job.name shortTtl

namespace Relayer

theorem slow_batches :
    ∀ round ∈ slow.lockedRounds .crossChainTransaction shortTtl slowWorld,
      round.duration ≤ 60 := by
  decide +kernel

/-- **A drain that outlives its lock.** The lock lives for 30 seconds. The only batch takes 45,
which is less than it may, and settles a transaction. When the drain returns its lock has expired,
and somebody else acquires it. -/
theorem drainTick_outlives :
    (slowWorld.tryLock Family.crossChainTransaction.job.name shortTtl).1 = true ∧
    (∀ round ∈ slow.lockedRounds .crossChainTransaction shortTtl slowWorld,
      round.duration = 45) ∧
    ∃ w', Drain.run slow (slow.jobDrain .crossChainTransaction shortTtl) slowLocked =
        (.ok 1, w') ∧
      w'.cache.live? w'.monoNow (Work.lockKey Family.crossChainTransaction.job.name) = none ∧
      (w'.tryLock Family.crossChainTransaction.job.name shortTtl).1 = true := by
  obtain ⟨run, hrun⟩ : ∃ run, run =
      Drain.run slow (slow.jobDrain .crossChainTransaction shortTtl) slowLocked := ⟨_, rfl⟩
  have hcount : run.1.toOption = some 1 := by
    rw [hrun]
    decide +kernel
  have hfree : (run.2.cache.live? run.2.monoNow
      (Work.lockKey Family.crossChainTransaction.job.name)).isNone = true := by
    rw [hrun]
    decide +kernel
  have hother : (run.2.tryLock Family.crossChainTransaction.job.name shortTtl).1 = true := by
    rw [hrun]
    decide +kernel
  refine ⟨by decide +kernel, by decide +kernel, run.2, ?_, Option.isNone_iff_eq_none.mp hfree,
    hother⟩
  rw [← hrun]
  cases run with
  | mk result w' =>
    cases result with
    | ok count => rw [Option.some.inj hcount]
    | error halt => cases hcount

/-- The law on this drain: its first batch takes longer than the lock lives. -/
theorem drainTick_lock_short :
    (slowWorld.tryLock Family.crossChainTransaction.job.name shortTtl).1 = true ∧
    (∀ round ∈ slow.lockedRounds .crossChainTransaction shortTtl slowWorld,
      round.duration ≤ 60) ∧
    LockedDrain slow .crossChainTransaction shortTtl slowWorld := by
  have hacquired : (slowWorld.tryLock Family.crossChainTransaction.job.name
      (Intervals.ofEnvironment shortLocks).lockTtl).1 = true := by decide +kernel
  refine ⟨hacquired, slow_batches, ?_⟩
  rcases drainTick_lock slow .crossChainTransaction shortLocks slowWorld hacquired slow_batches with
    ⟨hlarge, -⟩ | hlaw
  · exact absurd hlarge (by decide +kernel)
  · exact hlaw

end Relayer

end ChainRelay
