import ChainRelay.Broadcast.Queue
import ChainRelay.Proofs.Cache.Entries
import ChainRelay.Proofs.World.Course
import ChainRelay.World.Lock
import ChainRelay.World.Simulation
import Mathlib.Algebra.Group.Int.Defs
import Mathlib.Order.Defs.Unbundled

/-!
# Single flight, whoever comes in between

Calls that share a cache run their work one at a time for each name, as long as none of them takes
longer than its lock lives. One that does may be overtaken, but it takes nothing away from those who
come after it.

## The contract

The clock does not go back, and no two calls that acquire a lock have the same token. Calls of any
names are made and end in any order, and in between the cache is used for other keys and looked at
as anyone likes.

A lifetime that no clock can show is found out only after the token has been stored. The work of
such a call is not done; its token stays, and so the lock is never free again.

## Main definitions

* `Locks` — a cache, and the calls that have acquired a lock in it
* `Locks.ReachedAt` — the states that calls can reach together, with the time
* `SingleFlight` — what holds in all of them

## Main results

* `Locks.sound_step`, `Locks.sound_of_reachedAt` — whose entries there are
* `Work.underLock_steps` — a locked run is a call, the work and the end of the call
* `Locks.singleFlight` — the promise is kept in every state that can be reached
* `Work.underLock_strands` — a lock that is never free again
-/

namespace ChainRelay

/-! ### Keys of locks -/

theorem Work.lockKey_injective {name other : String}
    (h : Work.lockKey name = Work.lockKey other) : name = other := by
  have hchars := congrArg String.toList h
  simp only [lockKey, String.toList_append] at hchars
  exact String.toList_inj.mp (List.append_cancel_left hchars)

/-- The queue of pending broadcasts keeps off the keys of locks. -/
theorem BroadcastQueue.keyOf_ne_lockKey {q : BroadcastQueue} (h : q.space = "pendingBroadcast")
    (id name : String) : q.keyOf id ≠ Work.lockKey name := by
  intro heq
  have hchars := congrArg String.toList heq
  simp only [keyOf, h, Work.lockKey, String.toList_append] at hchars
  cases (List.cons.inj hchars).1

/-! ### Calls -/

/-- A call that has acquired a lock. -/
structure LockCall (τ : Type) where
  name : String
  token : String
  ttl : Quantity
  since : τ
  /-- Whether its work is going on. -/
  running : Bool

namespace LockCall

variable {τ : Type} [Seconds τ] {c : LockCall τ} {t : τ} {token : String}

/-- When the lock of a call expires. -/
def deadline (c : LockCall τ) : τ := c.since + Seconds.ofQuantity c.ttl

/-- What a call has stored. -/
def entry (c : LockCall τ) : CacheEntry τ :=
  ⟨.str c.token, if c.ttl.isTooLarge then none else some c.deadline⟩

omit [Seconds τ] in
/-- The call of a token ends. -/
def ended (token : String) (c : LockCall τ) : LockCall τ :=
  if c.token = token then { c with running := false } else c

theorem deadline_le_of_expired (h : Cache.expired t c.entry = true) : c.deadline ≤ t := by
  rw [Cache.expired, entry] at h
  cases hlarge : c.ttl.isTooLarge with
  | true => simp [hlarge] at h
  | false => simpa [hlarge] using h

theorem not_expired (h : c.ttl.isTooLarge = true) (t : τ) : Cache.expired t c.entry = false := by
  rw [Cache.expired, entry, h]
  rfl

omit [Seconds τ] in
theorem ended_token (token : String) (c : LockCall τ) : (c.ended token).token = c.token := by
  rw [ended]
  split <;> rfl

omit [Seconds τ] in
/-- A call that is still running has another token. -/
theorem ended_of_running (h : (c.ended token).running = true) :
    c.token ≠ token ∧ c.ended token = c := by
  by_cases hc : c.token = token
  · rw [ended, if_pos hc] at h
    cases h
  · exact ⟨hc, if_neg hc⟩

/-- What a call has stored has the token of that call only. -/
theorem same_entry (c : LockCall τ) (token : String) :
    Json.same c.entry.value (.str token) = (c.token == token) := by
  rw [entry, Json.same]

end LockCall

/-- A cache that calls share, and those of them that have acquired a lock. -/
structure Locks (τ : Type) where
  cache : Cache τ := {}
  calls : List (LockCall τ) := []

/-- What may be done with the cache. -/
inductive LockAction where
  /-- An instance calls for a lock. -/
  | call (name token : String) (ttl : Quantity)
  /-- The work of a call has ended, in whatever way, and the lock is given back. -/
  | finish (token : String)
  | put (key : String) (value : Json) (ttl : Option Quantity)
  | look (key : String)
  | drop (key : String)
  | scan (pattern : String)

namespace Locks

variable {τ : Type} [Seconds τ]

/-- One action at a time. -/
def step (s : Locks τ) (t : τ) : LockAction → Locks τ
  | .call name token ttl =>
    match s.cache.setIfAbsent t (Work.lockKey name) (.str token) ttl with
    | (true, cache) => ⟨cache, s.calls ++ [⟨name, token, ttl, t, !ttl.isTooLarge⟩]⟩
    | (false, cache) => ⟨cache, s.calls⟩
  | .finish token =>
    match s.calls.find? fun c => c.token == token && c.running with
    | none => s
    | some c => ⟨(s.cache.eraseIfEqual t (Work.lockKey c.name) (.str token)).2,
        s.calls.map (LockCall.ended token)⟩
  | .put key value ttl => { s with cache := s.cache.set t key value ttl }
  | .look key => { s with cache := (s.cache.get t key).2 }
  | .drop key => { s with cache := s.cache.erase key }
  | .scan pattern => { s with cache := (s.cache.scan t pattern).2 }

/-- Whether an action may be done: tokens are new, and only calls write the keys of locks. -/
def Allows (s : Locks τ) : LockAction → Prop
  | .call _ token _ => token ∉ s.calls.map LockCall.token
  | .put key _ _ | .drop key => ∀ name, key ≠ Work.lockKey name
  | .finish _ | .look _ | .scan _ => True

/-- The states that calls can reach together, with a time at which they are so. -/
inductive ReachedAt : Locks τ → τ → Prop
  | start (now : τ) : ReachedAt {} now
  | act {s : Locks τ} {now t : τ} (action : LockAction) (history : ReachedAt s now)
      (later : now ≤ t) (allowed : s.Allows action) : ReachedAt (s.step t action) t

/-! ### Whose entries there are -/

/-- Whose entries there are under the keys of locks. -/
structure Sound (s : Locks τ) (now : τ) : Prop where
  keyed : s.cache.Keyed
  distinct : (s.calls.map LockCall.token).Nodup
  /-- An entry is that of a call of its name, which is running or cannot ever end. -/
  owned : ∀ name e, s.cache.entry? (Work.lockKey name) = some e → ∃ c ∈ s.calls,
    c.name = name ∧ e = c.entry ∧ (c.running = true ∨ c.ttl.isTooLarge = true)
  /-- The entry of a running call is there until it has expired. -/
  kept : ∀ c ∈ s.calls, c.running = true →
    s.cache.entry? (Work.lockKey c.name) = some c.entry ∨ c.deadline ≤ now
  /-- An entry that does not expire stays. -/
  stranded : ∀ c ∈ s.calls, c.ttl.isTooLarge = true → c.running = false ∧
    s.cache.entry? (Work.lockKey c.name) = some c.entry

theorem sound_start (now : τ) : Sound ({} : Locks τ) now where
  keyed := List.nodup_nil
  distinct := List.nodup_nil
  owned _ _ h := by cases h
  kept _ h := by cases h
  stranded _ h := by cases h

variable {s : Locks τ} {now t : τ} [IsTrans τ (· ≤ ·)]

/-- Time goes by, and entries are left alone or looked at. -/
theorem Sound.of_entries (h : s.Sound now) (later : now ≤ t) {cache : Cache τ}
    (hkeyed : cache.Keyed)
    (hentries : ∀ name, cache.entry? (Work.lockKey name) = s.cache.entry? (Work.lockKey name) ∨
      cache.entry? (Work.lockKey name) = s.cache.live? t (Work.lockKey name)) :
    Sound { s with cache } t where
  keyed := hkeyed
  distinct := h.distinct
  owned := by
    intro name e hentry
    refine h.owned name e ?_
    rcases hentries name with hsame | hlive
    · rw [← hsame]
      exact hentry
    · rw [hlive] at hentry
      exact (Option.filter_eq_some_iff.mp hentry).1
  kept := by
    intro c hc hrunning
    rcases h.kept c hc hrunning with hentry | hdeadline
    · rcases hentries c.name with hsame | hlive
      · exact .inl (hsame.trans hentry)
      · cases hexpired : Cache.expired t c.entry with
        | true => exact .inr (LockCall.deadline_le_of_expired hexpired)
        | false =>
          refine .inl (hlive.trans ?_)
          exact Option.filter_eq_some_iff.mpr ⟨hentry, by rw [hexpired]; rfl⟩
    · exact .inr (IsTrans.trans _ _ _ hdeadline later)
  stranded := by
    intro c hc hlarge
    obtain ⟨hrunning, hentry⟩ := h.stranded c hc hlarge
    refine ⟨hrunning, ?_⟩
    rcases hentries c.name with hsame | hlive
    · exact hsame.trans hentry
    · refine hlive.trans (Option.filter_eq_some_iff.mpr ⟨hentry, ?_⟩)
      rw [LockCall.not_expired hlarge]
      rfl

omit [IsTrans τ (· ≤ ·)] in
/-- What a call stores is what its record says. -/
theorem step_call {name token : String} {ttl : Quantity}
    (hacquired : (s.cache.setIfAbsent t (Work.lockKey name) (.str token) ttl).1 = true) :
    s.step t (.call name token ttl) =
      ⟨(s.cache.setIfAbsent t (Work.lockKey name) (.str token) ttl).2,
        s.calls ++ [⟨name, token, ttl, t, !ttl.isTooLarge⟩]⟩ := by
  rw [step]
  cases hset : s.cache.setIfAbsent t (Work.lockKey name) (.str token) ttl with
  | mk acquired cache =>
    rw [hset] at hacquired
    cases hacquired
    rfl

omit [IsTrans τ (· ≤ ·)] in
/-- A call that finds the lock busy changes nothing. -/
theorem step_call_busy {name token : String} {ttl : Quantity}
    (hbusy : (s.cache.setIfAbsent t (Work.lockKey name) (.str token) ttl).1 = false) :
    s.step t (.call name token ttl) = s := by
  rw [step, Cache.setIfAbsent_eq_false hbusy]

/-- **Exclusion.** A lock is acquired only when those that are held for its name have expired. -/
theorem Sound.deadline_le (h : s.Sound now) (later : now ≤ t) {name token : String}
    {ttl : Quantity}
    (hacquired : (s.cache.setIfAbsent t (Work.lockKey name) (.str token) ttl).1 = true)
    {c : LockCall τ} (hc : c ∈ s.calls) (hname : c.name = name) (hrunning : c.running = true) :
    c.deadline ≤ t := by
  rcases h.kept c hc hrunning with hentry | hdeadline
  · rw [Cache.setIfAbsent_fst, Option.isNone_iff_eq_none, Cache.live?, ← hname, hentry] at hacquired
    cases hexpired : Cache.expired t c.entry with
    | true => exact LockCall.deadline_le_of_expired hexpired
    | false => simp [Option.filter, hexpired] at hacquired
  · exact IsTrans.trans _ _ _ hdeadline later

omit [IsTrans τ (· ≤ ·)] in
/-- A lock that does not expire is not acquired. -/
theorem Sound.not_acquired (h : s.Sound now) {c : LockCall τ} (hc : c ∈ s.calls)
    (hlarge : c.ttl.isTooLarge = true) (t : τ) (token : String) (ttl : Quantity) :
    (s.cache.setIfAbsent t (Work.lockKey c.name) (.str token) ttl).1 = false := by
  rw [Cache.setIfAbsent_fst, Cache.live?, (h.stranded c hc hlarge).2]
  simp [Option.filter, LockCall.not_expired hlarge t]

/-- A call that acquires a lock. -/
theorem Sound.call (h : s.Sound now) (later : now ≤ t) {name token : String} {ttl : Quantity}
    (hfresh : token ∉ s.calls.map LockCall.token)
    (hacquired : (s.cache.setIfAbsent t (Work.lockKey name) (.str token) ttl).1 = true) :
    (s.step t (.call name token ttl)).Sound t := by
  obtain ⟨new, hnew⟩ : ∃ new : LockCall τ, new = ⟨name, token, ttl, t, !ttl.isTooLarge⟩ := ⟨_, rfl⟩
  have hentries (other : String) :
      Cache.entry? (s.cache.setIfAbsent t (Work.lockKey name) (.str token) ttl).2
          (Work.lockKey other) =
        if other = name then some new.entry else s.cache.entry? (Work.lockKey other) := by
    rw [Cache.entry?_setIfAbsent hacquired]
    by_cases hother : other = name
    · rw [hother, if_pos rfl, if_pos rfl, hnew]
      rfl
    · rw [if_neg hother, if_neg fun heq => hother (Work.lockKey_injective heq)]
  rw [step_call hacquired, ← hnew]
  refine ⟨h.keyed.setIfAbsent t _ _ ttl, ?_, ?_, ?_, ?_⟩
  · rw [List.map_append, List.map_singleton, show new.token = token by rw [hnew]]
    exact List.Nodup.append h.distinct (List.nodup_singleton token) (by simpa using hfresh)
  · intro other e hentry
    rw [hentries] at hentry
    by_cases hother : other = name
    · rw [if_pos hother] at hentry
      refine ⟨new, List.mem_append_right _ (List.mem_singleton_self new), ?_,
        (Option.some.inj hentry).symm, ?_⟩
      · rw [hnew]
        exact hother.symm
      · rw [hnew]
        cases ttl.isTooLarge <;> simp
    · rw [if_neg hother] at hentry
      obtain ⟨c, hc, howned⟩ := h.owned other e hentry
      exact ⟨c, List.mem_append_left _ hc, howned⟩
  · intro c hc hrunning
    rcases List.mem_append.mp hc with hc | hc
    · by_cases hname : c.name = name
      · exact .inr (h.deadline_le later hacquired hc hname hrunning)
      · rw [hentries, if_neg hname]
        exact (h.kept c hc hrunning).imp id fun hdeadline => IsTrans.trans _ _ _ hdeadline later
    · rw [List.mem_singleton.mp hc, hentries, if_pos (by rw [hnew])]
      exact .inl rfl
  · intro c hc hlarge
    rcases List.mem_append.mp hc with hc | hc
    · obtain ⟨hrunning, hentry⟩ := h.stranded c hc hlarge
      refine ⟨hrunning, ?_⟩
      rw [hentries, if_neg, hentry]
      intro hname
      rw [← hname, h.not_acquired hc hlarge] at hacquired
      cases hacquired
    · rw [List.mem_singleton.mp hc] at hlarge ⊢
      rw [hentries, if_pos (by rw [hnew])]
      refine ⟨?_, rfl⟩
      rw [hnew] at hlarge ⊢
      simp only [hlarge, Bool.not_true]

omit [IsTrans τ (· ≤ ·)] in
/-- In a sound state a token belongs to one call. -/
theorem Sound.eq_of_token (h : s.Sound now) {c c' : LockCall τ} (hc : c ∈ s.calls)
    (hc' : c' ∈ s.calls) (htoken : c.token = c'.token) : c = c' :=
  List.inj_on_of_nodup_map h.distinct hc hc' htoken

omit [IsTrans τ (· ≤ ·)] in
/-- The end of a call, if there is one of this token. -/
theorem step_finish (t : τ) (token : String) :
    s.step t (.finish token) = s ∨ ∃ c ∈ s.calls, c.token = token ∧ c.running = true ∧
      s.step t (.finish token) =
        ⟨(s.cache.eraseIfEqual t (Work.lockKey c.name) (.str token)).2,
          s.calls.map (LockCall.ended token)⟩ := by
  rw [step]
  cases hfound : s.calls.find? fun c => c.token == token && c.running with
  | none => exact .inl rfl
  | some c =>
    have hsame := List.find?_some hfound
    simp only [Bool.and_eq_true, beq_iff_eq] at hsame
    exact .inr ⟨c, List.mem_of_find?_eq_some hfound, hsame.1, hsame.2, rfl⟩

omit [IsTrans τ (· ≤ ·)] in
/-- **Releases.** What another call has stored is not removed. -/
theorem entry?_eraseIfEqual_of_ne {c c' : LockCall τ} (hother : c'.token ≠ c.token)
    (hentry : s.cache.live? t (Work.lockKey c'.name) = some c'.entry) :
    Cache.entry? (s.cache.eraseIfEqual t (Work.lockKey c.name) (.str c.token)).2
      (Work.lockKey c'.name) = some c'.entry := by
  rw [Cache.entry?_eraseIfEqual]
  split
  · rename_i hname
    rw [← hname, hentry]
    refine Option.filter_eq_some_iff.mpr ⟨rfl, ?_⟩
    rw [LockCall.same_entry, beq_false_of_ne hother]
    rfl
  · exact (Option.filter_eq_some_iff.mp hentry).1

/-- The end of a call. -/
theorem Sound.finish (h : s.Sound now) (later : now ≤ t) (token : String) :
    (s.step t (.finish token)).Sound t := by
  rcases step_finish (s := s) t token with hsame | ⟨c, hc, rfl, hrunning, hstep⟩
  · rw [hsame]
    exact h.of_entries later h.keyed fun name => .inl rfl
  rw [hstep]
  refine ⟨h.keyed.eraseIfEqual t _ _, ?_, ?_, ?_, ?_⟩
  · rw [List.map_map, show LockCall.token ∘ LockCall.ended c.token = LockCall.token from
      funext (LockCall.ended_token c.token)]
    exact h.distinct
  · -- the entry of the call itself is gone, and all others are still those of their calls
    intro name e hentry
    have hold : s.cache.entry? (Work.lockKey name) = some e ∧
        (name = c.name → Json.same e.value (.str c.token) = false) := by
      rw [Cache.entry?_eraseIfEqual] at hentry
      split at hentry
      · rename_i hname
        obtain ⟨hlive, hvalue⟩ := Option.filter_eq_some_iff.mp hentry
        rw [hname]
        exact ⟨(Option.filter_eq_some_iff.mp hlive).1, fun _ => by simpa using hvalue⟩
      · rename_i hname
        exact ⟨hentry, fun heq => absurd (congrArg Work.lockKey heq) hname⟩
    obtain ⟨c', hc', hname, rfl, hheld⟩ := h.owned name e hold.1
    have hother : c'.token ≠ c.token := by
      intro htoken
      obtain rfl := h.eq_of_token hc' hc htoken
      have hvalue := hold.2 hname.symm
      rw [LockCall.same_entry] at hvalue
      simp at hvalue
    refine ⟨c', List.mem_map.mpr ⟨c', hc', if_neg hother⟩, hname, rfl, hheld⟩
  · intro c'' hc'' hrunning''
    obtain ⟨c', hc', rfl⟩ := List.mem_map.mp hc''
    obtain ⟨hother, hsame⟩ := LockCall.ended_of_running hrunning''
    rw [hsame] at hrunning'' ⊢
    rcases h.kept c' hc' hrunning'' with hentry | hdeadline
    · cases hexpired : Cache.expired t c'.entry with
      | true => exact .inr (LockCall.deadline_le_of_expired hexpired)
      | false =>
        refine .inl (entry?_eraseIfEqual_of_ne hother ?_)
        exact Option.filter_eq_some_iff.mpr ⟨hentry, by rw [hexpired]; rfl⟩
    · exact .inr (IsTrans.trans _ _ _ hdeadline later)
  · intro c'' hc'' hlarge
    obtain ⟨c', hc', rfl⟩ := List.mem_map.mp hc''
    have hlarge' : c'.ttl.isTooLarge = true := by
      rw [LockCall.ended] at hlarge
      split at hlarge <;> exact hlarge
    obtain ⟨hended, hentry⟩ := h.stranded c' hc' hlarge'
    have hother : c'.token ≠ c.token := by
      intro htoken
      obtain rfl := h.eq_of_token hc' hc htoken
      rw [hended] at hrunning
      cases hrunning
    rw [show c'.ended c.token = c' from if_neg hother]
    refine ⟨hended, entry?_eraseIfEqual_of_ne hother ?_⟩
    exact Option.filter_eq_some_iff.mpr ⟨hentry, by rw [LockCall.not_expired hlarge']; rfl⟩

/-- **One action keeps it.** -/
theorem sound_step (h : s.Sound now) (later : now ≤ t) {action : LockAction}
    (allowed : s.Allows action) : (s.step t action).Sound t := by
  cases action with
  | call name token ttl =>
    cases hset : (s.cache.setIfAbsent t (Work.lockKey name) (.str token) ttl).1 with
    | true => exact h.call later allowed hset
    | false =>
      rw [step_call_busy hset]
      exact h.of_entries later h.keyed fun name => .inl rfl
  | finish token => exact h.finish later token
  | put key value ttl =>
    refine h.of_entries later (h.keyed.set t key value ttl) fun name => .inl ?_
    rw [Cache.entry?_set, if_neg (allowed name).symm]
  | look key =>
    refine h.of_entries later (h.keyed.dropExpired t key) fun name => ?_
    rw [Cache.entry?_get]
    split
    · rename_i hname
      rw [hname]
      exact .inr rfl
    · exact .inl rfl
  | drop key =>
    refine h.of_entries later (h.keyed.erase key) fun name => .inl ?_
    rw [Cache.entry?_erase, if_neg (allowed name).symm]
  | scan pattern =>
    exact h.of_entries later (h.keyed.scan t pattern) fun name =>
      .inr (Cache.entry?_scan h.keyed t pattern _)

/-- **All actions keep it.** -/
theorem sound_of_reachedAt (h : s.ReachedAt now) : s.Sound now := by
  induction h with
  | start now => exact sound_start now
  | act action _ later allowed ih => exact sound_step ih later allowed

end Locks

/-! ### Locked runs -/

variable {σ τ : Type} [Seconds τ]

namespace World

/-- The token of the next call. -/
def nextToken (w : World σ τ) : String := Text.Ulid.lockToken w.tokens

/-- Whether the next call acquires the lock of a name, and the cache that it leaves. -/
def tryLock (w : World σ τ) (name : String) (ttl : Quantity) : Bool × Cache τ :=
  w.cache.setIfAbsent w.monoNow (Work.lockKey name) (.str w.nextToken) ttl

/-- The world in which the work of the next call is done. -/
def locking (w : World σ τ) (name : String) (ttl : Quantity) : World σ τ :=
  { w with tokens := w.tokens + 1, cache := (w.tryLock name ttl).2 }

end World

namespace Work

variable {name : String} {ttl : Quantity} {work : Work σ τ Unit} {w : World σ τ}

/-- A lock that is given back is removed if it has the own token, and nothing else is done but to
log. -/
theorem unlock_apply (name token : String) (ttl : Quantity) (w : World σ τ) :
    ∃ journal, unlock name token ttl w = (.ok (), { w with
      cache := (w.cache.eraseIfEqual w.monoNow (lockKey name) (.str token)).2, journal }) := by
  have herase : (withCache fun c t => c.eraseIfEqual t (lockKey name) (.str token)) w =
      (.ok (w.cache.eraseIfEqual w.monoNow (lockKey name) (.str token)).1, { w with
        cache := (w.cache.eraseIfEqual w.monoNow (lockKey name) (.str token)).2 }) := rfl
  rw [unlock, bind_apply_of_ok herase]
  cases (w.cache.eraseIfEqual w.monoNow (lockKey name) (.str token)).1 with
  | true => exact ⟨w.journal, rfl⟩
  | false => exact ⟨_, rfl⟩

/-- What a locked run does when it knows whether it has acquired its lock. -/
theorem underLock_apply (name : String) (ttl : Quantity) (work : Work σ τ Unit) (w : World σ τ) :
    underLock name ttl work w =
      if (w.tryLock name ttl).1 then
        (ofExcept ttl.check >>= fun _ =>
          andFinally work (unlock name w.nextToken ttl) >>= fun _ => pure true)
            (w.locking name ttl)
      else (.ok false, w.locking name ttl) := by
  have htoken : freshToken w = (.ok w.nextToken, { w with tokens := w.tokens + 1 }) := rfl
  have hset : (withCache fun c t => c.setIfAbsent t (lockKey name) (.str w.nextToken) ttl)
      { w with tokens := w.tokens + 1 } = (.ok (w.tryLock name ttl).1, w.locking name ttl) := rfl
  rw [underLock, bind_apply_of_ok htoken, bind_apply_of_ok hset]
  cases (w.tryLock name ttl).1 <;> rfl

/-- A call that finds its lock busy does no work and changes nothing in the cache. -/
theorem underLock_of_busy (h : (w.tryLock name ttl).1 = false) :
    underLock name ttl work w = (.ok false, { w with tokens := w.tokens + 1 }) := by
  have hsame : w.locking name ttl = { w with tokens := w.tokens + 1 } := by
    rw [World.locking, World.tryLock, Cache.setIfAbsent_eq_false h]
  rw [underLock_apply, h, if_neg Bool.false_ne_true, hsame]

/-- A lifetime that no clock can show is found out after the token has been stored. -/
theorem underLock_of_large (h : (w.tryLock name ttl).1 = true) (hlarge : ttl.isTooLarge = true) :
    underLock name ttl work w =
      (.error (.fault (.outOfRange "int too large to convert to float")), w.locking name ttl) := by
  rw [underLock_apply, h, if_pos rfl, Quantity.check, hlarge, if_pos rfl]
  rfl

/-- Whatever has become of the work, the lock is given back in the end. -/
theorem underLock_of_acquired (h : (w.tryLock name ttl).1 = true) (hlasts : ttl.isTooLarge = false)
    {result : Except Halt Unit} {w' : World σ τ}
    (hwork : work (w.locking name ttl) = (result, w')) :
    ∃ journal, underLock name ttl work w = (result.map fun _ => true, { w' with
      cache := (w'.cache.eraseIfEqual w'.monoNow (lockKey name) (.str w.nextToken)).2
      journal }) := by
  obtain ⟨journal, hunlock⟩ := unlock_apply name w.nextToken ttl w'
  refine ⟨journal, ?_⟩
  have hfinally : andFinally work (unlock name w.nextToken ttl) (w.locking name ttl) =
      (result, { w' with
        cache := (w'.cache.eraseIfEqual w'.monoNow (lockKey name) (.str w.nextToken)).2
        journal }) := by
    rw [andFinally, hwork]
    dsimp only
    rw [hunlock]
  have hcheck : (ofExcept ttl.check : Work σ τ Unit) (w.locking name ttl) =
      (.ok (), w.locking name ttl) := by
    rw [Quantity.check_eq_ok hlasts]
    rfl
  rw [underLock_apply, h, if_pos rfl, bind_apply_of_ok hcheck]
  cases result with
  | ok _ => exact bind_apply_of_ok hfinally
  | error halt => exact bind_apply_of_error hfinally

end Work

/-- How a locked run goes in a world with the cache of `s`. -/
inductive LockedRun (s : Locks τ) (name : String) (ttl : Quantity) (work : Work σ τ Unit)
    (w : World σ τ) : Except Halt Bool × World σ τ → Prop
  /-- The lock is busy: the work is not done, and the cache stays as it is. -/
  | busy (hbusy : (w.tryLock name ttl).1 = false) :
      LockedRun s name ttl work w (.ok false, { w with tokens := w.tokens + 1 })
  /-- The lock is acquired for a time that no clock can show: the call is made and fails. -/
  | stranded {fault : Fault} (hacquired : (w.tryLock name ttl).1 = true)
      (hlarge : ttl.isTooLarge = true)
      (hcache : (w.locking name ttl).cache = (s.step w.monoNow (.call name w.nextToken ttl)).cache) :
      LockedRun s name ttl work w (.error (.fault fault), w.locking name ttl)
  /-- The lock is acquired: the call is made, the work is done, and whatever has become of the work,
  and of the cache meanwhile, the call is ended. -/
  | ran {result : Except Halt Unit} {w' : World σ τ} {cache : Cache τ} {journal : List LogLine}
      (hacquired : (w.tryLock name ttl).1 = true) (hlasts : ttl.isTooLarge = false)
      (hcache : (w.locking name ttl).cache = (s.step w.monoNow (.call name w.nextToken ttl)).cache)
      (hwork : work (w.locking name ttl) = (result, w'))
      (hend : ∀ s' : Locks τ, s'.cache = w'.cache → (s'.calls.map LockCall.token).Nodup →
        ⟨name, w.nextToken, ttl, w.monoNow, true⟩ ∈ s'.calls →
          cache = (s'.step w'.monoNow (.finish w.nextToken)).cache) :
      LockedRun s name ttl work w (result.map fun _ => true, { w' with cache, journal })

/-- The call that is ended by its token. -/
theorem Locks.cache_finish {s : Locks τ} (hdistinct : (s.calls.map LockCall.token).Nodup)
    {c : LockCall τ} (hc : c ∈ s.calls) (hrunning : c.running = true) (t : τ) :
    (s.step t (.finish c.token)).cache =
      (s.cache.eraseIfEqual t (Work.lockKey c.name) (.str c.token)).2 := by
  rw [step]
  cases hfound : s.calls.find? fun c' => c'.token == c.token && c'.running with
  | none => simpa [hrunning] using List.find?_eq_none.mp hfound c hc
  | some c' =>
    have hsame := List.find?_some hfound
    simp only [Bool.and_eq_true, beq_iff_eq] at hsame
    obtain rfl : c' = c :=
      List.inj_on_of_nodup_map hdistinct (List.mem_of_find?_eq_some hfound) hc hsame.1
    rfl

/-- **A locked run** is a call, the work, and the end of the call. -/
theorem Work.underLock_steps (s : Locks τ) (name : String) (ttl : Quantity)
    (work : Work σ τ Unit) (w : World σ τ) (hcache : w.cache = s.cache) :
    LockedRun s name ttl work w (Work.underLock name ttl work w) := by
  cases hacquired : (w.tryLock name ttl).1 with
  | false =>
    rw [underLock_of_busy hacquired]
    exact .busy hacquired
  | true =>
    have hcalled : (w.locking name ttl).cache =
        (s.step w.monoNow (.call name w.nextToken ttl)).cache := by
      have hset := hacquired
      rw [World.tryLock, hcache] at hset
      rw [Locks.step_call hset, ← hcache]
      rfl
    cases hlarge : ttl.isTooLarge with
    | true =>
      rw [underLock_of_large hacquired hlarge]
      exact .stranded hacquired hlarge hcalled
    | false =>
      cases hwork : work (w.locking name ttl) with
      | mk result w' =>
        obtain ⟨journal, hrun⟩ := underLock_of_acquired hacquired hlarge hwork
        rw [hrun]
        refine .ran hacquired hlarge hcalled hwork fun s' hsame hdistinct hc => ?_
        rw [← hsame]
        exact (Locks.cache_finish hdistinct hc rfl w'.monoNow).symm

/-! ### The promise -/

/-- What concerns the lock of a name: a call for it, and the end of a call that has acquired it. -/
inductive Locks.Concerns (s : Locks τ) (name : String) : LockAction → Prop
  | call (token : String) (ttl : Quantity) : Concerns s name (.call name token ttl)
  | finish {c : LockCall τ} (hc : c ∈ s.calls) (hrunning : c.running = true)
      (hname : c.name = name) : Concerns s name (.finish c.token)

/-- What holds in every state that calls can reach together. -/
structure SingleFlight (σ : Type) (s : Locks τ) (now : τ) : Prop where
  /-- If a call acquires a lock while the work of another call for the same name is going on, then
  that one has acquired it at least its lifetime before. -/
  exclusive : ∀ t name token ttl, now ≤ t →
    (s.cache.setIfAbsent t (Work.lockKey name) (.str token) ttl).1 = true →
    ∀ c ∈ s.calls, c.name = name → c.running = true → c.since + Seconds.ofQuantity c.ttl ≤ t
  /-- A call that finds its lock busy changes nothing. -/
  busy : ∀ t name token ttl,
    (s.cache.setIfAbsent t (Work.lockKey name) (.str token) ttl).1 = false →
    s.step t (.call name token ttl) = s
  /-- The end of a call leaves the locks of all other calls that have not expired. -/
  released : ∀ t token, now ≤ t → ∀ c ∈ s.calls, c.token ≠ token →
    s.cache.live? t (Work.lockKey c.name) = some c.entry →
    Cache.entry? (s.step t (.finish token)).cache (Work.lockKey c.name) = some c.entry
  /-- The token of a call that has ended is in no lock. -/
  gone : ∀ c ∈ s.calls, c.running = false → c.ttl.isTooLarge = false →
    ∀ name e, s.cache.entry? (Work.lockKey name) = some e → e.value ≠ .str c.token
  /-- For a lifetime that no clock can show the work is not done, the token stays for ever, and the
  lock stays busy. -/
  stranded : ∀ c ∈ s.calls, c.ttl.isTooLarge = true → c.running = false ∧ ∀ t,
    s.cache.live? t (Work.lockKey c.name) = some ⟨.str c.token, none⟩ ∧ ∀ token ttl,
      (s.cache.setIfAbsent t (Work.lockKey c.name) (.str token) ttl).1 = false
  /-- What concerns a lock leaves all other entries as they are, in their order: those of other
  locks, and those of the queue of pending broadcasts. -/
  elsewhere : ∀ t name action, s.Concerns name action →
    (s.step t action).cache.others (Work.lockKey name) = s.cache.others (Work.lockKey name) ∧
    (∀ other, other ≠ name → Cache.entry? (s.step t action).cache (Work.lockKey other) =
      s.cache.entry? (Work.lockKey other)) ∧
    ∀ (q : BroadcastQueue) (id : String), q.space = "pendingBroadcast" →
      Cache.entry? (s.step t action).cache (q.keyOf id) = s.cache.entry? (q.keyOf id)
  /-- Locked runs are made of these steps. -/
  steps : ∀ (name : String) (ttl : Quantity) (work : Work σ τ Unit) (w : World σ τ),
    w.cache = s.cache → LockedRun s name ttl work w (Work.underLock name ttl work w)

namespace Locks

variable {s : Locks τ} {now : τ}

/-- What concerns the lock of a name leaves all other entries as they are. -/
theorem others_step (hdistinct : (s.calls.map LockCall.token).Nodup) (t : τ) {name : String}
    {action : LockAction} (h : s.Concerns name action) :
    (s.step t action).cache.others (Work.lockKey name) = s.cache.others (Work.lockKey name) := by
  cases h with
  | call token ttl =>
    cases hset : (s.cache.setIfAbsent t (Work.lockKey name) (.str token) ttl).1 with
    | true =>
      rw [step_call hset]
      exact Cache.others_setIfAbsent _ _ _ _ _
    | false => rw [step_call_busy hset]
  | finish hc hrunning hname =>
    rw [cache_finish hdistinct hc hrunning, hname]
    exact Cache.others_eraseIfEqual _ _ _ _

/-- **Single flight.** In every state that calls can reach together, whoever comes in between. -/
theorem singleFlight [IsTrans τ (· ≤ ·)] (σ : Type) (h : s.ReachedAt now) :
    SingleFlight σ s now := by
  have hsound := sound_of_reachedAt h
  refine ⟨?_, ?_, ?_, ?_, ?_, ?_, ?_⟩
  · intro t name token ttl later hacquired c hc hname hrunning
    exact hsound.deadline_le later hacquired hc hname hrunning
  · exact fun t name token ttl hbusy => step_call_busy hbusy
  · intro t token later c hc hother hlive
    rcases step_finish (s := s) t token with hsame | ⟨c', -, rfl, -, hstep⟩
    · rw [hsame]
      exact (Option.filter_eq_some_iff.mp hlive).1
    · rw [hstep]
      exact entry?_eraseIfEqual_of_ne hother hlive
  · intro c hc hended hlasts name e hentry hvalue
    obtain ⟨c', hc', -, rfl, hheld⟩ := hsound.owned name e hentry
    obtain rfl := hsound.eq_of_token hc' hc (Json.str.inj hvalue)
    rcases hheld with hrunning | hlarge
    · rw [hended] at hrunning
      cases hrunning
    · rw [hlasts] at hlarge
      cases hlarge
  · intro c hc hlarge
    obtain ⟨hended, hentry⟩ := hsound.stranded c hc hlarge
    refine ⟨hended, fun t => ⟨?_, fun token ttl => hsound.not_acquired hc hlarge t token ttl⟩⟩
    have hstored : c.entry = ⟨.str c.token, none⟩ := by rw [LockCall.entry, hlarge, if_pos rfl]
    rw [← hstored]
    exact Option.filter_eq_some_iff.mpr ⟨hentry, by rw [LockCall.not_expired hlarge]; rfl⟩
  · intro t name action hconcerns
    have hothers := others_step hsound.distinct t hconcerns
    refine ⟨hothers, fun other hne => ?_, fun q id hspace => ?_⟩
    · exact Cache.entry?_eq_of_others hothers fun heq => hne (Work.lockKey_injective heq)
    · exact Cache.entry?_eq_of_others hothers (BroadcastQueue.keyOf_ne_lockKey hspace id name)
  · exact fun name ttl work w hcache => Work.underLock_steps s name ttl work w hcache

/-- A second call overtakes the first one after its lock has expired. -/
def overtaken : Locks Rat :=
  ((({} : Locks Rat).step 0 (.call "job" "first" 300)).step 301 (.call "job" "second" 300)).step 302
    (.finish "first")

/-- When the first call ends, the second one still holds the lock. -/
theorem singleFlight_overtaken : IsTrans Rat (· ≤ ·) ∧ overtaken.ReachedAt 302 ∧
    (overtaken.cache.entries.map fun e => (e.1, e.2.expiry)) = [("lock:job", some 601)] ∧
    SingleFlight Simulation overtaken 302 := by
  have htrans : IsTrans Rat (· ≤ ·) := ⟨fun _ _ _ => Rat.le_trans⟩
  have hfirst : "first" ∉ ({} : Locks Rat).calls.map LockCall.token := by decide
  have hsecond : "second" ∉
      ((({} : Locks Rat).step 0 (.call "job" "first" 300)).calls.map LockCall.token) := by
    decide +kernel
  have hreached : overtaken.ReachedAt 302 :=
    .act _ (.act _ (.act _ (.start 0) (by decide +kernel) hfirst) (by decide +kernel) hsecond)
      (by decide +kernel) trivial
  exact ⟨htrans, hreached, by decide +kernel, singleFlight Simulation hreached⟩

end Locks

/-! ### A lock that is never free again -/

/-- **A call whose token stays.** It asks for a lifetime that no clock can show. The call has failed
and its work was not done, but the lock is busy for ever. -/
theorem Work.underLock_strands : ∃ w : World Simulation Rat,
    Work.underLock "job" (.whole (10 ^ 400)) (pure ()) (World.initial {} 0) =
      (.error (.fault (.outOfRange "int too large to convert to float")), w) ∧
    ∀ t, (w.cache.get t (Work.lockKey "job")).1 = some (.str (Text.Ulid.lockToken 0)) := by
  have hlarge : (Quantity.whole (10 ^ 400)).isTooLarge = true := by decide +kernel
  have hacquired :
      ((World.initial {} 0 : World Simulation Rat).tryLock "job" (.whole (10 ^ 400))).1 = true := rfl
  refine ⟨_, Work.underLock_of_large hacquired hlarge, fun t => ?_⟩
  rw [Cache.get_fst, Cache.live?, World.locking, World.tryLock,
    Cache.entry?_setIfAbsent hacquired, if_pos rfl, if_pos hlarge]
  rfl

end ChainRelay
