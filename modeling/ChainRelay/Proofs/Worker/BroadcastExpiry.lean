import ChainRelay.Proofs.Time.StoredInstants
import ChainRelay.Proofs.Worker.BroadcastCourse

/-!
# How long a pending broadcast lasts

An item is kept for 600 seconds after it was last written. While pending broadcasts are advanced
every 60 seconds, an item that is not in flight is written or removed by each call. An item in
flight is left as it is while the hub does not answer for its broadcast, or says that it is pending
and the last writing is not more than 120 seconds ago. If the hub goes on without an answer, the
item expires: nobody is told, and no retry was counted.

## The contract

The item is put with the time of the put. Every call returns and ends 60 seconds at most after the
one before it. Nobody else writes the key, and the monotonic clock does not go backwards. The wall
clock may show anything; what is said about ages holds if it keeps pace with the monotonic clock.

## Main definitions

* `Tended` — the histories of an item that is advanced every 60 seconds
* `Tended.Untouched` — where an item was last written, and that all visits since then have waited
* `Tended.Unanswered` — how an item expires
* `Tended.Left` — how an item has left the queue

## Main results

* `Tended.kept` — what every history keeps
* `Tended.Untouched.failed` — after 122 seconds no question was answered
* `Relayer.tended_fate` — how an item may leave the queue
* `Relayer.tended_expires` — an item that expires after ten calls
-/

namespace ChainRelay

variable {σ : Type}

/-! ### What a visit may show -/

namespace Visit

/-- The hub has said that the broadcast has succeeded. -/
def Succeeds (r : Relayer σ) (v : Visit σ ℚ) : Prop :=
  ∃ item, v.events = [r.statusAsked item (.ok .success)]

/-- The operators were told that the retries are used up. -/
def Reports (v : Visit σ ℚ) : Prop :=
  ∃ item answer, v.events = [Relayer.spentReported item answer]

/-- The hub was asked for the broadcast of an item, and did not answer or said that it is pending
and still may be. -/
def Waits (r : Relayer σ) (item : PendingBroadcast) (v : Visit σ ℚ) : Prop :=
  ∃ answer sentAt, Instant.ofStored item.timestamp = .ok sentAt ∧
    v.events = [r.statusAsked item answer] ∧
    StatusAnswer.Waits answer (v.after.wallNow - sentAt)

/-- The hub was asked for the broadcast of an item and did not answer. -/
def Fails (r : Relayer σ) (item : PendingBroadcast) (v : Visit σ ℚ) : Prop :=
  ∃ fault, v.events = [r.statusAsked item (.error fault)]

end Visit

/-! ### Histories -/

/-- The histories of an item that was put in `w₀`: the visits so far, the time at which the last
call has ended, and the world. A call ends 60 seconds at most after the one before it or after the
put. -/
inductive Tended (r : Relayer σ) (key : String) (w₀ : World σ ℚ) (item : PendingBroadcast) :
    List (Visit σ ℚ) → ℚ → World σ ℚ → Prop
  | put (keyed : w₀.cache.Keyed) (stamped : item.timestamp = w₀.wallNow.toMillis) :
      Tended r key w₀ item [] w₀.monoNow (r.broadcasts.put key item w₀).2
  | aside {vs : List (Visit σ ℚ)} {done : ℚ} {w w' : World σ ℚ}
      (history : Tended r key w₀ item vs done w) (aside : w.Aside key w')
      (forward : w.monoNow ≤ w'.monoNow) (soon : w'.monoNow ≤ done + 60) :
      Tended r key w₀ item vs done w'
  | call {vs : List (Visit σ ℚ)} {done : ℚ} {w : World σ ℚ}
      (history : Tended r key w₀ item vs done w)
      (returns : ∃ count, (r.processBroadcasts w).1 = .ok count)
      (forward : w.monoNow ≤ (r.processBroadcasts w).2.monoNow ∧ ∀ v ∈ r.visitsOf key w,
        w.monoNow ≤ v.before.monoNow ∧ v.before.monoNow ≤ v.after.monoNow ∧
          v.after.monoNow ≤ (r.processBroadcasts w).2.monoNow)
      (soon : (r.processBroadcasts w).2.monoNow ≤ done + 60) :
      Tended r key w₀ item (vs ++ r.visitsOf key w) (r.processBroadcasts w).2.monoNow
        (r.processBroadcasts w).2

/-- From one world to another one the wall clock has gone on like the monotonic one, up to a second.
The first one has a date from 1970 on. -/
structure World.Paced (w w' : World σ ℚ) : Prop where
  dated : 0 ≤ w.wallNow ∧ w.wallNow < Instant.calendar.2
  pace : |((w'.wallNow - w.wallNow : ℤ) : ℚ) - 1000000 * (w'.monoNow - w.monoNow)| ≤ 1000000

namespace Tended

/-- The item was last written in `written`, where it was put or where a visit has ended that has had
its broadcast accepted, if it is in flight. Since then every visit has waited. -/
structure Untouched (r : Relayer σ) (w₀ : World σ ℚ) (item₀ : PendingBroadcast)
    (vs : List (Visit σ ℚ)) (written : World σ ℚ) (item : PendingBroadcast)
    (since : List (Visit σ ℚ)) : Prop where
  origin : (vs = since ∧ written = w₀ ∧ item = item₀) ∨
    ∃ before u, vs = before ++ u :: since ∧ written = u.after ∧
      (item.broadcastId.truthy = true → ∃ id, u.Accepts id ∧ item.broadcastId = .str id)
  stamped : item.timestamp = written.wallNow.toMillis
  waited : ∀ v ∈ since, v.Waits r item

/-- The item is there, whether it has expired or not. -/
structure Present (r : Relayer σ) (key : String) (w₀ : World σ ℚ) (item₀ : PendingBroadcast)
    (vs : List (Visit σ ℚ)) (done : ℚ) (w : World σ ℚ) (written : World σ ℚ)
    (item : PendingBroadcast) (since : List (Visit σ ℚ)) : Prop
    extends Untouched r w₀ item₀ vs written item since where
  entry : w.cache.entry? key = some ⟨item.toJson, some (written.monoNow + 600)⟩
  /-- The last call was the one that has written the item, or the last visit was in it. -/
  recent : (since = [] ∧ done ≤ written.monoNow + 60) ∨
    ∃ v, since.getLast? = some v ∧ done ≤ v.after.monoNow + 60

/-- The item has expired: 600 seconds have gone by since it was written, and all visits have waited,
the last of them after 480 seconds at the least. -/
structure Unanswered (r : Relayer σ) (w₀ : World σ ℚ) (item₀ : PendingBroadcast)
    (vs : List (Visit σ ℚ)) (now : ℚ) (written : World σ ℚ) (item : PendingBroadcast)
    (since : List (Visit σ ℚ)) : Prop extends Untouched r w₀ item₀ vs written item since where
  late : ∃ v, since.getLast? = some v ∧ written.monoNow + 480 ≤ v.after.monoNow
  expired : written.monoNow + 600 ≤ now
  /-- After 122 seconds no question was answered. -/
  failed : (∀ v ∈ since, written.Paced v.after) →
    ∀ v ∈ since, written.monoNow + 122 ≤ v.after.monoNow → v.Fails r item

/-- The item has left the queue: a visit has seen the success of its broadcast or has told the
operators, or the item has expired. Later visits have found nothing. -/
def Left (r : Relayer σ) (w₀ : World σ ℚ) (item₀ : PendingBroadcast) (vs : List (Visit σ ℚ))
    (now : ℚ) : Prop :=
  ∃ kept rest, vs = kept ++ rest ∧ (∀ v ∈ rest, v.events = []) ∧
    ((∃ before v, kept = before ++ [v] ∧ (v.Succeeds r ∨ v.Reports)) ∨
      ∃ written item since, Unanswered r w₀ item₀ kept now written item since)

/-! ### When an item expires -/

variable {r : Relayer σ} {key : String} {w₀ w w' written : World σ ℚ}
  {item₀ item : PendingBroadcast} {vs since : List (Visit σ ℚ)} {v : Visit σ ℚ} {done now : ℚ}

/-- An item that is written lasts 600 seconds. -/
theorem expiry_default (hqueue : r.broadcasts = {}) (c : Cache ℚ) (now : ℚ) (key : String) :
    (some r.broadcasts.ttl).bind (c.expiry now key) = some (now + 600) := by
  have hfits : (600 : Quantity).isTooLarge = false := by decide +kernel
  have httl : r.broadcasts.ttl = 600 := by rw [hqueue]
  have hseconds : (Seconds.ofQuantity 600 : ℚ) = 600 := by
    change ((600 : ℤ) : ℚ) = 600
    norm_num
  rw [httl, Option.bind_some, Cache.expiry, hfits, if_neg Bool.false_ne_true, hseconds]

/-- What is found of an item with a deadline. -/
theorem pending?_of_deadline {deadline : ℚ}
    (h : w.cache.entry? key = some ⟨item.toJson, some deadline⟩) :
    w.pending? key = .ok (if deadline ≤ w.monoNow then none else some item) := by
  have hexpired : Cache.expired w.monoNow ⟨item.toJson, some deadline⟩ =
      decide (deadline ≤ w.monoNow) := rfl
  rw [World.pending?_of_item h, hexpired]
  by_cases hlong : deadline ≤ w.monoNow <;> simp [hlong]

theorem entry?_of_writes (hqueue : r.broadcasts = {}) (h : r.Writes key w w' item) :
    w'.cache.entry? key = some ⟨{ item with timestamp := w'.wallNow.toMillis }.toJson,
      some (w'.monoNow + 600)⟩ := by
  rw [h, Cache.entry?_set, if_pos rfl, expiry_default hqueue]

/-- A broadcast that is pending for more than 120 seconds is given up, so a visit that waits for
longer has had no answer. -/
theorem Untouched.failed (h : Untouched r w₀ item₀ vs written item since)
    (hpaced : ∀ v ∈ since, written.Paced v.after) (v : Visit σ ℚ) (hv : v ∈ since)
    (hlate : written.monoNow + 122 ≤ v.after.monoNow) : v.Fails r item := by
  obtain ⟨answer, sentAt, hdated, hevents, hwaits⟩ := h.waited v hv
  rcases hwaits with ⟨fault, rfl⟩ | ⟨-, hage⟩
  · exact ⟨fault, hevents⟩
  · obtain ⟨⟨hfirst, hlast⟩, hpace⟩ := hpaced v hv
    have hstored : |(sentAt - written.wallNow : ℤ)| ≤ 2000 := by
      rw [h.stamped] at hdated
      rw [Instant.ofStored_eq_ok hdated]
      exact Instant.abs_ofMillis_toMillis_sub_le hfirst hlast
    have hgone : (121000000 : ℤ) ≤ v.after.wallNow - written.wallNow := by
      have hgone : (121000000 : ℚ) ≤ ((v.after.wallNow - written.wallNow : ℤ) : ℚ) := by
        linarith [(abs_le.mp hpace).1]
      exact_mod_cast hgone
    have hlimit : broadcastMicros = 120000000 := rfl
    have hread := (abs_le.mp hstored).2
    linarith

theorem Left.mono (h : Left r w₀ item₀ vs now) {later : ℚ} (hlater : now ≤ later) :
    Left r w₀ item₀ vs later := by
  obtain ⟨kept, rest, hsplit, hrest, hcases⟩ := h
  refine ⟨kept, rest, hsplit, hrest, hcases.imp id ?_⟩
  rintro ⟨written, item, since, h⟩
  exact ⟨written, item, since, h.toUntouched, h.late, h.expired.trans hlater, h.failed⟩

/-- Later visits find nothing. -/
theorem Left.append (h : Left r w₀ item₀ vs now) {more : List (Visit σ ℚ)}
    (hnothing : ∀ v ∈ more, v.events = []) : Left r w₀ item₀ (vs ++ more) now := by
  obtain ⟨kept, rest, rfl, hrest, hcases⟩ := h
  refine ⟨kept, rest ++ more, List.append_assoc kept rest more, fun x hx => ?_, hcases⟩
  rcases List.mem_append.mp hx with hx | hx
  · exact hrest x hx
  · exact hnothing x hx

/-- If an item has expired before the next call has ended, all visits have waited for long. -/
theorem Present.left_of_expired (h : Present r key w₀ item₀ vs done w written item since)
    (hexpired : written.monoNow + 600 ≤ now) (hsoon : now ≤ done + 60) :
    Left r w₀ item₀ vs now := by
  refine ⟨vs, [], (List.append_nil vs).symm, fun v hv => absurd hv List.not_mem_nil,
    .inr ⟨written, item, since, h.toUntouched, ?_, hexpired, h.toUntouched.failed⟩⟩
  rcases h.recent with ⟨-, hdone⟩ | ⟨v, hlast, hdone⟩
  · linarith
  · exact ⟨v, hlast, by linarith⟩

/-! ### What a visit does to the item -/

/-- A visit after which the item is there as it has been written in it. -/
theorem present_of_writes (hqueue : r.broadcasts = {}) {stored : PendingBroadcast}
    (hwrites : r.Writes key v.before v.after stored)
    (hafter : w'.cache.entry? key = v.after.cache.entry? key)
    (hlate : done ≤ v.after.monoNow + 60)
    (hflying : stored.broadcastId.truthy = true →
      ∃ id, v.Accepts id ∧ stored.broadcastId = .str id) :
    Present r key w₀ item₀ (vs ++ [v]) done w' v.after
      { stored with timestamp := v.after.wallNow.toMillis } [] where
  origin := .inr ⟨vs, v, rfl, rfl, hflying⟩
  stamped := rfl
  waited _ hv := absurd hv List.not_mem_nil
  entry := hafter.trans (entry?_of_writes hqueue hwrites)
  recent := .inl ⟨rfl, hlate⟩

/-- A visit that waits leaves the item as it is. -/
theorem Present.wait (h : Present r key w₀ item₀ vs done w written item since)
    (hwaits : v.Waits r item) (hentry : w'.cache.entry? key = w.cache.entry? key) {later : ℚ}
    (hlate : later ≤ v.after.monoNow + 60) :
    Present r key w₀ item₀ (vs ++ [v]) later w' written item (since ++ [v]) where
  origin := by
    rcases h.origin with ⟨rfl, hwritten, hitem⟩ | ⟨before, u, rfl, hwritten, hflying⟩
    · exact .inl ⟨rfl, hwritten, hitem⟩
    · exact .inr ⟨before, u, by simp, hwritten, hflying⟩
  stamped := h.stamped
  waited x hx := by
    rcases List.mem_append.mp hx with hx | hx
    · exact h.waited x hx
    · rw [List.mem_singleton.mp hx]
      exact hwaits
  entry := hentry.trans h.entry
  recent := .inr ⟨v, List.getLast?_concat, hlate⟩

/-- **What a visit does to the item.** It is there afterwards, or it has left the queue. -/
theorem Present.turn (hqueue : r.broadcasts = {})
    (h : Present r key w₀ item₀ vs done w written item since)
    (hturn : BroadcastTurn r key v.before v.after v.events v.result)
    (hok : ∃ present, v.result = .ok present)
    (hbefore : v.before.cache.entry? key = w.cache.entry? key)
    (hafter : w'.cache.entry? key = v.after.cache.entry? key)
    (hforward : v.before.monoNow ≤ w'.monoNow) (hsoon : w'.monoNow ≤ done + 60)
    (hlate : w'.monoNow ≤ v.after.monoNow + 60) :
    (∃ written item since,
      Present r key w₀ item₀ (vs ++ [v]) w'.monoNow w' written item since) ∨
    w'.cache.entry? key = none ∧ Left r w₀ item₀ (vs ++ [v]) w'.monoNow := by
  have hentry : v.before.cache.entry? key = some ⟨item.toJson, some (written.monoNow + 600)⟩ :=
    hbefore.trans h.entry
  have hfound := pending?_of_deadline hentry
  have hlooked : Cache.entry? (v.before.looked key).cache key =
      if written.monoNow + 600 ≤ v.before.monoNow then none else v.before.cache.entry? key := by
    rw [World.entry?_looked, if_pos rfl, Cache.live?_of_deadline hentry]
  obtain ⟨present, hok⟩ := hok
  have hremoved (hgone : w'.cache.entry? key = none) (hseen : v.Succeeds r ∨ v.Reports) :
      w'.cache.entry? key = none ∧ Left r w₀ item₀ (vs ++ [v]) w'.monoNow :=
    ⟨hgone, vs ++ [v], [], (List.append_nil _).symm, fun x hx => absurd hx List.not_mem_nil,
      .inl ⟨vs, v, rfl, hseen⟩⟩
  by_cases hlong : written.monoNow + 600 ≤ v.before.monoNow
  · -- the item has expired since the keys were looked up
    right
    rw [if_pos hlong] at hfound hlooked
    have hleft := h.left_of_expired (hlong.trans hforward) hsoon
    obtain ⟨hevents, hcache⟩ := hturn.of_missing hfound
    refine ⟨?_, hleft.append fun x hx => ?_⟩
    · rw [hafter, hcache, hlooked]
    · rw [List.mem_singleton.mp hx]
      exact hevents
  · rw [if_neg hlong] at hfound
    rw [if_neg hlong, hbefore] at hlooked
    have hsame {other : PendingBroadcast} (hother : v.before.pending? key = .ok (some other)) :
        other = item := Option.some.inj (Except.ok.inj (hother.symm.trans hfound))
    generalize hevents : v.events = events at hturn
    generalize hresult : v.result = result at hturn
    rw [hresult] at hok
    cases hturn with
    | missing other | unreadable other =>
      rw [hfound] at other
      cases other
    | undated | failed => cases hok
    | settled _ _ cache =>
      refine .inr (hremoved ?_ (.inl ⟨_, hevents⟩))
      rw [hafter, cache, Cache.entry?_erase, if_pos rfl]
    | dropped _ _ _ cache =>
      refine .inr (hremoved ?_ (.inr ⟨_, _, hevents⟩))
      rw [hafter, cache, Cache.entry?_erase, if_pos rfl]
    | waiting other _ dated waits cache =>
      obtain rfl := hsame other
      have hkept : w'.cache.entry? key = w.cache.entry? key := by rw [hafter, cache, hlooked]
      exact .inl ⟨_, _, _, h.wait ⟨_, _, dated, hevents, waits⟩ hkept hlate⟩
    | released _ _ _ _ cache =>
      exact .inl ⟨_, _, _, present_of_writes hqueue cache hafter hlate fun hid => by cases hid⟩
    | accepted _ _ _ _ cache =>
      exact .inl ⟨_, _, _, present_of_writes hqueue cache hafter hlate fun _ =>
        ⟨_, ⟨_, _, hevents⟩, rfl⟩⟩
    | refused _ idle _ _ cache =>
      refine .inl ⟨_, _, _, present_of_writes hqueue cache hafter hlate fun hid => ?_⟩
      dsimp only at hid
      rw [idle] at hid
      cases hid

/-! ### What a history keeps -/

/-- A call finds nothing under a key that is not there or has expired. -/
theorem call_of_not_live (hkeyed : w.cache.Keyed) (hnone : w.cache.live? w.monoNow key = none) :
    Cache.entry? (r.processBroadcasts w).2.cache key = none ∧
      ∀ v ∈ r.visitsOf key w, v.events = [] := by
  rcases Relayer.call_cases hkeyed r key with ⟨hvisits, hentry⟩ | ⟨v, hvisits, -, hbefore, hafter⟩
  · rw [hvisits]
    exact ⟨hentry.trans hnone, fun v hv => absurd hv List.not_mem_nil⟩
  · have hturn := (Relayer.turn_of_mem_visitsOf (hvisits ▸ List.mem_singleton_self v)).2
    obtain ⟨hevents, hcache⟩ := hturn.of_missing (World.pending?_of_none (hbefore.trans hnone))
    rw [hvisits, hafter]
    refine ⟨?_, fun x hx => ?_⟩
    · rw [hcache, World.entry?_looked, if_pos rfl, Cache.live?, hbefore.trans hnone]
      rfl
    · rw [List.mem_singleton.mp hx]
      exact hevents

/-- What every history keeps: the item is there, or it has left the queue. -/
structure Kept (r : Relayer σ) (key : String) (w₀ : World σ ℚ) (item₀ : PendingBroadcast)
    (vs : List (Visit σ ℚ)) (done : ℚ) (w : World σ ℚ) : Prop where
  keyed : w.cache.Keyed
  later : done ≤ w.monoNow
  soon : w.monoNow ≤ done + 60
  standing : (∃ written item since, Present r key w₀ item₀ vs done w written item since) ∨
    w.cache.entry? key = none ∧ Left r w₀ item₀ vs w.monoNow

theorem monoNow_put (q : BroadcastQueue) (key : String) (item : PendingBroadcast)
    (w : World σ ℚ) : (q.put key item w).2.monoNow = w.monoNow := by
  rw [BroadcastQueue.put_apply]
  rfl

theorem kept_put (hqueue : r.broadcasts = {}) (hkeyed : w₀.cache.Keyed)
    (hstamped : item₀.timestamp = w₀.wallNow.toMillis) :
    Kept r key w₀ item₀ [] w₀.monoNow (r.broadcasts.put key item₀ w₀).2 := by
  have hcache : (r.broadcasts.put key item₀ w₀).2.cache =
      w₀.cache.set w₀.monoNow key item₀.toJson (some r.broadcasts.ttl) := by
    rw [BroadcastQueue.put_apply]
  have hmono := monoNow_put r.broadcasts key item₀ w₀
  have hentry := congrArg (fun c : Cache ℚ => c.entry? key) hcache
  rw [Cache.entry?_set, if_pos rfl, expiry_default hqueue] at hentry
  refine ⟨?_, hmono.ge, by linarith, .inl ⟨w₀, item₀, [], ?_⟩⟩
  · rw [hcache]
    exact hkeyed.set _ _ _ _
  · exact ⟨⟨.inl ⟨rfl, rfl, rfl⟩, hstamped, fun v hv => absurd hv List.not_mem_nil⟩, hentry,
      .inl ⟨rfl, by linarith⟩⟩

/-- An item that is there stays, or it is dropped as it has expired. -/
theorem Kept.aside (h : Kept r key w₀ item₀ vs done w) (haside : w.Aside key w')
    (hforward : w.monoNow ≤ w'.monoNow) (hsoon : w'.monoNow ≤ done + 60) :
    Kept r key w₀ item₀ vs done w' := by
  refine ⟨haside.keyed, h.later.trans hforward, hsoon, ?_⟩
  rcases h.standing with ⟨written, item, since, hpresent⟩ | ⟨hgone, hleft⟩
  · have hstays (hsame : w'.cache.entry? key = w.cache.entry? key) :
        Present r key w₀ item₀ vs done w' written item since :=
      ⟨hpresent.toUntouched, hsame.trans hpresent.entry, hpresent.recent⟩
    rcases haside.entry with hsame | hlive
    · exact .inl ⟨written, item, since, hstays hsame⟩
    · rw [Cache.live?_of_deadline hpresent.entry] at hlive
      by_cases hlong : written.monoNow + 600 ≤ w'.monoNow
      · rw [if_pos hlong] at hlive
        exact .inr ⟨hlive, hpresent.left_of_expired hlong hsoon⟩
      · rw [if_neg hlong] at hlive
        exact .inl ⟨written, item, since, hstays hlive⟩
  · refine .inr ⟨?_, hleft.mono hforward⟩
    rcases haside.entry with hsame | hlive
    · rw [hsame, hgone]
    · rw [hlive, Cache.live?, hgone]
      rfl

/-- One more call. -/
theorem Kept.call {id : String} (hqueue : r.broadcasts = {})
    (h : Kept r (r.broadcasts.keyOf id) w₀ item₀ vs done w)
    (hreturns : ∃ count, (r.processBroadcasts w).1 = .ok count)
    (hforward : w.monoNow ≤ (r.processBroadcasts w).2.monoNow ∧
      ∀ v ∈ r.visitsOf (r.broadcasts.keyOf id) w, w.monoNow ≤ v.before.monoNow ∧
        v.before.monoNow ≤ v.after.monoNow ∧
          v.after.monoNow ≤ (r.processBroadcasts w).2.monoNow)
    (hsoon : (r.processBroadcasts w).2.monoNow ≤ done + 60) :
    Kept r (r.broadcasts.keyOf id) w₀ item₀ (vs ++ r.visitsOf (r.broadcasts.keyOf id) w)
      (r.processBroadcasts w).2.monoNow (r.processBroadcasts w).2 := by
  obtain ⟨hend, hvisits⟩ := hforward
  obtain ⟨count, hok⟩ := hreturns
  refine ⟨Relayer.keyed_call h.keyed r, le_rfl, by linarith, ?_⟩
  -- a call that finds nothing
  have hnothing (hnone : w.cache.live? w.monoNow (r.broadcasts.keyOf id) = none)
      (hleft : Left r w₀ item₀ vs w.monoNow) :=
    And.imp_right (fun hquiet => (hleft.mono hend).append hquiet)
      (call_of_not_live (r := r) h.keyed hnone)
  rcases h.standing with ⟨written, item, since, hpresent⟩ | ⟨hgone, hleft⟩
  · have hlive := Cache.live?_of_deadline hpresent.entry w.monoNow
    by_cases hlong : written.monoNow + 600 ≤ w.monoNow
    · rw [if_pos hlong] at hlive
      exact .inr (hnothing hlive (hpresent.left_of_expired hlong h.soon))
    · rw [if_neg hlong] at hlive
      have hvisited := Relayer.visitsOf_ne_nil hqueue hok (by
        rw [hlive, hpresent.entry]
        exact Option.some_ne_none _)
      rcases Relayer.call_cases h.keyed r (r.broadcasts.keyOf id) with
        ⟨hnone, -⟩ | ⟨v, hvisit, -, hbefore, hafter⟩
      · exact absurd hnone hvisited
      · have hmem : v ∈ r.visitsOf (r.broadcasts.keyOf id) w := by
          rw [hvisit]
          exact List.mem_singleton_self v
        obtain ⟨hstart, hturned, hstop⟩ := hvisits v hmem
        rw [hvisit]
        exact hpresent.turn hqueue (Relayer.turn_of_mem_visitsOf hmem).2
          (Relayer.result_of_mem_visitsFrom hok (List.mem_filter.mp hmem).1)
          (hbefore.trans hlive) hafter (hturned.trans hstop) hsoon (by linarith [h.later])
  · exact .inr (hnothing (by rw [Cache.live?, hgone]; rfl) hleft)

/-- **What every history keeps.** -/
theorem kept {id : String} (hqueue : r.broadcasts = {})
    (h : Tended r (r.broadcasts.keyOf id) w₀ item₀ vs done w) :
    Kept r (r.broadcasts.keyOf id) w₀ item₀ vs done w := by
  induction h with
  | put keyed stamped => exact kept_put hqueue keyed stamped
  | aside _ aside forward soon ih => exact ih.aside aside forward soon
  | call _ returns forward soon ih => exact ih.call hqueue returns forward soon

end Tended

/-! ### How an item may leave the queue -/

namespace Relayer

variable {r : Relayer σ} {w₀ w : World σ ℚ} {item₀ : PendingBroadcast} {vs : List (Visit σ ℚ)}
  {done : ℚ}

/-- **How an item may leave the queue** when pending broadcasts are advanced every 60 seconds: a
visit has seen the success of its broadcast or has told the operators that the retries are used up,
or the item has expired while the hub did not answer. -/
theorem tended_fate {id : String} (hqueue : r.broadcasts = {})
    (h : Tended r (r.broadcasts.keyOf id) w₀ item₀ vs done w) :
    (∃ item, w.pending? (r.broadcasts.keyOf id) = .ok (some item)) ∨
      Tended.Left r w₀ item₀ vs w.monoNow := by
  have hkept := h.kept hqueue
  rcases hkept.standing with ⟨written, item, since, hpresent⟩ | ⟨-, hleft⟩
  · by_cases hlong : written.monoNow + 600 ≤ w.monoNow
    · exact .inr (hpresent.left_of_expired hlong hkept.soon)
    · refine .inl ⟨item, ?_⟩
      rw [Tended.pending?_of_deadline hpresent.entry, if_neg hlong]
  · exact .inr hleft

end Relayer

/-! ### An item that expires -/

/-- The hub did not say what has become of a broadcast. -/
def Event.isUnanswered : Event → Bool
  | statusRead _ _ (.error _) => true
  | _ => false

theorem Visit.not_seen_of_unanswered {r : Relayer σ} {v : Visit σ ℚ}
    (h : v.events.all Event.isUnanswered = true) :
    ¬ v.Succeeds r ∧ ¬ v.Reports := by
  constructor
  · rintro ⟨item, hevents⟩
    rw [hevents] at h
    cases h
  · rintro ⟨item, answer, hevents⟩
    rw [hevents] at h
    cases h

/-- A request whose broadcast the hub knows nothing of. -/
def lostItem : PendingBroadcast where
  request := [("verify_messages", .arr [])]
  broadcastId := .str "b-1"

/-- The key of its item. -/
def lostKey : String := Relayer.simulated.broadcasts.keyOf "m-1"

/-- A minute later. -/
def World.minuteLater (w : World Simulation ℚ) : World Simulation ℚ :=
  { w with wall := w.wall + 60000000, mono := w.mono + 60 }

/-- The world after the item was put and `n` calls were made, one every minute. -/
def lostWorld : Nat → World Simulation ℚ
  | 0 => (Relayer.simulated.broadcasts.put lostKey lostItem (World.initial {} 0)).2
  | n + 1 => (Relayer.simulated.processBroadcasts (lostWorld n).minuteLater).2

/-- The visits of these calls. -/
def lostVisits : Nat → List (Visit Simulation ℚ)
  | 0 => []
  | n + 1 => lostVisits n ++ Relayer.simulated.visitsOf lostKey (lostWorld n).minuteLater

/-- Each call comes a minute after the one before it and returns at once. -/
theorem lostWorld_call : ∀ n < 10,
    let w := (lostWorld n).minuteLater
    w.monoNow = (lostWorld n).monoNow + 60 ∧
    (Relayer.simulated.processBroadcasts w).1.isOk = true ∧
    (Relayer.simulated.processBroadcasts w).2.monoNow = w.monoNow ∧
    ∀ v ∈ Relayer.simulated.visitsOf lostKey w,
      v.before.monoNow = w.monoNow ∧ v.after.monoNow = w.monoNow := by
  decide +kernel

/-- Ten calls, one every minute. -/
theorem tended_lostWorld {n : Nat} (hn : n ≤ 10) :
    Tended Relayer.simulated lostKey (World.initial {} 0) lostItem (lostVisits n)
      (lostWorld n).monoNow (lostWorld n) := by
  induction n with
  | zero =>
    have hmono : (lostWorld 0).monoNow = (World.initial {} 0 : World Simulation ℚ).monoNow :=
      Tended.monoNow_put _ _ _ _
    rw [hmono]
    exact .put List.nodup_nil (by decide +kernel)
  | succ n ih =>
    have hbefore : Tended Relayer.simulated (Relayer.simulated.broadcasts.keyOf "m-1")
        (World.initial {} 0) lostItem (lostVisits n) (lostWorld n).monoNow (lostWorld n) :=
      ih (Nat.le_of_succ_le hn)
    obtain ⟨hlater, hok, hmono, hvisits⟩ := lostWorld_call n hn
    have hreturns : ∃ count,
        (Relayer.simulated.processBroadcasts (lostWorld n).minuteLater).1 = .ok count := by
      cases hresult : (Relayer.simulated.processBroadcasts (lostWorld n).minuteLater).1 with
      | ok count => exact ⟨count, rfl⟩
      | error halt =>
        rw [hresult] at hok
        cases hok
    have haside : (lostWorld n).Aside lostKey (lostWorld n).minuteLater :=
      ⟨(hbefore.kept rfl).keyed, .inl rfl⟩
    have hrest := hbefore.aside haside (by linarith) (by linarith)
    exact hrest.call hreturns ⟨hmono.ge, fun v hv => ⟨(hvisits v hv).1.ge,
      ((hvisits v hv).1.trans (hvisits v hv).2.symm).le, ((hvisits v hv).2.trans hmono.symm).le⟩⟩
      (by rw [hmono, hlater])

/-- After the tenth call the item is gone, and no question was answered. -/
theorem lostWorld_ten : ((lostWorld 10).cache.entry? lostKey).isNone = true ∧
    ((lostVisits 10).all fun v => v.events.all Event.isUnanswered) = true := by
  decide +kernel

namespace Relayer

/-- **An item that expires.** It is put, and ten calls are made, one every minute. The hub does not
answer for its broadcast. Then the item is gone, no visit has seen a success, and the operators were
not told. -/
theorem tended_expires :
    Tended simulated lostKey (World.initial {} 0) lostItem (lostVisits 10) (lostWorld 10).monoNow
      (lostWorld 10) ∧
    (lostWorld 10).cache.entry? lostKey = none ∧
    ∀ v ∈ lostVisits 10, ¬ v.Succeeds simulated ∧ ¬ v.Reports := by
  obtain ⟨hgone, hunanswered⟩ := lostWorld_ten
  exact ⟨tended_lostWorld le_rfl, Option.isNone_iff_eq_none.mp hgone, fun v hv =>
    Visit.not_seen_of_unanswered (List.all_eq_true.mp hunanswered v hv)⟩

/-- The law on this item. -/
theorem tended_fate_lost : simulated.broadcasts = {} ∧
    Tended simulated (simulated.broadcasts.keyOf "m-1") (World.initial {} 0) lostItem
      (lostVisits 10) (lostWorld 10).monoNow (lostWorld 10) ∧
    Tended.Left simulated (World.initial {} 0) lostItem (lostVisits 10) (lostWorld 10).monoNow := by
  have htended : Tended simulated (simulated.broadcasts.keyOf "m-1") (World.initial {} 0) lostItem
      (lostVisits 10) (lostWorld 10).monoNow (lostWorld 10) := tended_lostWorld le_rfl
  refine ⟨rfl, htended, ?_⟩
  rcases tended_fate rfl htended with ⟨item, hfound⟩ | hleft
  · have hgone := Option.isNone_iff_eq_none.mp lostWorld_ten.1
    have hnone : (lostWorld 10).pending? (simulated.broadcasts.keyOf "m-1") = .ok none :=
      World.pending?_of_none hgone
    rw [hnone] at hfound
    cases hfound
  · exact hleft

end Relayer

end ChainRelay
