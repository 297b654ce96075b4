import ChainRelay.Proofs.Worker.BroadcastCall
import ChainRelay.Proofs.Worker.InFlight

/-!
# The life of a pending broadcast

An item that is put on the queue of pending broadcasts is broadcast three times at most. Each
broadcast is paid for by a retry, at once if the hub refuses it, and otherwise when its name is
forgotten; until then nothing else is broadcast for the item. It leaves the queue when a broadcast
has succeeded, or when its retries are used up and the operators were told.

## The contract

Nobody else writes the key. Anything may happen in between: time passes or is set back, entries of
other keys come and go, and the entry of the key is dropped once it has expired. The hub answers a
broadcast with a name that is not empty or with a fault of a dependency, and questions about
broadcasts with anything.

## Main definitions

* `Occasion` — what happens to the item of a key
* `BroadcastCourse` — the histories of a key
* `Outstanding` — a broadcast of which no end is known
* `BroadcastLife` — what a history promises

## Main results

* `BroadcastCourse.kept` — what one turn keeps
* `BroadcastCourse.sound` — what every history keeps
* `Relayer.broadcastCourse_life` — the promise for an item that was put once
-/

namespace ChainRelay

variable {σ τ : Type}

/-- The hub was asked to broadcast something. -/
def Event.isBroadcast : Event → Bool
  | broadcast _ _ _ => true
  | _ => false

/-! ### Histories -/

namespace Visit

/-- How often the hub was asked to broadcast something in a visit. -/
def broadcasts [Seconds τ] (v : Visit σ τ) : Nat := v.events.countP Event.isBroadcast

/-- The hub has accepted a broadcast and named it. -/
def Accepts [Seconds τ] (v : Visit σ τ) (id : String) : Prop :=
  ∃ contract request, v.events = [.broadcast contract request (.ok id)]

/-- The hub has said that a broadcast is no longer in the way: it has failed, or it is pending and
was stamped too long ago. -/
def Releases [Seconds τ] (v : Visit σ τ) (id : String) (stamp : Int) : Prop :=
  ∃ contract answer sentAt, v.events = [.statusRead id contract answer] ∧
    Instant.ofStored stamp = .ok sentAt ∧
    StatusAnswer.Releases answer (v.after.wallNow - sentAt)

/-- The key was removed: the broadcast in flight has succeeded, or three retries were counted, none
is in flight, and the operators were told once. -/
def Removes [Seconds τ] (r : Relayer σ) (v : Visit σ τ) : Prop :=
  (∃ item id, v.before.pending? v.key = .ok (some item) ∧ item.broadcastId = .str id ∧
    v.events = [r.statusAsked item (.ok .success)]) ∨
  ∃ item answer, v.before.pending? v.key = .ok (some item) ∧ item.broadcastId = .null ∧
    item.retry = 3 ∧ v.events = [Relayer.spentReported item answer]

theorem Accepts.broadcasts_eq [Seconds τ] {v : Visit σ τ} {id : String} (h : v.Accepts id) :
    v.broadcasts = 1 := by
  obtain ⟨contract, request, hevents⟩ := h
  rw [broadcasts, hevents]
  rfl

end Visit

/-- What happens to the item of a key. -/
inductive Occasion (σ τ : Type) where
  /-- An item is put under the key. -/
  | put (w : World σ τ) (item : PendingBroadcast)
  /-- The key has a turn. -/
  | visit (v : Visit σ τ)

namespace Occasion

def isPut : Occasion σ τ → Bool
  | put _ _ => true
  | visit _ => false

/-- How often the hub is asked to broadcast something. -/
def broadcasts [Seconds τ] : Occasion σ τ → Nat
  | put _ _ => 0
  | visit v => v.broadcasts

/-- A broadcast is forgotten: another item was put, or the broadcast was released. -/
def Forgets [Seconds τ] (m : Occasion σ τ) (id : String) (stamp : Int) : Prop :=
  m.isPut = true ∨ ∃ v, m = .visit v ∧ v.Releases id stamp

end Occasion

namespace World

variable [Seconds τ]

/-- Whatever else happens: the entry of a key stays, or it is dropped as it has expired. -/
structure Aside (key : String) (w w' : World σ τ) : Prop where
  keyed : w'.cache.Keyed
  entry : w'.cache.entry? key = w.cache.entry? key ∨
    w'.cache.entry? key = w.cache.live? w'.monoNow key

/-- What is under a key is an item with a property, if there is anything. -/
def Holds (w : World σ τ) (key : String) (P : PendingBroadcast → Prop) : Prop :=
  w.cache.entry? key = none ∨
    ∃ item expiry, w.cache.entry? key = some ⟨item.toJson, expiry⟩ ∧ P item

end World

/-- The histories of a key: items are put, calls are made, and whatever else happens leaves the
entry of the key alone. -/
inductive BroadcastCourse [Seconds τ] (r : Relayer σ) (key : String) :
    List (Occasion σ τ) → World σ τ → Prop
  | start {w : World σ τ} (keyed : w.cache.Keyed) (absent : w.cache.entry? key = none) :
      BroadcastCourse r key [] w
  | aside {ms : List (Occasion σ τ)} {w w' : World σ τ} (history : BroadcastCourse r key ms w)
      (aside : w.Aside key w') : BroadcastCourse r key ms w'
  | put {ms : List (Occasion σ τ)} {w : World σ τ} (history : BroadcastCourse r key ms w)
      (item : PendingBroadcast) (unspent : item.retry = 0) (idle : item.broadcastId = .null) :
      BroadcastCourse r key (ms ++ [.put w item]) (r.broadcasts.put key item w).2
  | call {ms : List (Occasion σ τ)} {w : World σ τ} (history : BroadcastCourse r key ms w) :
      BroadcastCourse r key (ms ++ (r.visitsOf key w).map .visit) (r.processBroadcasts w).2

namespace BroadcastCourse

variable [Seconds τ]

/-- How often an item was put. -/
def puts (ms : List (Occasion σ τ)) : Nat := ms.countP Occasion.isPut

/-- How often the hub was asked to broadcast something. -/
def broadcasts (ms : List (Occasion σ τ)) : Nat := (ms.map Occasion.broadcasts).sum

/-- The broadcast `id`, stamped with `stamp`, was accepted, and nothing has come since that lets
the key forget it. -/
def Outstanding (ms : List (Occasion σ τ)) (id : String) (stamp : Int) : Prop :=
  ∃ (before since : List (Occasion σ τ)) (u : Visit σ τ),
    ms = before ++ .visit u :: since ∧ u.Accepts id ∧ stamp = u.after.wallNow.toMillis ∧
      ∀ m ∈ since, ¬ m.Forgets id stamp

/-- Between a broadcast that was accepted and the next one, the first one is forgotten. -/
def Forgotten (ms : List (Occasion σ τ)) : Prop :=
  ∀ (before since after : List (Occasion σ τ)) (u v : Visit σ τ) (id : String),
    ms = before ++ .visit u :: (since ++ .visit v :: after) → u.Accepts id → v.broadcasts ≠ 0 →
      ∃ m ∈ since, m.Forgets id u.after.wallNow.toMillis

variable {ms : List (Occasion σ τ)} {m : Occasion σ τ} {v : Visit σ τ} {id : String} {stamp : Int}

omit [Seconds τ] in
theorem puts_append (ms : List (Occasion σ τ)) (m : Occasion σ τ) :
    puts (ms ++ [m]) = puts ms + if m.isPut then 1 else 0 := by
  rw [puts, List.countP_append, List.countP_singleton]
  rfl

theorem broadcasts_append (ms : List (Occasion σ τ)) (m : Occasion σ τ) :
    broadcasts (ms ++ [m]) = broadcasts ms + m.broadcasts := by
  simp [broadcasts]

/-- The broadcasts since the last put, after one more occasion. -/
theorem broadcasts_le_append {n : Int}
    (h : ∀ since, since <:+ ms → puts since = 0 → (broadcasts since : Int) ≤ n)
    (m : Occasion σ τ) {since : List (Occasion σ τ)} (hsince : since <:+ ms ++ [m])
    (hputs : puts since = 0) : (broadcasts since : Int) ≤ n + m.broadcasts := by
  rcases List.suffix_concat_iff.mp hsince with rfl | ⟨since', rfl, hsince'⟩
  · have hnonneg := h [] List.nil_suffix rfl
    have hnone : broadcasts ([] : List (Occasion σ τ)) = 0 := rfl
    omega
  · rw [puts_append] at hputs
    have hbefore := h since' hsince' (by omega)
    rw [broadcasts_append]
    push_cast
    omega

/-- What is outstanding after one more occasion. -/
theorem outstanding_append (h : Outstanding (ms ++ [m]) id stamp) :
    (Outstanding ms id stamp ∧ ¬ m.Forgets id stamp) ∨
      ∃ u, m = .visit u ∧ u.Accepts id ∧ stamp = u.after.wallNow.toMillis := by
  obtain ⟨before, since, u, hsplit, haccepts, hstamp, hkept⟩ := h
  rcases List.eq_nil_or_concat since with rfl | ⟨since', last, rfl⟩
  · obtain ⟨-, hm⟩ := List.append_inj' hsplit rfl
    exact .inr ⟨u, (List.cons.inj hm).1, haccepts, hstamp⟩
  · have hassoc : before ++ .visit u :: since'.concat last =
        (before ++ .visit u :: since') ++ [last] := by simp
    obtain ⟨hms, hm⟩ := List.append_inj' (hsplit.trans hassoc) rfl
    obtain rfl := (List.cons.inj hm).1
    refine .inl ⟨⟨before, since', u, hms, haccepts, hstamp, fun x hx => hkept x ?_⟩, hkept m ?_⟩
    · simp [hx]
    · simp

end BroadcastCourse

/-! ### What is under the key -/

namespace World

variable [Seconds τ] {w w' : World σ τ} {key : String} {P Q : PendingBroadcast → Prop}
  {item : PendingBroadcast}

omit [Seconds τ] in
theorem Holds.mono (h : w.Holds key P) (hPQ : ∀ item, P item → Q item) : w.Holds key Q := by
  rcases h with hnone | ⟨item, expiry, hentry, hP⟩
  · exact .inl hnone
  · exact .inr ⟨item, expiry, hentry, hPQ item hP⟩

/-- An entry stays as it is, or it is dropped as it has expired. -/
theorem Holds.of_entry (h : w.Holds key P) {t : τ}
    (hentry : w'.cache.entry? key = w.cache.entry? key ∨
      w'.cache.entry? key = w.cache.live? t key) : w'.Holds key P := by
  rcases h with hnone | ⟨item, expiry, hitem, hP⟩
  · left
    rcases hentry with hsame | hlive
    · rw [hsame, hnone]
    · rw [hlive, Cache.live?, hnone]
      rfl
  · rcases hentry with hsame | hlive
    · exact .inr ⟨item, expiry, hsame.trans hitem, hP⟩
    · rw [Cache.live?, hitem, Option.filter] at hlive
      split at hlive
      · exact .inr ⟨item, expiry, hlive, hP⟩
      · exact .inl hlive

/-- What is found under a key has the property. -/
theorem Holds.of_found (h : w.Holds key P) (found : w.pending? key = .ok (some item)) :
    P item := by
  rcases h with hnone | ⟨stored, expiry, hentry, hP⟩
  · rw [pending?_of_none hnone] at found
    cases found
  · rw [pending?_of_item hentry] at found
    split at found
    · cases found
    · cases found
      exact hP

/-- A look at a key keeps what is there. -/
theorem Holds.of_looked (h : w.Holds key P) (hcache : w'.cache = (w.looked key).cache) :
    w'.Holds key P := by
  refine h.of_entry (t := w.monoNow) (.inr ?_)
  rw [hcache, entry?_looked, if_pos rfl]

theorem holds_of_erased (hcache : w'.cache = (w.looked key).cache.erase key) : w'.Holds key P := by
  left
  rw [hcache, Cache.entry?_erase, if_pos rfl]

theorem holds_of_writes {r : Relayer σ} (hcache : r.Writes key w w' item)
    (hP : P { item with timestamp := w'.wallNow.toMillis }) : w'.Holds key P := by
  have hentry := congrArg (fun c : Cache τ => c.entry? key) hcache
  rw [Cache.entry?_set, if_pos rfl] at hentry
  exact .inr ⟨_, _, hentry, hP⟩

end World

/-! ### What a turn keeps -/

/-- The hub names each broadcast that it accepts, and refuses others with the fault of a
dependency. -/
def Relayer.HubNames (r : Relayer σ) : Prop :=
  ∀ request contract env,
    match (r.collaborators.hub.broadcast request contract env).1 with
    | .ok id => id ≠ ""
    | .error fault => fault.isDependency = true

namespace BroadcastCourse

variable [Seconds τ]

/-- What is stored for an item after a history. -/
structure Stored (ms : List (Occasion σ τ)) (item : PendingBroadcast) : Prop where
  nonneg : 0 ≤ item.retry
  most : item.retry ≤ retryCeiling
  /-- An item in flight can still pay for its broadcast. -/
  handle : item.broadcastId = .null ∨
    ∃ id, item.broadcastId = .str id ∧ id ≠ "" ∧ item.retry < retryCeiling
  /-- Since the last put, retries have paid for all broadcasts but the one in flight. -/
  paid : ∀ since, since <:+ ms → puts since = 0 →
    (broadcasts since : Int) ≤ item.retry + if item.broadcastId.truthy then 1 else 0
  /-- A broadcast of which no end is known is in flight. -/
  outstanding : ∀ id stamp, Outstanding ms id stamp →
    item.broadcastId = .str id ∧ item.timestamp = stamp

variable {r : Relayer σ} {key : String} {ms : List (Occasion σ τ)} {w : World σ τ} {v : Visit σ τ}
  {item : PendingBroadcast}

theorem Stored.idle (h : Stored ms item) (hidle : item.broadcastId.truthy = false) :
    item.broadcastId = .null := by
  rcases h.handle with hnull | ⟨id, hid, hne, -⟩
  · exact hnull
  · rw [hid, Json.truthy, bne_eq_false_iff_eq] at hidle
    exact absurd hidle hne

theorem Stored.flying (h : Stored ms item) (hflying : item.broadcastId.truthy = true) :
    ∃ id, item.broadcastId = .str id ∧ id ≠ "" ∧ item.retry < retryCeiling := by
  rcases h.handle with hnull | hid
  · rw [hnull] at hflying
    cases hflying
  · exact hid

/-- A turn that asks for no broadcast keeps what is stored. -/
theorem Stored.quiet (h : Stored ms item) (hnone : v.broadcasts = 0) :
    Stored (ms ++ [.visit v]) item := by
  refine ⟨h.nonneg, h.most, h.handle, fun since hsince hputs => ?_, fun id stamp hout => ?_⟩
  · have hpaid := broadcasts_le_append h.paid (.visit v) hsince hputs
    rw [Occasion.broadcasts, hnone] at hpaid
    simpa using hpaid
  · rcases outstanding_append hout with ⟨hbefore, -⟩ | ⟨u, hu, haccepts, -⟩
    · exact h.outstanding id stamp hbefore
    · cases hu
      rw [haccepts.broadcasts_eq] at hnone
      cases hnone

/-- Nothing is outstanding for an item that is not in flight. -/
theorem Stored.not_outstanding (h : Stored ms item) (hidle : item.broadcastId.truthy = false)
    (id : String) (stamp : Int) : ¬ Outstanding ms id stamp := by
  intro hout
  have hid := (h.outstanding id stamp hout).1
  rw [h.idle hidle] at hid
  cases hid

/-- **What a turn keeps.** The item that is found may be replaced by another one for which the
history accounts as well; a broadcast is asked for only if none is in flight. -/
theorem kept (hub : r.HubNames) (hholds : v.before.Holds key (Stored ms))
    (hturn : BroadcastTurn r key v.before v.after v.events v.result) :
    v.after.Holds key (Stored (ms ++ [.visit v])) ∧
    (v.broadcasts = 0 ∨ v.broadcasts = 1 ∧ ∃ item, v.before.pending? key = .ok (some item) ∧
      item.broadcastId = .null ∧ item.retry < retryCeiling ∧ Stored ms item) := by
  generalize hevents : v.events = events at hturn
  generalize v.result = result at hturn
  have hcount : v.broadcasts = events.countP Event.isBroadcast := by rw [Visit.broadcasts, hevents]
  have hquiet (hnone : events.countP Event.isBroadcast = 0)
      (hcache : v.after.cache = (v.before.looked key).cache) :
      v.after.Holds key (Stored (ms ++ [.visit v])) :=
    (hholds.mono fun _ h => h.quiet (hcount.trans hnone)).of_looked hcache
  cases hturn with
  | missing _ cache | unreadable _ cache | undated _ _ _ cache | waiting _ _ _ _ cache =>
    exact ⟨hquiet rfl cache, .inl hcount⟩
  | settled _ _ cache | dropped _ _ _ cache =>
    exact ⟨World.holds_of_erased cache, .inl hcount⟩
  | @released item sentAt answer found flying dated releases cache =>
    have hstored := hholds.of_found found
    obtain ⟨id, hid, -, hretry⟩ := hstored.flying flying
    have hnonneg := hstored.nonneg
    refine ⟨World.holds_of_writes cache ⟨?_, hretry, .inl rfl, fun since hsince hputs => ?_,
      fun id' stamp hout => ?_⟩, .inl hcount⟩
    · dsimp only
      omega
    · -- the retry pays for the broadcast that was in flight
      have hpaid := broadcasts_le_append hstored.paid (.visit v) hsince hputs
      rw [flying, if_pos rfl, Occasion.broadcasts, hcount] at hpaid
      exact hpaid
    · -- the broadcast that was outstanding is the one that is released
      rcases outstanding_append hout with ⟨hbefore, hkept⟩ | ⟨u, hu, haccepts, -⟩
      · obtain ⟨hid', rfl⟩ := hstored.outstanding id' stamp hbefore
        refine absurd (.inr ⟨v, rfl, r.targetContract item, answer, sentAt, ?_, dated, releases⟩)
          hkept
        rw [hevents, Relayer.statusAsked, hid', Json.shown_str]
      · cases hu
        have hone := haccepts.broadcasts_eq
        rw [hcount] at hone
        cases hone
  | @accepted item id found idle hopeful answered cache =>
    have hstored := hholds.of_found found
    have hretry := ceilingReached_eq_false_iff.mp hopeful
    have hname := hub item.request (r.targetContract item) v.before.env
    rw [answered] at hname
    refine ⟨World.holds_of_writes cache ⟨hstored.nonneg, hstored.most,
      .inr ⟨id, rfl, hname, hretry⟩, fun since hsince hputs => ?_, fun id' stamp hout => ?_⟩,
      .inr ⟨hcount, item, found, hstored.idle idle, hretry, hstored⟩⟩
    · have hpaid := broadcasts_le_append hstored.paid (.visit v) hsince hputs
      rw [idle, if_neg Bool.false_ne_true, Occasion.broadcasts, hcount, add_zero] at hpaid
      rw [Json.truthy, if_pos (by simpa using hname)]
      exact hpaid
    · rcases outstanding_append hout with ⟨hbefore, -⟩ | ⟨u, hu, ⟨contract, request, hsame⟩, hstamp⟩
      · exact absurd hbefore (hstored.not_outstanding idle id' stamp)
      · cases hu
        rw [hevents] at hsame
        cases hsame
        exact ⟨rfl, hstamp.symm⟩
  | @refused item fault answer found idle hopeful dependency cache =>
    have hstored := hholds.of_found found
    have hretry := ceilingReached_eq_false_iff.mp hopeful
    have hnonneg := hstored.nonneg
    refine ⟨World.holds_of_writes cache ⟨?_, hretry, .inl (hstored.idle idle),
      fun since hsince hputs => ?_, fun id' stamp hout => ?_⟩,
      .inr ⟨hcount, item, found, hstored.idle idle, hretry, hstored⟩⟩
    · dsimp only
      omega
    · -- the retry pays for the broadcast that was refused
      have hpaid := broadcasts_le_append hstored.paid (.visit v) hsince hputs
      rw [idle, if_neg Bool.false_ne_true, Occasion.broadcasts, hcount, add_zero] at hpaid
      dsimp only
      rw [idle, if_neg Bool.false_ne_true, add_zero]
      exact hpaid
    · rcases outstanding_append hout with ⟨hbefore, -⟩ | ⟨u, hu, ⟨contract, request, hsame⟩, -⟩
      · exact absurd hbefore (hstored.not_outstanding idle id' stamp)
      · cases hu
        rw [hevents] at hsame
        cases hsame
  | @failed item fault found idle hopeful answered internal cache =>
    have hdependency := hub item.request (r.targetContract item) v.before.env
    rw [answered] at hdependency
    exact absurd hdependency (by simp [internal])

/-! ### What a history keeps -/

/-- What every history keeps. -/
structure Sound (key : String) (ms : List (Occasion σ τ)) (w : World σ τ) : Prop where
  keyed : w.cache.Keyed
  holds : w.Holds key (Stored ms)
  /-- From one put to the next there are three broadcasts at most. -/
  spent : ∀ since, since <:+: ms → puts since = 0 → broadcasts since ≤ 3
  /-- A broadcast is asked for once in a visit, and only if none is in flight. -/
  asked : ∀ v, .visit v ∈ ms → v.broadcasts = 0 ∨ v.broadcasts = 1 ∧ ∃ item,
    v.before.pending? key = .ok (some item) ∧ item.broadcastId = .null ∧ item.retry < retryCeiling
  forgotten : Forgotten ms

/-- A broadcast that is asked for when nothing is outstanding comes after all earlier ones were
forgotten. -/
theorem Forgotten.append {m : Occasion σ τ} (h : Forgotten ms)
    (hm : ∀ v, m = .visit v → v.broadcasts ≠ 0 → ∀ id stamp, ¬ Outstanding ms id stamp) :
    Forgotten (ms ++ [m]) := by
  intro before since after u v id hsplit haccepts hasked
  rcases List.eq_nil_or_concat after with rfl | ⟨after', last, rfl⟩
  · have hassoc : before ++ .visit u :: (since ++ [.visit v]) =
        (before ++ .visit u :: since) ++ [.visit v] := by simp
    obtain ⟨hms, hlast⟩ := List.append_inj' (hsplit.trans hassoc) rfl
    by_contra hkept
    push Not at hkept
    exact hm v (List.cons.inj hlast).1 hasked id _ ⟨before, since, u, hms, haccepts, rfl, hkept⟩
  · have hassoc : before ++ .visit u :: (since ++ .visit v :: after'.concat last) =
        (before ++ .visit u :: (since ++ .visit v :: after')) ++ [last] := by simp
    obtain ⟨hms, -⟩ := List.append_inj' (hsplit.trans hassoc) rfl
    exact h before since after' u v id hms haccepts hasked

/-- One more put starts afresh. -/
theorem Sound.put (h : Sound key ms w) (hunspent : item.retry = 0)
    (hidle : item.broadcastId = .null) :
    Sound key (ms ++ [.put w item]) (r.broadcasts.put key item w).2 := by
  -- nothing but the empty list follows the last put
  have hsuffix {since : List (Occasion σ τ)} (hsince : since <:+ ms ++ [.put w item])
      (hputs : puts since = 0) : broadcasts since = 0 := by
    rcases List.suffix_concat_iff.mp hsince with rfl | ⟨since', rfl, -⟩
    · rfl
    · rw [puts_append] at hputs
      cases hputs
  have hworld : (r.broadcasts.put key item w).2.cache =
      w.cache.set w.monoNow key item.toJson (some r.broadcasts.ttl) := by
    rw [BroadcastQueue.put_apply]
  refine ⟨?_, ?_, ?_, ?_, h.forgotten.append fun v hv => by cases hv⟩
  · rw [hworld]
    exact h.keyed.set _ _ _ _
  · have hentry := congrArg (fun c : Cache τ => c.entry? key) hworld
    rw [Cache.entry?_set, if_pos rfl] at hentry
    refine .inr ⟨item, _, hentry, ⟨?_, ?_, .inl hidle, fun since hsince hputs => ?_,
      fun id stamp hout => ?_⟩⟩
    · rw [hunspent]
    · rw [hunspent]
      decide
    · rw [hsuffix hsince hputs, hidle, hunspent]
      rfl
    · rcases outstanding_append hout with ⟨-, hkept⟩ | ⟨u, hu, -⟩
      · exact absurd (.inl rfl) hkept
      · cases hu
  · intro since hsince hputs
    rcases List.infix_concat_iff.mp hsince with hlast | hbefore
    · rw [hsuffix hlast hputs]
      exact Nat.zero_le 3
    · exact h.spent since hbefore hputs
  · intro v hv
    rcases List.mem_append.mp hv with hv | hv
    · exact h.asked v hv
    · cases List.mem_singleton.mp hv

/-- One more call. -/
theorem Sound.call (hub : r.HubNames) (h : Sound key ms w) :
    Sound key (ms ++ (r.visitsOf key w).map .visit) (r.processBroadcasts w).2 := by
  have hkeyed := Relayer.keyed_call h.keyed r
  rcases Relayer.call_cases h.keyed r key with ⟨hnone, hentry⟩ | ⟨v, hvisit, -, hbefore, hafter⟩
  · rw [hnone, List.map_nil, List.append_nil]
    exact ⟨hkeyed, h.holds.of_entry (.inr hentry), h.spent, h.asked, h.forgotten⟩
  · have hmem : v ∈ r.visitsOf key w := by
      rw [hvisit]
      exact List.mem_singleton_self v
    obtain ⟨hholds, hasked⟩ := kept hub (h.holds.of_entry (.inr hbefore))
      (Relayer.turn_of_mem_visitsOf hmem).2
    rw [hvisit, List.map_singleton]
    refine ⟨hkeyed, hholds.of_entry (t := w.monoNow) (.inl hafter), ?_, ?_, ?_⟩
    · intro since hsince hputs
      rcases List.infix_concat_iff.mp hsince with hlast | hbefore
      · rcases hasked with hzero | ⟨hone, item, -, hnull, hretry, hstored⟩
        · have hspent := broadcasts_le_append (n := 3)
            (fun since hsince hputs => Int.ofNat_le.mpr (h.spent since hsince.isInfix hputs))
            (.visit v) hlast hputs
          rw [Occasion.broadcasts, hzero] at hspent
          exact Int.ofNat_le.mp hspent
        · have hpaid := broadcasts_le_append hstored.paid (.visit v) hlast hputs
          rw [hnull, Occasion.broadcasts, hone] at hpaid
          change (broadcasts since : Int) ≤ item.retry + 0 + 1 at hpaid
          have hceiling : retryCeiling = 3 := rfl
          omega
      · exact h.spent since hbefore hputs
    · intro v' hv'
      rcases List.mem_append.mp hv' with hv' | hv'
      · exact h.asked v' hv'
      · cases List.mem_singleton.mp hv'
        exact hasked.imp id fun ⟨hone, item, found, hnull, hretry, _⟩ =>
          ⟨hone, item, found, hnull, hretry⟩
    · refine h.forgotten.append fun v' hv' hne id stamp => ?_
      cases hv'
      rcases hasked with hzero | ⟨-, item, -, hnull, -, hstored⟩
      · exact absurd hzero hne
      · exact hstored.not_outstanding (by rw [hnull]; rfl) id stamp

/-- **What every history keeps.** -/
theorem sound (hub : r.HubNames) (h : BroadcastCourse r key ms w) : Sound key ms w := by
  induction h with
  | start keyed absent =>
    refine ⟨keyed, .inl absent, fun since hsince _ => ?_, fun v hv => absurd hv List.not_mem_nil,
      ?_⟩
    · rw [List.infix_nil.mp hsince]
      exact Nat.zero_le 3
    intro before since after u v id hsplit
    have hlength := congrArg List.length hsplit
    simp at hlength
  | aside history aside ih =>
    exact ⟨aside.keyed, ih.holds.of_entry aside.entry, ih.spent, ih.asked, ih.forgotten⟩
  | put history item unspent idle ih => exact ih.put unspent idle
  | call history ih => exact ih.call hub

end BroadcastCourse

/-! ### The promise -/

open BroadcastCourse in
/-- What a history promises that begins with a put and has no other one. -/
structure BroadcastLife [Seconds τ] (r : Relayer σ) (key : String) (ms : List (Occasion σ τ))
    (w : World σ τ) : Prop where
  /-- Under the key is an item, if there is anything. At most three retries are counted, and at most
  two if it has the name of a broadcast. -/
  stored : w.Holds key fun item => 0 ≤ item.retry ∧ item.retry ≤ 3 ∧
    (item.broadcastId = .null ∨ ∃ id, item.broadcastId = .str id ∧ id ≠ "" ∧ item.retry ≤ 2)
  /-- The item is broadcast at most three times. -/
  budget : broadcasts ms ≤ 3
  /-- It is broadcast once in a visit, and only if it has no name of a broadcast. -/
  asked : ∀ v, .visit v ∈ ms → v.broadcasts = 0 ∨ v.broadcasts = 1 ∧ ∃ item,
    v.before.pending? key = .ok (some item) ∧ item.broadcastId = .null ∧ item.retry ≤ 2
  /-- If it is broadcast again after a broadcast was accepted, then in between the hub has said that
  this one has failed, or that it is pending while more than 120 seconds have gone by since it was
  stamped. -/
  released : ∀ (before since after : List (Occasion σ τ)) (u v : Visit σ τ) (id : String),
    ms = before ++ .visit u :: (since ++ .visit v :: after) → u.Accepts id → v.broadcasts ≠ 0 →
      ∃ x, .visit x ∈ since ∧ x.Releases id u.after.wallNow.toMillis
  /-- A call after which the key is gone has removed it in the turn of the key, or the entry has
  expired before that turn. -/
  removed : ∀ e, w.cache.live? w.monoNow key = some e →
    Cache.entry? (r.processBroadcasts w).2.cache key = none →
      ∃ v, r.visitsOf key w = [v] ∧ (v.Removes r ∨ Cache.expired v.before.monoNow e = true)

namespace Relayer

open BroadcastCourse

variable [Seconds τ] {r : Relayer σ} {key : String} {ms rest : List (Occasion σ τ)}
  {w w₀ : World σ τ} {item : PendingBroadcast}

/-- **How an item leaves the queue.** -/
theorem removed_of_sound (h : Sound key ms w) {e : CacheEntry τ}
    (hlive : w.cache.live? w.monoNow key = some e)
    (hgone : Cache.entry? (r.processBroadcasts w).2.cache key = none) :
    ∃ v, r.visitsOf key w = [v] ∧ (v.Removes r ∨ Cache.expired v.before.monoNow e = true) := by
  rcases call_cases h.keyed r key with ⟨-, hentry⟩ | ⟨v, hvisit, hkey, hbefore, hafter⟩
  · rw [hentry, hlive] at hgone
    cases hgone
  · refine ⟨v, hvisit, ?_⟩
    have hmem : v ∈ r.visitsOf key w := by
      rw [hvisit]
      exact List.mem_singleton_self v
    have hturn := (turn_of_mem_visitsOf hmem).2
    have hholds : v.before.Holds key (Stored ms) := h.holds.of_entry (.inr hbefore)
    rw [hafter] at hgone
    -- a turn that leaves what it has found does not remove it
    have hkept {item : PendingBroadcast} (found : v.before.pending? key = .ok (some item))
        (cache : v.after.cache = (v.before.looked key).cache) : False := by
      rw [cache, World.entry?_looked, if_pos rfl] at hgone
      exact World.live?_of_found found hgone
    have hwritten {item : PendingBroadcast} (cache : r.Writes key v.before v.after item) :
        False := by
      rw [cache, Cache.entry?_set, if_pos rfl] at hgone
      cases hgone
    generalize hevents : v.events = events at hturn
    generalize v.result = result at hturn
    cases hturn with
    | missing found | unreadable found =>
      obtain ⟨item, expiry, hitem⟩ : ∃ item expiry, e = ⟨PendingBroadcast.toJson item, expiry⟩ := by
        rcases hholds with hnone | ⟨item, expiry, hitem, -⟩
        · rw [hbefore, hlive] at hnone
          cases hnone
        · exact ⟨item, expiry, Option.some.inj ((hlive.symm.trans hbefore.symm).trans hitem)⟩
      rw [World.pending?_of_item (hbefore.trans (hlive.trans (congrArg some hitem)))] at found
      cases hexpired : Cache.expired v.before.monoNow e with
      | true => exact .inr rfl
      | false =>
        rw [hitem] at hexpired
        rw [hexpired] at found
        cases found
    | undated found _ _ cache | waiting found _ _ _ cache | failed found _ _ _ _ cache =>
      exact (hkept found cache).elim
    | released _ _ _ _ cache | accepted _ _ _ _ cache | refused _ _ _ _ cache =>
      exact (hwritten cache).elim
    | settled found flying cache =>
      obtain ⟨id, hid, -⟩ := (hholds.of_found found).flying flying
      exact .inl (.inl ⟨_, id, hkey ▸ found, hid, hevents⟩)
    | dropped found idle spent cache =>
      have hstored := hholds.of_found found
      exact .inl (.inr ⟨_, _, hkey ▸ found, hstored.idle idle,
        le_antisymm hstored.most (of_decide_eq_true spent), hevents⟩)

/-- **The life of a pending broadcast.** -/
theorem broadcastCourse_life (hub : r.HubNames)
    (h : BroadcastCourse r key (.put w₀ item :: rest) w)
    (honce : ∀ m ∈ rest, m.isPut = false) :
    BroadcastLife r key (.put w₀ item :: rest) w := by
  have hsound := h.sound hub
  have hputs : puts rest = 0 := List.countP_eq_zero.mpr fun m hm => by simp [honce m hm]
  refine ⟨hsound.holds.mono fun item hstored => ⟨hstored.nonneg, hstored.most, ?_⟩, ?_,
    fun v hv => (hsound.asked v hv).imp id fun ⟨hone, item, found, hnull, hretry⟩ =>
      ⟨hone, item, found, hnull, Int.lt_add_one_iff.mp hretry⟩, ?_,
    fun e hlive hgone => removed_of_sound hsound hlive hgone⟩
  · exact hstored.handle.imp id fun ⟨id, hid, hne, hretry⟩ =>
      ⟨id, hid, hne, Int.lt_add_one_iff.mp hretry⟩
  · have hrest : rest <:+: .put w₀ item :: rest := (List.suffix_cons _ rest).isInfix
    have hfirst : BroadcastCourse.broadcasts (.put w₀ item :: rest) =
        BroadcastCourse.broadcasts rest := Nat.zero_add _
    rw [hfirst]
    exact hsound.spent rest hrest hputs
  · intro before since after u v id hsplit haccepts hasked
    obtain ⟨m, hm, hforgets⟩ := hsound.forgotten before since after u v id hsplit haccepts hasked
    rcases hforgets with hput | ⟨x, rfl, hreleases⟩
    · -- the only put comes first
      cases before with
      | nil => cases (List.cons.inj hsplit).1
      | cons first before' =>
        have hmem : m ∈ rest := by
          rw [(List.cons.inj hsplit).2]
          simp [hm]
        rw [honce m hmem] at hput
        cases hput
    · exact ⟨x, hm, hreleases⟩

/-- The hub in memory numbers the broadcasts that it accepts. -/
theorem hubNames_simulated : simulated.HubNames := by
  intro request contract s
  change match (Simulation.hub.broadcast request contract s).1 with
    | .ok id => id ≠ ""
    | .error fault => fault.isDependency = true
  rw [Simulation.hub]
  dsimp only
  cases s.broadcastsFail with
  | true => rfl
  | false =>
    intro hempty
    have hlength := congrArg String.length hempty
    simp at hlength

end Relayer

/-- A request that is put on the queue once. -/
def onceItem : PendingBroadcast := { request := [("verify_messages", .arr [])] }

/-- The world after it was put. -/
def onceWorld : World Simulation Rat :=
  ((Relayer.simulated.broadcasts.put "pendingBroadcast:m-1" onceItem) (World.initial {} 0)).2

namespace Relayer

/-- The promise for an item that is put and broadcast. -/
theorem broadcastCourse_life_once : simulated.HubNames ∧ ∃ (rest : List (Occasion Simulation Rat))
    (w : World Simulation Rat),
    BroadcastCourse simulated "pendingBroadcast:m-1"
      (.put (World.initial {} 0) onceItem :: rest) w ∧
    (∀ m ∈ rest, m.isPut = false) ∧
    BroadcastCourse.broadcasts (.put (World.initial {} 0) onceItem :: rest) = 1 ∧
    BroadcastLife simulated "pendingBroadcast:m-1"
      (.put (World.initial {} 0) onceItem :: rest) w := by
  have hstart : BroadcastCourse simulated "pendingBroadcast:m-1" []
      (World.initial {} 0 : World Simulation Rat) := .start List.nodup_nil rfl
  have hput : BroadcastCourse simulated "pendingBroadcast:m-1"
      [.put (World.initial {} 0) onceItem] onceWorld := hstart.put onceItem rfl rfl
  have hcourse := hput.call
  rw [List.singleton_append] at hcourse
  have honce : ∀ m ∈ (simulated.visitsOf "pendingBroadcast:m-1" onceWorld).map Occasion.visit,
      m.isPut = false := by
    intro m hm
    obtain ⟨v, -, rfl⟩ := List.mem_map.mp hm
    rfl
  have hone : BroadcastCourse.broadcasts (.put (World.initial {} 0) onceItem ::
      (simulated.visitsOf "pendingBroadcast:m-1" onceWorld).map .visit) = 1 := by decide +kernel
  exact ⟨hubNames_simulated, _, _, hcourse, honce, hone,
    broadcastCourse_life hubNames_simulated hcourse honce⟩

end Relayer

end ChainRelay
