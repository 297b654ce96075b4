import ChainRelay.Proofs.Worker.BroadcastReingestion

/-!
# Keys that a scan names more than once

A call gives its turn to each key of a list, and a store may name a key more than once when it is
scanned. Each turn looks again at what is there, so the second turn of a key starts where the first
one has left it.

## The contract

A turn is one step at most: the hub is asked once, for the broadcast in flight or for a new one. So
in a call a key makes as many steps at most as it is named, and its retries rise by no more than
that. Where keys are kept in a map, as in the cache of a single relayer, a scan names each key once,
and a call is one step for each of them.

## Main definitions

* `Event.isStep` — the hub was asked for a broadcast, one way or the other
* `Cache.item?` — the item that is stored under a key, expired or not
* `StepsAtMost` — what a call may do to one key

## Main results

* `BroadcastTurn.countP_isStep_le`, `BroadcastTurn.item?_of_after` — one turn
* `Relayer.stepsAtMost_advanceBroadcasts` — all turns of a call
* `Relayer.processBroadcasts_steps` — a call for the keys that a scan names
* `Relayer.advanceBroadcasts_repeats` — a key that is named twice
-/

namespace ChainRelay

variable {σ τ : Type}

/-- A step of a broadcast: it was asked for, or its status was. -/
def Event.isStep : Event → Bool
  | broadcast .. | statusRead .. => true
  | _ => false

/-- The item that is stored under a key, expired or not. -/
def Cache.item? (c : Cache τ) (key : String) : Option PendingBroadcast :=
  (c.entry? key).bind fun e => (PendingBroadcast.ofJson e.value).toOption

variable [Seconds τ]

/-! ### One turn -/

section

variable {w w' : World σ τ} {key : String} {item item' : PendingBroadcast}

/-- A look at a key may drop its entry, and nothing else. -/
theorem Cache.item?_of_looked (h : (w.looked key).cache.item? key = some item) :
    w.cache.item? key = some item := by
  obtain ⟨e, hlive, hitem⟩ := Option.bind_eq_some_iff.mp h
  rw [World.entry?_looked, if_pos rfl, Cache.live?, Option.filter_eq_some_iff] at hlive
  exact Option.bind_eq_some_iff.mpr ⟨e, hlive.1, hitem⟩

/-- What a turn finds is stored. -/
theorem Cache.item?_of_found (found : w.pending? key = .ok (some item)) :
    w.cache.item? key = some item := by
  rw [World.pending?] at found
  cases hlive : w.cache.live? w.monoNow key with
  | none =>
    rw [hlive] at found
    cases found
  | some e =>
    rw [hlive, Option.map_some] at found
    rw [Cache.live?, Option.filter_eq_some_iff] at hlive
    refine Option.bind_eq_some_iff.mpr ⟨e, hlive.1, ?_⟩
    have hread : (PendingBroadcast.ofJson e.value).map some = .ok (some item) := by
      split at found
      · cases found
      · cases found
      · rename_i hvalue
        cases hvalue
        exact found
    cases hitem : PendingBroadcast.ofJson e.value with
    | error fault =>
      rw [hitem] at hread
      cases hread
    | ok found =>
      rw [hitem] at hread
      cases hread
      rfl

/-- What is stored after a turn that writes. -/
theorem Relayer.Writes.item?_eq {r : Relayer σ} (h : r.Writes key w w' item) :
    w'.cache.item? key = some { item with timestamp := w'.wallNow.toMillis } := by
  rw [h, Cache.item?, Cache.entry?_set, if_pos rfl, Option.bind_some,
    PendingBroadcast.ofJson_toJson]
  rfl

namespace BroadcastTurn

variable {r : Relayer σ} {events : List Event} {result : Except Halt Bool}

/-- **A turn is one step at most.** -/
theorem countP_isStep_le (h : BroadcastTurn r key w w' events result) :
    events.countP Event.isStep ≤ 1 := by
  cases h with
  | missing | unreadable | undated | dropped => exact Nat.zero_le 1
  | settled | waiting | released | accepted | refused | failed => exact Nat.le_refl 1

/-- What is stored after a turn was stored before it, with a retry for a step at most. -/
theorem item?_of_after (h : BroadcastTurn r key w w' events result)
    (hafter : w'.cache.item? key = some item') :
    ∃ item, w.cache.item? key = some item ∧
      item'.retry ≤ item.retry + events.countP Event.isStep := by
  have hkept (hcache : w'.cache = (w.looked key).cache) (steps : ℕ) :
      ∃ item, w.cache.item? key = some item ∧ item'.retry ≤ item.retry + steps := by
    rw [hcache] at hafter
    exact ⟨item', Cache.item?_of_looked hafter, by omega⟩
  have herased (hcache : w'.cache = (w.looked key).cache.erase key) : False := by
    rw [hcache, Cache.item?, Cache.entry?_erase, if_pos rfl] at hafter
    cases hafter
  cases h with
  | missing _ cache | unreadable _ cache | undated _ _ _ cache | waiting _ _ _ _ cache
    | failed _ _ _ _ _ cache => exact hkept cache _
  | settled _ _ cache | dropped _ _ _ cache => exact (herased cache).elim
  | released found _ _ _ cache =>
    cases hafter.symm.trans cache.item?_eq
    exact ⟨_, Cache.item?_of_found found, le_refl _⟩
  | accepted found _ _ _ cache =>
    cases hafter.symm.trans cache.item?_eq
    exact ⟨_, Cache.item?_of_found found, Int.le_add_one (le_refl _)⟩
  | refused found _ _ _ cache =>
    cases hafter.symm.trans cache.item?_eq
    exact ⟨_, Cache.item?_of_found found, le_refl _⟩

end BroadcastTurn

end

/-! ### All turns of a call -/

/-- What the turns of a call that leads from `w` to `w'` may do to a key: `n` steps at most. -/
structure StepsAtMost (key : String) (n : ℕ) (w : World σ τ) (visits : List (Visit σ τ))
    (w' : World σ τ) : Prop where
  /-- All that is recorded is recorded in one of the turns. -/
  record : w'.trace = w.trace ++ visits.flatMap Visit.events
  /-- Each turn is one step at most. -/
  single : ∀ v ∈ visits, v.events.countP Event.isStep ≤ 1
  /-- The key makes no more steps in all. -/
  steps : ((visits.filter fun v => v.key == key).flatMap Visit.events).countP Event.isStep ≤ n
  /-- What is stored under it was stored before, with no more retries than that. -/
  retry : ∀ item', w'.cache.item? key = some item' →
    ∃ item, w.cache.item? key = some item ∧ item'.retry ≤ item.retry + n

namespace Relayer

variable {r : Relayer σ} {key : String} {keys : List String} {w : World σ τ}

/-- Keys have their turns in the order of the list, up to one that fails. -/
theorem map_key_visitsFrom_prefix (r : Relayer σ) (keys : List String) (w : World σ τ) :
    (r.visitsFrom keys w).map Visit.key <+: keys := by
  induction keys generalizing w with
  | nil => exact List.prefix_rfl
  | cons key rest ih =>
    rcases r.visitsFrom_cons key rest w with
      ⟨present, w', -, hvisits, -, -⟩ | ⟨halt, w', -, hvisits, -⟩
    · rw [hvisits, List.map_cons]
      exact (List.prefix_cons_inj key).mpr (ih w')
    · rw [hvisits]
      exact ⟨rest, rfl⟩

omit [Seconds τ] in
/-- The turns of a key, counted by their keys. -/
theorem length_filter_visitsFrom (visits : List (Visit σ τ)) (key : String) :
    (visits.filter fun v => v.key == key).length = (visits.map Visit.key).count key := by
  rw [List.count, List.countP_map, List.countP_eq_length_filter]
  rfl

omit [Seconds τ] in
/-- A list of turns makes as many steps at most as it is long. -/
theorem countP_isStep_flatMap_le {visits : List (Visit σ τ)}
    (h : ∀ v ∈ visits, v.events.countP Event.isStep ≤ 1) :
    (visits.flatMap Visit.events).countP Event.isStep ≤ visits.length := by
  induction visits with
  | nil => exact Nat.le_refl 0
  | cons v visits ih =>
    obtain ⟨hfirst, hrest⟩ := List.forall_mem_cons.mp h
    rw [List.flatMap_cons, List.countP_append, List.length_cons]
    have := ih hrest
    omega

omit [Seconds τ] in
/-- What a turn records is added to the record. -/
theorem trace_of_turned {w' : World σ τ} {events : List Event} {result : Except Halt Bool}
    (h : w.Turned w' events) :
    w'.trace = w.trace ++ Visit.events ⟨key, w, result, w'⟩ := by
  obtain ⟨env, journal, cache, rfl⟩ := h
  rw [Visit.events, List.drop_left]

/-- What a call records is what its turns record. -/
theorem trace_advanceBroadcasts (r : Relayer σ) (keys : List String) (w : World σ τ) :
    (r.advanceBroadcasts keys w).2.trace =
      w.trace ++ (r.visitsFrom keys w).flatMap Visit.events := by
  induction keys generalizing w with
  | nil => exact (List.append_nil _).symm
  | cons key rest ih =>
    obtain ⟨events, hturned, -⟩ := r.advanceBroadcast_turn key w
    rcases r.visitsFrom_cons key rest w with
      ⟨present, w', hfound, hvisits, hafter, -⟩ | ⟨halt, w', hfound, hvisits, hafter⟩ <;>
      rw [hfound] at hturned
    · rw [hafter, ih, hvisits, List.flatMap_cons, ← List.append_assoc,
        ← trace_of_turned hturned]
    · rw [hafter, hvisits, List.flatMap_singleton, ← trace_of_turned hturned]

/-- What is stored after a call was stored before it, with a retry at most for each time that the
key is named. -/
theorem item?_of_advanceBroadcasts (r : Relayer σ) (keys : List String) (w : World σ τ)
    {item' : PendingBroadcast}
    (h : (r.advanceBroadcasts keys w).2.cache.item? key = some item') :
    ∃ item, w.cache.item? key = some item ∧ item'.retry ≤ item.retry + keys.count key := by
  induction keys generalizing w with
  | nil => exact ⟨item', h, by simp⟩
  | cons first rest ih =>
    obtain ⟨events, -, hturn⟩ := r.advanceBroadcast_turn first w
    -- the first turn, whether it is one of the key or of another one
    have hfirst {item : PendingBroadcast}
        (hitem : (r.advanceBroadcast first w).2.cache.item? key = some item) :
        ∃ before, w.cache.item? key = some before ∧
          item.retry ≤ before.retry + [first].count key := by
      by_cases hkey : key = first
      · subst hkey
        obtain ⟨before, hbefore, hretry⟩ := hturn.item?_of_after hitem
        have hstep := hturn.countP_isStep_le
        refine ⟨before, hbefore, ?_⟩
        rw [List.count_singleton_self]
        omega
      · rw [Cache.item?, hturn.entry?_of_ne hkey] at hitem
        exact ⟨item, hitem, by omega⟩
    have hcount : (first :: rest).count key = [first].count key + rest.count key := by
      rw [← List.count_append, List.singleton_append]
    rw [hcount]
    rcases r.visitsFrom_cons first rest w with
      ⟨present, w', hfound, -, hafter, -⟩ | ⟨halt, w', hfound, -, hafter⟩ <;>
      rw [hfound] at hfirst
    · rw [hafter] at h
      obtain ⟨item, hitem, hretry⟩ := ih w' h
      obtain ⟨before, hbefore, hretry'⟩ := hfirst hitem
      exact ⟨before, hbefore, by omega⟩
    · rw [hafter] at h
      obtain ⟨before, hbefore, hretry⟩ := hfirst h
      exact ⟨before, hbefore, by omega⟩

/-- **The steps of a call** for the keys that a scan names, each as often as it names them. -/
theorem stepsAtMost_advanceBroadcasts (r : Relayer σ) (keys : List String) (w : World σ τ)
    (key : String) : StepsAtMost key (keys.count key) w (r.visitsFrom keys w)
      (r.advanceBroadcasts keys w).2 := by
  have hsingle : ∀ v ∈ r.visitsFrom keys w, v.events.countP Event.isStep ≤ 1 :=
    fun v hv => (broadcastTurn_of_mem hv).2.countP_isStep_le
  refine ⟨r.trace_advanceBroadcasts keys w, hsingle, ?_,
    fun item' h => r.item?_of_advanceBroadcasts keys w h⟩
  calc (((r.visitsFrom keys w).filter fun v => v.key == key).flatMap Visit.events).countP
        Event.isStep
      ≤ ((r.visitsFrom keys w).filter fun v => v.key == key).length :=
        countP_isStep_flatMap_le fun v hv => hsingle v (List.mem_of_mem_filter hv)
    _ = ((r.visitsFrom keys w).map Visit.key).count key := length_filter_visitsFrom _ key
    _ ≤ keys.count key := (r.map_key_visitsFrom_prefix keys w).sublist.count_le key

/-- **Steps and names.** In one call a key makes as many steps at most as the scan names it, and its
retries rise by no more; if the call returns, it has had exactly as many turns. A scan of a map names
each key once, so that a call is one step for it. -/
theorem processBroadcasts_steps (r : Relayer σ) (w : World σ τ) (key : String) :
    (∀ keys, StepsAtMost key (keys.count key) w (r.visitsFrom keys w)
        (r.advanceBroadcasts keys w).2 ∧
      ∀ count, (r.advanceBroadcasts keys w).1 = .ok count →
        ((r.visitsFrom keys w).filter fun v => v.key == key).length = keys.count key) ∧
    (w.cache.Keyed → StepsAtMost key 1 w (r.visits w) (r.processBroadcasts w).2) := by
  refine ⟨fun keys => ⟨r.stepsAtMost_advanceBroadcasts keys w key, fun count h => ?_⟩,
    fun hkeyed => ?_⟩
  · rw [length_filter_visitsFrom, map_key_visitsFrom h]
  · have h := r.stepsAtMost_advanceBroadcasts (r.pendingKeys w) (r.scanned w) key
    have honce : (r.pendingKeys w).count key ≤ 1 :=
      List.nodup_iff_count_le_one.mp (nodup_pendingKeys hkeyed r) key
    refine ⟨h.record, h.single, h.steps.trans honce, fun item' hitem => ?_⟩
    obtain ⟨item, hscanned, hretry⟩ := h.retry item' hitem
    obtain ⟨e, he, hread⟩ := Option.bind_eq_some_iff.mp hscanned
    rw [scanned, Cache.entry?_scan hkeyed, Cache.live?, Option.filter_eq_some_iff] at he
    exact ⟨item, Option.bind_eq_some_iff.mpr ⟨e, he.1, hread⟩, by omega⟩

/-- The law for a broadcast that is in the cache. -/
theorem processBroadcasts_steps_ingested :
    let w : World Simulation Rat := (World.initial {} 0).ingested
    w.cache.Keyed ∧ StepsAtMost "pendingBroadcast:verify_stacks_m-1" 1 w (simulated.visits w)
      (simulated.processBroadcasts w).2 := by
  have hkeyed : ((World.initial {} 0).ingested : World Simulation Rat).cache.Keyed := by
    rw [Cache.Keyed]
    decide +kernel
  exact ⟨hkeyed, (processBroadcasts_steps simulated _ _).2 hkeyed⟩

/-- **A key that is named twice.** Where the hub refuses, one call broadcasts twice and two retries
are counted; where it accepts, the call broadcasts and asks for the status of that broadcast. -/
theorem advanceBroadcasts_repeats :
    let keys := ["pendingBroadcast:verify_stacks_m-1", "pendingBroadcast:verify_stacks_m-1"]
    (let w : World Simulation Rat := (World.initial { broadcastsFail := true } 0).ingested
    let after := (simulated.advanceBroadcasts keys w).2
    w.standing = some (0, none) ∧ after.standing = some (2, none) ∧
      after.trace.countP Event.isBroadcast = 2) ∧
    (let w : World Simulation Rat := (World.initial {} 0).ingested
    let after := (simulated.advanceBroadcasts keys w).2
    after.trace.countP Event.isBroadcast = 1 ∧ after.trace.countP Event.isStep = 2) := by
  decide +kernel

end Relayer

end ChainRelay
