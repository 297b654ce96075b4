import ChainRelay.Proofs.Cache.KeySpaces
import ChainRelay.Proofs.Worker.BroadcastTurn

/-!
# One call for all pending broadcasts

A call looks up the keys that are there and gives each of them its turn. Keys are distinct, so a key
has at most one turn in a call, and the turns of the other keys leave its entry alone.

## Main definitions

* `Visit` — the turn of a key in a call
* `Relayer.visits` — the turns of a call

## Main results

* `BroadcastTurn.entry?_of_ne`, `BroadcastTurn.keyed` — what a turn leaves alone
* `Relayer.call_cases` — what a call does to the entry of one key
* `Relayer.map_key_visitsFrom` — a call that returns has visited all keys
* `Relayer.visitsOf_ne_nil` — what is there and has not expired has its turn
-/

namespace ChainRelay

variable {σ τ : Type} [Seconds τ]

/-! ### What a turn leaves alone -/

namespace World

variable {w : World σ τ} {key other : String}

theorem entry?_looked (w : World σ τ) (key other : String) :
    Cache.entry? (w.looked key).cache other =
      if other = key then w.cache.live? w.monoNow key else w.cache.entry? other :=
  Cache.entry?_get w.cache w.monoNow key other

theorem keyed_looked (h : w.cache.Keyed) (key : String) : (w.looked key).cache.Keyed :=
  h.get w.monoNow key

end World

namespace BroadcastTurn

variable {r : Relayer σ} {key other : String} {w w' : World σ τ} {events : List Event}
  {result : Except Halt Bool}

/-- A turn leaves the cache as it has found it, removes the key, or writes it. -/
theorem cache_cases (h : BroadcastTurn r key w w' events result) :
    w'.cache = (w.looked key).cache ∨ w'.cache = (w.looked key).cache.erase key ∨
      ∃ item, r.Writes key w w' item := by
  cases h with
  | missing _ cache | unreadable _ cache | undated _ _ _ cache | waiting _ _ _ _ cache
    | failed _ _ _ _ _ cache => exact .inl cache
  | settled _ _ cache | dropped _ _ _ cache => exact .inr (.inl cache)
  | released _ _ _ _ cache | accepted _ _ _ _ cache | refused _ _ _ _ cache =>
    exact .inr (.inr ⟨_, cache⟩)

/-- A turn that finds nothing does nothing. -/
theorem of_missing (h : BroadcastTurn r key w w' events result)
    (hnone : w.pending? key = .ok none) : events = [] ∧ w'.cache = (w.looked key).cache := by
  cases h with
  | missing _ cache => exact ⟨rfl, cache⟩
  | unreadable found | undated found | settled found | waiting found | released found
    | dropped found | accepted found | refused found | failed found =>
    rw [hnone] at found
    cases found

/-- A turn leaves the entries of all other keys alone. -/
theorem entry?_of_ne (h : BroadcastTurn r key w w' events result) (hother : other ≠ key) :
    w'.cache.entry? other = w.cache.entry? other := by
  have hlooked : Cache.entry? (w.looked key).cache other = w.cache.entry? other := by
    rw [World.entry?_looked, if_neg hother]
  rcases h.cache_cases with hsame | herased | ⟨item, hwritten⟩
  · rw [hsame, hlooked]
  · rw [herased, Cache.entry?_erase, if_neg hother, hlooked]
  · rw [hwritten, Cache.entry?_set, if_neg hother, hlooked]

theorem keyed (h : BroadcastTurn r key w w' events result) (hkeyed : w.cache.Keyed) :
    w'.cache.Keyed := by
  have hlooked := World.keyed_looked hkeyed key
  rcases h.cache_cases with hsame | herased | ⟨item, hwritten⟩
  · rw [hsame]
    exact hlooked
  · rw [herased]
    exact hlooked.erase key
  · rw [hwritten]
    exact hlooked.set _ _ _ _

end BroadcastTurn

/-! ### Visits -/

/-- The turn of a key in a call. -/
structure Visit (σ τ : Type) where
  key : String
  before : World σ τ
  result : Except Halt Bool
  after : World σ τ

/-- What was recorded in a visit. -/
def Visit.events (v : Visit σ τ) : List Event := v.after.trace.drop v.before.trace.length

namespace Relayer

/-- The turns of some keys, up to and with the first one that fails. -/
def visitsFrom (r : Relayer σ) : List String → World σ τ → List (Visit σ τ)
  | [], _ => []
  | key :: rest, w =>
    match r.advanceBroadcast key w with
    | (.ok present, w') => ⟨key, w, .ok present, w'⟩ :: visitsFrom r rest w'
    | (.error halt, w') => [⟨key, w, .error halt, w'⟩]

/-- The keys that a call finds. -/
def pendingKeys (r : Relayer σ) (w : World σ τ) : List String :=
  (w.cache.scan w.monoNow (r.broadcasts.space ++ ":*")).1

/-- The world after the keys were looked up. -/
def scanned (r : Relayer σ) (w : World σ τ) : World σ τ :=
  { w with cache := (w.cache.scan w.monoNow (r.broadcasts.space ++ ":*")).2 }

/-- The turns of a call. -/
def visits (r : Relayer σ) (w : World σ τ) : List (Visit σ τ) :=
  r.visitsFrom (r.pendingKeys w) (r.scanned w)

/-- The turns of a key in a call. -/
def visitsOf (r : Relayer σ) (key : String) (w : World σ τ) : List (Visit σ τ) :=
  (r.visits w).filter fun v => v.key == key

variable {r : Relayer σ} {key : String} {keys : List String} {w w' : World σ τ} {v : Visit σ τ}

theorem processBroadcasts_apply (r : Relayer σ) (w : World σ τ) :
    r.processBroadcasts w = r.advanceBroadcasts (r.pendingKeys w) (r.scanned w) := rfl

/-- The keys that have a turn are those of the call, in their order, unless a turn fails. -/
theorem visitsFrom_cons (r : Relayer σ) (key : String) (rest : List String) (w : World σ τ) :
    (∃ present w', r.advanceBroadcast key w = (.ok present, w') ∧
      r.visitsFrom (key :: rest) w = ⟨key, w, .ok present, w'⟩ :: r.visitsFrom rest w' ∧
      (r.advanceBroadcasts (key :: rest) w).2 = (r.advanceBroadcasts rest w').2 ∧
      (∀ count, (r.advanceBroadcasts (key :: rest) w).1 = .ok count →
        ∃ count', (r.advanceBroadcasts rest w').1 = .ok count')) ∨
    (∃ halt w', r.advanceBroadcast key w = (.error halt, w') ∧
      r.visitsFrom (key :: rest) w = [⟨key, w, .error halt, w'⟩] ∧
      r.advanceBroadcasts (key :: rest) w = (.error halt, w')) := by
  rw [visitsFrom, advanceBroadcasts, Work.bind_apply]
  cases hturn : r.advanceBroadcast key w with
  | mk result w' =>
    cases result with
    | error halt => exact .inr ⟨halt, w', rfl, rfl, rfl⟩
    | ok present =>
      refine .inl ⟨present, w', rfl, rfl, ?_⟩
      dsimp only
      rw [Work.bind_apply]
      cases hrest : r.advanceBroadcasts rest w' with
      | mk result w'' =>
        cases result with
        | ok count => exact ⟨rfl, fun _ _ => ⟨count, rfl⟩⟩
        | error halt => exact ⟨rfl, fun _ h => by cases h⟩

/-- A visit is a turn. -/
theorem turn_of_mem_visitsFrom (h : v ∈ r.visitsFrom keys w) :
    r.advanceBroadcast v.key v.before = (v.result, v.after) := by
  induction keys generalizing w with
  | nil => cases h
  | cons key rest ih =>
    rcases r.visitsFrom_cons key rest w with
      ⟨present, w', hturn, hvisits, -, -⟩ | ⟨halt, w', hturn, hvisits, -⟩ <;> rw [hvisits] at h
    · rcases List.mem_cons.mp h with rfl | h
      · exact hturn
      · exact ih h
    · rw [List.mem_singleton.mp h]
      exact hturn

/-- What was recorded and how it went. -/
theorem broadcastTurn_of_mem (h : v ∈ r.visitsFrom keys w) :
    v.before.Turned v.after v.events ∧
      BroadcastTurn r v.key v.before v.after v.events v.result := by
  obtain ⟨events, hturned, hturn⟩ := r.advanceBroadcast_turn v.key v.before
  rw [turn_of_mem_visitsFrom h] at hturned hturn
  have hevents : v.events = events := by
    obtain ⟨env, journal, cache, hafter⟩ := hturned
    have htrace : v.after.trace = v.before.trace ++ events := congrArg World.trace hafter
    rw [Visit.events, htrace, List.drop_left]
  rw [hevents]
  exact ⟨hturned, hturn⟩

theorem key_mem_of_mem_visitsFrom (h : v ∈ r.visitsFrom keys w) : v.key ∈ keys := by
  induction keys generalizing w with
  | nil => cases h
  | cons key rest ih =>
    rcases r.visitsFrom_cons key rest w with
      ⟨present, w', -, hvisits, -, -⟩ | ⟨halt, w', -, hvisits, -⟩ <;> rw [hvisits] at h
    · rcases List.mem_cons.mp h with rfl | h
      · exact List.mem_cons_self
      · exact List.mem_cons_of_mem _ (ih h)
    · rw [List.mem_singleton.mp h]
      exact List.mem_cons_self

/-- A call that returns has visited all keys. -/
theorem map_key_visitsFrom {count : Nat} (h : (r.advanceBroadcasts keys w).1 = .ok count) :
    (r.visitsFrom keys w).map Visit.key = keys := by
  induction keys generalizing w count with
  | nil => rfl
  | cons key rest ih =>
    rcases r.visitsFrom_cons key rest w with
      ⟨present, w', -, hvisits, -, hok⟩ | ⟨halt, w', -, -, hrun⟩
    · obtain ⟨count', hrest⟩ := hok count h
      rw [hvisits, List.map_cons, ih hrest]
    · rw [hrun] at h
      cases h

/-- In a call that returns no turn fails. -/
theorem result_of_mem_visitsFrom {count : Nat} (h : (r.advanceBroadcasts keys w).1 = .ok count)
    (hv : v ∈ r.visitsFrom keys w) : ∃ present, v.result = .ok present := by
  induction keys generalizing w count with
  | nil => cases hv
  | cons key rest ih =>
    rcases r.visitsFrom_cons key rest w with
      ⟨present, w', -, hvisits, -, hok⟩ | ⟨halt, w', -, -, hrun⟩
    · obtain ⟨count', hrest⟩ := hok count h
      rw [hvisits] at hv
      rcases List.mem_cons.mp hv with rfl | hv
      · exact ⟨present, rfl⟩
      · exact ih hrest hv
    · rw [hrun] at h
      cases h

/-! ### Which keys have a turn -/

/-- What is there and has not expired is among the keys of a call. -/
theorem mem_pendingKeys (hqueue : r.broadcasts = {}) {id : String}
    (hlive : w.cache.live? w.monoNow (r.broadcasts.keyOf id) ≠ none) :
    r.broadcasts.keyOf id ∈ r.pendingKeys w := by
  have hplain : Text.KeyPattern.IsPlain r.broadcasts.space := by
    rw [hqueue]
    decide
  have hmatch : Text.KeyPattern.matches? (r.broadcasts.space ++ ":*") (r.broadcasts.keyOf id) =
      true :=
    (Text.KeyPattern.matches?_space_iff hplain _).mpr (r.broadcasts.space_starts_keyOf id)
  refine List.mem_filter.mpr ⟨?_, hmatch⟩
  obtain ⟨e, he⟩ := Option.ne_none_iff_exists'.mp hlive
  rw [Cache.live?, Option.filter_eq_some_iff] at he
  obtain ⟨hentry, hlasts⟩ := he
  obtain ⟨i, j, hsplit, -⟩ := List.lookup_eq_some_iff.mp hentry
  refine List.mem_map.mpr ⟨(r.broadcasts.keyOf id, e), List.mem_filter.mpr ⟨?_, hlasts⟩, rfl⟩
  rw [hsplit]
  simp

/-- A call that returns has given its turn to a key that is there and has not expired. -/
theorem visitsOf_ne_nil (hqueue : r.broadcasts = {}) {id : String} {count : Nat}
    (hok : (r.processBroadcasts w).1 = .ok count)
    (hlive : w.cache.live? w.monoNow (r.broadcasts.keyOf id) ≠ none) :
    r.visitsOf (r.broadcasts.keyOf id) w ≠ [] := by
  have hkeys : (r.visits w).map Visit.key = r.pendingKeys w := map_key_visitsFrom hok
  have hmem := mem_pendingKeys hqueue hlive
  rw [← hkeys] at hmem
  obtain ⟨v, hv, hkey⟩ := List.mem_map.mp hmem
  exact List.ne_nil_of_mem (List.mem_filter.mpr ⟨hv, beq_iff_eq.mpr hkey⟩)

/-! ### One key -/

/-- Where the turns of other keys leave the entry of a key. -/
theorem entry?_of_not_mem (hkey : key ∉ keys) (w : World σ τ) :
    Cache.entry? (r.advanceBroadcasts keys w).2.cache key = w.cache.entry? key := by
  induction keys generalizing w with
  | nil => rfl
  | cons first rest ih =>
    obtain ⟨hfirst, hrest⟩ := not_or.mp (fun h => hkey (List.mem_cons.mpr h))
    obtain ⟨events, -, hturn⟩ := r.advanceBroadcast_turn first w
    have hsame := hturn.entry?_of_ne hfirst
    rcases r.visitsFrom_cons first rest w with
      ⟨present, w', hfound, -, hafter, -⟩ | ⟨halt, w', hfound, -, hafter⟩ <;> rw [hfound] at hsame
    · rw [hafter, ih hrest, hsame]
    · rw [hafter, hsame]

theorem keyed_advanceBroadcasts (hkeyed : w.cache.Keyed) (r : Relayer σ) (keys : List String) :
    (r.advanceBroadcasts keys w).2.cache.Keyed := by
  induction keys generalizing w with
  | nil => exact hkeyed
  | cons key rest ih =>
    obtain ⟨events, -, hturn⟩ := r.advanceBroadcast_turn key w
    have hnext := hturn.keyed hkeyed
    rcases r.visitsFrom_cons key rest w with
      ⟨present, w', hfound, -, hafter, -⟩ | ⟨halt, w', hfound, -, hafter⟩ <;> rw [hfound] at hnext
    · rw [hafter]
      exact ih hnext
    · rw [hafter]
      exact hnext

/-- What the turns of distinct keys do to the entry of one of them. -/
theorem advanceBroadcasts_cases (hkeys : keys.Nodup) (r : Relayer σ) (key : String)
    (w : World σ τ) :
    ((r.visitsFrom keys w).filter (fun v => v.key == key) = [] ∧
      Cache.entry? (r.advanceBroadcasts keys w).2.cache key = w.cache.entry? key) ∨
    ∃ v, (r.visitsFrom keys w).filter (fun v => v.key == key) = [v] ∧ v.key = key ∧
      v.before.cache.entry? key = w.cache.entry? key ∧
      Cache.entry? (r.advanceBroadcasts keys w).2.cache key = v.after.cache.entry? key := by
  induction keys generalizing w with
  | nil => exact .inl ⟨rfl, rfl⟩
  | cons first rest ih =>
    obtain ⟨hfirst, hrest⟩ := List.nodup_cons.mp hkeys
    obtain ⟨events, -, hturn⟩ := r.advanceBroadcast_turn first w
    by_cases hkey : first = key
    · -- the turn of the key itself; it has no other one
      subst hkey
      have hnone (w' : World σ τ) :
          (r.visitsFrom rest w').filter (fun v => v.key == first) = [] := by
        refine List.filter_eq_nil_iff.mpr fun v hv hsame => hfirst ?_
        rw [← beq_iff_eq.mp hsame]
        exact key_mem_of_mem_visitsFrom hv
      have hown (v : Visit σ τ) (hv : v.key = first) (vs : List (Visit σ τ)) :
          (v :: vs).filter (fun v => v.key == first) = v :: vs.filter fun v => v.key == first := by
        simp [hv]
      rcases r.visitsFrom_cons first rest w with
        ⟨present, w', -, hvisits, hafter, -⟩ | ⟨halt, w', -, hvisits, hafter⟩
      · refine .inr ⟨⟨first, w, .ok present, w'⟩, ?_, rfl, rfl, ?_⟩
        · rw [hvisits, hown _ rfl, hnone]
        · rw [hafter, entry?_of_not_mem hfirst]
      · refine .inr ⟨⟨first, w, .error halt, w'⟩, ?_, rfl, rfl, ?_⟩
        · rw [hvisits, hown _ rfl]
          rfl
        · rw [hafter]
    · have hother (v : Visit σ τ) (hv : v.key = first) (vs : List (Visit σ τ)) :
          (v :: vs).filter (fun v => v.key == key) = vs.filter fun v => v.key == key := by
        simp [hv, hkey]
      have hsame := hturn.entry?_of_ne (Ne.symm hkey)
      rcases r.visitsFrom_cons first rest w with
        ⟨present, w', hfound, hvisits, hafter, -⟩ | ⟨halt, w', hfound, hvisits, hafter⟩ <;>
        rw [hfound] at hsame
      · rw [hvisits, hother _ rfl, hafter, ← hsame]
        exact ih hrest w'
      · rw [hvisits, hother _ rfl, hafter]
        exact .inl ⟨rfl, hsame⟩

theorem nodup_pendingKeys (hkeyed : w.cache.Keyed) (r : Relayer σ) : (r.pendingKeys w).Nodup :=
  Cache.nodup_scan hkeyed w.monoNow _

/-- **One key in a call.** It has no turn, and only time has passed for its entry, or it has one
turn, which finds what was there and has not expired, and leaves what is there after the call. -/
theorem call_cases (hkeyed : w.cache.Keyed) (r : Relayer σ) (key : String) :
    (r.visitsOf key w = [] ∧
      Cache.entry? (r.processBroadcasts w).2.cache key = w.cache.live? w.monoNow key) ∨
    ∃ v, r.visitsOf key w = [v] ∧ v.key = key ∧
      v.before.cache.entry? key = w.cache.live? w.monoNow key ∧
      Cache.entry? (r.processBroadcasts w).2.cache key = v.after.cache.entry? key := by
  have hscan : Cache.entry? (r.scanned w).cache key = w.cache.live? w.monoNow key :=
    Cache.entry?_scan hkeyed w.monoNow (r.broadcasts.space ++ ":*") key
  rw [processBroadcasts_apply, ← hscan]
  exact advanceBroadcasts_cases (nodup_pendingKeys hkeyed r) r key (r.scanned w)

theorem keyed_call (hkeyed : w.cache.Keyed) (r : Relayer σ) :
    (r.processBroadcasts w).2.cache.Keyed := by
  have hscanned : (r.scanned w).cache.Keyed :=
    hkeyed.scan w.monoNow (r.broadcasts.space ++ ":*")
  rw [processBroadcasts_apply]
  exact keyed_advanceBroadcasts hscanned r _

/-- A visit of a key in a call is a turn of that key. -/
theorem turn_of_mem_visitsOf (h : v ∈ r.visitsOf key w) :
    v.before.Turned v.after v.events ∧
      BroadcastTurn r key v.before v.after v.events v.result := by
  obtain ⟨hmem, hkey⟩ := List.mem_filter.mp h
  obtain ⟨hturned, hturn⟩ := broadcastTurn_of_mem hmem
  rw [beq_iff_eq.mp hkey] at hturn
  exact ⟨hturned, hturn⟩

end Relayer

end ChainRelay
