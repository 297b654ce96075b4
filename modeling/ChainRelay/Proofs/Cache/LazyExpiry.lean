import ChainRelay.Proofs.Cache.KeySpaces
import Mathlib.Data.Set.Defs
import Mathlib.Logic.Function.Basic
import Mathlib.Order.Defs.Unbundled

/-!
# Expiry that nobody sees

An entry that has expired stays where it is until its key is next looked at. Nobody can tell: every
call is answered as by a map from which an entry vanishes at the very instant at which its deadline
is reached.

## The contract

The clock is read once for a call, and it does not go back. It can show all lifetimes. One that it
cannot show is found out only after the value has been stored: the value stays, with the deadline of
the entry that was there, and then it does show whether that entry had been dropped before.

## Main definitions

* `CacheCall`, `CacheAnswer`, `Cache.call` — what a cache is asked and what it answers
* `replay` — a history of calls, with the answers
* `EagerCache` — a map from which entries vanish at their deadlines
* `SplitCache` — values and deadlines in a map of their own each
* `HidesExpiry` — what holds after every history

## Main results

* `Cache.Reflects.call` — one call is answered as by such a map
* `Cache.reflects_replay` — so are all calls of a history
* `Cache.split_replay` — values and deadlines stay in step
* `Cache.lazyExpiry_hidden` — no call shows when an entry was dropped
* `Cache.lazyExpiry_shows` — no such map answers alike once a lifetime cannot be shown
-/

namespace ChainRelay

/-! ### Calls and answers -/

/-- What a cache is asked. -/
inductive CacheCall where
  | get (key : String)
  | set (key : String) (value : Json) (ttl : Option Quantity)
  | setIfAbsent (key : String) (value : Json) (ttl : Quantity)
  | erase (key : String)
  | eraseIfEqual (key : String) (value : Json)
  | scan (pattern : String)

/-- The lifetime of the value that a call sets, if it sets one for a time. -/
def CacheCall.ttl? : CacheCall → Option Quantity
  | set _ _ ttl => ttl
  | setIfAbsent _ _ ttl => some ttl
  | _ => none

/-- A clock can show a lifetime, if there is one. -/
def ShownLifetime (ttl : Option Quantity) : Prop := ∀ t ∈ ttl, t.isTooLarge = false

theorem ShownLifetime.check {ttl : Option Quantity} (h : ShownLifetime ttl) :
    ttl.forM Quantity.check = .ok () := by
  cases ttl with
  | none => rfl
  | some t => exact Quantity.check_eq_ok (h t rfl)

/-- A clock can show the lifetime of what a call sets. -/
def CacheCall.IsShown (call : CacheCall) : Prop := ShownLifetime call.ttl?

instance (call : CacheCall) : Decidable call.IsShown := Option.decidableForallMem call.ttl?

/-- What a cache answers, with the keys of a scan given in some form. -/
inductive CacheAnswer (κ : Type) where
  | done
  | found (value : Option Json)
  | decided (yes : Bool)
  | listed (keys : κ)
  | refused (fault : Fault)

namespace CacheAnswer

/-- The same answer with the keys in another form. -/
def map {κ κ' : Type} (f : κ → κ') : CacheAnswer κ → CacheAnswer κ'
  | done => .done
  | found value => .found value
  | decided yes => .decided yes
  | listed keys => .listed (f keys)
  | refused fault => .refused fault

/-- An answer, unless the lifetime that comes with the call cannot be shown. -/
def within {κ : Type} (ttl : Option Quantity) (answer : CacheAnswer κ) : CacheAnswer κ :=
  match ttl.forM Quantity.check with
  | .ok () => answer
  | .error fault => .refused fault

theorem within_of_shown {κ : Type} {ttl : Option Quantity} (h : ShownLifetime ttl)
    (answer : CacheAnswer κ) : answer.within ttl = answer := by
  rw [within, h.check]

end CacheAnswer

/-- The keys of a list, in no order. -/
def keySet (keys : List String) : Set String := {key | key ∈ keys}

variable {τ : Type}

/-- Calls at their times, one after the other: the answers, and what is left. -/
def replay {S κ : Type} (step : S → τ → CacheCall → CacheAnswer κ × S) :
    S → List (τ × CacheCall) → List (CacheAnswer κ) × S
  | s, [] => ([], s)
  | s, (t, call) :: rest =>
    let later := replay step (step s t call).2 rest
    ((step s t call).1 :: later.1, later.2)

section

variable [Seconds τ]

/-- A call of the cache. -/
def Cache.call (c : Cache τ) (now : τ) : CacheCall → CacheAnswer (List String) × Cache τ
  | .get key => (.found (c.get now key).1, (c.get now key).2)
  | .set key value ttl => (CacheAnswer.done.within ttl, c.set now key value ttl)
  | .setIfAbsent key value ttl =>
    let (isSet, c) := c.setIfAbsent now key value ttl
    (if isSet then (CacheAnswer.decided true).within (some ttl) else .decided false, c)
  | .erase key => (.done, c.erase key)
  | .eraseIfEqual key value =>
    (.decided (c.eraseIfEqual now key value).1, (c.eraseIfEqual now key value).2)
  | .scan pattern => (.listed (c.scan now pattern).1, (c.scan now pattern).2)

/-! ### A map from which entries vanish -/

/-- Entries by their keys. -/
abbrev EagerCache (τ : Type) := String → Option (CacheEntry τ)

namespace EagerCache

/-- What is left at a time: an entry has vanished when the clock reaches its deadline. -/
def leftAt (m : EagerCache τ) (now : τ) : EagerCache τ :=
  fun key => (m key).filter fun e => !Cache.expired now e

/-- A value is set, unless its lifetime cannot be shown. -/
def put {κ : Type} (m : EagerCache τ) (now : τ) (key : String) (value : Json)
    (ttl : Option Quantity) (answer : CacheAnswer κ) : CacheAnswer κ × EagerCache τ :=
  match ttl.forM Quantity.check with
  | .ok () =>
    (answer, Function.update m key (some ⟨value, ttl.map fun t => now + Seconds.ofQuantity t⟩))
  | .error fault => (.refused fault, m)

/-- A call of a map that knows of no expiry. -/
def call (m : EagerCache τ) (now : τ) : CacheCall → CacheAnswer (Set String) × EagerCache τ
  | .get key => (.found ((m key).map CacheEntry.value), m)
  | .set key value ttl => m.put now key value ttl .done
  | .setIfAbsent key value ttl =>
    match m key with
    | some _ => (.decided false, m)
    | none => m.put now key value (some ttl) (.decided true)
  | .erase key => (.done, Function.update m key none)
  | .eraseIfEqual key value =>
    match m key with
    | some e =>
      if Json.same e.value value then (.decided true, Function.update m key none)
      else (.decided false, m)
    | none => (.decided false, m)
  | .scan pattern =>
    (.listed {key | m key ≠ none ∧ Text.KeyPattern.matches? pattern key = true}, m)

/-- What has reached its deadline vanishes before anything is done. -/
def step (m : EagerCache τ) (now : τ) (call : CacheCall) :
    CacheAnswer (Set String) × EagerCache τ :=
  (m.leftAt now).call now call

/-- A value whose lifetime can be shown is set. -/
theorem put_of_shown {κ : Type} {ttl : Option Quantity} (h : ShownLifetime ttl)
    (m : EagerCache τ) (now : τ) (key : String) (value : Json) (answer : CacheAnswer κ) :
    m.put now key value ttl answer =
      (answer, Function.update m key
        (some ⟨value, ttl.map fun t => now + Seconds.ofQuantity t⟩)) := by
  rw [put, h.check]

/-- What is left is all that is left. -/
theorem leftAt_leftAt (m : EagerCache τ) (now : τ) : (m.leftAt now).leftAt now = m.leftAt now := by
  funext key
  rw [leftAt, leftAt]
  cases m key with
  | none => rfl
  | some e => cases hexpired : Cache.expired now e <;> simp [Option.filter, hexpired]

end EagerCache

/-! ### The cache against the map -/

namespace Cache

variable {c c' : Cache τ} {m : EagerCache τ} {now t : τ} {key : String}

theorem Keyed.call (h : c.Keyed) (now : τ) (call : CacheCall) : (c.call now call).2.Keyed := by
  cases call with
  | get key => exact h.get now key
  | set key value ttl => exact h.set now key value ttl
  | setIfAbsent key value ttl => exact h.setIfAbsent now key value ttl
  | erase key => exact h.erase key
  | eraseIfEqual key value => exact h.eraseIfEqual now key value
  | scan pattern => exact h.scan now pattern

/-- What of a cache has not expired is what the map has left. -/
structure Reflects (c : Cache τ) (m : EagerCache τ) (now : τ) : Prop where
  keyed : c.Keyed
  live : ∀ key, c.live? now key = m.leftAt now key

/-- What has expired stays expired. -/
theorem expired_mono [IsTrans τ (· ≤ ·)] {e : CacheEntry τ} (hle : now ≤ t)
    (h : expired now e = true) : expired t e = true := by
  cases hexpiry : e.expiry with
  | none => simp [expired, hexpiry] at h
  | some deadline =>
    simp only [expired, hexpiry, decide_eq_true_eq] at h ⊢
    exact IsTrans.trans _ _ _ h hle

/-- What is left later is left of what is left now. -/
theorem filter_expired [IsTrans τ (· ≤ ·)] (hle : now ≤ t) (found : Option (CacheEntry τ)) :
    (found.filter fun e => !expired now e).filter (fun e => !expired t e) =
      found.filter fun e => !expired t e := by
  cases found with
  | none => rfl
  | some e =>
    cases hnow : expired now e with
    | false => simp [Option.filter, hnow]
    | true => simp [Option.filter, hnow, expired_mono hle hnow]

theorem Reflects.later [IsTrans τ (· ≤ ·)] (h : c.Reflects m now) (hle : now ≤ t) :
    c.Reflects m t := by
  refine ⟨h.keyed, fun key => ?_⟩
  rw [live?, ← filter_expired hle, ← live?, h.live key, EagerCache.leftAt, filter_expired hle]
  rfl

/-- A map may drop what has vanished. -/
theorem Reflects.leftAt (h : c.Reflects m now) : c.Reflects (m.leftAt now) now :=
  ⟨h.keyed, fun key => by rw [h.live, EagerCache.leftAt_leftAt]⟩

/-- A cache that changes the entry of one key reflects the map with the same change. -/
theorem Reflects.update (h : c.Reflects m now) (hkeyed : c'.Keyed)
    {found : Option (CacheEntry τ)}
    (hentries : ∀ other, c'.entry? other = if other = key then found else c.entry? other) :
    c'.Reflects (Function.update (m.leftAt now) key found) now := by
  refine ⟨hkeyed, fun other => ?_⟩
  rw [live?, hentries, EagerCache.leftAt]
  by_cases hother : other = key
  · rw [if_pos hother, hother, Function.update_self]
  · rw [if_neg hother, Function.update_of_ne hother]
    exact h.leftAt.live other

/-- When a value expires whose lifetime can be shown. -/
theorem bind_expiry_of_shown {ttl : Option Quantity} (h : ShownLifetime ttl) (c : Cache τ)
    (now : τ) (key : String) :
    ttl.bind (c.expiry now key) = ttl.map fun t => now + Seconds.ofQuantity t := by
  cases ttl with
  | none => rfl
  | some t => simp [expiry, h t rfl]

/-- **One call is answered as by a map from which entries vanish.** -/
theorem Reflects.call (h : c.Reflects m now) {call : CacheCall} (hshown : call.IsShown) :
    (c.call now call).1.map keySet = (m.step now call).1 ∧
      (c.call now call).2.Reflects (m.step now call).2 now := by
  cases call with
  | get key =>
    have hreflects := h.update (h.keyed.get now key) (entry?_get c now key)
    rw [h.live, Function.update_eq_self] at hreflects
    refine ⟨?_, hreflects⟩
    rw [Cache.call, get_fst, h.live]
    rfl
  | set key value ttl =>
    have hlasts : ShownLifetime ttl := hshown
    have hreflects := h.update (h.keyed.set now key value ttl) (entry?_set c now key value ttl)
    rw [bind_expiry_of_shown hlasts] at hreflects
    rw [EagerCache.step, EagerCache.call, EagerCache.put_of_shown hlasts]
    refine ⟨?_, hreflects⟩
    rw [Cache.call, CacheAnswer.within_of_shown hlasts]
    rfl
  | setIfAbsent key value ttl =>
    cases hset : (c.setIfAbsent now key value ttl).1 with
    | false =>
      have hsame := setIfAbsent_eq_false hset
      rw [setIfAbsent_fst, Option.isNone_eq_false_iff, h.live] at hset
      obtain ⟨e, he⟩ := Option.isSome_iff_exists.mp hset
      rw [Cache.call, hsame, EagerCache.step, EagerCache.call, he]
      exact ⟨rfl, h.leftAt⟩
    | true =>
      have hlasts : ShownLifetime (some ttl) := hshown
      have hreflects := h.update (h.keyed.setIfAbsent now key value ttl) (entry?_setIfAbsent hset)
      rw [hlasts ttl rfl, if_neg Bool.false_ne_true] at hreflects
      have hanswer : (c.call now (.setIfAbsent key value ttl)).1 = .decided true := by
        rw [Cache.call]
        dsimp only
        rw [hset, if_pos rfl]
        exact CacheAnswer.within_of_shown hlasts _
      rw [setIfAbsent_fst, Option.isNone_iff_eq_none, h.live] at hset
      rw [hanswer, EagerCache.step, EagerCache.call, hset]
      dsimp only
      rw [EagerCache.put_of_shown hlasts]
      exact ⟨rfl, hreflects⟩
  | erase key => exact ⟨rfl, h.update (h.keyed.erase key) (entry?_erase c key)⟩
  | eraseIfEqual key value =>
    have hreflects := h.update (h.keyed.eraseIfEqual now key value)
      (entry?_eraseIfEqual c now key value)
    rw [h.live] at hreflects
    rw [Cache.call, eraseIfEqual_fst, h.live, EagerCache.step, EagerCache.call]
    cases hfound : m.leftAt now key with
    | none =>
      rw [hfound, Option.filter_none, ← hfound, Function.update_eq_self] at hreflects
      exact ⟨rfl, hreflects⟩
    | some e =>
      cases hsame : Json.same e.value value with
      | true =>
        simp only [hfound, Option.filter, hsame] at hreflects
        simpa [CacheAnswer.map, hsame] using hreflects
      | false =>
        have hsome : Function.update (m.leftAt now) key (some e) = m.leftAt now := by
          rw [← hfound, Function.update_eq_self]
        simp only [hfound, Option.filter, hsame] at hreflects
        simpa [CacheAnswer.map, hsame, hsome] using hreflects
  | scan pattern =>
    refine ⟨?_, h.keyed.scan now pattern, fun key => ?_⟩
    · refine congrArg CacheAnswer.listed (Set.ext fun key => ?_)
      change key ∈ (c.scan now pattern).1 ↔ _
      rw [mem_scan_iff h.keyed, h.live]
      rfl
    · change (Cache.entry? (c.scan now pattern).2 key).filter _ = _
      rw [entry?_scan h.keyed, h.live]
      rfl

/-- A cache with nothing in it reflects a map with nothing in it. -/
theorem reflects_empty (now : τ) : Reflects {} (fun _ => none) now := ⟨keyed_empty, fun _ => rfl⟩

/-- **All calls of a history are answered as by a map from which entries vanish.** -/
theorem reflects_replay [IsTrans τ (· ≤ ·)] {calls : List (τ × CacheCall)}
    (hstart : ∀ call ∈ calls, c.Reflects m call.1)
    (htimes : (calls.map Prod.fst).Pairwise (· ≤ ·)) (hshown : ∀ call ∈ calls, call.2.IsShown) :
    (replay Cache.call c calls).1.map (CacheAnswer.map keySet) =
        (replay EagerCache.step m calls).1 ∧
      ∀ t, c.Reflects m t → (∀ call ∈ calls, call.1 ≤ t) →
        (replay Cache.call c calls).2.Reflects (replay EagerCache.step m calls).2 t := by
  induction calls generalizing c m with
  | nil => exact ⟨rfl, fun t h _ => h⟩
  | cons first rest ih =>
    obtain ⟨now, call⟩ := first
    obtain ⟨hfirst, hrest⟩ := List.pairwise_cons.mp htimes
    obtain ⟨hanswer, hreflects⟩ :=
      (hstart _ List.mem_cons_self).call (hshown _ List.mem_cons_self)
    obtain ⟨hanswers, hleft⟩ := ih
      (fun call' hcall => hreflects.later (hfirst _ (List.mem_map_of_mem hcall))) hrest
      fun call' hcall => hshown call' (List.mem_cons_of_mem _ hcall)
    refine ⟨congrArg₂ List.cons hanswer hanswers, fun t _ hlast => ?_⟩
    exact hleft t (hreflects.later (hlast _ List.mem_cons_self)) fun call' hcall =>
      hlast call' (List.mem_cons_of_mem _ hcall)

end Cache

/-! ### Values and deadlines apart -/

/-- Values by their keys, in the order in which these were first written, and the deadlines of those
that have one. -/
structure SplitCache (τ : Type) where
  values : Fields := []
  deadlines : String → Option τ := fun _ => none

namespace SplitCache

/-- Remove a key from both maps. -/
def drop (s : SplitCache τ) (key : String) : SplitCache τ :=
  ⟨s.values.filter fun v => v.1 != key, Function.update s.deadlines key none⟩

/-- Remove a key whose deadline has been reached. -/
def expire (s : SplitCache τ) (now : τ) (key : String) : SplitCache τ :=
  match s.deadlines key with
  | some deadline => if deadline ≤ now then s.drop key else s
  | none => s

/-- Store a value, and then its deadline if there is one that can be shown. -/
def store (s : SplitCache τ) (now : τ) (key : String) (value : Json) (ttl : Option Quantity) :
    SplitCache τ where
  values := s.values.put key value
  deadlines :=
    match ttl with
    | none => Function.update s.deadlines key none
    | some ttl =>
      if ttl.isTooLarge then s.deadlines
      else Function.update s.deadlines key (some (now + Seconds.ofQuantity ttl))

/-- A call. -/
def call (s : SplitCache τ) (now : τ) : CacheCall → CacheAnswer (List String) × SplitCache τ
  | .get key =>
    let s := s.expire now key
    (.found (s.values.get? key), s)
  | .set key value ttl => (CacheAnswer.done.within ttl, s.store now key value ttl)
  | .setIfAbsent key value ttl =>
    let s := s.expire now key
    if (s.values.get? key).isSome then (.decided false, s)
    else ((CacheAnswer.decided true).within (some ttl), s.store now key value (some ttl))
  | .erase key => (.done, s.drop key)
  | .eraseIfEqual key value =>
    let s := s.expire now key
    match s.values.get? key with
    | some found =>
      if Json.same found value then (.decided true, s.drop key) else (.decided false, s)
    | none => (.decided false, s)
  | .scan pattern =>
    let s := (s.values.map Prod.fst).foldl (fun s key => s.expire now key) s
    (.listed ((s.values.map Prod.fst).filter (Text.KeyPattern.matches? pattern)), s)

end SplitCache

namespace Cache

variable {c : Cache τ} {now : τ}

/-- The values and the deadlines of a cache. -/
def split (c : Cache τ) : SplitCache τ where
  values := c.entries.map fun e => (e.1, e.2.value)
  deadlines key := (c.entry? key).bind CacheEntry.expiry

omit [Seconds τ] in
theorem get?_split (c : Cache τ) (key : String) :
    c.split.values.get? key = (c.entry? key).map CacheEntry.value := by
  rw [split, Fields.get?, entry?]
  induction c.entries with
  | nil => rfl
  | cons e rest ih =>
    rw [List.map_cons, List.lookup_cons, List.lookup_cons, ih]
    cases key == e.1 <;> rfl

omit [Seconds τ] in
theorem map_fst_split (c : Cache τ) : c.split.values.map Prod.fst = c.entries.map Prod.fst := by
  rw [split, List.map_map]
  rfl

omit [Seconds τ] in
theorem split_erase (c : Cache τ) (key : String) : (c.erase key).split = c.split.drop key := by
  have hvalues : (c.erase key).split.values = c.split.values.filter fun v => v.1 != key := by
    rw [split, split, erase, List.filter_map]
    rfl
  refine congrArg₂ SplitCache.mk hvalues (funext fun other => ?_)
  rw [entry?_erase, Function.update_apply]
  split <;> rfl

theorem split_dropExpired (c : Cache τ) (now : τ) (key : String) :
    (c.dropExpired now key).split = c.split.expire now key := by
  have hdeadline : c.split.deadlines key = (c.entry? key).bind CacheEntry.expiry := rfl
  rw [dropExpired, SplitCache.expire, hdeadline]
  cases c.entry? key with
  | none => rfl
  | some e =>
    cases hexpiry : e.expiry with
    | none => simp [expired, hexpiry]
    | some deadline =>
      by_cases hlong : deadline ≤ now <;> simp [expired, hexpiry, hlong, split_erase]

theorem split_set (c : Cache τ) (now : τ) (key : String) (value : Json) (ttl : Option Quantity) :
    (c.set now key value ttl).split = c.split.store now key value ttl := by
  have hvalues (entries : List (String × CacheEntry τ)) (e : CacheEntry τ) :
      (insert entries key e).map (fun e => (e.1, e.2.value)) =
        Fields.put (entries.map fun e => (e.1, e.2.value)) key e.value := by
    induction entries with
    | nil => rfl
    | cons head rest ih =>
      rw [insert, List.map_cons, Fields.put]
      split <;> simp [ih]
  refine congrArg₂ SplitCache.mk (hvalues c.entries _) (funext fun other => ?_)
  rw [entry?_set]
  cases ttl with
  | none => by_cases hother : other = key <;> simp [hother, split]
  | some ttl =>
    by_cases hother : other = key <;> cases hlarge : ttl.isTooLarge <;>
      simp [hother, expiry, hlarge, split]

/-- In a cache with one entry for each key, the entries that are dropped are those that have
expired. -/
theorem dropExpired_eq_filter (h : c.Keyed) (now : τ) (key : String) :
    c.dropExpired now key = ⟨c.entries.filter fun e => !(expired now e.2 && e.1 == key)⟩ := by
  have hfound : ∀ e ∈ c.entries, e.1 = key → c.entry? key = some e.2 := fun e he hkey =>
    hkey ▸ (lookup_eq_some_iff_mem h).mpr he
  have hkept (hkeeps : ∀ e ∈ c.entries, e.1 = key → expired now e.2 = false) :
      c = ⟨c.entries.filter fun e => !(expired now e.2 && e.1 == key)⟩ := by
    refine congrArg Cache.mk (List.filter_eq_self.mpr fun e he => ?_).symm
    by_cases hkey : e.1 = key
    · rw [hkeeps e he hkey]
      rfl
    · simp [hkey]
  rw [dropExpired]
  cases hentry : c.entry? key with
  | none => exact hkept fun e he hkey => by cases hentry.symm.trans (hfound e he hkey)
  | some entry =>
    have hsame : ∀ e ∈ c.entries, e.1 = key → e.2 = entry := fun e he hkey =>
      Option.some.inj ((hfound e he hkey).symm.trans hentry)
    cases hexpired : expired now entry with
    | false =>
      simp only [hexpired, Bool.false_eq_true, if_false]
      exact hkept fun e he hkey => hsame e he hkey ▸ hexpired
    | true =>
      simp only [hexpired, if_true]
      refine congrArg Cache.mk (List.filter_congr fun e he => ?_)
      by_cases hkey : e.1 = key
      · simp [hkey, hsame e he hkey, hexpired]
      · simp [hkey, bne]

theorem foldl_dropExpired (h : c.Keyed) (now : τ) (keys : List String) :
    keys.foldl (fun c key => c.dropExpired now key) c =
      ⟨c.entries.filter fun e => !(expired now e.2 && keys.contains e.1)⟩ := by
  induction keys generalizing c with
  | nil => simp
  | cons key rest ih =>
    rw [List.foldl_cons, ih (h.dropExpired now key), dropExpired_eq_filter h, List.filter_filter]
    refine congrArg Cache.mk (List.filter_congr fun e _ => ?_)
    rw [List.contains_cons]
    cases expired now e.2 <;> cases e.1 == key <;> simp

/-- A scan drops all keys whose deadlines have been reached, one after the other. -/
theorem split_scan (h : c.Keyed) (now : τ) (pattern : String) : (c.scan now pattern).2.split =
    (c.split.values.map Prod.fst).foldl (fun s key => s.expire now key) c.split := by
  have hdrops : (c.entries.map Prod.fst).foldl (fun c key => c.dropExpired now key) c =
      (c.scan now pattern).2 := by
    rw [foldl_dropExpired h]
    refine congrArg Cache.mk (List.filter_congr fun e he => ?_)
    have hmem : e.1 ∈ c.entries.map Prod.fst := List.mem_map_of_mem he
    simp [hmem]
  rw [← hdrops, map_fst_split]
  exact (List.foldl_hom split fun c key => (split_dropExpired c now key).symm).symm

/-- **One call with values and deadlines apart.** -/
theorem split_call (h : c.Keyed) (now : τ) (call : CacheCall) :
    c.split.call now call = ((c.call now call).1, (c.call now call).2.split) := by
  cases call with
  | get key =>
    rw [SplitCache.call, ← split_dropExpired, get?_split]
    rfl
  | set key value ttl =>
    rw [SplitCache.call, ← split_set]
    rfl
  | setIfAbsent key value ttl =>
    rw [SplitCache.call, Cache.call, setIfAbsent, ← split_dropExpired]
    dsimp only
    rw [get?_split]
    cases Cache.entry? (c.dropExpired now key) key with
    | none =>
      rw [← split_set]
      rfl
    | some e => rfl
  | erase key =>
    rw [SplitCache.call, ← split_erase]
    rfl
  | eraseIfEqual key value =>
    rw [SplitCache.call, Cache.call, eraseIfEqual, ← split_dropExpired]
    dsimp only
    rw [get?_split]
    cases Cache.entry? (c.dropExpired now key) key with
    | none => rfl
    | some e =>
      dsimp only [Option.map_some]
      cases Json.same e.value value with
      | true =>
        rw [if_pos rfl, ← split_erase]
        rfl
      | false => rfl
  | scan pattern =>
    rw [SplitCache.call, ← split_scan h now pattern, map_fst_split]
    rfl

/-- **All calls of a history with values and deadlines apart.** -/
theorem split_replay (h : c.Keyed) (calls : List (τ × CacheCall)) :
    replay SplitCache.call c.split calls =
      ((replay Cache.call c calls).1, (replay Cache.call c calls).2.split) := by
  induction calls generalizing c with
  | nil => rfl
  | cons first rest ih =>
    rw [replay, replay, split_call h, ih (h.call _ _)]

theorem Keyed.replay (h : c.Keyed) (calls : List (τ × CacheCall)) :
    (ChainRelay.replay Cache.call c calls).2.Keyed := by
  induction calls generalizing c with
  | nil => exact h
  | cons first rest ih => exact ih (h.call _ _)

end Cache

/-! ### What nobody sees -/

/-- What holds for a history of calls of a cache that is empty at first. -/
structure HidesExpiry (σ : Type) (calls : List (τ × CacheCall)) : Prop where
  /-- If the clock does not go back and can show all lifetimes, every call is answered as by a map
  from which entries vanish at their deadlines. -/
  answers : (calls.map Prod.fst).Pairwise (· ≤ ·) → (∀ call ∈ calls, call.2.IsShown) →
    (replay Cache.call {} calls).1.map (CacheAnswer.map keySet) =
      (replay EagerCache.step (fun _ => none) calls).1
  /-- What has not expired after that is what the map has left. -/
  live : (calls.map Prod.fst).Pairwise (· ≤ ·) → (∀ call ∈ calls, call.2.IsShown) →
    ∀ t, (∀ call ∈ calls, call.1 ≤ t) → ∀ key, (replay Cache.call {} calls).2.live? t key =
      (replay EagerCache.step (fun _ => none) calls).2.leftAt t key
  /-- With values and deadlines in a map of their own each, all answers are the same, and no key has
  a deadline but no value. -/
  inStep : (replay SplitCache.call {} calls).1 = (replay Cache.call {} calls).1 ∧
    ∀ key deadline, (replay SplitCache.call {} calls).2.deadlines key = some deadline →
      ((replay SplitCache.call {} calls).2.values.get? key).isSome = true
  /-- A scan for a space lists the keys of the space that have not expired, each of them once. -/
  spaces : ∀ (t : τ) (space : String), Text.KeyPattern.IsPlain space →
    ((replay Cache.call {} calls).2.scan t (space ++ ":*")).1.Nodup ∧
      ∀ key, key ∈ ((replay Cache.call {} calls).2.scan t (space ++ ":*")).1 ↔
        (replay Cache.call {} calls).2.live? t key ≠ none ∧
          (space ++ ":").toList <+: key.toList
  /-- The queue of pending broadcasts misses no broadcast and lists no lock. -/
  broadcasts : ∀ (q : BroadcastQueue) (w : World σ τ), Text.KeyPattern.IsPlain q.space →
    w.cache = (replay Cache.call {} calls).2 → ∃ keys w', q.keys w = (.ok keys, w') ∧
      (∀ id, q.keyOf id ∈ keys ↔ w.cache.live? w.monoNow (q.keyOf id) ≠ none) ∧
      (¬ "lock".toList <+: q.space.toList → ∀ name, Work.lockKey name ∉ keys)

namespace Cache

/-- **Nobody sees when an entry is dropped.** -/
theorem lazyExpiry_hidden [IsTrans τ (· ≤ ·)] (σ : Type) (calls : List (τ × CacheCall)) :
    HidesExpiry σ calls := by
  have hkeyed : (replay Cache.call ({} : Cache τ) calls).2.Keyed :=
    keyed_empty.replay calls
  have hsplit : replay SplitCache.call ({} : SplitCache τ) calls =
      ((replay Cache.call {} calls).1, (replay Cache.call {} calls).2.split) :=
    split_replay keyed_empty calls
  refine ⟨fun htimes hshown => ?_, fun htimes hshown t hlast => ?_, ?_, fun t space hplain => ?_,
    fun q w hplain hcache => ?_⟩
  · exact (reflects_replay (fun call _ => reflects_empty call.1) htimes hshown).1
  · exact ((reflects_replay (fun call _ => reflects_empty call.1) htimes hshown).2 t
      (reflects_empty t) hlast).live
  · rw [hsplit]
    refine ⟨rfl, fun key deadline hdeadline => ?_⟩
    obtain ⟨e, he, -⟩ := Option.bind_eq_some_iff.mp hdeadline
    rw [get?_split, he]
    rfl
  · exact ⟨nodup_scan hkeyed t _, mem_scan_space_iff hkeyed hplain t⟩
  · rw [← hcache] at hkeyed
    exact ⟨_, _, q.keys_apply w, BroadcastQueue.keyOf_mem_listed_iff hkeyed hplain,
      BroadcastQueue.lockKey_not_mem_listed hkeyed hplain⟩

/-- A pending broadcast, and a lock that is taken over after it has expired. -/
def takenOver : List (Rat × CacheCall) := [
  (0, .set "pendingBroadcast:b-1" (.str "b") (some 600)),
  (1, .setIfAbsent "lock:job" (.str "first") 5),
  (6, .setIfAbsent "lock:job" (.str "second") 5),
  (8, .scan "pendingBroadcast:*")]

theorem lazyExpiry_hidden_takenOver : IsTrans Rat (· ≤ ·) ∧
    (takenOver.map Prod.fst).Pairwise (· ≤ ·) ∧ (∀ call ∈ takenOver, call.2.IsShown) ∧
    ((replay Cache.call {} takenOver).2.entries.map fun e => (e.1, e.2.expiry)) =
      [("pendingBroadcast:b-1", some 600), ("lock:job", some 11)] ∧
    HidesExpiry Unit takenOver := by
  have htrans : IsTrans Rat (· ≤ ·) := ⟨fun _ _ _ => Rat.le_trans⟩
  exact ⟨htrans, by decide +kernel, by decide +kernel, by decide +kernel,
    lazyExpiry_hidden Unit takenOver⟩

/-- A value whose lifetime cannot be shown takes over the deadline of the entry that was there. -/
theorem get_set_of_large {ttl : Quantity} (hlarge : ttl.isTooLarge = true) (c : Cache τ)
    (now : τ) (key : String) (value : Json) :
    ((c.set now key value (some ttl)).get now key).1 =
      if (c.entry? key).any (expired now) then none else some value := by
  have hdeadline : (some ttl).bind (c.expiry now key) = (c.entry? key).bind CacheEntry.expiry := by
    rw [Option.bind_some, expiry, hlarge, if_pos rfl]
  rw [get_fst, live?, entry?_set, if_pos rfl, hdeadline]
  cases c.entry? key with
  | none => rfl
  | some e =>
    have hsame : expired now ⟨value, e.expiry⟩ = expired now e := rfl
    cases hexpired : expired now e <;> simp [Option.filter, hsame, hexpired]

/-- **A lifetime that no clock can show.** Whatever a map without expired entries might do with it,
it cannot tell a cache that has dropped an expired entry from one that has not. -/
theorem lazyExpiry_shows : ¬ ∃ act : EagerCache Rat → Rat → CacheCall →
      CacheAnswer (Set String) × EagerCache Rat,
    (∀ m t call, call.IsShown → act m t call = m.call t call) ∧
    ∀ calls : List (Rat × CacheCall), (calls.map Prod.fst).Pairwise (· ≤ ·) →
      (replay Cache.call {} calls).1.map (CacheAnswer.map keySet) =
        (replay (fun m t call => act (m.leftAt t) t call) (fun _ => none) calls).1 := by
  rintro ⟨act, hshown, hall⟩
  have hlarge : (Quantity.whole (10 ^ 400)).isTooLarge = true := by decide +kernel
  generalize Quantity.whole (10 ^ 400) = ttl at hlarge
  have htimes : List.Pairwise (· ≤ ·) [(0 : Rat), 20, 20, 20] := by decide +kernel
  have htimes' : List.Pairwise (· ≤ ·) [(0 : Rat), 20, 20] := by decide +kernel
  have hlooked := hall [(0, .set "k" (.str "a") (some 10)), (20, .get "k"),
    (20, .set "k" (.str "b") (some ttl)), (20, .get "k")] htimes
  have hunlooked := hall [(0, .set "k" (.str "a") (some 10)),
    (20, .set "k" (.str "b") (some ttl)), (20, .get "k")] htimes'
  -- a look at what has vanished changes nothing in the map
  have hsame (m : EagerCache Rat) :
      (act (m.leftAt 20) 20 (.get "k")).2.leftAt 20 = m.leftAt 20 := by
    rw [hshown _ _ (.get "k") (by decide)]
    exact m.leftAt_leftAt 20
  simp only [replay, Cache.call, CacheAnswer.map, hsame, List.map_cons, List.cons.injEq]
    at hlooked hunlooked
  obtain ⟨-, -, -, hseen, -⟩ := hlooked
  obtain ⟨-, -, hunseen, -⟩ := hunlooked
  have hexpired : (Cache.entry? (Cache.set {} 0 "k" (.str "a") (some 10)) "k").any
      (expired (20 : Rat)) = true := by decide +kernel
  have hdropped : (Cache.entry? (get (Cache.set {} 0 "k" (.str "a") (some 10)) 20 "k").2 "k").any
      (expired (20 : Rat)) = false := by decide +kernel
  rw [get_set_of_large hlarge, hdropped] at hseen
  rw [get_set_of_large hlarge, hexpired] at hunseen
  cases hseen.trans hunseen.symm

end Cache

end

end ChainRelay
