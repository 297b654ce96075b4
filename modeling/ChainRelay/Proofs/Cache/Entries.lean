import ChainRelay.Cache
import Mathlib.Data.List.Nodup

/-!
# What operations do to entries

Every operation of the cache treats each key on its own. What it does to the entry of a key is said
by one equation, in which an entry that has expired counts as none.

## Main definitions

* `Cache.live?` — the entry of a key, if it has not expired
* `Cache.others` — the entries of all other keys
* `Cache.Keyed` — every key has one entry

## Main results

* `Cache.entry?_get`, `entry?_scan`, `entry?_set`, `entry?_setIfAbsent`, `entry?_eraseIfEqual` — the
  entries that an operation leaves
* `Cache.setIfAbsent_eq_false` — a value that is not set changes nothing
-/

namespace ChainRelay.Cache

variable {τ : Type} [Seconds τ] {c : Cache τ} {now : τ} {key other : String} {value : Json}
  {ttl : Quantity}

/-- The entry of a key, if it has not expired. -/
def live? (c : Cache τ) (now : τ) (key : String) : Option (CacheEntry τ) :=
  (c.entry? key).filter fun e => !expired now e

/-- An entry with a deadline is there until then. -/
theorem live?_of_deadline {deadline : τ} (h : c.entry? key = some ⟨value, some deadline⟩)
    (now : τ) : c.live? now key = if deadline ≤ now then none else c.entry? key := by
  have hexpired : expired now ⟨value, some deadline⟩ = decide (deadline ≤ now) := rfl
  rw [live?, h, Option.filter, hexpired]
  by_cases hlong : deadline ≤ now <;> simp [hlong]

/-! ### One operation after the other -/

omit [Seconds τ] in
theorem lookup_filter_key (entries : List (String × CacheEntry τ)) (p : String → Bool)
    (key : String) :
    (entries.filter fun e => p e.1).lookup key = if p key then entries.lookup key else none := by
  induction entries with
  | nil => simp
  | cons head rest ih =>
    obtain ⟨k, e⟩ := head
    by_cases hk : key = k
    · subst hk
      cases hp : p key <;> simp [hp, ih]
    · have hmiss : (key == k) = false := beq_eq_false_iff_ne.mpr hk
      cases hp : p k <;> simp [hp, ih, List.lookup_cons, hmiss]

omit [Seconds τ] in
theorem entry?_erase (c : Cache τ) (key other : String) :
    Cache.entry? (c.erase key) other = if other = key then none else c.entry? other := by
  refine (lookup_filter_key c.entries (fun k => k != key) other).trans ?_
  by_cases h : other = key <;> simp [h, entry?]

theorem entry?_dropExpired (c : Cache τ) (now : τ) (key other : String) :
    Cache.entry? (c.dropExpired now key) other =
      if other = key then c.live? now key else c.entry? other := by
  rw [dropExpired, live?]
  cases hentry : c.entry? key with
  | none =>
    by_cases h : other = key
    · rw [if_pos h, h, hentry]
      rfl
    · rw [if_neg h]
  | some e =>
    cases hexpired : expired now e with
    | true => simp [hexpired, entry?_erase, Option.filter]
    | false =>
      by_cases h : other = key
      · simp [hexpired, h, hentry, Option.filter]
      · simp [hexpired, h]

theorem entry?_dropExpired_self (c : Cache τ) (now : τ) (key : String) :
    Cache.entry? (c.dropExpired now key) key = c.live? now key := by
  rw [entry?_dropExpired, if_pos rfl]

theorem entry?_set (c : Cache τ) (now : τ) (key : String) (value : Json) (ttl : Option Quantity)
    (other : String) : Cache.entry? (c.set now key value ttl) other =
      if other = key then some ⟨value, ttl.bind (c.expiry now key)⟩ else c.entry? other :=
  lookup_insert c.entries key other _

theorem entry?_get (c : Cache τ) (now : τ) (key other : String) :
    Cache.entry? (c.get now key).2 other =
      if other = key then c.live? now key else c.entry? other :=
  entry?_dropExpired c now key other

theorem get_fst (c : Cache τ) (now : τ) (key : String) :
    (c.get now key).1 = (c.live? now key).map CacheEntry.value := by
  rw [get]
  dsimp only
  rw [entry?_dropExpired_self]

/-- A value is set if the key has none. -/
theorem setIfAbsent_fst (c : Cache τ) (now : τ) (key : String) (value : Json) (ttl : Quantity) :
    (c.setIfAbsent now key value ttl).1 = (c.live? now key).isNone := by
  rw [setIfAbsent, entry?_dropExpired_self]
  cases c.live? now key <;> rfl

/-- A value that is not set changes nothing. -/
theorem setIfAbsent_eq_false (h : (c.setIfAbsent now key value ttl).1 = false) :
    c.setIfAbsent now key value ttl = (false, c) := by
  rw [setIfAbsent_fst] at h
  cases hlive : c.live? now key with
  | none =>
    rw [hlive] at h
    cases h
  | some e =>
    rw [live?, Option.filter_eq_some_iff] at hlive
    obtain ⟨hfound, hlasts⟩ := hlive
    have hkept : c.dropExpired now key = c := by
      rw [dropExpired, hfound]
      simp at hlasts
      simp [hlasts]
    rw [setIfAbsent, hkept, hfound]

/-- The entries when a value has been set that the key had none of. -/
theorem entry?_setIfAbsent (h : (c.setIfAbsent now key value ttl).1 = true) (other : String) :
    Cache.entry? (c.setIfAbsent now key value ttl).2 other =
      if other = key then
        some ⟨value, if ttl.isTooLarge then none else some (now + Seconds.ofQuantity ttl)⟩
      else c.entry? other := by
  have hnone : Cache.entry? (c.dropExpired now key) key = none := by
    rw [entry?_dropExpired_self]
    rw [setIfAbsent_fst] at h
    exact Option.isNone_iff_eq_none.mp h
  rw [setIfAbsent, hnone]
  dsimp only
  rw [entry?_set, Option.bind_some, expiry, hnone]
  by_cases hkey : other = key
  · rw [if_pos hkey, if_pos hkey]
    rfl
  · rw [if_neg hkey, if_neg hkey, entry?_dropExpired, if_neg hkey]

/-- A value is removed if the key has it. -/
theorem eraseIfEqual_fst (c : Cache τ) (now : τ) (key : String) (value : Json) :
    (c.eraseIfEqual now key value).1 =
      (c.live? now key).any fun e => Json.same e.value value := by
  rw [eraseIfEqual, entry?_dropExpired_self]
  cases c.live? now key with
  | none => rfl
  | some e => cases hsame : Json.same e.value value <;> simp [hsame]

/-- The entries when a value has been removed if the key had it. -/
theorem entry?_eraseIfEqual (c : Cache τ) (now : τ) (key : String) (value : Json)
    (other : String) : Cache.entry? (c.eraseIfEqual now key value).2 other =
      if other = key then (c.live? now key).filter fun e => !Json.same e.value value
      else c.entry? other := by
  have hentry := entry?_dropExpired c now key
  rw [eraseIfEqual, hentry, if_pos rfl]
  cases hlive : c.live? now key with
  | none =>
    dsimp only
    rw [hentry, hlive]
    rfl
  | some e =>
    dsimp only
    cases hsame : Json.same e.value value with
    | true =>
      rw [if_pos rfl, entry?_erase, hentry]
      by_cases hkey : other = key <;> simp [hkey, hsame, Option.filter]
    | false =>
      rw [if_neg Bool.false_ne_true, hentry, hlive]
      by_cases hkey : other = key <;> simp [hkey, hsame, Option.filter]

/-! ### Other keys -/

/-- The entries of all other keys, in their order. -/
def others (c : Cache τ) (key : String) : List (String × CacheEntry τ) :=
  c.entries.filter fun e => e.1 != key

omit [Seconds τ] in
theorem others_insert (entries : List (String × CacheEntry τ)) (key : String) (e : CacheEntry τ) :
    others ⟨insert entries key e⟩ key = others ⟨entries⟩ key := by
  rw [others, others]
  induction entries with
  | nil => simp [insert]
  | cons head rest ih =>
    obtain ⟨k, old⟩ := head
    rw [insert]
    split
    · simp [*]
    · simp only [List.filter_cons, ih]

omit [Seconds τ] in
theorem others_erase (c : Cache τ) (key : String) : (c.erase key).others key = c.others key := by
  rw [others, others, erase, List.filter_filter]
  simp only [Bool.and_self]

theorem others_dropExpired (c : Cache τ) (now : τ) (key : String) :
    (c.dropExpired now key).others key = c.others key := by
  rw [dropExpired]
  split
  · split
    · exact c.others_erase key
    · rfl
  · rfl

omit [Seconds τ] in
theorem entry?_eq_of_others {c' : Cache τ} (h : c'.others key = c.others key)
    (hother : other ≠ key) : c'.entry? other = c.entry? other := by
  have hfound (c : Cache τ) : (c.others key).lookup other = c.entry? other := by
    refine (lookup_filter_key c.entries (fun k => k != key) other).trans ?_
    rw [if_pos (by simpa using hother)]
    rfl
  rw [← hfound, ← hfound, h]

/-- Setting a value leaves all other keys alone. -/
theorem others_setIfAbsent (c : Cache τ) (now : τ) (key : String) (value : Json) (ttl : Quantity) :
    (c.setIfAbsent now key value ttl).2.others key = c.others key := by
  rw [setIfAbsent]
  split
  · exact c.others_dropExpired now key
  · exact (others_insert _ key _).trans (c.others_dropExpired now key)

/-- Removing a value leaves all other keys alone. -/
theorem others_eraseIfEqual (c : Cache τ) (now : τ) (key : String) (value : Json) :
    (c.eraseIfEqual now key value).2.others key = c.others key := by
  rw [eraseIfEqual]
  split
  · split
    · exact (others_erase _ key).trans (c.others_dropExpired now key)
    · exact c.others_dropExpired now key
  · exact c.others_dropExpired now key

/-! ### Keys -/

/-- Every key has one entry. -/
def Keyed (c : Cache τ) : Prop := (c.entries.map Prod.fst).Nodup

omit [Seconds τ] in
theorem keyed_empty : Keyed ({} : Cache τ) := List.nodup_nil

omit [Seconds τ] in
theorem keyed_filter (h : c.Keyed) (p : String × CacheEntry τ → Bool) :
    Keyed ⟨c.entries.filter p⟩ :=
  List.Nodup.sublist (List.filter_sublist.map Prod.fst) h

omit [Seconds τ] in
theorem fst_mem_insert {entries : List (String × CacheEntry τ)} {e : CacheEntry τ}
    (h : other ∈ (insert entries key e).map Prod.fst) :
    other = key ∨ other ∈ entries.map Prod.fst := by
  induction entries with
  | nil => exact .inl (List.mem_singleton.mp h)
  | cons head rest ih =>
    obtain ⟨k, old⟩ := head
    rw [insert] at h
    split at h
    · exact .inr h
    · rcases List.mem_cons.mp h with h | h
      · exact .inr (List.mem_cons.mpr (.inl h))
      · exact (ih h).imp id fun h => List.mem_cons_of_mem _ h

omit [Seconds τ] in
theorem keyed_insert {entries : List (String × CacheEntry τ)} (h : (entries.map Prod.fst).Nodup)
    (key : String) (e : CacheEntry τ) : ((insert entries key e).map Prod.fst).Nodup := by
  induction entries with
  | nil => exact List.nodup_singleton key
  | cons head rest ih =>
    obtain ⟨k, old⟩ := head
    obtain ⟨hk, hrest⟩ := List.nodup_cons.mp h
    rw [insert]
    split
    · exact h
    · rename_i hne
      refine List.nodup_cons.mpr ⟨fun hmem => ?_, ih hrest⟩
      rcases fst_mem_insert hmem with heq | hmem
      · exact hne heq
      · exact hk hmem

theorem Keyed.set (h : c.Keyed) (now : τ) (key : String) (value : Json) (ttl : Option Quantity) :
    (c.set now key value ttl).Keyed :=
  keyed_insert h key _

omit [Seconds τ] in
theorem Keyed.erase (h : c.Keyed) (key : String) : (c.erase key).Keyed := keyed_filter h _

theorem Keyed.dropExpired (h : c.Keyed) (now : τ) (key : String) :
    (c.dropExpired now key).Keyed := by
  rw [Cache.dropExpired]
  cases c.entry? key with
  | none => exact h
  | some e =>
    dsimp only
    split
    · exact h.erase key
    · exact h

theorem Keyed.get (h : c.Keyed) (now : τ) (key : String) : (c.get now key).2.Keyed :=
  h.dropExpired now key

theorem Keyed.scan (h : c.Keyed) (now : τ) (pattern : String) : (c.scan now pattern).2.Keyed :=
  keyed_filter h _

theorem Keyed.setIfAbsent (h : c.Keyed) (now : τ) (key : String) (value : Json) (ttl : Quantity) :
    (c.setIfAbsent now key value ttl).2.Keyed := by
  rw [Cache.setIfAbsent]
  split
  · exact h.dropExpired now key
  · exact (h.dropExpired now key).set now key value _

theorem Keyed.eraseIfEqual (h : c.Keyed) (now : τ) (key : String) (value : Json) :
    (c.eraseIfEqual now key value).2.Keyed := by
  rw [Cache.eraseIfEqual]
  split
  · split
    · exact (h.dropExpired now key).erase key
    · exact h.dropExpired now key
  · exact h.dropExpired now key

/-- What stands first under its key is all that stands there, if each key stands once. -/
theorem lookup_eq_some_iff_mem {α : Type} {entries : List (String × α)}
    (h : (entries.map Prod.fst).Nodup) {value : α} :
    entries.lookup key = some value ↔ (key, value) ∈ entries := by
  induction entries with
  | nil => simp
  | cons head rest ih =>
    obtain ⟨k, e⟩ := head
    obtain ⟨hk, hrest⟩ := List.nodup_cons.mp h
    by_cases hkey : key = k
    · subst hkey
      have hmiss : (key, value) ∉ rest := fun hmem => hk (List.mem_map.mpr ⟨_, hmem, rfl⟩)
      simp [hmiss, eq_comm]
    · simp [List.lookup_cons, beq_eq_false_iff_ne.mpr hkey, hkey, ih hrest]

omit [Seconds τ] in
theorem lookup_filter {entries : List (String × CacheEntry τ)} (p : CacheEntry τ → Bool)
    (h : (entries.map Prod.fst).Nodup) (key : String) :
    (entries.filter fun e => p e.2).lookup key = (entries.lookup key).filter p := by
  have hfiltered : ((entries.filter fun e => p e.2).map Prod.fst).Nodup :=
    h.sublist (List.filter_sublist.map Prod.fst)
  refine Option.ext fun e => ?_
  rw [lookup_eq_some_iff_mem hfiltered, List.mem_filter, Option.filter_eq_some_iff,
    lookup_eq_some_iff_mem h]

/-- A scan drops what has expired. -/
theorem entry?_scan (h : c.Keyed) (now : τ) (pattern : String) (key : String) :
    Cache.entry? (c.scan now pattern).2 key = c.live? now key :=
  lookup_filter (fun e => !expired now e) h key

end ChainRelay.Cache
