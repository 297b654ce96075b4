import ChainRelay.Json.Same
import ChainRelay.Text.KeyPattern
import ChainRelay.Time.Seconds

/-!
# The cache

Values by key, some of which expire. An entry that has expired is dropped when its key is next
looked at; a scan looks at all keys. Entries keep the order in which their keys were first written.
-/

namespace ChainRelay

/-- A cached value and the reading of the clock at which it expires, if it does. -/
structure CacheEntry (τ : Type) where
  value : Json
  expiry : Option τ

/-- The cache: entries by key. -/
structure Cache (τ : Type) where
  entries : List (String × CacheEntry τ) := []

namespace Cache

variable {τ : Type} [Seconds τ]

/-- Whether an entry has expired. -/
def expired (now : τ) (e : CacheEntry τ) : Bool :=
  match e.expiry with
  | none => false
  | some deadline => decide (deadline ≤ now)

/-- The entry of a key, expired or not. -/
def entry? (c : Cache τ) (key : String) : Option (CacheEntry τ) := c.entries.lookup key

/-- Remove a key. -/
def erase (c : Cache τ) (key : String) : Cache τ := ⟨c.entries.filter fun e => e.1 != key⟩

/-- Drop the entry of a key if it has expired. -/
def dropExpired (c : Cache τ) (now : τ) (key : String) : Cache τ :=
  match c.entry? key with
  | some e => if expired now e then c.erase key else c
  | none => c

/-- Set the entry of a key in a list of entries: a known key keeps its place. -/
def insert : List (String × CacheEntry τ) → String → CacheEntry τ → List (String × CacheEntry τ)
  | [], key, e => [(key, e)]
  | (k, old) :: rest, key, e =>
    if k = key then (k, e) :: rest else (k, old) :: insert rest key e

omit [Seconds τ] in
theorem lookup_insert (entries : List (String × CacheEntry τ)) (key other : String)
    (e : CacheEntry τ) :
    (insert entries key e).lookup other = if other = key then some e else entries.lookup other := by
  have miss {a b : String} (h : a ≠ b) : (a == b) = false := beq_eq_false_iff_ne.mpr h
  induction entries with
  | nil => by_cases h : other = key <;> simp [insert, List.lookup_cons, h, miss]
  | cons head rest ih =>
    obtain ⟨k, old⟩ := head
    by_cases hk : k = key
    · subst hk
      by_cases h : other = k <;> simp [insert, List.lookup_cons, h, miss]
    · by_cases h : other = k
      · simp [insert, hk, h]
      · simp [insert, List.lookup_cons, hk, miss h, ih]

/-- When a value expires that is set for `ttl` seconds. A number of seconds that no clock can show
leaves things as they were. -/
def expiry (c : Cache τ) (now : τ) (key : String) (ttl : Quantity) : Option τ :=
  if ttl.isTooLarge then (c.entry? key).bind CacheEntry.expiry
  else some (now + Seconds.ofQuantity ttl)

/-- Set a value, for `ttl` seconds if that is given. -/
def set (c : Cache τ) (now : τ) (key : String) (value : Json) (ttl : Option Quantity) : Cache τ :=
  ⟨insert c.entries key ⟨value, ttl.bind (c.expiry now key)⟩⟩

/-- The value of a key. -/
def get (c : Cache τ) (now : τ) (key : String) : Option Json × Cache τ :=
  let c := c.dropExpired now key
  ((c.entry? key).map CacheEntry.value, c)

/-- Set a value unless the key has one, and say whether it was set. -/
def setIfAbsent (c : Cache τ) (now : τ) (key : String) (value : Json) (ttl : Quantity) :
    Bool × Cache τ :=
  let c := c.dropExpired now key
  match c.entry? key with
  | some _ => (false, c)
  | none => (true, c.set now key value (some ttl))

/-- Remove a key if it has this value, and say whether it had. -/
def eraseIfEqual (c : Cache τ) (now : τ) (key : String) (value : Json) : Bool × Cache τ :=
  let c := c.dropExpired now key
  match c.entry? key with
  | some e => if Json.same e.value value then (true, c.erase key) else (false, c)
  | none => (false, c)

/-- The keys that match a pattern. -/
def scan (c : Cache τ) (now : τ) (pattern : String) : List String × Cache τ :=
  let c : Cache τ := ⟨c.entries.filter fun e => !expired now e.2⟩
  ((c.entries.map Prod.fst).filter (Text.KeyPattern.matches? pattern), c)

end Cache

end ChainRelay
