import ChainRelay.Broadcast.Basic
import ChainRelay.World.Basic

/-!
# The queue of pending broadcasts

Pending broadcasts live in the cache, each under its own key; a present key means that the
broadcast is pending. Each write renews the time to live.
-/

namespace ChainRelay

/-- Where pending broadcasts are kept, and for how many seconds. -/
structure BroadcastQueue where
  space : String := "pendingBroadcast"
  ttl : Quantity := 600
  deriving Inhabited

namespace BroadcastQueue

variable {σ τ : Type} [Seconds τ]

/-- The key of an item. -/
def keyOf (q : BroadcastQueue) (id : String) : String := q.space ++ ":" ++ id

/-- Write the item of a key. -/
def put (q : BroadcastQueue) (key : String) (item : PendingBroadcast) : Work σ τ Unit := do
  Work.withCache fun c t => ((), c.set t key item.toJson (some q.ttl))
  Work.ofExcept q.ttl.check

/-- The item of a key. -/
def get? (key : String) : Work σ τ (Option PendingBroadcast) := do
  match ← Work.withCache fun c t => c.get t key with
  | none | some .null => return none
  | some value => return some (← Work.ofExcept (PendingBroadcast.ofJson value))

/-- The keys of all pending broadcasts. -/
def keys (q : BroadcastQueue) : Work σ τ (List String) :=
  Work.withCache fun c t => c.scan t (q.space ++ ":*")

/-- Remove a key. -/
def erase (key : String) : Work σ τ Unit :=
  Work.withCache fun c _ => ((), c.erase key)

end BroadcastQueue

end ChainRelay
