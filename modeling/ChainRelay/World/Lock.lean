import ChainRelay.Text.Ulid
import ChainRelay.World.Basic

/-!
# Single flight

A named lock in the shared cache. Whoever finds it busy leaves at once; whoever gets it removes it
in the end, but only while it still holds the own token, so that a lock that has expired and was
taken by somebody else stays.
-/

namespace ChainRelay.Work

variable {σ τ : Type} [Seconds τ]

/-- The cache key of a lock. -/
def lockKey (name : String) : String := "lock:" ++ name

/-- A token that no other lock holds. -/
def freshToken : Work σ τ String :=
  fun w => (.ok (Text.Ulid.lockToken w.tokens), { w with tokens := w.tokens + 1 })

/-- Give a lock back. -/
def unlock (name token : String) (ttl : Quantity) : Work σ τ Unit := do
  let released ← withCache fun c t => c.eraseIfEqual t (lockKey name) (.str token)
  unless released do
    log {
      level := .warning, logger := "relayer.lock"
      message := "lock expired before the run finished, ttl " ++ toString ttl.truncated ++ "s"
      context := [("job", .str name)] }

/-- Do something under a lock of so many seconds, unless the lock is busy. -/
def underLock (name : String) (ttl : Quantity) (work : Work σ τ Unit) : Work σ τ Bool := do
  let token ← freshToken
  let acquired ← withCache fun c t => c.setIfAbsent t (lockKey name) (.str token) ttl
  if acquired then
    ofExcept ttl.check
    andFinally work (unlock name token ttl)
    return true
  else return false

end ChainRelay.Work
