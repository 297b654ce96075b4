import ChainRelay.World.Basic

/-!
# Working on the durable queue

Upserts, and batches: claim, let a handler work, commit its result, release. The rows are released
whatever happens in between; a fault, a reached time limit or an unsound result leaves all rows as
they were.
-/

namespace ChainRelay.Work

variable {σ τ : Type}

/-- Write an item. -/
def upsert (item : WorkItem) : Work σ τ Upserted :=
  fun w =>
    let (answer, store) := w.store.upsert w.wallNow item
    let trace := if w.store.writes item then w.trace ++ [.stored item.rowKey] else w.trace
    (.ok answer, { w with store, trace })

/-- Write items, one after the other. -/
def upsertAll (items : List WorkItem) : Work σ τ (List Upserted) := items.mapM upsert

/-- The item of a key. -/
def itemOf? (family : Family) (key : String) : Work σ τ (Option WorkItem) := do
  return (← get).store.get? family key

/-- How a batch is worked off. -/
structure BatchOrder where
  family : Family
  size : Int
  timeout : Quantity
  backoff : Backoff

/-- Claim a batch. Nothing is claimed if the rest of a row cannot be told. -/
def claimBatch (order : BatchOrder) : Work σ τ (List WorkItem) :=
  fun w =>
    match w.store.checkRests order.family order.backoff w.wallNow with
    | .error fault => (.error (.fault fault), w)
    | .ok () =>
      let (claimed, store) := w.store.claim order.family order.size order.backoff w.wallNow
      (.ok claimed, { w with store })

/-- Commit the result of a batch. -/
def commitBatch (order : BatchOrder) (claimed results : List WorkItem) : Work σ τ Unit :=
  fun w =>
    match w.store.commit order.family claimed results w.wallNow with
    | .error fault => (.error (.fault fault), w)
    | .ok store =>
      let keys := results.map WorkItem.key
      let written := keys.map fun key => Event.stored (order.family, key)
      (.ok (), { w with store, trace := w.trace ++ written ++ [.committed order.family keys] })

/-- Release the rows of a batch. -/
def releaseBatch (claimed : List WorkItem) : Work σ τ Unit :=
  modify fun w => { w with store := w.store.release claimed }

/-- Work on a claimed batch and commit the result. A timeout that the handler meets counts as one
of the batch. -/
def handleBatch [Seconds τ] (order : BatchOrder)
    (handler : List WorkItem → Work σ τ (List WorkItem)) (claimed : List WorkItem) :
    Work σ τ (List WorkItem) := do
  match ← attempt (withTimeout order.timeout (handler claimed)) with
  | .ok (some results) =>
    commitBatch order claimed results
    return results
  | .ok none => fail (.queueTimeout order.family order.timeout)
  | .error (.timeout _) => fail (.queueTimeout order.family order.timeout)
  | .error fault => fail fault

/-- Claim a batch, work on it and commit the result. -/
def processPending [Seconds τ] (order : BatchOrder)
    (handler : List WorkItem → Work σ τ (List WorkItem)) : Work σ τ (List WorkItem) := do
  let claimed ← claimBatch order
  andFinally (handleBatch order handler claimed) (releaseBatch claimed)

end ChainRelay.Work
