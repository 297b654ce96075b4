import ChainRelay.WorkItem.Lifecycle

/-!
# The durable queue

Rows of work items with the operations of the queue: writing an item, claiming a batch of eligible
rows, committing the result of a batch, and releasing its rows. A batch is worked on between its
claim and its release; other operations may come in between, so each step is a function of its own.

## The claim contract

Rows that are claimed are locked until they are released, and a locked row is passed over by other
claims. A commit checks the whole result before it writes any row. Rows are never removed, and a
row that has succeeded or failed is never written again by an upsert or a well-behaved commit.

## Implementation notes

Rows are kept in the order in which they were first written, which is the order of their numbers.
-/

namespace ChainRelay

/-- What identifies a row. -/
abbrev RowKey := Family × String

/-- The key of an item's row. -/
def WorkItem.rowKey (item : WorkItem) : RowKey := (item.family, item.key)

/-- A row: an item with its number. -/
structure Row where
  item : WorkItem
  number : Nat
  deriving Inhabited

/-- The durable queue. -/
structure Store where
  rows : List Row := []
  /-- The rows held by batches in progress. -/
  locked : List RowKey := []
  /-- The committed batches with the keys of their results. -/
  commits : List (Family × List String) := []
  /-- The number of the next row. -/
  next : Nat := 0
  deriving Inhabited

namespace Store

/-- The row of a key. -/
def row? (s : Store) (key : RowKey) : Option Row :=
  s.rows.find? fun r => r.item.rowKey == key

/-- The item of a key. -/
def get? (s : Store) (family : Family) (key : String) : Option WorkItem :=
  (s.row? (family, key)).map Row.item

/-- Change the item of one row. -/
def update (s : Store) (key : RowKey) (change : WorkItem → WorkItem) : Store :=
  { s with rows := s.rows.map fun r =>
      if r.item.rowKey == key then { r with item := change r.item } else r }

/-- Write an item. A new one becomes a row as it is; of a known pending one only the payload is
taken over; one that is finished is left alone. -/
def upsert (s : Store) (now : Instant) (item : WorkItem) : Upserted × Store :=
  match s.row? item.rowKey with
  | none =>
    let created := { item with
      createdAt := some (item.createdAt.getD now)
      updatedAt := some (item.updatedAt.getD now) }
    (⟨item.key, item.status, true⟩,
      { s with rows := s.rows ++ [⟨created, s.next⟩], next := s.next + 1 })
  | some row =>
    if row.item.status.isTerminal then (⟨item.key, row.item.status, false⟩, s)
    else
      (⟨item.key, row.item.status, false⟩,
        s.update item.rowKey fun i => { i with payload := item.payload, updatedAt := some now })

/-- Whether an upsert of an item writes its row. -/
def writes (s : Store) (item : WorkItem) : Bool :=
  match s.row? item.rowKey with
  | none => true
  | some row => !row.item.status.isTerminal

/-! ### Claims -/

/-- Whether a row waits to be claimed. -/
def waiting (s : Store) (family : Family) (r : Row) : Bool :=
  r.item.family == family && !s.locked.contains r.item.rowKey && r.item.status == .pending

/-- Whether a row can be claimed now. -/
def claimable (s : Store) (family : Family) (backoff : Backoff) (now : Instant) (r : Row) : Bool :=
  s.waiting family r && backoff.eligible r.item.retry (r.item.updatedAt.getD now) now

/-- Check that the rests of all rows that wait can be counted back from now. -/
def checkRests (s : Store) (family : Family) (backoff : Backoff) (now : Instant) :
    Except Fault Unit :=
  (s.rows.filter (s.waiting family)).forM fun r => backoff.check r.item.retry now

/-- The order in which rows are claimed: fewer retries first, then older ones, then in the order
of their numbers. -/
def claimsBefore (now : Instant) (a b : Row) : Bool :=
  let ta := a.item.createdAt.getD now
  let tb := b.item.createdAt.getD now
  a.item.retry < b.item.retry ||
    (a.item.retry == b.item.retry && (ta < tb || (ta == tb && a.number ≤ b.number)))

/-- The rows that can be claimed now, in the order of claims. -/
def candidates (s : Store) (family : Family) (backoff : Backoff) (now : Instant) : List Row :=
  (s.rows.filter (s.claimable family backoff now)).mergeSort (claimsBefore now)

/-- The first items of a list; a negative size leaves that many out at the end. -/
def firstOf {α : Type} (size : Int) (xs : List α) : List α :=
  if 0 ≤ size then xs.take size.toNat else xs.take (xs.length - size.natAbs)

/-- Claim a batch and lock its rows. -/
def claim (s : Store) (family : Family) (size : Int) (backoff : Backoff) (now : Instant) :
    List WorkItem × Store :=
  let claimed := (firstOf size (s.candidates family backoff now)).map Row.item
  (claimed, { s with locked := s.locked ++ claimed.map WorkItem.rowKey })

/-- Unlock the rows of a batch. -/
def release (s : Store) (claimed : List WorkItem) : Store :=
  { s with locked := s.locked.filter fun key => !(claimed.map WorkItem.rowKey).contains key }

/-! ### Commits -/

/-- Check one item of a result against the claimed batch. -/
def checkResult (family : Family) (claimed : List WorkItem) (item : WorkItem) :
    Except Fault Unit :=
  match claimed.reverse.find? fun c => c.key == item.key with
  | none => .error (.invariant ("handler returned unclaimed item " ++ item.key))
  | some held =>
    if item.family != family then
      .error (.invariant ("handler returned unclaimed item " ++ item.key))
    else do
      Status.checkChange held.status item.status
      checkRetry held.retry item.retry

/-- Check a whole result: the first offence counts. -/
def checkResults (family : Family) (claimed : List WorkItem) : List WorkItem → Except Fault Unit
  | [] => .ok ()
  | item :: rest => do
    checkResult family claimed item
    checkResults family claimed rest

/-- Write one item of a result to its row. -/
def writeResult (s : Store) (family : Family) (now : Instant) (item : WorkItem) : Store :=
  s.update (family, item.key) fun i => { i with
    status := item.status
    retry := item.retry
    txHash := item.txHash
    payload := item.payload
    updatedAt := some now }

/-- Write a result, one item after the other. -/
def writeResults (s : Store) (family : Family) (now : Instant) (results : List WorkItem) : Store :=
  results.foldl (fun s item => s.writeResult family now item) s

/-- Commit the result of a batch: nothing is written unless all of it is sound. -/
def commit (s : Store) (family : Family) (claimed results : List WorkItem) (now : Instant) :
    Except Fault Store :=
  match checkResults family claimed results with
  | .error fault => .error fault
  | .ok () =>
    let written := s.writeResults family now results
    .ok { written with commits := written.commits ++ [(family, results.map WorkItem.key)] }

end Store

end ChainRelay
