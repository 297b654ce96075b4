import ChainRelay.Report.Item
import ChainRelay.Text.Ulid
import ChainRelay.World.Basic

/-!
# Reports of what happened

What a relayer did between two states of its world: what it asked its collaborators, the rows that
it wrote, and the entries of the cache that are no longer what they were. Lock tokens, which differ
from run to run, are masked.
-/

namespace ChainRelay.World

variable {σ : Type}

/-- Whether a text is the token of a lock. -/
def isLockToken (s : String) : Bool :=
  match s.toList with
  | 'l' :: 'c' :: 'k' :: '_' :: rest => Text.Ulid.isUlid (String.ofList rest)
  | _ => false

/-- A value, with a lock token masked. -/
def masked : Json → Json
  | .str s => if isLockToken s then .str "<token>" else .str s
  | value => value

/-- A reading of the monotonic clock in whole milliseconds. -/
def milliseconds (x : Float) : Json :=
  .int (Decimal.roundEven (Quantity.real (x * 1000.0)).toRat)

/-- A cache entry in a report. -/
def entryReport (e : CacheEntry Float) : Json :=
  .arr [masked e.value, (e.expiry.map milliseconds).getD .null]

mutual

/-- A value with the members of its objects in the order of their names. -/
def inOrder : Json → Json
  | .arr items => .arr (itemsInOrder items)
  | .obj fields => .obj ((membersInOrder fields).mergeSort fun a b => a.1 ≤ b.1)
  | value => value

/-- Values, each in order. -/
def itemsInOrder : List Json → List Json
  | [] => []
  | item :: rest => inOrder item :: itemsInOrder rest

/-- Members, each with its value in order. -/
def membersInOrder : List (String × Json) → List (String × Json)
  | [] => []
  | (name, value) :: rest => (name, inOrder value) :: membersInOrder rest

end

/-- Whether two values read the same, whatever the order of members. Here `0`, `0.0` and `false`
are told apart. -/
def readsSame (a b : Json) : Bool := (inOrder a).encode == (inOrder b).encode

/-- The member of a report under which an event is listed, and its entry there. -/
def eventReport : Event → Option (String × Json)
  | .notified severity title body _ =>
    some ("notifications", .arr [.str severity.word, .str title, .str body])
  | .posted events correlation _ => some ("posted", .arr [.arr events, .str correlation])
  | .broadcast contract request (.ok _) =>
    some ("broadcasts", .arr [.str contract, .obj request])
  | .lookedUp txHash _ => some ("lookups", .str txHash)
  | .built item _ => some ("builds", .str item.key)
  | .sent transaction _ => some ("sends", .str transaction.txId)
  | .invalidated item _ => some ("invalidations", .str item.key)
  | .committed family keys =>
    some ("commits", .arr [.str family.word, .arr (keys.map Json.str)])
  | .cursorSet name value => some ("cursor_writes", .arr [.str name, .str value])
  | _ => none

/-- The entries of one member of a report. -/
def listed (trace : List Event) (name : String) : Fields :=
  let entries := trace.filterMap fun event => match eventReport event with
    | some (n, entry) => if n = name then some entry else none
    | none => none
  if entries.isEmpty then [] else [(name, .arr entries)]

/-- The rows that were written. -/
def rowsWritten (origin : Instant) (trace : List Event) (after : World σ Float) : Fields :=
  let stored := trace.filterMap fun
    | .stored key => some key
    | _ => none
  let rows := after.store.rows.filter fun row => stored.contains row.item.rowKey
  if rows.isEmpty then [] else [("rows", .arr (rows.map fun row => row.item.report origin))]

/-- The cache entries that differ, `null` for those that are gone. -/
def cacheChanges (before after : World σ Float) : Fields :=
  let written := after.cache.entries.filterMap fun (key, e) =>
    let entry := entryReport e
    match before.cache.entry? key with
    | some old => if readsSame (entryReport old) entry then none else some (key, entry)
    | none => some (key, entry)
  let gone := before.cache.entries.filterMap fun (key, _) =>
    if (after.cache.entry? key).isSome then none else some (key, Json.null)
  let changes := written ++ gone
  if changes.isEmpty then [] else [("cache", .obj changes)]

/-- What happened between two states; only what is not empty is listed. -/
def changes (origin : Instant) (before after : World σ Float) : Fields :=
  let trace := after.trace.drop before.trace.length
  (["notifications", "posted", "broadcasts", "lookups", "builds", "sends", "invalidations",
    "commits", "cursor_writes"].flatMap (listed trace)) ++
    rowsWritten origin trace after ++ cacheChanges before after

end ChainRelay.World
