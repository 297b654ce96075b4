import ChainRelay.Fault

/-!
# The queries

The queue and the cursors can be kept in a database. These are the texts of all queries that are
made of it. Each has a name; a query file is named after its query.
-/

namespace ChainRelay

/-- The queries. -/
inductive Query where
  | upsertItem
  | getItem
  | claimPending
  | updateProcessed
  | getCursor
  | setCursor
  deriving DecidableEq, Repr

namespace Query

/-- The name of a query. -/
def name : Query → String
  | upsertItem => "upsert_work_item"
  | getItem => "get_work_item"
  | claimPending => "claim_pending"
  | updateProcessed => "update_processed"
  | getCursor => "get_cursor"
  | setCursor => "set_cursor"

/-- The columns of a work item. -/
def columns : String :=
  "family, natural_key, status, retry, payload_kind, payload, tx_hash, created_at, updated_at"

/-- The lines of a query. -/
def lines : Query → List String
  | upsertItem => [
      "INSERT INTO work_items (family, natural_key, status, retry, payload_kind, payload, tx_hash)",
      "VALUES ($1, $2, $3, $4, $5, $6::jsonb, $7)",
      "ON CONFLICT (family, natural_key) DO UPDATE",
      "SET payload_kind = EXCLUDED.payload_kind,",
      "    payload = EXCLUDED.payload,",
      "    updated_at = now()",
      "WHERE work_items.status = \x27pending\x27",
      "RETURNING natural_key, status, (xmax = 0) AS created"]
  | getItem => [
      "SELECT " ++ columns,
      "FROM work_items",
      "WHERE family = $1 AND natural_key = $2"]
  | claimPending => [
      "SELECT " ++ columns,
      "FROM work_items",
      "WHERE family = $1",
      "  AND status = \x27pending\x27",
      "  AND (",
      "    (retry = 0 AND updated_at <= now() - make_interval(secs => $2::double precision))",
      "    OR (retry > 0 AND updated_at <= now() - make_interval(secs => $3::double precision))",
      "  )",
      "ORDER BY retry ASC, created_at ASC",
      "LIMIT $4",
      "FOR UPDATE SKIP LOCKED"]
  | updateProcessed => [
      "UPDATE work_items",
      "SET status = $3,",
      "    retry = $4,",
      "    tx_hash = $5,",
      "    payload_kind = $6,",
      "    payload = $7::jsonb,",
      "    updated_at = now()",
      "WHERE family = $1 AND natural_key = $2 AND status = \x27pending\x27",
      "RETURNING natural_key"]
  | getCursor => ["SELECT value FROM cursors WHERE name = $1"]
  | setCursor => [
      "INSERT INTO cursors (name, value)",
      "VALUES ($1, $2)",
      "ON CONFLICT (name) DO UPDATE",
      "SET value = EXCLUDED.value,",
      "    updated_at = now()"]

/-- The text of a query. -/
def text (q : Query) : String := "\n".intercalate q.lines

/-- All queries. -/
def all : List Query :=
  [upsertItem, getItem, claimPending, updateProcessed, getCursor, setCursor]

theorem mem_all (q : Query) : q ∈ all := by cases q <;> decide

/-! ### Files -/

/-- The folder of the query files, as the names that lead to it. -/
def folder : List String := ["relayer", "repositories", "sql"]

/-- The most bytes in the name of a file. -/
def nameLimit : Nat := 255

/-- The most bytes in a path. -/
def pathLimit : Nat := 4095

/-- Where a walk along a path has come to. -/
inductive Place where
  /-- A folder on the way to the query files, by the names that lead to it. -/
  | inside (names : List String)
  /-- Above all of these folders. -/
  | above
  | file (query : Query)
  deriving DecidableEq, Repr

/-- One step along a path: into the folder above, or to what has a name. Only the folders on the way
to the query files and these files are known. -/
def Place.step? : Place → String → Except Fault (Option Place)
  | .file _, _ => .ok none
  | .above, ".." => .ok (some .above)
  | .inside names, ".." => .ok (some (if names.isEmpty then .above else .inside names.dropLast))
  | place, name =>
    if nameLimit < name.utf8ByteSize then .error (.system "[Errno 36] File name too long")
    else match place with
      | .inside names =>
        if (names ++ [name]).isPrefixOf folder then .ok (some (.inside (names ++ [name])))
        else if names = folder then .ok ((all.find? fun q => q.name ++ ".sql" = name).map .file)
        else .ok none
      | _ => .ok none

/-- Where a path leads from some place, if there is anything. -/
def Place.walk : Place → List String → Except Fault (Option Place)
  | place, [] => .ok (some place)
  | place, name :: rest =>
    match place.step? name with
    | .ok (some next) => next.walk rest
    | .ok none => .ok none
    | .error fault => .error fault

/-- The names on a path, without those that stand for the place where they are. -/
def pathNames (path : String) : List String :=
  (path.splitOn "/").filter fun name => name != "" && name != "."

/-- Where a path leads from the folder of the query files. -/
def locate (path : String) : Except Fault (Option Place) :=
  let names := pathNames path
  if path.toList.contains (Char.ofNat 0) then .ok none
  else if pathLimit < ("/".intercalate names).utf8ByteSize then
    .error (.system "[Errno 36] File name too long")
  else (if path.startsWith "/" then Place.above else .inside folder).walk names

/-- The text in a query file, by its path from their folder. -/
def ofFile (path : String) : Except Fault String := do
  match ← locate path with
  | some (.file q) => return q.text
  | _ => throw (.missingFile ("sql query not found: " ++ path))

end Query

end ChainRelay
