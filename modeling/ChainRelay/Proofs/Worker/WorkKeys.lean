import ChainRelay.Json.Options
import ChainRelay.Proofs.Cache.Entries
import ChainRelay.Proofs.Queue.Rows
import ChainRelay.Proofs.Worker.TaskRefusals

/-!
# Keys of work

A message to execute and a broadcast are each identified by two texts of the task that asks for
them, and kept under a key made of both with a separator between them. The texts are free, so the
separator may occur inside them as well.

## The contract

Tasks of different types never share a key. Two tasks of one type share theirs if they name the same
pair, or if one pair is the other with the boundary moved to another separator. The latter takes a
separator within the first text, the name of a chain or the address of a contract. Whatever a task
writes, what is kept under all other keys stays as it is.

## Main definitions

* `WorkKind` — the kinds of work that a pair of texts identifies
* `Shifted` — a pair that becomes another one when the boundary is moved
* `Relayer.workKeyOf` — the key of the work that a task asks for

## Main results

* `joined_eq_joined_iff` — when two pairs are joined to the same text
* `WorkKind.key_eq_key_iff` — when two identities have the same key
* `Relayer.heldAt_processTask` — a task leaves all other keys alone
* `Relayer.workKeyOf_shared_iff` — when two tasks share a key, and what it means that they do not
-/

namespace ChainRelay

variable {σ τ : Type}

/-! ### Pairs of texts -/

/-- Two texts with a separator between them. -/
def joined (sep : Char) (pair : String × String) : String :=
  pair.1 ++ String.singleton sep ++ pair.2

/-- The boundary of a pair moved to a separator within its second text gives another pair. -/
def Shifted (sep : Char) (pair other : String × String) : Prop :=
  ∃ between : String, other.1 = joined sep (pair.1, between) ∧
    pair.2 = joined sep (between, other.2)

theorem toList_joined (sep : Char) (pair : String × String) :
    (joined sep pair).toList = pair.1.toList ++ sep :: pair.2.toList := by
  simp [joined]

/-- Then the separator is within the first text of the other pair. -/
theorem Shifted.mem {sep : Char} {pair other : String × String} (h : Shifted sep pair other) :
    sep ∈ other.1.toList := by
  obtain ⟨between, hfirst, -⟩ := h
  rw [hfirst, toList_joined]
  simp

/-- Lists with the same separator somewhere in them. -/
theorem append_cons_eq_append_cons_iff {α : Type} {sep : α} {a b c d : List α} :
    a ++ sep :: b = c ++ sep :: d ↔ (a = c ∧ b = d) ∨
      (∃ m, c = a ++ sep :: m ∧ b = m ++ sep :: d) ∨
      ∃ m, a = c ++ sep :: m ∧ d = m ++ sep :: b := by
  constructor
  · intro h
    rcases List.append_eq_append_iff.mp h with ⟨m, hc, hb⟩ | ⟨m, ha, hd⟩
    · cases m with
      | nil => exact .inl ⟨by simpa using hc.symm, (List.cons.inj hb).2⟩
      | cons x m =>
        obtain ⟨rfl, hrest⟩ := List.cons.inj hb
        exact .inr (.inl ⟨m, hc, hrest⟩)
    · cases m with
      | nil => exact .inl ⟨by simpa using ha, (List.cons.inj hd).2.symm⟩
      | cons x m =>
        obtain ⟨rfl, hrest⟩ := List.cons.inj hd
        exact .inr (.inr ⟨m, ha, hrest⟩)
  · rintro (⟨rfl, rfl⟩ | ⟨m, rfl, rfl⟩ | ⟨m, rfl, rfl⟩)
    · rfl
    · simp
    · simp

theorem shifted_iff {sep : Char} {pair other : String × String} : Shifted sep pair other ↔
    ∃ m, other.1.toList = pair.1.toList ++ sep :: m ∧
      pair.2.toList = m ++ sep :: other.2.toList := by
  constructor
  · rintro ⟨between, hfirst, hsecond⟩
    refine ⟨between.toList, ?_, ?_⟩
    · rw [hfirst, toList_joined]
    · rw [hsecond, toList_joined]
  · rintro ⟨m, hfirst, hsecond⟩
    refine ⟨String.ofList m, String.toList_inj.mp ?_, String.toList_inj.mp ?_⟩
    · rw [hfirst, toList_joined, String.toList_ofList]
    · rw [hsecond, toList_joined, String.toList_ofList]

/-- **Pairs that are joined to the same text** are equal, or one is the other with the boundary
moved. -/
theorem joined_eq_joined_iff {sep : Char} {pair other : String × String} :
    joined sep pair = joined sep other ↔
      pair = other ∨ Shifted sep pair other ∨ Shifted sep other pair := by
  rw [← String.toList_inj, toList_joined, toList_joined, append_cons_eq_append_cons_iff,
    shifted_iff, shifted_iff, String.toList_inj, String.toList_inj, Prod.ext_iff]

/-! ### Kinds of work -/

/-- The kinds of work that a pair of texts identifies. -/
inductive WorkKind where
  | execution
  | proof
  | verification
  | session
  | poll
  deriving DecidableEq, Repr

namespace WorkKind

/-- The type of the tasks that ask for it. -/
def type : WorkKind → String
  | execution => "EXECUTE"
  | proof => "CONSTRUCT_PROOF"
  | verification => "VERIFY"
  | session => "REACT_TO_EXPIRED_SIGNING_SESSION"
  | poll => "REACT_TO_RETRIABLE_POLL"

/-- What stands in front of its keys. -/
def space : WorkKind → String
  | execution => ""
  | proof => "proof_"
  | verification => "verify_"
  | session => "retry_proof_"
  | poll => "retry_verify_"

/-- What stands between the two texts of a key. -/
def separator : WorkKind → Char
  | execution => ':'
  | _ => '_'

/-- The names of the members that identify it. -/
def names : WorkKind → String × String
  | session => ("invokedContractAddress", "sessionID")
  | poll => ("invokedContractAddress", "pollID")
  | _ => ("sourceChain", "messageID")

/-- The object that has these members: the body of a task or the message in it. -/
def holder (kind : WorkKind) (body : Json) : Fields :=
  let fields := Json.Options.membersOf body
  match kind with
  | session | poll => fields
  | _ => Json.Options.membersOf (TokenServices.field fields "message")

end WorkKind

/-- A task names work of a kind by two texts. -/
structure HubTask.Names (task : HubTask) (kind : WorkKind) (id : String × String) : Prop where
  type : task.type = kind.type
  first : TokenServices.field (kind.holder task.body) kind.names.1 = .str id.1
  second : TokenServices.field (kind.holder task.body) kind.names.2 = .str id.2

/-- Where work is kept: in a row, or in an entry of the cache. -/
inductive WorkKey where
  | row (key : RowKey)
  | entry (key : String)
  deriving DecidableEq

/-- What is kept under a key. -/
def World.heldAt (w : World σ τ) : WorkKey → Option Row ⊕ Option (CacheEntry τ)
  | .row key => .inl (w.store.row? key)
  | .entry key => .inr (w.cache.entry? key)

namespace WorkKind

/-- The text of the key of work that a pair of texts identifies. -/
def keyText (kind : WorkKind) (id : String × String) : String :=
  kind.space ++ joined kind.separator id

/-- The key of such work. -/
def key (q : BroadcastQueue) (kind : WorkKind) (id : String × String) : WorkKey :=
  match kind with
  | execution => .row (.messageApproved, kind.keyText id)
  | _ => .entry (q.keyOf (kind.keyText id))

variable {q : BroadcastQueue} {kind other : WorkKind} {id id' : String × String}

theorem key_execution : execution.key q id = .row (.messageApproved, joined ':' id) := by
  rw [key, keyText, space, separator, String.empty_append]

theorem key_of_ne (h : kind ≠ execution) : kind.key q id = .entry (q.keyOf (kind.keyText id)) := by
  cases kind with
  | execution => exact absurd rfl h
  | _ => rfl

/-- Identities of one kind have the same key if they have the same text. -/
theorem key_eq_key_iff_joined :
    kind.key q id = kind.key q id' ↔ joined kind.separator id = joined kind.separator id' := by
  rcases eq_or_ne kind execution with rfl | hkind
  · rw [key_execution, key_execution, WorkKey.row.injEq, Prod.mk.injEq, eq_self, true_and]
    rfl
  · rw [key_of_ne hkind, key_of_ne hkind, WorkKey.entry.injEq, BroadcastQueue.keyOf,
      BroadcastQueue.keyOf, String.append_right_inj, keyText, keyText, String.append_right_inj]

/-- Of the words in front of keys none begins with another one. -/
theorem eq_of_prefix_space (hkind : kind ≠ execution)
    (h : kind.space.toList <+: other.space.toList) : kind = other := by
  cases kind <;> cases other <;>
    first | rfl | exact absurd rfl hkind | exact absurd h (by decide)

/-- Work of different kinds is kept under different keys. -/
theorem eq_of_key_eq_key (h : kind.key q id = other.key q id') : kind = other := by
  rcases eq_or_ne kind execution with rfl | hkind
  · rcases eq_or_ne other execution with rfl | hother
    · rfl
    · rw [key_execution, key_of_ne hother] at h
      cases h
  rcases eq_or_ne other execution with rfl | hother
  · rw [key_execution, key_of_ne hkind] at h
    cases h
  rw [key_of_ne hkind, key_of_ne hother, WorkKey.entry.injEq, BroadcastQueue.keyOf,
    BroadcastQueue.keyOf, String.append_right_inj, keyText, keyText] at h
  -- the words in front of the keys begin the same text
  have hchars := congrArg String.toList h
  rw [String.toList_append, String.toList_append] at hchars
  rcases List.prefix_or_prefix_of_prefix (List.prefix_append _ _)
    (hchars ▸ List.prefix_append _ _) with hprefix | hprefix
  · exact (eq_of_prefix_space hother hprefix).symm
  · exact eq_of_prefix_space hkind hprefix

/-- **Keys of work.** Two identities share a key if they are of one kind, and equal up to where the
boundary is. -/
theorem key_eq_key_iff : kind.key q id = other.key q id' ↔ kind = other ∧
    (id = id' ∨ Shifted kind.separator id id' ∨ Shifted kind.separator id' id) := by
  constructor
  · intro h
    obtain rfl := eq_of_key_eq_key h
    exact ⟨rfl, joined_eq_joined_iff.mp (key_eq_key_iff_joined.mp h)⟩
  · rintro ⟨rfl, h⟩
    exact key_eq_key_iff_joined.mpr (joined_eq_joined_iff.mpr h)

end WorkKind

/-! ### Keys of tasks -/

open Store in
/-- An upsert leaves the rows of other keys alone. -/
theorem Store.row?_upsert_of_ne {s : Store} {now : Instant} {item : WorkItem} {key : RowKey}
    (h : item.rowKey ≠ key) : (s.upsert now item).2.row? key = s.row? key := by
  rcases s.upsert_cases now item with
    ⟨-, -, created, hcreated, hstore⟩ | ⟨-, -, -, -, hstore⟩ | ⟨r, -, -, -, hstore⟩
  · have hne : (created.rowKey == key) = false := beq_eq_false_iff_ne.mpr (hcreated ▸ h)
    rw [hstore, Store.row?, Store.row?, List.find?_append]
    simp [hne]
  · rw [hstore]
  · rw [hstore, Store.row?, find?_map_rows (renew_rowKey item.rowKey item.payload now)]
    change (s.row? key).map _ = s.row? key
    cases hrow : s.row? key with
    | none => rfl
    | some row =>
      rw [Option.map_some, renew_of_ne]
      rw [rowKey_of_row? hrow]
      exact h.symm

namespace Relayer

variable {r : Relayer σ} {task task' : HubTask} {kind kind' : WorkKind} {id id' : String × String}
  {key key' : WorkKey}

/-- The key of the work that a task asks for, unless it is refused or passed over. -/
def workKeyOf (r : Relayer σ) (task : HubTask) : Option WorkKey :=
  match itemOf task, r.broadcastOf task with
  | some (.ok item), _ => some (.row item.rowKey)
  | _, some (.ok (id, _)) => some (.entry (r.broadcasts.keyOf id))
  | _, _ => none

/-- What is required of a value is one of its members, -/
theorem required_eq_field {value found : Json} {name : String}
    (h : required value name = .ok found) :
    found = TokenServices.field (Json.Options.membersOf value) name := by
  rcases value.memberless_or_obj with hmemberless | ⟨fields, rfl⟩
  · rw [required_of_memberless hmemberless] at h
    cases h
  · exact (required_obj_eq_ok.mp h).1.symm

/-- and so is what must be there. -/
theorem need_eq_field {value found : Json} {name : String} (h : value.need name = .ok found) :
    found = TokenServices.field (Json.Options.membersOf value) name := by
  cases value with
  | obj fields =>
    rw [Json.Options.membersOf, TokenServices.field]
    unfold Json.need at h
    dsimp only at h
    split at h
    · rename_i hfound
      rw [hfound]
      exact (Except.ok.inj h).symm
    · cases h
  | _ => cases h

/-- A message is kept in the row of its identity. -/
theorem row_of_messageItem {item : WorkItem} (q : BroadcastQueue)
    (hnames : task.Names .execution id) (h : messageItem task = .ok item) :
    .row item.rowKey = WorkKind.execution.key q id := by
  rw [messageItem] at h
  obtain ⟨message, hmessage, h⟩ := exists_of_bind_eq_ok h
  obtain ⟨chain, hchain, h⟩ := exists_of_bind_eq_ok h
  obtain ⟨messageId, hid, h⟩ := exists_of_bind_eq_ok h
  obtain ⟨gas, -, h⟩ := exists_of_bind_eq_ok h
  obtain ⟨source, -, h⟩ := exists_of_bind_eq_ok h
  obtain ⟨destination, -, h⟩ := exists_of_bind_eq_ok h
  obtain ⟨encodedHash, -, h⟩ := exists_of_bind_eq_ok h
  obtain ⟨hash, -, h⟩ := exists_of_bind_eq_ok h
  obtain ⟨encodedPayload, -, h⟩ := exists_of_bind_eq_ok h
  obtain ⟨payload, -, h⟩ := exists_of_bind_eq_ok h
  cases h
  cases required_eq_field hmessage
  cases (required_eq_field hchain).trans hnames.first
  cases (required_eq_field hid).trans hnames.second
  exact WorkKind.key_execution.symm

/-- The broadcast for a message is named by its identity, -/
theorem name_of_messageBroadcast {request : Json → Except Fault Fields} {space type name : String}
    {item : PendingBroadcast}
    (hchain : TokenServices.field (WorkKind.proof.holder task.body) "sourceChain" = .str id.1)
    (hid : TokenServices.field (WorkKind.proof.holder task.body) "messageID" = .str id.2)
    (h : messageBroadcast request space type task = .ok (name, item)) :
    name = space ++ joined '_' id := by
  rw [messageBroadcast] at h
  obtain ⟨fields, -, h⟩ := exists_of_bind_eq_ok h
  obtain ⟨message, hmessage, h⟩ := exists_of_bind_eq_ok h
  obtain ⟨chain, hfirst, h⟩ := exists_of_bind_eq_ok h
  obtain ⟨messageId, hsecond, h⟩ := exists_of_bind_eq_ok h
  cases h
  cases need_eq_field hmessage
  cases (need_eq_field hfirst).trans hchain
  cases (need_eq_field hsecond).trans hid
  rw [String.append_assoc, String.append_assoc, joined, String.append_assoc]
  rfl

/-- and that for a contract by the contract and its subject. -/
theorem name_of_contractBroadcast {subject space type name : String} {item : PendingBroadcast}
    (hcontract : TokenServices.field (Json.Options.membersOf task.body)
      "invokedContractAddress" = .str id.1)
    (hid : TokenServices.field (Json.Options.membersOf task.body) subject = .str id.2)
    (h : contractBroadcast subject space type task = .ok (name, item)) :
    name = space ++ joined '_' id := by
  rw [contractBroadcast] at h
  obtain ⟨contract, hfirst, h⟩ := exists_of_bind_eq_ok h
  obtain ⟨subjectId, hsecond, h⟩ := exists_of_bind_eq_ok h
  obtain ⟨fields, -, h⟩ := exists_of_bind_eq_ok h
  cases h
  cases (required_eq_field hfirst).trans hcontract
  cases (required_eq_field hsecond).trans hid
  rw [String.append_assoc, String.append_assoc, joined, String.append_assoc]
  rfl

/-- A key is that of an item or of a broadcast. -/
theorem of_workKeyOf (h : r.workKeyOf task = some key) :
    (∃ item, itemOf task = some (.ok item) ∧ key = .row item.rowKey) ∨
      ∃ name item, r.broadcastOf task = some (.ok (name, item)) ∧
        key = .entry (r.broadcasts.keyOf name) := by
  unfold workKeyOf at h
  split at h <;> cases h
  · rename_i hitem
    exact .inl ⟨_, hitem, rfl⟩
  · rename_i hbroadcast _
    exact .inr ⟨_, _, hbroadcast, rfl⟩

/-- **The key of a task's work** is made of the two texts that name it. -/
theorem workKeyOf_of_names (hnames : task.Names kind id) (h : r.workKeyOf task = some key) :
    key = kind.key r.broadcasts id := by
  have htype := hnames.type
  rcases of_workKeyOf h with ⟨item, hitem, rfl⟩ | ⟨name, item, hbroadcast, rfl⟩
  · cases kind with
    | execution =>
      simp only [itemOf, htype, WorkKind.type, Option.some.injEq] at hitem
      exact row_of_messageItem r.broadcasts hnames hitem
    | _ =>
      simp only [itemOf, htype, WorkKind.type] at hitem
      cases hitem
  · cases kind with
    | execution =>
      simp only [broadcastOf, htype, WorkKind.type] at hbroadcast
      cases hbroadcast
    | proof =>
      simp only [broadcastOf, htype, WorkKind.type, Option.some.injEq] at hbroadcast
      rw [name_of_messageBroadcast hnames.first hnames.second hbroadcast]
      rfl
    | verification =>
      simp only [broadcastOf, htype, WorkKind.type, Option.some.injEq] at hbroadcast
      rw [name_of_messageBroadcast hnames.first hnames.second hbroadcast]
      rfl
    | session =>
      simp only [broadcastOf, htype, WorkKind.type, Option.some.injEq] at hbroadcast
      rw [name_of_contractBroadcast hnames.first hnames.second hbroadcast]
      rfl
    | poll =>
      simp only [broadcastOf, htype, WorkKind.type, Option.some.injEq] at hbroadcast
      rw [name_of_contractBroadcast hnames.first hnames.second hbroadcast]
      rfl

/-! ### What is kept under other keys -/

variable [Seconds τ]

/-- **A task leaves all other keys alone.** -/
theorem heldAt_processTask (hkey : r.workKeyOf task ≠ some key) (w : World σ τ) :
    (r.processTask task w).2.heldAt key = w.heldAt key := by
  cases hitem : itemOf task with
  | some found =>
    cases found with
    | error fault =>
      rw [processTask, taskHandler_of_itemOf hitem]
      rfl
    | ok item =>
      obtain ⟨trace, hprocess⟩ := processTask_of_item (r := r) hitem w
      have hne : WorkKey.row item.rowKey ≠ key := by
        intro heq
        apply hkey
        rw [workKeyOf, hitem, ← heq]
      rw [hprocess]
      cases key with
      | row key => exact congrArg Sum.inl (Store.row?_upsert_of_ne fun h => hne (congrArg _ h))
      | entry key => rfl
  | none =>
    cases hbroadcast : r.broadcastOf task with
    | some found =>
      cases found with
      | error fault => rw [processTask_refused hbroadcast]
      | ok keyed =>
        obtain ⟨name, item⟩ := keyed
        have hne : WorkKey.entry (r.broadcasts.keyOf name) ≠ key := by
          intro heq
          apply hkey
          rw [workKeyOf, hitem, hbroadcast, ← heq]
        rw [processTask_of_broadcast hbroadcast, BroadcastQueue.put_apply]
        cases key with
        | row key => rfl
        | entry key =>
          refine congrArg Sum.inr ((Cache.entry?_set _ _ _ _ _ _).trans (if_neg ?_))
          exact fun h => hne (congrArg _ h.symm)
    | none =>
      rw [processTask, taskHandler_eq_none hitem hbroadcast]
      rfl

/-- What it means for two tasks to ask for work that is identified by pairs of texts. -/
structure KeysApart (r : Relayer σ) (τ : Type) [Seconds τ] (kind kind' : WorkKind)
    (id id' : String × String) (task task' : HubTask) (key key' : WorkKey) : Prop where
  /-- They share a key if they name the same work, or if one pair is the other with the boundary
  moved. -/
  shared : key = key' ↔ kind = kind' ∧
    (id = id' ∨ Shifted kind.separator id id' ∨ Shifted kind.separator id' id)
  /-- If neither first text has the separator in it, different work is kept under different keys. -/
  plain : kind.separator ∉ id.1.toList → kind'.separator ∉ id'.1.toList →
    (kind, id) ≠ (kind', id') → key ≠ key'
  /-- If the keys differ, neither task changes what is kept for the other one. -/
  apart : key ≠ key' → ∀ w : World σ τ,
    (r.processTask task w).2.heldAt key' = w.heldAt key' ∧
      (r.processTask task' w).2.heldAt key = w.heldAt key

/-- **Tasks that share a key.** -/
theorem workKeyOf_shared_iff (r : Relayer σ) (hnames : task.Names kind id)
    (hnames' : task'.Names kind' id') (hkey : r.workKeyOf task = some key)
    (hkey' : r.workKeyOf task' = some key') :
    KeysApart r τ kind kind' id id' task task' key key' := by
  have hshared : key = key' ↔ kind = kind' ∧
      (id = id' ∨ Shifted kind.separator id id' ∨ Shifted kind.separator id' id) := by
    rw [workKeyOf_of_names hnames hkey, workKeyOf_of_names hnames' hkey']
    exact WorkKind.key_eq_key_iff
  refine ⟨hshared, fun hplain hplain' hne heq => ?_, fun hne w => ⟨?_, ?_⟩⟩
  · obtain ⟨rfl, rfl | hshifted | hshifted⟩ := hshared.mp heq
    · exact hne rfl
    · exact hplain' hshifted.mem
    · exact hplain hshifted.mem
  · refine heldAt_processTask (fun h => hne ?_) w
    exact Option.some.inj (hkey.symm.trans h)
  · refine heldAt_processTask (fun h => hne ?_) w
    exact Option.some.inj (h.symm.trans hkey')

/-! ### Tasks that share a key and nothing else -/

/-- A task about a message. -/
def messageTask (taskId type chain messageId payload : String) : HubTask := ⟨taskId, type, .obj [
  ("message", .obj [("sourceChain", .str chain), ("messageID", .str messageId)]),
  ("payload", .str payload)]⟩

/-- The payloads of all messages that are kept. -/
def payloads (w : World σ τ) : List (List UInt8) := w.store.rows.filterMap fun row =>
  match row.item.payload with
  | .message m => some m.payload
  | _ => none

/-- **Two messages in one row**, and two broadcasts in one entry. They come from different chains
and have different identifiers, and yet the second replaces the first. -/
theorem messageTask_collides :
    let first := messageTask "task-1" "EXECUTE" "a" "b:c" "AQI="
    let second := messageTask "task-2" "EXECUTE" "a:b" "c" "AwQ="
    let third := messageTask "task-3" "VERIFY" "a" "b_c" ""
    let fourth := messageTask "task-4" "VERIFY" "a_b" "c" ""
    let w : World Simulation Rat := (simulated.processTask first (World.initial {} 0)).2
    let w' : World Simulation Rat := (simulated.processTask third (World.initial {} 0)).2
    (first.Names .execution ("a", "b:c") ∧ second.Names .execution ("a:b", "c") ∧
      simulated.workKeyOf first = simulated.workKeyOf second ∧
      payloads w = [[1, 2]] ∧ payloads (simulated.processTask second w).2 = [[3, 4]]) ∧
    third.Names .verification ("a", "b_c") ∧ fourth.Names .verification ("a_b", "c") ∧
      simulated.workKeyOf third = simulated.workKeyOf fourth ∧
      (simulated.processTask fourth w').2.cache.entries.length = 1 := by
  refine ⟨⟨⟨rfl, rfl, rfl⟩, ⟨rfl, rfl, rfl⟩, ?_, ?_, ?_⟩, ⟨rfl, rfl, rfl⟩, ⟨rfl, rfl, rfl⟩, ?_, ?_⟩
  · decide +kernel
  · decide +kernel
  · decide +kernel
  · decide +kernel
  · decide +kernel

/-- The law for two messages of one chain, whose name has no separator in it. -/
theorem workKeyOf_shared_iff_apart :
    let first := messageTask "task-1" "EXECUTE" "ethereum" "m-1:0" "AQI="
    let second := messageTask "task-2" "EXECUTE" "ethereum" "m-1" "AwQ="
    first.Names .execution ("ethereum", "m-1:0") ∧ second.Names .execution ("ethereum", "m-1") ∧
      ∃ key key', simulated.workKeyOf first = some key ∧ simulated.workKeyOf second = some key' ∧
        key ≠ key' ∧ KeysApart simulated Rat .execution .execution ("ethereum", "m-1:0")
          ("ethereum", "m-1") first second key key' := by
  have hnames : (messageTask "task-1" "EXECUTE" "ethereum" "m-1:0" "AQI=").Names .execution
      ("ethereum", "m-1:0") := ⟨rfl, rfl, rfl⟩
  have hnames' : (messageTask "task-2" "EXECUTE" "ethereum" "m-1" "AwQ=").Names .execution
      ("ethereum", "m-1") := ⟨rfl, rfl, rfl⟩
  have hlaw := workKeyOf_shared_iff (τ := Rat) simulated hnames hnames' rfl rfl
  exact ⟨hnames, hnames', _, _, rfl, rfl, hlaw.plain (by decide) (by decide) (by decide), hlaw⟩

end Relayer

end ChainRelay
