import ChainRelay.Database.Queue
import ChainRelay.Proofs.Cache.Entries
import ChainRelay.Proofs.Database.Contents
import ChainRelay.Proofs.Worker.BroadcastTurn

/-!
# What is stored is read back

Payloads and pending broadcasts are stored as objects. Reading is more liberal than writing: a text
is made of whatever stands in its place, a member may be missing, and what counts as false gives way
to a default. What has been read once is in the form that writing gives, so that it is read back as
it is.

## The contract

Only a message whose amount of gas is the empty text is not read back: the amount becomes `"0"`.
Reading never yields such a message.

A database keeps the values of an object under their names, but it may put the members of any object
in another order. Nothing that is read depends on it, except for the values that are kept as they
came, and they are the same up to that order.

## Main definitions

* `Payload.Canonical` — payloads in the form that reading gives
* `Json.Alike`, `Payload.Alike` — the same but for the order of members
* `Columns.row`, `WorkItem.row` — a row as a query gives it

## Main results

* `Json.shown_ne_empty` — what does not count as false has a text
* `Payload.ofFields_of_members` — reading needs the members that are written, in any order
* `Payload.canonical_of_ofFields` — what is read is in the form that writing gives
* `Payload.ofJson_toJson_iff` — the payloads that are read back
* `Database.itemOf_row` — an item that is read back from its row
* `Database.stored_lossless` — all of what is stored
-/

namespace ChainRelay

/-! ### Texts of values -/

theorem Decimal.Layout.magnitude_ne_nil (layout : Layout) (c : ℕ) (p : ℤ) :
    layout.magnitude c p ≠ [] := by
  rw [magnitude]
  split
  · split
    · simp
    · split <;> simp
  · simp

theorem Decimal.Layout.write_ne_empty (layout : Layout) (hname : layout.notANumber ≠ "")
    (hinf : layout.infinite ≠ "") (x : Float) : layout.write x ≠ "" := by
  rw [write]
  dsimp only
  split
  · simp
  · split
    · simp [hinf]
    · split
      · exact hname
      · simp [magnitude_ne_nil]

theorem toString_int_ne_empty (n : ℤ) : toString n ≠ "" := by
  rw [Int.toString_eq_repr, Int.repr_eq_if]
  split
  · exact Nat.repr_ne_empty
  · simp

namespace Json

/-- **What does not count as false has a text.** -/
theorem shown_ne_empty {value : Json} (h : value.truthy = true) : value.shown ≠ "" := by
  cases value with
  | null => cases h
  | bool b => cases b <;> decide
  | int n => exact toString_int_ne_empty n
  | float x => exact Decimal.Layout.write_ne_empty _ (by decide) (by decide) x
  | str s => simpa using h
  | torn points => simpa [shown, textOf, truthy] using h
  | arr items => simp [shown, Style.write]
  | obj fields => simp [shown, Style.write]

/-- A text or else a fallback is not empty if the fallback is not. -/
theorem shown_orElse_ne_empty (value : Json) {fallback : String} (h : fallback ≠ "") :
    (value.orElse (.str fallback)).shown ≠ "" := by
  rw [orElse]
  split
  · rename_i htruthy
    exact shown_ne_empty htruthy
  · exact h

/-! ### The order of members -/

/-- Values that are the same but for the order of members. -/
inductive Alike : Json → Json → Prop where
  | same (value : Json) : Alike value value
  | arr {xs ys : List Json} (hlength : xs.length = ys.length)
      (hitems : ∀ (i : ℕ) (hx : i < xs.length) (hy : i < ys.length), Alike xs[i] ys[i]) :
      Alike (.arr xs) (.arr ys)
  | obj {xs ys : Fields} (hnames : ∀ name, (xs.get? name).isSome = (ys.get? name).isSome)
      (hmembers : ∀ name x y, xs.get? name = some x → ys.get? name = some y → Alike x y) :
      Alike (.obj xs) (.obj ys)

theorem Alike.eq_str {s : String} {value : Json} (h : Alike (.str s) value) : value = .str s := by
  cases h
  rfl

/-- An object is alike only to objects with the same members. -/
theorem Alike.exists_members {fields : Fields} {value : Json} (h : Alike (.obj fields) value) :
    ∃ fields' : Fields, value = .obj fields' ∧
      ∀ name x, fields.get? name = some x → ∃ y, fields'.get? name = some y ∧ Alike x y := by
  cases h with
  | same => exact ⟨fields, rfl, fun name x hx => ⟨x, hx, .same x⟩⟩
  | @obj _ ys hnames hmembers =>
    refine ⟨ys, rfl, fun name x hx => ?_⟩
    have hsome : (ys.get? name).isSome = true := by rw [← hnames, hx, Option.isSome_some]
    obtain ⟨y, hy⟩ := Option.isSome_iff_exists.mp hsome
    exact ⟨y, hy, hmembers name x y hx hy⟩

end Json

/-- An object is alike to one with its members in another order. -/
theorem Json.Alike.of_perm {xs ys : Fields} (h : xs.Perm ys)
    (hnames : (xs.map Prod.fst).Nodup) : Alike (.obj xs) (.obj ys) := by
  have hget (name : String) : xs.get? name = ys.get? name := by
    refine Option.ext fun value => ?_
    rw [Fields.get?, Fields.get?, Cache.lookup_eq_some_iff_mem hnames,
      Cache.lookup_eq_some_iff_mem ((h.map _).nodup_iff.mp hnames), h.mem_iff]
  refine .obj (fun name => by rw [hget]) fun name x y hx hy => ?_
  rw [hget, hy] at hx
  cases hx
  exact .same x

/-! ### Payloads -/

namespace Payload

variable {p p' : Payload} {fields : Fields}

/-- Payloads in the form that reading gives: the amount of gas of a message is not empty. -/
def Canonical (p : Payload) : Prop := ∀ m, p.message? = some m → m.availableGasBalance ≠ ""

/-- A text that is there is read as it is. -/
theorem textOf_eq {name s : String} (h : fields.get? name = some (.str s)) :
    textOf fields name = s := by
  rw [textOf, h]
  rfl

/-- A text that is not empty is read as it is, whatever the fallback. -/
theorem textOr_eq {name s : String} (h : fields.get? name = some (.str s)) (hs : s ≠ "")
    (fallback : String) : textOr fields name fallback = s := by
  simp [textOr, h, Json.orElse, hs]

/-- A text with the empty text as its fallback is read as it is. -/
theorem textOr_empty {name s : String} (h : fields.get? name = some (.str s)) :
    textOr fields name "" = s := by
  by_cases hs : s = ""
  · simp [textOr, h, Json.orElse, hs]
  · exact textOr_eq h hs ""

/-- **Reading needs no more than the members that are written, in any order.** -/
theorem ofFields_of_members (hcanonical : p.Canonical)
    (h : ∀ m ∈ p.toFields, fields.get? m.1 = some m.2) : ofFields fields = .ok p := by
  cases p with
  | message m =>
    simp only [toFields, List.forall_mem_cons] at h
    obtain ⟨hkind, hchain, hid, hsource, hcontract, hhash, hpayload, hgas, htask, hextra, -⟩ := h
    simp [ofFields, hkind, Json.isText, textOf_eq hchain, textOf_eq hid, textOf_eq hsource,
      textOf_eq hcontract, textOf_eq hhash, textOr_empty hpayload,
      textOr_eq hgas (hcanonical m rfl), htask, hextra]
  | gateway executeData =>
    simp only [toFields, List.forall_mem_cons] at h
    obtain ⟨hkind, hdata, -⟩ := h
    simp [ofFields, hkind, Json.isText, textOr_empty hdata]
  | refund r =>
    simp only [toFields, List.forall_mem_cons] at h
    obtain ⟨hkind, hid, hrecipient, htoken, hamount, -⟩ := h
    simp [ofFields, hkind, Json.isText, textOr_empty hid, textOr_empty hrecipient, htoken,
      textOr_empty hamount]
  | crossChain txHash =>
    simp only [toFields, List.forall_mem_cons] at h
    obtain ⟨hkind, hhash, -⟩ := h
    simp [ofFields, hkind, Json.isText, textOr_empty hhash]

/-- The names of the members that are written are distinct. -/
theorem get?_toFields (p : Payload) : ∀ m ∈ p.toFields, p.toFields.get? m.1 = some m.2 := by
  cases p <;> simp [toFields, Fields.get?, List.lookup_cons]

/-- **What is read is in the form that writing gives.** -/
theorem canonical_of_ofFields (h : ofFields fields = .ok p) : p.Canonical := by
  intro m hm
  rw [ofFields] at h
  split at h
  · split at h
    · cases h
    · cases h
      cases hm
      exact Json.shown_orElse_ne_empty _ (by decide)
  · -- no other kind of payload is a message
    split at h
    · cases h
      cases hm
    · split at h
      · cases h
        cases hm
      · split at h
        · cases h
          cases hm
        · cases h

theorem canonical_of_ofJson {value : Json} (h : ofJson value = .ok p) : p.Canonical := by
  cases value with
  | obj fields => exact canonical_of_ofFields h
  | _ => cases h

/-- **The payloads that are read back** are those that reading gives. -/
theorem ofJson_toJson_iff : ofJson p.toJson = .ok p ↔ p.Canonical :=
  ⟨canonical_of_ofJson, fun h => ofFields_of_members h p.get?_toFields⟩

/-- Payloads that are the same but for the order of members in the values that are kept as they
came. -/
inductive Alike : Payload → Payload → Prop where
  | message (m : Message) {taskItemId extra : Json} (htask : m.taskItemId.Alike taskItemId)
      (hextra : m.extra.Alike extra) :
      Alike (.message m) (.message { m with taskItemId, extra })
  | gateway (executeData : String) : Alike (.gateway executeData) (.gateway executeData)
  | refund (r : Refund) {tokenId : Json} (htoken : r.tokenId.Alike tokenId) :
      Alike (.refund r) (.refund { r with tokenId })
  | crossChain (txHash : String) : Alike (.crossChain txHash) (.crossChain txHash)

theorem Alike.canonical (h : p.Alike p') (hcanonical : p.Canonical) : p'.Canonical := by
  cases h with
  | message m =>
    rintro _ ⟨⟩
    exact hcanonical m rfl
  | _ => rintro _ ⟨⟩

/-- Members that are alike to those of a payload are those of one that is alike. -/
theorem exists_alike (h : ∀ m ∈ p.toFields, ∃ y, fields.get? m.1 = some y ∧ m.2.Alike y) :
    ∃ p' : Payload, p.Alike p' ∧ ∀ m ∈ p'.toFields, fields.get? m.1 = some m.2 := by
  have htext {name s : String} (h : ∃ y, fields.get? name = some y ∧ (Json.str s).Alike y) :
      fields.get? name = some (.str s) := by
    obtain ⟨y, hy, halike⟩ := h
    rw [hy, halike.eq_str]
  cases p with
  | message m =>
    simp only [toFields, List.forall_mem_cons] at h
    obtain ⟨hkind, hchain, hid, hsource, hcontract, hhash, hpayload, hgas,
      ⟨task, htask, htaskAlike⟩, ⟨extra, hextra, hextraAlike⟩, -⟩ := h
    refine ⟨_, .message m htaskAlike hextraAlike, ?_⟩
    simp [toFields, htext hkind, htext hchain, htext hid, htext hsource, htext hcontract,
      htext hhash, htext hpayload, htext hgas, htask, hextra]
  | gateway executeData =>
    simp only [toFields, List.forall_mem_cons] at h
    obtain ⟨hkind, hdata, -⟩ := h
    refine ⟨_, .gateway executeData, ?_⟩
    simp [toFields, htext hkind, htext hdata]
  | refund r =>
    simp only [toFields, List.forall_mem_cons] at h
    obtain ⟨hkind, hid, hrecipient, ⟨token, htoken, htokenAlike⟩, hamount, -⟩ := h
    refine ⟨_, .refund r htokenAlike, ?_⟩
    simp [toFields, htext hkind, htext hid, htext hrecipient, htoken, htext hamount]
  | crossChain txHash =>
    simp only [toFields, List.forall_mem_cons] at h
    obtain ⟨hkind, hhash, -⟩ := h
    refine ⟨_, .crossChain txHash, ?_⟩
    simp [toFields, htext hkind, htext hhash]

end Payload

/-! ### Rows -/

/-- An instant in a row, `null` if there is none. -/
def instantOrNull : Option Instant → Json
  | none => .null
  | some t => .int t

/-- The row of a key with these columns, as a query gives it. -/
def Columns.row (columns : Columns) (key : RowKey) (createdAt updatedAt : Option Instant) : Json :=
  .obj [
    ("family", .str key.1.word),
    ("natural_key", .str key.2),
    ("status", .str columns.status.word),
    ("retry", .int columns.retry),
    ("payload_kind", .str columns.kind),
    ("payload", columns.payload),
    ("tx_hash", Json.ofText? columns.txHash),
    ("created_at", instantOrNull createdAt),
    ("updated_at", instantOrNull updatedAt)]

/-- The row of an item whose payload is stored as some value. -/
def WorkItem.row (item : WorkItem) (stored : Json) : Json :=
  Columns.row { item.columns with payload := stored } item.rowKey item.createdAt item.updatedAt

namespace Database

theorem optionalText_ofText? (text : Option String) : optionalText (Json.ofText? text) = text := by
  cases text <;> rfl

theorem optionalInstant_instantOrNull (t : Option Instant) :
    optionalInstant (instantOrNull t) = .ok t := by
  cases t <;> rfl

theorem familyOf_word (family : Family) : familyOf (.str family.word) = .ok family := by
  simp [familyOf, Json.str?]

theorem statusOf_word (status : Status) : statusOf (.str status.word) = .ok status := by
  simp [statusOf, Json.str?]

/-- A payload that carries its kind is read as it is stored. -/
theorem payloadOf_row {columns : Columns} {fields : Fields} {kind : Json}
    (hpayload : columns.payload = .obj fields) (hkind : fields.get? "kind" = some kind)
    (key : RowKey) (createdAt updatedAt : Option Instant) :
    payloadOf (columns.row key createdAt updatedAt) = .ok fields := by
  have hstored : (Json.obj fields).orElse (.obj []) = .obj fields := by
    cases fields with
    | nil => cases hkind
    | cons => rfl
  change (do
    let stored ← (columns.payload.orElse (.obj [])).toFields
    return if (stored.get? "kind").isSome then stored else stored.put "kind" (.str columns.kind) :
      Except Fault Fields) = _
  rw [hpayload, hstored]
  change Except.ok (if (fields.get? "kind").isSome then fields else _) = _
  rw [hkind]
  rfl

/-- An item is read from a row whose stored payload has the members of some payload. -/
theorem itemOf_row_of_members {payload : Payload} {fields : Fields}
    (hcanonical : payload.Canonical) (h : ∀ m ∈ payload.toFields, fields.get? m.1 = some m.2)
    (item : WorkItem) :
    itemOf (item.row (.obj fields)) = .ok { item with payload } := by
  have hkind : fields.get? "kind" = some (.str payload.kind) := by
    cases payload <;> exact h _ (List.mem_cons_self ..)
  rw [itemOf, WorkItem.row, payloadOf_row rfl hkind]
  change (do
    let family ← familyOf (.str item.family.word)
    let payload ← Payload.ofFields fields
    let status ← statusOf (.str item.status.word)
    let createdAt ← optionalInstant (instantOrNull item.createdAt)
    let updatedAt ← optionalInstant (instantOrNull item.updatedAt)
    .ok {
      family, payload, status, createdAt, updatedAt
      retry := item.retry, key := item.key
      txHash := optionalText (Json.ofText? item.txHash) } : Except Fault WorkItem) = _
  rw [familyOf_word, Payload.ofFields_of_members hcanonical h, statusOf_word,
    optionalInstant_instantOrNull, optionalInstant_instantOrNull, optionalText_ofText?]
  rfl

/-- **An item is read back from its row.** -/
theorem itemOf_row {item : WorkItem} (hcanonical : item.payload.Canonical) :
    itemOf (item.row item.payload.toJson) = .ok item :=
  itemOf_row_of_members hcanonical item.payload.get?_toFields item

/-- The payload of a row may have been stored with the members of any object in another order. -/
theorem itemOf_row_of_alike {item : WorkItem} (hcanonical : item.payload.Canonical) {stored : Json}
    (hstored : item.payload.toJson.Alike stored) :
    ∃ payload, item.payload.Alike payload ∧
      itemOf (item.row stored) = .ok { item with payload } := by
  obtain ⟨fields, rfl, hfields⟩ := hstored.exists_members
  obtain ⟨payload, halike, hmembers⟩ := Payload.exists_alike fun m hm =>
    hfields m.1 m.2 (item.payload.get?_toFields m hm)
  exact ⟨payload, halike, itemOf_row_of_members (halike.canonical hcanonical) hmembers item⟩

/-- **All of what is stored is read back.** A payload is read back as it is if its amount of gas is
not empty, and a pending broadcast in any case. Whatever is read is written in a form from which the
same is read again. An item whose payload was written is read back from its row with that payload,
and also if the members of any object come in another order, then up to that order. -/
theorem stored_lossless :
    (∀ p : Payload, p.Canonical → Payload.ofJson p.toJson = .ok p) ∧
    (∀ value p, Payload.ofJson value = .ok p → Payload.ofJson p.toJson = .ok p) ∧
    (∀ b : PendingBroadcast, PendingBroadcast.ofJson b.toJson = .ok b) ∧
    (∀ value b, PendingBroadcast.ofJson value = .ok b →
      PendingBroadcast.ofJson b.toJson = .ok b) ∧
    (∀ item : WorkItem, item.payload.Canonical →
      itemOf (item.row item.payload.toJson) = .ok item) ∧
    (∀ (item : WorkItem) (stored : Json), item.payload.Canonical →
      item.payload.toJson.Alike stored → ∃ payload, item.payload.Alike payload ∧
        itemOf (item.row stored) = .ok { item with payload }) :=
  ⟨fun _ => Payload.ofJson_toJson_iff.mpr,
    fun _ _ h => Payload.ofJson_toJson_iff.mpr (Payload.canonical_of_ofJson h),
    PendingBroadcast.ofJson_toJson, fun _ b _ => PendingBroadcast.ofJson_toJson b,
    fun _ => itemOf_row, fun _ _ hcanonical => itemOf_row_of_alike hcanonical⟩

/-- A message in the middle of its execution, whose payload is stored with its members in the
opposite order. -/
theorem stored_lossless_reversed :
    let m : Message := {
      sourceChain := "axelar", messageId := "0x01-0", sourceAddress := "", contractAddress := "SP1"
      payloadHash := "00ff", payload := [0, 255]
      extra := .obj [("step", .int 1), ("kind", .null)] }
    let item : WorkItem := {
      family := .messageApproved, key := "axelar:0x01-0", payload := .message m, retry := 1
      createdAt := some 1000000 }
    Payload.ofJson (Payload.message m).toJson = .ok (.message m) ∧
    ∃ payload, (Payload.message m).Alike payload ∧
      itemOf (item.row (.obj (Payload.message m).toFields.reverse)) =
        .ok { item with payload } := by
  intro m item
  have hcanonical : item.payload.Canonical := by
    rintro _ ⟨⟩
    decide
  have hstored : item.payload.toJson.Alike (.obj (Payload.message m).toFields.reverse) :=
    .of_perm (List.reverse_perm _).symm (by decide)
  obtain ⟨hpayload, -, -, -, -, hrow⟩ := stored_lossless
  exact ⟨hpayload _ hcanonical, hrow item _ hcanonical hstored⟩

end Database

end ChainRelay
