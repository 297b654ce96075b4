import ChainRelay.Http.ChainService
import ChainRelay.Http.HubService
import ChainRelay.Http.SignerService
import ChainRelay.Proofs.Json.Reading

/-!
# What services have to write

The answers of services are JSON that is taken apart without a check. Each reader of an answer has a
shape that it takes for granted. An answer of that shape is read. Any other one is a fault that is
none of a failing collaborator, or it is read as something that is not of its type: some members are
handed on as they came, and their users are promised a text or nothing, a whole number or nothing, an
object or nothing.

## Main definitions

* `HubTask.Written`, `EventResult.Written` — what the hub has to write
* `ChainTransaction.Written`, `AccountBalance.Written`, `ContractEvent.Written` — what the chain has
  to write
* `SignedTransaction.Written`, `BuildOutcome.Written` — what the signer has to write
* `ChainTransaction.Typed` and the like — a member that was handed on is of its kind

## Main results

* `HubTask.kept_ofJson_iff` and the like — what is written so is read, and nothing else
-/

namespace ChainRelay

open TokenServices (field)

/-! ### Kinds of members -/

namespace Json

/-- A text, or nothing. -/
def IsTextOrNull (value : Json) : Prop := value.kind = .text ∨ value.kind = .nothing

/-- A whole number, or nothing. Truth values count as whole numbers. -/
def IsWholeOrNull (value : Json) : Prop :=
  value.kind = .whole ∨ value.kind = .truth ∨ value.kind = .nothing

/-- An object, or nothing. -/
def IsObjectOrNull (value : Json) : Prop := value.kind = .object ∨ value.kind = .nothing

/-- What counts as false, or what has parts that all are of some kind. -/
def Lists (p : Json → Prop) (value : Json) : Prop :=
  ∃ items, (value.orElse (.arr [])).parts? = some items ∧ ∀ item ∈ items, p item

end Json

/-! ### The hub -/

/-- A task. -/
structure HubTask.Written (fields : Fields) : Prop where
  id : ∃ id, Fields.get? fields "id" = some id
  type : ∃ type, Fields.get? fields "type" = some type
  /-- The body counts as false, or denotes an object. -/
  body : ∃ body, ((field fields "task").orElse (.obj [])).toFields = .ok body

/-- The body of a task is an object. -/
def HubTask.Typed (task : HubTask) : Prop := task.body.kind = .object

theorem HubTask.offline_ofJson {item : Json} : Offline (ofJson item) := by
  refine Kept.offline_bind Json.offline_need fun _ => ?_
  refine Kept.offline_bind Json.offline_need fun _ => ?_
  refine Kept.offline_bind Json.offline_member fun _ => ?_
  exact Kept.offline_bind Json.offline_toFields fun _ => Kept.offline_pure

theorem HubTask.kept_ofJson_iff {item : Json} :
    Kept Typed (ofJson item) ↔ item.Is Written := by
  rw [ofJson, Kept.bind_iff, Json.kept_need_iff]
  refine Json.is_congr ?_
  rintro fields rfl
  simp only [Kept.bind_iff, Json.kept_need_iff, Json.kept_member_iff, Json.is_obj_iff,
    Kept.iff_of_offline Json.offline_toFields]
  constructor
  · rintro ⟨id, hid, type, htype, body, hbody, -⟩
    exact ⟨⟨id, hid⟩, ⟨type, htype⟩, ⟨body, hbody⟩⟩
  · rintro ⟨⟨id, hid⟩, ⟨type, htype⟩, ⟨body, hbody⟩⟩
    exact ⟨id, hid, type, htype, body, hbody, rfl⟩

theorem HubTask.kept_mapM_iff {items : List Json} :
    Kept (fun found => ∀ task ∈ found, task.Typed) (items.mapM ofJson) ↔
      ∀ item ∈ items, item.Is Written := by
  rw [Kept.mapM_iff fun _ _ => offline_ofJson]
  simp only [kept_ofJson_iff]

/-- The result for an event names a place in the post, or is about the event in its own place. -/
def EventResult.Written (fields : Fields) : Prop :=
  ∀ index, Fields.get? fields "index" = some index → index.Whole

/-- Results for a number of events. If there are as many, their errors are handed on. -/
def EventResult.ListedFor (count : Nat) (value : Json) : Prop :=
  ∃ items, (value.orElse (.arr [])).parts? = some items ∧ (∀ item ∈ items, item.Is Written) ∧
    (items.length = count →
      ∀ item ∈ items, item.Is fun fields => (field fields "error").IsTextOrNull)

/-- The error of a result is a text or nothing. -/
def EventResult.Typed (result : EventResult) : Prop := result.error.IsTextOrNull

theorem EventResult.offline_ofJson {place : Nat} {item : Json} : Offline (ofJson place item) := by
  refine Kept.offline_bind Json.offline_get fun _ => ?_
  refine Kept.offline_bind Json.offline_toInt fun _ => ?_
  refine Kept.offline_bind Json.offline_member fun _ => ?_
  refine Kept.offline_bind Json.offline_member fun _ => ?_
  exact Kept.offline_bind Json.offline_member fun _ => Kept.offline_pure

theorem EventResult.kept_ofJson_iff {p : Json → Prop} {place : Nat} {item : Json} :
    Kept (fun result => p result.error) (ofJson place item) ↔
      item.Is fun fields => Written fields ∧ p (field fields "error") := by
  rw [ofJson, Kept.bind_iff, Json.kept_get_iff]
  refine Json.is_congr ?_
  rintro fields rfl
  simp only [Kept.bind_iff, Json.kept_member_iff, Json.is_obj_iff,
    Kept.iff_of_offline Json.offline_toInt]
  rw [Written]
  cases Fields.get? fields "index" with
  | none => simp [Json.toInt, Pure.pure, Except.pure]
  | some index => simp [Json.Whole, Pure.pure, Except.pure]

theorem EventResult.kept_mapM_iff {p : Json → Prop} {items : List Json} :
    Kept (fun results => ∀ result ∈ results, p result.error)
        (items.zipIdx.mapM fun entry => ofJson entry.2 entry.1) ↔
      ∀ item ∈ items, item.Is fun fields => Written fields ∧ p (field fields "error") := by
  rw [Kept.mapM_iff fun _ _ => offline_ofJson]
  simp only [kept_ofJson_iff]
  have hplaces := List.forall_mem_map (f := Prod.fst) (l := items.zipIdx)
    (P := fun item => item.Is fun fields => Written fields ∧ p (field fields "error"))
  rw [List.zipIdx_map_fst] at hplaces
  exact hplaces.symm

theorem EventResult.kept_listedFor_iff {count : Nat} {value : Json} :
    Kept (fun items : List Json => Kept
        (fun results => results.length = count → ∀ result ∈ results, result.Typed)
        (items.zipIdx.mapM fun entry => ofJson entry.2 entry.1)) (value.orElse (.arr [])).parts ↔
      ListedFor count value := by
  rw [Json.kept_parts_iff, ListedFor]
  refine exists_congr fun items => and_congr_right fun _ => ?_
  have hlength : ∀ results, (items.zipIdx.mapM fun entry => ofJson entry.2 entry.1) = .ok results →
      results.length = items.length := fun results h => by
    rw [Kept.length_of_mapM h, List.length_zipIdx]
  rw [Kept.congr_of_ok fun results h => by rw [hlength results h]]
  by_cases hcount : items.length = count
  · rw [Kept.congr fun results => forall_prop_of_true hcount, forall_prop_of_true hcount]
    simp only [Typed, kept_mapM_iff, Json.is_and_iff]
    exact ⟨fun h => ⟨fun item hi => (h item hi).1, fun item hi => (h item hi).2⟩,
      fun h item hi => ⟨h.1 item hi, h.2 item hi⟩⟩
  · have hany (results : List EventResult) :
        (items.length = count → ∀ result ∈ results, result.Typed) ↔ ∀ result ∈ results, True :=
      iff_of_true (fun h => absurd h hcount) fun _ _ => trivial
    rw [Kept.congr hany, kept_mapM_iff (p := fun _ => True), forall_prop_of_false hcount]
    simp only [and_true]

/-- A status that is unknown belongs to a failing collaborator. -/
theorem BroadcastStatus.kept_ofJson (status : Json) : Kept (fun _ => True) (ofJson status) := by
  rw [ofJson]
  split
  · exact trivial
  · rfl

/-! ### The chain -/

/-- The height of a transaction is a whole number or nothing, and what it was read from is an
object. -/
structure ChainTransaction.Typed (transaction : ChainTransaction) : Prop where
  height : transaction.burnBlockHeight.IsWholeOrNull
  raw : transaction.raw.kind = .object

/-- A transaction. -/
def ChainTransaction.Written (fields : Fields) : Prop :=
  (field fields "burn_block_height").IsWholeOrNull

theorem ChainTransaction.kept_ofJson_iff {txHash : String} {data : Json} :
    Kept Typed (ofJson txHash data) ↔ data.Is Written := by
  rw [ofJson, Kept.bind_iff, Json.kept_member_iff]
  refine Json.is_congr ?_
  rintro fields rfl
  simp only [Kept.bind_iff, Json.kept_member_iff, Json.is_obj_iff]
  exact ⟨fun h => h.height, fun h => ⟨h, rfl⟩⟩

theorem AccountBalance.offline_amount {holding : Json} : Offline (amount holding) :=
  Kept.offline_bind Json.offline_member fun _ => Json.offline_toInt

/-- What is held of something. -/
def AccountBalance.Holding (fields : Fields) : Prop :=
  ((field fields "balance").orElse (.int 0)).Whole

/-- What an account holds. -/
structure AccountBalance.Written (fields : Fields) : Prop where
  tokens : (field fields "fungible_tokens").MayBe fun held => ∀ m ∈ held, m.2.MayBe Holding
  stx : (field fields "stx").MayBe Holding

theorem AccountBalance.kept_amount_iff {holding : Json} :
    Kept (fun _ => True) (amount holding) ↔ holding.MayBe Holding := by
  rw [amount, Kept.bind_iff, Json.kept_member_iff]
  simp only [Kept.iff_of_offline Json.offline_toInt, and_true]
  rfl

theorem AccountBalance.kept_ofJson_iff {data : Json} :
    Kept (fun _ => True) (ofJson data) ↔ data.Is Written := by
  rw [ofJson, Kept.bind_iff, Json.kept_member_iff]
  refine Json.is_congr ?_
  rintro fields rfl
  have hoffline (m : String × Json) : Offline (do return (m.1, ← amount m.2)) :=
    Kept.offline_bind offline_amount fun _ => Kept.offline_pure
  simp only [Kept.bind_iff, Json.kept_member_iff, Json.kept_members_iff, Json.is_obj_iff,
    Kept.mapM_const_iff fun m _ => hoffline m, Kept.pure_iff, kept_amount_iff]
  constructor
  · rintro ⟨held, hheld, hstx, htokens⟩
    exact ⟨⟨held, hheld, htokens⟩, hstx⟩
  · rintro ⟨⟨held, hheld, htokens⟩, hstx⟩
    exact ⟨held, hheld, hstx, htokens⟩

/-- An event of a contract. -/
structure ContractEvent.Written (fields : Fields) : Prop where
  log : (field fields "contract_log").MayBe fun entry => (field entry "value").MayBe fun _ => True
  txId : ∃ txId, Fields.get? fields "tx_id" = some txId
  index : ∃ index, Fields.get? fields "event_index" = some index ∧ index.Whole

theorem ContractEvent.offline_ofJson {contract : String} {item : Json} :
    Offline (ofJson contract item) := by
  refine Kept.offline_bind Json.offline_member fun _ => ?_
  refine Kept.offline_bind Json.offline_need fun _ => ?_
  refine Kept.offline_bind Json.offline_need fun _ => ?_
  refine Kept.offline_bind Json.offline_toInt fun _ => ?_
  refine Kept.offline_bind Json.offline_member fun _ => ?_
  refine Kept.offline_bind Json.offline_member fun _ => ?_
  refine Kept.offline_bind Json.offline_member fun _ => ?_
  refine Kept.offline_bind Json.offline_member fun _ => ?_
  exact Kept.offline_bind Json.offline_member fun _ => Kept.offline_pure

theorem ContractEvent.kept_ofJson_iff {contract : String} {item : Json} :
    Kept (fun _ => True) (ofJson contract item) ↔ item.Is Written := by
  rw [ofJson, Kept.bind_iff, Json.kept_member_iff]
  refine Json.is_congr ?_
  rintro fields rfl
  simp only [Kept.bind_iff, Json.kept_member_iff, Json.kept_need_iff, Json.is_obj_iff,
    Kept.iff_of_offline Json.offline_toInt]
  constructor
  · rintro ⟨txId, htxId, index, hindex, n, hn, -, -, -, -, entry, hentry, value, hvalue, -⟩
    exact ⟨⟨entry, hentry, value, hvalue, trivial⟩, ⟨txId, htxId⟩, index, hindex, n, hn⟩
  · rintro ⟨⟨entry, hentry, value, hvalue, -⟩, ⟨txId, htxId⟩, index, hindex, n, hn⟩
    exact ⟨txId, htxId, index, hindex, n, hn, entry, hentry, entry, hentry, entry, hentry,
      value, hvalue, trivial⟩

theorem ContractEvent.kept_mapM_iff {contract : String} {items : List Json} :
    Kept (fun _ => True) (items.mapM (ofJson contract)) ↔ ∀ item ∈ items, item.Is Written := by
  rw [Kept.mapM_const_iff fun _ _ => offline_ofJson, true_and]
  simp only [kept_ofJson_iff]

/-! ### The signer -/

/-- The nonce of a signed transaction is a whole number or nothing. -/
def SignedTransaction.Typed (tx : SignedTransaction) : Prop := tx.nonce.IsWholeOrNull

/-- A signed transaction. -/
structure SignedTransaction.Written (fields : Fields) : Prop where
  txId : ∃ txId, Fields.get? fields "tx_id" = some txId
  serialized : ∃ serialized, Fields.get? fields "serialized" = some serialized
  nonce : (field fields "nonce").IsWholeOrNull

theorem SignedTransaction.offline_ofJson {data : Json} : Offline (ofJson data) := by
  refine Kept.offline_bind Json.offline_need fun _ => ?_
  refine Kept.offline_bind Json.offline_need fun _ => ?_
  exact Kept.offline_bind Json.offline_member fun _ => Kept.offline_pure

theorem SignedTransaction.kept_ofJson_iff {data : Json} :
    Kept Typed (ofJson data) ↔ data.Is Written := by
  rw [ofJson, Kept.bind_iff, Json.kept_need_iff]
  refine Json.is_congr ?_
  rintro fields rfl
  simp only [Kept.bind_iff, Json.kept_member_iff, Json.kept_need_iff, Json.is_obj_iff]
  constructor
  · rintro ⟨txId, htxId, serialized, hserialized, hnonce⟩
    exact ⟨⟨txId, htxId⟩, ⟨serialized, hserialized⟩, hnonce⟩
  · rintro ⟨⟨txId, htxId⟩, ⟨serialized, hserialized⟩, hnonce⟩
    exact ⟨txId, htxId, serialized, hserialized, hnonce⟩

/-- The members of an outcome that are handed on are of their kinds. -/
structure BuildOutcome.Typed (outcome : BuildOutcome) : Prop where
  transaction : ∀ tx, outcome.transaction = some tx → tx.Typed
  detail : outcome.detail.IsTextOrNull
  extra : outcome.extra.IsObjectOrNull

/-- The outcome of a build. -/
structure BuildOutcome.Written (fields : Fields) : Prop where
  /-- The transaction counts as false, or is one. -/
  transaction : (field fields "transaction").truthy = true →
    (field fields "transaction").Is SignedTransaction.Written
  detail : (field fields "detail").IsTextOrNull
  extra : (field fields "extra").IsObjectOrNull

theorem BuildOutcome.typed_iff {outcome : BuildOutcome} : outcome.Typed ↔
    (outcome.detail.IsTextOrNull ∧ outcome.extra.IsObjectOrNull) ∧
      ∀ tx, outcome.transaction = some tx → tx.Typed :=
  ⟨fun h => ⟨⟨h.detail, h.extra⟩, h.transaction⟩, fun h => ⟨h.2, h.1.1, h.1.2⟩⟩

theorem BuildOutcome.kept_ofJson_iff {data : Json} :
    Kept Typed (ofJson data) ↔ data.Is Written := by
  rw [ofJson, Kept.bind_iff, Json.kept_member_iff]
  refine Json.is_congr ?_
  rintro fields rfl
  simp only [Kept.bind_iff, Json.kept_member_iff, Json.is_obj_iff]
  cases htruthy : (field fields "transaction").truthy with
  | true =>
    rw [if_pos rfl]
    simp only [Kept.bind_iff, Kept.map_iff, Json.kept_member_iff, Json.kept_get_iff,
      Json.is_obj_iff, Kept.pure_iff, typed_iff, Option.some.injEq, forall_eq']
    rw [Kept.and_iff SignedTransaction.offline_ofJson, SignedTransaction.kept_ofJson_iff]
    constructor
    · rintro ⟨⟨hdetail, hextra⟩, hsigned⟩
      exact ⟨fun _ => hsigned, hdetail, hextra⟩
    · rintro ⟨hsigned, hdetail, hextra⟩
      exact ⟨⟨hdetail, hextra⟩, hsigned htruthy⟩
  | false =>
    rw [if_neg Bool.false_ne_true]
    simp only [Kept.bind_iff, Json.kept_member_iff, Json.kept_get_iff, Json.is_obj_iff,
      Kept.pure_iff, typed_iff, reduceCtorEq, false_implies, implies_true, and_true]
    constructor
    · rintro ⟨hdetail, hextra⟩
      exact ⟨fun h => absurd (htruthy.symm.trans h) Bool.false_ne_true, hdetail, hextra⟩
    · rintro ⟨-, hdetail, hextra⟩
      exact ⟨hdetail, hextra⟩

end ChainRelay
