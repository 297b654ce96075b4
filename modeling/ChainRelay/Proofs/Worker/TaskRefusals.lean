import ChainRelay.Proofs.Json.Reading
import ChainRelay.Proofs.Worker.BroadcastReingestion
import ChainRelay.Proofs.Worker.TaskEffects

/-!
# Why tasks are refused

The body of a task is an object that nobody has checked, and handlers read it member by member. What
they find missing, empty or badly encoded is a fault of the domain, and a run contains it. A few
members are taken for objects, or read as text of objects, without a check. There the fault is
another one, and nothing contains it.

## The contract

The list of these places is complete: it says for every body and every type of tasks, known or not,
with which fault a task is refused that is none of the domain.

## Main definitions

* `Relayer.itemOf` — the work item of a task
* `Fields.Gives` — an object gives a member that a task must have
* `Escapes` — the bodies that get past all checks, with the fault they lead to

## Main results

* `Relayer.refuses_iff` — a task is refused with the fault of its reader
* `Relayer.refuses_uncaught_iff` — with which faults, unless they are of the domain
-/

namespace ChainRelay

variable {σ τ α β : Type}

/-! ### What a task is read for -/

namespace Relayer

/-- The work item of a task, for the three types of tasks that have one. -/
def itemOf (task : HubTask) : Option (Except Fault WorkItem) :=
  match task.type with
  | "GATEWAY_TX" => some (gatewayItem task)
  | "EXECUTE" => some (messageItem task)
  | "REFUND" => some (refundItem task)
  | _ => none

variable [Seconds τ] {r : Relayer σ} {task : HubTask} {fault : Fault}

theorem taskHandler_of_itemOf {found : Except Fault WorkItem} (h : itemOf task = some found) :
    (r.taskHandler task : Option (Work σ τ Unit)) = some (enqueueItem found) := by
  rw [itemOf] at h
  split at h <;> cases h <;> simp_all [taskHandler]

/-- A task of any other type is passed over. -/
theorem taskHandler_eq_none (hitem : itemOf task = none) (hbroadcast : r.broadcastOf task = none) :
    (r.taskHandler task : Option (Work σ τ Unit)) = none := by
  rw [itemOf] at hitem
  rw [broadcastOf] at hbroadcast
  split at hitem <;> cases hitem
  split at hbroadcast <;> cases hbroadcast
  simp_all [taskHandler]

/-- A task with a work item is upserted. -/
theorem processTask_of_item {item : WorkItem} (h : itemOf task = some (.ok item))
    (w : World σ τ) : ∃ trace, r.processTask task w =
      (.ok true, { w with store := (w.store.upsert w.wallNow item).2, trace }) := by
  rw [processTask, taskHandler_of_itemOf h]
  exact ⟨_, rfl⟩

/-- A task is refused with the fault of its reader. -/
theorem refuses_iff (τ : Type) [Seconds τ] (r : Relayer σ)
    (httl : r.broadcasts.ttl.check = .ok ()) (w : World σ τ) {task : HubTask} {fault : Fault} :
    r.Refuses τ task fault ↔
      itemOf task = some (.error fault) ∨ r.broadcastOf task = some (.error fault) := by
  constructor
  · intro h
    have hrefused := h w
    cases hitem : itemOf task with
    | some found =>
      cases found with
      | error fault' =>
        rw [processTask, taskHandler_of_itemOf hitem] at hrefused
        cases hrefused
        exact .inl rfl
      | ok item =>
        obtain ⟨trace, hprocess⟩ := processTask_of_item (r := r) hitem w
        rw [hprocess] at hrefused
        cases hrefused
    | none =>
      cases hbroadcast : r.broadcastOf task with
      | some found =>
        cases found with
        | error fault' =>
          rw [processTask_refused hbroadcast] at hrefused
          cases hrefused
          exact .inr rfl
        | ok keyed =>
          rw [processTask_of_broadcast hbroadcast, BroadcastQueue.written, httl] at hrefused
          cases hrefused
      | none =>
        rw [processTask, taskHandler_eq_none hitem hbroadcast] at hrefused
        cases hrefused
  · rintro (hitem | hbroadcast) w
    · rw [processTask, taskHandler_of_itemOf hitem]
      rfl
    · exact processTask_refused hbroadcast w

end Relayer

/-! ### Members that a task must have -/

/-- An object gives a member: neither missing nor `null` nor an empty text. -/
def Fields.Gives (fields : Fields) (name : String) (value : Json) : Prop :=
  TokenServices.field fields name = value ∧ value ≠ .null ∧ value ≠ .str ""

namespace Relayer

variable {fields : Fields} {value found : Json} {name : String} {fault : Fault}

theorem required_obj_eq_ok : required (.obj fields) name = .ok found ↔ fields.Gives name found := by
  rw [required, Json.member_obj, ok_bind, Fields.Gives]
  generalize TokenServices.field fields name = v
  constructor
  · intro h
    split at h <;> cases h
    exact ⟨rfl, by assumption, by assumption⟩
  · rintro ⟨rfl, hnull, hempty⟩
    split
    · exact absurd rfl hnull
    · exact absurd rfl hempty
    · rfl

theorem required_of_memberless (h : value.Memberless) :
    required value name = .error (.notAnObject value.kind "get") := by
  rw [required, Json.member_of_memberless h, error_bind]

/-- What an object does not give is a fault of the domain; only a value without members is another
one. -/
theorem uncaught_required_iff : Uncaught (required value name) fault ↔
    value.Memberless ∧ fault = .notAnObject value.kind "get" := by
  rw [required, Uncaught.bind_iff, Json.uncaught_member_iff, or_iff_left_iff_imp]
  rintro ⟨v, -, h⟩
  split at h <;> simp at h

@[simp] theorem not_uncaught_required : ¬ Uncaught (required (.obj fields) name) fault :=
  fun h => Json.not_memberless_obj (uncaught_required_iff.mp h).1

@[simp] theorem not_uncaught_base64Of : ¬ Uncaught (base64Of value name) fault := by
  rw [base64Of]
  split <;> simp

@[simp] theorem not_uncaught_decodeBase64 {text : String} :
    ¬ Uncaught (decodeBase64 text) fault := by
  rw [decodeBase64]
  split <;> simp

end Relayer

/-! ### Bodies that get past the checks -/

/-- What a task about a contract names beside the contract. -/
def contractSubject? : String → Option String
  | "REACT_TO_EXPIRED_SIGNING_SESSION" => some "sessionID"
  | "REACT_TO_RETRIABLE_POLL" => some "pollID"
  | _ => none

/-- The bodies that get past all checks of the handler of a type, and the fault where it does not
check. -/
inductive Escapes (type : String) (body : Fields) : Fault → Prop
  /-- The message to execute has no members. -/
  | message {message : Json} (known : type = "EXECUTE") (given : body.Gives "message" message)
      (memberless : message.Memberless) : Escapes type body (.notAnObject message.kind "get")
  /-- Neither has the gas that pays for it, -/
  | gas {message : Fields} {chain id gas : Json} (known : type = "EXECUTE")
      (given : body.Gives "message" (.obj message))
      (givenChain : message.Gives "sourceChain" chain) (givenId : message.Gives "messageID" id)
      (found : TokenServices.field body "availableGasBalance" = gas)
      (truthy : gas.truthy = true) (memberless : gas.Memberless) :
      Escapes type body (.notAnObject gas.kind "get")
  /-- nor the message of a refund, -/
  | refunded {message remaining : Json} (known : type = "REFUND")
      (given : body.Gives "message" message)
      (givenRemaining : body.Gives "remainingGasBalance" remaining)
      (memberless : message.Memberless) : Escapes type body (.notAnObject message.kind "get")
  /-- nor what remains of its gas. -/
  | remaining {message : Fields} {id recipient remaining : Json} (known : type = "REFUND")
      (given : body.Gives "message" (.obj message))
      (givenRemaining : body.Gives "remainingGasBalance" remaining)
      (givenId : message.Gives "messageID" id)
      (givenRecipient : body.Gives "refundRecipientAddress" recipient)
      (memberless : remaining.Memberless) : Escapes type body (.notAnObject remaining.kind "get")
  /-- The request of a contract is a text whose lists and objects are nested too deep. -/
  | request {subject : String} {contract id request : Json} {isObject : Bool}
      (known : contractSubject? type = some subject)
      (givenContract : body.Gives "invokedContractAddress" contract)
      (givenId : body.Gives subject id) (given : body.Gives "requestPayload" request)
      (text : request.kind = .text)
      (deep : Json.parse request.shown = .error (.tooDeep isObject)) :
      Escapes type body (.tooDeep isObject)

namespace Relayer

variable {task : HubTask} {body : Fields} {fault : Fault}

/-- The data of a gateway are only looked for. -/
theorem not_uncaught_gatewayItem (hbody : task.body = .obj body) :
    ¬ Uncaught (gatewayItem task) fault := by
  rw [gatewayItem, hbody, Uncaught.bind_iff]
  simp

/-- The gas that pays for a message may have no members. -/
theorem uncaught_gasOf_iff : Uncaught (gasOf (.obj body)) fault ↔
    ∃ gas, TokenServices.field body "availableGasBalance" = gas ∧ gas.truthy = true ∧
      gas.Memberless ∧ fault = .notAnObject gas.kind "get" := by
  rw [gasOf, Json.member_obj, ok_bind]
  obtain ⟨gas, hgas⟩ : ∃ gas, TokenServices.field body "availableGasBalance" = gas := ⟨_, rfl⟩
  rw [hgas]
  constructor
  · intro h
    rcases Uncaught.bind_iff.mp h with h | ⟨token, htoken, h⟩
    · obtain ⟨hmemberless, rfl⟩ := Json.uncaught_member_iff.mp h
      obtain ⟨htruthy, hgasless⟩ := Json.memberless_orElse_obj.mp hmemberless
      exact ⟨gas, rfl, htruthy, hgasless, by rw [Json.orElse, if_pos htruthy]⟩
    · -- the amount is asked of what the token was asked of
      split at h
      · exact absurd h Uncaught.not_ok
      · rcases Uncaught.bind_iff.mp h with h | ⟨amount, -, h⟩
        · rw [Json.member_of_memberless (Json.uncaught_member_iff.mp h).1] at htoken
          cases htoken
        · exact absurd h Uncaught.not_ok
  · rintro ⟨_, rfl, htruthy, hmemberless, rfl⟩
    refine Uncaught.bind_iff.mpr (.inl ?_)
    rw [Json.orElse, if_pos htruthy]
    exact Json.uncaught_member_iff.mpr ⟨hmemberless, rfl⟩

/-- A message to execute that has no members. -/
theorem messageItem_of_memberless {message : Json} (hbody : task.body = .obj body)
    (given : body.Gives "message" message) (memberless : message.Memberless) :
    messageItem task = .error (.notAnObject message.kind "get") := by
  rw [messageItem, hbody, required_obj_eq_ok.mpr given, ok_bind,
    required_of_memberless memberless, error_bind]

/-- Of a message with members, chain and identifier are looked for before its gas. -/
theorem uncaught_messageItem_of_obj {message : Fields} (hbody : task.body = .obj body)
    (given : body.Gives "message" (.obj message)) :
    Uncaught (messageItem task) fault ↔ ∃ chain id, message.Gives "sourceChain" chain ∧
      message.Gives "messageID" id ∧ Uncaught (gasOf (.obj body)) fault := by
  rw [messageItem, hbody, required_obj_eq_ok.mpr given, ok_bind]
  simp only [Uncaught.bind_iff, not_uncaught_required, required_obj_eq_ok, Json.member_obj,
    not_uncaught_base64Of, ok_bind, Uncaught.not_ok, false_or, or_false, and_false, exists_false,
    exists_and_left]

/-- **A message to execute** gets past the checks if it has no members, or if its gas has none. -/
theorem uncaught_messageItem_iff (hbody : task.body = .obj body) :
    Uncaught (messageItem task) fault ↔ Escapes "EXECUTE" body fault := by
  constructor
  · intro h
    obtain ⟨message, given⟩ : ∃ message, body.Gives "message" message := by
      rw [messageItem, hbody] at h
      obtain ⟨message, hmessage, -⟩ :=
        (Uncaught.bind_iff.mp h).resolve_left not_uncaught_required
      exact ⟨message, required_obj_eq_ok.mp hmessage⟩
    rcases message.memberless_or_obj with memberless | ⟨message, rfl⟩
    · rw [messageItem_of_memberless hbody given memberless] at h
      obtain ⟨⟨⟩, -⟩ := h
      exact .message rfl given memberless
    · obtain ⟨chain, id, hchain, hid, hgas⟩ := (uncaught_messageItem_of_obj hbody given).mp h
      obtain ⟨gas, found, truthy, memberless, rfl⟩ := uncaught_gasOf_iff.mp hgas
      exact .gas rfl given hchain hid found truthy memberless
  · intro h
    cases h with
    | message _ given memberless =>
      rw [messageItem_of_memberless hbody given memberless]
      exact ⟨rfl, rfl⟩
    | gas _ given givenChain givenId found truthy memberless =>
      exact (uncaught_messageItem_of_obj hbody given).mpr ⟨_, _, givenChain, givenId,
        uncaught_gasOf_iff.mpr ⟨_, found, truthy, memberless, rfl⟩⟩
    | refunded known | remaining known => exact absurd known (by decide)
    | request known => cases known

/-- The message of a refund that has no members. -/
theorem refundItem_of_memberless {message remaining : Json} (hbody : task.body = .obj body)
    (given : body.Gives "message" message)
    (givenRemaining : body.Gives "remainingGasBalance" remaining)
    (memberless : message.Memberless) :
    refundItem task = .error (.notAnObject message.kind "get") := by
  rw [refundItem, hbody, required_obj_eq_ok.mpr given, ok_bind,
    required_obj_eq_ok.mpr givenRemaining, ok_bind, required_of_memberless memberless, error_bind]

/-- Of a message with members, identifier and recipient are looked for before the amount. -/
theorem uncaught_refundItem_of_obj {message : Fields} {remaining : Json}
    (hbody : task.body = .obj body) (given : body.Gives "message" (.obj message))
    (givenRemaining : body.Gives "remainingGasBalance" remaining) :
    Uncaught (refundItem task) fault ↔ ∃ id recipient, message.Gives "messageID" id ∧
      body.Gives "refundRecipientAddress" recipient ∧ remaining.Memberless ∧
        fault = .notAnObject remaining.kind "get" := by
  rw [refundItem, hbody, required_obj_eq_ok.mpr given, ok_bind,
    required_obj_eq_ok.mpr givenRemaining, ok_bind]
  -- the amount is asked of what the token was asked of
  have hremaining : (Uncaught (remaining.member "tokenID") fault ∨
      ∃ token, remaining.member "tokenID" = .ok token ∧
        Uncaught (required remaining "amount") fault) ↔
      remaining.Memberless ∧ fault = .notAnObject remaining.kind "get" := by
    rw [uncaught_required_iff, Json.uncaught_member_iff, or_iff_left_iff_imp]
    exact fun ⟨_, _, h⟩ => h
  simp only [Uncaught.bind_iff, not_uncaught_required, required_obj_eq_ok, Uncaught.not_ok,
    false_or, or_false, and_false, exists_false, hremaining, exists_and_left]

/-- **A refund** gets past the checks if its message has no members, or if what remains has none. -/
theorem uncaught_refundItem_iff (hbody : task.body = .obj body) :
    Uncaught (refundItem task) fault ↔ Escapes "REFUND" body fault := by
  constructor
  · intro h
    obtain ⟨message, remaining, given, givenRemaining⟩ : ∃ message remaining,
        body.Gives "message" message ∧ body.Gives "remainingGasBalance" remaining := by
      rw [refundItem, hbody] at h
      obtain ⟨message, hmessage, h⟩ :=
        (Uncaught.bind_iff.mp h).resolve_left not_uncaught_required
      obtain ⟨remaining, hremaining, -⟩ :=
        (Uncaught.bind_iff.mp h).resolve_left not_uncaught_required
      exact ⟨message, remaining, required_obj_eq_ok.mp hmessage,
        required_obj_eq_ok.mp hremaining⟩
    rcases message.memberless_or_obj with memberless | ⟨message, rfl⟩
    · rw [refundItem_of_memberless hbody given givenRemaining memberless] at h
      obtain ⟨⟨⟩, -⟩ := h
      exact .refunded rfl given givenRemaining memberless
    · obtain ⟨id, recipient, hid, hrecipient, memberless, rfl⟩ :=
        (uncaught_refundItem_of_obj hbody given givenRemaining).mp h
      exact .remaining rfl given givenRemaining hid hrecipient memberless
  · intro h
    cases h with
    | refunded _ given givenRemaining memberless =>
      rw [refundItem_of_memberless hbody given givenRemaining memberless]
      exact ⟨rfl, rfl⟩
    | remaining _ given givenRemaining givenId givenRecipient memberless =>
      exact (uncaught_refundItem_of_obj hbody given givenRemaining).mpr
        ⟨_, _, givenId, givenRecipient, memberless, rfl⟩
    | message known | gas known => exact absurd known (by decide)
    | request known => cases known

/-! ### Broadcasts -/

/-- The message of a broadcast is checked before it is used. -/
theorem messageOf_eq_ok {message : Fields}
    (h : TokenServices.messageOf (.obj body) = .ok message) :
    TokenServices.field body "message" = .obj message ∧
      (TokenServices.field message "messageID").truthy = true ∧
      (TokenServices.field message "sourceChain").truthy = true := by
  rw [TokenServices.messageOf, Json.member_obj, ok_bind] at h
  split at h
  · split at h <;> cases h
    rename_i hmessage hgiven
    rw [Bool.and_eq_true] at hgiven
    exact ⟨hmessage, hgiven⟩
  · cases h

@[simp] theorem not_uncaught_messageOf : ¬ Uncaught (TokenServices.messageOf (.obj body)) fault := by
  rw [TokenServices.messageOf, Json.member_obj, ok_bind]
  split
  · split <;> simp
  · simp

@[simp] theorem not_uncaught_payloadOf : ¬ Uncaught (TokenServices.payloadOf (.obj body)) fault := by
  rw [TokenServices.payloadOf, Json.member_obj, ok_bind, Uncaught.bind_iff]
  simp

/-- The two requests that are made of a message check it first, -/
theorem messageOf_of_proofRequest {services : TokenServices} {request : Fields}
    (h : services.proofRequest (.obj body) = .ok request) :
    ∃ message, TokenServices.messageOf (.obj body) = .ok message := by
  rw [TokenServices.proofRequest] at h
  obtain ⟨message, hmessage, -⟩ := exists_of_bind_eq_ok h
  exact ⟨message, hmessage⟩

theorem messageOf_of_verifyRequest {services : TokenServices} {request : Fields}
    (h : services.verifyRequest (.obj body) = .ok request) :
    ∃ message, TokenServices.messageOf (.obj body) = .ok message := by
  rw [TokenServices.verifyRequest] at h
  obtain ⟨message, hmessage, -⟩ := exists_of_bind_eq_ok h
  exact ⟨message, hmessage⟩

/-- and after that they read texts only. -/
theorem not_uncaught_proofRequest (services : TokenServices) :
    ¬ Uncaught (services.proofRequest (.obj body)) fault := by
  rw [TokenServices.proofRequest, Uncaught.bind_iff]
  rintro (h | ⟨message, -, h⟩)
  · exact not_uncaught_messageOf h
  · split at h
    · simp [Uncaught.bind_iff] at h
    · exact Uncaught.not_ok h

theorem not_uncaught_verifyRequest (services : TokenServices) :
    ¬ Uncaught (services.verifyRequest (.obj body)) fault := by
  rw [TokenServices.verifyRequest, Uncaught.bind_iff]
  rintro (h | ⟨message, -, h⟩)
  · exact not_uncaught_messageOf h
  rw [Json.member_obj, ok_bind] at h
  obtain ⟨hash, -, h⟩ := (Uncaught.bind_iff.mp h).resolve_left not_uncaught_decodeBase64
  split at h
  · simp [Uncaught.bind_iff] at h
  · exact Uncaught.not_ok h

/-- A broadcast for a message gets past no check: its request has found the members that name it. -/
theorem not_uncaught_messageBroadcast {request : Json → Except Fault Fields} {space type : String}
    (hbody : task.body = .obj body) (hrequest : ¬ Uncaught (request (.obj body)) fault)
    (hchecks : ∀ fields, request (.obj body) = .ok fields →
      ∃ message, TokenServices.messageOf (.obj body) = .ok message) :
    ¬ Uncaught (messageBroadcast request space type task) fault := by
  rw [messageBroadcast, hbody, Uncaught.bind_iff]
  rintro (h | ⟨fields, hfields, h⟩)
  · exact hrequest h
  obtain ⟨message, hmessage⟩ := hchecks fields hfields
  obtain ⟨hgiven, hid, hchain⟩ := messageOf_eq_ok hmessage
  have htruthy : (TokenServices.field body "message").truthy = true := by
    rw [hgiven, Json.truthy]
    cases message with
    | nil => cases hid
    | cons => rfl
  rw [Json.need_obj_of_truthy htruthy, ok_bind, hgiven, Json.need_obj_of_truthy hchain, ok_bind,
    Json.need_obj_of_truthy hid, ok_bind] at h
  exact Uncaught.not_ok h

/-- A request that is given gets past the checks if it is a text nested too deep. -/
theorem uncaught_requestFields_iff {request : Json} : Uncaught (requestFields request) fault ↔
    request.kind = .text ∧ ∃ isObject, Json.parse request.shown = .error (.tooDeep isObject) ∧
      fault = .tooDeep isObject := by
  cases request with
  | str | torn =>
    rw [requestFields]
    split
    · rename_i hparse
      rw [hparse]
      simp
    · rename_i hparse
      simp only [hparse, Json.kind, true_and, Except.error.injEq, Json.ParseError.tooDeep.injEq,
        exists_eq_left']
      constructor
      · rintro ⟨⟨⟩, -⟩
        rfl
      · rintro rfl
        exact ⟨rfl, rfl⟩
    · rename_i hdeep
      constructor
      · exact fun h => absurd h Uncaught.not_validation
      · rintro ⟨-, isObject, hparse, -⟩
        exact absurd hparse (hdeep isObject)
  | _ => simp [requestFields, Json.kind]

/-- **A broadcast for a contract** gets past the checks if its request does. -/
theorem uncaught_contractBroadcast_iff {subject space type type' : String}
    (hbody : task.body = .obj body) (known : contractSubject? type' = some subject) :
    Uncaught (contractBroadcast subject space type task) fault ↔ Escapes type' body fault := by
  rw [contractBroadcast, hbody, requestOf]
  simp only [Uncaught.bind_iff, not_uncaught_required, required_obj_eq_ok, Uncaught.not_ok,
    uncaught_requestFields_iff, false_or, or_false, and_false, exists_false]
  constructor
  · rintro ⟨contract, hcontract, id, hid, request, hrequest, text, isObject, deep, rfl⟩
    exact .request known hcontract hid hrequest text deep
  · intro h
    cases h with
    | request known' givenContract givenId given text deep =>
      cases known.symm.trans known'
      exact ⟨_, givenContract, _, givenId, _, given, text, _, deep, rfl⟩
    | message known' | gas known' | refunded known' | remaining known' =>
      rw [known'] at known
      cases known

/-! ### All tasks -/

variable {r : Relayer σ}

theorem escapes_of_itemOf {found : Except Fault WorkItem} (hbody : task.body = .obj body)
    (h : itemOf task = some found) (hfound : Uncaught found fault) :
    Escapes task.type body fault := by
  rw [itemOf] at h
  split at h <;> cases h
  · exact absurd hfound (not_uncaught_gatewayItem hbody)
  · rename_i htype
    rw [htype]
    exact (uncaught_messageItem_iff hbody).mp hfound
  · rename_i htype
    rw [htype]
    exact (uncaught_refundItem_iff hbody).mp hfound

theorem escapes_of_broadcastOf {found : Except Fault (String × PendingBroadcast)}
    (hbody : task.body = .obj body) (h : r.broadcastOf task = some found)
    (hfound : Uncaught found fault) : Escapes task.type body fault := by
  rw [broadcastOf] at h
  split at h <;> cases h
  · exact absurd hfound (not_uncaught_messageBroadcast hbody
      (not_uncaught_proofRequest r.services) fun _ => messageOf_of_proofRequest)
  · exact absurd hfound (not_uncaught_messageBroadcast hbody
      (not_uncaught_verifyRequest r.services) fun _ => messageOf_of_verifyRequest)
  · rename_i htype
    exact (uncaught_contractBroadcast_iff hbody (by rw [htype, contractSubject?])).mp hfound
  · rename_i htype
    exact (uncaught_contractBroadcast_iff hbody (by rw [htype, contractSubject?])).mp hfound

/-- A task about a contract asks for a broadcast. -/
theorem broadcastOf_of_contractSubject (r : Relayer σ) {subject : String}
    (h : contractSubject? task.type = some subject) : ∃ space type,
      r.broadcastOf task = some (contractBroadcast subject space type task) := by
  unfold contractSubject? at h
  split at h <;> cases h
  · rename_i htype
    exact ⟨"retry_proof_", "CONSTRUCT_PROOF", by simp only [broadcastOf, htype]⟩
  · rename_i htype
    exact ⟨"retry_verify_", "VERIFY", by simp only [broadcastOf, htype]⟩

theorem found_of_escapes (r : Relayer σ) (hbody : task.body = .obj body)
    (h : Escapes task.type body fault) : fault.isDomain = false ∧
      (itemOf task = some (.error fault) ∨ r.broadcastOf task = some (.error fault)) := by
  have hcases : task.type = "EXECUTE" ∨ task.type = "REFUND" ∨
      ∃ subject, contractSubject? task.type = some subject := by
    cases h with
    | message known | gas known => exact .inl known
    | refunded known | remaining known => exact .inr (.inl known)
    | request known => exact .inr (.inr ⟨_, known⟩)
  rcases hcases with htype | htype | ⟨subject, known⟩
  · rw [htype] at h
    obtain ⟨hitem, hdomain⟩ := (uncaught_messageItem_iff hbody).mpr h
    exact ⟨hdomain, .inl (by simp only [itemOf, htype, hitem])⟩
  · rw [htype] at h
    obtain ⟨hitem, hdomain⟩ := (uncaught_refundItem_iff hbody).mpr h
    exact ⟨hdomain, .inl (by simp only [itemOf, htype, hitem])⟩
  · obtain ⟨space, type, hbroadcast⟩ := broadcastOf_of_contractSubject r known
    obtain ⟨hfound, hdomain⟩ := (uncaught_contractBroadcast_iff hbody known).mpr h
    exact ⟨hdomain, .inr (by rw [hbroadcast, hfound])⟩

/-- **Why a task is refused**, if not with a fault of the domain. -/
theorem refuses_uncaught_iff (τ : Type) [Seconds τ] (r : Relayer σ)
    (httl : r.broadcasts.ttl.check = .ok ()) (w : World σ τ) (hbody : task.body = .obj body) :
    r.Refuses τ task fault ∧ fault.isDomain = false ↔ Escapes task.type body fault := by
  rw [refuses_iff τ r httl w]
  constructor
  · rintro ⟨hitem | hbroadcast, hdomain⟩
    · exact escapes_of_itemOf hbody hitem ⟨rfl, hdomain⟩
    · exact escapes_of_broadcastOf hbody hbroadcast ⟨rfl, hdomain⟩
  · intro h
    obtain ⟨hdomain, hfound⟩ := found_of_escapes r hbody h
    exact ⟨hfound, hdomain⟩

end Relayer

end ChainRelay
