import ChainRelay.Proofs.Http.Shapes
import ChainRelay.Proofs.Worker.BroadcastReingestion

/-!
# Operations on services

Each operation on a service is one exchange: something is asked, and what is answered is read. A
service that cannot be reached, or that says itself that it failed, is a failing collaborator. What
else it answers is read without a check, so that an answer of another shape ends the operation with a
fault that is not contained.

## The contract

For each operation there is a condition on the answer, and the operation ends with a value of its
type or with the fault of a failing collaborator exactly where the answer meets it. The condition
does not ask anything of an answer that is a failure by its status.

## Main definitions

* `Keeps` — how a call ends, with rules for each way of going on
* `Operation` — the operations of the hub, the chain and the signer
* `Operation.Fits` — what an operation takes for granted about an answer
* `Ends` — how an operation ends, by how its exchange ends

## Main results

* `Operation.ends_by_exchange` — the contract of every operation
* `pageHub_aborts` — an answer that is no JSON, and the call that it ends
-/

namespace ChainRelay

open TokenServices (field)

namespace Http

variable {σ α β : Type}

/-! ### Calls -/

/-- A call ends with a value that satisfies `p`, or with the fault of a failing collaborator. -/
def Keeps (p : α → Prop) (call : Call σ α) (s : σ) : Prop := Kept p (call s).1

namespace Keeps

variable {p : α → Prop} {s : σ}

theorem pure_iff {a : α} : Keeps p (pure a : Call σ α) s ↔ p a := Iff.rfl

theorem lift_iff {x : Except Fault α} : Keeps p (liftM x : Call σ α) s ↔ Kept p x := Iff.rfl

/-- What is read comes before the rest of a call. -/
theorem lift_bind_iff {x : Except Fault β} {f : β → Call σ α} :
    Keeps p (liftM x >>= f) s ↔ Kept (fun b => Keeps p (f b) s) x := by
  cases x <;> rfl

/-- A call goes on under a condition only, -/
theorem guard_iff {c : Prop} [Decidable c] {call : Call σ α} {text : String} :
    Keeps p (if c then call else throw (.dependency text)) s ↔ (c → Keeps p call s) := by
  by_cases hc : c
  · rw [if_pos hc, forall_prop_of_true hc]
  · rw [if_neg hc, forall_prop_of_false hc]
    exact iff_of_true rfl trivial

/-- or unless there is a reason against it. -/
theorem refuse_iff {c : Bool} {call : Call σ α} {text : String} :
    Keeps p (if c = true then throw (.dependency text) else call) s ↔
      (c = false → Keeps p call s) := by
  cases c with
  | true => exact iff_of_true rfl nofun
  | false => exact (forall_prop_of_true (q := fun _ => Keeps p call s) rfl).symm

end Keeps

/-- Items are read one after the other, without a call. -/
theorem mapM_lift (f : β → Except Fault α) (xs : List β) :
    xs.mapM (fun b => (liftM (f b) : Call σ α)) = liftM (xs.mapM f) := by
  induction xs with
  | nil => rfl
  | cons b xs ih =>
    rw [List.mapM_cons, List.mapM_cons, ih]
    cases f b with
    | error fault => rfl
    | ok a => cases xs.mapM f <;> rfl

theorem bind_of_ok {x : Call σ α} {f : α → Call σ β} {a : α} {s s' : σ} (h : x s = (.ok a, s')) :
    (x >>= f) s = f a s' := by
  simp only [bind, ExceptT.bind, ExceptT.mk, StateT.bind, h]
  rfl

theorem bind_of_error {x : Call σ α} {f : α → Call σ β} {fault : Fault} {s s' : σ}
    (h : x s = (.error fault, s')) : (x >>= f) s = (.error fault, s') := by
  simp only [bind, ExceptT.bind, ExceptT.mk, StateT.bind, h]
  rfl

namespace Network

variable {net : Network σ} {asked : String} {inquiry : Inquiry} {request : Request} {s s' : σ}

theorem send_of_ok {answer : Except String Reply} (h : inquiry.request = .ok request)
    (hexchange : net.exchange request s = (answer, s')) :
    net.send inquiry s = (.ok answer, s') := by
  rw [send, h]
  change ((Except.ok (net.exchange request s).1, (net.exchange request s).2) : Except Fault _ × σ) = _
  rw [hexchange]

theorem reach_of_unasked {fault : Fault} (h : inquiry.request = .error fault) :
    net.reach asked inquiry s = (.error fault, s) := by
  rw [reach]
  refine bind_of_error ?_
  rw [send, h]
  rfl

theorem reach_of_unreached {reason : String} (h : inquiry.request = .ok request)
    (hexchange : net.exchange request s = (.error reason, s')) :
    net.reach asked inquiry s =
      (.error (.dependency (asked ++ " failed: " ++ reason)), s') :=
  bind_of_ok (send_of_ok h hexchange)

theorem reach_of_answered {reply : Reply} (h : inquiry.request = .ok request)
    (hexchange : net.exchange request s = (.ok reply, s')) :
    net.reach asked inquiry s = (.ok reply, s') :=
  bind_of_ok (send_of_ok h hexchange)

end Network

/-! ### Answers -/

namespace Reply

/-- The text denotes a value that satisfies `p`. -/
def Denotes (reply : Reply) (p : Json → Prop) : Prop := ∃ value, reply.json = .ok value ∧ p value

theorem offline_json {reply : Reply} : Offline reply.json := by
  rw [json]
  split
  · exact Json.offline_ofText
  · split
    · exact Json.offline_ofText
    · exact Bool.false_ne_true

theorem kept_json_iff {reply : Reply} {p : Json → Prop} : Kept p reply.json ↔ reply.Denotes p :=
  Kept.iff_of_offline offline_json

end Reply

theorem ChainService.kept_valueOf_iff {p : Json → Prop} {reply : Reply} {subject : String} :
    Kept p (valueOf reply subject) ↔ (reply.isError = false → reply.Denotes p) := by
  rw [valueOf]
  cases reply.isError with
  | true => exact iff_of_true rfl nofun
  | false =>
    rw [if_neg Bool.false_ne_true, Reply.kept_json_iff]
    exact (forall_prop_of_true (q := fun _ => reply.Denotes p) rfl).symm

/-! ### Operations -/

/-- The operations of the hub, the chain and the signer, by what they end with. -/
inductive Operation (σ : Type) : Type → Type where
  | tasks (s : HubService σ) (chain : String) (after : Option String) (limit : Int) :
      Operation σ (List HubTask)
  | post (s : HubService σ) (events : List Json) (correlation : String) :
      Operation σ (List EventResult)
  | broadcast (s : HubService σ) (request : Fields) (contract : String) : Operation σ String
  | status (s : HubService σ) (broadcast contract : String) : Operation σ BroadcastStatus
  | transaction (s : ChainService σ) (txHash : String) : Operation σ (Option ChainTransaction)
  | balance (s : ChainService σ) (account : String) : Operation σ AccountBalance
  | events (s : ChainService σ) (contract : String) (offset limit : Int) :
      Operation σ (List ContractEvent)
  | build (s : SignerService σ) (item : WorkItem) : Operation σ BuildOutcome
  | send (s : SignerService σ) (tx : SignedTransaction) : Operation σ SendResult
  | invalidate (s : SignerService σ) (item : WorkItem) : Operation σ Unit

namespace Operation

/-- The call that an operation is. -/
def run : Operation σ α → Call σ α
  | .tasks s chain after limit => s.tasks chain after limit
  | .post s posted correlation => s.post posted correlation
  | .broadcast s request contract => s.broadcast request contract
  | .status s asked contract => s.status asked contract
  | .transaction s txHash => s.transaction txHash
  | .balance s account => s.balance account
  | .events s contract offset limit => s.events contract offset limit
  | .build s item => s.build item
  | .send s tx => s.send tx
  | .invalidate s item => s.invalidate item

/-- The network that carries the exchange. -/
def net : Operation σ α → Network σ
  | .tasks s _ _ _ | .post s _ _ | .broadcast s _ _ | .status s _ _ => s.net
  | .transaction s _ | .balance s _ | .events s _ _ _ => s.net
  | .build s _ | .send s _ | .invalidate s _ => s.net

/-- What is asked. A transaction that does not denote bytes is sent to nobody. -/
def inquiry : Operation σ α → Except Fault Inquiry
  | .tasks s chain after limit =>
    let start := after.toList.filterMap fun id => if id = "" then none else some ("after", id)
    .ok {
      method := .get, base := s.base, reference := "/chains/" ++ chain ++ "/tasks"
      query := ("limit", toString limit) :: start }
  | .post s posted correlation => .ok {
      method := .post, base := s.base, reference := "/chains/" ++ s.sourceChain ++ "/events"
      correlation := if correlation = "" then none else some correlation
      body := .json (.obj [("events", .arr posted)]) }
  | .broadcast s request contract => .ok {
      method := .post, base := s.base, reference := HubService.broadcasts contract
      body := .json (.obj request) }
  | .status s asked contract => .ok {
      method := .get, base := s.base
      reference := HubService.broadcasts contract ++ "/" ++ asked }
  | .transaction s txHash => .ok {
      method := .get, base := s.base, reference := "/extended/v1/tx/" ++ txHash }
  | .balance s account => .ok {
      method := .get, base := s.base
      reference := "/extended/v1/address/" ++ account ++ "/balances" }
  | .events s contract offset limit => .ok {
      method := .get, base := s.base
      reference := "/extended/v1/contract/" ++ contract ++ "/events"
      query := [("offset", toString offset), ("limit", toString limit)] }
  | .build s item => .ok {
      method := .post, base := s.signer, reference := "/transactions/build"
      body := .json (SignerService.order item) }
  | .send s tx => do
    let content ← tx.bytes
    return {
      method := .post, base := s.node, reference := "/v2/transactions", body := .bytes content }
  | .invalidate s item => .ok {
      method := .post, base := s.signer, reference := "/transactions/invalidate"
      body := .json (.obj [("natural_key", .str item.key)]) }

/-- How the exchange is called in the fault of a service that cannot be reached. -/
def called (inquiry : Inquiry) : Operation σ α → String
  | .tasks .. | .post .. | .broadcast .. | .status .. =>
    "hub request " ++ inquiry.method.word ++ " " ++ inquiry.reference
  | .transaction .. | .balance .. | .events .. => "chain request " ++ inquiry.reference
  | .build .. | .send .. | .invalidate .. => "request " ++ inquiry.reference

/-- What an operation ends with is of its type, with the members that were handed on as they came. -/
def Typed : Operation σ α → α → Prop
  | .tasks .. => fun found => ∀ task ∈ found, task.Typed
  | .post .. => fun results => ∀ result ∈ results, result.Typed
  | .transaction .. => fun found => ∀ transaction, found = some transaction → transaction.Typed
  | .build .. => fun outcome => outcome.Typed
  | .broadcast .. | .status .. | .balance .. | .events .. | .send .. | .invalidate .. =>
    fun _ => True

/-- What an operation takes for granted about an answer. -/
def Fits : Operation σ α → Reply → Prop
  | .tasks .., reply => reply.isSuccess = true → reply.Denotes fun data =>
    data.Is fun fields => (field fields "tasks").Lists fun item => item.Is HubTask.Written
  | .post _ posted _, reply => reply.isSuccess = true → reply.Denotes fun data =>
    data.Is fun fields => EventResult.ListedFor posted.length (field fields "results")
  | .broadcast .., reply | .status .., reply =>
    reply.isSuccess = true → reply.Denotes fun data => data.Is fun _ => True
  | .transaction .., reply => reply.status ≠ 404 → reply.isError = false →
    reply.Denotes fun data => data.Is ChainTransaction.Written
  | .balance .., reply => reply.isError = false →
    reply.Denotes fun data => data.Is AccountBalance.Written
  | .events .., reply => reply.isError = false → reply.Denotes fun data =>
    data.Is fun fields => (field fields "results").Lists fun item => item.Is ContractEvent.Written
  | .build .., reply => reply.isError = false →
    reply.Denotes fun data => data.Is BuildOutcome.Written
  | .send .., reply => reply.isError = false → reply.Denotes fun _ => True
  | .invalidate .., _ => True

end Operation

/-- How an operation ends, by how its exchange ends. -/
structure Ends (op : Operation σ α) (s : σ) : Prop where
  /-- What cannot be put into a request is asked of nobody. -/
  unasked : ∀ fault, (op.inquiry >>= Inquiry.request) = .error fault →
    op.run s = (.error fault, s)
  /-- A service that cannot be reached is a failing collaborator. -/
  unreached : ∀ inquiry request reason s', op.inquiry = .ok inquiry →
    inquiry.request = .ok request → op.net.exchange request s = (.error reason, s') →
    op.run s = (.error (.dependency (op.called inquiry ++ " failed: " ++ reason)), s')
  /-- An answer that fits is read, or belongs to a failing collaborator. No other one is. -/
  answered : ∀ inquiry request reply s', op.inquiry = .ok inquiry →
    inquiry.request = .ok request → op.net.exchange request s = (.ok reply, s') →
    (Kept op.Typed (op.run s).1 ↔ op.Fits reply)

namespace Operation

variable {op : Operation σ α} {inquiry : Inquiry} {s : σ}

/-- An operation that has nothing to ask for. -/
theorem ends_of_nothing {fault : Fault} (hinquiry : op.inquiry = .error fault)
    (hrun : op.run s = (.error fault, s)) : Ends op s := by
  refine ⟨fun fault' h => ?_, fun inquiry' _ _ _ h => ?_, fun inquiry' _ _ _ h => ?_⟩
  · rw [hinquiry] at h
    cases h
    exact hrun
  · exact nomatch hinquiry.symm.trans h
  · exact nomatch hinquiry.symm.trans h

/-- An operation that asks for something and reads the answer. -/
theorem ends_of_reach {f : Reply → Call σ α} (hinquiry : op.inquiry = .ok inquiry)
    (hrun : op.run = op.net.reach (op.called inquiry) inquiry >>= f)
    (hfits : ∀ reply s', Keeps op.Typed (f reply) s' ↔ op.Fits reply) : Ends op s := by
  refine ⟨fun fault h => ?_, fun inquiry' request reason s' h hrequest hexchange => ?_,
    fun inquiry' request reply s' h hrequest hexchange => ?_⟩
  · rw [hinquiry] at h
    rw [hrun]
    exact bind_of_error (Network.reach_of_unasked h)
  · cases hinquiry.symm.trans h
    rw [hrun]
    exact bind_of_error (Network.reach_of_unreached hrequest hexchange)
  · cases hinquiry.symm.trans h
    rw [hrun, bind_of_ok (Network.reach_of_answered hrequest hexchange)]
    exact hfits reply s'

/-- An operation on the hub, whose answers are read only if they are successes. -/
theorem ends_of_ask {hub : HubService σ} {g : Json → Call σ α} (hinquiry : op.inquiry = .ok inquiry)
    (hreach : op.net.reach (op.called inquiry) inquiry =
      hub.net.reach ("hub request " ++ inquiry.method.word ++ " " ++ inquiry.reference) inquiry)
    (hrun : op.run = hub.ask inquiry >>= g)
    (hfits : ∀ reply s', (reply.isSuccess = true →
      reply.Denotes fun data => Keeps op.Typed (g data) s') ↔ op.Fits reply) : Ends op s := by
  rw [HubService.ask, ← hreach, bind_assoc] at hrun
  refine ends_of_reach hinquiry hrun fun reply s' => ?_
  rw [← hfits reply s']
  cases reply.isSuccess with
  | true =>
    rw [if_pos rfl, Keeps.lift_bind_iff, Reply.kept_json_iff]
    exact (forall_prop_of_true
      (q := fun _ => reply.Denotes fun data => Keeps op.Typed (g data) s') rfl).symm
  | false => exact iff_of_true rfl nofun

/-- The bytes of a transaction are read before anything is asked. -/
theorem ends_send (signer : SignerService σ) (tx : SignedTransaction) (s : σ) :
    Ends (send signer tx) s := by
  cases hbytes : tx.bytes with
  | error fault =>
    refine ends_of_nothing (show _ = Except.error fault from ?_) ?_
    · rw [inquiry, hbytes]
      rfl
    · rw [run, SignerService.send, hbytes]
      rfl
  | ok content =>
    apply ends_of_reach
    case hinquiry =>
      rw [inquiry, hbytes]
      rfl
    case hrun =>
      rw [run, SignerService.send, hbytes]
      rfl
    intro reply s'
    rw [Fits]
    cases reply.isError with
    | true => exact iff_of_true trivial nofun
    | false =>
      rw [if_neg Bool.false_ne_true, forall_prop_of_true rfl]
      simp only [Keeps.lift_bind_iff, Keeps.pure_iff, Typed, Reply.kept_json_iff]

/-- **How operations end.** -/
theorem ends_by_exchange (op : Operation σ α) (s : σ) : Ends op s := by
  cases op with
  | tasks s chain after limit =>
    refine ends_of_ask rfl rfl rfl fun reply s' => ?_
    simp only [Keeps.lift_bind_iff, mapM_lift, Keeps.lift_iff, Json.kept_member_iff,
      Json.kept_parts_iff, Typed, HubTask.kept_mapM_iff]
    rfl
  | post s posted correlation =>
    refine ends_of_ask rfl rfl rfl fun reply s' => ?_
    simp only [Keeps.lift_bind_iff, mapM_lift, Json.kept_member_iff, Keeps.guard_iff, Keeps.pure_iff,
      Typed]
    simp only [EventResult.kept_listedFor_iff]
    rfl
  | broadcast s request contract =>
    refine ends_of_ask rfl rfl rfl fun reply s' => ?_
    simp only [Keeps.lift_bind_iff, Json.kept_member_iff, Keeps.guard_iff, Keeps.pure_iff, Typed,
      implies_true]
    rfl
  | status s asked contract =>
    refine ends_of_ask rfl rfl rfl fun reply s' => ?_
    simp only [Keeps.lift_bind_iff, Keeps.lift_iff, Json.kept_member_iff, Typed,
      BroadcastStatus.kept_ofJson]
    rfl
  | transaction s txHash =>
    refine ends_of_reach rfl rfl fun reply s' => ?_
    rw [Fits]
    by_cases hknown : reply.status = 404
    · rw [if_pos hknown]
      exact iff_of_true nofun fun h => absurd hknown h
    · rw [if_neg hknown, forall_prop_of_true hknown]
      simp only [Keeps.lift_bind_iff, ChainService.kept_valueOf_iff, Keeps.pure_iff, Typed,
        Option.some.injEq, forall_eq', ChainTransaction.kept_ofJson_iff]
  | balance s account =>
    refine ends_of_reach rfl rfl fun reply s' => ?_
    simp only [Keeps.lift_bind_iff, ChainService.kept_valueOf_iff, Keeps.lift_iff, Typed,
      AccountBalance.kept_ofJson_iff]
    rfl
  | events s contract offset limit =>
    refine ends_of_reach rfl rfl fun reply s' => ?_
    simp only [Keeps.lift_bind_iff, mapM_lift, Keeps.lift_iff, Json.kept_member_iff,
      Json.kept_parts_iff, ChainService.kept_valueOf_iff, Typed, ContractEvent.kept_mapM_iff]
    rfl
  | build s item =>
    refine ends_of_reach rfl rfl fun reply s' => ?_
    simp only [Keeps.refuse_iff, Keeps.lift_bind_iff, Keeps.lift_iff, Reply.kept_json_iff, Typed,
      BuildOutcome.kept_ofJson_iff]
    rfl
  | send s tx => exact ends_send s tx _
  | invalidate s item =>
    refine ends_of_reach rfl rfl fun reply s' => ?_
    rw [Keeps.refuse_iff]
    exact iff_of_true (fun _ => trivial) trivial

end Operation

/-! ### An answer that is no JSON -/

/-- A hub whose answers are pages, whatever it is asked. -/
def pageHub (σ : Type) : HubService σ where
  net := {
    exchange := fun _ s => (.ok { status := 200, text := "<html>" }, s)
    log := fun _ s => s }
  base := { scheme := "https", host := "api.test" }
  sourceChain := "stacks"

/-- A relayer with such a hub. -/
def pageRelayer : Relayer Simulation :=
  { Relayer.simulated with
    collaborators := { Simulation.collaborators with hub := (pageHub Simulation).hub } }

/-- **An answer that is no JSON** is no fault of a failing collaborator: it ends a call to advance
broadcasts, and costs the broadcast no retry. -/
theorem pageHub_aborts :
    ¬ Kept (fun _ => True) ((pageHub Unit).tasks "stacks" none 10 ()).1 ∧
    (let w : World Simulation Rat := (World.initial {} 0).ingested
    let run := pageRelayer.processBroadcasts w
    w.standing = some (0, none) ∧ run.1.isOk = false ∧ run.2.standing = some (0, none) ∧
      run.2.trace.countP Event.isBroadcast = 1) := by
  decide +kernel

end Http

end ChainRelay
