import ChainRelay.Chain.Basic
import ChainRelay.Chain.Transaction
import ChainRelay.Fault
import ChainRelay.Hub.Basic

/-!
# Collaborators

Everything outside the relayer that it asks: the chain, the hub, the executors that build and send
transactions, the decoder of events and the sink for notifications.

## The contract

A collaborator has a state of its own and answers each question with a value or a fault. Nothing
else is assumed: statements about the relayer hold for all collaborators unless they say otherwise.
-/

namespace ChainRelay

/-- How a question is answered by collaborators with state `σ`. -/
abbrev Answers (σ α : Type) := σ → Except Fault α × σ

/-- The source of chain data. -/
structure ChainSource (σ : Type) where
  transaction : String → Answers σ (Option ChainTransaction)
  balance : String → Answers σ AccountBalance
  /-- The events of a contract, newest first: at most `limit` of them from `offset` on. -/
  events : (contract : String) → (offset limit : Int) → Answers σ (List ContractEvent)

/-- The messaging hub. -/
structure Hub (σ : Type) where
  /-- The tasks for a chain after a given one. -/
  tasks : (chain : String) → (after : Option String) → (limit : Int) → Answers σ (List HubTask)
  post : (events : List Json) → (correlation : String) → Answers σ (List EventResult)
  /-- Broadcast a request to a contract; the answer names the broadcast. -/
  broadcast : (request : Fields) → (contract : String) → Answers σ String
  status : (broadcast contract : String) → Answers σ BroadcastStatus

/-- A builder and sender of transactions. -/
structure Executor (σ : Type) where
  build : WorkItem → Answers σ BuildOutcome
  send : SignedTransaction → Answers σ SendResult
  invalidate : WorkItem → Answers σ Unit

/-- All collaborators. -/
structure Collaborators (σ : Type) where
  chain : ChainSource σ
  hub : Hub σ
  /-- The executor for approved messages. -/
  messages : Executor σ
  /-- The executor for outbound transactions. -/
  outbound : Executor σ
  decode : ChainTransaction → Answers σ (List Json)
  notify : Severity → (title body : String) → Answers σ Unit

/-- An answer of collaborators whose state is the first of two. -/
def Answers.onFirst {σ ρ α : Type} (answers : Answers σ α) : Answers (σ × ρ) α :=
  fun s => let (a, t) := answers s.1; (a, t, s.2)

/-- Collaborators beside a second state that they leave alone. -/
def Collaborators.onFirst {σ : Type} (ρ : Type) (c : Collaborators σ) :
    Collaborators (σ × ρ) where
  chain := {
    transaction := fun hash => (c.chain.transaction hash).onFirst
    balance := fun account => (c.chain.balance account).onFirst
    events := fun contract offset limit => (c.chain.events contract offset limit).onFirst }
  hub := {
    tasks := fun chain after limit => (c.hub.tasks chain after limit).onFirst
    post := fun events correlation => (c.hub.post events correlation).onFirst
    broadcast := fun request contract => (c.hub.broadcast request contract).onFirst
    status := fun broadcast contract => (c.hub.status broadcast contract).onFirst }
  messages := {
    build := fun item => (c.messages.build item).onFirst
    send := fun tx => (c.messages.send tx).onFirst
    invalidate := fun item => (c.messages.invalidate item).onFirst }
  outbound := {
    build := fun item => (c.outbound.build item).onFirst
    send := fun tx => (c.outbound.send tx).onFirst
    invalidate := fun item => (c.outbound.invalidate item).onFirst }
  decode := fun tx => (c.decode tx).onFirst
  notify := fun severity title body => (c.notify severity title body).onFirst

end ChainRelay
