import ChainRelay.Json.Access

/-!
# Building and sending transactions

An executor builds a signed transaction for a work item and sends it. It reports the outcome of a
build by a word, so that an outcome which the relayer does not know can be told apart from the
known ones.
-/

namespace ChainRelay

/-- A signed transaction. -/
structure SignedTransaction where
  txId : String
  serialized : String
  nonce : Json := .null
  deriving Inhabited

/-- The known outcomes of a build. -/
inductive BuildKind where
  | built
  | recoverable
  | insufficientBalance
  | invalidPayload
  deriving DecidableEq, Repr

namespace BuildKind

/-- The word for a kind. -/
def word : BuildKind → String
  | built => "built"
  | recoverable => "recoverable"
  | insufficientBalance => "insufficient_balance"
  | invalidPayload => "invalid_payload"

/-- The kind of a word. -/
def ofWord? : String → Option BuildKind
  | "built" => some built
  | "recoverable" => some recoverable
  | "insufficient_balance" => some insufficientBalance
  | "invalid_payload" => some invalidPayload
  | _ => none

/-- The kind that a value names, if it names a known one. A list or an object is no name at all. -/
def ofValue? (value : Json) : Except Fault (Option BuildKind) := do
  let _ ← value.asName
  return value.str?.bind ofWord?

/-- Whether an item with this outcome stays pending. -/
def isRecoverable : BuildKind → Bool
  | built | recoverable => true
  | _ => false

@[simp] theorem ofWord?_word (k : BuildKind) : ofWord? k.word = some k := by cases k <;> rfl

end BuildKind

/-- The outcome of a build. A built outcome without a transaction is a step that needs nothing
sent. `extra` is continuation state and replaces the stored one. -/
structure BuildOutcome where
  kind : String
  transaction : Option SignedTransaction := none
  detail : Json := .null
  extra : Json := .null
  /-- False for a step that continues an execution rather than retries it. -/
  incrementRetry : Bool := true
  deriving Inhabited

/-- The known kind of an outcome. -/
def BuildOutcome.kind? (outcome : BuildOutcome) : Option BuildKind :=
  BuildKind.ofWord? outcome.kind

/-- The answer to a sent transaction. -/
structure SendResult where
  success : Bool
  txHash : Option String := none
  error : Option String := none
  deriving Inhabited

/-- Why a message cannot be executed, in the words of the hub. -/
inductive CannotExecute where
  | error
  | insufficientGas
  deriving DecidableEq, Repr

namespace CannotExecute

/-- The hub's word. -/
def word : CannotExecute → String
  | error => "ERROR"
  | insufficientGas => "INSUFFICIENT_GAS"

/-- The reason that a build outcome gives. -/
def ofOutcome (word : String) : CannotExecute :=
  if word = BuildKind.insufficientBalance.word then insufficientGas else error

end CannotExecute

end ChainRelay
