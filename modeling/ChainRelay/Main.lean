import ChainRelay.CommandLine.Run
import ChainRelay.Text.Ulid
import Std.Time.Format

/-!
# The program

The outer layer of the command line. It hands the arguments and the environment of the process to
`CommandLine.run`, writes out what the run came to, and exits with its code. It opens no socket: a
server that is to be started is announced by its address.
-/

namespace ChainRelay.CommandLine

/-- The variables of the environment that a run may look at. -/
def variableNames : List String :=
  ["APP_HOST", "APP_ROLE", "DATABASE_URL", "REDIS_URL", "HUB_API_URL", "CHAIN_API_URL",
    "SOURCE_CHAIN_NAME", "WALLET_SIGNER_ADDRESS", "CONTRACT_GATEWAY", "CONTRACT_GAS_SERVICE",
    "CONTRACT_ITS", "HUB_MULTISIG_PROVER_CONTRACT", "HUB_GATEWAY_CONTRACT", "HUB_ITS_CONTRACT",
    "SLACK_WEBHOOK_URL", "SIGNER_API_URL", "JOB_TASKS_INTERVAL_SECONDS",
    "JOB_EVENTS_INTERVAL_SECONDS", "JOB_CROSS_CHAIN_INTERVAL_SECONDS",
    "JOB_MESSAGE_APPROVED_INTERVAL_SECONDS", "JOB_STACKS_TRANSACTIONS_INTERVAL_SECONDS",
    "JOB_BROADCASTS_INTERVAL_SECONDS", "JOB_LOCK_TTL_SECONDS", "WORKER_ERROR_BACKOFF_MS",
    "WORKER_STARTUP_DELAY_MS"]

/-- The environment of the process, as far as a run may look at it. -/
def environment : IO Environment :=
  variableNames.filterMapM fun name => do
    return (← IO.getEnv name).map fun value => (name, value)

/-- The time now, to the microsecond. -/
def timeNow : IO String := do
  let now ← Std.Time.Timestamp.now
  let text := (Std.Time.PlainDateTime.ofWallTime (now.toWallTime .zero)).toLeanDateTimeString
  return String.ofList (text.toList.take 26) ++ "+00:00"

/-- A fresh identifier of a run. -/
def freshRunId : IO String := do
  let millis := (← Std.Time.Timestamp.now).toMillisecondsSinceUnixEpoch.val.toNat
  let noise ← IO.rand 0 (Nat.pow 2 80 - 1)
  return Text.Ulid.runId (millis * Nat.pow 2 80 + noise)

/-- Write out what a run came to. -/
def Outcome.write (o : Outcome) : IO Unit := do
  for line in o.journal do
    IO.println (line.write (← timeNow))
  IO.eprint o.errorText
  match o.server with
  | some server => IO.eprintln (title ++ " on " ++ server.address)
  | none => pure ()

end ChainRelay.CommandLine

/-- Run the relayer from the command line. -/
def main (args : List String) : IO UInt32 := do
  let env ← ChainRelay.CommandLine.environment
  match ChainRelay.CommandLine.run args env (← ChainRelay.CommandLine.freshRunId) with
  | .error .help => return 0
  | .error .misuse => return ChainRelay.CommandLine.misuseCode.toUInt32
  | .error (.fault fault) =>
    IO.eprintln (fault.title ++ ": " ++ fault.message)
    return 1
  | .ok outcome =>
    outcome.write
    return outcome.code.toUInt32
