import ChainRelay.Json.Options
import ChainRelay.Settings

/-!
# Reports of settings

The JSON form in which settings and intervals are shown to people and given by them.
-/

namespace ChainRelay

open Json.Options

namespace Settings

/-- Settings in a report. -/
def report (s : Settings) : Json :=
  .obj [("database_url", Json.ofText? s.databaseUrl), ("redis_url", Json.ofText? s.cacheUrl),
    ("hub_api_url", Json.ofText? s.hubApiUrl), ("chain_api_url", Json.ofText? s.chainApiUrl),
    ("source_chain_name", .str s.sourceChain), ("wallet_signer_address", .str s.walletSigner),
    ("contract_gateway", .str s.gateway), ("contract_gas_service", .str s.gasService),
    ("contract_its", .str s.tokenService), ("hub_multisig_prover_contract", .str s.hubProver),
    ("hub_gateway_contract", .str s.hubGateway), ("hub_its_contract", .str s.hubTokenService),
    ("slack_webhook_url", Json.ofText? s.slackWebhookUrl),
    ("signer_api_url", Json.ofText? s.signerApiUrl)]

/-- Settings with the members that a report gives. -/
def withReport (base : Settings) (given : Json) : Settings :=
  let optional (name : String) (old : Option String) : Option String :=
    match field? given name with
    | some .null => none
    | some value => some value.shown
    | none => old
  { databaseUrl := optional "database_url" base.databaseUrl
    cacheUrl := optional "redis_url" base.cacheUrl
    hubApiUrl := optional "hub_api_url" base.hubApiUrl
    chainApiUrl := optional "chain_api_url" base.chainApiUrl
    sourceChain := text given "source_chain_name" base.sourceChain
    walletSigner := text given "wallet_signer_address" base.walletSigner
    gateway := text given "contract_gateway" base.gateway
    gasService := text given "contract_gas_service" base.gasService
    tokenService := text given "contract_its" base.tokenService
    hubProver := text given "hub_multisig_prover_contract" base.hubProver
    hubGateway := text given "hub_gateway_contract" base.hubGateway
    hubTokenService := text given "hub_its_contract" base.hubTokenService
    slackWebhookUrl := optional "slack_webhook_url" base.slackWebhookUrl
    signerApiUrl := optional "signer_api_url" base.signerApiUrl }

end Settings

namespace Intervals

/-- Intervals in a report. -/
def report (i : Intervals) : Json :=
  .obj [("tasks_seconds", i.tasks.toJson), ("events_seconds", i.events.toJson),
    ("cross_chain_seconds", i.crossChain.toJson),
    ("message_approved_seconds", i.messageApproved.toJson),
    ("stacks_transactions_seconds", i.stacksTransactions.toJson),
    ("broadcasts_seconds", i.broadcasts.toJson), ("lock_ttl_seconds", i.lockTtl.toJson)]

/-- The intervals that a report gives; what is missing keeps its default. -/
def ofReport (given : Json) : Intervals :=
  let d : Intervals := {}
  { tasks := quantity given "tasks_seconds" d.tasks
    events := quantity given "events_seconds" d.events
    crossChain := quantity given "cross_chain_seconds" d.crossChain
    messageApproved := quantity given "message_approved_seconds" d.messageApproved
    stacksTransactions := quantity given "stacks_transactions_seconds" d.stacksTransactions
    broadcasts := quantity given "broadcasts_seconds" d.broadcasts
    lockTtl := quantity given "lock_ttl_seconds" d.lockTtl }

end Intervals

/-- Runner settings in a report. -/
def RunnerSettings.report (r : RunnerSettings) : Json :=
  .obj [("error_backoff_ms", r.errorBackoffMs.toJson),
    ("startup_jitter_ms", r.startupDelayMs.toJson)]

/-- The runner settings that a report gives; what is missing keeps its default. -/
def RunnerSettings.ofReport (given : Json) : RunnerSettings :=
  let d : RunnerSettings := {}
  { errorBackoffMs := quantity given "error_backoff_ms" d.errorBackoffMs
    startupDelayMs := quantity given "startup_jitter_ms" d.startupDelayMs }

/-- A variable of an environment, whose value is a text. Zeros cannot be held, and a name is not
empty and has no equals sign. -/
def Environment.entry (name : String) : Json → Except Fault (String × String)
  | .str value =>
    let hasZero (s : String) : Bool := s.toList.any fun c => c.toNat = 0
    if hasZero name || hasZero value then .error (.badValue "embedded null byte")
    else if name.toList.contains '=' then .error (.badValue "illegal environment variable name")
    else if name = "" then .error (.system "Invalid argument")
    else .ok (name, value)
  | value => .error (.wrongKind ("str expected, not " ++ value.kind.word))

/-- The environment that an object gives. -/
def Environment.ofReport (given : Json) : Except Fault Environment :=
  (membersOf given).mapM fun e => Environment.entry e.1 e.2

/-- Scheduled jobs in a report. -/
def reportJobs (jobs : List (Job × Quantity)) : Json :=
  .arr (jobs.map fun e => .arr [.str e.1.name, e.2.toJson])

end ChainRelay
