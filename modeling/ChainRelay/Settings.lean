import ChainRelay.Role
import ChainRelay.Text.Numeral
import ChainRelay.Time.Quantity

/-!
# Settings

Addresses, contracts and intervals, read from the environment. A setting that is missing or blank
keeps its default; a number that cannot be read or is not positive does too.
-/

namespace ChainRelay

/-- The environment of the process. -/
abbrev Environment := List (String × String)

namespace Environment

/-- A text setting without the blanks around it, if there is anything left of it. -/
def text? (env : Environment) (name : String) : Option String :=
  match List.lookup name env with
  | none => none
  | some value =>
    let trimmed := Text.strip value
    if trimmed = "" then none else some trimmed

/-- A text setting or its default. -/
def text (env : Environment) (name fallback : String) : String :=
  (env.text? name).getD fallback

/-- A positive number or its default. -/
def number (env : Environment) (name : String) (fallback : Int) : Int :=
  match List.lookup name env with
  | none => fallback
  | some value =>
    match Text.toInt? value with
    | some n => if 0 < n then n else fallback
    | none => fallback

end Environment

/-- Where collaborators are found, and the contracts that the relayer serves. -/
structure Settings where
  databaseUrl : Option String := none
  cacheUrl : Option String := none
  hubApiUrl : Option String := none
  chainApiUrl : Option String := none
  sourceChain : String := "stacks"
  walletSigner : String := ""
  gateway : String := ""
  gasService : String := ""
  tokenService : String := ""
  hubProver : String := ""
  hubGateway : String := ""
  hubTokenService : String := ""
  slackWebhookUrl : Option String := none
  signerApiUrl : Option String := none
  deriving Inhabited, DecidableEq, Repr

namespace Settings

/-- Whether an optional text is there and not empty. -/
def given (text : Option String) : Bool := text.any (· != "")

/-- The relayer runs live when it has a database and a shared cache. -/
def isLive (s : Settings) : Bool := given s.databaseUrl && given s.cacheUrl

/-- The contracts whose events are polled: those that are set. -/
def watched (s : Settings) : List (String × String) :=
  [("gateway", s.gateway), ("gas-service", s.gasService), ("its", s.tokenService)].filter
    fun c => c.2 != ""

/-- The settings of an environment. -/
def ofEnvironment (env : Environment) : Settings where
  databaseUrl := env.text? "DATABASE_URL"
  cacheUrl := env.text? "REDIS_URL"
  hubApiUrl := env.text? "HUB_API_URL"
  chainApiUrl := env.text? "CHAIN_API_URL"
  sourceChain := env.text "SOURCE_CHAIN_NAME" "stacks"
  walletSigner := env.text "WALLET_SIGNER_ADDRESS" ""
  gateway := env.text "CONTRACT_GATEWAY" ""
  gasService := env.text "CONTRACT_GAS_SERVICE" ""
  tokenService := env.text "CONTRACT_ITS" ""
  hubProver := env.text "HUB_MULTISIG_PROVER_CONTRACT" ""
  hubGateway := env.text "HUB_GATEWAY_CONTRACT" ""
  hubTokenService := env.text "HUB_ITS_CONTRACT" ""
  slackWebhookUrl := env.text? "SLACK_WEBHOOK_URL"
  signerApiUrl := env.text? "SIGNER_API_URL"

end Settings

/-- How often jobs run, and how long their locks live. -/
structure Intervals where
  tasks : Quantity := 10
  events : Quantity := 10
  crossChain : Quantity := 10
  messageApproved : Quantity := 10
  stacksTransactions : Quantity := 15
  broadcasts : Quantity := 6
  lockTtl : Quantity := 300
  deriving Inhabited

namespace Intervals

/-- The seconds between two runs of a job. -/
def ofJob (i : Intervals) : Job → Quantity
  | .handleNewTasks => i.tasks
  | .pollEvents => i.events
  | .processCrossChain => i.crossChain
  | .processMessages => i.messageApproved
  | .processStacks => i.stacksTransactions
  | .pendingBroadcasts => i.broadcasts

/-- The intervals of an environment. -/
def ofEnvironment (env : Environment) : Intervals where
  tasks := .whole (env.number "JOB_TASKS_INTERVAL_SECONDS" 10)
  events := .whole (env.number "JOB_EVENTS_INTERVAL_SECONDS" 10)
  crossChain := .whole (env.number "JOB_CROSS_CHAIN_INTERVAL_SECONDS" 10)
  messageApproved := .whole (env.number "JOB_MESSAGE_APPROVED_INTERVAL_SECONDS" 10)
  stacksTransactions := .whole (env.number "JOB_STACKS_TRANSACTIONS_INTERVAL_SECONDS" 15)
  broadcasts := .whole (env.number "JOB_BROADCASTS_INTERVAL_SECONDS" 6)
  lockTtl := .whole (env.number "JOB_LOCK_TTL_SECONDS" 300)

end Intervals

/-- How workers behave between runs. -/
structure RunnerSettings where
  errorBackoffMs : Quantity := 2000
  startupDelayMs : Quantity := 0
  deriving Inhabited

/-- The runner settings of an environment. -/
def RunnerSettings.ofEnvironment (env : Environment) : RunnerSettings where
  errorBackoffMs := .whole (env.number "WORKER_ERROR_BACKOFF_MS" 2000)
  startupDelayMs := .whole (env.number "WORKER_STARTUP_DELAY_MS" 0)

/-- The scheduled jobs of a role that a user named, with their intervals. -/
def scheduledJobs (role : String) (intervals : Intervals) :
    Except Fault (List (Job × Quantity)) :=
  match Role.ofName? role with
  | some r => .ok (r.jobs.map fun j => (j, intervals.ofJob j))
  | none => .error (.badValue ("No jobs for role \x27" ++ role ++ "\x27"))

end ChainRelay
