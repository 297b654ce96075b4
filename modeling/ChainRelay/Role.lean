import ChainRelay.Fault

/-!
# Roles and jobs

A process runs under a role: one of the workers, which runs its jobs, or the interface, which runs
none.
-/

namespace ChainRelay

/-- The jobs of the relayer. -/
inductive Job where
  | handleNewTasks
  | pollEvents
  | processCrossChain
  | processMessages
  | processStacks
  | pendingBroadcasts
  deriving DecidableEq, Repr, Inhabited

namespace Job

/-- The name of a job, under which it is locked and reported. -/
def name : Job → String
  | handleNewTasks => "handleNewTasks"
  | pollEvents => "pollEvents"
  | processCrossChain => "processCrossChainTransactions"
  | processMessages => "processPendingMessageApproved"
  | processStacks => "processPendingStacksTransactions"
  | pendingBroadcasts => "pendingBroadcasts"

/-- All jobs. -/
def all : List Job :=
  [handleNewTasks, pollEvents, processCrossChain, processMessages, processStacks,
    pendingBroadcasts]

theorem mem_all (j : Job) : j ∈ all := by cases j <;> decide

end Job

/-- The roles. -/
inductive Role where
  | api
  | tasks
  | events
  | crossChain
  | messageApproved
  | stacksTransactions
  | broadcasts
  | all
  deriving DecidableEq, Repr, Inhabited

namespace Role

/-- The name of a role. -/
def name : Role → String
  | api => "api"
  | tasks => "worker-tasks"
  | events => "worker-events"
  | crossChain => "worker-cross-chain"
  | messageApproved => "worker-message-approved"
  | stacksTransactions => "worker-stacks-transactions"
  | broadcasts => "worker-broadcasts"
  | all => "worker-all"

/-- The supported roles, in the order in which they are listed. -/
def supported : List Role :=
  [api, tasks, events, crossChain, messageApproved, stacksTransactions, broadcasts, all]

/-- The names of the supported roles, with commas between them. -/
def supportedNames : String := ", ".intercalate (supported.map name)

/-- The role of a name. -/
def ofName? (text : String) : Option Role :=
  supported.find? fun role => role.name == text

/-- The role of a name that a user gave. -/
def ofName (text : String) : Except Fault Role :=
  match ofName? text with
  | some role => .ok role
  | none => .error (.badValue ("Unsupported role \x27" ++ text ++ "\x27. Supported roles: " ++
      supportedNames ++
      ". Note: schema migrations are applied externally, not by an app role."))

/-- Whether a role runs jobs. -/
def runsJobs (role : Role) : Bool := role != api

/-- The jobs of a role. -/
def jobs : Role → List Job
  | api => []
  | tasks => [.handleNewTasks]
  | events => [.pollEvents]
  | crossChain => [.processCrossChain]
  | messageApproved => [.processMessages]
  | stacksTransactions => [.processStacks]
  | broadcasts => [.pendingBroadcasts]
  | all => Job.all

@[simp] theorem ofName?_name (role : Role) : ofName? role.name = some role := by
  cases role <;> rfl

end Role

end ChainRelay
