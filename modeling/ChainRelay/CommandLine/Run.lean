import ChainRelay.CommandLine.Arguments
import ChainRelay.Service.Wiring

/-!
# Running the command line

A run checks its role, chooses the parts of the relayer, and starts a server for the pages of its
service. A dry run ends before the server. What a run comes to is a value: its exit code, what it
writes, and the server that is to be started.
-/

namespace ChainRelay.CommandLine

/-- A server to start. -/
structure Server where
  host : Option String
  portNumber : Option Int
  /-- Whether the server loads the service itself, and again whenever its code changes. -/
  reload : Bool := false
  deriving DecidableEq, Repr

/-- Where a server listens. -/
def Server.address (s : Server) : String :=
  s.host.getD "" ++ ":" ++ ((s.portNumber.map toString).getD "")

/-- What a run comes to. -/
structure Outcome where
  code : Nat
  /-- What is written for the user. -/
  errorText : String := ""
  journal : List LogLine := []
  server : Option Server := none

/-- The title of the service. -/
def title : String := "stacks-relayer"

/-- The exit code of a run that was asked for wrongly. -/
def misuseCode : Nat := 2

/-- The number at which the server of a role listens. -/
def defaultPortNumber (role : Role) : Int := if role = .api then 8000 else 8100

/-- The host of an environment. -/
def defaultHost (env : Environment) : String := (List.lookup "APP_HOST" env).getD "0.0.0.0"

/-- A log line of a run. -/
def line (role : Role) (runId message : String) : LogLine where
  level := .info
  logger := "runtime"
  message := message
  context := [("role", .str role.name), ("service", .str role.name), ("run_id", .str runId)]

/-- The names of the jobs of a relayer. -/
def jobNames (w : Wiring) : String :=
  let names := ",".intercalate (w.jobs.map fun j => j.1.name)
  if names = "" then "none" else names

/-- The report of a dry run. -/
def dryRunReport (w : Wiring) : String :=
  "dry-run startup complete, mode " ++ w.mode.word ++ ", jobs " ++ jobNames w

/-- The outcome of a run whose parts cannot be chosen. -/
def failed (fault : Fault) (journal : List LogLine) : Outcome where
  code := misuseCode
  errorText := "ERROR: " ++ fault.message ++ "\n"
  journal := journal

/-- The outcome of a run for which the parts have to be chosen. A value that is not allowed is
reported to the user, any other fault is not handled. -/
def withWiring (role : Role) (env : Environment) (journal : List LogLine)
    (outcome : Wiring → Outcome) : Except Refusal Outcome :=
  match Wiring.ofEnvironment role env with
  | .ok w => .ok (outcome w)
  | .error (.badValue text) => .ok (failed (.badValue text) journal)
  | .error fault => .error (.fault fault)

/-- Run under a role. -/
def runRole (role : Role) (args : Arguments) (env : Environment) (runId : String) :
    Except Refusal Outcome :=
  let journal := [line role runId "runtime initialized"]
  let server : Server := {
    host := args.host, portNumber := args.portNumber.getD (some (defaultPortNumber role))
    reload := args.reload }
  if args.dryRun then
    withWiring role env journal fun w =>
      { code := 0, journal := journal ++ [line role runId (dryRunReport w)] }
  else if args.reload then .ok { code := 0, journal, server }
  else withWiring role env journal fun _ => { code := 0, journal, server }

/-- Run with the arguments of the command line. -/
def run (texts : List String) (env : Environment) (runId : String) : Except Refusal Outcome := do
  let args ← Arguments.parse (defaultHost env) texts
  match Role.ofName args.role with
  | .ok role => runRole role args env runId
  | .error fault => return { failed fault [] with
      errorText := "ERROR: " ++ fault.message ++ "\nTry one of: " ++ Role.supportedNames ++ "\n" }

/-- The wiring that a server loads itself: its role stands in the environment. -/
def load (env : Environment) : Except Fault (Role × Wiring) := do
  let role ← Role.ofName ((List.lookup "APP_ROLE" env).getD "api")
  let wiring ← Wiring.ofEnvironment role env
  return (role, wiring)

end ChainRelay.CommandLine
