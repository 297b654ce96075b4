import ChainRelay.Broadcast.Request
import ChainRelay.Cache.Location
import ChainRelay.Http.Url
import ChainRelay.Service.Basic
import ChainRelay.Settings

/-!
# Wiring

Which parts of a relayer are services outside of it, and which are kept in memory or are stand-ins,
follows from the settings alone. A relayer with a shared queue and a shared cache is live; one that
is live and relays the events of the chain needs a decoder for them.
-/

namespace ChainRelay

/-- The parts of a relayer that may be services outside of it, in the order in which they are set
up. -/
inductive Part where
  /-- The durable queue and the cursors. -/
  | database
  | cache
  | hub
  | chain
  | signer
  | chat
  deriving DecidableEq, Repr

namespace Part

/-- All parts. -/
def all : List Part := [database, cache, hub, chain, signer, chat]

/-- Whether the settings place a part outside. The signer also needs a node of the chain. -/
def isOutside (s : Settings) : Part → Bool
  | database => Settings.given s.databaseUrl
  | cache => Settings.given s.cacheUrl
  | hub => Settings.given s.hubApiUrl
  | chain => Settings.given s.chainApiUrl
  | signer => Settings.given s.signerApiUrl && Settings.given s.chainApiUrl
  | chat => Settings.given s.slackWebhookUrl

/-- Whether a part has to be opened before it is used. -/
def needsOpening (part : Part) : Bool := part == database

end Part

/-- A relayer whose parts have been chosen. -/
structure Wiring where
  mode : Mode
  outside : List Part
  services : TokenServices
  jobs : List (Job × Quantity)
  lockTtl : Quantity

namespace Wiring

/-- The parts that are opened at the start. -/
def opened (w : Wiring) : List Part := w.outside.filter Part.needsOpening

/-- The parts that are closed at the end, the last one that was set up first. -/
def closed (w : Wiring) : List Part := w.outside.reverse

/-- Check the address of an outside part. -/
def checkAddress (s : Settings) : Part → Except Fault Unit
  | .cache => RemoteCache.Location.check (s.cacheUrl.getD "")
  | .hub => checkBase s.hubApiUrl
  | .chain => checkBase s.chainApiUrl
  | .signer => checkBase s.signerApiUrl
  | .database | .chat => .ok ()
where
  checkBase (address : Option String) : Except Fault Unit :=
    (Http.Url.base (address.getD "")).map fun _ => ()

/-- The mode that settings lead to. -/
def modeOf (s : Settings) : Mode := if s.isLive then .live else .skeleton

/-- Choose the parts of a relayer. -/
def build (role : Role) (s : Settings) (intervals : Intervals) (hasDecoder : Bool) :
    Except Fault Wiring := do
  let mode := modeOf s
  if !hasDecoder && mode = .live && role.jobs.contains .processCrossChain then
    throw (.badValue ("Role \x27" ++ role.name ++
      "\x27 relays cross-chain events and needs an event decoder in live mode"))
  let outside := Part.all.filter (Part.isOutside s)
  outside.forM (checkAddress s)
  return {
    mode
    outside
    services := ⟨s.hubTokenService, s.tokenService⟩
    jobs := role.jobs.map fun job => (job, intervals.ofJob job)
    lockTtl := intervals.lockTtl }

/-- The wiring for an environment. -/
def ofEnvironment (role : Role) (env : Environment) : Except Fault Wiring :=
  build role (Settings.ofEnvironment env) (Intervals.ofEnvironment env) false

/-- The service of a relayer. -/
def service {τ : Type} [Seconds τ] (w : Wiring) (role : Role) (runId : String)
    (settings : RunnerSettings) (now : τ) : Except Fault (Service τ) :=
  Service.make role.name runId w.mode (w.jobs.map fun j => ⟨j.1.name, j.2⟩) settings
    (some w.lockTtl) now

end Wiring

end ChainRelay
