import ChainRelay.Worker.Basic

/-!
# Publishing events to the hub

Events are posted together and the hub answers each of them. An event that is rejected for good is
reported and passed over; the first one that is rejected for now ends the publication, so that it
is tried again later.
-/

namespace ChainRelay.Relayer

variable {σ τ : Type}

/-- The posted event that a result is about; an empty one if there is none. -/
def eventOf (events : List Json) (index : Int) : Json :=
  if 0 ≤ index then events.getD index.toNat (.obj []) else .obj []

/-- The body of a notification about a rejected event. -/
def rejectionBody (type : Json) (correlation verdict : String) (error : Json) : String :=
  "Failed sending event " ++ type.shown ++ " for transaction " ++ correlation ++ ". " ++ verdict ++
    ", error: " ++ error.shown

/-- Go through the results of a post. -/
def reviewResults (r : Relayer σ) (events : List Json) (correlation : String) (tell : Bool) :
    List EventResult → Work σ τ Unit
  | [] => pure ()
  | result :: rest => do
    if result.accepted then reviewResults r events correlation tell rest
    else
      let event := eventOf events result.index
      let type := (← Work.ofExcept (event.get "type")).getD (.str "unknown")
      let context : Fields := [("correlation_id", .str correlation), ("event_type", type)]
      if !result.retriable then
        Work.log {
          level := .error, logger := "relayer.processor", context
          message := "hub rejected event, not retriable: " ++ result.error.shown }
        if tell then
          r.notifySafely .error "Hub non-retriable event error"
            (rejectionBody type correlation "Can NOT be retried" result.error)
        reviewResults r events correlation tell rest
      else
        Work.log {
          level := .warning, logger := "relayer.processor", context
          message := "hub rejected event, will be retried: " ++ result.error.shown }
        if tell then
          r.notifySafely .warn "Hub retriable event error"
            (rejectionBody type correlation "Will be retried" result.error)
        let id := (← Work.ofExcept (event.get "eventID")).getD (.str correlation)
        Work.fail (.retriableRejection id.shown result.error)

/-- Post events to the hub and go through its results. Without `tell` rejections are only logged,
for callers who have notified the operators themselves. -/
def publish (r : Relayer σ) (events : List Json) (correlation : String) (tell : Bool) :
    Work σ τ Unit := do
  if events.isEmpty then pure ()
  else
    let results ← Work.ask (r.collaborators.hub.post events correlation)
      (.posted events correlation)
    if results.length ≠ events.length then
      Work.fail (.dependency "not all events were acknowledged by the hub")
    else reviewResults r events correlation tell results

end ChainRelay.Relayer
