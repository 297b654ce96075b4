import ChainRelay.Http.Basic

/-!
# Telling the operators

Notifications go to the log, or to the webhook of a chat. A message that the webhook does not take
is only logged.
-/

namespace ChainRelay

namespace Severity

/-- The sign in front of a chat message. -/
def sign : Severity → String
  | info => ":information_source:"
  | warn => ":warning:"
  | error => ":rotating_light:"

/-- The level of a notification in the log. -/
def level : Severity → LogLevel
  | info => .info
  | warn => .warning
  | error => .error

end Severity

namespace Http

variable {σ : Type}

/-- A log line of the notifiers. -/
def noticeLine (level : LogLevel) (message : String) (severity : Severity) : LogLine where
  level := level
  logger := "relayer.notifications"
  message := message
  context := [("severity", .str severity.word)]

/-- Notify by a log line. -/
def logNotice (net : Network σ) (severity : Severity) (title body : String) : Call σ Unit :=
  net.report (noticeLine severity.level (title ++ ": " ++ body) severity)

/-- The webhook of a chat. -/
structure Webhook (σ : Type) where
  net : Network σ
  url : Url
  /-- The name under which messages are sent. -/
  service : String := "stacks-relayer"

namespace Webhook

/-- The text of a chat message. -/
def message (hook : Webhook σ) (severity : Severity) (title body : String) : String :=
  severity.sign ++ " *[" ++ hook.service ++ "] " ++ title ++ "*\n" ++ body

/-- Notify by a chat message. -/
def notify (hook : Webhook σ) (severity : Severity) (title body : String) : Call σ Unit := do
  let outcome ← hook.net.send {
    method := .post, base := hook.url, reference := ""
    body := .json (.obj [("text", .str (hook.message severity title body))]) }
  let failure : Option String := match outcome with
    | .ok reply => if reply.isSuccess then none else some ("status " ++ toString reply.status)
    | .error reason => some reason
  match failure with
  | none => return ()
  | some reason =>
    hook.net.report { noticeLine .warning "slack notification failed" severity with
      fault := some (.failure reason) }

end Webhook

end Http

end ChainRelay
