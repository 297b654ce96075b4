import ChainRelay.Report.Exchange

/-!
# Rehearsed exchanges

A network without services: its replies are given in advance, one for each request, and it keeps
what was asked and what was logged.
-/

namespace ChainRelay.Http

/-- The replies left, the requests made and the lines written. -/
structure Rehearsal where
  replies : List Json
  requests : List Request := []
  lines : List LogLine := []

/-- The network that plays the replies, one after the other. -/
def Rehearsal.network : Network Rehearsal where
  exchange request := fun s =>
    let s := { s with requests := s.requests ++ [request] }
    match s.replies with
    | [] => (.error "nobody answers", s)
    | reply :: rest => (Reply.ofReport reply, { s with replies := rest })
  log line := fun s => { s with lines := s.lines ++ [line] }

end ChainRelay.Http
