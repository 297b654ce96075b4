import ChainRelay.Worker.Broadcasts
import ChainRelay.Worker.CrossChain
import ChainRelay.Worker.Drain
import ChainRelay.Worker.Events
import ChainRelay.Worker.JobState
import ChainRelay.Worker.MessageApproved
import ChainRelay.Worker.Outbound
import ChainRelay.Worker.Tasks
import ChainRelay.World.Lock

/-!
# Running jobs

What each job does, and how it is run under its lock.
-/

namespace ChainRelay

namespace Relayer

variable {σ τ : Type} [Seconds τ]

/-- How batches of a family are worked off. -/
def batchHandler (r : Relayer σ) : Family → List WorkItem → Work σ τ (List WorkItem)
  | .messageApproved => r.messageBatch true
  | .stacksTransaction => r.outboundBatch
  | .crossChainTransaction => r.crossChainBatch

/-- The drain of a family's queue by a job whose lock lives so many seconds. -/
def jobDrain (r : Relayer σ) (family : Family) (lockTtl : Quantity) : Drain σ τ where
  settings := QueueSettings.standard family
  handler := r.batchHandler family
  deadline := some lockTtl

/-- Drain the queue of a family. -/
def drainQueue (r : Relayer σ) (family : Family) (lockTtl : Quantity) : Work σ τ Unit := do
  let _ ← Drain.run r (r.jobDrain family lockTtl)

/-- What a job does. -/
def runJob (r : Relayer σ) (lockTtl : Quantity) : Job → Work σ τ Unit
  | .handleNewTasks => do let _ ← r.handleNewTasks taskPageSize
  | .pollEvents => do let _ ← r.pollEvents
  | .processCrossChain => r.drainQueue .crossChainTransaction lockTtl
  | .processMessages => r.drainQueue .messageApproved lockTtl
  | .processStacks => r.drainQueue .stacksTransaction lockTtl
  | .pendingBroadcasts => do let _ ← r.processBroadcasts

/-- Run a job under its lock: whether it ran, or the fault that ended it. -/
def tick (r : Relayer σ) (job : Job) (lockTtl : Quantity) : Work σ τ (Except Fault Bool) :=
  Work.attempt (Work.underLock job.name lockTtl (r.runJob lockTtl job))

end Relayer

end ChainRelay
