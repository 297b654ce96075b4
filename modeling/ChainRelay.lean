import ChainRelay.Cache.Remote
import ChainRelay.Database.Queue
import ChainRelay.Http.ChainService
import ChainRelay.Http.HubService
import ChainRelay.Http.Notifier
import ChainRelay.Http.Rehearsal
import ChainRelay.Http.SignerService
import ChainRelay.Log.Template
import ChainRelay.Main
import ChainRelay.Report.Fleet
import ChainRelay.Report.Simulation
import ChainRelay.Report.Settings
import ChainRelay.Report.World
import ChainRelay.Worker.Jobs
import ChainRelay.Proofs.World.Course
import ChainRelay.Proofs.Confirmation.Resolution
import ChainRelay.Proofs.Worker.Turn
import ChainRelay.Proofs.Worker.InFlight
import ChainRelay.Proofs.Worker.MessageCourse
import ChainRelay.Proofs.Worker.OutboundCourse
import ChainRelay.Proofs.Queue.Rows
import ChainRelay.Proofs.Worker.Submission
import ChainRelay.Proofs.Worker.MessageBatch
import ChainRelay.Proofs.Worker.Exclusivity
import ChainRelay.Proofs.Queue.Operations
import ChainRelay.Proofs.Queue.History
import ChainRelay.Proofs.Queue.Calls
import ChainRelay.Proofs.Worker.DrainRounds
import ChainRelay.Proofs.Worker.AcceptedSends
import ChainRelay.Proofs.Worker.EventCoverage
import ChainRelay.Proofs.World.Writes
import ChainRelay.Proofs.Worker.TaskEffects
import ChainRelay.Proofs.Worker.TaskPrefix
import ChainRelay.Proofs.Queue.Stages
import ChainRelay.Proofs.Queue.Overlap
import ChainRelay.Proofs.Worker.MessageVerdict
import ChainRelay.Proofs.Worker.RetryCeiling
import ChainRelay.Proofs.Worker.SendBudget
import ChainRelay.Proofs.Worker.Reingestion
import ChainRelay.Proofs.Cache.Entries
import ChainRelay.Proofs.World.SingleFlight
import ChainRelay.Proofs.Worker.DrainTime
import ChainRelay.Proofs.Worker.BroadcastReingestion
import ChainRelay.Proofs.Worker.BroadcastExpiry
import ChainRelay.Proofs.Database.Commit
import ChainRelay.Proofs.Worker.RejectedStep
import ChainRelay.Proofs.Worker.Results
import ChainRelay.Proofs.Queue.Selection
import ChainRelay.Proofs.Queue.Rollback
import ChainRelay.Proofs.Queue.QuietTimes
import ChainRelay.Proofs.Worker.ConfirmedStep
import ChainRelay.Proofs.Worker.FinalityWindow
import ChainRelay.Proofs.Worker.Acknowledgement
import ChainRelay.Proofs.World.Likeness
import ChainRelay.Proofs.Worker.Reports
import ChainRelay.Proofs.Worker.Audience
import ChainRelay.Proofs.Worker.Independence
import ChainRelay.Proofs.Worker.Omission
import ChainRelay.Proofs.Worker.TaskRefusals
import ChainRelay.Proofs.Worker.TaskContainment
import ChainRelay.Proofs.Http.Shapes
import ChainRelay.Proofs.Worker.BroadcastScan
import ChainRelay.Proofs.Worker.WorkKeys
import ChainRelay.Proofs.Http.Operations
import ChainRelay.Proofs.Worker.EventPages
import ChainRelay.Proofs.WorkItem.StoredPayloads
import ChainRelay.Proofs.Cache.KeySpaces
import ChainRelay.Proofs.Cache.LazyExpiry
import ChainRelay.Proofs.Confirmation.PollCourse
import ChainRelay.Proofs.Decimal.Doubles
import ChainRelay.Proofs.Confirmation.Verdict
import ChainRelay.Proofs.Worker.Jobs
