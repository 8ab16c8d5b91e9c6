import SourceosBoot.AbUpdate.AcceptedReplays
import SourceosBoot.AbUpdate.AttemptTimes
import SourceosBoot.AbUpdate.CommandChains
import SourceosBoot.AbUpdate.MirroredSlots
import SourceosBoot.AbUpdate.RefutedWrites
import SourceosBoot.AbUpdate.RunningSlot
import SourceosBoot.AbUpdate.SlotSelection
import SourceosBoot.AbUpdate.TransactionOutcomes
import SourceosBoot.AbUpdate.TransitionPaths
import SourceosBoot.CommandLine
import SourceosBoot.Evidence.Decisions
import SourceosBoot.Evidence.SchemaCoverage
import SourceosBoot.Lifecycle.AuditTrail
import SourceosBoot.Lifecycle.Mutations
import SourceosBoot.Lifecycle.RecordConformance
import SourceosBoot.Release.ValidatorStrictness
import SourceosBoot.Rollback.GenerationNames
import SourceosBoot.Rollback.RollbackTargets
import SourceosBoot.Rollback.TruthfulReports
import SourceosBoot.Tools.Ratchet
