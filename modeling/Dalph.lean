import Dalph.Foundation.Closure
import Dalph.Foundation.Json
import Dalph.Foundation.Machine
import Dalph.Foundation.Log
import Dalph.Foundation.Loop
import Dalph.Foundation.KeyedMap
import Dalph.Foundation.Program
import Dalph.Foundation.Dialogue
import Dalph.Foundation.Worklist
import Dalph.Foundation.TextKey
import Dalph.Foundation.PersistentSequence
import Dalph.Foundation.SequenceIndex
import Dalph.Foundation.Utf16
import Dalph.Foundation.StronglyConnected
import Dalph.Foundation.TopologicalOrder
import Dalph.Foundation.RightmostTree
import Dalph.Contracts
import Dalph.TaskTracker.Graph
import Dalph.TaskTracker.Facts
import Dalph.TaskTracker.RunFinality
import Dalph.TaskTracker.GraphProjection
import Dalph.TaskTracker.GraphOrder
import Dalph.TaskTracker.GraphRearrangement
import Dalph.TaskTracker.Grouping
import Dalph.TaskTracker.Github.ReadPrimitives
import Dalph.TaskTracker.Github.TargetClosure
import Dalph.TaskTracker.Github.TargetClosureExact
import Dalph.TaskTracker.Github.GraphReader
import Dalph.TaskTracker.Github.ClosureReads
import Dalph.Workflow.Operation
import Dalph.Workflow.Event
import Dalph.WorkflowJournal.StoragePayload
import Dalph.WorkflowJournal.EventCodec
import Dalph.WorkflowJournal.RecordKey
import Dalph.WorkflowJournal.Record
import Dalph.WorkflowJournal.RunLifecycle
import Dalph.WorkflowJournal.Completion
import Dalph.WorkflowJournal.StoredRun
import Dalph.WorkflowJournal.MemoryStore
import Dalph.WorkflowJournal.MemoryInvariant
import Dalph.WorkflowJournal.ArchiveRetention
import Dalph.WorkflowJournal.ClaimObservationEpisodes
import Dalph.WorkflowJournal.SpecificationDivergence
import Dalph.WorkflowJournal.SettledCompletionClaimReplacement
import Dalph.WorkflowJournal.SqliteDatabase
import Dalph.WorkflowJournal.SqliteStore
import Dalph.WorkflowJournal.SqliteRepresentation
import Dalph.WorkflowJournal.SqliteCheckpoint
import Dalph.WorkflowJournal.SqliteRefinement
import Dalph.WorkflowJournal.SqliteCoherence
import Dalph.WorkflowJournal.StoreAgreement
import Dalph.Workflow.EventObject
import Dalph.WorkflowJournal.RecordEvidence
import Dalph.WorkflowJournal.EvidenceIndex
import Dalph.WorkflowJournal.EvidenceAgreement
import Dalph.WorkflowJournal.PresentedHistory
import Dalph.WorkflowJournal.RunTarget
import Dalph.WorkflowJournal.TerminationPreconditions
import Dalph.WorkflowJournal.BlockerClearEvidence
import Dalph.WorkflowJournal.GraphEvidence
import Dalph.WorkflowJournal.CompletionReadCycles
import Dalph.Workflow.ReplacementEvents
import Dalph.Workflow.IntegrationAdmission
import Dalph.Workflow.ExecutorEvidence
import Dalph.Workflow.PresentedEvidence
import Dalph.Workflow.ExecutorLifecycle
import Dalph.Workflow.PresentedCommands
import Dalph.Workflow.CurrentEvidence
import Dalph.Workflow.ResultRecovery.Direction
import Dalph.Workflow.AttemptPlanning
import Dalph.Workflow.ClaimAuthority
import Dalph.Workflow.PlanningRun
import Dalph.Coordination.Reconstruction.HistoryReplay
import Dalph.Coordination.Reconstruction.AttemptChoices
import Dalph.Coordination.Reconstruction.CancelledAttempts
import Dalph.Coordination.Reconstruction.AttemptEndings
import Dalph.Coordination.Reconstruction.History
import Dalph.Coordination.Reconstruction.HistoryIndexes
import Dalph.Coordination.Reconstruction.ForwardWork
import Dalph.Coordination.Reconstruction.ChoiceRules
import Dalph.Coordination.Reconstruction.SingleEnding
import Dalph.Coordination.Reconstruction.AttemptChains
import Dalph.Coordination.Reconstruction.PriorResources
import Dalph.Coordination.Reconstruction.PauseState
import Dalph.Coordination.Reconstruction.GraphKnowledge
import Dalph.Coordination.Reconstruction.ExecutorHistory
import Dalph.Coordination.Reconstruction.ExecutorLaw
import Dalph.Coordination.Reconstruction.UnsettledCommands
import Dalph.Coordination.Reconstruction.KernelRun
import Dalph.Coordination.Reconstruction.UncrossedBegins
import Dalph.Coordination.Reconstruction.UnfinishedAttempts
import Dalph.Coordination.Reconstruction.ExecutorSafety
import Dalph.Coordination.IntegrationTargetResource
import Dalph.Coordination.IntegrationTargetExclusion
import Dalph.Coordination.ApplicationExit
import Dalph.Coordination.ApplicationExitCutoff
import Dalph.Coordination.AttemptProtocol
import Dalph.Coordination.AttemptProtocolMoves
import Dalph.Coordination.AttemptProtocolExclusion
import Dalph.Coordination.DeliveryProposal
import Dalph.Coordination.TaskWorkPosition
import Dalph.Coordination.RuntimeAdmission
import Dalph.Coordination.TaskWorkOwnership
import Dalph.Coordination.ReservationRollback
import Dalph.Coordination.ReservationAtomicity
import Dalph.Coordination.AdmissionSweep
import Dalph.Coordination.LiveJournal
import Dalph.Coordination.LiveJournalCoherence
import Dalph.Coordination.RunReactivation
import Dalph.Coordination.RunReactivationWakes
import Dalph.Workflow.TaskClaimProtocols
import Dalph.Workflow.TaskClaimReacquisition
import Dalph.Coordination.Reconstruction.AuthorizedClaim
import Dalph.Workflow.PostPromotionBlockerAncestry
import Dalph.Workflow.Integrator
import Dalph.Workflow.TargetPromotion.State
import Dalph.Workflow.TargetPromotion.History
import Dalph.Workflow.TargetPromotion.Engine
import Dalph.Workflow.TargetPromotion.Coherence
import Dalph.Workflow.RecordedCandidates
import Dalph.Workflow.IntegrationFinality.Events
import Dalph.Workflow.IntegrationFinality.State
import Dalph.Coordination.Reconstruction.TrackerReads
import Dalph.Coordination.Reconstruction.IntegrationFinality
import Dalph.Workflow.DirectPublication.State
import Dalph.Workflow.DirectPublication.Control
import Dalph.Workflow.DirectPublication.Once
import Dalph.Workflow.DirectPublication.Consistency
import Dalph.Workflow.DispositionCleanup.Family
import Dalph.Workflow.DispositionCleanup.History
import Dalph.Workflow.DispositionCleanup.Runner
import Dalph.Workflow.DispositionCleanup.Reads
import Dalph.Workflow.DispositionCleanup.Justified
import Dalph.Workflow.DispositionCleanup.Written
import Dalph.Workflow.DispositionCleanup.Agreement
import Dalph.Workflow.ExecutorGuidance.Once
import Dalph.Coordination.PauseConfirmation
import Dalph.Coordination.FreshWorkflow.EntryCapability
import Dalph.WorkflowJournal.RetainedExecutorResponsibility
import Dalph.Coordination.Reconstruction.RestedEndings
import Dalph.Coordination.Reconstruction.RetainedResponsibilities
import Dalph.Git.WorktreeRegistration
import Dalph.WorkflowJournal.OperationProgress
import Dalph.WorkflowJournal.RecordViews
