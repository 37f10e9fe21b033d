import WebhookWise.GuardedRuns
import WebhookWise.SqlTable
import WebhookWise.SqlIndexes
import WebhookWise.TextRewriting
import WebhookWise.Upserts
import WebhookWise.PythonValues
import WebhookWise.SensitiveKeys
import WebhookWise.DeepAnalysisGateways
import WebhookWise.ForwardChannels
import WebhookWise.ForwardOutboxRecords
import WebhookWise.ForwardOutboxStatements
import WebhookWise.ForwardOutboxLifecycle
import WebhookWise.ForwardOutboxRowSteps
import WebhookWise.ForwardOutboxSettlement
import WebhookWise.ForwardOutboxRetryBudget
import WebhookWise.ForwardOutboxDigests
import WebhookWise.ForwardOutboxInterleavings
import WebhookWise.ForwardOutboxIntents
import WebhookWise.Pseudonymizer
import WebhookWise.PseudonymizerRoundTrip
import WebhookWise.DeepAnalysisPolls
import WebhookWise.DeepAnalysisPollGateways
import WebhookWise.DeepAnalysisRuns
import WebhookWise.DeepAnalysisUnmasking
import WebhookWise.DeepAnalysisEndings
import WebhookWise.IncidentAlerts
import WebhookWise.IncidentScans
import WebhookWise.IncidentMemberships
import WebhookWise.IncidentIdentity
import WebhookWise.IncidentAggregates
import WebhookWise.IncidentEdits
import WebhookWise.IncidentEditRuns
import WebhookWise.WebhookIngest
import WebhookWise.WebhookIngestCompletion
import WebhookWise.WebhookSaves
import WebhookWise.WebhookOriginals
import WebhookWise.WebhookDedup
import WebhookWise.WebhookLinks
import WebhookWise.WebhookReuse
import WebhookWise.SilencedPlaceholders
import WebhookWise.PythonExceptions
import WebhookWise.WebhookTasks
import WebhookWise.PubSubCache
import WebhookWise.RuleMatching
import WebhookWise.ForwardDecisions
import WebhookWise.InboundRules
import WebhookWise.ConfigSchemas
import WebhookWise.ConfigTransfer
import WebhookWise.ConfigRoundTrips
import WebhookWise.MaintenanceSchedules
import WebhookWise.MaintenanceSweeps
import WebhookWise.MaintenanceSafety
import WebhookWise.InformationFlow
import WebhookWise.PayloadSanitizer
import WebhookWise.WebhookSecurity
import WebhookWise.WebhookReplays
import WebhookWise.RunbookExecutions
import WebhookWise.RemediationProposals
import WebhookWise.UndoStacks
import WebhookWise.WorkflowUpdates
import WebhookWise.WorkflowUndo
import WebhookWise.IdempotencyReceipts
import WebhookWise.CardActions
import WebhookWise.CardReceipts
import WebhookWise.Noninterference
import WebhookWise.IdentityKeys
import WebhookWise.AnalysisPipeline
import WebhookWise.AnalysisLinks
import WebhookWise.AnalysisIsolation
import WebhookWise.AnalysisCorrections
import WebhookWise.ImportanceCeilings
import WebhookWise.CorrectionPriors
import WebhookWise.WebhookBoundary
import WebhookWise.EcosystemAdapters
import WebhookWise.WebhookNormalization
import WebhookWise.ReadCommitted
import WebhookWise.IngestRetryScans
import WebhookWise.ClientAddresses
import WebhookWise.IsoDates
import WebhookWise.PagedBacklogs
import WebhookWise.SlaBreaches
import WebhookWise.SlaStarvation
import WebhookWise.IncidentSummaries
import WebhookWise.SummaryRuns
import WebhookWise.AlertFinalization
import WebhookWise.Redeliveries
import WebhookWise.NotificationCooldown
import WebhookWise.RuleMarks
import WebhookWise.Reanalysis
import WebhookWise.Sandbox
import WebhookWise.SqlUpserts
import WebhookWise.KnowledgeBase
import WebhookWise.IncidentSediment
import WebhookWise.DraftSweeps
import WebhookWise.LitePipeline
import WebhookWise.LiteDecisions
import WebhookWise.LiteGates
import WebhookWise.ProcessingGate
import WebhookWise.ForwardOutboxRequeue
import WebhookWise.MaintenanceOccurrences
import WebhookWise.EmbeddedJson
import WebhookWise.PromptFences
import WebhookWise.CircuitBreaker
import WebhookWise.SilenceBacktest
import WebhookWise.LiteAcceptance
import WebhookWise.PolledTexts
import WebhookWise.GatewayClients
import WebhookWise.BudgetAlerts
import WebhookWise.PayloadTruncation
import WebhookWise.CommitOrders
import WebhookWise.NoiseReduction
import WebhookWise.NoiseSuppression
import WebhookWise.DuplicateCounts
import WebhookWise.ProposalRequests
import WebhookWise.DeliveryStatuses
import WebhookWise.EventLists
import WebhookWise.ListedRecoveries
import WebhookWise.RateLimits
import WebhookWise.ErrorLines
import WebhookWise.DocumentKeys
import WebhookWise.QuickSilences
import WebhookWise.RetentionArchive
import WebhookWise.TruncatedObjects
import WebhookWise.EventKeys
import WebhookWise.RuleAudits
import WebhookWise.NoiseDigests
import WebhookWise.QualityConservation
import WebhookWise.ReportTexts
import WebhookWise.ChunkedTexts
import WebhookWise.LiteRecoveries
import WebhookWise.AutoSlas
import WebhookWise.RuntimeSettings
import WebhookWise.ExpiringKeys
import WebhookWise.Flapping
import WebhookWise.IncidentRecurrences
import WebhookWise.OffsetPages
import WebhookWise.WorkQueues
import WebhookWise.ConditionTrees
import WebhookWise.DeclarativeSpecs
import WebhookWise.DeclarativeAdapters
import WebhookWise.BoundedCaches
import WebhookWise.OutboundUrls
import WebhookWise.IngressStorms
