import KVOrchestrator.Verified.OrdDict
import KVOrchestrator.Verified.Ranking
import KVOrchestrator.Verified.SortedEnds
import KVOrchestrator.Verified.Builtins
import KVOrchestrator.Verified.Ladder
import KVOrchestrator.Verified.Dynamics
import KVOrchestrator.Verified.Percentile
import KVOrchestrator.Verified.MovingAverage
import KVOrchestrator.Verified.OrderStatistics
import KVOrchestrator.Verified.Dominance
import KVOrchestrator.Verified.FixedWidth
import KVOrchestrator.Verified.Text
import KVOrchestrator.Verified.Alignment
import KVOrchestrator.Ports.Schema
import KVOrchestrator.Ports.BlockTracker
import KVOrchestrator.Ports.PolicyBase
import KVOrchestrator.Ports.Heuristic
import KVOrchestrator.Ports.Extractor
import KVOrchestrator.Ports.Learned
import KVOrchestrator.Ports.Hybrid
import KVOrchestrator.Ports.Collector
import KVOrchestrator.Ports.PolicyEngine
import KVOrchestrator.Ports.ApplyDecisions
import KVOrchestrator.Ports.EngineRun
import KVOrchestrator.Ports.TrackerUpdates
import KVOrchestrator.Ports.PressureFeedback
import KVOrchestrator.Ports.TelemetryTrace
import KVOrchestrator.Ports.CollectorRun
import KVOrchestrator.Ports.Storage
import KVOrchestrator.Ports.WriteFailure
import KVOrchestrator.Ports.Workers
import KVOrchestrator.Ports.RequestHandler
import KVOrchestrator.Ports.RequestLifecycle
import KVOrchestrator.Ports.GenerateCall
import KVOrchestrator.Ports.ServingCalls
import KVOrchestrator.Ports.CallTracking
import KVOrchestrator.Ports.ConcurrencyBound
import KVOrchestrator.Ports.DecisionOrder
import KVOrchestrator.Ports.PressureOrder
import KVOrchestrator.Ports.OffloadCap
import KVOrchestrator.Ports.HybridStability
import KVOrchestrator.Ports.BuiltinPolicy
import KVOrchestrator.Ports.MemoryRelief
import KVOrchestrator.Ports.QuantizeTwice
import KVOrchestrator.Ports.WindowRun
import KVOrchestrator.Ports.SinkRetention
import KVOrchestrator.Ports.LearnedBands
import KVOrchestrator.Ports.LabelGenerator
import KVOrchestrator.Ports.ImportanceScorer
import KVOrchestrator.Ports.FeatureParity
import KVOrchestrator.Ports.AblationTiers
import KVOrchestrator.Ports.DecisionAlignment
import KVOrchestrator.Ports.PolicyStatistics
import KVOrchestrator.Ports.EvictionCount
import KVOrchestrator.Ports.ScoreBounds
import KVOrchestrator.Ports.AttentionHistory
import KVOrchestrator.Ports.PositionFlags
import KVOrchestrator.Ports.HeavyHitterRounding
import KVOrchestrator.Ports.Pareto
import KVOrchestrator.Ports.H2OBudget
import KVOrchestrator.Ports.RequestLatency
import KVOrchestrator.Ports.ScoringFallback
import KVOrchestrator.Ports.RecencyMeasures
import KVOrchestrator.Ports.HybridScore
import KVOrchestrator.Ports.FeatureBounds
import KVOrchestrator.Ports.ReuseLabels
import KVOrchestrator.Ports.EnumerationOrder
import KVOrchestrator.Ports.StorageBackends
import KVOrchestrator.Ports.ExperimentReports
import KVOrchestrator.Ports.StressTests
import KVOrchestrator.Ports.QualityMetrics
import KVOrchestrator.Ports.ReferenceAnswers
import KVOrchestrator.Ports.AnswerMetrics
import KVOrchestrator.Ports.ArticleRuns
import KVOrchestrator.Ports.AnswerNormalisation
import KVOrchestrator.Ports.InFlight
import KVOrchestrator.Ports.CycleInterleaving
import KVOrchestrator.Ports.LruEviction
import KVOrchestrator.Ports.OffloadGreedy
import KVOrchestrator.Ports.CandidateSelection
import KVOrchestrator.Ports.LabelAlignment
import KVOrchestrator.Ports.BlockAge
import KVOrchestrator.Ports.TailQueries
import KVOrchestrator.Ports.WorkloadPatterns
import KVOrchestrator.Ports.DialogueMarkers
import KVOrchestrator.Ports.ThroughputCounters
import KVOrchestrator.Ports.EffectSize
import KVOrchestrator.Ports.ResultFiles
import KVOrchestrator.Ports.StreamGenerate
import KVOrchestrator.Verified.TaskPool
import KVOrchestrator.Ports.LongBench
import KVOrchestrator.Ports.EngineResults
import KVOrchestrator.Ports.ServedSweep
import KVOrchestrator.Ports.ServingMetrics
import KVOrchestrator.Ports.DiskTelemetry
import KVOrchestrator.Ports.BatchEndpoint
import KVOrchestrator.Ports.DistributionReports
import KVOrchestrator.Ports.TrainingData
import KVOrchestrator.Ports.EngineLifecycle
import KVOrchestrator.Ports.IdleFullCache
import KVOrchestrator.Ports.RequestIsolation
import KVOrchestrator.Ports.ModelStore
import KVOrchestrator.Ports.FrontierMerge
import KVOrchestrator.Ports.IdleH2O
import KVOrchestrator.Verified.GridRuns
import KVOrchestrator.Ports.PolicyComparison
import KVOrchestrator.Ports.AblationStudy
import KVOrchestrator.Verified.RoundedMeans
import KVOrchestrator.Ports.EvaluationBatches
