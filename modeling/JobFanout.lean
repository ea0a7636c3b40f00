import JobFanout.Json.Entries
import JobFanout.Json.Decimal
import JobFanout.Json.Binary64
import JobFanout.Json.Basic
import JobFanout.Json.Printer
import JobFanout.Text.Quoted
import JobFanout.Time.Stamp
import JobFanout.ParamVector.Reading
import JobFanout.ParamVector.Evaluation
import JobFanout.Job.Basic
import JobFanout.Job.Schema
import JobFanout.Run.Identity
import JobFanout.Run.Report
import JobFanout.Run.Execution
import JobFanout.Run.EventId
import JobFanout.Json.Reader
import JobFanout.Job.Text
import JobFanout.Run.Resolution
import JobFanout.Command.Line
import JobFanout.Command.Session
import JobFanout.Main
import JobFanout.Proofs.KeyedEntries
import JobFanout.Proofs.CallIds
import JobFanout.Proofs.SettlingOrders
import JobFanout.Proofs.RunPhases
import JobFanout.Proofs.RunOutcomes
import JobFanout.Proofs.ExactlyOnce
import JobFanout.Proofs.EvaluationRelations
import JobFanout.Proofs.VectorReading
import JobFanout.Proofs.HiddenCalls
import JobFanout.Proofs.TimesAside
import JobFanout.Proofs.ReorderedJournals
import JobFanout.Proofs.SettlingIrrelevance
import JobFanout.Proofs.FailureIsolation
import JobFanout.Proofs.ResolutionTraces
import JobFanout.Proofs.RunEndings
import JobFanout.Proofs.RunProtocol
import JobFanout.Proofs.FailedRuns
import JobFanout.Proofs.IdentityUses
import JobFanout.Proofs.IdentityDiscipline
import JobFanout.Proofs.StampReadBack
import JobFanout.Proofs.ReportReadBack
import JobFanout.Proofs.StringReadBack
import JobFanout.Proofs.NumberReadBack
import JobFanout.Proofs.TextReadBack
import JobFanout.Proofs.PrintedReports
import JobFanout.Proofs.ListsInTurn
import JobFanout.Proofs.EvaluationNesting
import JobFanout.Proofs.EvaluationAlone
import JobFanout.Proofs.CallFailures
import JobFanout.Proofs.FirstCall
import JobFanout.Proofs.Combinations
import JobFanout.Proofs.IterateeNodes
import JobFanout.Proofs.FleetOrder
import JobFanout.Proofs.RunStages
import JobFanout.Proofs.RecordLifetimes
import JobFanout.Proofs.LogAccounts
import JobFanout.Proofs.IndependentJobs
import JobFanout.Proofs.StoredJobs
import JobFanout.Proofs.Odometers
import JobFanout.Proofs.MergedRecords
import JobFanout.Proofs.MergedProducts
import JobFanout.Proofs.NestedProducts
import JobFanout.Proofs.VectorWriting
import JobFanout.Proofs.RunCommand
import JobFanout.Proofs.ResultShapes
import JobFanout.Proofs.ProjectionFusion
import JobFanout.Proofs.ItemBlindMaps
import JobFanout.Proofs.MappedCalls
import JobFanout.Proofs.PatternMatching
import JobFanout.Proofs.SchemaViolations
import JobFanout.Proofs.SchemaAcceptance
import JobFanout.Proofs.LoadedForms
import JobFanout.Proofs.IdentityHistories
import JobFanout.Proofs.UnusedCallIds
