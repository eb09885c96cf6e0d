import FlowRunner.Backend.Credentials
import FlowRunner.Main
import FlowRunner.Proofs.AbsentFields
import FlowRunner.Proofs.AccessRoles
import FlowRunner.Proofs.BatchJobs
import FlowRunner.Proofs.ComparedNumbers
import FlowRunner.Proofs.ControlFields
import FlowRunner.Proofs.DatabaseCalls
import FlowRunner.Proofs.EmbeddedPlaceholders
import FlowRunner.Proofs.EventFilters
import FlowRunner.Proofs.ExactNumbers
import FlowRunner.Proofs.FailureOrigin
import FlowRunner.Proofs.FinalStore
import FlowRunner.Proofs.FirstMismatch
import FlowRunner.Proofs.FlowsInTurn
import FlowRunner.Proofs.FreeParts
import FlowRunner.Proofs.HandOver
import FlowRunner.Proofs.InitialStores
import FlowRunner.Proofs.KeptIntegers
import FlowRunner.Proofs.KeptTexts
import FlowRunner.Proofs.LeadingIntegers
import FlowRunner.Proofs.LoadedDirectories
import FlowRunner.Proofs.LoadedWorkflows
import FlowRunner.Proofs.MismatchPaths
import FlowRunner.Proofs.OverlongDelays
import FlowRunner.Proofs.OwnedActions
import FlowRunner.Proofs.PairedColumns
import FlowRunner.Proofs.ParameterLayers
import FlowRunner.Proofs.PathSpellings
import FlowRunner.Proofs.PlainTexts
import FlowRunner.Proofs.Polling
import FlowRunner.Proofs.Programs
import FlowRunner.Proofs.Queries
import FlowRunner.Proofs.QueryRecords
import FlowRunner.Proofs.ReadablePaths
import FlowRunner.Proofs.Readings
import FlowRunner.Proofs.Refusals
import FlowRunner.Proofs.Replies
import FlowRunner.Proofs.Requests
import FlowRunner.Proofs.SameValues
import FlowRunner.Proofs.Sequence
import FlowRunner.Proofs.SkippedSteps
import FlowRunner.Proofs.SpelledControls
import FlowRunner.Proofs.SpelledIncrements
import FlowRunner.Proofs.Statements
import FlowRunner.Proofs.StaticRouting
import FlowRunner.Proofs.StepLabels
import FlowRunner.Proofs.StoreChanges
import FlowRunner.Proofs.StoreOrder
import FlowRunner.Proofs.Subscriptions
import FlowRunner.Proofs.Successors
import FlowRunner.Proofs.Templates
import FlowRunner.Proofs.ValueMapForms
import FlowRunner.Proofs.WrittenFiles
import FlowRunner.Proofs.WrittenSteps
import FlowRunner.Rehearsal.Stage
