import NativeViews.Main
import NativeViews.Shell.Machine
import NativeViews.Script.Printing
import NativeViews.Proofs.Json.Records
import NativeViews.Proofs.Schema.WireForm
import NativeViews.Proofs.OrderedMap
import NativeViews.Proofs.Schema.RoundTrip
import NativeViews.Proofs.Script.Induction
import NativeViews.Proofs.Script.Literal
import NativeViews.Proofs.Script.Names
import NativeViews.Proofs.Script.Tokens
import NativeViews.Proofs.Script.Injectivity
import NativeViews.Proofs.Host.Building
import NativeViews.Proofs.Host.Content
import NativeViews.Proofs.Host.Layout
import NativeViews.Proofs.Host.Observation
import NativeViews.Proofs.Host.Uses
import NativeViews.Proofs.Host.ImportSection
import NativeViews.Proofs.Host.Assembly
import NativeViews.Proofs.Files.Standing
import NativeViews.Proofs.Files.Resolution
import NativeViews.Proofs.Shell.Performance
import NativeViews.Proofs.Action.Plan
import NativeViews.Proofs.Files.Change
import NativeViews.Proofs.Shell.Creation
import NativeViews.Proofs.Action.Delivery
import NativeViews.Proofs.Action.Frame
import NativeViews.Proofs.Action.Prediction
import NativeViews.Proofs.Files.Spelling
import NativeViews.Proofs.Shell.Stability
import NativeViews.Proofs.Action.Freshness
import NativeViews.Proofs.Files.Course
import NativeViews.Proofs.Action.Containment
import NativeViews.Proofs.Files.Elsewhere
import NativeViews.Proofs.Shell.Blindness
import NativeViews.Proofs.Settings.Template
import NativeViews.Proofs.Action.Neutrality
import NativeViews.Proofs.Script.Provenance
import NativeViews.Proofs.Host.Spelling
import NativeViews.Proofs.Script.Evaluation
import NativeViews.Proofs.Host.Dispatch
import NativeViews.Proofs.Host.EventKeys
import NativeViews.Proofs.Host.Accumulation
import NativeViews.Proofs.Schema.FirstFailure
import NativeViews.Proofs.Schema.KnownFields
import NativeViews.Proofs.Settings.Substitution
import NativeViews.Proofs.Schema.TypeMeaning
import NativeViews.Proofs.Json.Integers
import NativeViews.Proofs.OrderedMap.History
import NativeViews.Proofs.Script.Execution
import NativeViews.Proofs.Host.Naming
import NativeViews.Proofs.Host.Summary
import NativeViews.Proofs.Text.Words
import NativeViews.Proofs.Text.IdentifierClasses
import NativeViews.Proofs.Script.Keys
import NativeViews.Proofs.Action.LibraryName
import NativeViews.Proofs.Host.TopLevelNames
import NativeViews.Proofs.Script.Indentation
import NativeViews.Proofs.Script.Printing
