import TriggerPlan.Text.Blank
import TriggerPlan.Text.Quoted
import TriggerPlan.Text.Hex
import TriggerPlan.Text.GraphemeExtend
import TriggerPlan.Text.Unprintable
import TriggerPlan.Text.UpperCase
import TriggerPlan.Binary64.Nearest
import TriggerPlan.Binary64.Shortest
import TriggerPlan.SortedMap
import TriggerPlan.Settings.Layer
import TriggerPlan.Model.View
import TriggerPlan.Model.Operation
import TriggerPlan.Pipeline.Json
import TriggerPlan.Pipeline.Listing
import TriggerPlan.Resources.Bundled
import TriggerPlan.Checksum
import TriggerPlan.Compiler.Basic
import TriggerPlan.Resolution
import TriggerPlan.Kdl.Grammar
import TriggerPlan.Declaration.Load
import TriggerPlan.FileTree.Listing
import TriggerPlan.Execution
import TriggerPlan.CommandLine.Run
import TriggerPlan.Main
import TriggerPlan.Proofs.Context
import TriggerPlan.Proofs.Declaration.Conversion
import TriggerPlan.Proofs.Declaration.Decidable
import TriggerPlan.Proofs.Declaration.Deletion
import TriggerPlan.Proofs.Declaration.Language
import TriggerPlan.Proofs.Declaration.LastValue
import TriggerPlan.Proofs.Declaration.SettingKeys
import TriggerPlan.Proofs.Declaration.Rearrangement
import TriggerPlan.Proofs.Outcome
import TriggerPlan.Proofs.Resolution.Context
import TriggerPlan.Proofs.Resolution.Correspondence
import TriggerPlan.Proofs.Resolution.Described
import TriggerPlan.Proofs.Resolution.Rearrangement
import TriggerPlan.Proofs.Resolution.Settings
import TriggerPlan.Proofs.Resolution.Success
import TriggerPlan.Proofs.Resolution.Views
import TriggerPlan.Proofs.Settings.Assignment
import TriggerPlan.Proofs.Settings.Numeral
import TriggerPlan.Proofs.Settings.DecimalText
import TriggerPlan.Proofs.SortedMap
import TriggerPlan.Proofs.Json.Text
import TriggerPlan.Proofs.Resolution.Deletion
import TriggerPlan.Proofs.Path
import TriggerPlan.Proofs.Resources
import TriggerPlan.Proofs.Pipeline.Identifiers
import TriggerPlan.Proofs.Pipeline.Json
import TriggerPlan.Proofs.Resolution.TriggerNames
import TriggerPlan.Proofs.Pipeline.Order
import TriggerPlan.Proofs.Pipeline.Topological
import TriggerPlan.Proofs.Resolution.StepOrder
import TriggerPlan.Proofs.Failure
import TriggerPlan.Proofs.Declaration.Place
import TriggerPlan.Proofs.Settings.Failure
import TriggerPlan.Proofs.Resolution.Failure
import TriggerPlan.Proofs.Text.ByteOrder
import TriggerPlan.Proofs.Text.Blank
import TriggerPlan.Proofs.Settings.Change
import TriggerPlan.Proofs.Model.Entities
import TriggerPlan.Proofs.Model.Operation
import TriggerPlan.Proofs.Model.Refusal
import TriggerPlan.Proofs.Model.Layers
import TriggerPlan.Proofs.Model.Invariant
import TriggerPlan.Proofs.Model.History
import TriggerPlan.Proofs.Model.Reachable
import TriggerPlan.Proofs.Resolution.Expression
import TriggerPlan.Proofs.Resolution.Containment
import TriggerPlan.Proofs.Resolution.Directories
import TriggerPlan.Proofs.Resolution.PipelineOrder
import TriggerPlan.Proofs.FileTree.Way
import TriggerPlan.Proofs.FileTree.Demand
import TriggerPlan.Proofs.FileTree.Settling
import TriggerPlan.Proofs.FileTree.Growth
import TriggerPlan.Proofs.FileTree.Marking
import TriggerPlan.Proofs.Materialize
import TriggerPlan.Proofs.Materialize.Failure
import TriggerPlan.Proofs.Materialize.Repetition
import TriggerPlan.Proofs.Execution
import TriggerPlan.Proofs.Agreement
import TriggerPlan.Proofs.MissingResource
import TriggerPlan.Proofs.Resolution.MaterializingOrder
import TriggerPlan.Proofs.Resolution.Generation
import TriggerPlan.Proofs.Resolution.Supply
