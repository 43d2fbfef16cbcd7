import MarkupSpec.Call
import MarkupSpec.Compile
import MarkupSpec.Decimal.Binary64
import MarkupSpec.Decimal.Layout
import MarkupSpec.Decimal.Reader
import MarkupSpec.Decimal.Shortest
import MarkupSpec.Error
import MarkupSpec.Error.Stated
import MarkupSpec.Flatten
import MarkupSpec.Forest.Attributes
import MarkupSpec.Forest.Basic
import MarkupSpec.Forest.Copy
import MarkupSpec.Forest.Edit
import MarkupSpec.Forest.NodeId
import MarkupSpec.Forest.Printer
import MarkupSpec.Forest.Scope
import MarkupSpec.Namespace.Name
import MarkupSpec.Namespace.Resolve
import MarkupSpec.Page
import MarkupSpec.Placement
import MarkupSpec.Proofs.Build.Atomic
import MarkupSpec.Proofs.Build.Concatenation
import MarkupSpec.Proofs.Build.Course
import MarkupSpec.Proofs.Build.DepthLimit
import MarkupSpec.Proofs.Build.DisplacedElements
import MarkupSpec.Proofs.Build.DocumentContent
import MarkupSpec.Proofs.Build.ElementContent
import MarkupSpec.Proofs.Build.EvenBuilds
import MarkupSpec.Proofs.Build.FailurePath
import MarkupSpec.Proofs.Build.Growth
import MarkupSpec.Proofs.Build.Intact
import MarkupSpec.Proofs.Build.MapOrder
import MarkupSpec.Proofs.Build.NodeOwners
import MarkupSpec.Proofs.Build.Outcome
import MarkupSpec.Proofs.Build.OutermostNodes
import MarkupSpec.Proofs.Build.PlaceRefusal
import MarkupSpec.Proofs.Build.ReadOnly
import MarkupSpec.Proofs.Build.ReturnedNode
import MarkupSpec.Proofs.Build.Steps
import MarkupSpec.Proofs.Build.TargetCourse
import MarkupSpec.Proofs.Build.Visits
import MarkupSpec.Proofs.Calls.Account
import MarkupSpec.Proofs.Calls.Invocations
import MarkupSpec.Proofs.Calls.Order
import MarkupSpec.Proofs.Calls.Trace
import MarkupSpec.Proofs.Flatten.Idempotence
import MarkupSpec.Proofs.Flatten.InstructionPairs
import MarkupSpec.Proofs.Flatten.Nesting
import MarkupSpec.Proofs.Flatten.Reach
import MarkupSpec.Proofs.Flatten.ShiftedWorlds
import MarkupSpec.Proofs.Flatten.StreamlessResult
import MarkupSpec.Proofs.Flatten.Words
import MarkupSpec.Proofs.Forest.ChildLists
import MarkupSpec.Proofs.Forest.DocumentOrder
import MarkupSpec.Proofs.Forest.DocumentProlog
import MarkupSpec.Proofs.Forest.EditFootprint
import MarkupSpec.Proofs.Forest.Graft
import MarkupSpec.Proofs.Forest.Growth
import MarkupSpec.Proofs.Forest.HostPlacement
import MarkupSpec.Proofs.Forest.Intact
import MarkupSpec.Proofs.Forest.IntactEdits
import MarkupSpec.Proofs.Forest.KeptNodeEdits
import MarkupSpec.Proofs.Forest.KeptNodes
import MarkupSpec.Proofs.Forest.NodeAttachment
import MarkupSpec.Proofs.Forest.NodeCreation
import MarkupSpec.Proofs.Forest.Ordered
import MarkupSpec.Proofs.Forest.ParentAgreement
import MarkupSpec.Proofs.Forest.ParentChains
import MarkupSpec.Proofs.Forest.PlacedParent
import MarkupSpec.Proofs.Forest.Relocation
import MarkupSpec.Proofs.Forest.SiblingLinks
import MarkupSpec.Proofs.Forest.Splice
import MarkupSpec.Proofs.Forest.TargetPlacement
import MarkupSpec.Proofs.Namespace.BuiltElements
import MarkupSpec.Proofs.Namespace.ElementAscent
import MarkupSpec.Proofs.Namespace.ElementAttributes
import MarkupSpec.Proofs.Namespace.ElementOrigins
import MarkupSpec.Proofs.Namespace.ElementScope
import MarkupSpec.Proofs.Namespace.ElementTag
import MarkupSpec.Proofs.Namespace.Lexical
import MarkupSpec.Proofs.Namespace.NameSplitting
import MarkupSpec.Proofs.Namespace.QualifierMeaning
import MarkupSpec.Proofs.Namespace.ResolvedBindings
import MarkupSpec.Proofs.Namespace.ResolverResult
import MarkupSpec.Proofs.Namespace.ScopeGathering
import MarkupSpec.Proofs.Namespace.SoundBuild
import MarkupSpec.Proofs.Namespace.SoundForest
import MarkupSpec.Proofs.Namespace.WellNamed
import MarkupSpec.Proofs.Namespace.WrittenDeclarations
import MarkupSpec.Proofs.Page.Draft
import MarkupSpec.Proofs.Page.HeadItems
import MarkupSpec.Proofs.Page.Outline
import MarkupSpec.Proofs.Page.SpecAssembly
import MarkupSpec.Proofs.Position.BesideHost
import MarkupSpec.Proofs.Position.BlindReading
import MarkupSpec.Proofs.Position.BlindValues
import MarkupSpec.Proofs.Position.Independence
import MarkupSpec.Proofs.Position.PairedBuilds
import MarkupSpec.Proofs.Position.PairedPlaces
import MarkupSpec.Proofs.Position.TwinCreation
import MarkupSpec.Proofs.Position.TwinDoctypes
import MarkupSpec.Proofs.Position.Twins
import MarkupSpec.Proofs.Run.Concurs
import MarkupSpec.Proofs.Run.Conduct
import MarkupSpec.Proofs.Run.Echo
import MarkupSpec.Proofs.Run.Ensures
import MarkupSpec.Proofs.Run.EvenWorlds
import MarkupSpec.Proofs.Run.Kindred
import MarkupSpec.Proofs.Session.NodeOwners
import MarkupSpec.Proofs.Session.Prologs
import MarkupSpec.Proofs.Session.Requests
import MarkupSpec.Proofs.Session.WellLinked
import MarkupSpec.Proofs.Session.WellNamed
import MarkupSpec.Proofs.Spec.AttributeOrder
import MarkupSpec.Proofs.Spec.MapForms
import MarkupSpec.Proofs.Spec.MapOrder
import MarkupSpec.Proofs.Spec.MarkedWords
import MarkupSpec.Proofs.Spec.MarkerSpelling
import MarkupSpec.Proofs.Spec.NameSlots
import MarkupSpec.Proofs.Spec.Regrouping
import MarkupSpec.Proofs.Spec.StreamlessReading
import MarkupSpec.Proofs.Value.InheritedProperties
import MarkupSpec.Proofs.Value.Renumbering
import MarkupSpec.Settings.Assignment
import MarkupSpec.Settings.Basic
import MarkupSpec.Settings.Reader
import MarkupSpec.Spec.Basic
import MarkupSpec.Spec.Parse
import MarkupSpec.Studio
import MarkupSpec.Text.Alphanumeric
import MarkupSpec.Text.Blank
import MarkupSpec.Text.CharRange
import MarkupSpec.Text.Digit
import MarkupSpec.Text.Order
import MarkupSpec.Text.Printable
import MarkupSpec.Text.Quoted
import MarkupSpec.Text.Split
import MarkupSpec.Value.Basic
import MarkupSpec.Value.Printer
import MarkupSpec.Value.Shape
import MarkupSpec.Value.Template
import MarkupSpec.World
