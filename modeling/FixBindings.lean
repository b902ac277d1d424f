import FixBindings.Artifact.Accessors
import FixBindings.Artifact.Basic
import FixBindings.Artifact.Description
import FixBindings.Artifact.Dispatch
import FixBindings.Artifact.FieldKind
import FixBindings.Calendar
import FixBindings.CommandLine.Arguments
import FixBindings.CommandLine.Run
import FixBindings.Document.Access
import FixBindings.Document.Basic
import FixBindings.Document.Display
import FixBindings.Files.Path
import FixBindings.Files.Tree
import FixBindings.Generation
import FixBindings.Java.Accessor
import FixBindings.Java.Literal
import FixBindings.Java.Source
import FixBindings.Json.Reader
import FixBindings.Json.Writer
import FixBindings.Layout
import FixBindings.Loading
import FixBindings.Main
import FixBindings.Number.Integer
import FixBindings.Number.Real
import FixBindings.Options
import FixBindings.Proofs.AccessedFields
import FixBindings.Proofs.AccessorTrees
import FixBindings.Proofs.Artifacts
import FixBindings.Proofs.Braces
import FixBindings.Proofs.CallPrograms
import FixBindings.Proofs.CaseMapping
import FixBindings.Proofs.Cases
import FixBindings.Proofs.ClassAccessors
import FixBindings.Proofs.ClassNames
import FixBindings.Proofs.ClassNesting
import FixBindings.Proofs.Consistency
import FixBindings.Proofs.Containment
import FixBindings.Proofs.DeclarationOrder
import FixBindings.Proofs.Declarations
import FixBindings.Proofs.DistinctFiles
import FixBindings.Proofs.ExcludedSession
import FixBindings.Proofs.FactoryCases
import FixBindings.Proofs.FieldConstants
import FixBindings.Proofs.FileTrees
import FixBindings.Proofs.FirstFaults
import FixBindings.Proofs.FrameAgreement
import FixBindings.Proofs.FramePruning
import FixBindings.Proofs.GroupChains
import FixBindings.Proofs.Histories
import FixBindings.Proofs.InnerClasses
import FixBindings.Proofs.IntegerLiterals
import FixBindings.Proofs.LayerPackages
import FixBindings.Proofs.LookUps
import FixBindings.Proofs.MalformedDocuments
import FixBindings.Proofs.MalformedElements
import FixBindings.Proofs.MethodSignatures
import FixBindings.Proofs.Methods
import FixBindings.Proofs.PathIndependence
import FixBindings.Proofs.Reachability
import FixBindings.Proofs.ReferenceClosure
import FixBindings.Proofs.RepeatedDeclarations
import FixBindings.Proofs.RepetitionOrders
import FixBindings.Proofs.Reports
import FixBindings.Proofs.Requests
import FixBindings.Proofs.RoundTrip
import FixBindings.Proofs.RunEffects
import FixBindings.Proofs.SameDocuments
import FixBindings.Proofs.SilentWalks
import FixBindings.Proofs.SourceLines
import FixBindings.Proofs.SpelledDeclarations
import FixBindings.Proofs.SpelledRepositories
import FixBindings.Proofs.TextLiterals
import FixBindings.Proofs.Trace
import FixBindings.Proofs.UsageDiagnostics
import FixBindings.Proofs.UsedFields
import FixBindings.Proofs.WalkBodies
import FixBindings.Proofs.WalkCalls
import FixBindings.Schema.Basic
import FixBindings.Schema.Codec
import FixBindings.Schema.Diagnostic
import FixBindings.Schema.Index
import FixBindings.Schema.Naming
import FixBindings.Schema.Orchestra
import FixBindings.Schema.Sample
import FixBindings.Schema.SessionLayer
import FixBindings.Schema.Usage
import FixBindings.Text.Base64
import FixBindings.Text.Utf8
import FixBindings.Unicode.Case
import FixBindings.Unicode.CaseTable
import FixBindings.Unicode.Class
import FixBindings.Unicode.ClassTable
import FixBindings.Walkthrough
import FixBindings.Xml.Declaration
import FixBindings.Xml.Doctype
import FixBindings.Xml.Element
import FixBindings.Xml.Encoding
import FixBindings.Xml.Entity
import FixBindings.Xml.Fault
import FixBindings.Xml.Lexeme
import FixBindings.Xml.Markup
import FixBindings.Xml.NameTable
import FixBindings.Xml.Namespace
import FixBindings.Xml.Reader
import FixBindings.Yaml.Cursor
import FixBindings.Yaml.Fault
import FixBindings.Yaml.Node
import FixBindings.Yaml.Reader
import FixBindings.Yaml.Tag
import FixBindings.Yaml.Text
import FixBindings.Yaml.Token
import FixBindings.Yaml.Writer
