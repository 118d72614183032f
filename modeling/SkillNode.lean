import SkillNode.Text.Letter
import SkillNode.Text.Blank
import SkillNode.Text.Line
import SkillNode.Interface.Catalog
import SkillNode.Naming
import SkillNode.Cpp.Literal
import SkillNode.Cpp.Access
import SkillNode.Generation.Options
import SkillNode.Generation.FileHeader
import SkillNode.Generation.Sources
import SkillNode.Markup.Document
import SkillNode.Markup.Encoding
import SkillNode.Markup.Cursor
import SkillNode.Markup.Reader
import SkillNode.FileTree.Path
import SkillNode.FileTree.Tree
import SkillNode.Statechart.Extraction
import SkillNode.Statechart.Reading
import SkillNode.Statechart.Resolution
import SkillNode.Template.Reading
import SkillNode.Template.Evaluation
import SkillNode.Session
import SkillNode.Generation.Writing
import SkillNode.CommandLine.Program
import SkillNode.Main
import SkillNode.Proofs.DistinctKeys
import SkillNode.Proofs.MappedOutcomes
import SkillNode.Proofs.CorrespondingOutcomes
import SkillNode.Proofs.Generation.NamedInterfaces
import SkillNode.Proofs.Generation.PlaceIndependence
import SkillNode.Proofs.Interface.SourceLabels
import SkillNode.Proofs.Interface.FolderLoading
import SkillNode.Proofs.Statechart.SourceNames
import SkillNode.Proofs.FileTree.Growth
import SkillNode.Proofs.FileTree.SoundTrees
import SkillNode.Proofs.Generation.FailedWriting
import SkillNode.Proofs.Interface.SectionKinds
import SkillNode.Proofs.Statechart.ReadModels
import SkillNode.Proofs.Template.Expansion
import SkillNode.Proofs.Template.Markers
import SkillNode.Proofs.Text.DollarSigns
import SkillNode.Proofs.Generation.Layout
import SkillNode.Proofs.Generation.BundledNodes
import SkillNode.Proofs.Generation.BundledExpansion
import SkillNode.Proofs.Generation.Gathering
import SkillNode.Proofs.Generation.BundledGeneration
import SkillNode.Proofs.Generation.PlainLayout
import SkillNode.Proofs.Generation.PlainModels
import SkillNode.Proofs.Generation.Outcomes
import SkillNode.Proofs.Statechart.Complaints
import SkillNode.Proofs.Statechart.OutlineComplaints
import SkillNode.Proofs.Statechart.KeyedWrites
import SkillNode.Proofs.Statechart.LastWrites
import SkillNode.Proofs.Statechart.TakenItems
import SkillNode.Proofs.Statechart.DocumentTrees
import SkillNode.Proofs.Statechart.SoundOutlines
import SkillNode.Proofs.Statechart.Acceptance
import SkillNode.Proofs.Statechart.AlikeOutlines
import SkillNode.Proofs.Statechart.SameContent
import SkillNode.Proofs.Statechart.Rearrangement
import SkillNode.Proofs.Statechart.HandlerVisits
import SkillNode.Proofs.Statechart.ResponseReads
import SkillNode.Proofs.Generation.ResponseFields
import SkillNode.Proofs.Interface.AcceptedDescriptions
import SkillNode.Proofs.Session.Steps
import SkillNode.Proofs.Session.CatalogRuns
import SkillNode.Proofs.Statechart.Readers
import SkillNode.Proofs.Session.OneShot
import SkillNode.Proofs.FileTree.Children
import SkillNode.Proofs.Generation.ClassNames
import SkillNode.Proofs.Generation.SuccessfulWriting
import SkillNode.Proofs.Generation.FileNames
import SkillNode.Proofs.CommandLine.ProgramOutcomes
import SkillNode.Proofs.Cpp.Comments
import SkillNode.Proofs.Generation.PrintedComments
import SkillNode.Proofs.Generation.Declarations
import SkillNode.Proofs.Interface.CatalogLookups
import SkillNode.Proofs.Interface.Comments
import SkillNode.Proofs.Interface.DescriptionLines
import SkillNode.Proofs.Interface.PrintedFields
import SkillNode.Proofs.Text.JoinedLines
import SkillNode.Proofs.Text.Words
import SkillNode.Proofs.Interface.FieldLines
import SkillNode.Proofs.Template.ReadNodes
import SkillNode.Proofs.Template.HeldTemplates
import SkillNode.Proofs.Template.OpenExpansion
import SkillNode.Proofs.Template.DataValues
import SkillNode.Proofs.Template.SoundAnswers
import SkillNode.Proofs.Template.FreeNames
import SkillNode.Proofs.Template.Operations
import SkillNode.Proofs.Template.PerformedOperations
import SkillNode.Proofs.Template.ReportedFaults
import SkillNode.Proofs.Generation.MemberNames
import SkillNode.Proofs.Statechart.References
import SkillNode.Proofs.Statechart.ResolvedTypes
import SkillNode.Proofs.Statechart.StateForest
import SkillNode.Proofs.Cpp.Literals
import SkillNode.Proofs.Generation.NameLiterals
import SkillNode.Proofs.Naming.TypeNames
import SkillNode.Proofs.Template.ReaderSteps
import SkillNode.Proofs.Template.FormTokens
import SkillNode.Proofs.Template.Forms
import SkillNode.Proofs.Template.NamePlaces
import SkillNode.Proofs.Template.NameReferences
import SkillNode.Proofs.Template.StandingNames
import SkillNode.Proofs.Template.ReadReferences
import SkillNode.Proofs.Template.BlamedLines
import SkillNode.Proofs.Naming.Identifiers
import SkillNode.Proofs.Naming.AsciiIdentifiers
import SkillNode.Proofs.Generation.SkillNames
import SkillNode.Proofs.Generation.EndpointNames
import SkillNode.Proofs.Interface.LoadedFiles
import SkillNode.Proofs.Interface.FileKeys
import SkillNode.Proofs.Text.Segments
import SkillNode.Proofs.Naming.RosNames
import SkillNode.Proofs.Generation.EventNames
import SkillNode.Proofs.Statechart.Warnings
import SkillNode.Proofs.Statechart.RememberedModels
import SkillNode.Proofs.Statechart.FilesAndTexts
import SkillNode.Proofs.Interface.QuotedPositions
