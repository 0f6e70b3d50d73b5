import MarkupAssist.CommandLine.Arguments
import MarkupAssist.CommandLine.Command
import MarkupAssist.CommandLine.Report
import MarkupAssist.CommandLine.Run
import MarkupAssist.Completion.Attributes
import MarkupAssist.Completion.Complete
import MarkupAssist.Completion.Elements
import MarkupAssist.Completion.Item
import MarkupAssist.Completion.Skeleton
import MarkupAssist.Completion.Values
import MarkupAssist.Config.Basic
import MarkupAssist.Config.Client
import MarkupAssist.Config.Load
import MarkupAssist.Cursor.AttributeName
import MarkupAssist.Cursor.Bracket
import MarkupAssist.Cursor.Context
import MarkupAssist.Cursor.OpenTag
import MarkupAssist.Cursor.Script
import MarkupAssist.Cursor.ValueQuote
import MarkupAssist.Cursor.Word
import MarkupAssist.Decimal.Binary64
import MarkupAssist.Decimal.Shortest
import MarkupAssist.Diagnostic
import MarkupAssist.Document
import MarkupAssist.Documentation
import MarkupAssist.Domain.Excluded
import MarkupAssist.Domain.Label
import MarkupAssist.Domain.Letter
import MarkupAssist.Domain.LongForm
import MarkupAssist.Domain.Name
import MarkupAssist.Domain.Punycode
import MarkupAssist.Domain.ShortForm
import MarkupAssist.Editor.Capabilities
import MarkupAssist.Editor.Encode
import MarkupAssist.Editor.Form
import MarkupAssist.Editor.Frame
import MarkupAssist.Editor.Message
import MarkupAssist.Editor.OpenDocuments
import MarkupAssist.Editor.Position
import MarkupAssist.Editor.Presentation
import MarkupAssist.Editor.Server
import MarkupAssist.Editor.Session
import MarkupAssist.Editor.Unprovided
import MarkupAssist.Encoding.Result
import MarkupAssist.Entries
import MarkupAssist.FilePath
import MarkupAssist.Folder
import MarkupAssist.Json.Basic
import MarkupAssist.Json.Collapsed
import MarkupAssist.Json.Decode
import MarkupAssist.Json.Form
import MarkupAssist.Json.NumberText
import MarkupAssist.Json.Reader
import MarkupAssist.Json.Writer
import MarkupAssist.Main
import MarkupAssist.Markup.AttributeText
import MarkupAssist.Markup.Occurrence
import MarkupAssist.Markup.Tag
import MarkupAssist.Position
import MarkupAssist.Proofs.CharacterClass
import MarkupAssist.Schema.Basic
import MarkupAssist.Schema.Bundled
import MarkupAssist.Schema.Catalogue
import MarkupAssist.Schema.Decode
import MarkupAssist.Settings
import MarkupAssist.Text.Alphabetic
import MarkupAssist.Text.CodeTable
import MarkupAssist.Text.CombiningClass
import MarkupAssist.Text.Composition
import MarkupAssist.Text.Direction
import MarkupAssist.Text.Joining
import MarkupAssist.Text.LowerCase
import MarkupAssist.Text.Mark
import MarkupAssist.Text.Nonspacing
import MarkupAssist.Text.Numeric
import MarkupAssist.Text.Printable
import MarkupAssist.Text.Quoted
import MarkupAssist.Text.Split
import MarkupAssist.Text.Units
import MarkupAssist.Text.Word
import MarkupAssist.Uri
import MarkupAssist.Uri.Host
import MarkupAssist.Uri.NumericHost
import MarkupAssist.Uri.Path
import MarkupAssist.Uri.Percent
import MarkupAssist.Yaml.BlockText
import MarkupAssist.Yaml.Character
import MarkupAssist.Yaml.Decode
import MarkupAssist.Yaml.FlowText
import MarkupAssist.Yaml.Lexer
import MarkupAssist.Yaml.Node
import MarkupAssist.Yaml.Token
import MarkupAssist.Proofs.TagGrammar
import MarkupAssist.Proofs.AttributeScan
import MarkupAssist.Proofs.LoadedCatalogue
import MarkupAssist.Proofs.SkeletonFindings
import MarkupAssist.Proofs.CarriageReturn
import MarkupAssist.Proofs.Lines
import MarkupAssist.Proofs.LineEnding
import MarkupAssist.Proofs.TagWalk
import MarkupAssist.Proofs.OpenValue
import MarkupAssist.Proofs.TypedText
import MarkupAssist.Proofs.TypingContext
import MarkupAssist.Proofs.WrittenTag
import MarkupAssist.Proofs.HoverAgreement
import MarkupAssist.Proofs.ValueOwner
import MarkupAssist.Proofs.ClosedTag
import MarkupAssist.Proofs.DocumentStore
import MarkupAssist.Proofs.SessionRun
import MarkupAssist.Proofs.FindingsInSync
import MarkupAssist.Proofs.DocumentIsolation
import MarkupAssist.Proofs.Offsets
import MarkupAssist.Proofs.CodeUnits
import MarkupAssist.Proofs.PublishedRanges
import MarkupAssist.Proofs.Concatenation
import MarkupAssist.Proofs.LoadCriterion
import MarkupAssist.Proofs.OccurrenceRanges
import MarkupAssist.Proofs.ExactFindings
import MarkupAssist.Proofs.Dictionary
import MarkupAssist.Proofs.SettingsMerge
import MarkupAssist.Proofs.ClientSettings
import MarkupAssist.Proofs.AddedAttribute
import MarkupAssist.Proofs.Clamping
import MarkupAssist.Proofs.NearestTag
import MarkupAssist.Proofs.TypingOn
import MarkupAssist.Proofs.ReplacedValue
import MarkupAssist.Proofs.SlotChoice
import MarkupAssist.Proofs.OfferedAttributes
import MarkupAssist.Proofs.MarkAgreement
import MarkupAssist.Proofs.SkeletonNesting
import MarkupAssist.Proofs.TabStops
import MarkupAssist.Proofs.SortKeys
import MarkupAssist.Proofs.UniformItems
import MarkupAssist.Proofs.HoveredWord
import MarkupAssist.Proofs.WalkWindow
import MarkupAssist.Proofs.SettingsDecoders
import MarkupAssist.Proofs.ConfigLayers
import MarkupAssist.Proofs.CheckedText
import MarkupAssist.Proofs.CheckedCursor
import MarkupAssist.Proofs.CheckedReading
import MarkupAssist.Proofs.Slices
