import JspEndpoint.Code.Check
import JspEndpoint.Code.Literal
import JspEndpoint.Code.Substitution
import JspEndpoint.CommandLine.Arguments
import JspEndpoint.CommandLine.Run
import JspEndpoint.Conversion
import JspEndpoint.Decimal.Basic
import JspEndpoint.Decimal.Shortest
import JspEndpoint.Endpoint.Assembly
import JspEndpoint.Endpoint.Class
import JspEndpoint.Endpoint.Name
import JspEndpoint.Endpoint.Part
import JspEndpoint.FileTree
import JspEndpoint.Main
import JspEndpoint.PageFile
import JspEndpoint.Proofs.AssemblyChannels
import JspEndpoint.Proofs.AssemblyInvariant
import JspEndpoint.Proofs.AttributeAttempts
import JspEndpoint.Proofs.AttributeGrammar
import JspEndpoint.Proofs.BlockComments
import JspEndpoint.Proofs.ByteLines
import JspEndpoint.Proofs.ClassNames
import JspEndpoint.Proofs.CommandRoutes
import JspEndpoint.Proofs.CommandTraces
import JspEndpoint.Proofs.ConversionProblems
import JspEndpoint.Proofs.EventOffsets
import JspEndpoint.Proofs.FileWrites
import JspEndpoint.Proofs.JavaLiterals
import JspEndpoint.Proofs.JsonSheets
import JspEndpoint.Proofs.LexemeEvents
import JspEndpoint.Proofs.LineColumns
import JspEndpoint.Proofs.LineSearch
import JspEndpoint.Proofs.LiteralPatterns
import JspEndpoint.Proofs.MarkupRuns
import JspEndpoint.Proofs.NoticeOrder
import JspEndpoint.Proofs.OrderedOccurrences
import JspEndpoint.Proofs.PageImage
import JspEndpoint.Proofs.PageWiring
import JspEndpoint.Proofs.ProblemLines
import JspEndpoint.Proofs.QuotedValues
import JspEndpoint.Proofs.RejectedBodies
import JspEndpoint.Proofs.RouteNames
import JspEndpoint.Proofs.ScanEntries
import JspEndpoint.Proofs.ScanLocality
import JspEndpoint.Proofs.ScanTiles
import JspEndpoint.Proofs.SegmentEvents
import JspEndpoint.Proofs.SettingLayers
import JspEndpoint.Proofs.SettledCode
import JspEndpoint.Proofs.StoredSettings
import JspEndpoint.Proofs.UnsupportedTags
import JspEndpoint.Proofs.ViablePrefixes
import JspEndpoint.Proofs.WordRuns
import JspEndpoint.Proofs.WordSubstitution
import JspEndpoint.Proofs.WrittenAttributes
import JspEndpoint.Proofs.WrittenTags
import JspEndpoint.Report
import JspEndpoint.Report.Format
import JspEndpoint.Report.Json
import JspEndpoint.Report.Numeral
import JspEndpoint.Report.Sheet
import JspEndpoint.Report.Yaml
import JspEndpoint.Sample
import JspEndpoint.Settings.Basic
import JspEndpoint.Settings.Data
import JspEndpoint.Settings.Error
import JspEndpoint.Settings.KeyPath
import JspEndpoint.Settings.Layer
import JspEndpoint.Settings.Store
import JspEndpoint.Settings.Toml.Document
import JspEndpoint.Settings.Toml.Lexical
import JspEndpoint.Settings.Toml.Moment
import JspEndpoint.Template.Attribute
import JspEndpoint.Template.Construct
import JspEndpoint.Template.Event
import JspEndpoint.Template.Lexeme
import JspEndpoint.Template.Position
import JspEndpoint.Text.Basic
import JspEndpoint.Text.Blank
import JspEndpoint.Text.LetterCase
import JspEndpoint.Text.Quoted
import JspEndpoint.Text.Utf8
import JspEndpoint.Text.Word
