import HouseStyle.Command.ConfigSource
import HouseStyle.Command.Request
import HouseStyle.Command.Run
import HouseStyle.Config
import HouseStyle.Decimal.Double
import HouseStyle.Decimal.Shortest
import HouseStyle.Disk
import HouseStyle.Finding
import HouseStyle.Git
import HouseStyle.Json.Basic
import HouseStyle.Json.Printer
import HouseStyle.Json.Reader
import HouseStyle.Main
import HouseStyle.Path.Basic
import HouseStyle.Path.Glob
import HouseStyle.Report.Basic
import HouseStyle.Report.Json
import HouseStyle.Report.Locator
import HouseStyle.Report.Text
import HouseStyle.Rule.Basic
import HouseStyle.Rule.ControllerReturn
import HouseStyle.Rule.FileNaming
import HouseStyle.Rule.InterfaceNaming
import HouseStyle.Rule.Preset
import HouseStyle.Selection.FileSet
import HouseStyle.Selection.Policy
import HouseStyle.Selection.Selector
import HouseStyle.Terminal
import HouseStyle.Text.Blank
import HouseStyle.Text.Case
import HouseStyle.Text.CaseTable
import HouseStyle.Text.Position
import HouseStyle.Text.Search
import HouseStyle.Text.Split
import HouseStyle.Text.Utf8
import HouseStyle.Text.Word
import HouseStyle.Text.WordTable
import HouseStyle.Toml.Datetime
import HouseStyle.Toml.Document
import HouseStyle.Toml.Lexeme
import HouseStyle.Toml.Table
import HouseStyle.Toml.Value
import HouseStyle.Tree.Node
import HouseStyle.Tree.Walk
import HouseStyle.TypeScript.Declarations
import HouseStyle.TypeScript.Expressions
import HouseStyle.TypeScript.Markup
import HouseStyle.TypeScript.Members
import HouseStyle.TypeScript.Parser
import HouseStyle.TypeScript.Program
import HouseStyle.TypeScript.Scan
import HouseStyle.TypeScript.Signatures
import HouseStyle.TypeScript.Statements
import HouseStyle.TypeScript.Types
import HouseStyle.Validator
import HouseStyle.Proofs.EncodedText
import HouseStyle.Proofs.PathJoining
import HouseStyle.Proofs.FileSets
import HouseStyle.Proofs.FirstOccurrences
import HouseStyle.Proofs.Reports
import HouseStyle.Proofs.Validation
import HouseStyle.Proofs.Scanning
import HouseStyle.Proofs.Policies
import HouseStyle.Proofs.SelectedFiles
import HouseStyle.Proofs.Grouping
import HouseStyle.Proofs.JsonText
import HouseStyle.Proofs.ReportJson
import HouseStyle.Proofs.ChangedFiles
import HouseStyle.Proofs.FindingPlaces
import HouseStyle.Proofs.Outcomes
import HouseStyle.Proofs.ConfigSources
import HouseStyle.Proofs.RuleSwitches
import HouseStyle.Proofs.Walks
import HouseStyle.Proofs.Following
import HouseStyle.Proofs.ReadBack
import HouseStyle.Proofs.TreeListing
import HouseStyle.Proofs.TreeOutline
import HouseStyle.Proofs.Decorators
import HouseStyle.Proofs.ControllerRoutes
import HouseStyle.Proofs.Positions
import HouseStyle.Proofs.TextMatches
import HouseStyle.Proofs.InterfaceText
import HouseStyle.Proofs.RouteText
import HouseStyle.Proofs.FileNames
import HouseStyle.Proofs.Rows
import HouseStyle.Proofs.TypeRows
import HouseStyle.Proofs.ExpressionRows
import HouseStyle.Proofs.StatementRows
import HouseStyle.Proofs.InterfaceOrder
import HouseStyle.Proofs.NameLanguages
import HouseStyle.Proofs.ExcludedDirectories
import HouseStyle.Proofs.NarrowerSettings
import HouseStyle.Proofs.ReturnNames
import HouseStyle.Proofs.ArrayTypes
import HouseStyle.Proofs.ReportText
import HouseStyle.Proofs.TerminalLinks
import HouseStyle.Proofs.PascalCase
import HouseStyle.Proofs.Spellings
import HouseStyle.Proofs.QuotedNames
