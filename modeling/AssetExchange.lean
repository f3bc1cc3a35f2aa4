import AssetExchange.Word
import AssetExchange.NameSet
import AssetExchange.Binary64.Decimal
import AssetExchange.Text.Blank
import AssetExchange.Text.Numeral
import AssetExchange.Text.Piece
import AssetExchange.Text.Quoted
import AssetExchange.Json.Reader
import AssetExchange.Json.Printer
import AssetExchange.Json.Model
import AssetExchange.Severity
import AssetExchange.Log.FilterStack
import AssetExchange.Batch.Policy
import AssetExchange.Plugin.Sum
import AssetExchange.Catalogue.Plugin
import AssetExchange.Script
import AssetExchange.Manager.Shapes
import AssetExchange.Pager.Pages
import AssetExchange.Session.Basic
import AssetExchange.Desk.Operation
import AssetExchange.Desk.Inspection
import AssetExchange.Config.Encoding
import AssetExchange.Dialogue.Answer
import AssetExchange.Dialogue.Description
import AssetExchange.Dialogue.Operation
import AssetExchange.Config.Document
import AssetExchange.Text.Escaped
import AssetExchange.Config.Environment
import AssetExchange.Toml.Lexeme
import AssetExchange.Toml.Number
import AssetExchange.Toml.DateTime
import AssetExchange.Toml.Reader
import AssetExchange.Toml.Printer
import AssetExchange.Config.Extraction
import AssetExchange.FileTree.Basic
import AssetExchange.Config.Saving
import AssetExchange.Log.Diagnostics
import AssetExchange.Proofs.Batch.Transcript
import AssetExchange.Proofs.Batch.Reflection
import AssetExchange.Proofs.Batch.Ruling
import AssetExchange.Proofs.Batch.Bookkeeping
import AssetExchange.Proofs.Batch.Reordering
import AssetExchange.Proofs.Batch.Stopping
import AssetExchange.Proofs.Catalogue.Reporting
import AssetExchange.Proofs.Manager.PolicyAgreement
import AssetExchange.Proofs.Manager.Uses
import AssetExchange.Proofs.Manager.Preparation
import AssetExchange.Proofs.Catalogue.SetUp
import AssetExchange.Proofs.Catalogue.Publishing
import AssetExchange.Proofs.Catalogue.Recognition
import AssetExchange.Proofs.Catalogue.Tokens
import AssetExchange.Proofs.Session.Moves
import AssetExchange.Proofs.Session.Selection
import AssetExchange.Proofs.Session.Reached
import AssetExchange.Proofs.Session.Flattening
import AssetExchange.Proofs.Session.Failures
import AssetExchange.Proofs.Pager.Record
import AssetExchange.Proofs.Manager.Watching
import AssetExchange.Proofs.Manager.SingleShapes
import AssetExchange.Proofs.Catalogue.Pairing
import AssetExchange.Proofs.Manager.Validation
import AssetExchange.Proofs.Pager.Paging
import AssetExchange.Proofs.Manager.Memory
import AssetExchange.Proofs.Session.Recreation
import AssetExchange.Proofs.Desk.PagerUses
import AssetExchange.Proofs.Desk.Keeping
import AssetExchange.Proofs.Desk.Ledger
import AssetExchange.Proofs.Desk.Custody
import AssetExchange.Proofs.Desk.Possession
import AssetExchange.Proofs.Desk.Lifetime
import AssetExchange.Proofs.Desk.Forgetting
import AssetExchange.Proofs.Catalogue.Closing
import AssetExchange.Proofs.Desk.Independence
import AssetExchange.Proofs.Desk.Tally
import AssetExchange.Proofs.Desk.Closing
import AssetExchange.Proofs.Log.Survivors
import AssetExchange.Proofs.Catalogue.Contexts
import AssetExchange.Proofs.Json.Faithful
import AssetExchange.Proofs.Json.RoundTrip
import AssetExchange.Proofs.Session.Registration
import AssetExchange.Proofs.Pager.Protocol
import AssetExchange.Proofs.Config.Merging
import AssetExchange.Proofs.Config.Variables
import AssetExchange.Proofs.Config.Acceptance
import AssetExchange.Proofs.Config.Precedence
import AssetExchange.Proofs.Binary64.Rounding
import AssetExchange.Proofs.Binary64.Shortest
import AssetExchange.Proofs.Text.Numerals
import AssetExchange.Proofs.Toml.Numbers
import AssetExchange.Proofs.Toml.Strings
import AssetExchange.Proofs.Toml.Lines
import AssetExchange.Proofs.Toml.Order
import AssetExchange.Proofs.Config.FileText
import AssetExchange.Proofs.Config.Saving
import AssetExchange.Proofs.Text.Trimming
import AssetExchange.Proofs.Log.ThresholdSetting
import AssetExchange.Proofs.Json.Acceptance
import AssetExchange.Proofs.Dictionary.Matching
import AssetExchange.Proofs.Traits.Restriction
import AssetExchange.Proofs.Catalogue.Resolving
import AssetExchange.Proofs.Catalogue.Relationships
import AssetExchange.Proofs.Traits.LastWrites
import AssetExchange.Proofs.Catalogue.Defaults
import AssetExchange.Proofs.Text.Replacement
import AssetExchange.Proofs.Config.Expansion
