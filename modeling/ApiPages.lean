import ApiPages.Command.Line
import ApiPages.Command.Run
import ApiPages.Command.Surroundings
import ApiPages.Text.Character
import ApiPages.Declaration.Declared
import ApiPages.Declaration.Format
import ApiPages.Declaration.Member
import ApiPages.Files.Lookup
import ApiPages.Files.Tree
import ApiPages.Http.Respond
import ApiPages.Http.Uri
import ApiPages.Index.Basic
import ApiPages.Index.Build
import ApiPages.Index.Scan
import ApiPages.Json.Value
import ApiPages.Json.Reader
import ApiPages.Link
import ApiPages.Main
import ApiPages.Metadata.Decode
import ApiPages.Record
import ApiPages.Query.Request
import ApiPages.Report
import ApiPages.Resolution.Candidates
import ApiPages.Resolution.Resolve
import ApiPages.Settings.Format
import ApiPages.Settings.Environment
import ApiPages.Settings.Load
import ApiPages.Text.NameOrder
import ApiPages.Text.Segments
import ApiPages.Text.Utf8
import ApiPages.Text.Word
import ApiPages.Toml.Document
import ApiPages.Toml.Number
import ApiPages.Toml.Value
import ApiPages.Toml.Syntax
import ApiPages.Toml.Unquote
import ApiPages.Proofs.Firsts
import ApiPages.Proofs.Resolution.Candidates
import ApiPages.Proofs.Index.Companions
import ApiPages.Proofs.Index.Chain
import ApiPages.Proofs.Resolution.Members
import ApiPages.Proofs.Resolution.Answers
import ApiPages.Proofs.Resolution.ScanOrder
import ApiPages.Proofs.Resolution.Offering
import ApiPages.Proofs.Resolution.Growth
import ApiPages.Proofs.Resolution.Collection
import ApiPages.Proofs.Index.Records
import ApiPages.Proofs.Resolution.Duplicates
import ApiPages.Proofs.Resolution.TopLevel
import ApiPages.Proofs.Resolution.ClassPage
import ApiPages.Proofs.Name.Binary
import ApiPages.Proofs.Name.DocCase
import ApiPages.Proofs.Address
import ApiPages.Proofs.PackageFilter
import ApiPages.Proofs.Resolution.Offers
import ApiPages.Proofs.Index.Restriction
import ApiPages.Proofs.Resolution.Narrowing
import ApiPages.Proofs.Index.Accounts
import ApiPages.Proofs.Query.Faults
import ApiPages.Proofs.Json.Record
import ApiPages.Proofs.Metadata.Forms
import ApiPages.Proofs.Text.Utf8
import ApiPages.Proofs.Http.Form
import ApiPages.Proofs.Command.Words
import ApiPages.Proofs.Command.Transports
import ApiPages.Proofs.Toml.Tidy
import ApiPages.Proofs.Toml.Quotation
import ApiPages.Proofs.Toml.Number
import ApiPages.Proofs.Toml.Term
import ApiPages.Proofs.Toml.Statement
import ApiPages.Proofs.Toml.Document
import ApiPages.Proofs.Files.Written
import ApiPages.Proofs.Settings.Overlay
import ApiPages.Proofs.Settings.Reload
import ApiPages.Proofs.Settings.Saved
import ApiPages.Proofs.Settings.Leaf
import ApiPages.Proofs.Settings.Variables
import ApiPages.Proofs.Settings.Layered
import ApiPages.Proofs.Settings.KeyByKey
import ApiPages.Proofs.Settings.Workspace
import ApiPages.Proofs.Settings.Nearest
import ApiPages.Proofs.Resolution.Spelling
import ApiPages.Proofs.Declaration.Mentions
import ApiPages.Proofs.Declaration.Shape
import ApiPages.Proofs.Declaration.Fallback
import ApiPages.Proofs.Metadata.Refusals
import ApiPages.Proofs.Metadata.Undeclared
import ApiPages.Proofs.Query.Grammar
import ApiPages.Proofs.Query.Written
import ApiPages.Proofs.Index.Scan
import ApiPages.Proofs.Files.Parent
import ApiPages.Proofs.Files.Place
import ApiPages.Proofs.Files.Followed
