import NoteVault.Main
import NoteVault.Storage.Disk
import NoteVault.Storage.Interference
import NoteVault.Storage.Memory
import NoteVault.Tool.Request
import NoteVault.Proofs.Path.Containment
import NoteVault.Proofs.Path.Scope
import NoteVault.Proofs.Storage.Tree
import NoteVault.Proofs.Storage.Effect
import NoteVault.Proofs.Storage.Confined
import NoteVault.Proofs.Program.Follows
import NoteVault.Proofs.Program.Ends
import NoteVault.Proofs.Registry.Reading
import NoteVault.Proofs.KnowledgeBase.Record
import NoteVault.Proofs.Registry.NoteWork
import NoteVault.Proofs.Registry.Atomicity
import NoteVault.Proofs.Registry.IndexWork
import NoteVault.Proofs.Program.Exact
import NoteVault.Proofs.Registry.Gate
import NoteVault.Proofs.Registry.Scan
import NoteVault.Proofs.Registry.Confinement
import NoteVault.Proofs.Registry.Recording
import NoteVault.Proofs.KnowledgeBase.RoundTrip
import NoteVault.Proofs.Registry.Exclusive
import NoteVault.Proofs.Storage.Agreement
import NoteVault.Proofs.Registry.Walk
import NoteVault.Proofs.Registry.Isolation
import NoteVault.Proofs.KnowledgeBase.ReadBack
import NoteVault.Proofs.Registry.Returned
import NoteVault.Proofs.Json.Token
import NoteVault.Proofs.Json.Numeral
import NoteVault.Proofs.Json.Spelling
import NoteVault.Proofs.Json.Document
import NoteVault.Proofs.Json.Double
import NoteVault.Proofs.Rules.Shape
import NoteVault.Proofs.Rules.RoundTrip
import NoteVault.Proofs.Rules.Scalar
import NoteVault.Proofs.Rules.Outline
import NoteVault.Proofs.Rules.Lines
import NoteVault.Proofs.Rules.Parts
import NoteVault.Proofs.Rules.ReadBlock
import NoteVault.Proofs.Constraint.RoundTrip
import NoteVault.Proofs.Program.Settles
import NoteVault.Proofs.Registry.ByName
import NoteVault.Proofs.Registry.IndexDocument
import NoteVault.Proofs.Registry.Ledger
import NoteVault.Proofs.Registry.Sound
import NoteVault.Proofs.Registry.Spared
import NoteVault.Proofs.Registry.Listed
import NoteVault.Proofs.Registry.Current
import NoteVault.Proofs.Registry.Transparent
import NoteVault.Proofs.Program.Noting
import NoteVault.Proofs.Registry.Learned
import NoteVault.Proofs.Registry.Addition
import NoteVault.Proofs.Registry.Collision
import NoteVault.Proofs.Constraint.Applicable
import NoteVault.Proofs.Registry.Documents
import NoteVault.Proofs.Registry.Checked
import NoteVault.Proofs.Registry.DocumentPlace
import NoteVault.Proofs.Registry.Filed
import NoteVault.Proofs.Registry.Replacement
import NoteVault.Proofs.Registry.NoteMap
import NoteVault.Proofs.Registry.FiledAs
import NoteVault.Proofs.Registry.Contended
import NoteVault.Proofs.Registry.Covered
import NoteVault.Proofs.Registry.Updated
import NoteVault.Proofs.Registry.NoteRun
import NoteVault.Proofs.Constraint.Nearest
import NoteVault.Proofs.Registry.Lookup
import NoteVault.Proofs.Path.Child
import NoteVault.Proofs.Storage.Roles
import NoteVault.Proofs.Storage.Mirror
import NoteVault.Proofs.Storage.Placing
import NoteVault.Proofs.Storage.OnDisk
import NoteVault.Proofs.Tool.Task
import NoteVault.Proofs.Tool.Envelope
import NoteVault.Proofs.Path.Resolution
import NoteVault.Proofs.KnowledgeBase.Climbing
import NoteVault.Proofs.Registry.NoteList
import NoteVault.Proofs.Validation.RuleByRule
import NoteVault.Proofs.Text.Pieces
import NoteVault.Proofs.FrontMatter.Fields
import NoteVault.Proofs.FrontMatter.Frame
import NoteVault.Proofs.FrontMatter.Decimal
import NoteVault.Proofs.FrontMatter.Written
import NoteVault.Proofs.Decimal.Integer
import NoteVault.Proofs.Validation.Heading
import NoteVault.Proofs.Validation.Allowed
import NoteVault.Proofs.FrontMatter.Cuts
import NoteVault.Proofs.FrontMatter.InlineForm
import NoteVault.Proofs.FrontMatter.BareWords
import NoteVault.Proofs.Rules.Relaid
import NoteVault.Proofs.Registry.Reread
import NoteVault.Proofs.Path.Order
import NoteVault.Proofs.Storage.Documents
import NoteVault.Proofs.Storage.Walk
import NoteVault.Proofs.Rules.Alike
import NoteVault.Proofs.Tool.Shown
import NoteVault.Proofs.Time.Reading
import NoteVault.Proofs.Registry.Rewritten
import NoteVault.Proofs.Rules.Cursor
import NoteVault.Proofs.Rules.Ahead
import NoteVault.Proofs.Rules.LineByLine
import NoteVault.Proofs.Registry.EntryMap
