import ModalEdit.Caret
import ModalEdit.Caret.Set
import ModalEdit.Command.Basic
import ModalEdit.Command.Definition
import ModalEdit.Command.DigraphArguments
import ModalEdit.Command.Range
import ModalEdit.Digraph
import ModalEdit.Digraph.Table
import ModalEdit.Document
import ModalEdit.Document.Word
import ModalEdit.Edit.Line
import ModalEdit.Edit.Operator
import ModalEdit.Edit.Put
import ModalEdit.Edit.Shift
import ModalEdit.Edit.Span
import ModalEdit.Editor.Basic
import ModalEdit.Editor.KeyTable
import ModalEdit.Editor.Normal
import ModalEdit.Editor.Operate
import ModalEdit.Editor.Pending
import ModalEdit.Editor.Press
import ModalEdit.Editor.Scrolling
import ModalEdit.Editor.Selection
import ModalEdit.Editor.Typing
import ModalEdit.Editor.Visual
import ModalEdit.Error
import ModalEdit.History
import ModalEdit.Invocation
import ModalEdit.Key
import ModalEdit.Key.Spelling
import ModalEdit.Main
import ModalEdit.Mapping
import ModalEdit.Mode
import ModalEdit.Motion
import ModalEdit.Motion.Resolve
import ModalEdit.Number.Binary64
import ModalEdit.Number.Counting
import ModalEdit.Number.Integer
import ModalEdit.Number.SixDigits
import ModalEdit.Options.Basic
import ModalEdit.Options.Definition
import ModalEdit.Options.Directive
import ModalEdit.Options.GuiCursor
import ModalEdit.Options.Scope
import ModalEdit.Pattern.ByteRange
import ModalEdit.Pattern.CharSet
import ModalEdit.Pattern.ClassReader
import ModalEdit.Pattern.Cost
import ModalEdit.Pattern.Flags
import ModalEdit.Pattern.Program
import ModalEdit.Pattern.Reader
import ModalEdit.Pattern.Regex
import ModalEdit.Pattern.Search
import ModalEdit.Pattern.Symbol
import ModalEdit.Prompt
import ModalEdit.Proofs.Caret.Merging
import ModalEdit.Proofs.Caret.Order
import ModalEdit.Proofs.Caret.Size
import ModalEdit.Proofs.Command.Lines
import ModalEdit.Proofs.Command.Offsets
import ModalEdit.Proofs.Command.Resolving
import ModalEdit.Proofs.Command.Written
import ModalEdit.Proofs.Digraph.Defining
import ModalEdit.Proofs.Digraph.Listing
import ModalEdit.Proofs.Document.LineEnds
import ModalEdit.Proofs.Document.LineList
import ModalEdit.Proofs.Document.Lines
import ModalEdit.Proofs.Document.Stops
import ModalEdit.Proofs.Edit.Bare
import ModalEdit.Proofs.Edit.Block
import ModalEdit.Proofs.Edit.Edited
import ModalEdit.Proofs.Edit.Operator
import ModalEdit.Proofs.Edit.Restoring
import ModalEdit.Proofs.Edit.Settings
import ModalEdit.Proofs.Edit.Shifting
import ModalEdit.Proofs.Editor.BlockTyping
import ModalEdit.Proofs.Editor.CountedTyping
import ModalEdit.Proofs.Editor.Edits
import ModalEdit.Proofs.Editor.Inserting
import ModalEdit.Proofs.Editor.Normal
import ModalEdit.Proofs.Editor.Overtyping
import ModalEdit.Proofs.Editor.Selecting
import ModalEdit.Proofs.Editor.Settings
import ModalEdit.Proofs.Editor.Single
import ModalEdit.Proofs.Editor.Sound
import ModalEdit.Proofs.Editor.Typing
import ModalEdit.Proofs.Editor.Visual
import ModalEdit.Proofs.History.Journal
import ModalEdit.Proofs.History.Limit
import ModalEdit.Proofs.History.Refinement
import ModalEdit.Proofs.History.Story
import ModalEdit.Proofs.History.Surplus
import ModalEdit.Proofs.Invocation.Failures
import ModalEdit.Proofs.Key.Notation
import ModalEdit.Proofs.Mapping.Table
import ModalEdit.Proofs.Motion.Inclusive
import ModalEdit.Proofs.Motion.Repeating
import ModalEdit.Proofs.Motion.Resting
import ModalEdit.Proofs.Motion.Steps
import ModalEdit.Proofs.Motion.WindowLines
import ModalEdit.Proofs.Number.Digits
import ModalEdit.Proofs.Options.Admitted
import ModalEdit.Proofs.Options.CursorCache
import ModalEdit.Proofs.Options.CursorLook
import ModalEdit.Proofs.Options.Telling
import ModalEdit.Proofs.Options.Writing
import ModalEdit.Proofs.Prompt.Halves
import ModalEdit.Proofs.Register.Setting
import ModalEdit.Proofs.Response.Basic
import ModalEdit.Proofs.Response.Counts
import ModalEdit.Proofs.Response.Moving
import ModalEdit.Proofs.Response.Multiplying
import ModalEdit.Proofs.Response.Normal
import ModalEdit.Proofs.Response.Press
import ModalEdit.Proofs.Response.Refusal
import ModalEdit.Proofs.Response.Selecting
import ModalEdit.Proofs.Response.Visual
import ModalEdit.Proofs.Script.Appending
import ModalEdit.Proofs.Script.Assigning
import ModalEdit.Proofs.Script.Complete
import ModalEdit.Proofs.Script.Covering
import ModalEdit.Proofs.Script.Descent
import ModalEdit.Proofs.Script.Equality
import ModalEdit.Proofs.Script.Grammar
import ModalEdit.Proofs.Script.Indexing
import ModalEdit.Proofs.Script.Joining
import ModalEdit.Proofs.Script.Lexing
import ModalEdit.Proofs.Script.LiteralKeys
import ModalEdit.Proofs.Script.Members
import ModalEdit.Proofs.Script.Naming
import ModalEdit.Proofs.Script.Numerals
import ModalEdit.Proofs.Script.Operands
import ModalEdit.Proofs.Script.Parting
import ModalEdit.Proofs.Script.Printing
import ModalEdit.Proofs.Script.Progress
import ModalEdit.Proofs.Script.Quoting
import ModalEdit.Proofs.Script.Ranges
import ModalEdit.Proofs.Script.Reading
import ModalEdit.Proofs.Script.Sound
import ModalEdit.Proofs.Script.Splitting
import ModalEdit.Proofs.Script.Variables
import ModalEdit.Proofs.Session.Answering
import ModalEdit.Proofs.Session.Asking
import ModalEdit.Proofs.Session.Calls
import ModalEdit.Proofs.Session.Escaping
import ModalEdit.Proofs.Session.Failing
import ModalEdit.Proofs.Session.LargeCounts
import ModalEdit.Proofs.Session.Lines
import ModalEdit.Proofs.Session.Nesting
import ModalEdit.Proofs.Session.Noting
import ModalEdit.Proofs.Session.Playing
import ModalEdit.Proofs.Session.Reachable
import ModalEdit.Proofs.Session.Selecting
import ModalEdit.Proofs.Session.Status
import ModalEdit.Proofs.Session.Steady
import ModalEdit.Proofs.Session.Strokes
import ModalEdit.Proofs.Session.Toggling
import ModalEdit.Proofs.Session.Tuning
import ModalEdit.Proofs.Session.Turning
import ModalEdit.Proofs.Session.Typing
import ModalEdit.Proofs.Window.Columns
import ModalEdit.Proofs.Window.Showing
import ModalEdit.Proofs.Window.Staying
import ModalEdit.Register
import ModalEdit.Ruler
import ModalEdit.Script.Assign
import ModalEdit.Script.Environment
import ModalEdit.Script.Error
import ModalEdit.Script.Eval
import ModalEdit.Script.Expr
import ModalEdit.Script.Expr.Reader
import ModalEdit.Script.Function
import ModalEdit.Script.Token
import ModalEdit.Script.Token.Sequence
import ModalEdit.Script.Value
import ModalEdit.Script.Value.Arithmetic
import ModalEdit.Script.Value.Compare
import ModalEdit.Script.Value.Index
import ModalEdit.Scroll
import ModalEdit.Session.Basic
import ModalEdit.Session.Error
import ModalEdit.Session.Handlers
import ModalEdit.Session.Keys
import ModalEdit.Session.Run
import ModalEdit.Text.Alphanumeric
import ModalEdit.Text.Blank
import ModalEdit.Text.CaseFold
import ModalEdit.Text.CaseMap
import ModalEdit.Text.CaseTable
import ModalEdit.Text.CodePoint
import ModalEdit.Text.PatternClass
import ModalEdit.Text.Split
import ModalEdit.Text.Width
import ModalEdit.Window
import ModalEdit.Workspace
