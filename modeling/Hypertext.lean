import Hypertext.Tag
import Hypertext.Text.Basic
import Hypertext.Content
import Hypertext.Tree
import Hypertext.Reference.Capital
import Hypertext.Reference.Small
import Hypertext.Search
import Hypertext.Prune
import Hypertext.Reference.Text
import Hypertext.Text.Pattern
import Hypertext.Output.Basic
import Hypertext.Output.Sink
import Hypertext.Output.Buffer
import Hypertext.Writer.PlainText
import Hypertext.Writer.Markup
import Hypertext.Writer.Layout
import Hypertext.Text.Shape
import Hypertext.Tree.Describe
import Hypertext.Charset.Index.JisX0208
import Hypertext.Charset.Index.JisX0212
import Hypertext.Charset.Index.KsX1001
import Hypertext.Charset.Index.Big5
import Hypertext.Charset.Index.Gb18030
import Hypertext.Charset.Encoding
import Hypertext.Charset.UpperHalf
import Hypertext.Charset.Decoder.Basic
import Hypertext.Charset.Decoder.Unicode
import Hypertext.Charset.Decoder.EastAsian
import Hypertext.Charset.Decoder
import Hypertext.Charset.Detection
import Hypertext.Document.Read
import Hypertext.Program
import Hypertext.Main
import Hypertext.Document.Token
import Hypertext.Document.Lexer
import Hypertext.Document.Name
import Hypertext.Document.Dom
import Hypertext.Document.Draft
import Hypertext.Document.Rules.Adoption
import Hypertext.Document.Rules.Head
import Hypertext.Proofs.Text.Bytes
import Hypertext.Proofs.Tree.Chain
import Hypertext.Proofs.Tree.Link
import Hypertext.Proofs.Tree.Linked
import Hypertext.Proofs.Tree.Reachable
import Hypertext.Proofs.Tree.Attach
import Hypertext.Proofs.Tree.Rose
import Hypertext.Proofs.Writer.Markup
import Hypertext.Proofs.Writer.Layout
import Hypertext.Proofs.Writer.Delimited
import Hypertext.Proofs.Writer.Unambiguous
import Hypertext.Proofs.Writer.Spacing
import Hypertext.Proofs.Writer.Faults
import Hypertext.Proofs.Reference.Resolve
import Hypertext.Proofs.Search.Outermost
import Hypertext.Proofs.Prune.Pruned
import Hypertext.Proofs.Prune.Answers
import Hypertext.Proofs.Writer.Inert
import Hypertext.Proofs.Writer.Blocks
import Hypertext.Proofs.Output.Sink
import Hypertext.Proofs.Output.Buffer
import Hypertext.Proofs.Document.Copy
import Hypertext.Proofs.Loop.Basic
import Hypertext.Proofs.Loop.Traversal
import Hypertext.Proofs.Loop.Writing
import Hypertext.Proofs.Loop.Termination
import Hypertext.Proofs.Loop.SameShape
import Hypertext.Proofs.Writer.Literal
import Hypertext.Proofs.Document.Draft
import Hypertext.Proofs.Document.Builder
import Hypertext.Proofs.Document.Rules
import Hypertext.Proofs.Document.Leaves
import Hypertext.Proofs.Document.WrittenBack
import Hypertext.Proofs.Document.Noscript
import Hypertext.Proofs.Loop.Alike
import Hypertext.Proofs.Tree.Grown
import Hypertext.Proofs.Loop.PlainText
import Hypertext.Proofs.Loop.BelowText
import Hypertext.Proofs.Writer.Coverage
import Hypertext.Proofs.Text.Pattern
import Hypertext.Proofs.Charset.Declared
import Hypertext.Proofs.Charset.Encoded
import Hypertext.Proofs.Document.ByteOrderMark
import Hypertext.Proofs.Search.Calls
import Hypertext.Proofs.Search.First
import Hypertext.Proofs.Prune.Cuts
import Hypertext.Proofs.Search.Resume
import Hypertext.Proofs.Search.Walk
import Hypertext.Proofs.Output.Straight
import Hypertext.Proofs.Loop.Sending
import Hypertext.Proofs.Writer.PlainText
import Hypertext.Proofs.Writer.Limited
import Hypertext.Proofs.Prune.Silent
import Hypertext.Proofs.Writer.Outcome
import Hypertext.Proofs.Writer.Template
import Hypertext.Proofs.Writer.LineStart
import Hypertext.Proofs.Writer.Newline
import Hypertext.Proofs.Tree.Interchange
import Hypertext.Proofs.Reference.LongestName
import Hypertext.Proofs.Reference.Numeral
import Hypertext.Proofs.Reference.Parts
import Hypertext.Proofs.Text.Greedy
import Hypertext.Proofs.Charset.Sequences
import Hypertext.Proofs.Charset.Tag
import Hypertext.Proofs.Charset.Label
import Hypertext.Proofs.Charset.Detected
import Hypertext.Proofs.Charset.Attribute
import Hypertext.Proofs.Text.Cut
import Hypertext.Proofs.Reference.Offsets
import Hypertext.Proofs.Content.ClassNames
