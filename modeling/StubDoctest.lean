import StubDoctest.Doc.Fence
import StubDoctest.Text.Blank
import StubDoctest.Text.CodePoint
import StubDoctest.Text.Quoted
import StubDoctest.Text.Layout
import StubDoctest.Text.WordChar
import StubDoctest.Example.Parse
import StubDoctest.Text.IdentChar
import StubDoctest.Text.Normalize
import StubDoctest.Text.Utf8
import StubDoctest.Source.Lexer
import StubDoctest.Source.Tree
import StubDoctest.Text.CharName
import StubDoctest.Source.Literal
import StubDoctest.Source.Parser.Basic
import StubDoctest.Source.Parser.Expr
import StubDoctest.Source.Parser.Pattern
import StubDoctest.Source.Parser.Stmt
import StubDoctest.Doc.Clean
import StubDoctest.Stub.Collect
import StubDoctest.Number.Binary
import StubDoctest.Number.FloatText
import StubDoctest.Number.HexText
import StubDoctest.Exec.Value
import StubDoctest.Exec.Kind
import StubDoctest.Exec.Hash
import StubDoctest.Exec.Lookup
import StubDoctest.Exec.Show
import StubDoctest.Exec.Arith
import StubDoctest.Exec.Compare
import StubDoctest.Exec.Access
import StubDoctest.Exec.Format
import StubDoctest.Exec.Scope
import StubDoctest.Exec.Attr
import StubDoctest.Text.CaseData
import StubDoctest.Text.Case
import StubDoctest.Regex.Syntax
import StubDoctest.Regex.Parse
import StubDoctest.Regex.Match
import StubDoctest.Text.Ops
import StubDoctest.Exec.Sort
import StubDoctest.Exec.Convert
import StubDoctest.Exec.StrMethods
import StubDoctest.Exec.ByteMethods
import StubDoctest.Exec.Methods
import StubDoctest.Exec.Builtins
import StubDoctest.Exec.Bind
import StubDoctest.Exec.Patterns
import StubDoctest.Exec.Modules
import StubDoctest.Doctest.Check
import StubDoctest.Exec.Eval
import StubDoctest.Doctest.Run
import StubDoctest.Session.Keyword
import StubDoctest.Session.Ignore
import StubDoctest.Session.Run
import StubDoctest.Session.Options
import StubDoctest.Number.Root
import StubDoctest.Number.Precise
import StubDoctest.Number.Gamma
import StubDoctest.Proofs.Walk
import StubDoctest.Proofs.PromptFree
import StubDoctest.Proofs.Prefilter
import StubDoctest.Proofs.Collection
import StubDoctest.Proofs.FailureReport
import StubDoctest.Proofs.FencedExamples
import StubDoctest.Proofs.FenceScan
import StubDoctest.Proofs.CleanPrompt
import StubDoctest.Proofs.StubName
import StubDoctest.Proofs.TokenLines
import StubDoctest.Proofs.ParseProgress
import StubDoctest.Proofs.SourceOrder
import StubDoctest.Proofs.NamePrefix
import StubDoctest.Proofs.Isolation
import StubDoctest.Proofs.Utf8Form
import StubDoctest.Proofs.ImportReading
