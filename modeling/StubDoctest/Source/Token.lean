/-!
# Tokens of Python source

The lexical units the parser reads: names (keywords included), number and string literals as
written, operators and brackets, and the layout tokens that carry the indentation structure
(`newline` ends a logical line, `indent` and `dedent` open and close a block).

Syntax faults of the whole front end are also defined here: a kind (plain syntax, indentation,
or an inconsistent mix of tabs and spaces), a message and the line it is reported at.
-/

namespace StubDoctest.Source

/-- What a token is. -/
inductive TokenKind
  /-- A name or keyword, as written. -/
  | name (text : String)
  /-- A number literal, as written. -/
  | number (text : String)
  /-- A string literal with its prefix and quotes, as written. -/
  | string (text : String)
  /-- An operator, a bracket or a delimiter. -/
  | op (text : String)
  /-- The end of a logical line. -/
  | newline
  /-- The start of an indented block. -/
  | indent
  /-- The end of an indented block. -/
  | dedent
  /-- The end of the input. -/
  | endmarker
  deriving DecidableEq, Repr, Inhabited

/-- A token and where it starts. -/
structure Token where
  /-- What the token is. -/
  kind : TokenKind
  /-- The line it starts on, counted from one. -/
  line : Nat
  /-- The column it starts at, counted from zero in characters. -/
  col : Nat
  deriving Repr, Inhabited

/-- The kinds of syntax fault. -/
inductive FaultKind
  /-- The text is not in the grammar. -/
  | grammar
  /-- The indentation does not make blocks. -/
  | indentation
  /-- Tabs and spaces are mixed inconsistently in the indentation. -/
  | tabs
  deriving DecidableEq, Repr

/-- Why a source does not parse. -/
structure SyntaxFault where
  /-- Which kind of fault. -/
  kind : FaultKind
  /-- What is wrong. -/
  message : String
  /-- The line it is reported at. -/
  line : Nat
  deriving Repr

/-- The name of the class of a syntax fault. -/
def FaultKind.className : FaultKind → String
  | .grammar => "SyntaxError"
  | .indentation => "IndentationError"
  | .tabs => "TabError"

/-- The reserved words: never names. -/
def keywords : List String :=
  ["False", "None", "True", "and", "as", "assert", "async", "await", "break", "class",
    "continue", "def", "del", "elif", "else", "except", "finally", "for", "from", "global",
    "if", "import", "in", "is", "lambda", "nonlocal", "not", "or", "pass", "raise", "return",
    "try", "while", "with", "yield"]

/-- Whether a word is reserved. -/
def isKeyword (s : String) : Bool := keywords.contains s

end StubDoctest.Source
