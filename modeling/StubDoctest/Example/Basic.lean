import StubDoctest.Text.Quoted

/-!
# Examples and blocks of examples

An example is a piece of source to run, the output it should print, and, when that output is
a traceback, the exception message it should end with. A block is the list of examples of
one docstring, with the name, file and line that docstring belongs to.

Examples carry option directives: a flag switched on or off for that example alone. The last
directive for a flag wins.
-/

namespace StubDoctest

/-- The flags an option directive can switch. -/
inductive Flag
  /-- `True` and `False` do not stand for `1` and `0`. -/
  | dontAcceptTrueFor1
  /-- `<BLANKLINE>` is not read as an empty line. -/
  | dontAcceptBlankline
  /-- Runs of blanks compare equal. -/
  | normalizeWhitespace
  /-- `...` in the expected output matches any text. -/
  | ellipsis
  /-- The example is not run. -/
  | skip
  /-- Only the exception's type is compared, not its detail. -/
  | ignoreExceptionDetail
  /-- Report a failure as a unified diff. -/
  | reportUdiff
  /-- Report a failure as a context diff. -/
  | reportCdiff
  /-- Report a failure as a character diff. -/
  | reportNdiff
  /-- Report only the first failure of a block. -/
  | reportOnlyFirstFailure
  /-- Stop a block at its first failure. -/
  | failFast
  deriving DecidableEq, Repr

namespace Flag

/-- Every flag, in the order of their names' registration. -/
def all : List Flag :=
  [dontAcceptTrueFor1, dontAcceptBlankline, normalizeWhitespace, ellipsis, skip,
    ignoreExceptionDetail, reportUdiff, reportCdiff, reportNdiff, reportOnlyFirstFailure,
    failFast]

/-- The name a directive uses for the flag. -/
def name : Flag → String
  | dontAcceptTrueFor1 => "DONT_ACCEPT_TRUE_FOR_1"
  | dontAcceptBlankline => "DONT_ACCEPT_BLANKLINE"
  | normalizeWhitespace => "NORMALIZE_WHITESPACE"
  | ellipsis => "ELLIPSIS"
  | skip => "SKIP"
  | ignoreExceptionDetail => "IGNORE_EXCEPTION_DETAIL"
  | reportUdiff => "REPORT_UDIFF"
  | reportCdiff => "REPORT_CDIFF"
  | reportNdiff => "REPORT_NDIFF"
  | reportOnlyFirstFailure => "REPORT_ONLY_FIRST_FAILURE"
  | failFast => "FAIL_FAST"

/-- The flag a directive names, if any. -/
def ofName? (s : String) : Option Flag := all.find? (·.name == s)

end Flag

/-- Flags switched on (`true`) or off (`false`), each at most once, in the order they were
first switched. -/
structure Directives where
  /-- The switched flags with their setting. -/
  entries : List (Flag × Bool) := []
  deriving Repr

namespace Directives

/-- The directives with `f` switched to `b`: a flag already present keeps its place and takes
the new setting. -/
def set (d : Directives) (f : Flag) (b : Bool) : Directives :=
  if d.entries.any (·.1 == f) then
    ⟨d.entries.map fun e => if e.1 == f then (f, b) else e⟩
  else ⟨d.entries ++ [(f, b)]⟩

/-- The setting of `f`, if a directive switched it. -/
def get? (d : Directives) (f : Flag) : Option Bool := (d.entries.find? (·.1 == f)).map (·.2)

/-- Whether no flag is switched. -/
def isEmpty (d : Directives) : Bool := d.entries.isEmpty

end Directives

/-- One example of a docstring. -/
structure Example where
  /-- The source to run, ending with a line break. -/
  source : String
  /-- The output it should print: empty, or ending with a line break. -/
  want : String
  /-- The message an expected traceback ends with, ending with a line break. -/
  excMsg : Option String
  /-- The line of the docstring its prompt stands on, counted from zero. -/
  line : Nat
  /-- The column of its prompt. -/
  indent : Nat
  /-- Its option directives. -/
  options : Directives
  deriving Repr

/-- The examples of one docstring, with where the docstring comes from. -/
structure Block where
  /-- The name of the function, class or module the docstring belongs to. -/
  name : String
  /-- The file it was read from. -/
  file : String
  /-- The line of the definition, when known. -/
  line : Option Int
  /-- The text the examples were read from. -/
  docstring : String
  /-- The examples, in order. -/
  examples : List Example
  deriving Repr

/-- Why a docstring cannot be read as a list of examples. -/
inductive ParseFault
  /-- A prompt is not followed by a blank: the line, the name, the prompt and the line's text. -/
  | promptWithoutBlank (line : Nat) (name : String) (prompt : String) (text : String)
  /-- A line is indented less than its example's prompt. -/
  | inconsistentIndent (line : Nat) (name : String) (text : String)
  /-- A directive names no flag, or does not start with `+` or `-`. -/
  | invalidOption (line : Nat) (name : String) (option : String)
  /-- A directive stands on a line with no example. -/
  | directiveWithoutExample (line : Nat) (name : String) (source : String)
  deriving Repr

/-- The text of a fault, as the docstring's reader reports it. -/
def ParseFault.message : ParseFault → String
  | .promptWithoutBlank line name prompt text =>
    "line " ++ toString line ++ " of the docstring for " ++ name ++ " lacks blank after " ++
      prompt ++ ": " ++ Text.quote text
  | .inconsistentIndent line name text =>
    "line " ++ toString line ++ " of the docstring for " ++ name ++
      " has inconsistent leading whitespace: " ++ Text.quote text
  | .invalidOption line name option =>
    "line " ++ toString line ++ " of the doctest for " ++ name ++ " has an invalid option: " ++
      Text.quote option
  | .directiveWithoutExample line name source =>
    "line " ++ toString line ++ " of the doctest for " ++ name ++
      " has an option directive on a line with no example: " ++ Text.quote source

end StubDoctest
