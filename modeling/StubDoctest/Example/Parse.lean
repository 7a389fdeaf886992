import StubDoctest.Example.Basic
import StubDoctest.Doc.Fence
import StubDoctest.Text.Blank
import StubDoctest.Text.Layout
import StubDoctest.Text.WordChar

/-!
# Reading examples from a docstring

A docstring is read line by line after its tabs are expanded and the indentation common to
its lines is removed (only lines whose first character after the spaces is not blank count
towards it). An example starts at a prompt line, spaces then `>>>`; the lines right after it
that start, after spaces, with `...` continue its source. The lines after the source, up to a
blank line or another prompt, are the output it should print.

The line of an example is the index of its prompt line. Each example is checked: every
prompt is followed by a blank, continuation and output lines are indented at least as far as
the prompt, and directives name known flags and stand on a line with an example. The first
failed check of the first faulty example is reported (`ParseFault`). An example whose source
is empty or a comment is dropped.

`Block.ofDocstring` first keeps only the content of the docstring's markdown fences, if it has
any (`Fence.extract`), then reads the examples.
-/

namespace StubDoctest.Reader

open Text

/-- A prompt line: spaces, then `>>>`. -/
def isPromptLine (l : List Char) : Bool := ">>>".toList.isPrefixOf (l.dropWhile (· = ' '))

/-- A continuation line: spaces, then `...`. -/
def isContinuationLine (l : List Char) : Bool :=
  "...".toList.isPrefixOf (l.dropWhile (· = ' '))

/-- A line of spaces only, the empty line included. -/
def isSpaceLine (l : List Char) : Bool := l.all (· = ' ')

/-- An output line: neither a line of spaces nor a prompt line. -/
def isOutputLine (l : List Char) : Bool := !isSpaceLine l && !isPromptLine l

/-- The indentation of a line that counts towards the common indentation: its leading spaces,
when a character that is not blank follows them. -/
def countedIndent (l : List Char) : Option Nat :=
  match l.dropWhile (· = ' ') with
  | c :: _ => if isBlank c then none else some (leadingSpaces l)
  | [] => none

/-- The indentation common to the lines: the least counted indentation, or zero. -/
def commonIndent (ls : List (List Char)) : Nat :=
  match ls.filterMap countedIndent with
  | [] => 0
  | n :: ns => ns.foldl min n

/-- The lines of a docstring as examples are read from them: tabs expanded, common
indentation removed from every line. -/
def preparedLines (doc : String) : List (List Char) × Nat :=
  let ls := linesOf (expandTabs doc.toList)
  let k := commonIndent ls
  (if k > 0 then ls.map (·.drop k) else ls, k)

/-- The headers a traceback starts with. -/
def tracebackHeaders : List (List Char) :=
  ["Traceback (most recent call last):".toList, "Traceback (innermost last):".toList]

/-- The text from the first line of `cs` (which starts a line) whose first character is a
word character, to the end. -/
def fromWordLine : List Char → Option (List Char)
  | [] => none
  | c :: cs =>
    if isWordChar c then some (c :: cs)
    else if c = '\n' then fromWordLine cs
    else skipLine cs
where
  /-- The rest of a line that does not start with a word character: what follows its newline,
  read again; nothing when no newline ends it. -/
  skipLine : List Char → Option (List Char)
    | [] => none
    | '\n' :: rest => fromWordLine rest
    | _ :: rest => skipLine rest

/-- The exception message of an expected output: present when the output starts with a
traceback header whose line holds nothing else but blanks, and then it is the text from the
first later line that starts with a word character. -/
def exceptionMessage (want : List Char) : Option (List Char) :=
  match tracebackHeaders.find? (·.isPrefixOf want) with
  | none => none
  | some h =>
    let rest := want.drop h.length
    match rest.dropWhile (· ≠ '\n') with
    | '\n' :: after =>
      if (rest.takeWhile (· ≠ '\n')).all isBlank then fromWordLine after else none
    | _ => none

/-- A source that is spaces, or spaces and a comment, possibly followed by one line break. -/
def isBlankOrComment (src : List Char) : Bool :=
  let r := src.dropWhile (· = ' ')
  let r := if r.head? = some '#' then r.dropWhile (· ≠ '\n') else r
  r.isEmpty || r == ['\n']

/-- Whether a character may stand in the flags of a directive. -/
def isDirectiveChar (c : Char) : Bool := c ≠ '\n' ∧ c ≠ '\'' ∧ c ≠ '"'

/-- The flag texts of the directives in `src`: each `#`, blanks, `doctest:`, blanks and then
the rest of the line, which must hold no quote. When a quote follows but the blanks after
`doctest:` span a line break, the directive is empty. Each step reads at least one character,
so the length of the source, plus one, is fuel enough. -/
def directiveTexts (src : List Char) : List (List Char) :=
  go (src.length + 1) src
where
  /-- The directives of `cs`, with fuel for as many steps. -/
  go : Nat → List Char → List (List Char)
    | 0, _ => []
    | _, [] => []
    | fuel + 1, c :: cs =>
      if c = '#' then
        let r := cs.dropWhile isBlank
        if "doctest:".toList.isPrefixOf r then
          let r2 := r.drop 8
          let gap := r2.takeWhile isBlank
          let r3 := r2.dropWhile isBlank
          let g := r3.takeWhile isDirectiveChar
          let r4 := r3.dropWhile isDirectiveChar
          match r4 with
          | [] => [g]
          | '\n' :: _ => g :: go fuel r4
          | _ => if gap.contains '\n' then [] :: go fuel r4 else go fuel cs
        else go fuel cs
      else go fuel cs

/-- The directives of an example's source, read with the example at line `line` of
docstring `name`. -/
def readDirectives (name : String) (line : Nat) (src : List Char) :
    Except ParseFault Directives :=
  let opts := (directiveTexts src).flatMap fun g =>
    wordsOf (g.map fun c => if c = ',' then ' ' else c)
  let step : Directives → List Char → Except ParseFault Directives := fun d o =>
    match o with
    | sign :: rest =>
      match Flag.ofName? (String.ofList rest) with
      | some f =>
        if sign = '+' then .ok (d.set f true)
        else if sign = '-' then .ok (d.set f false)
        else .error (.invalidOption (line + 1) name (String.ofList o))
      | none => .error (.invalidOption (line + 1) name (String.ofList o))
    | [] => .ok d
  match opts.foldlM step {} with
  | .error e => .error e
  | .ok d =>
    if !d.isEmpty && isBlankOrComment src then
      .error (.directiveWithoutExample line name (String.ofList src))
    else .ok d

/-- The first line of `ls` (numbered from `first`) that fails `ok`, as a fault. -/
def firstBad (ok : List Char → Bool) (fault : Nat → List Char → ParseFault) :
    Nat → List (List Char) → Except ParseFault Unit
  | _, [] => .ok ()
  | k, l :: ls => if ok l then firstBad ok fault (k + 1) ls else .error (fault k l)

/-- A line passes the prompt check when it is shorter than the prompt and its blank, or has a
blank right after the prompt. -/
def promptBlankOk (indent : Nat) (l : List Char) : Bool :=
  !(indent + 4 ≤ l.length ∧ l.getD (indent + 3) ' ' ≠ ' ')

/-- A line passes the indentation check when it is empty or starts with `pre`. -/
def prefixOk (pre : List Char) (l : List Char) : Bool := l.isEmpty || pre.isPrefixOf l

/-- The example whose prompt line is `ps1`, continued by `ps2` and followed by the output lines
`out`, at line `line` of docstring `name` whose common indentation is `base`; `none` when its
source is empty or a comment. -/
def readExample (name : String) (base line : Nat) (ps1 : List Char)
    (ps2 out : List (List Char)) : Except ParseFault (Option Example) := do
  let indent := leadingSpaces ps1
  let srcLines := ps1 :: ps2
  firstBad (promptBlankOk indent)
    (fun k l => .promptWithoutBlank k name (String.ofList ((l.drop indent).take 3)) (String.ofList l))
    (line + 1) srcLines
  firstBad (prefixOk (List.replicate indent ' ' ++ ['.']))
    (fun k l => .inconsistentIndent k name (String.ofList l)) (line + 1) ps2
  let wantLines := if out.isEmpty then [[]] else out
  firstBad (prefixOk (List.replicate indent ' '))
    (fun k l => .inconsistentIndent k name (String.ofList l)) (line + srcLines.length + 1)
    wantLines
  let src := unlines (srcLines.map (·.drop (indent + 4)))
  let want := unlines (wantLines.map (·.drop indent))
  let exc := exceptionMessage want
  let opts ← readDirectives name line src
  if isBlankOrComment src then return none
  let closeLine (cs : List Char) : String :=
    String.ofList (if cs.getLast? = some '\n' then cs else cs ++ ['\n'])
  return some
    { source := closeLine src
      want := if want.isEmpty then "" else closeLine want
      excMsg := exc.map closeLine
      line := line
      indent := base + indent
      options := opts }

/-- The examples of the lines `ls`, the first of which has index `line`. Each step reads at
least one line, so the number of lines, plus one, is fuel enough. -/
def readLines (name : String) (base : Nat) (line : Nat) (ls : List (List Char)) :
    Except ParseFault (List Example) :=
  go (ls.length + 1) line ls
where
  /-- The examples of the lines, with fuel for as many steps. -/
  go : Nat → Nat → List (List Char) → Except ParseFault (List Example)
    | 0, _, _ => .ok []
    | _, _, [] => .ok []
    | fuel + 1, line, l :: ls =>
      if isPromptLine l then
        let ps2 := ls.takeWhile isContinuationLine
        let rest := ls.dropWhile isContinuationLine
        let out := rest.takeWhile isOutputLine
        let after := rest.dropWhile isOutputLine
        match readExample name base line l ps2 out with
        | .error e => .error e
        | .ok ex =>
          match go fuel (line + 1 + ps2.length + out.length) after with
          | .error e => .error e
          | .ok exs => .ok (match ex with
            | some e => e :: exs
            | none => exs)
      else go fuel (line + 1) ls

/-- The examples of a docstring, read for the definition `name`. -/
def readExamples (name : String) (doc : String) : Except ParseFault (List Example) :=
  let (ls, base) := preparedLines doc
  readLines name base 0 ls

end StubDoctest.Reader

namespace StubDoctest

/-- The block of examples of a docstring of definition `name` at line `line` of `file`: the
content of its markdown fences, if any, read as examples. -/
def Block.ofDocstring (name file : String) (line : Option Int) (doc : String) :
    Except ParseFault Block :=
  let text := Fence.extract doc
  match Reader.readExamples name text with
  | .error e => .error e
  | .ok exs => .ok { name, file, line, docstring := text, examples := exs }

end StubDoctest
