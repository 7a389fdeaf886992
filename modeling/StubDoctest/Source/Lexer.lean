import StubDoctest.Source.Token
import StubDoctest.Text.IdentChar
import StubDoctest.Text.Printable

/-!
# Splitting Python source into tokens

The lexer reads the whole text, which ends with a line feed, and produces the tokens with the
layout of blocks made explicit.

* At the start of a line the indentation is measured: a space counts one column, a tab moves
  to the next multiple of eight (and counts one in a second measure that detects an
  inconsistent mix), a form feed resets both. Lines holding only blanks and a comment are
  ignored. Outside brackets a deeper line opens a block, a shallower one closes blocks back to
  a level seen before (or is a fault).
* Inside brackets line ends are ignored; a backslash before a line end joins two lines.
* Names start with an ASCII letter, an underscore or any character past ASCII; one holding a
  character past ASCII must be a valid identifier. One to three prefix letters right before a
  quote start a string literal instead.
* Number literals follow the grammar of decimal, hexadecimal, octal and binary integers,
  floats and imaginary numbers, with single underscores between digits; a literal may not be
  directly followed by a name character, unless a keyword that may follow a number starts
  there.
* String literals run to the matching quote (or three quotes); a backslash escapes the next
  character, a line end included. A single-quoted literal cannot span a line end.

`tokenize` returns the tokens or the first fault, with the text and line the reader would
report.
-/

namespace StubDoctest.Source

/-- The state of the lexer. -/
structure LexState where
  /-- The text being read. -/
  text : Array Char
  /-- The index of the next character. -/
  pos : Nat := 0
  /-- The current line, counted from one. -/
  line : Nat := 1
  /-- The index where the current line starts. -/
  lineStart : Nat := 0
  /-- The open blocks' indentation in both measures, innermost first. -/
  indents : List (Nat × Nat) := [(0, 0)]
  /-- The open brackets with the line each was opened on, innermost first. -/
  brackets : List (Char × Nat) := []
  /-- Whether the next character starts a line. -/
  atLineStart : Bool := true
  /-- The tokens so far. -/
  tokens : Array Token := #[]

namespace LexState

/-- The character `k` places after the next one. -/
def peek (st : LexState) (k : Nat := 0) : Option Char := st.text[st.pos + k]?

/-- Whether the character `k` places on satisfies `p`. -/
def peekIs (st : LexState) (k : Nat) (p : Char → Bool) : Bool :=
  match st.peek k with
  | some c => p c
  | none => false

/-- The column of the next character. -/
def col (st : LexState) : Nat := st.pos - st.lineStart

/-- Move on by `n` characters on the current line. -/
def skip (st : LexState) (n : Nat) : LexState := { st with pos := st.pos + n }

/-- Move past a line feed at the next position. -/
def skipNewline (st : LexState) : LexState :=
  { st with pos := st.pos + 1, line := st.line + 1, lineStart := st.pos + 1 }

/-- Add a token that starts at `(line, col)`. -/
def emit (st : LexState) (k : TokenKind) (line col : Nat) : LexState :=
  { st with tokens := st.tokens.push ⟨k, line, col⟩ }

/-- The text between two indices. -/
def slice (st : LexState) (a b : Nat) : String := String.ofList ((st.text.extract a b).toList)

/-- A fault at the current line. -/
def fault (st : LexState) (k : FaultKind) (msg : String) : SyntaxFault := ⟨k, msg, st.line⟩

end LexState

/-- ASCII letters. -/
def isAsciiLetter (c : Char) : Bool := ('a' ≤ c && c ≤ 'z') || ('A' ≤ c && c ≤ 'Z')

/-- Decimal digits. -/
def isDigit (c : Char) : Bool := '0' ≤ c && c ≤ '9'

/-- Hexadecimal digits. -/
def isHexDigit (c : Char) : Bool := isDigit c || ('a' ≤ c && c ≤ 'f') || ('A' ≤ c && c ≤ 'F')

/-- Characters that may start a name token. -/
def isNameStart (c : Char) : Bool := isAsciiLetter c || c = '_' || c.toNat ≥ 128

/-- Characters that may continue a name token. -/
def isNameChar (c : Char) : Bool := isNameStart c || isDigit c

/-- Upper-case hexadecimal of a code point, at least four digits. -/
def codeHex (c : Char) : String :=
  let ds := (Nat.toDigits 16 c.toNat).map Char.toUpper
  String.ofList (List.replicate (4 - ds.length) '0' ++ ds)

/-- The fault for a character that may not stand in source. -/
def badCharMessage (c : Char) : String :=
  if Text.isPrintable c then "invalid character '" ++ c.toString ++ "' (U+" ++ codeHex c ++ ")"
  else "invalid non-printable character U+" ++ codeHex c

/-- The width of a tab stop. -/
def tabSize : Nat := 8

/-- Indentation of the current line: the two measures, the column where a backslash first
joined the line to the next one (zero when none did, or when it stood at column zero), and the
state after the blanks. -/
def measureIndent (fuel : Nat) (st : LexState) (col alt cont : Nat) :
    Except SyntaxFault (LexState × Nat × Nat × Nat) :=
  match fuel with
  | 0 => .ok (st, col, alt, cont)
  | fuel + 1 =>
    match st.peek with
    | some ' ' => measureIndent fuel (st.skip 1) (col + 1) (alt + 1) cont
    | some '\t' => measureIndent fuel (st.skip 1) ((col / tabSize + 1) * tabSize) (alt + 1) cont
    | some '\x0c' => measureIndent fuel (st.skip 1) 0 0 cont
    | some '\\' =>
      if st.peek 1 = some '\n' then
        let st' := (st.skip 1).skipNewline
        if st'.peek.isNone then .error (st'.fault .grammar "unexpected EOF while parsing")
        else measureIndent fuel st' col alt (if cont ≠ 0 then cont else col)
      else .error (st.fault .grammar "unexpected character after line continuation character")
    | _ => .ok (st, col, alt, cont)

/-- Close blocks deeper than `col`, adding a dedent token for each. -/
def closeBlocks (st : LexState) (col alt : Nat) : Except SyntaxFault LexState :=
  let rec go : List (Nat × Nat) → Nat → List (Nat × Nat) × Nat
    | (c, a) :: rest, n => if col < c ∧ rest ≠ [] then go rest (n + 1) else ((c, a) :: rest, n)
    | [], n => ([], n)
  let (stack, n) := go st.indents 0
  match stack with
  | (c, a) :: _ =>
    if col ≠ c then
      .error (st.fault .indentation "unindent does not match any outer indentation level")
    else if alt ≠ a then
      .error (st.fault .tabs "inconsistent use of tabs and spaces in indentation")
    else
      let st := (List.range n).foldl (fun s _ => s.emit .dedent st.line st.col) st
      .ok { st with indents := stack }
  | [] => .ok st

/-- Handle the start of a line: measure its indentation and, outside brackets and unless the
line is blank, open or close blocks. Returns whether the line is blank. -/
def startLine (st : LexState) : Except SyntaxFault (LexState × Bool) := do
  let (st, col, alt, cont) ← measureIndent (st.text.size + 1) st 0 0 0
  let blank := st.peek = some '#' || st.peek = some '\n'
  let st := { st with atLineStart := false }
  if blank || !st.brackets.isEmpty then return (st, blank)
  let col := if cont ≠ 0 then cont else col
  let alt := if cont ≠ 0 then cont else alt
  match st.indents with
  | (c, a) :: _ =>
    if col = c then
      if alt ≠ a then throw (st.fault .tabs "inconsistent use of tabs and spaces in indentation")
      else return (st, false)
    else if col > c then
      if alt ≤ a then throw (st.fault .tabs "inconsistent use of tabs and spaces in indentation")
      else if st.indents.length ≥ 100 then
        throw (st.fault .indentation "too many levels of indentation")
      else
        let st := st.emit .indent st.line st.col
        return ({ st with indents := (col, alt) :: st.indents }, false)
    else
      let st ← closeBlocks st col alt
      return (st, false)
  | [] => return (st, false)

/-- Skip spaces, tabs and form feeds within a line. -/
def skipBlanks (fuel : Nat) (st : LexState) : LexState :=
  match fuel with
  | 0 => st
  | fuel + 1 =>
    if st.peekIs 0 (fun c => c = ' ' || c = '\t' || c = '\x0c') then skipBlanks fuel (st.skip 1)
    else st

/-- Skip to the end of the line (not past the line feed). -/
def skipToLineEnd (fuel : Nat) (st : LexState) : LexState :=
  match fuel with
  | 0 => st
  | fuel + 1 => if st.peekIs 0 (· ≠ '\n') then skipToLineEnd fuel (st.skip 1) else st

/-- Skip characters satisfying `p`. -/
def skipWhile (fuel : Nat) (p : Char → Bool) (st : LexState) : LexState :=
  match fuel with
  | 0 => st
  | fuel + 1 => if st.peekIs 0 p then skipWhile fuel p (st.skip 1) else st

/-- The end of a string literal whose opening quotes (`size` of them, quote `q`) have been
read: the state after the closing quotes. -/
def scanStringBody (fuel : Nat) (st : LexState) (q : Char) (size closing : Nat)
    (startLine : Nat) : Except SyntaxFault LexState :=
  match fuel with
  | 0 => .ok st
  | fuel + 1 =>
    if closing = size then .ok st
    else
      match st.peek with
      | none =>
        if size = 3 then
          .error ⟨.grammar, "unterminated triple-quoted string literal (detected at line " ++
            toString st.line ++ ")", startLine⟩
        else
          .error ⟨.grammar, "unterminated string literal (detected at line " ++
            toString st.line ++ ")", startLine⟩
      | some '\n' =>
        if size = 1 then
          .error ⟨.grammar, "unterminated string literal (detected at line " ++
            toString st.line ++ ")", startLine⟩
        else scanStringBody fuel st.skipNewline q size 0 startLine
      | some c =>
        if c = q then scanStringBody fuel (st.skip 1) q size (closing + 1) startLine
        else if c = '\\' then
          match st.peek 1 with
          | some '\n' => scanStringBody fuel (st.skip 1).skipNewline q size 0 startLine
          | some _ => scanStringBody fuel (st.skip 2) q size 0 startLine
          | none => scanStringBody fuel (st.skip 1) q size 0 startLine
        else scanStringBody fuel (st.skip 1) q size 0 startLine

/-- Read a string literal whose prefix starts at `start` and whose quote is next. -/
def scanString (st : LexState) (start : Nat) : Except SyntaxFault LexState := do
  let line := st.line
  let col := start - st.lineStart
  let q := st.peek.getD '"'
  let (st1, size, closing) :=
    if st.peek 1 = some q then
      if st.peek 2 = some q then (st.skip 3, 3, 0) else (st.skip 2, 1, 1)
    else (st.skip 1, 1, 0)
  let st2 ← scanStringBody (st.text.size + 1) st1 q size closing line
  return st2.emit (.string (st2.slice start st2.pos)) line col

/-- Whether a keyword that may follow a number literal starts at the next character. -/
def keywordAfterNumber (st : LexState) : Bool :=
  let is (k : Nat) (c : Char) : Bool := st.peek k = some c
  (is 0 'a' && is 1 'n' && is 2 'd') || (is 0 'e' && is 1 'l' && is 2 's' && is 3 'e') ||
    (is 0 'f' && is 1 'o' && is 2 'r') ||
    (is 0 'i' && (is 1 'f' || is 1 'n' || is 1 's')) || (is 0 'o' && is 1 'r') ||
    (is 0 'n' && is 1 'o' && is 2 't')

/-- The check after a number literal of the given kind: no name character may follow, unless
a keyword starts there. -/
def endOfNumber (st : LexState) (kind : String) : Except SyntaxFault Unit :=
  if keywordAfterNumber st then .ok ()
  else if st.peekIs 0 isNameChar then .error (st.fault .grammar ("invalid " ++ kind ++ " literal"))
  else .ok ()

/-- Digits with single underscores between them; the first digit has been read. -/
def decimalTail (fuel : Nat) (st : LexState) : Except SyntaxFault LexState :=
  match fuel with
  | 0 => .ok st
  | fuel + 1 =>
    let st := skipWhile (st.text.size + 1) isDigit st
    if st.peek = some '_' then
      if st.peekIs 1 isDigit then decimalTail fuel (st.skip 2)
      else .error (st.fault .grammar "invalid decimal literal")
    else .ok st

/-- Digits of a base-prefixed literal: groups of digits, each after an optional underscore. -/
def radixDigits (fuel : Nat) (st : LexState) (isRadix : Char → Bool) (kind : String) :
    Except SyntaxFault LexState :=
  match fuel with
  | 0 => .ok st
  | fuel + 1 =>
    let st := if st.peek = some '_' then st.skip 1 else st
    if st.peekIs 0 isRadix then
      let st := skipWhile (st.text.size + 1) isRadix st
      if st.peek = some '_' then radixDigits fuel st isRadix kind else .ok st
    else if kind ≠ "hexadecimal" ∧ st.peekIs 0 isDigit then
      .error (st.fault .grammar ("invalid digit '" ++ (st.peek.getD '0').toString ++ "' in " ++
        kind ++ " literal"))
    else .error (st.fault .grammar ("invalid " ++ kind ++ " literal"))

/-- The exponent, fraction-free tail and imaginary suffix of a decimal literal, from the
character after its integer part (or after its point). -/
def numberRest (st : LexState) (afterPoint : Bool) : Except SyntaxFault LexState := do
  let mut st := st
  if afterPoint then
    if st.peekIs 0 isDigit then st ← decimalTail (st.text.size + 1) st
  if st.peek = some 'e' ∨ st.peek = some 'E' then
    let e := st
    let st1 := st.skip 1
    if st1.peek = some '+' ∨ st1.peek = some '-' then
      if st1.peekIs 1 isDigit then st ← decimalTail (st.text.size + 1) (st1.skip 2)
      else throw (st1.fault .grammar "invalid decimal literal")
    else if st1.peekIs 0 isDigit then st ← decimalTail (st.text.size + 1) st1
    else
      endOfNumber e "decimal"
      return e
  if st.peek = some 'j' ∨ st.peek = some 'J' then
    let st1 := st.skip 1
    endOfNumber st1 "imaginary"
    return st1
  endOfNumber st "decimal"
  return st

/-- Read a number literal starting at the next character (a digit, or a point before a
digit). -/
def scanNumber (st : LexState) : Except SyntaxFault LexState := do
  let start := st.pos
  let line := st.line
  let col := st.col
  let fin (s : LexState) : LexState := s.emit (.number (s.slice start s.pos)) line col
  if st.peek = some '.' then
    let st ← numberRest (st.skip 1) true
    return fin st
  if st.peek = some '0' then
    let nx := st.peek 1
    if nx = some 'x' ∨ nx = some 'X' then
      let st ← radixDigits (st.text.size + 1) (st.skip 2) isHexDigit "hexadecimal"
      endOfNumber st "hexadecimal"
      return fin st
    if nx = some 'o' ∨ nx = some 'O' then
      let st ← radixDigits (st.text.size + 1) (st.skip 2) (fun c => '0' ≤ c && c ≤ '7') "octal"
      if st.peekIs 0 isDigit then
        throw (st.fault .grammar ("invalid digit '" ++ (st.peek.getD '0').toString ++
          "' in octal literal"))
      endOfNumber st "octal"
      return fin st
    if nx = some 'b' ∨ nx = some 'B' then
      let st ← radixDigits (st.text.size + 1) (st.skip 2) (fun c => c = '0' || c = '1') "binary"
      if st.peekIs 0 isDigit then
        throw (st.fault .grammar ("invalid digit '" ++ (st.peek.getD '0').toString ++
          "' in binary literal"))
      endOfNumber st "binary"
      return fin st
    -- zeros, possibly with underscores, then perhaps more digits
    let rec zeros (fuel : Nat) (s : LexState) : Except SyntaxFault LexState :=
      match fuel with
      | 0 => .ok s
      | fuel + 1 =>
        if s.peek = some '_' then
          if s.peekIs 1 isDigit then
            if s.peek 1 = some '0' then zeros fuel (s.skip 2) else .ok (s.skip 1)
          else .error (s.fault .grammar "invalid decimal literal")
        else if s.peek = some '0' then zeros fuel (s.skip 1)
        else .ok s
    let st ← zeros (st.text.size + 1) (st.skip 1)
    let (st, nonzero) ← if st.peekIs 0 isDigit then
        do let s ← decimalTail (st.text.size + 1) (st.skip 1); pure (s, true)
      else pure (st, false)
    if st.peek = some '.' then return fin (← numberRest (st.skip 1) true)
    if st.peek = some 'e' ∨ st.peek = some 'E' ∨ st.peek = some 'j' ∨ st.peek = some 'J' then
      return fin (← numberRest st false)
    if nonzero then
      throw (st.fault .grammar
        "leading zeros in decimal integer literals are not permitted; use an 0o prefix for octal integers")
    endOfNumber st "decimal"
    return fin st
  let st ← decimalTail (st.text.size + 1) (st.skip 1)
  if st.peek = some '.' then return fin (← numberRest (st.skip 1) true)
  return fin (← numberRest st false)

/-- Which string prefix letters have been read. -/
structure PrefixSeen where
  /-- A bytes prefix. -/
  b : Bool := false
  /-- A raw prefix. -/
  r : Bool := false
  /-- A unicode prefix. -/
  u : Bool := false
  /-- A formatted-string prefix. -/
  f : Bool := false

/-- The prefix letters seen after reading `c`, if `c` may extend the prefix. -/
def PrefixSeen.add (p : PrefixSeen) (c : Char) : Option PrefixSeen :=
  if !(p.b || p.u || p.f) && (c = 'b' || c = 'B') then some { p with b := true }
  else if !(p.b || p.u || p.r || p.f) && (c = 'u' || c = 'U') then some { p with u := true }
  else if !(p.r || p.u) && (c = 'r' || c = 'R') then some { p with r := true }
  else if !(p.f || p.b || p.u) && (c = 'f' || c = 'F') then some { p with f := true }
  else none

/-- The length of a string prefix at the next character that a quote follows, if any. -/
def stringPrefixLength (st : LexState) : Option Nat :=
  let rec go (fuel : Nat) (p : PrefixSeen) (k : Nat) : Option Nat :=
    match fuel with
    | 0 => none
    | fuel + 1 =>
      match st.peek k with
      | some c =>
        match p.add c with
        | some p' =>
          if st.peek (k + 1) = some '\'' || st.peek (k + 1) = some '"' then some (k + 1)
          else go fuel p' (k + 1)
        | none => none
      | none => none
  go 4 {} 0

/-- Read a name token. -/
def scanName (st : LexState) : Except SyntaxFault LexState := do
  let start := st.pos
  let line := st.line
  let col := st.col
  let st := skipWhile (st.text.size + 1) isNameChar st
  let word := (st.text.extract start st.pos).toList
  if word.any (·.toNat ≥ 128) then
    let k := Text.firstNonIdent word
    if k < word.length then
      throw (st.fault .grammar (badCharMessage (word.getD k ' ')))
  return st.emit (.name (String.ofList word)) line col

/-- The operators of three characters. -/
def threeCharOps : List String := ["**=", "...", "//=", ">>=", "<<="]

/-- The operators of two characters. -/
def twoCharOps : List String :=
  ["!=", "%=", "&=", "**", "*=", "+=", "-=", "->", "//", "/=", ":=", "<<", "<=", "<>", "==",
    ">=", ">>", "@=", "^=", "|="]

/-- The text of the `n` characters from the next one, if there are that many. -/
def LexState.ahead (st : LexState) (n : Nat) : String :=
  String.ofList ((st.text.extract st.pos (st.pos + n)).toList)

/-- The closing bracket of an opening one. -/
def closerOf : Char → Char
  | '(' => ')'
  | '[' => ']'
  | _ => '}'

/-- Read an operator, bracket or other single character. -/
def scanOperator (st : LexState) (c : Char) : Except SyntaxFault LexState := do
  let line := st.line
  let col := st.col
  if threeCharOps.contains (st.ahead 3) then
    return (st.skip 3).emit (.op (st.ahead 3)) line col
  if twoCharOps.contains (st.ahead 2) then
    return (st.skip 2).emit (.op (st.ahead 2)) line col
  if c = '(' ∨ c = '[' ∨ c = '{' then
    if st.brackets.length ≥ 200 then throw (st.fault .grammar "too many nested parentheses")
    return { (st.skip 1).emit (.op c.toString) line col with brackets := (c, line) :: st.brackets }
  if c = ')' ∨ c = ']' ∨ c = '}' then
    match st.brackets with
    | [] => throw (st.fault .grammar ("unmatched '" ++ c.toString ++ "'"))
    | (o, oline) :: rest =>
      if closerOf o ≠ c then
        if oline ≠ line then
          throw (st.fault .grammar ("closing parenthesis '" ++ c.toString ++
            "' does not match opening parenthesis '" ++ o.toString ++ "' on line " ++
            toString oline))
        else
          throw (st.fault .grammar ("closing parenthesis '" ++ c.toString ++
            "' does not match opening parenthesis '" ++ o.toString ++ "'"))
      return { (st.skip 1).emit (.op c.toString) line col with brackets := rest }
  if !Text.isPrintable c then
    throw (st.fault .grammar ("invalid non-printable character U+" ++ codeHex c))
  return (st.skip 1).emit (.op c.toString) line col

/-- One step of the lexer: the state after the next token (or ignored line end), and whether
the input is finished. Every step that does not finish reads at least one character. -/
def lexStep (st : LexState) : Except SyntaxFault (LexState × Bool) := do
  let (st, blank) ← if st.atLineStart then startLine st else pure (st, false)
  let st := skipBlanks (st.text.size + 1) st
  let st := if st.peek = some '#' then skipToLineEnd (st.text.size + 1) st else st
  match st.peek with
  | none =>
    match st.brackets with
    | (o, oline) :: _ => throw ⟨.grammar, "'" ++ o.toString ++ "' was never closed", oline⟩
    | [] => return (st.emit .endmarker st.line st.col, true)
  | some c =>
    if isNameStart c then
      match stringPrefixLength st with
      | some k => return (← scanString (st.skip k) st.pos, false)
      | none => return (← scanName st, false)
    if c = '\n' then
      let st' := if blank || !st.brackets.isEmpty then st else st.emit .newline st.line st.col
      return ({ st'.skipNewline with atLineStart := true }, false)
    if c = '.' ∧ st.peekIs 1 isDigit then return (← scanNumber st, false)
    if isDigit c then return (← scanNumber st, false)
    if c = '\'' ∨ c = '"' then return (← scanString st st.pos, false)
    if c = '\\' then
      if st.peek 1 = some '\n' then
        let st' := (st.skip 1).skipNewline
        if st'.peek.isNone then throw (st'.fault .grammar "unexpected EOF while parsing")
        return (st', false)
      else throw (st.fault .grammar "unexpected character after line continuation character")
    return (← scanOperator st c, false)

/-- Run the lexer for at most `fuel` steps. -/
def lexRun (fuel : Nat) (st : LexState) : Except SyntaxFault (Array Token) :=
  match fuel with
  | 0 => .error (st.fault .grammar "source too long")
  | fuel + 1 =>
    match lexStep st with
    | .error e => .error e
    | .ok (st', true) => .ok st'.tokens
    | .ok (st', false) => lexRun fuel st'

/-- The text as the lexer reads it: a line feed is added when the text does not end with one. -/
def closedText (cs : List Char) : List Char :=
  if cs.getLast? = some '\n' then cs else cs ++ ['\n']

/-- The tokens of a source text, or the first lexical fault. -/
def tokenize (cs : List Char) : Except SyntaxFault (Array Token) :=
  let text := (closedText cs).toArray
  lexRun (text.size + 2) { text }

end StubDoctest.Source
