import StubDoctest.Source.Tree
import StubDoctest.Number.Binary
import StubDoctest.Text.CharName
import StubDoctest.Text.CodePoint

/-!
# Literals of Python source

The values of number and string tokens.

* Integers in any base, with underscores dropped; floats read from their decimal digits and
  rounded to the nearest double; imaginary numbers by their imaginary part.
* String escapes: a backslash before a line end disappears; the named escapes, one to three
  octal digits, `\x` with two hexadecimal digits, `\u` with four, `\U` with eight (at most
  U+10FFFF) and `\N{name}`; a backslash before any other character stays. Raw strings keep
  every backslash. Bytes take the escapes that denote one byte and may hold ASCII only.
* Formatted strings are split into literal text and replacement fields: a field is the text
  of an expression (no backslash, no comment, brackets and quotes balanced), an optional `=`,
  an optional conversion `!s`, `!r` or `!a`, and an optional format specification that may
  itself hold fields, one level deep. Doubled braces stand for single ones outside fields.
-/

namespace StubDoctest.Source

/-- The digits of a number token without underscores. -/
def digitsOf (s : String) : List Char := s.toList.filter (· ≠ '_')

/-- The value of digits in a base, read left to right. -/
def digitValue (base : Nat) (cs : List Char) : Nat :=
  cs.foldl (fun n c =>
    let d := if '0' ≤ c ∧ c ≤ '9' then c.toNat - 48
      else if 'a' ≤ c ∧ c ≤ 'f' then c.toNat - 87
      else if 'A' ≤ c ∧ c ≤ 'F' then c.toNat - 55 else 0
    n * base + d) 0

/-- The double nearest to `m · 10^e`, ties to even. Huge and tiny magnitudes are settled
before the arithmetic: past `10^310` the value is infinite, below `10^-345` it is zero. -/
def decimalToFloat (m : Nat) (e : Int) : Float :=
  if m = 0 then 0.0
  else
    let digits := (Nat.toDigits 10 m).length
    if e + digits > 310 then Float.ofScientific 1 false 400
    else if e + digits < -345 then 0.0
    else
      let r := if e ≥ 0 then Number.ofRatio false (m * 10 ^ e.toNat) 1
        else Number.ofRatio false m (10 ^ (-e).toNat)
      r.getD (Float.ofScientific 1 false 400)

/-- The double a decimal float text denotes: digits, an optional point and fraction, an
optional exponent. -/
def floatOfText (cs : List Char) : Float :=
  let intPart := cs.takeWhile (fun c => '0' ≤ c ∧ c ≤ '9')
  let rest := cs.drop intPart.length
  let (frac, rest) :=
    match rest with
    | '.' :: r => (r.takeWhile (fun c => '0' ≤ c ∧ c ≤ '9'),
        r.drop (r.takeWhile (fun c => '0' ≤ c ∧ c ≤ '9')).length)
    | _ => ([], rest)
  let expo : Int :=
    match rest with
    | c :: r =>
      if c = 'e' ∨ c = 'E' then
        match r with
        | '-' :: ds => -(digitValue 10 ds : Int)
        | '+' :: ds => digitValue 10 ds
        | ds => digitValue 10 ds
      else 0
    | [] => 0
  decimalToFloat (digitValue 10 (intPart ++ frac)) (expo - frac.length)

/-- The value of a number token. -/
def numberLiteral (text : String) : Literal :=
  let cs := digitsOf text
  match cs with
  | '0' :: x :: ds =>
    if x = 'x' ∨ x = 'X' then .int (digitValue 16 ds)
    else if x = 'o' ∨ x = 'O' then .int (digitValue 8 ds)
    else if x = 'b' ∨ x = 'B' then .int (digitValue 2 ds)
    else if cs.getLast? = some 'j' ∨ cs.getLast? = some 'J' then .imag (floatOfText cs.dropLast)
    else if cs.any (fun c => c = '.' ∨ c = 'e' ∨ c = 'E') then .float (floatOfText cs)
    else .int (digitValue 10 cs)
  | _ =>
    if cs.getLast? = some 'j' ∨ cs.getLast? = some 'J' then .imag (floatOfText cs.dropLast)
    else if cs.any (fun c => c = '.' ∨ c = 'e' ∨ c = 'E') then .float (floatOfText cs)
    else .int (digitValue 10 cs)

/-- The parts of a string token. -/
structure StringToken where
  /-- A bytes literal. -/
  bytes : Bool
  /-- A raw literal. -/
  raw : Bool
  /-- A formatted literal. -/
  formatted : Bool
  /-- The text between the quotes. -/
  body : List Char

/-- Split a string token into prefix flags and body. -/
def StringToken.ofText (text : String) : StringToken :=
  let cs := text.toList
  let pre := cs.takeWhile (fun c => c ≠ '\'' ∧ c ≠ '"')
  let rest := cs.drop pre.length
  let q := rest.headD '"'
  let n := if rest.take 3 = [q, q, q] ∧ rest.length ≥ 6 then 3 else 1
  let has (c : Char) : Bool := pre.any (fun d => d.toLower = c)
  { bytes := has 'b', raw := has 'r', formatted := has 'f',
    body := (rest.drop n).take (rest.length - 2 * n) }

/-- The width a character takes in the text that escape faults count positions in: before
decoding, every character past ASCII is spelled as a ten-byte \U escape. -/
def escapedWidth (c : Char) : Nat :=
  if c.toNat < 0x80 then 1 else 10

/-- A fault of escape decoding, with the text a reader reports. -/
def escapeFault (start stop : Nat) (what : String) : String :=
  if stop = start + 1 then
    "(unicode error) 'unicodeescape' codec can't decode byte 0x5c in position " ++
      toString start ++ ": " ++ what
  else
    "(unicode error) 'unicodeescape' codec can't decode bytes in position " ++
      toString start ++ "-" ++ toString (stop - 1) ++ ": " ++ what

/-- The value of hexadecimal digits, when all are. -/
def hexValue? (cs : List Char) : Option Nat :=
  if cs.all (fun c => ('0' ≤ c ∧ c ≤ '9') ∨ ('a' ≤ c ∧ c ≤ 'f') ∨ ('A' ≤ c ∧ c ≤ 'F'))
  then some (digitValue 16 cs) else none


/-- Decode the escapes of a text literal body; `pos` is the byte position of the first
character. -/
def decodeEscapes (pos : Nat) : List Char → Except String (List Char)
  | [] => .ok []
  | '\\' :: rest =>
    match rest with
    | [] => .ok ['\\']
    | c :: r =>
      let simple (d : Char) : Except String (List Char) :=
        (decodeEscapes (pos + 2) r).map (d :: ·)
      if c = '\n' then decodeEscapes (pos + 2) r
      else if c = '\\' then simple '\\'
      else if c = '\'' then simple '\''
      else if c = '"' then simple '"'
      else if c = 'a' then simple '\x07'
      else if c = 'b' then simple '\x08'
      else if c = 'f' then simple '\x0c'
      else if c = 'n' then simple '\n'
      else if c = 'r' then simple '\r'
      else if c = 't' then simple '\t'
      else if c = 'v' then simple '\x0b'
      else if '0' ≤ c ∧ c ≤ '7' then
        let more := (r.take 2).takeWhile (fun d => '0' ≤ d ∧ d ≤ '7')
        let v := digitValue 8 (c :: more)
        (decodeEscapes (pos + 2 + more.length) (r.drop more.length)).map (Char.ofNat v :: ·)
      else if c = 'x' ∨ c = 'u' ∨ c = 'U' then
        let n := if c = 'x' then 2 else if c = 'u' then 4 else 8
        let what := if c = 'x' then "truncated \\xXX escape"
          else if c = 'u' then "truncated \\uXXXX escape" else "truncated \\UXXXXXXXX escape"
        let ds := r.take n
        let good := ds.takeWhile (fun d => ('0' ≤ d ∧ d ≤ '9') ∨ ('a' ≤ d ∧ d ≤ 'f') ∨
          ('A' ≤ d ∧ d ≤ 'F'))
        if good.length < n then .error (escapeFault pos (pos + 2 + good.length) what)
        else
          let v := digitValue 16 ds
          if v > 0x10FFFF then .error (escapeFault pos (pos + 2 + n) "illegal Unicode character")
          else (decodeEscapes (pos + 2 + n) (r.drop n)).map (Text.ofCode v :: ·)
      else if c = 'N' then
        match r with
        | '{' :: r' =>
          let name := r'.takeWhile (· ≠ '}')
          if r'.drop name.length = [] ∨ name.isEmpty then
            .error (escapeFault pos (pos + 2 + (r'.take 1).length + name.length)
              "malformed \\N character escape")
          else
            match Text.charOfName? (String.ofList name) with
            | some ch =>
              (decodeEscapes (pos + 4 + (name.map escapedWidth).foldr (· + ·) 0) (r'.drop (name.length + 1))).map
                (ch :: ·)
            | none =>
              .error (escapeFault pos (pos + 4 + (name.map escapedWidth).foldr (· + ·) 0)
                "unknown Unicode character name")
        | _ => .error (escapeFault pos (pos + 2) "malformed \\N character escape")
      else
        -- a backslash before a character past ASCII is itself spelled as a six-byte escape
        let w := if c.toNat < 0x80 then 2 else 16
        (decodeEscapes (pos + w) r).map (fun t => '\\' :: c :: t)
  | c :: rest => (decodeEscapes (pos + escapedWidth c) rest).map (c :: ·)
termination_by cs => cs.length
decreasing_by all_goals (simp only [List.length_cons, List.length_drop]; omega)

/-- Decode the escapes of a bytes literal body (ASCII only). -/
def decodeByteEscapes : List Char → Except String (List UInt8)
  | [] => .ok []
  | '\\' :: rest =>
    match rest with
    | [] => .ok [92]
    | c :: r =>
      let simple (d : Nat) : Except String (List UInt8) :=
        (decodeByteEscapes r).map (d.toUInt8 :: ·)
      if c = '\n' then decodeByteEscapes r
      else if c = '\\' then simple 92
      else if c = '\'' then simple 39
      else if c = '"' then simple 34
      else if c = 'a' then simple 7
      else if c = 'b' then simple 8
      else if c = 'f' then simple 12
      else if c = 'n' then simple 10
      else if c = 'r' then simple 13
      else if c = 't' then simple 9
      else if c = 'v' then simple 11
      else if '0' ≤ c ∧ c ≤ '7' then
        let more := (r.take 2).takeWhile (fun d => '0' ≤ d ∧ d ≤ '7')
        let v := digitValue 8 (c :: more) % 256
        (decodeByteEscapes (r.drop more.length)).map (v.toUInt8 :: ·)
      else if c = 'x' then
        match hexValue? (r.take 2) with
        | some v =>
          if (r.take 2).length = 2 then (decodeByteEscapes (r.drop 2)).map (v.toUInt8 :: ·)
          else .error "(value error) invalid \\x escape"
        | none => .error "(value error) invalid \\x escape"
      else (decodeByteEscapes r).map (fun t => 92 :: c.toNat.toUInt8 :: t)
  | c :: rest => (decodeByteEscapes rest).map (c.toNat.toUInt8 :: ·)
termination_by cs => cs.length
decreasing_by all_goals (simp only [List.length_cons, List.length_drop]; omega)

/-- A piece of a formatted string before its expressions are parsed. -/
inductive RawPart where
  /-- Literal text, decoded. -/
  | text (s : String)
  /-- A field: the expression's text, the text shown by `=`, the conversion and the
  specification. -/
  | field (expr : List Char) (debugText : Option String) (conv : Option Char)
      (spec : Option (List RawPart))
  deriving Inhabited

/-- Decode literal text of a formatted string: escapes unless raw, a backslash at the end
kept as it is. -/
def decodeFText (raw : Bool) (cs : List Char) : Except String String :=
  if raw then .ok (String.ofList cs)
  else
    match cs.getLast? with
    | some '\\' =>
      if ((cs.reverse.takeWhile (· = '\\')).length) % 2 = 1 then
        (decodeEscapes 0 cs.dropLast).map (fun t => String.ofList (t ++ ['\\']))
      else (decodeEscapes 0 cs).map String.ofList
    | _ => (decodeEscapes 0 cs).map String.ofList

/-- Scan literal text of a formatted string at nesting `level`: the text up to a brace, and
whether a doubled brace was met (then one brace is part of the text and scanning goes on). -/
def scanFText (raw : Bool) (level : Nat) : List Char → List Char × List Char × Bool
  | [] => ([], [], false)
  | c :: rest =>
    if !raw && c = '\\' && !rest.isEmpty then
      match rest with
      | 'N' :: r =>
        match r with
        | '{' :: r' =>
          let name := r'.takeWhile (· ≠ '}')
          let after := (r'.drop name.length).drop 1
          let consumed := '\\' :: 'N' :: '{' :: name ++ (if (r'.drop name.length).isEmpty then []
            else ['}'])
          let (t, s, d) := scanFText raw level after
          (consumed ++ t, s, d)
        | x :: r' =>
          let (t, s, d) := scanFText raw level r'
          ('\\' :: 'N' :: x :: t, s, d)
        | [] => (['\\', 'N'], [], false)
      | d :: r =>
        if d = '{' ∨ d = '}' then
          if level = 0 ∧ r.head? = some d then (['\\', d], r.drop 1, true)
          else (['\\'], d :: r, false)
        else
          let (t, s, dbl) := scanFText raw level r
          ('\\' :: d :: t, s, dbl)
      | [] => (['\\'], [], false)
    else if c = '{' ∨ c = '}' then
      if level = 0 ∧ rest.head? = some c then ([c], rest.drop 1, true)
      else ([], c :: rest, false)
    else
      let (t, s, d) := scanFText raw level rest
      (c :: t, s, d)
termination_by cs => cs.length
decreasing_by all_goals (simp only [List.length_cons, List.length_drop]; omega)

/-- The state of scanning a field's expression. -/
structure ExprScan where
  /-- The expression text so far. -/
  text : List Char := []
  /-- The open brackets, innermost first. -/
  brackets : List Char := []
  /-- The quote of the string being crossed, with its size. -/
  quote : Option (Char × Nat) := none

/-- Scan the expression of a field up to `!`, `:`, `}` or `=` at bracket depth zero (not
parts of `!=`, `==`, `<=`, `>=`): its text, and the text from the terminator on. -/
def scanFExpr (st : ExprScan) : List Char → Except String (List Char × List Char)
  | [] =>
    match st.quote with
    | some _ => .error "f-string: unterminated string"
    | none =>
      match st.brackets with
      | b :: _ => .error ("f-string: unmatched '" ++ b.toString ++ "'")
      | [] => .error "f-string: expecting '\x7d'"
  | c :: rest =>
    if c = '\\' then .error "f-string expression part cannot include a backslash"
    else
      match st.quote with
      | some (q, n) =>
        if c = q then
          if n = 3 then
            if rest.take 2 = [q, q] then
              scanFExpr { st with text := st.text ++ [c, q, q], quote := none } (rest.drop 2)
            else scanFExpr { st with text := st.text ++ [c] } rest
          else scanFExpr { st with text := st.text ++ [c], quote := none } rest
        else scanFExpr { st with text := st.text ++ [c] } rest
      | none =>
        if c = '\'' ∨ c = '"' then
          if rest.take 2 = [c, c] then
            scanFExpr { st with text := st.text ++ [c, c, c], quote := some (c, 3) } (rest.drop 2)
          else scanFExpr { st with text := st.text ++ [c], quote := some (c, 1) } rest
        else if c = '[' ∨ c = '{' ∨ c = '(' then
          if st.brackets.length ≥ 200 then .error "f-string: too many nested parenthesis"
          else scanFExpr { st with text := st.text ++ [c], brackets := c :: st.brackets } rest
        else if c = '#' then .error "f-string expression part cannot include '#'"
        else if st.brackets.isEmpty ∧ (c = '!' ∨ c = ':' ∨ c = '}' ∨ c = '=' ∨ c = '<' ∨
            c = '>') then
          if rest.head? = some '=' ∧ (c = '!' ∨ c = '=' ∨ c = '<' ∨ c = '>') then
            scanFExpr { st with text := st.text ++ [c, '='] } (rest.drop 1)
          else if c = '<' ∨ c = '>' then scanFExpr { st with text := st.text ++ [c] } rest
          else .ok (st.text, c :: rest)
        else if c = ']' ∨ c = '}' ∨ c = ')' then
          match st.brackets with
          | [] => .error ("f-string: unmatched '" ++ c.toString ++ "'")
          | o :: os =>
            if (o = '(' ∧ c = ')') ∨ (o = '[' ∧ c = ']') ∨ (o = '{' ∧ c = '}') then
              scanFExpr { st with text := st.text ++ [c], brackets := os } rest
            else
              .error ("f-string: closing parenthesis '" ++ c.toString ++
                "' does not match opening parenthesis '" ++ o.toString ++ "'")
        else scanFExpr { st with text := st.text ++ [c] } rest
termination_by cs => cs.length
decreasing_by all_goals (simp only [List.length_cons, List.length_drop]; omega)

/-- Whether a character is ignored around an expression. -/
def isExprBlank (c : Char) : Bool := c = ' ' ∨ c = '\t' ∨ c = '\n' ∨ c = '\x0c'

/-- Split the body of a formatted string at nesting `level` (zero for the string, one inside a
format specification) into pieces, with the text left after them: at level one the pieces
end at a closing brace. `fuel` bounds the number of pieces. -/
def splitFString (fuel : Nat) (raw : Bool) (level : Nat) (cs : List Char) :
    Except String (List RawPart × List Char) :=
  match fuel with
  | 0 => .error "f-string: too long"
  | fuel + 1 =>
    let (lit, rest, doubled) := scanFText raw level cs
    let addText (ps : List RawPart) : Except String (List RawPart) :=
      if lit.isEmpty then .ok ps
      else (decodeFText raw lit).map (fun t => .text t :: ps)
    if doubled then do
      let (ps, r) ← splitFString fuel raw level rest
      return (← addText ps, r)
    else
      match rest with
      | '{' :: afterBrace => do
        if level ≥ 2 then throw "f-string: expressions nested too deeply"
        let (expr, r) ← scanFExpr {} afterBrace
        if expr.all isExprBlank then
          match r.head? with
          | some t =>
            if t = '!' ∨ t = ':' ∨ t = '=' then
              throw ("f-string: expression required before '" ++ t.toString ++ "'")
          | none => pure ()
          throw "f-string: empty expression not allowed"
        let (debug, r) :=
          match r with
          | '=' :: r' =>
            let blanks := r'.takeWhile (fun c => c = ' ' ∨ c = '\t' ∨ c = '\n' ∨ c = '\r' ∨
              c = '\x0b' ∨ c = '\x0c')
            (some (String.ofList (expr ++ '=' :: blanks)), r'.drop blanks.length)
          | _ => (none, r)
        if r.isEmpty then throw "f-string: expecting '\x7d'"
        let (conv, r) ← match r with
          | '!' :: c :: r' =>
            if c = 's' ∨ c = 'r' ∨ c = 'a' then pure (some c, r')
            else throw "f-string: invalid conversion character: expected 's', 'r', or 'a'"
          | ['!'] => throw "f-string: expecting '\x7d'"
          | _ => pure (none, r)
        if r.isEmpty then throw "f-string: expecting '\x7d'"
        let (spec, r) ← match r with
          | ':' :: r' =>
            if r'.isEmpty then throw "f-string: expecting '\x7d'"
            else do
              let (sp, r'') ← splitFString fuel raw (level + 1) r'
              pure (some sp, r'')
          | _ => pure (none, r)
        match r with
        | '}' :: r' =>
          let (ps, r'') ← splitFString fuel raw level r'
          return (← addText (.field expr debug conv spec :: ps), r'')
        | _ => throw "f-string: expecting '\x7d'"
      | _ =>
        if level > 0 && rest.head? ≠ some '}' then throw "f-string: expecting '\x7d'"
        else if level = 0 && !rest.isEmpty then throw "f-string: single '\x7d' is not allowed"
        else return (← addText [], rest)

end StubDoctest.Source
