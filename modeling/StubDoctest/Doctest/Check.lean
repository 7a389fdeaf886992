import StubDoctest.Example.Basic

/-!
# Comparing output with the expected output

Both texts are first written in ASCII, characters beyond it as `\xNN`, `\uNNNN` or
`\UNNNNNNNN`. They then agree when they are equal; or (unless switched off) when they are
`True` against `1` or `False` against `0`; or (unless switched off) when, after removing each
`<BLANKLINE>` that starts a line and is followed only by blanks up to the line's end from the
expected text, and emptying the lines of only blanks of the output, they are equal. With
`NORMALIZE_WHITESPACE` runs of blanks count as one space; with `ELLIPSIS` each `...` in the
expected text stands for any text, the pieces between matched leftmost and in order, the first
and last pieces at the ends.

For exceptions compared without detail, only the last dotted part of the exception's name
before the first colon of the first line counts.
-/

namespace StubDoctest.Check

/-- The lower-case hexadecimal digits of a number, padded to a width. -/
def hexWidth (width n : Nat) : List Char :=
  let ds := Nat.toDigits 16 n
  List.replicate (width - ds.length) '0' ++ ds

/-- A text in ASCII, with escapes for the characters beyond it. -/
def toAscii (cs : List Char) : List Char :=
  cs.flatMap fun c =>
    let n := c.toNat
    if n < 128 then [c]
    else if n < 256 then '\\' :: 'x' :: hexWidth 2 n
    else if n < 0x10000 then '\\' :: 'u' :: hexWidth 4 n
    else '\\' :: 'U' :: hexWidth 8 n

/-- Whether a character is a blank of the ASCII range as patterns see it. -/
def isSpaceChar (c : Char) : Bool :=
  let n := c.toNat
  (9 ≤ n ∧ n ≤ 13) || (0x1c ≤ n ∧ n ≤ 0x20)

/-- The lines of a text, the last one possibly empty. -/
def linesOf (cs : List Char) : List (List Char) := cs.splitOn '\n'

/-- Lines joined by line breaks. -/
def unlines (ls : List (List Char)) : List Char := List.intercalate ['\n'] ls

/-- The marker of an empty line in expected output. -/
def blankMarker : List Char := "<BLANKLINE>".toList

/-- A line without a leading marker followed only by blanks. -/
def dropMarker (l : List Char) : List Char :=
  if blankMarker.isPrefixOf l && (l.drop blankMarker.length).all (fun c => isSpaceChar c && c ≠ '\n')
  then [] else l

/-- A line emptied when it holds only blanks. -/
def dropBlankLine (l : List Char) : List Char :=
  if !l.isEmpty && l.all (fun c => isSpaceChar c && c ≠ '\n') then [] else l

/-- The blank-separated words of a text joined by single spaces. -/
def normalizeBlanks (cs : List Char) : List Char :=
  let rec words (fuel : Nat) (cs : List Char) : List (List Char) :=
    match fuel with
    | 0 => []
    | fuel + 1 =>
      let cs := cs.dropWhile isSpaceChar
      if cs.isEmpty then []
      else
        let w := cs.takeWhile (!isSpaceChar ·)
        w :: words fuel (cs.drop w.length)
  List.intercalate [' '] (words (cs.length + 1) cs)

/-- The first position of `needle` in `hay` between `start` and `stop`. -/
def findBetween (hay needle : List Char) (start stop : Nat) : Option Nat :=
  let window := (hay.take stop).drop start
  if needle.length > window.length then none
  else (List.range (window.length - needle.length + 1)).find? (fun i =>
    needle.isPrefixOf (window.drop i)) |>.map (· + start)

/-- The pieces of a text between the markers `...`. -/
def ellipsisPieces (cs : List Char) : List (List Char) :=
  let rec go (fuel : Nat) (acc : List Char) (cs : List Char) : List (List Char) :=
    match fuel with
    | 0 => [acc.reverse ++ cs]
    | fuel + 1 =>
      match cs with
      | [] => [acc.reverse]
      | '.' :: '.' :: '.' :: rest => acc.reverse :: go fuel [] rest
      | c :: rest => go fuel (c :: acc) rest
  go (cs.length + 1) [] cs

/-- Whether output matches expected output where `...` stands for any text. -/
def ellipsisMatch (want got : List Char) : Bool :=
  let ws := ellipsisPieces want
  if ws.length < 2 then want == got
  else
    let first := ws.headD []
    if !first.isPrefixOf got then false
    else
      let start := first.length
      let ws := ws.drop 1
      let last := ws.getLastD []
      if !last.isEmpty && !(last.reverse.isPrefixOf got.reverse) then false
      else
        let stop := got.length - last.length
        let ws := if last.isEmpty then ws else ws.dropLast
        if start > stop then false
        else
          let rec scan (ws : List (List Char)) (pos : Nat) : Bool :=
            match ws with
            | [] => true
            | w :: rest =>
              match findBetween got w pos stop with
              | some p => scan rest (p + w.length)
              | none => false
          scan ws start

/-- The setting of a flag among the effective options. -/
def Flags := List (Flag × Bool)

/-- Whether a flag is on. -/
def isOn (flags : Flags) (f : Flag) : Bool := ((flags.find? (·.1 == f)).map (·.2)).getD false

/-- Whether output agrees with the expected output under the flags. -/
def outputMatches (flags : Flags) (want got : String) : Bool :=
  let got := toAscii got.toList
  let want := toAscii want.toList
  if got == want then true
  else if !isOn flags .dontAcceptTrueFor1 &&
      ((got == "True\n".toList && want == "1\n".toList) ||
        (got == "False\n".toList && want == "0\n".toList)) then true
  else
    let (want, got, agree) :=
      if !isOn flags .dontAcceptBlankline then
        let want' := unlines ((linesOf want).map dropMarker)
        let got' := unlines ((linesOf got).map dropBlankLine)
        (want', got', want' == got')
      else (want, got, false)
    if agree then true
    else
      let (want, got, agree) :=
        if isOn flags .normalizeWhitespace then
          let w := normalizeBlanks want
          let g := normalizeBlanks got
          (w, g, w == g)
        else (want, got, false)
      if agree then true
      else isOn flags .ellipsis && ellipsisMatch want got

/-- The name of an exception in a message, without its module path or detail. -/
def stripDetails (msg : String) : String :=
  let cs := msg.toList
  let firstLine := cs.takeWhile (· ≠ '\n')
  let name := firstLine.takeWhile (· ≠ ':')
  let lastDot := (List.range name.length).reverse.find? fun i => name[i]? == some '.'
  String.ofList (match lastDot with
    | some i => name.drop (i + 1)
    | none => name)

end StubDoctest.Check
