import StubDoctest.Text.CaseData

/-!
# Letter case

The full case mappings of the Unicode standard: a character's upper, lower, title case and
case folding may be several characters (`ß` is `SS` in upper case, `İ` is `i̇` in lower case).
Lower case puts a capital sigma in its final form `ς` when a cased character stands before it
and none after it, case-ignorable characters between them skipped; otherwise it is `σ`.

Text is lower case when it has a lower-case character and no upper-case or title-case one,
upper case when it has an upper-case character and no lower-case or title-case one, and title
case when every upper-case or title-case character follows an uncased one and every lower-case
character follows a cased one, with at least one cased character.

Digits, numeric characters and letters are read off their tables; a decimal digit's value is
its place in its run of ten.
-/

namespace StubDoctest.Text

/-- One entry of a case mapping: the code points from `first` to `last` taken every `step`
apart, each mapped to `image` shifted by its distance from `first`; an entry of one code point
maps it to all of `image`. -/
structure CaseRun where
  /-- The first code point the entry maps. -/
  first : Nat
  /-- The last code point the entry maps. -/
  last : Nat
  /-- The distance between the code points it maps. -/
  step : Nat
  /-- The image of the first code point. -/
  image : List Nat

/-- The entries of a case mapping written in the form of the data module. -/
def caseRuns (s : String) : Array CaseRun :=
  let step := fun (acc : Nat × Array CaseRun) (e : String) =>
    let ns := RangeTable.hexNumbers (e.map fun c =>
      if c = '*' ∨ c = '/' ∨ c = ':' ∨ c = '.' then ' ' else c)
    match ns with
    | gap :: rest =>
      let first := acc.1 + gap
      let n := rest.headD 1
      if e.contains '*' then (first + n, acc.2.push ⟨first, first + n - 1, 1, rest.drop 1⟩)
      else if e.contains '/' then
        (first + 2 * (n - 1) + 1, acc.2.push ⟨first, first + 2 * (n - 1), 2, rest.drop 1⟩)
      else (first + 1, acc.2.push ⟨first, first, 1, rest⟩)
    | [] => acc
  (((s.splitOn " ").filter (!·.isEmpty)).foldl step (0, #[])).2

/-- The image of a code point under a case mapping, when the mapping moves it. -/
def caseImage (runs : Array CaseRun) (c : Nat) : Option (List Nat) :=
  match RangeTable.search runs (·.first) (·.last) c with
  | some r =>
    let k := c - r.first
    if r.first = r.last then some r.image
    else if k % r.step = 0 then some (r.image.map (· + k))
    else none
  | none => none

/-- The upper-case mapping. -/
def upperRuns : Array CaseRun := caseRuns upperText

/-- The lower-case mapping. -/
def lowerRuns : Array CaseRun := caseRuns lowerText

/-- The title-case mapping. -/
def titleRuns : Array CaseRun := caseRuns titleText

/-- The case folding. -/
def foldRuns : Array CaseRun := caseRuns foldText

/-- A character under a case mapping, as text. -/
def mapCase (runs : Array CaseRun) (c : Char) : List Char :=
  match caseImage runs c.toNat with
  | some ns => ns.map Char.ofNat
  | none => [c]

/-- Whether a character is lower case. -/
def isLowerChar (c : Char) : Bool := lowercaseTable.has c

/-- Whether a character is upper case. -/
def isUpperChar (c : Char) : Bool := uppercaseTable.has c

/-- Whether a character is a title-case letter. -/
def isTitleChar (c : Char) : Bool := titlecaseTable.has c

/-- Whether a character has a case. -/
def isCased (c : Char) : Bool := casedTable.has c

/-- Whether a character is skipped when the context of a capital sigma is looked at. -/
def isCaseIgnorable (c : Char) : Bool := caseIgnorableTable.has c

/-- The upper case of a character, as text. -/
def upperChars (c : Char) : List Char := mapCase upperRuns c

/-- The lower case of an ASCII letter; every other character is kept. -/
def asciiLower (c : Char) : Char :=
  if 'A' ≤ c ∧ c ≤ 'Z' then Char.ofNat (c.toNat + 32) else c

/-- The lower case of a character out of context, as text. Within ASCII only the letters
change, so the table is not searched there. -/
def lowerChars (c : Char) : List Char :=
  if c.toNat < 128 then [asciiLower c] else mapCase lowerRuns c

/-- The title case of a character, as text. -/
def titleChars (c : Char) : List Char := mapCase titleRuns c

/-- The case folding of a character, as text. -/
def foldChars (c : Char) : List Char := mapCase foldRuns c

/-- Whether a capital sigma between `before` (nearest first) and `after` is final: a cased
character precedes it and none follows it, case-ignorable characters skipped. -/
def sigmaIsFinal (before after : List Char) : Bool :=
  (match before.dropWhile isCaseIgnorable with
    | c :: _ => isCased c
    | [] => false) &&
  (match after.dropWhile isCaseIgnorable with
    | c :: _ => !isCased c
    | [] => true)

/-- The lower case of a character between `before` (nearest first) and `after`. -/
def lowerInContext (before : List Char) (c : Char) (after : List Char) : List Char :=
  if c.toNat = 0x3a3 then [if sigmaIsFinal before after then 'ς' else 'σ'] else lowerChars c

/-- Each character of `cs` mapped with its context: `f before c after`, with `before` the
characters before it, nearest first. -/
def mapInContext (f : List Char → Char → List Char → List Char) : List Char → List Char →
    List Char
  | _, [] => []
  | before, c :: rest => f before c rest ++ mapInContext f (c :: before) rest

/-- Text in upper case. -/
def upper (s : String) : String := String.ofList (s.toList.flatMap upperChars)

/-- Text in lower case. -/
def lower (s : String) : String := String.ofList (mapInContext lowerInContext [] s.toList)

/-- Text case-folded, for caseless comparison. -/
def casefold (s : String) : String := String.ofList (s.toList.flatMap foldChars)

/-- Text with upper-case characters in lower case and lower-case ones in upper case. -/
def swapCase (s : String) : String :=
  String.ofList (mapInContext (fun before c after =>
    if isUpperChar c then lowerInContext before c after
    else if isLowerChar c then upperChars c else [c]) [] s.toList)

/-- Text with its first character in title case and the rest in lower case. -/
def capitalize (s : String) : String :=
  match s.toList with
  | [] => ""
  | c :: cs => String.ofList (titleChars c ++ mapInContext lowerInContext [c] cs)

/-- Text with each character in title case after an uncased one and in lower case after a
cased one. -/
def title (s : String) : String :=
  String.ofList (mapInContext (fun before c after =>
    match before with
    | b :: _ => if isCased b then lowerInContext before c after else titleChars c
    | [] => titleChars c) [] s.toList)

/-- Whether text has a lower-case character and no upper-case or title-case one. -/
def isLowerText (s : String) : Bool :=
  s.toList.any isLowerChar && !s.toList.any (fun c => isUpperChar c || isTitleChar c)

/-- Whether text has an upper-case character and no lower-case or title-case one. -/
def isUpperText (s : String) : Bool :=
  s.toList.any isUpperChar && !s.toList.any (fun c => isLowerChar c || isTitleChar c)

/-- Whether text is in title case: upper-case and title-case characters only after uncased
ones, lower-case only after cased ones, and at least one cased character. -/
def isTitleText (s : String) : Bool :=
  let step (acc : Bool × Bool × Bool) (c : Char) : Bool × Bool × Bool :=
    let (ok, prevCased, seen) := acc
    if isUpperChar c || isTitleChar c then (ok && !prevCased, true, true)
    else if isLowerChar c then (ok && prevCased, true, true)
    else (ok, false, seen)
  let (ok, _, seen) := s.toList.foldl step (true, false, false)
  ok && seen

/-- Whether a character is a decimal digit. -/
def isDecimalChar (c : Char) : Bool := decimalTable.has c

/-- The value of a decimal digit: its place in its run of ten. -/
def decimalValue (c : Char) : Nat :=
  match RangeTable.search decimalTable.bounds (·.1) (·.2) c.toNat with
  | some r => (c.toNat - r.1) % 10
  | none => 0

/-- Whether a character is a digit: a decimal digit or another character with a digit value. -/
def isDigitChar (c : Char) : Bool := digitTable.has c

/-- Whether a character is numeric. -/
def isNumericChar (c : Char) : Bool := numericTable.has c

/-- Whether a character is a letter. -/
def isAlphaChar (c : Char) : Bool := alphaTable.has c

end StubDoctest.Text
