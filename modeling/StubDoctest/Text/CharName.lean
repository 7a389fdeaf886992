import StubDoctest.Text.CharNameData

/-!
# Characters by name

The character a name of the Unicode standard denotes, as a string escape accepts it: a name
of the name table or an alias, compared without regard to the case of ASCII letters; or a
name of a family made from the code point. Ideographs and Hangul syllables must be written in
capitals exactly; compatibility ideographs, Khitan and Nushu characters may take any case.
-/

namespace StubDoctest.Text

/-- The position of a character in the code alphabet. -/
def codeDigit (c : Char) : Option Nat :=
  if '0' ≤ c ∧ c ≤ '9' then some (c.toNat - '0'.toNat)
  else if 'A' ≤ c ∧ c ≤ 'Z' then some (c.toNat - 'A'.toNat + 10)
  else if 'a' ≤ c ∧ c ≤ 'z' then some (c.toNat - 'a'.toNat + 36)
  else if c = '#' then some 62
  else if c = '&' then some 63
  else none

/-- The word indices of a name written in word codes. -/
def wordIndices : List Char → List Nat
  | a :: rest =>
    let da := (codeDigit a).getD 0
    if da < 40 then da :: wordIndices rest
    else if da < 60 then
      match rest with
      | b :: rest' => (40 + (da - 40) * 64 + (codeDigit b).getD 0) :: wordIndices rest'
      | [] => []
    else
      match rest with
      | b :: c :: rest' =>
        (1320 + (da - 60) * 4096 + (codeDigit b).getD 0 * 64 + (codeDigit c).getD 0) ::
          wordIndices rest'
      | _ => []
  | [] => []

/-- The words of names, in the order of their indices. -/
def nameWordArray : Array String := (nameWords.splitOn " ").toArray

/-- The index of a word of names, if it is one. -/
def wordIndex? (w : String) : Option Nat := nameWordArray.findIdx? (· == w)

/-- ASCII letters made capitals. -/
def asciiUpper (s : String) : String := s.map Char.toUpper

/-- The code point of the name whose word indices are `q`, searching the name table. -/
def tableCode? (q : List Nat) : Option Nat :=
  let step := fun (acc : Nat × Option Nat) (tok : String) =>
    match acc.2 with
    | some _ => acc
    | none =>
      match tok.toList with
      | '!' :: hex =>
        (hex.foldl (fun n c => n * 16 + (if '0' ≤ c ∧ c ≤ '9' then c.toNat - 48
          else c.toNat - 87)) 0, none)
      | cs => if wordIndices cs == q then (acc.1, some acc.1) else (acc.1 + 1, none)
  ((nameText.splitOn " ").foldl step (0, none)).2

/-- The code point of an alias. -/
def aliasCode? (name : String) : Option Nat :=
  let key := name.map fun c => if c = ' ' then '_' else c
  (aliasText.splitOn " ").findSome? fun e =>
    match e.splitOn "=" with
    | [hex, n] =>
      if n == key then
        some (hex.foldl (fun v c => v * 16 + (if '0' ≤ c ∧ c ≤ '9' then c.toNat - 48
          else c.toNat - 87)) 0)
      else none
    | _ => none

/-- The value of upper-case hexadecimal digits. -/
def upperHexValue? (s : String) : Option Nat :=
  s.foldl (fun acc c => acc.bind fun v =>
    if '0' ≤ c ∧ c ≤ '9' then some (v * 16 + c.toNat - 48)
    else if 'A' ≤ c ∧ c ≤ 'F' then some (v * 16 + c.toNat - 55)
    else none) (if s.isEmpty then none else some 0)

/-- Upper-case hexadecimal of a code point, at least four digits. -/
def upperHex (n : Nat) : String :=
  let ds := (Nat.toDigits 16 n).map Char.toUpper
  String.ofList (List.replicate (4 - ds.length) '0' ++ ds)

/-- The ranges of unified ideographs. -/
def ideographRanges : List (Nat × Nat) :=
  [(0x3400, 0x4dbf), (0x4e00, 0x9fff), (0x20000, 0x2a6df), (0x2a700, 0x2b738),
    (0x2b740, 0x2b81d), (0x2b820, 0x2cea1), (0x2ceb0, 0x2ebe0), (0x30000, 0x3134a)]

/-- The families named by a prefix and the code point, with their ranges. -/
def codeFamilies : List (String × List (Nat × Nat)) :=
  [("CJK COMPATIBILITY IDEOGRAPH-", [(0xf900, 0xfa6d), (0xfa70, 0xfad9), (0x2f800, 0x2fa1d)]),
    ("KHITAN SMALL SCRIPT CHARACTER-", [(0x18b00, 0x18cd5)]),
    ("NUSHU CHARACTER-", [(0x1b170, 0x1b2fb)])]

/-- Whether a code point lies in one of the ranges. -/
def inRanges (rs : List (Nat × Nat)) (n : Nat) : Bool := rs.any fun r => r.1 ≤ n && n ≤ r.2

/-- The code point a family name denotes, the name compared as given. -/
def familyCode? (rs : List (Nat × Nat)) (pre name : String) : Option Nat :=
  if pre.isPrefixOf name then
    let hex := String.ofList (name.toList.drop pre.length)
    match upperHexValue? hex with
    | some v => if inRanges rs v && upperHex v == hex then some v else none
    | none => none
  else none

/-- The code point of a unified ideograph name: the prefix in capitals, then four or five
upper-case hexadecimal digits of a code point in the ideograph ranges. -/
def ideographCode? (name : String) : Option Nat :=
  let pre := "CJK UNIFIED IDEOGRAPH-"
  if pre.isPrefixOf name then
    let hex := String.ofList (name.toList.drop pre.length)
    if hex.length = 4 ∨ hex.length = 5 then
      (upperHexValue? hex).bind fun v => if inRanges ideographRanges v then some v else none
    else none
  else none

/-- The short names of leading consonants, vowels and trailing consonants of Hangul. -/
def jamoNames : List (List String) :=
  [["G", "GG", "N", "D", "DD", "R", "M", "B", "BB", "S", "SS", "", "J", "JJ", "C", "K", "T",
      "P", "H"],
    ["A", "AE", "YA", "YAE", "EO", "E", "YEO", "YE", "O", "WA", "WAE", "OE", "YO", "U", "WEO",
      "WE", "WI", "YU", "EU", "YI", "I"],
    ["", "G", "GG", "GS", "N", "NJ", "NH", "D", "L", "LG", "LM", "LB", "LS", "LT", "LP", "LH",
      "M", "B", "BS", "S", "SS", "NG", "J", "C", "K", "T", "P", "H"]]

/-- The longest short name of a column that starts `cs`: its index and length. -/
def longestJamo (names : List String) (cs : List Char) : Option (Nat × Nat) :=
  (names.zipIdx).foldl (fun best (n, i) =>
    let l := n.length
    if n.toList.isPrefixOf cs then
      match best with
      | some (_, bl) => if l > bl then some (i, l) else best
      | none => some (i, l)
    else best) none

/-- The code point of a Hangul syllable name, written in capitals. -/
def syllableCode? (name : String) : Option Nat :=
  let pre := "HANGUL SYLLABLE "
  if pre.isPrefixOf name then
    let cs := name.toList.drop pre.length
    match jamoNames with
    | [ls, vs, ts] =>
      match longestJamo ls cs with
      | some (l, n1) =>
        match longestJamo vs (cs.drop n1) with
        | some (v, n2) =>
          match longestJamo ts ((cs.drop n1).drop n2) with
          | some (t, n3) =>
            if n1 + n2 + n3 = cs.length then some (0xAC00 + (l * 21 + v) * 28 + t) else none
          | none => none
        | none => none
      | none => none
    | _ => none
  else none

/-- The character a name denotes in a string escape, if any. -/
def charOfName? (name : String) : Option Char :=
  let up := asciiUpper name
  let code : Option Nat :=
    match syllableCode? name with
    | some c => some c
    | none =>
      match ideographCode? name with
      | some c => some c
      | none =>
        match codeFamilies.findSome? (fun (pre, rs) => familyCode? rs pre up) with
        | some c => some c
        | none =>
          let ws := up.splitOn " "
          let idx := ws.mapM wordIndex?
          match idx.bind tableCode? with
          | some c => some c
          | none => aliasCode? up
  code.map Char.ofNat

end StubDoctest.Text
