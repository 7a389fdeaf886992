import StubDoctest.Exec.Access

/-!
# Formatting values

A format specification reads `[[fill]align][sign][z][#][0][width][,|_][.precision][type]`.
Strings pad and truncate; integers write in base 2, 8, 10 or 16 with an optional prefix and
digit groups of three (four for the bases other than ten); floats write in fixed, scientific or
general notation, rounded from their exact binary value half to even, or in their shortest form
when neither type nor precision is given.

The same rules serve formatted strings, the `format` function and `str.format`; the older
`%` operator on strings has its own conversion letters.
-/

namespace StubDoctest.Exec

open StubDoctest.Number

/-- A parsed format specification. -/
structure FormatSpec where
  /-- The fill character. -/
  fill : Char := ' '
  /-- The alignment: `<`, `>`, `^` or `=`. -/
  align : Option Char := none
  /-- The sign option: `+`, `-` or a space. -/
  sign : Option Char := none
  /-- Whether negative zero is written as zero. -/
  noNegZero : Bool := false
  /-- Whether the alternate form is asked for. -/
  alternate : Bool := false
  /-- Whether zeros pad after the sign. -/
  zeroPad : Bool := false
  /-- The least width. -/
  width : Option Nat := none
  /-- The separator of digit groups. -/
  grouping : Option Char := none
  /-- The precision. -/
  precision : Option Nat := none
  /-- The presentation type. -/
  kind : Option Char := none
  deriving Inhabited

/-- Whether a character is an alignment. -/
def isAlignChar (c : Char) : Bool := c = '<' || c = '>' || c = '^' || c = '='

/-- Decimal digits at the head of a list, with their value. -/
def readDigits (cs : List Char) : Option Nat × List Char :=
  let ds := cs.takeWhile Char.isDigit
  if ds.isEmpty then (none, cs)
  else (some (ds.foldl (fun n c => n * 10 + (c.toNat - '0'.toNat)) 0), cs.drop ds.length)

/-- Parse a format specification, or give the fault's message. -/
def parseSpec (s : String) : Except String FormatSpec := do
  let cs := s.toList
  let (fill, align, cs) :=
    match cs with
    | f :: a :: rest => if isAlignChar a then (some f, some a, rest)
      else if isAlignChar f then (none, some f, a :: rest) else (none, none, cs)
    | [a] => if isAlignChar a then (none, some a, []) else (none, none, cs)
    | [] => (none, none, [])
  let (sign, cs) := match cs with
    | c :: rest => if c = '+' || c = '-' || c = ' ' then (some c, rest) else (none, cs)
    | [] => (none, cs)
  let (noNegZero, cs) := match cs with
    | 'z' :: rest => (true, rest)
    | _ => (false, cs)
  let (alternate, cs) := match cs with
    | '#' :: rest => (true, rest)
    | _ => (false, cs)
  let (zeroPad, cs) := match fill, cs with
    | none, '0' :: rest => (true, rest)
    | _, _ => (false, cs)
  let (width, cs) := readDigits cs
  let (grouping, cs) ← match cs with
    | ',' :: '_' :: _ => throw "Cannot specify both ',' and '_'."
    | '_' :: ',' :: _ => throw "Cannot specify both ',' and '_'."
    | ',' :: rest => pure (some ',', rest)
    | '_' :: rest => pure (some '_', rest)
    | _ => pure (none, cs)
  let (precision, cs) ← match cs with
    | '.' :: rest =>
      match readDigits rest with
      | (some p, rest') => pure (some p, rest')
      | (none, _) => throw "Format specifier missing precision"
    | _ => pure (none, cs)
  let kind ← match cs with
    | [] => pure none
    | [c] => pure (some c)
    | _ => throw "Invalid format specifier"
  match grouping with
  | some g =>
    let k := kind.getD ' '
    let allowed := kind.isNone || "defgEG%F".toList.contains k ||
      (g = '_' && "boxX".toList.contains k)
    if !allowed then
      throw ("Cannot specify '" ++ g.toString ++ "' with '" ++ k.toString ++ "'.")
  | none => pure ()
  return {
    fill := fill.getD (if zeroPad then '0' else ' '), align := align, sign := sign,
    noNegZero := noNegZero, alternate := alternate, zeroPad := zeroPad, width := width,
    grouping := grouping, precision := precision, kind := kind }

/-- Text padded to the width of a specification; `defaultAlign` applies when none is given. -/
def pad (spec : FormatSpec) (defaultAlign : Char) (body : String) : String :=
  let w := spec.width.getD 0
  let n := body.length
  if w ≤ n then body
  else
    let total := w - n
    let fillStr (k : Nat) := String.ofList (List.replicate k spec.fill)
    match spec.align.getD defaultAlign with
    | '>' => fillStr total ++ body
    | '^' => fillStr (total / 2) ++ body ++ fillStr (total - total / 2)
    | _ => body ++ fillStr total

/-- Digits with a separator between groups of `size`, counted from the right. -/
def groupDigits (sep : Char) (size : Nat) (ds : List Char) : List Char :=
  let rec go (fuel : Nat) (rev : List Char) : List Char :=
    match fuel with
    | 0 => rev
    | fuel + 1 =>
      if rev.length ≤ size then rev
      else rev.take size ++ sep :: go fuel (rev.drop size)
  (go ds.length ds.reverse).reverse

/-- Digits grouped and padded with zeros to at least `minWidth` characters, the separators
counting. -/
def groupPadded (sep : Option Char) (size : Nat) (ds : List Char) (minWidth : Nat) : List Char :=
  match sep with
  | none => List.replicate (minWidth - ds.length) '0' ++ ds
  | some s =>
    let rec widen (fuel : Nat) (ds : List Char) : List Char :=
      match fuel with
      | 0 => groupDigits s size ds
      | fuel + 1 =>
        let g := groupDigits s size ds
        if g.length ≥ minWidth then g
        else widen fuel ('0' :: ds)
    let g := widen (minWidth + 1) ds
    -- A leading separator is dropped by widening once more.
    match g with
    | c :: rest => if c = s then '0' :: rest else g
    | [] => g

/-- Assemble a number's text: sign, prefix and digits (grouped in `size`), padding by the
specification; `frac` is the part after the integer digits. -/
def assembleNumber (spec : FormatSpec) (neg : Bool) (prefixText : String) (intDigits : List Char)
    (size : Nat) (frac : String) : String :=
  let signText := if neg then "-" else match spec.sign with
    | some '+' => "+"
    | some ' ' => " "
    | _ => ""
  let lead := signText ++ prefixText
  let align := spec.align.getD (if spec.zeroPad then '=' else '>')
  if align = '=' then
    let w := spec.width.getD 0
    let need := if w > lead.length + frac.length then w - lead.length - frac.length else 0
    let digits := if spec.fill = '0' then groupPadded spec.grouping size intDigits need
      else
        let g := match spec.grouping with
          | some s => groupDigits s size intDigits
          | none => intDigits
        List.replicate (need - g.length) spec.fill ++ g
    lead ++ String.ofList digits ++ frac
  else
    let g := match spec.grouping with
      | some s => groupDigits s size intDigits
      | none => intDigits
    pad { spec with align := some align } '>' (lead ++ String.ofList g ++ frac)

/-- Digits of a natural number in a base, lower case. -/
def baseDigits (base : Nat) (n : Nat) : List Char := Nat.toDigits base n

/-- Format an integer by a specification. -/
def formatIntSpec (spec : FormatSpec) (n : Int) : Except String String := do
  if spec.precision.isSome then throw "Precision not allowed in integer format specifier"
  let k := spec.kind.getD 'd'
  match k with
  | 'c' =>
    if spec.sign.isSome then throw "Sign not allowed with integer format specifier 'c'"
    if spec.alternate then throw "Alternate form (#) not allowed with integer format specifier 'c'"
    return pad spec '<' (Char.ofNat n.toNat).toString
  | _ =>
    let (base, pre, upper) : Nat × String × Bool := match k with
      | 'b' => (2, "0b", false)
      | 'o' => (8, "0o", false)
      | 'x' => (16, "0x", false)
      | 'X' => (16, "0X", true)
      | _ => (10, "", false)
    if !("bdoxXn".toList.contains k) then
      throw ("Unknown format code '" ++ k.toString ++ "' for object of type 'int'")
    let ds := baseDigits base n.natAbs
    let ds := if upper then ds.map Char.toUpper else ds
    let size := if base = 10 then 3 else 4
    return assembleNumber spec (n < 0) (if spec.alternate then pre else "") ds size ""

/-- `|x| · 10^p` rounded half to even, for the finite value `m · 2^e`. -/
def scaledRound (m : Nat) (e : Int) (p : Int) : Nat :=
  let num := m * (if e ≥ 0 then 2 ^ e.toNat else 1) * (if p ≥ 0 then 10 ^ p.toNat else 1)
  let den := (if e < 0 then 2 ^ (-e).toNat else 1) * (if p < 0 then 10 ^ (-p).toNat else 1)
  roundHalfEven num den

/-- Digits of `n` with at least `k` of them. -/
def digitsAtLeast (n k : Nat) : List Char :=
  let ds := Nat.toDigits 10 n
  List.replicate (k - ds.length) '0' ++ ds

/-- Fixed notation with `p` decimals: integer digits and the fraction with its point. -/
def fixedParts (m : Nat) (e : Int) (p : Nat) (alternate : Bool) : List Char × String :=
  let n := scaledRound m e p
  let ds := digitsAtLeast n (p + 1)
  let intPart := ds.take (ds.length - p)
  let fracPart := ds.drop (ds.length - p)
  (intPart, if p = 0 then (if alternate then "." else "") else "." ++ String.ofList fracPart)

/-- The decimal exponent of the finite nonzero value `m · 2^e` rounded to `p + 1`
significant digits, with those digits. -/
def roundedDigits (m : Nat) (e : Int) (p : Nat) : Int × List Char :=
  let d := decimalExponent (Ratio.ofBinary m e)
  let n := scaledRound m e ((p : Int) - d)
  if n ≥ 10 ^ (p + 1) then (d + 1, digitsAtLeast (scaledRound m e ((p : Int) - d - 1)) (p + 1))
  else (d, digitsAtLeast n (p + 1))

/-- Scientific notation with `p` decimals: the leading digit and the rest with exponent. -/
def expParts (m : Nat) (e : Int) (p : Nat) (alternate upper : Bool) : List Char × String :=
  let (d, ds) := if m = 0 then ((0 : Int), List.replicate (p + 1) '0') else roundedDigits m e p
  let lead := ds.take 1
  let rest := ds.drop 1
  let point := if p = 0 then (if alternate then "." else "") else "." ++ String.ofList rest
  (lead, point ++ (if upper then "E" else "e") ++ exponentText d)

/-- Drop trailing zeros of a fraction, and its point when nothing follows it. -/
def trimFraction (frac : String) : String :=
  let cs := frac.toList
  let trimmed := (cs.reverse.dropWhile (· = '0')).reverse
  if trimmed = ['.'] then "" else String.ofList trimmed

/-- General notation with `p` significant digits. -/
def generalParts (m : Nat) (e : Int) (p : Nat) (alternate upper : Bool) : List Char × String :=
  let p := if p = 0 then 1 else p
  let x : Int := if m = 0 then 0 else (roundedDigits m e (p - 1)).1
  if -4 ≤ x ∧ x < p then
    let (i, f) := fixedParts m e (p - 1 - x).toNat alternate
    (i, if alternate then f else trimFraction f)
  else
    let (l, r) := expParts m e (p - 1) alternate upper
    -- The fraction of the mantissa loses its zeros, the exponent stays.
    let parts := r.splitOn (if upper then "E" else "e")
    match parts with
    | [frac, ex] =>
      (l, (if alternate then frac else trimFraction frac) ++ (if upper then "E" else "e") ++ ex)
    | _ => (l, r)

/-- Format a float by a specification. -/
def formatFloatSpec (spec : FormatSpec) (x : Float) : Except String String := do
  let k := spec.kind
  if let some c := k then
    if !("eEfFgGn%".toList.contains c) then
      throw ("Unknown format code '" ++ c.toString ++ "' for object of type 'float'")
  let upper := k == some 'E' || k == some 'F' || k == some 'G'
  match decode x with
  | .nan =>
    return assembleNumber { spec with grouping := none } false "" [] 3 (if upper then "NAN" else "nan")
  | .inf neg =>
    let t := if upper then "INF" else "inf"
    return assembleNumber { spec with grouping := none } neg "" [] 3 t
  | .finite neg m e =>
    let neg := neg && !(spec.noNegZero && (match k with
      | some 'f' | some 'F' | some '%' => scaledRound m e (spec.precision.getD 6 + (if k == some '%' then 2 else 0)) = 0
      | _ => m = 0))
    let (intDigits, frac) : List Char × String :=
      match k with
      | some 'f' | some 'F' => fixedParts m e (spec.precision.getD 6) spec.alternate
      | some '%' =>
        let (i, f) := fixedParts (m * 100) e (spec.precision.getD 6) spec.alternate
        (i, f ++ "%")
      | some 'e' | some 'E' => expParts m e (spec.precision.getD 6) spec.alternate upper
      | some 'g' | some 'G' | some 'n' => generalParts m e (spec.precision.getD 6) spec.alternate upper
      | _ =>
        match spec.precision with
        | some p =>
          let (i, f) := generalParts m e p spec.alternate false
          (i, if (f.splitOn ".").length > 1 || (f.splitOn "e").length > 1 then f else f ++ ".0")
        | none =>
          -- The shortest text, split into integer digits and the rest.
          let t := floatText (if neg then -x else x)
          let t := if t.startsWith "-" then String.ofList (t.toList.drop 1) else t
          let ds := t.toList.takeWhile Char.isDigit
          (ds, String.ofList (t.toList.drop ds.length))
    return assembleNumber spec neg "" intDigits 3 frac

/-- Format a string by a specification. -/
def formatStrSpec (spec : FormatSpec) (s : String) : Except String String := do
  if let some c := spec.kind then
    if c != 's' then throw ("Unknown format code '" ++ c.toString ++ "' for object of type 'str'")
  if spec.sign.isSome then throw "Sign not allowed in string format specifier"
  if spec.noNegZero then throw "Negative zero coercion (z) not allowed in format specifier"
  if spec.alternate then throw "Alternate form (#) not allowed in string format specifier"
  if spec.align == some '=' then throw "'=' alignment not allowed in string format specifier"
  let body := match spec.precision with
    | some p => String.ofList (s.toList.take p)
    | none => s
  return pad spec '<' body

/-- `format(value, spec)`. -/
def formatValue (h : Hooks) (v : Value) (specText : String) : Eval String := do
  match ← lookupSpecial v "__format__" with
  | some fn =>
    match ← h.call fn [v, .str specText] [] with
    | .str s => return s
    | r => throwExc "TypeError" ("__format__ must return a str, not " ++ (← typeName r))
  | none => pure ()
  -- with a specification, an instance of a derived class formats the value it holds
  let v ← if specText.isEmpty then pure v else pure ((← dataOf? v).getD v)
  let orFault (r : Except String String) : Eval String :=
    match r with
    | .ok s => pure s
    | .error m => throwExc "ValueError" m
  let parse : Eval FormatSpec :=
    match parseSpec specText with
    | .ok sp => pure sp
    | .error m => throwExc "ValueError" m
  match v with
  | .str s => if specText.isEmpty then return s else orFault (formatStrSpec (← parse) s)
  | .int n =>
    if specText.isEmpty then intText n
    else
      let sp ← parse
      match sp.kind with
      | some c =>
        if "eEfFgG%".toList.contains c then orFault (formatFloatSpec sp (← toFloat n))
        else
          if c == 'd' || c == 'n' then discard (intText n)
          orFault (formatIntSpec sp n)
      | none =>
        discard (intText n)
        orFault (formatIntSpec sp n)
  | .bool b =>
    if specText.isEmpty then return if b then "True" else "False"
    else
      let sp ← parse
      match sp.kind with
      | some c =>
        if "eEfFgG%".toList.contains c then orFault (formatFloatSpec sp (if b then 1.0 else 0.0))
        else orFault (formatIntSpec sp (if b then 1 else 0))
      | none => orFault (formatIntSpec sp (if b then 1 else 0))
  | .float x => if specText.isEmpty then return floatText x else orFault (formatFloatSpec (← parse) x)
  | _ =>
    if specText.isEmpty then strOf h showFuel v
    else
      let t ← typeName v
      throwExc "TypeError" ("unsupported format string passed to " ++ t ++ ".__format__")

/-- The display form with characters past ASCII escaped. -/
def asciiOf (h : Hooks) (v : Value) : Eval String := do
  let r ← reprOf h showFuel [] v
  return r.foldl (fun acc c =>
    let n := c.toNat
    if n < 128 then acc.push c
    else if n < 256 then acc ++ "\\x" ++ byteHex n
    else if n < 0x10000 then
      let ds := Nat.toDigits 16 n
      acc ++ "\\u" ++ String.ofList (List.replicate (4 - ds.length) '0' ++ ds)
    else
      let ds := Nat.toDigits 16 n
      acc ++ "\\U" ++ String.ofList (List.replicate (8 - ds.length) '0' ++ ds)) ""

/-- A conversion `!s`, `!r` or `!a` of a replacement field. -/
def convertField (h : Hooks) (conv : Char) (v : Value) : Eval Value := do
  match conv with
  | 'r' => return .str (← reprOf h showFuel [] v)
  | 'a' => return .str (← asciiOf h v)
  | _ => return .str (← strOf h showFuel v)

/-- One conversion of the `%` operator on strings: flags, width, precision and the letter. -/
structure PercentSpec where
  /-- The mapping key, if written. -/
  key : Option String := none
  /-- Left alignment. -/
  left : Bool := false
  /-- Zero padding. -/
  zero : Bool := false
  /-- Sign option. -/
  sign : Option Char := none
  /-- Alternate form. -/
  alternate : Bool := false
  /-- Width, or `*` as none with `starWidth`. -/
  width : Option Nat := none
  /-- Whether the width is taken from the arguments. -/
  starWidth : Bool := false
  /-- Precision. -/
  precision : Option Nat := none
  /-- Whether the precision is taken from the arguments. -/
  starPrecision : Bool := false
  /-- The conversion letter. -/
  letter : Char := 's'

/-- Read the flags of a `%` conversion. -/
def percentFlags (sp : PercentSpec) : List Char → PercentSpec × List Char
  | '-' :: rest => percentFlags { sp with left := true } rest
  | '0' :: rest => percentFlags { sp with zero := true } rest
  | '+' :: rest => percentFlags { sp with sign := some '+' } rest
  | ' ' :: rest => percentFlags { sp with sign := if sp.sign == some '+' then sp.sign else some ' ' } rest
  | '#' :: rest => percentFlags { sp with alternate := true } rest
  | cs => (sp, cs)

/-- Read a `%` conversion after the percent sign; `none` when the text ends inside it. -/
def readPercent (cs : List Char) : Option (PercentSpec × List Char) := do
  let (key, cs) ← match cs with
    | '(' :: rest =>
      let k := rest.takeWhile (· ≠ ')')
      if k.length = rest.length then none else some (some (String.ofList k), rest.drop (k.length + 1))
    | _ => some (none, cs)
  let (sp, cs) := percentFlags { key := key } cs
  let (sp, cs) := match cs with
    | '*' :: rest => ({ sp with starWidth := true }, rest)
    | _ => let (w, rest) := readDigits cs; ({ sp with width := w }, rest)
  let (sp, cs) := match cs with
    | '.' :: '*' :: rest => ({ sp with starPrecision := true }, rest)
    | '.' :: rest => let (p, rest') := readDigits rest; ({ sp with precision := some (p.getD 0) }, rest')
    | _ => (sp, cs)
  let cs := cs.dropWhile fun c => c = 'h' || c = 'l' || c = 'L'
  match cs with
  | c :: rest => some ({ sp with letter := c }, rest)
  | [] => none

/-- Pad the text of a `%` conversion. -/
def percentPad (sp : PercentSpec) (numeric : Bool) (neg : Bool) (signText : String) (body : String) :
    String :=
  let lead := if neg then "-" else signText
  let w := sp.width.getD 0
  let n := lead.length + body.length
  if w ≤ n then lead ++ body
  else if sp.left then lead ++ body ++ String.ofList (List.replicate (w - n) ' ')
  else if sp.zero && numeric then lead ++ String.ofList (List.replicate (w - n) '0') ++ body
  else String.ofList (List.replicate (w - n) ' ') ++ lead ++ body

end StubDoctest.Exec
