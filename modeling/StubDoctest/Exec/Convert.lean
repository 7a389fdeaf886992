import StubDoctest.Exec.Attr
import StubDoctest.Text.Case
import StubDoctest.Text.Ops
import StubDoctest.Source.Literal

/-!
# Numbers from text and from other numbers

`int` reads an optional sign and digits in a base from 2 to 36 (base 0 takes the base from a
`0b`, `0o` or `0x` prefix and refuses other leading zeros), with single underscores allowed
between digits and blanks around. `float` reads a decimal with an optional exponent, or
`inf`, `infinity` and `nan` in any case. A text that does not read is refused with its display
form in the message.

Rounding to a number of decimals rounds the exact value half to even; so does `round` to an
integer.
-/

namespace StubDoctest.Exec

open StubDoctest.Text

/-- Text as numbers are read from it: a blank past ASCII becomes a space and a decimal digit
its ASCII digit; the first other character past ASCII becomes `?` and ends the text. -/
def asciiNumberText : List Char → List Char
  | [] => []
  | c :: rest =>
    if c.toNat < 127 then c :: asciiNumberText rest
    else if isBlank c then ' ' :: asciiNumberText rest
    else if isDecimalChar c then Char.ofNat (48 + decimalValue c) :: asciiNumberText rest
    else ['?']

/-- Whether a character is one of the ASCII blanks that numbers may stand between. -/
def isAsciiSpace (c : Char) : Bool :=
  c = ' ' || c = '\t' || c = '\n' || c = '\x0b' || c = '\x0c' || c = '\r'

/-- The text of a number: its characters made ASCII, without the blanks around them. -/
def numberText (s : String) : List Char :=
  ((asciiNumberText s.toList).dropWhile isAsciiSpace).reverse.dropWhile isAsciiSpace |>.reverse

/-- The value of a digit in bases up to 36. -/
def digitOf (c : Char) : Option Nat :=
  if '0' ≤ c && c ≤ '9' then some (c.toNat - 48)
  else if 'a' ≤ c && c ≤ 'z' then some (c.toNat - 87)
  else if 'A' ≤ c && c ≤ 'Z' then some (c.toNat - 55)
  else none

/-- Digits in a base with single underscores between them, or `none`. -/
def readBaseDigits (base : Nat) (cs : List Char) : Option Nat :=
  let rec go (fuel : Nat) (acc : Nat) (afterDigit : Bool) (cs : List Char) : Option Nat :=
    match fuel with
    | 0 => none
    | fuel + 1 =>
      match cs with
      | [] => if afterDigit then some acc else none
      | '_' :: rest => if afterDigit then go fuel acc false rest else none
      | c :: rest =>
        match digitOf c with
        | some d => if d < base then go fuel (acc * base + d) true rest else none
        | none => none
  match cs with
  | [] => none
  | _ => go (cs.length + 1) 0 false cs

/-- The integer a text denotes in a base (0 for the base of its prefix). -/
def parseIntText (s : String) (base : Nat) : Option Int :=
  let cs := numberText s
  let (neg, cs) := match cs with
    | '-' :: rest => (true, rest)
    | '+' :: rest => (false, rest)
    | _ => (false, cs)
  let prefixed (p : Char) (rest : List Char) : List Char :=
    match rest with
    | '_' :: more => if p = ' ' then rest else more
    | _ => rest
  let (base, body) : Nat × List Char :=
    match cs with
    | '0' :: c :: rest =>
      let lc := asciiLower c
      if (base = 0 || base = 16) && lc = 'x' then (16, prefixed 'x' rest)
      else if (base = 0 || base = 8) && lc = 'o' then (8, prefixed 'o' rest)
      else if (base = 0 || base = 2) && lc = 'b' then (2, prefixed 'b' rest)
      else (base, cs)
    | _ => (base, cs)
  if base = 0 then
    -- Without a prefix, base 0 reads decimals and refuses leading zeros.
    match readBaseDigits 10 body with
    | some n =>
      if n ≠ 0 && body.head? == some '0' then none
      else some (if neg then -(n : Int) else n)
    | none => none
  else
    (readBaseDigits base body).map fun n => if neg then -(n : Int) else n

/-- The double a text denotes, as `float` reads it. -/
def parseFloatText (s : String) : Option Float :=
  let cs := numberText s
  let (neg, cs) := match cs with
    | '-' :: rest => (true, rest)
    | '+' :: rest => (false, rest)
    | _ => (false, cs)
  let word := String.ofList (cs.map asciiLower)
  let signed (x : Float) : Float := if neg then -x else x
  if word == "inf" || word == "infinity" then some (signed (1.0 / 0.0))
  else if word == "nan" then some (signed (0.0 / 0.0))
  else
    -- Digits with single underscores between digits.
    let rec digits (fuel : Nat) (acc : List Char) (afterDigit : Bool) (cs : List Char) :
        Option (List Char × List Char) :=
      match fuel with
      | 0 => none
      | fuel + 1 =>
        match cs with
        | '_' :: c :: rest =>
          if afterDigit && '0' ≤ c && c ≤ '9' then digits fuel (c :: acc) true rest else none
        | c :: rest =>
          if '0' ≤ c && c ≤ '9' then digits fuel (c :: acc) true rest
          else some (acc.reverse, cs)
        | [] => some (acc.reverse, [])
    match digits (cs.length + 1) [] false cs with
    | none => none
    | some (intPart, rest) =>
      let fracRes : Option (List Char × List Char) := match rest with
        | '.' :: r => digits (r.length + 1) [] false r
        | _ => some ([], rest)
      match fracRes with
      | none => none
      | some (frac, rest) =>
        if intPart.isEmpty && frac.isEmpty then none
        else
          let expRes : Option Int := match rest with
            | [] => some 0
            | e :: r =>
              if e = 'e' || e = 'E' then
                let (eneg, r) := match r with
                  | '-' :: more => (true, more)
                  | '+' :: more => (false, more)
                  | _ => (false, r)
                match digits (r.length + 1) [] false r with
                | some (ds, []) =>
                  if ds.isEmpty then none
                  else
                    let v : Int := StubDoctest.Source.digitValue 10 ds
                    some (if eneg then -v else v)
                | _ => none
              else none
          match expRes with
          | none => none
          | some ex =>
            let m := StubDoctest.Source.digitValue 10 (intPart ++ frac)
            some (signed (StubDoctest.Source.decimalToFloat m (ex - frac.length)))

/-- The longest beginning of a text that reads as a double, with what follows it; `none` when
no beginning does. -/
def floatPrefix (cs : List Char) : Option (Float × List Char) :=
  let candidates := (List.range (cs.length + 1)).reverse
  candidates.findSome? fun n =>
    let pre := cs.take n
    match pre.head?, pre.getLast? with
    | some a, some b =>
      if isAsciiSpace a || isAsciiSpace b then none
      else (parseFloatText (String.ofList pre)).map fun x => (x, cs.drop n)
    | _, _ => none

/-- Whether the underscores of a text each stand between two digits. -/
def underscoresBetweenDigits (cs : List Char) : Bool :=
  let rec go : Option Char → List Char → Bool
    | _, [] => true
    | prev, '_' :: rest =>
      match prev, rest with
      | some p, n :: _ => p.isDigit && n.isDigit && go (some '_') rest
      | _, _ => false
    | _, c :: rest => go (some c) rest
  go none cs

/-- The parts of the complex number a text denotes, as `complex` reads it: a real part, an
imaginary part with `j`, or both, optionally in brackets and blanks; a sign or nothing before
`j` stands for one. -/
def parseComplexText (s : String) : Option (Float × Float) :=
  let cs := numberText s
  let (bracket, cs) := match cs with
    | '(' :: rest => (true, rest.dropWhile isAsciiSpace)
    | _ => (false, cs)
  let isJ (c : Char) : Bool := c == 'j' || c == 'J'
  let body : Option (Float × Float × List Char) :=
    match floatPrefix cs with
    | some (z, rest) =>
      match rest with
      | c :: more =>
        if c == '+' || c == '-' then
          match floatPrefix rest with
          | some (y, j :: after) => if isJ j then some (z, y, after) else none
          | some (_, []) => none
          | none =>
            match more with
            | j :: after => if isJ j then some (z, (if c == '+' then 1.0 else -1.0), after) else none
            | [] => none
        else if isJ c then some (0.0, z, more)
        else some (z, 0.0, rest)
      | [] => some (z, 0.0, [])
    | none =>
      match cs with
      | c :: j :: after =>
        if (c == '+' || c == '-') && isJ j then some (0.0, (if c == '+' then 1.0 else -1.0), after)
        else if isJ c then some (0.0, 1.0, j :: after)
        else none
      | [c] => if isJ c then some (0.0, 1.0, []) else none
      | [] => none
  match body with
  | none => none
  | some (x, y, rest) =>
    let rest := rest.dropWhile isAsciiSpace
    let rest := if bracket then
        match rest with
        | ')' :: more => some (more.dropWhile isAsciiSpace)
        | _ => none
      else some rest
    match rest with
    | some [] => some (x, y)
    | _ => none

/-- The integer a float truncates to, or the fault for infinities and NaN. -/
def floatToInt (x : Float) : Eval Int := do
  match StubDoctest.Number.decode x with
  | .nan => throwExc "ValueError" "cannot convert float NaN to integer"
  | .inf _ => throwExc "OverflowError" "cannot convert float infinity to integer"
  | .finite neg m e =>
    let mag : Nat := if e ≥ 0 then m * 2 ^ e.toNat else m / 2 ^ (-e).toNat
    return if neg then -(mag : Int) else mag

/-- The integer nearest to a float, ties to even. -/
def roundFloatToInt (x : Float) : Eval Int := do
  match StubDoctest.Number.decode x with
  | .nan => throwExc "ValueError" "cannot convert float NaN to integer"
  | .inf _ => throwExc "OverflowError" "cannot convert float infinity to integer"
  | .finite neg m e =>
    let mag : Nat := if e ≥ 0 then m * 2 ^ e.toNat
      else StubDoctest.Number.roundHalfEven m (2 ^ (-e).toNat)
    return if neg then -(mag : Int) else mag

/-- A float rounded to `nd` decimals, ties to even on the exact value. -/
def roundFloatDigits (x : Float) (nd : Int) : Eval Float := do
  match StubDoctest.Number.decode x with
  | .nan => return x
  | .inf _ => return x
  | .finite neg m e =>
    if m = 0 then return x
    if nd > 330 then return x
    if nd < -330 then return (if neg then -0.0 else 0.0)
    -- |x| · 10^nd rounded, then divided again.
    let num := m * (if e ≥ 0 then 2 ^ e.toNat else 1) * (if nd ≥ 0 then 10 ^ nd.toNat else 1)
    let den := (if e < 0 then 2 ^ (-e).toNat else 1) * (if nd < 0 then 10 ^ (-nd).toNat else 1)
    let k := StubDoctest.Number.roundHalfEven num den
    let r := if nd ≥ 0 then StubDoctest.Number.ofRatio neg k (10 ^ nd.toNat)
      else StubDoctest.Number.ofRatio neg (k * 10 ^ (-nd).toNat) 1
    match r with
    | some y => return y
    | none => throwExc "OverflowError" "rounded value too large to represent"

/-- An integer rounded to `nd` decimals (a negative number rounds to tens, hundreds, …), ties
to even. -/
def roundIntDigits (n : Int) (nd : Int) : Int :=
  if nd ≥ 0 then n
  else
    let p : Nat := 10 ^ (-nd).toNat
    let q := StubDoctest.Number.roundHalfEven n.natAbs p
    let r : Int := (q * p : Nat)
    if n < 0 then -r else r

/-- Text of an integer in base 2, 8 or 16 with its prefix. -/
def prefixedDigits (base : Nat) (pre : String) (n : Int) : String :=
  (if n < 0 then "-" else "") ++ pre ++ String.ofList (Nat.toDigits base n.natAbs)

/-- Floor division and remainder of integers, the remainder taking the divisor's sign. -/
def intDivmod (a b : Int) : Int × Int := (Int.fdiv a b, Int.fmod a b)

/-- The inverse of `a` modulo `m > 0`, when they are coprime: Euclid's algorithm carrying the
coefficient of `a`, each remainder being that coefficient times `a` modulo `m`. -/
def modInverse (a m : Nat) : Option Nat :=
  let rec go : Nat → Int → Int → Int → Int → Option Int
    | 0, _, _, _, _ => none
    | fuel + 1, r0, r1, s0, s1 =>
      if r1 = 0 then (if r0 = 1 then some s0 else none)
      else
        let q := r0 / r1
        go fuel r1 (r0 - q * r1) s1 (s0 - q * s1)
  (go (2 * m.log2 + 8) (a % m : Nat) m 1 0).map fun s => (Int.emod s m).toNat

/-- `pow(base, exp, mod)` for integers; a negative exponent raises the inverse of the base. -/
def intPowMod (b e m : Int) : Eval Int := do
  if m = 0 then throwExc "ValueError" "pow() 3rd argument cannot be 0"
  let (b, e) ← if e < 0 then
      match modInverse (Int.emod b m.natAbs).toNat m.natAbs with
      | some inv => pure ((inv : Int), -e)
      | none => throwExc "ValueError" "base is not invertible for the given modulus"
    else pure (b, e)
  let rec go (fuel : Nat) (b : Int) (e : Nat) (acc : Int) : Int :=
    match fuel with
    | 0 => acc
    | fuel + 1 =>
      if e = 0 then acc
      else
        let acc := if e % 2 = 1 then Int.fmod (acc * b) m else acc
        go fuel (Int.fmod (b * b) m) (e / 2) acc
  return Int.fmod (go (e.toNat.log2 + 2) (Int.fmod b m) e.toNat 1) m

end StubDoctest.Exec
