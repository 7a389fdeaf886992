import StubDoctest.Number.Binary
import StubDoctest.Text.Blank

/-!
# Hexadecimal text of a double

A finite nonzero double is written `0x1.` followed by the thirteen hexadecimal digits of its
52-bit fraction and `p` with the binary exponent, signed; a subnormal double is written with
`0x0.` and the exponent `-1022`. Zero is `0x0.0p+0`, with its sign.

Reading such text accepts blanks around it, a sign, `inf`, `infinity` or `nan` in any case,
an optional `0x`, hexadecimal digits with at most one point (at least one digit), and an
optional binary exponent `p` with a decimal number. The value is rounded to the nearest double,
ties to even; a value past the largest double is an overflow.
-/

namespace StubDoctest.Number

open StubDoctest.Text

/-- The hexadecimal digit of `d < 16`, lower case. -/
def hexDigitChar (d : Nat) : Char :=
  if d < 10 then Char.ofNat (48 + d) else Char.ofNat (87 + d)

/-- The `n` hexadecimal digits of `v`, most significant first. -/
def hexDigits (n v : Nat) : String :=
  String.ofList ((List.range n).reverse.map fun i => hexDigitChar (v / 16 ^ i % 16))

/-- The hexadecimal text of a double. -/
def hexText (x : Float) : String :=
  let bits : Nat := x.toBits.toNat
  let neg := bits ≥ 2 ^ 63
  let field : Nat := bits / 2 ^ 52 % 2048
  let frac : Nat := bits % 2 ^ 52
  let sign := if neg then "-" else ""
  if field = 2047 then
    if frac = 0 then sign ++ "inf" else "nan"
  else if field = 0 && frac = 0 then sign ++ "0x0.0p+0"
  else
    let (lead, e) : String × Int := if field = 0 then ("0", -1022) else ("1", (field : Int) - 1023)
    sign ++ "0x" ++ lead ++ "." ++ hexDigits 13 frac ++ "p" ++ (if e < 0 then "-" else "+") ++
      toString e.natAbs

/-- The value of a hexadecimal digit. -/
def hexValue? (c : Char) : Option Nat :=
  if '0' ≤ c ∧ c ≤ '9' then some (c.toNat - 48)
  else if 'a' ≤ c ∧ c ≤ 'f' then some (c.toNat - 87)
  else if 'A' ≤ c ∧ c ≤ 'F' then some (c.toNat - 55)
  else none

/-- Why hexadecimal text is not read as a double. -/
inductive HexFault where
  /-- The text is not of the form. -/
  | malformed
  /-- The value is past the largest double. -/
  | tooLarge
  deriving DecidableEq, Repr

/-- The leading hexadecimal digits of `cs`: their value, their number, and the rest. -/
def takeHexDigits : List Char → Nat × Nat × List Char
  | [] => (0, 0, [])
  | c :: rest =>
    match hexValue? c with
    | some d =>
      let (v, n, r) := takeHexDigits rest
      (d * 16 ^ n + v, n + 1, r)
    | none => (0, 0, c :: rest)

/-- The double `m · 2 ^ e`, rounded to nearest, ties to even. -/
def ofBinary (neg : Bool) (m : Nat) (e : Int) : Except HexFault Float :=
  if m = 0 then .ok (ofFields neg 0 0)
  else if (bitLength m : Int) + e > 1025 then .error .tooLarge
  else if (bitLength m : Int) + e < -1080 then .ok (ofFields neg 0 0)
  else
    match (if e ≥ 0 then ofRatio neg (m * 2 ^ e.toNat) 1 else ofRatio neg m (2 ^ (-e).toNat)) with
    | some x => .ok x
    | none => .error .tooLarge

/-- Read hexadecimal text as a double. -/
def ofHexText (s : String) : Except HexFault Float :=
  let cs := (s.toList.dropWhile isBlank).reverse.dropWhile isBlank |>.reverse
  let (neg, cs) := match cs with
    | '-' :: rest => (true, rest)
    | '+' :: rest => (false, rest)
    | rest => (false, rest)
  let word := String.ofList (cs.map Char.toLower)
  if word == "inf" || word == "infinity" then .ok (if neg then -(1.0 / 0.0) else 1.0 / 0.0)
  else if word == "nan" then .ok (0.0 / 0.0)
  else
    let cs := match cs with
      | '0' :: x :: rest => if x == 'x' || x == 'X' then rest else '0' :: x :: rest
      | rest => rest
    let (whole, nWhole, cs) := takeHexDigits cs
    let (frac, nFrac, cs) := match cs with
      | '.' :: rest => takeHexDigits rest
      | rest => (0, 0, rest)
    if nWhole + nFrac = 0 then .error .malformed
    else
      let m := whole * 16 ^ nFrac + frac
      let exp : Option Int := match cs with
        | [] => some 0
        | p :: rest =>
          if p == 'p' || p == 'P' then
            let (sgn, ds) : Int × List Char := match rest with
              | '-' :: r => (-1, r)
              | '+' :: r => (1, r)
              | r => (1, r)
            if !ds.isEmpty && ds.all Char.isDigit then
              some (sgn * (ds.foldl (fun n c => n * 10 + (c.toNat - 48)) 0 : Nat))
            else none
          else none
      match exp with
      | none => .error .malformed
      | some p => ofBinary neg m (p - 4 * (nFrac : Int))

end StubDoctest.Number
