import StubDoctest.Number.Binary

/-!
# The text of a double

A double is written with the shortest digits that read back. The point stands among the digits
when the decimal exponent lies between -4 and 16; otherwise one digit stands before the point
and an exponent follows, with its sign and at least two digits. A value without a fractional
part still shows `.0` in positional form. Infinities are `inf` and `-inf`, not-a-number is
`nan`, and negative zero keeps its sign.
-/

namespace StubDoctest.Number

/-- The characters of digits. -/
def digitChars (ds : List Nat) : List Char := ds.map fun d => Char.ofNat ('0'.toNat + d)

/-- Positional text of a decimal, with `.0` when it has no fractional digit. -/
def positional (d : Decimal) : String :=
  let ds := digitChars d.digits
  if d.point ≤ 0 then String.ofList ('0' :: '.' :: (List.replicate (-d.point).toNat '0' ++ ds))
  else
    let p := d.point.toNat
    if p ≥ ds.length then String.ofList (ds ++ List.replicate (p - ds.length) '0' ++ ['.', '0'])
    else String.ofList (ds.take p ++ '.' :: ds.drop p)

/-- The exponent of scientific text: a sign and at least two digits. -/
def exponentText (e : Int) : String :=
  let digits := toString e.natAbs
  (if e < 0 then "-" else "+") ++ (if digits.length < 2 then "0" ++ digits else digits)

/-- Scientific text of a decimal: one digit, the others after a point, then the exponent. -/
def scientific (d : Decimal) : String :=
  let ds := digitChars d.digits
  let mant := match ds with
    | [] => "0"
    | [c] => c.toString
    | c :: rest => String.ofList (c :: '.' :: rest)
  mant ++ "e" ++ exponentText (d.point - 1)

/-- The text of a double. -/
def floatText (x : Float) : String :=
  match decode x with
  | .nan => "nan"
  | .inf neg => if neg then "-inf" else "inf"
  | .finite neg m q =>
    let sign := if neg then "-" else ""
    if m = 0 then sign ++ "0.0"
    else
      let d := shortest m q
      if d.point ≤ -4 ∨ d.point > 16 then sign ++ scientific d else sign ++ positional d

end StubDoctest.Number
