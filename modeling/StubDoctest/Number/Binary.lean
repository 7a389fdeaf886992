/-!
# Doubles as exact binary numbers

A finite double is `±m · 2^q` with an integer mantissa `m < 2^53`. This module reads a double's
bits into that form, builds the double nearest to an exact rational (ties to an even mantissa,
as every conversion of the arithmetic does), and finds the shortest decimal that reads back as
a given double.

The shortest decimal: for `n = 1, 2, …, 17` digits, the two multiples of the `n`-digit grid
around the value are tested against the interval of reals that round to the double (its ends
count when the mantissa is even). The first `n` with a hit wins; of two hits the nearer one,
and of two equally near the even one.
-/

namespace StubDoctest.Number

/-- Powers of numbers by the core's `Nat.pow` and `Int.pow`, preferred to a power that a library
in scope may declare for every monoid, so that a power means one thing wherever it is read. -/
@[default_instance high]
instance (priority := high) corePow {α : Type} [NatPow α] : Pow α Nat :=
  ⟨fun a n => NatPow.pow a n⟩

/-- The classes of doubles. -/
inductive FloatClass where
  /-- Not a number. -/
  | nan
  /-- An infinity, negative when the flag is set. -/
  | inf (neg : Bool)
  /-- A finite value `±mant · 2^exp`; zero has mantissa zero. -/
  | finite (neg : Bool) (mant : Nat) (exp : Int)
  deriving Inhabited

/-- The class and exact value of a double. -/
def decode (x : Float) : FloatClass :=
  let bits : Nat := x.toBits.toNat
  let neg : Bool := bits / 2 ^ 63 % 2 = 1
  let e : Nat := bits / 2 ^ 52 % 2048
  let frac : Nat := bits % 2 ^ 52
  if e = 2047 then (if frac = 0 then .inf neg else .nan)
  else if e = 0 then .finite neg frac (-1074)
  else .finite neg (frac + 2 ^ 52) ((e : Int) - 1075)

/-- The double with the given sign, biased exponent field and fraction field. -/
def ofFields (neg : Bool) (e frac : Nat) : Float :=
  Float.ofBits ((if neg then 2 ^ 63 else 0) + e * 2 ^ 52 + frac).toUInt64

/-- `a / b` rounded to the nearest integer, ties to even. -/
def roundHalfEven (a b : Nat) : Nat :=
  let q := a / b
  let r := a % b
  if 2 * r > b then q + 1 else if 2 * r < b then q else if q % 2 = 0 then q else q + 1

/-- The bit length of a natural number: the least `k` with `n < 2^k`. -/
def bitLength (n : Nat) : Nat := if n = 0 then 0 else Nat.log2 n + 1

/-- The double nearest to `num / den` (with the sign `neg`), or `none` when it rounds past the
largest finite double. `den` must not be zero. -/
def ofRatio (neg : Bool) (num den : Nat) : Option Float :=
  if num = 0 then some (ofFields neg 0 0)
  else
    -- Choose a binary exponent `s` so that the scaled quotient has 54 or 55 bits.
    let s : Int := (bitLength num : Int) - (bitLength den : Int) - 54
    let scaledNum := if s ≥ 0 then num else num * 2 ^ (-s).toNat
    let scaledDen := if s ≥ 0 then den * 2 ^ s.toNat else den
    -- The exponent of the leading bit of the value.
    let lead : Int := s + (bitLength (scaledNum / scaledDen) : Int) - 1
    -- Normal numbers keep 53 bits; below 2^-1022 the last bit is worth 2^-1074.
    let q : Int := if lead ≥ -1022 then lead - 52 else -1074
    let n := if q ≥ 0 then num else num * 2 ^ (-q).toNat
    let d := if q ≥ 0 then den * 2 ^ q.toNat else den
    let m := roundHalfEven n d
    -- Rounding may carry into a new leading bit.
    let (m, q) := if m = 2 ^ 53 then (2 ^ 52, q + 1) else (m, q)
    if m < 2 ^ 52 then some (ofFields neg 0 m)
    else
      let field := q + 1075
      if field ≥ 2047 then none else some (ofFields neg field.toNat (m - 2 ^ 52))

/-- The exact remainder of `x` by `y` with the sign of `x`, as the C library's `fmod`: not a
number for a zero divisor or an infinite dividend, `x` itself for an infinite divisor. -/
def fmod (x y : Float) : Float :=
  match decode x, decode y with
  | .finite sx mx ex, .finite _ my ey =>
    if my = 0 then 0.0 / 0.0
    else if mx = 0 then x
    else
      let e := min ex ey
      let bigX := mx * 2 ^ (ex - e).toNat
      let bigY := my * 2 ^ (ey - e).toNat
      let r := bigX % bigY
      let v := if e ≥ 0 then ofRatio sx (r * 2 ^ e.toNat) 1 else ofRatio sx r (2 ^ (-e).toNat)
      v.getD (0.0 / 0.0)
  | .finite _ _ _, .inf _ => x
  | _, _ => 0.0 / 0.0

/-- The neighbour of `x` in the direction of `y`: `y` itself when the two are equal, the
smallest subnormal with the sign of `y` from zero, and otherwise the double whose bits, read as
sign and magnitude, are one step away from those of `x`. -/
def nextAfter (x y : Float) : Float :=
  if x.isNaN || y.isNaN then x + y
  else if x == y then y
  else
    let bits := x.toBits.toNat
    let mag := bits % 2 ^ 63
    if mag = 0 then ofFields (y < 0) 0 1
    else if (x < y) == (x > 0) then Float.ofBits (bits + 1).toUInt64
    else Float.ofBits (bits - 1).toUInt64

/-- The IEEE remainder `x - n·y` for the integer `n` nearest to `x / y`, ties to an even `n`,
computed exactly from `fmod` of the magnitudes: not a number for a zero divisor or an infinite
dividend, `x` itself for an infinite divisor. -/
def remainder (x y : Float) : Float :=
  if x.isNaN then x
  else if y.isNaN then y
  else if x.isInf then 0.0 / 0.0
  else if y.isInf then x
  else if y == 0 then 0.0 / 0.0
  else
    let ax := x.abs
    let ay := y.abs
    let m := fmod ax ay
    let c := ay - m
    let r := if m < c then m else if m > c then -c
      else m - 2.0 * fmod (0.5 * (ax - m)) ay
    (if x.toBits.toNat / 2 ^ 63 = 1 then -1.0 else 1.0) * r

/-- The double nearest to an integer, or `none` when it is too large. -/
def ofInt (n : Int) : Option Float := ofRatio (n < 0) n.natAbs 1

/-- An exact non-negative rational. -/
structure Ratio where
  /-- The numerator. -/
  num : Nat
  /-- The denominator, not zero. -/
  den : Nat

/-- `a ≤ b` for rationals. -/
def Ratio.le (a b : Ratio) : Bool := a.num * b.den ≤ b.num * a.den

/-- `a < b` for rationals. -/
def Ratio.lt (a b : Ratio) : Bool := a.num * b.den < b.num * a.den

/-- `m · 2^q` as a rational. -/
def Ratio.ofBinary (m : Nat) (q : Int) : Ratio :=
  if q ≥ 0 then ⟨m * 2 ^ q.toNat, 1⟩ else ⟨m, 2 ^ (-q).toNat⟩

/-- `c · 10^k` as a rational. -/
def Ratio.ofDecimal (c : Nat) (k : Int) : Ratio :=
  if k ≥ 0 then ⟨c * 10 ^ k.toNat, 1⟩ else ⟨c, 10 ^ (-k).toNat⟩

/-- The distance between two rationals, as a rational. -/
def Ratio.dist (a b : Ratio) : Ratio :=
  let x := a.num * b.den
  let y := b.num * a.den
  ⟨if x ≥ y then x - y else y - x, a.den * b.den⟩

/-- The largest `e` with `10^e ≤ n`, for positive `n`. -/
def log10 (n : Nat) : Nat := (Nat.toDigits 10 n).length - 1

/-- The decimal exponent of a positive rational: the `e` with `10^e ≤ r < 10^(e+1)`. -/
def decimalExponent (r : Ratio) : Int :=
  if r.num ≥ r.den then (log10 (r.num / r.den) : Int)
  else
    let s := log10 (r.den / r.num)
    if r.num * 10 ^ s ≥ r.den then -(s : Int) else -((s : Int) + 1)

/-- Decimal digits of a positive natural number, most significant first. -/
def digitsOf (n : Nat) : List Nat := (Nat.toDigits 10 n).map fun c => c.toNat - '0'.toNat

/-- A decimal `0.d₁d₂… · 10^point` with no trailing zero digit. -/
structure Decimal where
  /-- The significant digits. -/
  digits : List Nat
  /-- The position of the decimal point. -/
  point : Int
  deriving Inhabited

/-- The decimal `c · 10^k` in digit form, trailing zeros dropped. -/
def Decimal.ofScaled (c : Nat) (k : Int) : Decimal :=
  let ds := digitsOf c
  let trimmed := (ds.reverse.dropWhile (· = 0)).reverse
  ⟨trimmed, k + ds.length⟩

/-- The interval of reals that round to the positive double `m · 2^q`, as its two ends. -/
def roundingInterval (m : Nat) (q : Int) : Ratio × Ratio :=
  let high := Ratio.ofBinary (2 * m + 1) (q - 1)
  -- At a power of two the next double down is half as far away.
  let low := if m = 2 ^ 52 ∧ q > -1074 then Ratio.ofBinary (4 * m - 1) (q - 2)
    else Ratio.ofBinary (2 * m - 1) (q - 1)
  (low, high)

/-- The shortest decimal that reads back as the positive double `m · 2^q`, searching grids of
`n` to 17 digits; `fuel` bounds the number of grids. -/
def shortestFrom (m : Nat) (q : Int) (e10 : Int) (n : Nat) : Nat → Decimal
  | 0 => Decimal.ofScaled m 0
  | fuel + 1 =>
    let x := Ratio.ofBinary m q
    let (low, high) := roundingInterval m q
    let inside (r : Ratio) : Bool :=
      if m % 2 = 0 then low.le r && r.le high else low.lt r && r.lt high
    let k := e10 - n + 1
    -- The grid point at or below the value, and the one above it.
    let step := Ratio.ofDecimal 1 k
    let below := (x.num * step.den) / (x.den * step.num)
    let above := below + 1
    let rb := Ratio.ofDecimal below k
    let ra := Ratio.ofDecimal above k
    match inside rb, inside ra with
    | true, true =>
      let db := rb.dist x
      let da := ra.dist x
      if db.lt da then Decimal.ofScaled below k
      else if da.lt db then Decimal.ofScaled above k
      else if below % 2 = 0 then Decimal.ofScaled below k else Decimal.ofScaled above k
    | true, false => Decimal.ofScaled below k
    | false, true => Decimal.ofScaled above k
    | false, false => shortestFrom m q e10 (n + 1) fuel

/-- The shortest decimal that reads back as the positive double `m · 2^q`. -/
def shortest (m : Nat) (q : Int) : Decimal :=
  shortestFrom m q (decimalExponent (Ratio.ofBinary m q)) 1 17

/-- Whether a float equals an integer exactly. -/
def floatEqInt (x : Float) (n : Int) : Bool :=
  match decode x with
  | .finite neg m e =>
    if m = 0 then n = 0
    else if e ≥ 0 then
      let v : Int := (m * 2 ^ e.toNat : Nat)
      (if neg then -v else v) = n
    else
      let d := 2 ^ (-e).toNat
      m % d = 0 && (if neg then -((m / d : Nat) : Int) else ((m / d : Nat) : Int)) = n
  | _ => false

end StubDoctest.Number
