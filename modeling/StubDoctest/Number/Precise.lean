import StubDoctest.Number.Binary
import StubDoctest.Number.Root

/-!
# Functions of doubles, rounded once

`expm1`, `log1p`, `erf` and `erfc` of a double, computed from the double's exact value to far
more bits than a double holds and then rounded once to the nearest double.

The work is done in fixed point: an integer `v` at precision `p` stands for `v / 2^p`. Series
are summed until their terms vanish at that precision, and the precision is chosen so that
the error left is far below the last bit of the result:

* `expm1 x` is `x · F(x)` with `F(x) = Σ xⁿ/(n+1)!` for `|x| < 1`, where `F` lies between
  `0.63` and `1.72`, so an absolute error in `F` is a relative one in the result; for larger
  `|x|` it is `eˣ - 1`, with `eˣ = 2ᵏ · eʳ` for `x = k·ln 2 + r`;
* `log1p x` is `2z · H(z²)` with `z = x/(2+x)` and `H(w) = Σ wᵏ/(2k+1)` for `|x| < 1/2`, and
  otherwise the logarithm of `1 + x` taken as `2ᵉ · m` with `m` near one;
* `erf x` is `x · S(x²)` with `S(y) = 2/√π · Σ (-y)ⁿ/(n!·(2n+1))`; `erfc x` is `1 - erf x`, at a
  precision that grows with `x²` to outweigh the cancellation, up to where it underflows.
-/

namespace StubDoctest.Number

/-- The exact value of a finite double as a signed numerator over a power of two. -/
def exactParts (x : Float) : Int × Nat :=
  match decode x with
  | .finite neg m e =>
    let n : Int := if neg then -(m : Int) else m
    if e ≥ 0 then (n * 2 ^ e.toNat, 0) else (n, (-e).toNat)
  | _ => (0, 0)

/-- `a / b` for a positive `b`, rounded to the nearest integer. -/
def divRound (a : Int) (b : Nat) : Int :=
  if b = 0 then 0 else (2 * a + b) / (2 * b : Nat)

/-- A double's value at precision `p`, rounded. -/
def toFixed (x : Float) (p : Nat) : Int :=
  let (n, k) := exactParts x
  if k ≤ p then n * 2 ^ (p - k) else divRound n (2 ^ (k - p))

/-- The product of two values at precision `p`. -/
def fixedMul (a b : Int) (p : Nat) : Int := divRound (a * b) (2 ^ p)

/-- `Σ_{k ≥ 0} wᵏ/(2k+1)` at precision `p`, for `|w| < 1` at that precision; `fuel` bounds the
number of terms. -/
def oddSeries (w : Int) (p : Nat) : Nat → Int → Int → Nat → Int
  | 0, acc, _, _ => acc
  | fuel + 1, acc, pow, k =>
    if pow = 0 then acc
    else oddSeries w p fuel (acc + pow / (2 * k + 1 : Nat)) (fixedMul pow w p) (k + 1)

/-- `atanh z` at precision `p` for `|z| ≤ 1/2`: `z · Σ z²ᵏ/(2k+1)`. -/
def atanhFixed (z : Int) (p : Nat) : Int :=
  fixedMul z (oddSeries (fixedMul z z p) p (p + 8) 0 (2 ^ p) 0) p

/-- `ln 2` at precision `p`, as `2 · atanh(1/3)`. -/
def ln2Fixed (p : Nat) : Int := 2 * atanhFixed (divRound (2 ^ p) 3) p

/-- `atan(1/n)` at precision `p`: `Σ (-1)ᵏ / ((2k+1)·n^(2k+1))`. -/
def atanInverse (n : Nat) (p : Nat) : Int :=
  let rec go : Nat → Int → Int → Nat → Int
    | 0, acc, _, _ => acc
    | fuel + 1, acc, pow, k =>
      if pow = 0 then acc
      else
        let term := pow / (2 * k + 1 : Nat)
        go fuel (if k % 2 = 0 then acc + term else acc - term) (pow / (n * n : Nat)) (k + 1)
  go (p + 8) 0 ((2 ^ p : Nat) / n) 0

/-- `π` at precision `p`, by Machin's formula `π = 16 atan(1/5) - 4 atan(1/239)`. -/
def piFixed (p : Nat) : Int := 16 * atanInverse 5 (p + 8) / 256 - 4 * atanInverse 239 (p + 8) / 256

/-- `eʳ` at precision `p` for `|r| ≤ 1`, by its series; `fuel` bounds the number of terms. -/
def expSeries (r : Int) (p : Nat) : Nat → Int → Int → Nat → Int
  | 0, acc, _, _ => acc
  | fuel + 1, acc, term, n =>
    if term = 0 then acc
    else expSeries r p fuel (acc + term) (fixedMul term r p / (n + 1 : Nat)) (n + 1)

/-- `e` to the value `x` at precision `p`: `2ᵏ · eʳ` for `x = k·ln 2 + r`. -/
def expFixed (x : Int) (p : Nat) : Int :=
  let q := p + 16
  let xq := x * 2 ^ 16
  let ln2 := ln2Fixed q
  let k := divRound xq ln2.toNat
  let r := xq - k * ln2
  let e := expSeries r q (q + 8) 0 (2 ^ q) 0
  let scaled := if k ≥ 0 then e * 2 ^ k.toNat else e / (2 ^ (-k).toNat : Nat)
  scaled / (2 ^ 16 : Nat)

/-- The natural logarithm of a positive rational `num / den` at precision `p`. -/
def logFixed (num den : Nat) (p : Nat) : Int :=
  -- `num / den = 2^e · m` with `m` within a factor of `√2` of one
  let e : Int := (bitLength num : Int) - (bitLength den : Int)
  let (a, b) := if e ≥ 0 then (num, den * 2 ^ e.toNat) else (num * 2 ^ (-e).toNat, den)
  let (a, b, e) := if 2 * a * a < b * b then (2 * a, b, e - 1)
    else if a * a > 2 * b * b then (a, 2 * b, e + 1) else (a, b, e)
  let z := divRound (((a : Int) - b) * 2 ^ p) (a + b)
  2 * atanhFixed z p + e * ln2Fixed p

/-- The double nearest to `v / 2^p · num / 2^k`, or `none` past the largest. -/
def roundScaled (v : Int) (p : Nat) (num : Int) (k : Nat) : Option Float :=
  let t := v * num
  ofRatio (t < 0) t.natAbs (2 ^ (p + k))

/-- `eˣ - 1` for a finite double, rounded once; `none` when it overflows. -/
def expm1Exact (x : Float) : Option Float :=
  let p := 160
  let (n, k) := exactParts x
  if n = 0 then some x
  else if x.abs < 1 then
    -- `F(x) = Σ xⁿ/(n+1)!` and `eˣ - 1 = x · F(x)`
    let xf := toFixed x p
    let rec go : Nat → Int → Int → Nat → Int
      | 0, acc, _, _ => acc
      | fuel + 1, acc, term, i =>
        if term = 0 then acc
        else go fuel (acc + term) (fixedMul term xf p / (i + 2 : Nat)) (i + 1)
    roundScaled (go (p + 8) 0 (2 ^ p) 0) p n k
  else if x > 710 then none
  else
    let v := expFixed (toFixed x p) p - 2 ^ p
    roundScaled v p 1 0

/-- `ln(1 + x)` for a finite double above `-1`, rounded once. -/
def log1pExact (x : Float) : Float :=
  let p := 160
  let (n, k) := exactParts x
  if n = 0 then x
  else if x.abs < 0.5 then
    -- `z = x / (2 + x)` exactly, and `ln(1 + x) = 2z · H(z²)`
    let zNum : Int := n
    let zDen : Int := 2 * 2 ^ k + n
    let zf := divRound (zNum * 2 ^ p) zDen.toNat
    let hv := oddSeries (fixedMul zf zf p) p (p + 8) 0 (2 ^ p) 0
    let t := 2 * zNum * hv
    (ofRatio (t < 0) t.natAbs (zDen.toNat * 2 ^ p)).getD x
  else
    let num := (n + 2 ^ k).toNat
    let v := logFixed num (2 ^ k) p
    (roundScaled v p 1 0).getD x

/-- `2/√π` at precision `p`. -/
def twoOverRootPi (p : Nat) : Int :=
  let root := isqrt ((piFixed p).toNat * 2 ^ p)
  divRound (2 ^ (2 * p + 1)) root

/-- `Σ (-y)ⁿ/(n!·(2n+1))` at precision `p`, for `y` at precision `p`. -/
def erfSeries (y : Int) (p : Nat) (fuel : Nat) : Int :=
  let rec go : Nat → Int → Int → Nat → Int
    | 0, acc, _, _ => acc
    | fuel + 1, acc, term, i =>
      if term = 0 then acc
      else go fuel (acc + term / (2 * i + 1 : Nat)) (-(fixedMul term y p) / (i + 1 : Nat)) (i + 1)
  go fuel 0 (2 ^ p) 0

/-- `x · S(x²)` at precision `p`, as a numerator over `2^(p + k)` with `x = n / 2^k`. -/
def erfScaled (x : Float) (p : Nat) : Int × Nat :=
  let (n, k) := exactParts x
  let xf := toFixed x p
  let y := fixedMul xf xf p
  let s := fixedMul (twoOverRootPi p) (erfSeries y p (8 * p + 64)) p
  (n * s, p + k)

/-- The error function of a finite double, rounded once. -/
def erfExact (x : Float) : Float :=
  let (n, _) := exactParts x
  if n = 0 then x
  else if x.abs ≥ 6 then (if x < 0 then -1.0 else 1.0)
  else
    let (t, d) := erfScaled x 200
    (ofRatio (t < 0) t.natAbs (2 ^ d)).getD x

/-- The complementary error function of a finite double, rounded once. -/
def erfcExact (x : Float) : Float :=
  if x ≤ -6 then 2.0
  else if x > 27.3 then 0.0
  else
    let x2 := if x > 0 then x * x else 0
    -- enough bits to outweigh the cancellation between `1` and `erf x ≈ 1 - e^(-x²)`
    let p := 200 + 3 * (x2.ceil.toUInt64.toNat)
    let (t, d) := erfScaled x p
    let one : Int := 2 ^ d
    let r := one - t
    (ofRatio (r < 0) r.natAbs (2 ^ d)).getD 0.0

end StubDoctest.Number
