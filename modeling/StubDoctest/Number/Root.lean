import StubDoctest.Number.Binary

/-!
# Square roots, exact and rounded

The integer square root of a natural number by Newton's iteration, and the length of a vector
of doubles: the square root of the exact sum of their squares, rounded once to the nearest
double.

The rounding is exact because the sum of squares of doubles is a dyadic rational `N / 4^1074`:
its root is `√N / 2^1074`, and `√N` is taken to an integer `r` of at least 60 bits. When `r² = N`
the root is `r` itself; else it lies strictly between `r` and `r + 1`, and `r + 1/2` rounds the
same way, for every rounding boundary of a double is an integer in those units.
-/

namespace StubDoctest.Number

/-- The integer square root: the greatest `r` with `r * r ≤ n`. -/
def isqrt (n : Nat) : Nat :=
  if n < 2 then n
  else
    let rec go (fuel : Nat) (x : Nat) : Nat :=
      match fuel with
      | 0 => x
      | fuel + 1 =>
        let y := (x + n / x) / 2
        if y ≥ x then x else go fuel y
    go (n.log2 + 64) (2 ^ (n.log2 / 2 + 1))

/-- The square of a finite double's magnitude in units of `2^-2148`. -/
def squareUnits (x : Float) : Nat :=
  match decode x with
  | .finite _ m e => m * m * 4 ^ (e + 1074).toNat
  | _ => 0

/-- The length of a vector of doubles, `√(x₁² + … + xₙ²)` rounded once: infinite when a
coordinate is, else not a number when a coordinate is. -/
def hypot (xs : List Float) : Float :=
  if xs.any (·.isInf) then 1.0 / 0.0
  else if xs.any (·.isNaN) then 0.0 / 0.0
  else
    let n := (xs.map squareUnits).foldl (· + ·) 0
    let t := 61 - bitLength n / 2
    let scaled := n * 4 ^ t
    let r := isqrt scaled
    let num := if r * r = scaled then 2 * r else 2 * r + 1
    (ofRatio false num (2 ^ (1074 + t + 1))).getD (1.0 / 0.0)

end StubDoctest.Number
