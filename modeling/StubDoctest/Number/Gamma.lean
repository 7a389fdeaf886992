import StubDoctest.Number.Binary

/-!
# The gamma function in double arithmetic

`Γ(x)` and `ln |Γ(x)|` by Lanczos' approximation with `g = 6.0246800407767296` and thirteen
terms, evaluated step by step in double arithmetic, so that each result is the double this
evaluation order gives:

* `Γ(n)` for the integers `1 ≤ n ≤ 23` is the exact factorial from a table;
* for `|x| < 10⁻²⁰`, `Γ(x) = 1/x` and `ln |Γ(x)| = -ln |x|`;
* `Γ(x) = L(x) / e^y · y^(x-1/2)` with `y = x + g - 1/2` and the Lanczos sum `L`, with a
  correction for the rounding of `y`, and the reflection `Γ(-x) = -π / (x · sin(πx) · Γ(x))`
  for negative `x`;
* `ln |Γ(x)| = ln L(x) - g + (x - 1/2)(ln(x + g - 1/2) - 1)`, reflected likewise.

A result is `none` where the function has a pole or is not defined, and infinite where it
overflows.
-/

namespace StubDoctest.Number

/-- The constant `g` of the approximation. -/
def lanczosG : Float := 6.024680040776729583740234375

/-- `g - 1/2`. -/
def lanczosGMinusHalf : Float := 5.524680040776729583740234375

/-- The numerator coefficients of the Lanczos sum. -/
def lanczosNum : List Float :=
  [23531376880.410759688572007674451636754734846804940,
    42919803642.649098768957899047001988850926355848959,
    35711959237.355668049440185451547166705960488635843,
    17921034426.037209699919755754458931112671403265390,
    6039542586.3520280050642916443072979210699388420708,
    1439720407.3117216736632230727949123939715485786772,
    248874557.86205415651146038641322942321632125127801,
    31426415.585400194380614231628318205362874684987640,
    2876370.6289353724412254090516208496135991145378768,
    186056.26539522349504029498971604569928220784236328,
    8071.6720023658162106380029022722506138218516325024,
    210.82427775157934587250973392071336271166969580291,
    2.5066282746310002701649081771338373386264310793408]

/-- The denominator coefficients: those of `x(x+1)…(x+11)`. -/
def lanczosDen : List Float :=
  [0.0, 39916800.0, 120543840.0, 150917976.0, 105258076.0, 45995730.0, 13339535.0,
    2637558.0, 357423.0, 32670.0, 1925.0, 66.0, 1.0]

/-- `Γ(n)` for `n = 1, …, 23`. -/
def gammaIntegral : List Float :=
  [1.0, 1.0, 2.0, 6.0, 24.0, 120.0, 720.0, 5040.0, 40320.0, 362880.0, 3628800.0, 39916800.0,
    479001600.0, 6227020800.0, 87178291200.0, 1307674368000.0, 20922789888000.0,
    355687428096000.0, 6402373705728000.0, 121645100408832000.0, 2432902008176640000.0,
    51090942171709440000.0, 1124000727777607680000.0]

/-- `π` as a double. -/
def piDouble : Float := 3.141592653589793238462643383279502884197

/-- `ln π` as a double. -/
def logPi : Float := 1.144729885849400174143427351353058711647

/-- The Lanczos sum at a positive `x`: the rational function of the coefficients, evaluated
by Horner's rule in `x` below 5 and in `1/x` from 5 on. -/
def lanczosSum (x : Float) : Float :=
  let pairs := lanczosNum.zip lanczosDen
  let (num, den) :=
    if x < 5.0 then
      pairs.foldr (fun (a, b) (n, d) => (n * x + a, d * x + b)) (0.0, 0.0)
    else
      pairs.foldl (fun (n, d) (a, b) => (n / x + a, d / x + b)) (0.0, 0.0)
  num / den

/-- `sin(πx)` for a finite `x`, reduced to a quarter period first so that it is exact at
the integers and half-integers. -/
def sinPi (x : Float) : Float :=
  let y := fmod x.abs 2.0
  let n := (2.0 * y).round
  let r :=
    if n == 0 then (piDouble * y).sin
    else if n == 1 then (piDouble * (y - 0.5)).cos
    else if n == 2 then (piDouble * (1.0 - y)).sin
    else if n == 3 then -(piDouble * (y - 1.5)).cos
    else (piDouble * (y - 2.0)).sin
  (if x < 0 then -1.0 else 1.0) * r

/-- `Γ(x)`, or `none` at a pole or where it is not defined. -/
def gammaOf (x : Float) : Option Float :=
  if x.isNaN then some x
  else if x.isInf then (if x > 0 then some x else none)
  else if x == 0 then none
  else if x == x.floor && x < 0 then none
  else if x == x.floor && x ≤ 23 then gammaIntegral[x.toUInt64.toNat - 1]?
  else
    let ax := x.abs
    if ax < 1e-20 then some (1.0 / x)
    else if ax > 200.0 then
      if x < 0 then some (0.0 / sinPi x) else some (1.0 / 0.0)
    else
      let y := ax + lanczosGMinusHalf
      let z := if ax > lanczosGMinusHalf then (y - ax) - lanczosGMinusHalf
        else (y - lanczosGMinusHalf) - ax
      let z := z * lanczosG / y
      if x < 0 then
        let r := -piDouble / sinPi ax / ax * y.exp / lanczosSum ax
        let r := r - z * r
        if ax < 140.0 then some (r / y ^ (ax - 0.5))
        else
          let s := y ^ (ax / 2.0 - 0.25)
          some (r / s / s)
      else
        let r := lanczosSum ax / y.exp
        let r := r + z * r
        if ax < 140.0 then some (r * y ^ (ax - 0.5))
        else
          let s := y ^ (ax / 2.0 - 0.25)
          some (r * s * s)

/-- `ln |Γ(x)|`, or `none` at a pole. -/
def lgammaOf (x : Float) : Option Float :=
  if x.isNaN then some x
  else if x.isInf then some (1.0 / 0.0)
  else if x == x.floor && x ≤ 2.0 then (if x ≤ 0 then none else some 0.0)
  else
    let ax := x.abs
    if ax < 1e-20 then some (-(ax.log))
    else
      let r := (lanczosSum ax).log - lanczosG
      let r := r + (ax - 0.5) * ((ax + lanczosG - 0.5).log - 1)
      if x < 0 then some (logPi - (sinPi ax).abs.log - ax.log - r) else some r

end StubDoctest.Number
