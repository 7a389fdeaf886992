import StubDoctest.Exec.Bind
import StubDoctest.Exec.Patterns
import StubDoctest.Number.Precise
import StubDoctest.Number.Gamma

/-!
# Modules a program can import

`sys` (its output streams, `maxsize`, `version_info`, the recursion limit and `exit`) and `math`
(constants and functions on floats and integers, refusing arguments outside their domain with
`math domain error`).
A module is made once per run and kept; importing an unknown one fails.
-/

namespace StubDoctest.Exec

/-- The names of `math`'s functions. -/
def mathFunctions : List String :=
  ["sqrt", "floor", "ceil", "trunc", "fabs", "factorial", "gcd", "lcm", "isqrt", "log", "log2",
    "log10", "log1p", "exp", "expm1", "pow", "sin", "cos", "tan", "asin", "acos", "atan", "atan2",
    "sinh", "cosh", "tanh", "hypot", "degrees", "radians", "isnan", "isinf", "isfinite",
    "isclose", "prod", "fsum", "comb", "perm", "copysign", "fmod", "modf", "frexp", "ldexp",
    "dist", "remainder", "cbrt", "exp2", "gamma", "lgamma", "erf", "erfc", "nextafter", "ulp"]

/-- The attributes of a module by name, or `none` for a module that does not exist. -/
def moduleAttrs (name : String) : Eval (Option (Array (String × Value))) := do
  match name with
  | "sys" =>
    let out ← allocRef (.module "sys.stdout" #[("write", .builtinFn "sys.stdout.write"),
      ("flush", .builtinFn "sys.stdout.flush")])
    let err ← allocRef (.module "sys.stderr" #[("write", .builtinFn "sys.stderr.write"),
      ("flush", .builtinFn "sys.stderr.flush")])
    let path ← allocRef (.list #[])
    let argv ← allocRef (.list #[.str ""])
    let mods ← allocRef (.dict #[])
    return some #[("stdout", out), ("stderr", err), ("maxsize", .int (2 ^ 63 - 1)),
      ("maxunicode", .int 1114111), ("byteorder", .str "little"), ("platform", .str "linux"),
      ("version_info", .tuple [.int 3, .int 11, .int 9, .str "final", .int 0]),
      ("version", .str "3.11.9"), ("path", path), ("argv", argv), ("modules", mods),
      ("getrecursionlimit", .builtinFn "sys.getrecursionlimit"),
      ("setrecursionlimit", .builtinFn "sys.setrecursionlimit"), ("exit", .builtinFn "sys.exit"),
      ("get_int_max_str_digits", .builtinFn "sys.get_int_max_str_digits"),
      ("set_int_max_str_digits", .builtinFn "sys.set_int_max_str_digits"),
      ("exc_info", .builtinFn "sys.exc_info"), ("exception", .builtinFn "sys.exception")]
  | "math" =>
    return some (#[("pi", .float 3.141592653589793), ("e", .float 2.718281828459045),
      ("tau", .float 6.283185307179586), ("inf", .float infValue), ("nan", .float nanValue)] ++
      (mathFunctions.map fun f => (f, Value.builtinFn ("math." ++ f))).toArray)
  | "re" =>
    return some #[("_parse", .builtinFn "re._parse"), ("_search", .builtinFn "re._search"),
      ("_scan", .builtinFn "re._scan")]
  | _ => return none

/-- The module of a top-level name, made on its first import. -/
def importTopModule (name : String) : Eval Value := do
  match (← get).modules.find? (·.1 == name) with
  | some (_, a) => return .ref a
  | none =>
    match ← moduleAttrs name with
    | some attrs =>
      let a ← alloc (.module name attrs)
      modify fun m => { m with modules := (name, a) :: m.modules }
      return .ref a
    | none => throwExc "ModuleNotFoundError" ("No module named '" ++ name ++ "'")

/-- The module of a dotted name: its first part is imported first, and none of the modules
here is a package, so a dotted name past a module that exists names nothing. -/
def importModule (name : String) : Eval Value := do
  match name.splitOn "." with
  | [_] => importTopModule name
  | top :: sub :: _ =>
    let _ ← importTopModule top
    throwExc "ModuleNotFoundError" ("No module named '" ++ top ++ "." ++ sub ++ "'; '" ++ top ++
      "' is not a package")
  | [] => importTopModule name

/-- The fault of an argument outside a function's domain. -/
def domainFault {α : Type} : Eval α := throwExc "ValueError" "math domain error"

/-- A float argument of a `math` function. -/
def floatArg (h : Hooks) (v : Value) : Eval Float := do
  match ← asFloat? v with
  | some x => return x
  | none =>
    match ← lookupSpecial v "__float__" with
    | some fn =>
      match ← h.call fn [v] [] with
      | .float x => return x
      | _ => throwExc "TypeError" "must be real number"
    | none => throwExc "TypeError" ("must be real number, not " ++ (← typeName v))

/-- A float result, refused when it overflows from finite arguments. -/
def rangeChecked (x : Float) (args : List Float) : Eval Value := do
  if x.isInf && args.all (fun a => !a.isInf) then throwExc "OverflowError" "math range error"
  return .float x

/-- A function of one float argument with its domain. -/
def unaryMath (h : Hooks) (args : List Value) (what : String) (ok : Float → Bool) (f : Float → Float) :
    Eval Value := do
  match args with
  | [v] =>
    let x ← floatArg h v
    if x.isNaN then return .float x
    if !ok x then domainFault
    rangeChecked (f x) [x]
  | _ => throwExc "TypeError" ("math." ++ what ++ "() takes exactly one argument (" ++
      toString args.length ++ " given)")

/-- A logarithm `f` of a positive integer, also beyond the range of floats: of the nearest
double when there is one, else `f x + f 2 · e` for the integer's leading part `x` in `[1/2, 1]`
and its binary length `e`. -/
def logOfNat (f : Float → Float) (n : Nat) : Float :=
  match Number.ofInt n with
  | some x => f x
  | none =>
    let e := Number.bitLength n
    f ((Number.ofRatio false n (2 ^ e)).getD 1) + f 2.0 * e.toFloat

/-- The factorial of a natural number. -/
def factorialOf (n : Nat) : Nat := (List.range n).foldl (fun acc i => acc * (i + 1)) 1

/-- The exact sum of finite floats, rounded once. -/
def exactSum (xs : List Float) : Float :=
  let parts := xs.map fun x =>
    match StubDoctest.Number.decode x with
    | .finite neg m e => ((if neg then -(m : Int) else m), e)
    | _ => (0, 0)
  let minE : Int := (parts.map (·.2)).foldl min 0
  let total : Int := parts.foldl (fun acc (m, e) => acc + m * (2 ^ (e - minE).toNat : Nat)) 0
  let r := if minE ≥ 0 then StubDoctest.Number.ofRatio (total < 0) (total.natAbs * 2 ^ minE.toNat) 1
    else StubDoctest.Number.ofRatio (total < 0) total.natAbs (2 ^ (-minE).toNat)
  r.getD (if total < 0 then -infValue else infValue)

/-- Call a function of `math`. -/
def callMath (h : Hooks) (fuel : Nat) (name : String) (args : List Value) (kw : List (String × Value)) :
    Eval Value := do
  let two : Eval (Value × Value) := match args with
    | [a, b] => pure (a, b)
    | _ => throwExc "TypeError" (name ++ " expected 2 arguments, got " ++ toString args.length)
  match name with
  | "sqrt" => unaryMath h args name (· ≥ 0) Float.sqrt
  | "exp" => unaryMath h args name (fun _ => true) Float.exp
  | "exp2" => unaryMath h args name (fun _ => true) (fun x => (2.0 : Float) ^ x)
  | "expm1" => unaryMath h args name (fun _ => true) fun x =>
      if x.isInf then (if x > 0 then x else -1.0) else (Number.expm1Exact x).getD infValue
  | "erf" => unaryMath h args name (fun _ => true) fun x =>
      if x.isInf then (if x > 0 then 1.0 else -1.0) else Number.erfExact x
  | "erfc" => unaryMath h args name (fun _ => true) fun x =>
      if x.isInf then (if x > 0 then 0.0 else 2.0) else Number.erfcExact x
  | "gamma" | "lgamma" =>
    match args with
    | [v] =>
      let x ← floatArg h v
      match (if name == "gamma" then Number.gammaOf x else Number.lgammaOf x) with
      | none => domainFault
      | some r => rangeChecked r [x]
    | _ => throwExc "TypeError" ("math." ++ name ++ "() takes exactly one argument (" ++
        toString args.length ++ " given)")
  | "nextafter" =>
    let (a, b) ← two
    return .float (Number.nextAfter (← floatArg h a) (← floatArg h b))
  | "ulp" =>
    match args with
    | [v] =>
      let x ← floatArg h v
      if x.isNaN || x.isInf then return .float x.abs
      let x := x.abs
      let up := Number.nextAfter x infValue
      if up.isInf then return .float (x - Number.nextAfter x (-infValue))
      return .float (up - x)
    | _ => throwExc "TypeError" ("math.ulp() takes exactly one argument (" ++
        toString args.length ++ " given)")
  | "sin" => unaryMath h args name (fun x => !x.isInf) Float.sin
  | "cos" => unaryMath h args name (fun x => !x.isInf) Float.cos
  | "tan" => unaryMath h args name (fun x => !x.isInf) Float.tan
  | "asin" => unaryMath h args name (fun x => -1 ≤ x && x ≤ 1) Float.asin
  | "acos" => unaryMath h args name (fun x => -1 ≤ x && x ≤ 1) Float.acos
  | "atan" => unaryMath h args name (fun _ => true) Float.atan
  | "sinh" => unaryMath h args name (fun _ => true) Float.sinh
  | "cosh" => unaryMath h args name (fun _ => true) Float.cosh
  | "tanh" => unaryMath h args name (fun _ => true) Float.tanh
  | "cbrt" => unaryMath h args name (fun _ => true) Float.cbrt
  | "fabs" => unaryMath h args name (fun _ => true) Float.abs
  | "degrees" => unaryMath h args name (fun _ => true) (fun x => x * (180.0 / 3.141592653589793))
  | "radians" => unaryMath h args name (fun _ => true) (fun x => x * (3.141592653589793 / 180.0))
  | "log1p" => unaryMath h args name (· > -1) fun x =>
      if x.isInf then x else Number.log1pExact x
  | "log" | "log2" | "log10" =>
    let logWith (f : Float → Float) (v : Value) : Eval Float := do
      match v.intValue? with
      | some n =>
        if n ≤ 0 then domainFault
        else return logOfNat f n.toNat
      | none =>
        let x ← floatArg h v
        if x.isNaN then return x
        if x ≤ 0 then domainFault
        return f x
    match args with
    | [v] =>
      let f : Float → Float := match name with
        | "log2" => Float.log2
        | "log10" => Float.log10
        | _ => Float.log
      return .float (← logWith f v)
    | [v, b] =>
      if name != "log" then throwExc "TypeError" ("math." ++ name ++ "() takes exactly one argument (2 given)")
      let l ← logWith Float.log v
      let lb ← logWith Float.log b
      if lb == 0 then throwExc "ZeroDivisionError" "float division by zero"
      return .float (l / lb)
    | _ => throwExc "TypeError" ("log expected 1 or 2 arguments, got " ++ toString args.length)
  | "pow" =>
    let (a, b) ← two
    let x ← floatArg h a
    let y ← floatArg h b
    if x == 0 && y < 0 then domainFault
    if x < 0 && y.floor != y && !y.isInf then domainFault
    rangeChecked (x ^ y) [x, y]
  | "atan2" =>
    let (a, b) ← two
    return .float (Float.atan2 (← floatArg h a) (← floatArg h b))
  | "fmod" =>
    let (a, b) ← two
    let x ← floatArg h a
    let y ← floatArg h b
    if y == 0 || x.isInf then domainFault
    return .float (Number.fmod x y)
  | "remainder" =>
    let (a, b) ← two
    let x ← floatArg h a
    let y ← floatArg h b
    let r := Number.remainder x y
    if r.isNaN && !x.isNaN && !y.isNaN then domainFault
    return .float r
  | "copysign" =>
    let (a, b) ← two
    return .float (copySign (← floatArg h a) (← floatArg h b))
  | "hypot" =>
    return .float (Number.hypot (← args.mapM (floatArg h)))
  | "dist" =>
    let (a, b) ← two
    let xs ← iterate h fuel a
    let ys ← iterate h fuel b
    if xs.size != ys.size then throwExc "ValueError" "both points must have the same number of dimensions"
    let mut acc : Float := 0
    for (x, y) in xs.zip ys do
      let d := (← floatArg h x) - (← floatArg h y)
      acc := acc + d * d
    return .float acc.sqrt
  | "floor" | "ceil" | "trunc" =>
    match args with
    | [v] =>
      match v.intValue? with
      | some n => return .int n
      | none =>
        match v with
        | .float x =>
          let y := if name == "floor" then x.floor else if name == "ceil" then x.ceil
            else if x < 0 then x.ceil else x.floor
          return .int (← floatToInt y)
        | _ =>
          match ← lookupSpecial v ("__" ++ name ++ "__") with
          | some fn => h.call fn [v] []
          | none =>
            if name == "trunc" then
              throwExc "TypeError" ("type " ++ (← typeName v) ++ " doesn't define __trunc__ method")
            let x ← floatArg h v
            let y := if name == "floor" then x.floor else x.ceil
            return .int (← floatToInt y)
    | _ => throwExc "TypeError" ("math." ++ name ++ "() takes exactly one argument (" ++
        toString args.length ++ " given)")
  | "factorial" =>
    match args with
    | [v] =>
      match v.intValue? with
      | some n =>
        if n < 0 then throwExc "ValueError" "factorial() not defined for negative values"
        return .int (factorialOf n.toNat)
      | none => throwExc "TypeError" ("'" ++ (← typeName v) ++ "' object cannot be interpreted as an integer")
    | _ => throwExc "TypeError" ("math.factorial() takes exactly one argument (" ++ toString args.length ++ " given)")
  | "isqrt" =>
    match args with
    | [v] =>
      let n ← intArg h v
      if n < 0 then throwExc "ValueError" "isqrt() argument must be nonnegative"
      return .int (Number.isqrt n.toNat)
    | _ => throwExc "TypeError" ("math.isqrt() takes exactly one argument (" ++ toString args.length ++ " given)")
  | "gcd" | "lcm" =>
    let ns ← args.mapM (intArg h)
    if name == "gcd" then return .int (ns.foldl (fun acc n => (Int.gcd acc n : Int)) 0)
    else return .int (ns.foldl (fun acc n => (Int.lcm acc n : Int)) 1)
  | "comb" | "perm" =>
    let (a, b) ← match name, args with
      | "perm", [a] => pure (a, Value.none)
      | _, [a, b] => pure (a, b)
      | "perm", [] => throwExc "TypeError" "perm expected at least 1 argument, got 0"
      | "perm", _ => throwExc "TypeError" ("perm expected at most 2 arguments, got " ++
          toString args.length)
      | _, _ => throwExc "TypeError" (name ++ " expected 2 arguments, got " ++ toString args.length)
    let n ← intArg h a
    if n < 0 then throwExc "ValueError" "n must be a non-negative integer"
    match name, b with
    | "perm", .none => return .int (factorialOf n.toNat)
    | _, _ =>
      let k ← intArg h b
      if k < 0 then throwExc "ValueError" "k must be a non-negative integer"
      if k > n then return .int 0
      let p := (List.range k.toNat).foldl (fun acc i => acc * (n.toNat - i)) 1
      return .int (if name == "perm" then p else p / factorialOf k.toNat)
  | "isnan" => match args with
    | [v] => return .bool (← floatArg h v).isNaN
    | _ => throwExc "TypeError" "math.isnan() takes exactly one argument"
  | "isinf" => match args with
    | [v] => return .bool (← floatArg h v).isInf
    | _ => throwExc "TypeError" "math.isinf() takes exactly one argument"
  | "isfinite" => match args with
    | [v] => let x ← floatArg h v; return .bool (!x.isInf && !x.isNaN)
    | _ => throwExc "TypeError" "math.isfinite() takes exactly one argument"
  | "isclose" =>
    let (a, b) ← two
    let x ← floatArg h a
    let y ← floatArg h b
    let rel ← match kwArg kw "rel_tol" with
      | some v => floatArg h v
      | none => pure 1e-9
    let abs ← match kwArg kw "abs_tol" with
      | some v => floatArg h v
      | none => pure 0.0
    if rel < 0 || abs < 0 then throwExc "ValueError" "tolerances must be non-negative"
    if x == y then return .bool true
    if x.isInf || y.isInf then return .bool false
    let d := (x - y).abs
    return .bool (d ≤ (rel * y).abs || d ≤ (rel * x).abs || d ≤ abs)
  | "prod" =>
    match args with
    | [it] =>
      let mut acc := (kwArg kw "start").getD (.int 1)
      for x in ← iterate h fuel it do
        acc ← binaryOp h .mul acc x
      return acc
    | _ => throwExc "TypeError" ("prod() takes exactly 1 positional argument (" ++ toString args.length ++ " given)")
  | "fsum" =>
    match args with
    | [it] =>
      let mut finite : List Float := []
      let mut special : Float := 0.0
      let mut infinite : Float := 0.0
      for v in ← iterate h fuel it do
        let x ← floatArg h v
        if x.isNaN || x.isInf then
          if x.isInf then infinite := infinite + x
          special := special + x
          finite := []
        else
          finite := x :: finite
          if (exactSum finite).isInf then
            throwExc "OverflowError" "intermediate overflow in fsum"
      if special != 0.0 then
        if infinite.isNaN then throwExc "ValueError" "-inf + inf in fsum"
        return .float special
      return .float (exactSum finite)
    | _ => throwExc "TypeError" "fsum() takes exactly one argument"
  | "modf" =>
    match args with
    | [v] =>
      let x ← floatArg h v
      let i := if x < 0 then x.ceil else x.floor
      return .tuple [.float (copySign (x - i) x), .float i]
    | _ => throwExc "TypeError" "math.modf() takes exactly one argument"
  | "frexp" =>
    match args with
    | [v] =>
      let x ← floatArg h v
      let (m, e) := x.frExp
      return .tuple [.float m, .int e]
    | _ => throwExc "TypeError" "math.frexp() takes exactly one argument"
  | "ldexp" =>
    let (a, b) ← two
    let x ← floatArg h a
    let e ← match b.intValue? with
      | some e => pure e
      | none => throwExc "TypeError" "Expected an int as second argument to ldexp."
    if x == 0 || x.isNaN || x.isInf then return .float x
    let r := x.scaleB e
    if r.isInf then throwExc "OverflowError" "math range error"
    return .float r
  | _ => throwExc "AttributeError" ("module 'math' has no attribute '" ++ name ++ "'")

/-- Call a function of the runtime or of a module, by its name. -/
def callLibrary (h : Hooks) (fuel : Nat) (name : String) (args : List Value)
    (kw : List (String × Value)) : Eval Value := do
  if name.startsWith "math." then callMath h fuel (String.ofList (name.toList.drop 5)) args kw
  else if name.startsWith "re._" then callRegex h (String.ofList (name.toList.drop 3)) args
  else callBuiltin h fuel name args kw

end StubDoctest.Exec
