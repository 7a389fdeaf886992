import StubDoctest.Exec.Methods

/-!
# Builtin functions and the constructors of the runtime's classes

The functions every program sees without an import, and what calling a runtime class makes:
numbers from text or other numbers, containers from iterables, ranges, slices, iterators that
enumerate, zip, map, filter or reverse, and exceptions carrying their arguments.

Iterators made by `map`, `filter`, `zip` and `enumerate` compute their items when made.
-/

namespace StubDoctest.Exec

open StubDoctest.Text

/-- The keyword argument of a name, if given. -/
def kwArg (kw : List (String × Value)) (name : String) : Option Value :=
  (kw.find? (·.1 == name)).map (·.2)

/-- Refuse keyword arguments other than the named ones. -/
def onlyKeywords (what : String) (kw : List (String × Value)) (allowed : List String) : Eval Unit := do
  for (k, _) in kw do
    if !allowed.contains k then
      if allowed.isEmpty then throwExc "TypeError" (what ++ "() takes no keyword arguments")
      else throwExc "TypeError" ("'" ++ k ++ "' is an invalid keyword argument for " ++ what ++ "()")

/-- The positional arguments of a builtin taking exactly `n`. -/
def exactly (what : String) (args : List Value) (n : Nat) : Eval Unit := do
  if args.length != n then
    if n = 1 then
      throwExc "TypeError" (what ++ "() takes exactly one argument (" ++ toString args.length ++ " given)")
    else
      throwExc "TypeError" (what ++ " expected " ++ toString n ++ " arguments, got " ++ toString args.length)

/-- The stream objects of `sys`. -/
def isStream (v : Value) (which : String) : Eval Bool := do
  match v with
  | .ref a =>
    match ← getObj a with
    | .module n _ => return n == which
    | _ => return false
  | _ => return false

/-- `print(*args, sep=' ', end='\n', file=None, flush=False)`. -/
def builtinPrint (h : Hooks) (args : List Value) (kw : List (String × Value)) : Eval Value := do
  onlyKeywords "print" kw ["sep", "end", "file", "flush"]
  let textOpt (k : String) (dflt : String) : Eval String := do
    match kwArg kw k with
    | none | some .none => return dflt
    | some (.str s) => return s
    | some v => throwExc "TypeError" (k ++ " must be None or a string, not " ++ (← typeName v))
  let sep ← textOpt "sep" " "
  let stop ← textOpt "end" "\n"
  -- Each piece is written as soon as it is made: the separators, each argument's plain form
  -- and the end.
  let write : String → Eval Unit ← match kwArg kw "file" with
    | none | some .none => pure emit
    | some f =>
      if ← isStream f "sys.stderr" then pure fun _ => pure ()
      else if ← isStream f "sys.stdout" then pure emit
      else
        let w ← getAttr h f "write"
        pure fun t => discard <| h.call w [.str t] []
  let mut first := true
  for v in args do
    if !first then write sep
    first := false
    write (← strOf h showFuel v)
  write stop
  match kwArg kw "file", kwArg kw "flush" with
  | some f, some fl =>
    if (← truthy h fl) && !(← isStream f "sys.stdout") && !(← isStream f "sys.stderr") then
      discard <| h.call (← getAttr h f "flush") [] []
  | _, _ => pure ()
  return .none

/-- The best item by an order test: `min` with `<`, `max` with `>`. -/
def extremum (h : Hooks) (fuel : Nat) (what : String) (op : StubDoctest.Source.CmpOp)
    (args : List Value) (kw : List (String × Value)) : Eval Value := do
  onlyKeywords what kw ["key", "default"]
  let items ← match args with
    | [] => throwExc "TypeError" (what ++ " expected at least 1 argument, got 0")
    | [it] => iterate h fuel it
    | many =>
      if (kwArg kw "default").isSome then
        throwExc "TypeError" ("Cannot specify a default for " ++ what ++ "() with multiple positional arguments")
      pure many.toArray
  let key := (kwArg kw "key").getD .none
  if items.isEmpty then
    match kwArg kw "default" with
    | some d => return d
    | none => throwExc "ValueError" (what ++ "() arg is an empty sequence")
  let keyOf (x : Value) : Eval Value := match key with
    | .none => pure x
    | f => h.call f [x] []
  let mut best := items[0]!
  let mut bestKey ← keyOf best
  for x in items.extract 1 items.size do
    let k ← keyOf x
    if ← orderValues h fuel op k bestKey then
      best := x
      bestKey := k
  return best

/-- `sum(iterable, start=0)`. -/
def builtinSum (h : Hooks) (fuel : Nat) (args : List Value) (kw : List (String × Value)) :
    Eval Value := do
  onlyKeywords "sum" kw ["start"]
  let (it, start) ← match args with
    | [it] => pure (it, (kwArg kw "start").getD (.int 0))
    | [it, s] => pure (it, s)
    | _ => throwExc "TypeError" ("sum() takes at most 2 arguments (" ++ toString args.length ++ " given)")
  match start with
  | .str _ => throwExc "TypeError" "sum() can't sum strings [use ''.join(seq) instead]"
  | .bytes _ => throwExc "TypeError" "sum() can't sum bytes [use b''.join(seq) instead]"
  | _ => pure ()
  let mut acc := start
  for x in ← iterate h fuel it do
    acc ← binaryOp h .add acc x
  return acc

/-- `abs(x)`. -/
def builtinAbs (h : Hooks) (whole : Value) : Eval Value := do
  let v ← unwrapData whole "__abs__"
  match v with
  | .int n => return .int n.natAbs
  | .bool b => return .int (if b then 1 else 0)
  | .float x => return .float x.abs
  | .complex re im =>
    let r := Number.hypot [re, im]
    if r.isInf && !re.isInf && !im.isInf then throwExc "OverflowError" "absolute value too large"
    return .float r
  | _ =>
    match ← lookupSpecial v "__abs__" with
    | some fn => h.call fn [v] []
    | none => throwExc "TypeError" ("bad operand type for abs(): '" ++ (← typeName v) ++ "'")

/-- `round(x, ndigits=None)`. -/
def builtinRound (h : Hooks) (args : List Value) (kw : List (String × Value)) : Eval Value := do
  onlyKeywords "round" kw ["ndigits"]
  let (x, nd) ← match args with
    | [x] => pure (x, (kwArg kw "ndigits").getD .none)
    | [x, n] => pure (x, n)
    | _ => throwExc "TypeError" ("round() takes at most 2 arguments (" ++ toString args.length ++ " given)")
  let x ← unwrapData x "__round__"
  match x with
  | .float f =>
    match nd with
    | .none => return .int (← roundFloatToInt f)
    | n => return .float (← roundFloatDigits f (← intArg h n))
  | .int n =>
    match nd with
    | .none => return .int n
    | d => return .int (roundIntDigits n (← intArg h d))
  | .bool b =>
    let n : Int := if b then 1 else 0
    match nd with
    | .none => return .int n
    | d => return .int (roundIntDigits n (← intArg h d))
  | _ =>
    match ← lookupSpecial x "__round__" with
    | some fn => h.call fn (match nd with | .none => [x] | d => [x, d]) []
    | none => throwExc "TypeError" ("type " ++ (← typeName x) ++ " doesn't define __round__ method")

/-- `divmod(a, b)`. -/
def builtinDivmod (h : Hooks) (a b : Value) : Eval Value := do
  match a.intValue?, b.intValue? with
  | some x, some y =>
    if y = 0 then throwExc "ZeroDivisionError" "integer division or modulo by zero"
    let (q, r) := intDivmod x y
    return .tuple [.int q, .int r]
  | _, _ =>
    match ← asFloat? a, ← asFloat? b with
    | some x, some y =>
      if y == 0 then throwExc "ZeroDivisionError" "float divmod()"
      return .tuple [.float (floatFloorDiv x y), .float (floatMod x y)]
    | _, _ =>
      match ← lookupSpecial a "__divmod__" with
      | some fn => h.call fn [a, b] []
      | none =>
        throwExc "TypeError" ("unsupported operand type(s) for divmod(): '" ++ (← typeName a) ++
          "' and '" ++ (← typeName b) ++ "'")

/-- `isinstance(x, c)` or `issubclass(x, c)`: a tuple tests each of its items, nested at most
`depth` deep; a class whose metaclass, or any other value whose class, has the hook `check`
decides through it; otherwise `x`'s class, or `x` itself, must descend from the class `c`. -/
def classTest (h : Hooks) (depth : Nat) (what check : String) (x c : Value) : Eval Bool := do
  match c with
  | .tuple items =>
    match depth with
    | 0 => throwExc "RecursionError" "maximum recursion depth exceeded in __instancecheck__"
    | d + 1 =>
      for it in items do
        if ← classTest h d what check x it then return true
      return false
  | _ =>
    if let some hook ← lookupSpecial c check then
      return ← truthy h (← h.call hook [c, x] [])
    let k ← match ← classOfValue? c with
      | some k => pure k
      | none =>
        throwExc "TypeError" (what ++ " arg 2 must be a type, a tuple of types, or a union")
    if check == "__instancecheck__" then isSubclass (← typeOf x) k
    else
      match ← classOfValue? x with
      | some t => isSubclass t k
      | none => throwExc "TypeError" "issubclass() arg 1 must be a class"

/-- A fake identity of a value. -/
def identityOf (v : Value) : Eval Int := do
  match v with
  | .ref a => return 0x7f3a1c000000 + a * 48
  | _ => return 0x7f3a10000000 + ((← hashOf 64 v).getD 0) % 0x1000000 * 16

/-- The first positional argument, or the default. -/
def firstArg (args : List Value) (dflt : Value) : Value := args.headD dflt

/-- `int(x=0, base=10)`. -/
def makeInt (h : Hooks) (args : List Value) (kw : List (String × Value)) : Eval Value := do
  onlyKeywords "int" kw ["base"]
  let base ← match args[1]? with
    | some b => pure (some b)
    | none => pure (kwArg kw "base")
  match args[0]?, base with
  | none, none => return .int 0
  | none, some _ => throwExc "TypeError" "int() missing string argument"
  | some x, some b =>
    let b ← intArg h b
    if !(b = 0 || (2 ≤ b && b ≤ 36)) then throwExc "ValueError" "int() base must be >= 2 and <= 36, or 0"
    match x with
    | .str s =>
      -- Bases that are powers of two have no limit on the digits.
      if b != 2 && b != 4 && b != 8 && b != 16 && b != 32 then
        checkDigitCount (s.toList.filter Char.isAlphanum).length
      match parseIntText s b.toNat with
      | some n => return .int n
      | none => throwExc "ValueError" ("invalid literal for int() with base " ++ toString b ++ ": " ++
          Text.quote s)
    | _ => throwExc "TypeError" "int() can't convert non-string with explicit base"
  | some x, none =>
    match ← unwrapData x "__int__" with
    | .int n => return .int n
    | .bool b => return .int (if b then 1 else 0)
    | .float f => return .int (← floatToInt f)
    | .str s =>
      checkDigitCount (s.toList.filter Char.isDigit).length
      match parseIntText s 10 with
      | some n => return .int n
      | none => throwExc "ValueError" ("invalid literal for int() with base 10: " ++ Text.quote s)
    | .bytes bs =>
      match parseIntText (String.ofList (bs.map fun b => Char.ofNat b.toNat)) 10 with
      | some n => return .int n
      | none => throwExc "ValueError" ("invalid literal for int() with base 10: " ++ bytesRepr bs)
    | _ =>
      match ← lookupSpecial x "__int__" with
      | some fn => h.call fn [x] []
      | none =>
        match ← lookupSpecial x "__index__" with
        | some fn => h.call fn [x] []
        | none =>
          throwExc "TypeError" ("int() argument must be a string, a bytes-like object or a real number, not '" ++
            (← typeName x) ++ "'")

/-- `float(x=0.0)`. -/
def makeFloat (h : Hooks) (args : List Value) : Eval Value := do
  match args with
  | [] => return .float 0.0
  | [x] =>
    match ← unwrapData x "__float__" with
    | .float f => return .float f
    | .int n => return .float (← toFloat n)
    | .bool b => return .float (if b then 1.0 else 0.0)
    | .str s =>
      match parseFloatText s with
      | some f => return .float f
      | none => throwExc "ValueError" ("could not convert string to float: " ++ Text.quote s)
    | _ =>
      match ← lookupSpecial x "__float__" with
      | some fn => h.call fn [x] []
      | none =>
        match ← lookupSpecial x "__index__" with
        | some fn =>
          match ← h.call fn [x] [] with
          | .int n => return .float (← toFloat n)
          | r => return r
        | none =>
          throwExc "TypeError" ("float() argument must be a string or a real number, not '" ++
            (← typeName x) ++ "'")
  | _ => throwExc "TypeError" ("float expected at most 1 argument, got " ++ toString args.length)

/-- `range(stop)` or `range(start, stop[, step])`. -/
def makeRange (h : Hooks) (args : List Value) : Eval Value := do
  let ints ← args.mapM (intArg h)
  match ints with
  | [b] => return .range 0 b 1
  | [a, b] => return .range a b 1
  | [a, b, c] =>
    if c = 0 then throwExc "ValueError" "range() arg 3 must not be zero"
    return .range a b c
  | [] => throwExc "TypeError" "range expected at least 1 argument, got 0"
  | _ => throwExc "TypeError" ("range expected at most 3 arguments, got " ++ toString args.length)

/-- `dict(mapping_or_pairs=(), **kw)`. -/
def makeDict (h : Hooks) (fuel : Nat) (args : List Value) (kw : List (String × Value)) : Eval Value := do
  let mut es : Array (Value × Value) := #[]
  match args with
  | [] => pure ()
  | [src] =>
    for (k, v) in ← pairsOf h fuel src do
      es ← dictInsert h es k v
  | _ => throwExc "TypeError" ("dict expected at most 1 argument, got " ++ toString args.length)
  for (k, v) in kw do
    es ← dictInsert h es (.str k) v
  allocRef (.dict es)

/-- `reversed(seq)`: a list is walked down as it is when each item is taken; a range becomes the
range walked the other way; other sequences are walked down from their items. -/
def makeReversed (h : Hooks) (fuel : Nat) (v : Value) : Eval Value := do
  match ← lookupSpecial v "__reversed__" with
  | some fn => h.call fn [v] []
  | none =>
    let refuse : Eval Value := do
      throwExc "TypeError" ("'" ++ (← typeName v) ++ "' object is not reversible")
    let fixed (kind : String) (items : Array Value) : Eval Value :=
      allocRef (.iterator kind (.items items.reverse 0))
    match ← unwrapData v "__len__" with
    | .str s => fixed "reversed" (← iterate h fuel (.str s))
    | .tuple xs => fixed "reversed" (← iterate h fuel (.tuple xs))
    | .bytes bs => fixed "reversed" (← iterate h fuel (.bytes bs))
    | .range a b c =>
      let n : Int := rangeLength a b c
      allocRef (.iterator "range_iterator" (.range (a + (n - 1) * c) (a - c) (-c)))
    | .ref a =>
      match ← getObj a with
      | .list xs => allocRef (.iterator "list_reverseiterator" (.listBack a ((xs.size : Int) - 1)))
      | .dict _ => fixed "dict_reversekeyiterator" (← viewItems a .keys)
      | .view d part =>
        let kind := match part with
          | .keys => "dict_reversekeyiterator"
          | .values => "dict_reversevalueiterator"
          | .items => "dict_reverseitemiterator"
        fixed kind (← viewItems d part)
      | .inst _ _ _ =>
        if (← lookupSpecial v "__len__").isSome && (← lookupSpecial v "__getitem__").isSome then
          let n ← lengthOf h v
          let mut items : Array Value := #[]
          for i in [0:n] do
            items := items.push (← getItem h v (.int i))
          fixed "reversed" items
        else refuse
      | _ => refuse
    | _ => refuse

/-- Whether a value can be called. -/
def isCallable (v : Value) : Eval Bool := do
  match v with
  | .cls _ | .builtinFn _ | .method _ _ | .descriptor _ _ => return true
  | .ref a =>
    match ← getObj a with
    | .function _ | .boundMethod _ _ | .userClass _ _ _ _ _ => return true
    | .inst _ _ _ => return (← lookupSpecial v "__call__").isSome
    | _ => return false
  | _ => return false

/-- Call a runtime class to make a value. -/
def construct (h : Hooks) (fuel : Nat) (cls : String) (args : List Value) (kw : List (String × Value)) :
    Eval Value := do
  let noKw : Eval Unit := onlyKeywords cls kw []
  match cls with
  | "int" => makeInt h args kw
  | "float" => noKw; makeFloat h args
  | "bool" =>
    noKw
    match args with
    | [] => return .bool false
    | [x] => return .bool (← truthy h x)
    | _ => throwExc "TypeError" ("bool expected at most 1 argument, got " ++ toString args.length)
  | "str" =>
    let obj := args[0]?.orElse fun _ => kwArg kw "object"
    let rest := args.drop 1
    let codecKw := kw.filter (·.1 != "object")
    if rest.isEmpty && codecKw.isEmpty then
      match obj with
      | none => return .str ""
      | some x => return .str (← strOf h showFuel x)
    else
      match obj.getD (.bytes []) with
      | .bytes bs => decodeWith "str" bs rest codecKw
      | .str _ => throwExc "TypeError" "decoding str is not supported"
      | v => throwExc "TypeError" ("decoding to str: need a bytes-like object, " ++ (← typeName v) ++
          " found")
  | "list" =>
    noKw
    match args with
    | [] => allocRef (.list #[])
    | [it] => allocRef (.list (← iterate h fuel it))
    | _ => throwExc "TypeError" ("list expected at most 1 argument, got " ++ toString args.length)
  | "tuple" =>
    noKw
    match args with
    | [] => return .tuple []
    | [it] => return .tuple (← iterate h fuel it).toList
    | _ => throwExc "TypeError" ("tuple expected at most 1 argument, got " ++ toString args.length)
  | "set" | "frozenset" =>
    noKw
    match args with
    | [] => allocRef (.set {} (cls == "frozenset"))
    | [it] =>
      allocRef (.set (← tableOfIterable h fuel it) (cls == "frozenset"))
    | _ => throwExc "TypeError" (cls ++ " expected at most 1 argument, got " ++ toString args.length)
  | "dict" => makeDict h fuel args kw
  | "range" => noKw; makeRange h args
  | "complex" =>
    if args.length > 2 then
      throwExc "TypeError" ("complex() takes at most 2 arguments (" ++ toString args.length ++
        " given)")
    if let some (k, _) := kw.find? (fun p => p.1 != "real" && p.1 != "imag") then
      throwExc "TypeError" ("'" ++ k ++ "' is an invalid keyword argument for complex()")
    let real := args[0]?.orElse fun _ => kwArg kw "real"
    let imag := args[1]?.orElse fun _ => kwArg kw "imag"
    match real, imag with
    | none, none => return .complex 0 0
    | some (.str s), im =>
      if im.isSome then
        throwExc "TypeError" "complex() can't take second arg if first is a string"
      if !underscoresBetweenDigits s.toList then
        throwExc "ValueError" ("could not convert string to complex: " ++ Text.quote s)
      match parseComplexText (String.ofList (s.toList.filter (· != '_'))) with
      | some (re, im) => return .complex re im
      | none => throwExc "ValueError" "complex() arg is a malformed string"
    | re, im =>
      let (a, b) ← match re with
        | none => pure (0.0, 0.0)
        | some x =>
          match ← asComplex? x with
          | some p => pure p
          | none => throwExc "TypeError" ("complex() first argument must be a string or a number, not '" ++
              (← typeName x) ++ "'")
      match im with
      | none => return .complex a b
      | some (.str _) => throwExc "TypeError" "complex() second arg can't be a string"
      | some y =>
        match ← asComplex? y with
        | some (c, d) => return .complex (a - d) (b + c)
        | none => throwExc "TypeError" ("complex() second argument must be a number, not '" ++
            (← typeName y) ++ "'")
  | "bytes" =>
    -- a value whose class says how it is bytes
    if let [x] := args then
      if let some fn ← lookupSpecial x "__bytes__" then
        match ← h.call fn [x] [] with
        | .bytes bs => return .bytes bs
        | r => throwExc "TypeError" ("__bytes__ returned non-bytes (type " ++ (← typeName r) ++ ")")
    return .bytes (← bytesFromArgs h fuel "bytes" args kw)
  | "bytearray" => allocRef (.byteArray (← bytesFromArgs h fuel "bytearray" args kw).toArray)
  | "memoryview" =>
    if !kw.isEmpty && (kw.any (·.1 != "object")) then
      throwExc "TypeError" ("memoryview() got an unexpected keyword argument '" ++
        ((kw.find? (·.1 != "object")).map (·.1)).getD "" ++ "'")
    let x ← match args, kw with
      | [x], [] => pure x
      | [], [(_, x)] => pure x
      | [], [] => throwExc "TypeError" "memoryview() missing required argument 'object' (pos 1)"
      | _, _ => throwExc "TypeError" ("memoryview() takes at most 1 argument (" ++
          toString (args.length + kw.length) ++ " given)")
    let x := (← dataOf? x).getD x
    match x with
    | .bytes bs => allocRef (.memoryView x 0 bs.length false)
    | .ref a =>
      match ← getObj a with
      | .byteArray bs => allocRef (.memoryView x 0 bs.size false)
      | .memoryView src start size released =>
        if released then throwExc "ValueError" "operation forbidden on released memoryview object"
        allocRef (.memoryView src start size false)
      | _ => throwExc "TypeError" ("memoryview: a bytes-like object is required, not '" ++
          (← typeName x) ++ "'")
    | _ => throwExc "TypeError" ("memoryview: a bytes-like object is required, not '" ++
        (← typeName x) ++ "'")
  | "slice" =>
    match args with
    | [b] => return .slice .none b .none
    | [a, b] => return .slice a b .none
    | [a, b, c] => return .slice a b c
    | _ => throwExc "TypeError" ("slice expected at least 1 argument, got " ++ toString args.length)
  | "object" =>
    if !args.isEmpty then throwExc "TypeError" "object() takes no arguments"
    allocRef (.inst (.builtin "object") #[] none)
  | "type" =>
    match args with
    | [x] => return classValue (← typeOf x)
    | _ => throwExc "TypeError" "type() takes 1 or 3 arguments"
  | "enumerate" =>
    onlyKeywords "enumerate" kw ["start"]
    let (it, start) ← match args with
      | [it] => pure (it, (kwArg kw "start").getD (.int 0))
      | [it, s] => pure (it, s)
      | _ => throwExc "TypeError" ("enumerate() takes at most 2 arguments (" ++ toString args.length ++ " given)")
    let s ← intArg h start
    allocRef (.iterator "enumerate" (.enumerated (← iterOf h it) s))
  | "zip" =>
    onlyKeywords "zip" kw ["strict"]
    let strict ← match kwArg kw "strict" with
      | some v => truthy h v
      | none => pure false
    let its ← args.mapM (iterOf h)
    allocRef (.iterator "zip" (.zipped its strict))
  | "map" =>
    noKw
    match args with
    | f :: its =>
      if its.isEmpty then throwExc "TypeError" "map() must have at least two arguments."
      let its ← its.mapM (iterOf h)
      allocRef (.iterator "map" (.mapped f its))
    | [] => throwExc "TypeError" "map() must have at least two arguments."
  | "filter" =>
    noKw
    match args with
    | [f, it] => allocRef (.iterator "filter" (.filtered f (← iterOf h it)))
    | _ => throwExc "TypeError" ("filter expected 2 arguments, got " ++ toString args.length)
  | "reversed" =>
    noKw
    match args with
    | [v] => makeReversed h fuel v
    | _ => throwExc "TypeError" ("reversed expected 1 argument, got " ++ toString args.length)
  | "property" =>
    let g := (args[0]?.orElse fun _ => kwArg kw "fget").getD .none
    let s := (args[1]?.orElse fun _ => kwArg kw "fset").getD .none
    allocRef (.property g s)
  | "staticmethod" => allocRef (.staticMethod (firstArg args .none))
  | "classmethod" => allocRef (.classMethod (firstArg args .none))
  | _ =>
    if ← isExceptionClass (.builtin cls) then makeException (.builtin cls) args kw
    else throwExc "TypeError" ("cannot create '" ++ cls ++ "' instances")

/-- Call a builtin function. -/
def callBuiltin (h : Hooks) (fuel : Nat) (name : String) (args : List Value)
    (kw : List (String × Value)) : Eval Value := do
  let noKw : Eval Unit := onlyKeywords name kw []
  let one : Eval Value := do
    noKw
    exactly name args 1
    return args[0]!
  match name with
  | "print" => builtinPrint h args kw
  | "len" => return .int (← lengthOf h (← one))
  | "repr" => return .str (← reprOf h showFuel [] (← one))
  | "ascii" => return .str (← asciiOf h (← one))
  | "format" =>
    noKw
    match args with
    | [v] => return .str (← formatValue h v "")
    | [v, .str s] => return .str (← formatValue h v s)
    | [_, s] => throwExc "TypeError" ("format() argument 2 must be str, not " ++ (← typeName s))
    | _ => throwExc "TypeError" ("format expected at most 2 arguments, got " ++ toString args.length)
  | "abs" => builtinAbs h (← one)
  | "sum" => builtinSum h fuel args kw
  | "min" => extremum h fuel "min" .lt args kw
  | "max" => extremum h fuel "max" .gt args kw
  | "sorted" =>
    match args with
    | [it] =>
      let (key, rev) ← sortOptions h kw
      let items ← iterate h fuel it
      allocRef (.list (← sortValues h fuel items key rev))
    | _ => throwExc "TypeError" ("sorted expected 1 argument, got " ++ toString args.length)
  | "any" | "all" =>
    -- The items are taken one by one, up to the first that decides.
    let it ← iterOf h (← one)
    let want := name == "any"
    for _ in [0:iterationLimit] do
      match ← advance h fuel it with
      | some x => if (← truthy h x) == want then return .bool want
      | none => return .bool !want
    throw .exhausted
  | "round" => builtinRound h args kw
  | "divmod" =>
    noKw
    match args with
    | [a, b] => builtinDivmod h a b
    | _ => throwExc "TypeError" ("divmod expected 2 arguments, got " ++ toString args.length)
  | "pow" =>
    match args with
    | [a, b] => binaryOp h .pow a b
    | [a, b, .none] => binaryOp h .pow a b
    | [a, b, m] =>
      match a.intValue?, b.intValue?, m.intValue? with
      | some x, some y, some z => return .int (← intPowMod x y z)
      | _, _, _ => throwExc "TypeError" "pow() 3rd argument not allowed unless all arguments are integers"
    | _ => throwExc "TypeError" ("pow expected 2 arguments, got " ++ toString args.length)
  | "isinstance" =>
    noKw
    match args with
    | [x, c] => return .bool (← classTest h 64 "isinstance()" "__instancecheck__" x c)
    | _ => throwExc "TypeError" ("isinstance expected 2 arguments, got " ++ toString args.length)
  | "issubclass" =>
    noKw
    match args with
    | [x, c] => return .bool (← classTest h 64 "issubclass()" "__subclasscheck__" x c)
    | _ => throwExc "TypeError" ("issubclass expected 2 arguments, got " ++ toString args.length)
  | "id" => return .int (← identityOf (← one))
  | "hash" =>
    return .int (← hashValue h keyFuel (← one))
  | "hex" => return .str (prefixedDigits 16 "0x" (← intArg h (← one)))
  | "oct" => return .str (prefixedDigits 8 "0o" (← intArg h (← one)))
  | "bin" => return .str (prefixedDigits 2 "0b" (← intArg h (← one)))
  | "chr" =>
    let n ← intArg h (← one)
    if n < 0 || n ≥ 0x110000 then throwExc "ValueError" "chr() arg not in range(0x110000)"
    return .str (Text.ofCode n.toNat).toString
  | "ord" =>
    match ← one with
    | .str s =>
      match s.toList with
      | [c] => return .int (Text.codeOf c)
      | cs => throwExc "TypeError" ("ord() expected a character, but string of length " ++
          toString cs.length ++ " found")
    | .bytes [b] => return .int b.toNat
    | v => throwExc "TypeError" ("ord() expected string of length 1, but " ++ (← typeName v) ++ " found")
  | "iter" =>
    noKw
    match args with
    | [v] => iterOf h v
    | [f, sentinel] =>
      if !(← isCallable f) then throwExc "TypeError" "iter(v, w): v must be callable"
      allocRef (.iterator "callable_iterator" (.calling f sentinel))
    | [] => throwExc "TypeError" "iter expected at least 1 argument, got 0"
    | _ => throwExc "TypeError" ("iter expected at most 2 arguments, got " ++ toString args.length)
  | "next" =>
    noKw
    match args with
    | [it] =>
      -- What the iterator's own `__next__` raises goes on as it is.
      let direct ← match it with
        | .ref a =>
          match ← getObj a with
          | .generator _ => pure (some (Value.method it "__next__", []))
          | .inst _ _ _ =>
            match ← lookupSpecial it "__next__" with
            | some fn => pure (some (fn, [it]))
            | none => pure none
          | _ => pure none
        | _ => pure none
      match direct with
      | some (f, self) => h.call f self []
      | none =>
        match ← advance h fuel it with
        | some v => return v
        | none => throwBare "StopIteration"
    | [it, d] =>
      match ← advance h fuel it with
      | some v => return v
      | none => return d
    | _ => throwExc "TypeError" ("next expected at least 1 argument, got " ++ toString args.length)
  | "callable" =>
    let v ← one
    match v with
    | .cls _ | .builtinFn _ | .method _ _ | .descriptor _ _ => return .bool true
    | .ref a =>
      match ← getObj a with
      | .function _ | .boundMethod _ _ | .userClass _ _ _ _ _ => return .bool true
      | .inst _ _ _ => return .bool (← lookupSpecial v "__call__").isSome
      | _ => return .bool false
    | _ => return .bool false
  | "getattr" =>
    noKw
    match args with
    | [o, .str n] => getAttr h o n
    | [o, .str n, d] =>
      tryCatch (getAttr h o n) fun
        | .raised e => do if ← excIs e "AttributeError" then pure d else throw (.raised e)
        | s => throw s
    | [_, n] | [_, n, _] =>
      throwExc "TypeError" ("attribute name must be string, not '" ++ (← typeName n) ++ "'")
    | _ => throwExc "TypeError" ("getattr expected at least 2 arguments, got " ++ toString args.length)
  | "hasattr" =>
    noKw
    match args with
    | [o, .str n] =>
      tryCatch (do let _ ← getAttr h o n; pure (.bool true)) fun
        | .raised e => do if ← excIs e "AttributeError" then pure (.bool false) else throw (.raised e)
        | s => throw s
    | [_, n] => throwExc "TypeError" ("attribute name must be string, not '" ++ (← typeName n) ++ "'")
    | _ => throwExc "TypeError" ("hasattr expected 2 arguments, got " ++ toString args.length)
  | "setattr" =>
    noKw
    match args with
    | [o, .str n, v] => setAttr h o n v; return .none
    | [_, n, _] => throwExc "TypeError" ("attribute name must be string, not '" ++ (← typeName n) ++ "'")
    | _ => throwExc "TypeError" ("setattr expected 3 arguments, got " ++ toString args.length)
  | "delattr" =>
    noKw
    match args with
    | [o, .str n] => delAttr h o n; return .none
    | _ => throwExc "TypeError" ("delattr expected 2 arguments, got " ++ toString args.length)
  | "vars" => getAttr h (← one) "__dict__"
  | "input" => throwExc "EOFError" "EOF when reading a line"
  | "open" =>
    match args.head? with
    | some (.str path) =>
      throwExc "FileNotFoundError" ("[Errno 2] No such file or directory: " ++ (← reprOf h showFuel [] (.str path)))
    | some _ => throwExc "OSError" "[Errno 9] Bad file descriptor"
    | none => throwExc "TypeError" "open() missing required argument 'file' (pos 1)"
  | "exit" | "quit" => throw (.raised (← newException (.builtin "SystemExit") args))
  | "sys.stdout.write" =>
    match args with
    | [.str s] => emit s; return .int s.length
    | [v] => throwExc "TypeError" ("write() argument must be str, not " ++ (← typeName v))
    | _ => throwExc "TypeError" "write() takes exactly one argument"
  | "sys.stderr.write" =>
    match args with
    | [.str s] => return .int s.length
    | _ => throwExc "TypeError" "write() takes exactly one argument"
  | "sys.getrecursionlimit" => return .int (← get).recursionLimit
  | "sys.setrecursionlimit" =>
    match args with
    | [v] =>
      let n ← intArg h v
      if n < 1 then throwExc "ValueError" "recursion limit must be greater or equal than 1"
      let m ← get
      let depth := m.depth + m.baseDepth
      if depth ≥ n.toNat then
        throwExc "RecursionError" ("cannot set the recursion limit to " ++ toString n ++
          " at the recursion depth " ++ toString depth ++ ": the limit is too low")
      set { m with recursionLimit := n.toNat }
      return .none
    | _ => throwExc "TypeError" ("setrecursionlimit() takes exactly one argument (" ++
        toString args.length ++ " given)")
  | "sys.get_int_max_str_digits" => return .int (← get).intDigitLimit
  | "sys.set_int_max_str_digits" =>
    let v ← match args, kw with
      | [v], [] | [], [("maxdigits", v)] => pure v
      | _, _ => throwExc "TypeError" ("set_int_max_str_digits() takes exactly one argument (" ++
          toString args.length ++ " given)")
    let n ← intArg h v
    if n ≠ 0 && n < 640 then throwExc "ValueError" "maxdigits must be 0 or larger than 640"
    modify fun m => { m with intDigitLimit := n.toNat }
    return .none
  | "sys.stdout.flush" | "sys.stderr.flush" => return .none
  | "sys.exit" => throw (.raised (← newException (.builtin "SystemExit") args))
  | "sys.exc_info" =>
    match (← get).handling with
    | e :: _ => return .tuple [classValue (← typeOf e), e, .none]
    | [] => return .tuple [.none, .none, .none]
  | "sys.exception" =>
    match (← get).handling with
    | e :: _ => return e
    | [] => return .none
  | _ => throwExc "TypeError" ("'" ++ name ++ "' is not callable here")

end StubDoctest.Exec
