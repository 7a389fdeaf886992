import StubDoctest.Exec.Compare
import StubDoctest.Number.Root

/-!
# Arithmetic

Integers are exact. An integer meets a float as the nearest double (an overflow when there is
none). Division of integers rounds the exact quotient to the nearest double; floor division and
remainder round toward negative infinity, so the remainder takes the divisor's sign. Floats
follow the same rules through the exact remainder of the two doubles. A power of an integer
with a negative exponent is a float.

Operators on classes a program defines go to
their special methods: the left operand's method first, then the right operand's reflected one;
`NotImplemented` passes the turn, and when both pass the operation is refused.
-/

namespace StubDoctest.Exec

open StubDoctest.Source
open StubDoctest.Number

/-- Not a number. -/
def nanValue : Float := 0.0 / 0.0

/-- Positive infinity. -/
def infValue : Float := 1.0 / 0.0

/-- The double nearest to an integer, or the overflow fault. -/
def toFloat (n : Int) : Eval Float :=
  match ofInt n with
  | some x => return x
  | none => throwExc "OverflowError" "int too large to convert to float"

/-- A double with the magnitude of `x` and the sign of `y`. -/
def copySign (x y : Float) : Float :=
  let bx := x.toBits.toNat % 2 ^ 63
  let sy := y.toBits.toNat / 2 ^ 63
  Float.ofBits (bx + sy * 2 ^ 63).toUInt64

/-- The remainder of floats, with the divisor's sign. -/
def floatMod (x y : Float) : Float :=
  let m := fmod x y
  if m != 0 then (if (y < 0) != (m < 0) then m + y else m) else copySign 0.0 y

/-- The floor quotient of floats, snapped to an integral value. -/
def floatFloorDiv (x y : Float) : Float :=
  let m := fmod x y
  let d := (x - m) / y
  let d := if m != 0 && ((y < 0) != (m < 0)) then d - 1.0 else d
  if d != 0 then
    let fd := d.floor
    if d - fd > 0.5 then fd + 1.0 else fd
  else copySign 0.0 (x / y)

/-- Whether a double is an odd integer. -/
def isOddInteger (x : Float) : Bool :=
  x.floor == x && fmod x 2.0 != 0

/-- A float raised to a float. -/
def floatPow (x y : Float) : Eval Value := do
  if y == 0 then return .float 1.0
  if x.isNaN then return .float x
  if y.isNaN then return .float (if x == 1.0 then 1.0 else y)
  if y.isInf || x.isInf then return .float (x ^ y)
  if x == 0 then
    if y < 0 then throwExc "ZeroDivisionError" "0.0 cannot be raised to a negative power"
    return .float (if isOddInteger y then x else 0.0)
  let (base, negate) ←
    if x < 0 then
      if y != y.floor then
        -- A negative number to a fractional power is complex.
        let r := (-x) ^ y
        let t := y * 3.141592653589793
        return .complex (r * t.cos) (r * t.sin)
      else pure (-x, isOddInteger y)
    else pure (x, false)
  if base == 1.0 then return .float (if negate then -1.0 else 1.0)
  let r := base ^ y
  if r.isInf then throwExc "OverflowError" "(34, 'Numerical result out of range')"
  return .float (if negate then -r else r)

/-- The numeric value of a value as a float, if it is a number other than complex. -/
def asFloat? (v : Value) : Eval (Option Float) := do
  match v with
  | .float x => return some x
  | .int n => return some (← toFloat n)
  | .bool b => return some (if b then 1.0 else 0.0)
  | _ => return none

/-- The complex value of a number. -/
def asComplex? (v : Value) : Eval (Option (Float × Float)) := do
  match v with
  | .complex re im => return some (re, im)
  | _ =>
    match ← asFloat? v with
    | some x => return some (x, 0.0)
    | none => return none

/-- The symbol of a binary operator. -/
def binOpSymbol : BinOp → String
  | .add => "+" | .sub => "-" | .mul => "*" | .matmul => "@" | .div => "/"
  | .floordiv => "//" | .mod => "%" | .pow => "**" | .lshift => "<<" | .rshift => ">>"
  | .bitor => "|" | .bitxor => "^" | .bitand => "&"

/-- The name of the special method of a binary operator. -/
def binOpDunder : BinOp → String
  | .add => "add" | .sub => "sub" | .mul => "mul" | .matmul => "matmul" | .div => "truediv"
  | .floordiv => "floordiv" | .mod => "mod" | .pow => "pow" | .lshift => "lshift"
  | .rshift => "rshift" | .bitor => "or" | .bitxor => "xor" | .bitand => "and"

/-- Bitwise and of integers in two's complement. -/
def bitAnd (a b : Int) : Int :=
  match a, b with
  | .ofNat x, .ofNat y => .ofNat (x &&& y)
  | .negSucc x, .negSucc y => .negSucc (x ||| y)
  | .ofNat x, .negSucc y => .ofNat (x - (x &&& y))
  | .negSucc x, .ofNat y => .ofNat (y - (y &&& x))

/-- Bitwise or of integers in two's complement. -/
def bitOr (a b : Int) : Int :=
  match a, b with
  | .ofNat x, .ofNat y => .ofNat (x ||| y)
  | .negSucc x, .negSucc y => .negSucc (x &&& y)
  | .ofNat x, .negSucc y => .negSucc (y - (y &&& x))
  | .negSucc x, .ofNat y => .negSucc (x - (x &&& y))

/-- Bitwise exclusive or of integers in two's complement. -/
def bitXor (a b : Int) : Int :=
  match a, b with
  | .ofNat x, .ofNat y => .ofNat (x ^^^ y)
  | .negSucc x, .negSucc y => .ofNat (x ^^^ y)
  | .ofNat x, .negSucc y => .negSucc (x ^^^ y)
  | .negSucc x, .ofNat y => .negSucc (x ^^^ y)

/-- Integer arithmetic. -/
def intBinary (op : BinOp) (a b : Int) : Eval (Option Value) := do
  match op with
  | .add => return some (.int (a + b))
  | .sub => return some (.int (a - b))
  | .mul => return some (.int (a * b))
  | .div =>
    if b = 0 then throwExc "ZeroDivisionError" "division by zero"
    match ofRatio ((a < 0) != (b < 0)) a.natAbs b.natAbs with
    | some x => return some (.float x)
    | none => throwExc "OverflowError" "integer division result too large for a float"
  | .floordiv =>
    if b = 0 then throwExc "ZeroDivisionError" "integer division or modulo by zero"
    return some (.int (a.fdiv b))
  | .mod =>
    if b = 0 then throwExc "ZeroDivisionError" "integer division or modulo by zero"
    return some (.int (a.fmod b))
  | .pow =>
    if b ≥ 0 then return some (.int (a ^ b.toNat))
    else some <$> floatPow (← toFloat a) (← toFloat b)
  | .lshift =>
    if b < 0 then throwExc "ValueError" "negative shift count"
    return some (.int (a * 2 ^ b.toNat))
  | .rshift =>
    if b < 0 then throwExc "ValueError" "negative shift count"
    return some (.int (a.fdiv (2 ^ b.toNat)))
  | .bitand => return some (.int (bitAnd a b))
  | .bitor => return some (.int (bitOr a b))
  | .bitxor => return some (.int (bitXor a b))
  | .matmul => return none

/-- Float arithmetic. -/
def floatBinary (op : BinOp) (x y : Float) : Eval (Option Value) := do
  match op with
  | .add => return some (.float (x + y))
  | .sub => return some (.float (x - y))
  | .mul => return some (.float (x * y))
  | .div =>
    if y == 0 then throwExc "ZeroDivisionError" "float division by zero"
    return some (.float (x / y))
  | .floordiv =>
    if y == 0 then throwExc "ZeroDivisionError" "float floor division by zero"
    return some (.float (floatFloorDiv x y))
  | .mod =>
    if y == 0 then throwExc "ZeroDivisionError" "float modulo"
    return some (.float (floatMod x y))
  | .pow => some <$> floatPow x y
  | _ => return none

/-- The product of complex numbers. -/
def complexProd (a b : Float × Float) : Float × Float :=
  (a.1 * b.1 - a.2 * b.2, a.1 * b.2 + a.2 * b.1)

/-- The quotient of complex numbers, dividing top and bottom by the larger part of the
divisor so that no intermediate overflows needlessly; `none` when the divisor is zero. -/
def complexQuot (a b : Float × Float) : Option (Float × Float) :=
  let (ar, ai) := a
  let (br, bi) := b
  if br.abs ≥ bi.abs then
    if br.abs == 0 then none
    else
      let ratio := bi / br
      let denom := br + bi * ratio
      some ((ar + ai * ratio) / denom, (ai - ar * ratio) / denom)
  else if bi.abs ≥ br.abs then
    let ratio := br / bi
    let denom := br * ratio + bi
    some ((ar * ratio + ai) / denom, (ai * ratio - ar) / denom)
  else some (0.0 / 0.0, 0.0 / 0.0)

/-- A complex number to a natural power, by squaring: the factors taken, lowest bit first. -/
def complexPowNat (x : Float × Float) (n : Nat) : Float × Float :=
  let rec go (fuel : Nat) (r p : Float × Float) (n : Nat) : Float × Float :=
    match fuel with
    | 0 => r
    | fuel + 1 =>
      if n = 0 then r
      else go fuel (if n % 2 = 1 then complexProd r p else r) (complexProd p p) (n / 2)
  go (n.log2 + 2) (1.0, 0.0) x n

/-- A complex power by the polar form; `none` for zero to a negative or complex power. -/
def complexPowPolar (a b : Float × Float) : Option (Float × Float) :=
  let (ar, ai) := a
  let (br, bi) := b
  if br == 0 && bi == 0 then some (1.0, 0.0)
  else if ar == 0 && ai == 0 then
    if bi != 0 || br < 0 then none else some (0.0, 0.0)
  else
    let vabs := Number.hypot [ar, ai]
    let angle := Float.atan2 ai ar
    let (len, phase) :=
      if bi != 0 then ((vabs ^ br) / (angle * bi).exp, angle * br + bi * vabs.log)
      else (vabs ^ br, angle * br)
    some (len * phase.cos, len * phase.sin)

/-- A complex power: an integral exponent of at most 100 is taken by repeated products, any
other by the polar form; `none` for zero to a negative or complex power. -/
def complexPow (a b : Float × Float) : Option (Float × Float) :=
  let (br, bi) := b
  if bi == 0 && br.floor == br && br.abs ≤ 100 then
    let n := br.abs.toUInt64.toNat
    if br > 0 then some (complexPowNat a n)
    else complexQuot (1.0, 0.0) (complexPowNat a n)
  else complexPowPolar a b

/-- Complex arithmetic. -/
def complexBinary (op : BinOp) (a b : Float × Float) : Eval (Option Value) := do
  let (ar, ai) := a
  let (br, bi) := b
  match op with
  | .add => return some (.complex (ar + br) (ai + bi))
  | .sub => return some (.complex (ar - br) (ai - bi))
  | .mul => let (r, i) := complexProd a b; return some (.complex r i)
  | .div =>
    match complexQuot a b with
    | some (r, i) => return some (.complex r i)
    | none => throwExc "ZeroDivisionError" "complex division by zero"
  | .pow =>
    match complexPow a b with
    | some (r, i) =>
      if (r.isInf || i.isInf) && !(ar.isInf || ai.isInf || br.isInf || bi.isInf) then
        throwExc "OverflowError" "complex exponentiation"
      return some (.complex r i)
    | none => throwExc "ZeroDivisionError" "0.0 to a negative or complex power"
  | _ => return none

/-- The repetition count of a sequence, from an integer. -/
def repeatCount (n : Int) : Nat := if n < 0 then 0 else n.toNat

/-- A list repeated. -/
def repeatList {α : Type} (xs : List α) (n : Nat) : List α := (List.replicate n xs).flatten

/-- `+` and `*` of byte strings and byte arrays: the result has the left operand's type, and
the right operand of `+` may be any value of bytes. -/
def bytesBinary (op : BinOp) (a b : Value) : Eval (Option Value) := do
  let byteArray (bs : List UInt8) : Eval (Option Value) := do
    return some (← allocRef (.byteArray bs.toArray))
  match op with
  | .add =>
    match ← byteString? a with
    | some x =>
      match ← bytesLike? b with
      | some y => if let .bytes _ := a then return some (.bytes (x ++ y)) else byteArray (x ++ y)
      | none => return none
    | none => return none
  | .mul =>
    match a, b with
    | .ref p, _ =>
      match ← getObj p, b.intValue? with
      | .byteArray xs, some n => byteArray (repeatList xs.toList (repeatCount n))
      | _, _ => return none
    | _, .ref q =>
      match ← getObj q, a.intValue? with
      | .byteArray ys, some n => byteArray (repeatList ys.toList (repeatCount n))
      | _, _ => return none
    | _, _ => return none
  | _ => return none

/-- The runtime's own arithmetic of two values, or `none` when it has none for them. -/
def builtinBinary (h : Hooks) (op : BinOp) (a b : Value) : Eval (Option Value) := do
  let eq := sameKey h keyFuel
  if let some r ← bytesBinary op a b then return some r
  match op, a, b with
  | .bitand, .bool x, .bool y => return some (.bool (x && y))
  | .bitor, .bool x, .bool y => return some (.bool (x || y))
  | .bitxor, .bool x, .bool y => return some (.bool (x != y))
  | _, _, _ =>
  match a.intValue?, b.intValue? with
  | some x, some y => intBinary op x y
  | _, _ =>
  match a, b with
  | .complex _ _, _ =>
    match ← asComplex? b with
    | some cb => complexBinary op ((← asComplex? a).getD (0, 0)) cb
    | none => return none
  | _, .complex _ _ =>
    match ← asComplex? a with
    | some ca => complexBinary op ca ((← asComplex? b).getD (0, 0))
    | none => return none
  | .float _, _ | _, .float _ =>
    match ← asFloat? a, ← asFloat? b with
    | some x, some y => floatBinary op x y
    | _, _ => return none
  | .str x, .str y => if op == .add then return some (.str (x ++ y)) else return none
  | .bytes x, .bytes y => if op == .add then return some (.bytes (x ++ y)) else return none
  | .tuple x, .tuple y => if op == .add then return some (.tuple (x ++ y)) else return none
  | .str x, _ =>
    match op, b.intValue? with
    | .mul, some n => return some (.str (String.ofList (repeatList x.toList (repeatCount n))))
    | _, _ => return none
  | _, .str y =>
    match op, a.intValue? with
    | .mul, some n => return some (.str (String.ofList (repeatList y.toList (repeatCount n))))
    | _, _ => return none
  | .tuple x, _ =>
    match op, b.intValue? with
    | .mul, some n => return some (.tuple (repeatList x (repeatCount n)))
    | _, _ => return none
  | _, .tuple y =>
    match op, a.intValue? with
    | .mul, some n => return some (.tuple (repeatList y (repeatCount n)))
    | _, _ => return none
  | .bytes x, _ =>
    match op, b.intValue? with
    | .mul, some n => return some (.bytes (repeatList x (repeatCount n)))
    | _, _ => return none
  | .ref p, .ref q => do
    match ← getObj p, ← getObj q, op with
    | .list xs, .list ys, .add => return some (← allocRef (.list (xs ++ ys)))
    | .set s fs, .set t _, .bitor => return some (← allocRef (.set (← s.union eq t) fs))
    | .set s fs, .set t _, .bitand => return some (← allocRef (.set (← s.inter eq t) fs))
    | .set s fs, .set t _, .sub => return some (← allocRef (.set (← s.diff eq t) fs))
    | .set s fs, .set t _, .bitxor => return some (← allocRef (.set (← s.symDiff eq t) fs))
    | .dict xs, .dict ys, .bitor =>
      let mut merged := xs
      for (k, v) in ys do
        match ← dictFind h keyFuel merged k (← hashValue h keyFuel k) with
        | some i => merged := merged.modify i fun e => (e.1, v)
        | none => merged := merged.push (k, v)
      return some (← allocRef (.dict merged))
    | _, _, _ => return none
  | .ref p, _ => do
    match ← getObj p, op, b.intValue? with
    | .list xs, .mul, some n => return some (← allocRef (.list (repeatList xs.toList (repeatCount n)).toArray))
    | _, _, _ => return none
  | _, .ref q => do
    match ← getObj q, op, a.intValue? with
    | .list ys, .mul, some n => return some (← allocRef (.list (repeatList ys.toList (repeatCount n)).toArray))
    | _, _, _ => return none
  | _, _ => return none

/-- Whether a value is a sequence that repeats by an integer. -/
def isSequence (v : Value) : Eval Bool := do
  match v with
  | .str _ | .tuple _ | .bytes _ => return true
  | .ref a =>
    match ← getObj a with
    | .list _ | .byteArray _ => return true
    | _ => return false
  | _ => return false

/-- The fault of an operator its operands do not support. -/
def binaryFault {α : Type} (op : BinOp) (a b : Value) (inplace : Bool) : Eval α := do
  let ta ← typeName a
  let tb ← typeName b
  let seqA ← isSequence a
  let seqB ← isSequence b
  match op with
  | .add =>
    if ta == "str" || ta == "list" || ta == "tuple" then
      throwExc "TypeError" ("can only concatenate " ++ ta ++ " (not \"" ++ tb ++ "\") to " ++ ta)
    if ta == "bytes" || ta == "bytearray" then
      throwExc "TypeError" ("can't concat " ++ tb ++ " to " ++ ta)
  | .mul =>
    if seqA then throwExc "TypeError" ("can't multiply sequence by non-int of type '" ++ tb ++ "'")
    if seqB then throwExc "TypeError" ("can't multiply sequence by non-int of type '" ++ ta ++ "'")
  | _ => pure ()
  let sym := if op == .pow && !inplace then "** or pow()" else binOpSymbol op ++ (if inplace then "=" else "")
  throwExc "TypeError" ("unsupported operand type(s) for " ++ sym ++ ": '" ++ ta ++ "' and '" ++ tb ++ "'")

/-- A member of a module, importing the module first. -/
def moduleMember (h : Hooks) (mod name : String) : Eval (Option Value) := do
  match ← h.load mod with
  | .ref m =>
    match ← getObj m with
    | .module _ attrs => return lookupPairs attrs name
    | _ => return none
  | _ => return none

/-- Whether a value joins a union of types with `|`: a class or `None`. -/
def unionOperand (v : Value) : Eval Bool := do
  match v with
  | .none => return true
  | _ => return (← classOfValue? v).isSome

/-- A binary operator: the left operand's special method, the runtime's arithmetic, then the
right operand's reflected method; `inplace` tries the in-place method first. -/
def binaryOp (h : Hooks) (op : BinOp) (a b : Value) (inplace : Bool := false) : Eval Value := do
  if inplace then
    match ← lookupSpecial a ("__i" ++ binOpDunder op ++ "__") with
    | some fn =>
      let r ← h.call fn [a, b] []
      if !r.isNotImplemented then return r
    | none => pure ()
  -- the right operand's reflected method is tried only for operands of different classes,
  -- and first when the right one's class is a subclass of the left one's
  let ta ← typeOf a
  let tb ← typeOf b
  let reflected ← if ta == tb then pure none
    else lookupSpecial b ("__r" ++ binOpDunder op ++ "__")
  let reflectFirst ← if reflected.isSome then isSubclass tb ta else pure false
  let tryReflected : Eval (Option Value) := do
    match reflected with
    | some fn =>
      let r ← h.call fn [b, a] []
      return if r.isNotImplemented then none else some r
    | none => return none
  if reflectFirst then
    if let some r ← tryReflected then return r
  match ← lookupSpecial a ("__" ++ binOpDunder op ++ "__") with
  | some fn =>
    let r ← h.call fn [a, b] []
    if !r.isNotImplemented then return r
  | none => pure ()
  -- the runtime's arithmetic acts on the values that instances of derived classes hold
  match ← builtinBinary h op ((← dataOf? a).getD a) ((← dataOf? b).getD b) with
  | some r => return r
  | none => pure ()
  if !reflectFirst then
    if let some r ← tryReflected then return r
  -- classes and `None` joined by `|` make a union type
  if op == .bitor && (← unionOperand a) && (← unionOperand b) then
    if let some u ← moduleMember h "types" "_union" then return ← h.call u [a, b] []
  binaryFault op a b inplace

/-- The name of the special method of a unary operator. -/
def unaryDunder : UnaryOp → String
  | .neg => "__neg__" | .pos => "__pos__" | .invert => "__invert__" | .not => "__bool__"

/-- The symbol of a unary operator in faults. -/
def unarySymbol : UnaryOp → String
  | .neg => "-" | .pos => "+" | .invert => "~" | .not => "not"

/-- Unary `-`, `+` and `~`. -/
def unaryOp (h : Hooks) (op : UnaryOp) (v : Value) : Eval Value := do
  let orig := v
  let v ← unwrapData v (unaryDunder op)
  match op, v with
  | .neg, .int n => return .int (-n)
  | .neg, .bool b => return .int (if b then -1 else 0)
  | .neg, .float x => return .float (-x)
  | .neg, .complex re im => return .complex (-re) (-im)
  | .pos, .int n => return .int n
  | .pos, .bool b => return .int (if b then 1 else 0)
  | .pos, .float x => return .float x
  | .pos, .complex re im => return .complex re im
  | .invert, .int n => return .int (-n - 1)
  | .invert, .bool b => return .int (if b then -2 else -1)
  | _, _ =>
    match ← lookupSpecial v (unaryDunder op) with
    | some fn => h.call fn [v] []
    | none =>
      throwExc "TypeError" ("bad operand type for unary " ++ unarySymbol op ++ ": '" ++
        (← typeName orig) ++ "'")

end StubDoctest.Exec
