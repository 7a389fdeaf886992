import StubDoctest.Exec.Show

/-!
# Truth, equality and order

A value is false when it is `None`, `False`, a zero, or an empty string or container; a class
a program defines decides through `__bool__`, then `__len__`. Equality and order first ask the
special methods of the operands (the right operand's reflected method when the left passes);
otherwise numbers compare exactly by value across their types, strings and bytes by code points, tuples
and lists item by item (an item is equal to itself), dictionaries and sets by their contents, and
other values by identity. Order between values of unrelated types is refused.
-/

namespace StubDoctest.Exec

open StubDoctest.Source
open StubDoctest.Number

/-- Whether a value of the runtime is true; instances of classes a program defines are. -/
def plainTruthy (v : Value) : Eval Bool := do
  match v with
  | .none => return false
  | .bool b => return b
  | .int n => return n != 0
  | .float x => return x != 0
  | .complex re im => return re != 0 || im != 0
  | .str s => return !s.isEmpty
  | .bytes bs => return !bs.isEmpty
  | .tuple items => return !items.isEmpty
  | .range a b c => return (if c > 0 then a < b else a > b)
  | .ref a =>
    match ← getObj a with
    | .list items => return !items.isEmpty
    | .dict entries => return !entries.isEmpty
    | .set t _ => return t.used != 0
    | .byteArray bs => return !bs.isEmpty
    | .memoryView _ _ size _ => return size != 0
    | .view d _ =>
      match ← getObj d with
      | .dict entries => return !entries.isEmpty
      | _ => return false
    | _ => return true
  | _ => return true

/-- Whether a value is true: through `__bool__`, else `__len__`, of its class; an instance
of a class derived from a runtime type as the value it holds. -/
def truthy (h : Hooks) (v : Value) : Eval Bool := do
  match v with
  | .none => return false
  | .bool b => return b
  | .int n => return n != 0
  | .float x => return x != 0
  | .complex re im => return re != 0 || im != 0
  | .str s => return !s.isEmpty
  | .bytes bs => return !bs.isEmpty
  | .tuple items => return !items.isEmpty
  | .range a b c => return (if c > 0 then a < b else a > b)
  | .ref a =>
    match ← getObj a with
    | .list items => return !items.isEmpty
    | .dict entries => return !entries.isEmpty
    | .set t _ => return t.used != 0
    | .byteArray bs => return !bs.isEmpty
    | .memoryView _ _ size _ => return size != 0
    | .view d _ =>
      match ← getObj d with
      | .dict entries => return !entries.isEmpty
      | _ => return false
    | .inst _ _ _ =>
      match ← lookupSpecial v "__bool__" with
      | some fn =>
        match ← h.call fn [v] [] with
        | .bool b => return b
        | r => throwExc "TypeError" ("__bool__ should return bool, returned " ++ (← typeName r))
      | none =>
        match ← lookupSpecial v "__len__" with
        | some fn =>
          match ← h.call fn [v] [] with
          | .int n =>
            if n < 0 then throwExc "ValueError" "__len__() should return >= 0" else return n != 0
          | .bool b => return b
          | r => throwExc "TypeError" ("'" ++ (← typeName r) ++ "' object cannot be interpreted as an integer")
        | none =>
          match ← dataOf? v with
          | some d => plainTruthy d
          | none => return true
    | _ => return true
  | _ => return true

/-- The order of an integer and a float, exactly; `none` when the float is not a number. -/
def compareIntFloat (n : Int) (x : Float) : Option Ordering :=
  match decode x with
  | .nan => none
  | .inf neg => some (if neg then .gt else .lt)
  | .finite neg m e =>
    -- Compare n with ±m·2^e through integers.
    let (num, den) : Int × Nat := if e ≥ 0 then ((m * 2 ^ e.toNat : Nat), 1) else (m, 2 ^ (-e).toNat)
    let num := if neg then -num else num
    some (compare (n * den) num)

/-- The order of two numbers other than complex; `none` when one is not a number. -/
def compareNumbers (a b : Value) : Option Ordering :=
  match a.intValue?, b.intValue? with
  | some x, some y => some (compare x y)
  | some x, none =>
    match b with
    | .float y => compareIntFloat x y
    | _ => none
  | none, some y =>
    match a with
    | .float x => (compareIntFloat y x).map Ordering.swap
    | _ => none
  | none, none =>
    match a, b with
    | .float x, .float y =>
      if x.isNaN || y.isNaN then none
      else some (if x < y then .lt else if x == y then .eq else .gt)
    | _, _ => none

/-- Whether a value is `NotImplemented`. -/
def Value.isNotImplemented : Value → Bool
  | .notImplemented => true
  | _ => false

/-- Whether two values are the same object. -/
def isSame (a b : Value) : Bool :=
  match a, b with
  | .ref x, .ref y => x == y
  | .ref _, _ => false
  | _, .ref _ => false
  | .bool x, .bool y => x == y
  | .bool _, _ => false
  | _, .bool _ => false
  | .int x, .int y => x == y
  | .float x, .float y => x.toBits == y.toBits
  | .int _, _ => false
  | _, .int _ => false
  | .float _, _ => false
  | _, .float _ => false
  | x, y => keyEq x y

/-- The symbol of an order comparison. -/
def cmpSymbol : CmpOp → String
  | .lt => "<" | .le => "<=" | .gt => ">" | .ge => ">=" | .eq => "==" | .ne => "!="
  | .is => "is" | .isNot => "is not" | .isIn => "in" | .notIn => "not in"

/-- The special method of a comparison, and the reflected one. -/
def cmpDunders : CmpOp → String × String
  | .lt => ("__lt__", "__gt__") | .le => ("__le__", "__ge__")
  | .gt => ("__gt__", "__lt__") | .ge => ("__ge__", "__le__")
  | .eq => ("__eq__", "__eq__") | .ne => ("__ne__", "__ne__")
  | _ => ("", "")

/-- Whether an order holds between two values of the same ordering. -/
def orderHolds (op : CmpOp) (o : Ordering) : Bool :=
  match op with
  | .lt => o == .lt
  | .le => o != .gt
  | .gt => o == .gt
  | .ge => o != .lt
  | .eq => o == .eq
  | .ne => o != .eq
  | _ => false

/-- The order of two lists of characters by the code points they carry. -/
def compareChars : List Char → List Char → Ordering
  | [], [] => .eq
  | [], _ => .lt
  | _, [] => .gt
  | a :: as, b :: bs =>
    let (x, y) := (Text.codeOf a, Text.codeOf b)
    if x < y then .lt else if y < x then .gt else compareChars as bs

/-- The order of two byte lists. -/
def compareBytes : List UInt8 → List UInt8 → Ordering
  | [], [] => .eq
  | [], _ => .lt
  | _, [] => .gt
  | a :: as, b :: bs => if a < b then .lt else if b < a then .gt else compareBytes as bs

/-- The items of a value that compares item by item: a tuple, or a list on the heap. -/
def seqItems? (v : Value) : Eval (Option (String × List Value)) := do
  match v with
  | .tuple items => return some ("tuple", items)
  | .ref a =>
    match ← getObj a with
    | .list items => return some ("list", items.toList)
    | _ => return none
  | _ => return none

/-- The length of a range. -/
def rangeLength (a b c : Int) : Nat :=
  if c > 0 then (if a < b then ((b - a + c - 1) / c).toNat else 0)
  else if c < 0 then (if a > b then ((a - b - c - 1) / (-c)).toNat else 0)
  else 0

/-- The reflection of a comparison: the one that holds with the operands swapped. -/
def reflectedOp : CmpOp → CmpOp
  | .lt => .gt
  | .le => .ge
  | .gt => .lt
  | .ge => .le
  | op => op

/-- What a program's class gives for a comparison with its instance on the left: its own
method's result, or for `!=` without one the negation of its `==`; none when it has neither. -/
def userCompare (h : Hooks) (op : CmpOp) (a b : Value) : Eval (Option Value) := do
  match ← lookupSpecial a (cmpDunders op).1 with
  | some fn => return some (← h.call fn [a, b] [])
  | none =>
    if op == .ne then
      match ← lookupSpecial a "__eq__" with
      | some fn =>
        let r ← h.call fn [a, b] []
        if r.isNotImplemented then return some r
        return some (.bool !(← truthy h r))
      | none => return none
    else return none

mutual

/-- Whether a value holds an object, itself or as an item of a tuple: keys that do may compare
through methods a program defines. -/
def holdsObject : Value → Bool
  | .ref _ => true
  | .tuple items => holdsObjectList items
  | _ => false

/-- Whether some value of a list holds an object. -/
def holdsObjectList : List Value → Bool
  | [] => false
  | v :: vs => holdsObject v || holdsObjectList vs

end

/-- The hash a program's `__hash__` returned, made a word's hash: an integer that fits a word
is kept, a larger one is hashed as an integer, and `-1` becomes `-2`. -/
def fitHash (n : Int) : Int :=
  if -(2 ^ 63 : Int) ≤ n ∧ n < 2 ^ 63 then fixHash n else hashInt n

/-- The hash of a value: of a tuple, that of its items' hashes; of an instance of a class a
program defines, what its `__hash__` gives, else the hash of the value of a runtime type it
holds, else one by identity; the fault for a value that is not hashable, such as an instance
whose class sets `__hash__` to `None` or holds a mutable value. -/
def hashValue (h : Hooks) (fuel : Nat) (v : Value) : Eval Int :=
  match fuel with
  | 0 => throwExc "RecursionError" "maximum recursion depth exceeded while calling a Python object"
  | fuel + 1 => do
    let unhashable : Eval Int := do
      throwExc "TypeError" ("unhashable type: '" ++ (← typeName v) ++ "'")
    let builtin (w : Value) : Eval Int := do
      match ← hashOf 64 w with
      | some x => return x
      | none => unhashable
    match v with
    | .tuple items => return hashTuple (← items.mapM (hashValue h fuel))
    | _ =>
      match ← typeOf v with
      | .builtin _ => builtin v
      | .user a =>
        match ← findInMro (.user a) "__hash__" with
        | some (_, .none) => unhashable
        | some (_, fn) =>
          match ← h.call fn [v] [] with
          | .int n => return fitHash n
          | .bool b => return if b then 1 else 0
          | _ => throwExc "TypeError" "__hash__ method should return an integer"
        | none =>
          match ← dataOf? v with
          | some (.tuple items) => hashValue h fuel (.tuple items)
          | some d => builtin d
          | none => builtin v

/-- How deep the comparison of two keys may go. -/
def keyFuel : Nat := 100000

mutual

/-- The value of a comparison of two values: what their classes' methods give, the right
operand's reflected method first when its class is a strict subclass of the left one's, and
otherwise the runtime's own comparison, where `==` between values it does not know is
identity. -/
def richCompare (h : Hooks) (fuel : Nat) (op : CmpOp) (a b : Value) : Eval Value :=
  match fuel with
  | 0 => throwExc "RecursionError" "maximum recursion depth exceeded in comparison"
  | fuel + 1 => do
    let ta ← typeOf a
    let tb ← typeOf b
    let reflectFirst ← if ta != tb then isSubclass tb ta else pure false
    let attempt (x y : Value) (o : CmpOp) : Eval (Option Value) := do
      match ← userCompare h o x y with
      | some r => return if r.isNotImplemented then none else some r
      | none => return none
    if reflectFirst then
      if let some r ← attempt b a (reflectedOp op) then return r
    if let some r ← attempt a b op then return r
    if !reflectFirst then
      if let some r ← attempt b a (reflectedOp op) then return r
    -- the runtime's comparison acts on the values that instances of derived classes hold
    let a' := (← dataOf? a).getD a
    let b' := (← dataOf? b).getD b
    match op with
    | .eq => return .bool (← builtinEq h fuel a' b')
    | .ne => return .bool !(← builtinEq h fuel a' b')
    | _ => return .bool (← builtinOrder h fuel op a' b' (a, b))

/-- Whether two values count as equal where containers compare items: the same value, or
values whose comparison is true. -/
def eqValues (h : Hooks) (fuel : Nat) (a b : Value) : Eval Bool :=
  match fuel with
  | 0 => throwExc "RecursionError" "maximum recursion depth exceeded in comparison"
  | fuel + 1 => do
    if isSame a b then return true
    truthy h (← richCompare h fuel .eq a b)

/-- Whether a key stored in a table is the key sought, once their hashes agree: the same value,
equal as the runtime's own values when neither holds an object, and otherwise equal by
comparison, the stored key on the left. -/
def sameKey (h : Hooks) (fuel : Nat) (stored key : Value) : Eval Bool :=
  match fuel with
  | 0 => throwExc "RecursionError" "maximum recursion depth exceeded in comparison"
  | fuel + 1 =>
    if holdsObject stored || holdsObject key then eqValues h fuel stored key
    else return keyEq stored key

/-- The index of the key `k`, whose hash is `hk`, among a dictionary's entries: the first stored
key that is the same value, or equal as the runtime's own values when neither holds an object,
or else that has the same hash and is equal by comparison. -/
def dictFind (h : Hooks) (fuel : Nat) (entries : Array (Value × Value)) (k : Value) (hk : Int) :
    Eval (Option Nat) :=
  match fuel with
  | 0 => throwExc "RecursionError" "maximum recursion depth exceeded in comparison"
  | fuel + 1 => do
    for (e, i) in entries.toList.zipIdx do
      if isSame e.1 k then return some i
      if holdsObject e.1 || holdsObject k then
        if (← hashValue h keyFuel e.1) == hk then
          if ← eqValues h fuel e.1 k then return some i
      else if keyEq e.1 k then return some i
    return none

/-- Whether a comparison of order holds, or the fault when the values have no order. -/
def orderValues (h : Hooks) (fuel : Nat) (op : CmpOp) (a b : Value) : Eval Bool :=
  match fuel with
  | 0 => throwExc "RecursionError" "maximum recursion depth exceeded in comparison"
  | fuel + 1 => do truthy h (← richCompare h fuel op a b)

/-- Equality of the runtime's own values. -/
def builtinEq (h : Hooks) (fuel : Nat) (a b : Value) : Eval Bool :=
  match fuel with
  | 0 => throwExc "RecursionError" "maximum recursion depth exceeded in comparison"
  | fuel + 1 => do
    if isSame a b then return true
    match numEq a b with
    | some r => return r
    | none => pure ()
    if let some x ← bytesLike? a then
      if let some y ← bytesLike? b then return x == y
    match a, b with
    | .str x, .str y => return x == y
    | .range a1 b1 c1, .range a2 b2 c2 =>
      let n1 := rangeLength a1 b1 c1
      let n2 := rangeLength a2 b2 c2
      return n1 == n2 && (n1 == 0 || (a1 == a2 && (n1 == 1 || c1 == c2)))
    | .tuple xs, .tuple ys => eqLists h fuel xs ys
    | .slice a1 b1 c1, .slice a2 b2 c2 =>
      eqLists h fuel [a1, b1, c1] [a2, b2, c2]
    | .method s1 n1, .method s2 n2 => return n1 == n2 && isSame s1 s2
    | .ref p, .ref q =>
      match ← getObj p, ← getObj q with
      | .list xs, .list ys => eqLists h fuel xs.toList ys.toList
      | .dict xs, .dict ys =>
        if xs.size != ys.size then return false
        else eqDicts h fuel xs.toList ys
      | .set s _, .set t _ =>
        if s.used != t.used then return false else s.subsetOf (sameKey h fuel) t
      | .view d1 k1, .view d2 k2 =>
        if k1 == k2 && k1 != .values then
          let xs ← viewItems d1 k1
          let ys ← viewItems d2 k2
          if xs.size != ys.size then return false
          xs.allM fun x => ys.anyM fun y => sameKey h fuel y x
        else return false
      | .boundMethod s1 f1, .boundMethod s2 f2 => return isSame s1 s2 && isSame f1 f2
      | _, _ => return false
    | _, _ => return false

/-- Equality of two lists item by item. -/
def eqLists (h : Hooks) (fuel : Nat) (xs ys : List Value) : Eval Bool :=
  match fuel with
  | 0 => throwExc "RecursionError" "maximum recursion depth exceeded in comparison"
  | fuel + 1 => do
    if xs.length != ys.length then return false
    for (x, y) in xs.zip ys do
      if !(← eqValues h fuel x y) then return false
    return true

/-- Whether every pair of the first dictionary is in the second. -/
def eqDicts (h : Hooks) (fuel : Nat) (xs : List (Value × Value)) (ys : Array (Value × Value)) :
    Eval Bool :=
  match fuel with
  | 0 => throwExc "RecursionError" "maximum recursion depth exceeded in comparison"
  | fuel + 1 => do
    for (k, v) in xs do
      match ← dictFind h fuel ys k (← hashValue h keyFuel k) with
      | some i =>
        match ys[i]? with
        | some (_, w) => if !(← eqValues h fuel v w) then return false
        | none => return false
      | none => return false
    return true

/-- The first pair of items at the same place in two lists that are not equal. -/
def firstDifference (h : Hooks) (fuel : Nat) : List Value → List Value →
    Eval (Option (Value × Value))
  | x :: xs, y :: ys =>
    match fuel with
    | 0 => throwExc "RecursionError" "maximum recursion depth exceeded in comparison"
    | fuel + 1 => do
      if ← eqValues h fuel x y then firstDifference h (fuel + 1) xs ys else return some (x, y)
  | _, _ => return none

/-- An order comparison of the runtime's own values, or the fault, naming the classes of the
operands `shown`, when they have no order. -/
def builtinOrder (h : Hooks) (fuel : Nat) (op : CmpOp) (a b : Value) (shown : Value × Value) :
    Eval Bool :=
  match fuel with
  | 0 => throwExc "RecursionError" "maximum recursion depth exceeded in comparison"
  | fuel + 1 => do
    match compareNumbers a b with
    | some o => return orderHolds op o
    | none => pure ()
    let refuse : Eval Bool := do
      throwExc "TypeError" ("'" ++ cmpSymbol op ++ "' not supported between instances of '" ++
        (← typeName shown.1) ++ "' and '" ++ (← typeName shown.2) ++ "'")
    match a, b with
    | .float _, .float _ => return false
    | .float _, _ | _, .float _ =>
      -- Numbers without an order are NaN: every order between them is false.
      if (a.intValue?.isSome || b.intValue?.isSome) then return false else refuse
    | .str x, .str y => return orderHolds op (compareChars x.toList y.toList)
    | .bytes x, .bytes y => return orderHolds op (compareBytes x y)
    | _, _ =>
      if let some x ← byteString? a then
        if let some y ← byteString? b then return orderHolds op (compareBytes x y)
      match ← seqItems? a, ← seqItems? b with
      | some (ka, xs), some (kb, ys) =>
        if ka != kb then refuse
        else
          -- The first pair of items that differ decides; else the lengths.
          match ← firstDifference h fuel xs ys with
          | some (x, y) => orderValues h fuel op x y
          | none => return orderHolds op (compare xs.length ys.length)
      | _, _ =>
        match a, b with
        | .ref p, .ref q =>
          match ← getObj p, ← getObj q with
          | .set s _, .set t _ =>
            let sub ← s.subsetOf (sameKey h fuel) t
            let sup ← t.subsetOf (sameKey h fuel) s
            match op with
            | .lt => return sub && s.used < t.used
            | .le => return sub
            | .gt => return sup && s.used > t.used
            | .ge => return sup
            | _ => return false
          | _, _ => refuse
        | _, _ => refuse

end

end StubDoctest.Exec
