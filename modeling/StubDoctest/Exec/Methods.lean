import StubDoctest.Exec.ByteMethods
import StubDoctest.Exec.Sort
import StubDoctest.Number.HexText

/-!
# Methods of the runtime's containers and numbers

Lists, dictionaries and sets change in place on the heap; tuples and numbers have their few
methods. Keys and set members must be hashable. A list sorts stably by its
items or by keys computed once per item, reversed by reversing before and after, so that
equal items keep their order.

Every instance also has the methods of `object` (and of `BaseException` for exceptions),
which a class's own methods reach through `super()`.
-/

namespace StubDoctest.Exec

open StubDoctest.Text

/-- A set table of values, each hashed. -/
def tableOf (h : Hooks) (items : Array Value) : Eval SetTable := do
  let mut t : SetTable := {}
  for v in items do
    t ← t.insert (sameKey h keyFuel) (← hashValue h keyFuel v) v
  return t

/-- A value as the other operand of a set operation. -/
def setOperand (h : Hooks) (fuel : Nat) (v : Value) : Eval SetOperand := do
  let items : Eval SetOperand := do
    let xs ← iterate h fuel v
    return .items (← xs.toList.mapM fun x => do return (← hashValue h keyFuel x, x))
  match v with
  | .ref a =>
    match ← getObj a with
    | .set t _ => return .table t
    | .dict es => return .keys (← es.toList.mapM fun (k, _) => do return (← hashValue h keyFuel k, k))
    | _ => items
  | _ => items

/-- The table of a new set made from an iterable value. -/
def tableOfIterable (h : Hooks) (fuel : Nat) (v : Value) : Eval SetTable := do
  SetTable.ofOperand (sameKey h keyFuel) (← setOperand h fuel v)

/-- A dictionary with `k` bound to `v`, after checking that `k` is hashable. -/
def dictInsert (h : Hooks) (entries : Array (Value × Value)) (k v : Value) :
    Eval (Array (Value × Value)) := do
  match ← dictFind h keyFuel entries k (← hashValue h keyFuel k) with
  | some i => return entries.setIfInBounds i (entries[i]!.1, v)
  | none => return entries.push (k, v)

/-- The pairs of a value that updates a dictionary: a dictionary's entries (or those of the
dictionary an instance of a derived class holds), another mapping's keys each with its item, or
an iterable of pairs. -/
def pairsOf (h : Hooks) (fuel : Nat) (v : Value) : Eval (Array (Value × Value)) := do
  match ← unwrapData v "__iter__" with
  | .ref a =>
    match ← getObj a with
    | .dict entries => return entries
    | _ => pure ()
  | _ => pure ()
  -- another mapping gives its keys, each looked up
  if let some keysFn ← lookupSpecial v "keys" then
    let keys ← iterate h fuel (← h.call keysFn [v] [])
    return ← keys.mapM fun k => do return (k, ← getItem h v k)
  let items ← iterate h fuel v
  let mut out : Array (Value × Value) := #[]
  let mut i := 0
  for it in items do
    let kv ← iterate h fuel it
    if kv.size != 2 then
      throwExc "ValueError" ("dictionary update sequence element #" ++ toString i ++ " has length " ++
        toString kv.size ++ "; 2 is required")
    out := out.push (kv[0]!, kv[1]!)
    i := i + 1
  return out

/-- `whole[key] = v`; an instance of a class derived from a runtime type whose classes bind no
`__setitem__` sets the item of the value it holds. -/
def setItem (h : Hooks) (whole key v : Value) : Eval Unit := do
  let obj ← unwrapData whole "__setitem__"
  match obj with
  | .ref a =>
    match ← getObj a with
    | .list items =>
      match key with
      | .slice lo hi st =>
        let (ps, step) ← sliceIndices h items.size lo hi st
        let newItems ← iterate h 64 v
        if step == 1 then
          let start := match ps.head? with
            | some p => p
            | none =>
              -- An empty slice inserts at its clamped start.
              let n : Int := items.size
              match lo with
              | .none => 0
              | _ => match lo.intValue? with
                | some i => (if i < 0 then max 0 (i + n) else min i n).toNat
                | none => 0
          let stop := start + ps.length
          setObj a (.list (items.extract 0 start ++ newItems ++ items.extract stop items.size))
        else
          if newItems.size != ps.length then
            throwExc "ValueError" ("attempt to assign sequence of size " ++ toString newItems.size ++
              " to extended slice of size " ++ toString ps.length)
          let mut xs := items
          for (p, x) in ps.zip newItems.toList do
            xs := xs.setIfInBounds p x
          setObj a (.list xs)
      | _ =>
        match ← indexValue? h key with
        | some i =>
          match normIndex items.size i with
          | some p => setObj a (.list (items.setIfInBounds p v))
          | none => throwExc "IndexError" "list assignment index out of range"
        | none =>
          throwExc "TypeError" ("list indices must be integers or slices, not " ++ (← typeName key))
    | .dict entries => setObj a (.dict (← dictInsert h entries key v))
    | .byteArray _ => byteArrayMethod.setByteItems h 64 a key v
    | .memoryView _ _ _ _ => setViewItem h a key v
    | .scope vars =>
      match key with
      | .str k => setObj a (.scope (setPair vars k v))
      | _ => pure ()
    | .inst _ _ _ =>
      match ← lookupSpecial obj "__setitem__" with
      | some fn => discard <| h.call fn [obj, key, v] []
      | none => throwExc "TypeError" ("'" ++ (← typeName whole) ++ "' object does not support item assignment")
    | _ => throwExc "TypeError" ("'" ++ (← typeName whole) ++ "' object does not support item assignment")
  | _ => throwExc "TypeError" ("'" ++ (← typeName whole) ++ "' object does not support item assignment")

/-- `del whole[key]`; an instance of a class derived from a runtime type whose classes bind no
`__delitem__` deletes the item of the value it holds. -/
def delItem (h : Hooks) (whole key : Value) : Eval Unit := do
  let obj ← unwrapData whole "__delitem__"
  match obj with
  | .ref a =>
    match ← getObj a with
    | .list items =>
      match key with
      | .slice lo hi st =>
        let (ps, _) ← sliceIndices h items.size lo hi st
        let keep := (List.range items.size).filter (!ps.contains ·)
        setObj a (.list (pick items keep))
      | _ =>
        match ← indexValue? h key with
        | some i =>
          match normIndex items.size i with
          | some p => setObj a (.list (items.eraseIdxIfInBounds p))
          | none => throwExc "IndexError" "list assignment index out of range"
        | none =>
          throwExc "TypeError" ("list indices must be integers or slices, not " ++ (← typeName key))
    | .dict entries =>
      match ← dictFind h keyFuel entries key (← hashValue h keyFuel key) with
      | some i => setObj a (.dict (entries.eraseIdxIfInBounds i))
      | none => throwWith "KeyError" key
    | .byteArray _ => byteArrayMethod.delByteItems h a key
    | .memoryView _ _ _ _ => throwExc "TypeError" "cannot delete memory"
    | .inst _ _ _ =>
      match ← lookupSpecial obj "__delitem__" with
      | some fn => discard <| h.call fn [obj, key] []
      | none => throwExc "TypeError" ("'" ++ (← typeName whole) ++ "' object does not support item deletion")
    | _ => throwExc "TypeError" ("'" ++ (← typeName whole) ++ "' object does not support item deletion")
  | _ => throwExc "TypeError" ("'" ++ (← typeName whole) ++ "' object does not support item deletion")

/-- The items of a list sorted, by keys when a key function is given, reversed when asked. -/
def sortValues (h : Hooks) (fuel : Nat) (items : Array Value) (key : Value) (reverse : Bool) :
    Eval (Array Value) := do
  let keys ← match key with
    | .none => pure items
    | f => items.mapM fun x => h.call f [x] []
  let pairs := keys.zip items
  let pairs := if reverse then pairs.reverse else pairs
  let sorted ← sortBy (fun (a b : Value × Value) => orderValues h fuel .lt a.1 b.1) pairs
  let sorted := if reverse then sorted.reverse else sorted
  return sorted.map (·.2)

/-- The keyword arguments `key` and `reverse` of a sort. -/
def sortOptions (h : Hooks) (kw : List (String × Value)) : Eval (Value × Bool) := do
  let mut key := Value.none
  let mut rev := false
  for (k, v) in kw do
    if k == "key" then key := v
    else if k == "reverse" then rev ← truthy h v
    else throwExc "TypeError" ("'" ++ k ++ "' is an invalid keyword argument for sort()")
  return (key, rev)

/-- The first position of a value among items, by identity or equality. -/
def indexOfValue (h : Hooks) (fuel : Nat) (items : Array Value) (v : Value) (start stop : Nat) :
    Eval (Option Nat) := do
  for i in [start:min stop items.size] do
    let x := items[i]!
    if isSame x v then return some i
    if ← eqValues h fuel x v then return some i
  return none

/-- How many items equal a value. -/
def countOfValue (h : Hooks) (fuel : Nat) (items : Array Value) (v : Value) : Eval Nat := do
  let mut n := 0
  for x in items do
    if isSame x v then n := n + 1
    else if ← eqValues h fuel x v then n := n + 1
  return n

/-- A method of a list. -/
def listMethod (h : Hooks) (fuel : Nat) (a : Nat) (name : String) (args : List Value)
    (kw : List (String × Value)) : Eval Value := do
  let items ← match ← getObj a with
    | .list items => pure items
    | _ => pure #[]
  let noKw : Eval Unit := do
    if !kw.isEmpty then throwExc "TypeError" ("list." ++ name ++ "() takes no keyword arguments")
  match name with
  | "append" =>
    noKw
    let v ← exactlyOne "list.append" args
    modifyObj a fun
      | .list xs => .list (xs.push v)
      | o => o
    return .none
  | "extend" =>
    noKw
    let v ← exactlyOne "list.extend" args
    let more ← iterate h fuel v
    modifyObj a fun
      | .list xs => .list (xs ++ more)
      | o => o
    return .none
  | "insert" =>
    noKw
    match args with
    | [i, v] =>
      let i ← intArg h i
      let n : Int := items.size
      let p := if i < 0 then max 0 (i + n) else min i n
      setObj a (.list (items.insertIdxIfInBounds p.toNat v))
      return .none
    | _ => throwExc "TypeError" ("insert expected 2 arguments, got " ++ toString args.length)
  | "pop" =>
    noKw
    atMost "pop" args 1
    if items.isEmpty then throwExc "IndexError" "pop from empty list"
    let i ← match args with
      | [i] => intArg h i
      | _ => pure (-1)
    match normIndex items.size i with
    | some p =>
      setObj a (.list (items.eraseIdxIfInBounds p))
      return items[p]!
    | none => throwExc "IndexError" "pop index out of range"
  | "remove" =>
    noKw
    let v ← exactlyOne "list.remove" args
    match ← indexOfValue h fuel items v 0 items.size with
    | some p =>
      setObj a (.list (items.eraseIdxIfInBounds p))
      return .none
    | none => throwExc "ValueError" "list.remove(x): x not in list"
  | "index" =>
    noKw
    atLeast "index" args 1
    atMost "index" args 3
    let v := args[0]!
    let start ← boundArg h items.size args[1]? 0
    let stop ← boundArg h items.size args[2]? items.size
    match ← indexOfValue h fuel items v start stop with
    | some p => return .int p
    | none => throwExc "ValueError" ((← reprOf h showFuel [] v) ++ " is not in list")
  | "count" =>
    noKw
    let v ← exactlyOne "list.count" args
    return .int (← countOfValue h fuel items v)
  | "reverse" =>
    atMost "list.reverse" args 0
    setObj a (.list items.reverse)
    return .none
  | "clear" =>
    atMost "list.clear" args 0
    setObj a (.list #[])
    return .none
  | "copy" =>
    atMost "list.copy" args 0
    allocRef (.list items)
  | "sort" =>
    if !args.isEmpty then throwExc "TypeError" "sort() takes no positional arguments"
    let (key, rev) ← sortOptions h kw
    -- The list is empty while it is sorted; a change to it in the meantime is a fault, and the
    -- sorted items are kept.
    setObj a (.list #[])
    let sorted ← tryCatch (sortValues h fuel items key rev) fun e => do
      setObj a (.list items)
      throw e
    let modified ← match ← getObj a with
      | .list xs => pure !xs.isEmpty
      | _ => pure true
    setObj a (.list sorted)
    if modified then throwExc "ValueError" "list modified during sort"
    return .none
  | "__len__" => return .int items.size
  | "__getitem__" => getItem h (.ref a) (← exactlyOne "__getitem__" args)
  | "__contains__" => return .bool (← containsItem h fuel (.ref a) (← exactlyOne "__contains__" args))
  | _ => throwExc "AttributeError" ("'list' object has no attribute '" ++ name ++ "'")

/-- A view of a dictionary's keys, values or items. -/
def dictView (a : Nat) (kind : String) : Eval Value :=
  match kind with
  | "keys" => allocRef (.view a .keys)
  | "values" => allocRef (.view a .values)
  | _ => allocRef (.view a .items)

/-- A method of a dictionary. -/
def dictMethod (h : Hooks) (fuel : Nat) (a : Nat) (name : String) (args : List Value)
    (kw : List (String × Value)) : Eval Value := do
  let entries ← match ← getObj a with
    | .dict es => pure es
    | _ => pure #[]
  match name with
  | "get" =>
    atLeast "get" args 1
    atMost "get" args 2
    let k := args[0]!
    match ← dictFind h keyFuel entries k (← hashValue h keyFuel k) with
    | some i => return entries[i]!.2
    | none => return args[1]?.getD .none
  | "keys" | "values" | "items" =>
    atMost ("dict." ++ name) args 0
    dictView a name
  | "pop" =>
    atLeast "pop" args 1
    atMost "pop" args 2
    let k := args[0]!
    match ← dictFind h keyFuel entries k (← hashValue h keyFuel k) with
    | some i =>
      setObj a (.dict (entries.eraseIdxIfInBounds i))
      return entries[i]!.2
    | none =>
      match args[1]? with
      | some d => return d
      | none => throwWith "KeyError" k
  | "popitem" =>
    atMost "dict.popitem" args 0
    match entries.back? with
    | some (k, v) =>
      setObj a (.dict entries.pop)
      return .tuple [k, v]
    | none => throwExc "KeyError" "popitem(): dictionary is empty"
  | "setdefault" =>
    atLeast "setdefault" args 1
    atMost "setdefault" args 2
    let k := args[0]!
    match ← dictFind h keyFuel entries k (← hashValue h keyFuel k) with
    | some i => return entries[i]!.2
    | none =>
      let d := args[1]?.getD .none
      setObj a (.dict (entries.push (k, d)))
      return d
  | "update" =>
    atMost "update" args 1
    let mut es := entries
    if let some other := args[0]? then
      for (k, v) in ← pairsOf h fuel other do
        es ← dictInsert h es k v
    for (k, v) in kw do
      es ← dictInsert h es (.str k) v
    setObj a (.dict es)
    return .none
  | "clear" =>
    atMost "dict.clear" args 0
    setObj a (.dict #[])
    return .none
  | "copy" =>
    atMost "dict.copy" args 0
    allocRef (.dict entries)
  | "__len__" => return .int entries.size
  | "__getitem__" => getItem h (.ref a) (← exactlyOne "__getitem__" args)
  | "__contains__" => return .bool (← containsItem h fuel (.ref a) (← exactlyOne "__contains__" args))
  | _ => throwExc "AttributeError" ("'dict' object has no attribute '" ++ name ++ "'")

/-- A method of a set or frozen set. -/
def setMethod (h : Hooks) (fuel : Nat) (a : Nat) (name : String) (args : List Value) :
    Eval Value := do
  let (t, frozen) ← match ← getObj a with
    | .set t f => pure (t, f)
    | _ => pure ({}, false)
  let kind := if frozen then "frozenset" else "set"
  let eq := sameKey h keyFuel
  let same (v : Value) : Bool := match v with
    | .ref b => b == a
    | _ => false
  match name with
  | "add" =>
    let v ← exactlyOne "set.add" args
    setObj a (.set (← t.insert eq (← hashValue h keyFuel v) v) frozen)
    return .none
  | "remove" | "discard" =>
    let v ← exactlyOne ("set." ++ name) args
    let (t', found) ← t.erase eq (← hashValue h keyFuel v) v
    if !found && name == "remove" then throwWith "KeyError" v
    setObj a (.set t' frozen)
    return .none
  | "pop" =>
    atMost "set.pop" args 0
    match t.pop with
    | some (v, t') =>
      setObj a (.set t' frozen)
      return v
    | none => throwExc "KeyError" "pop from an empty set"
  | "clear" =>
    atMost "set.clear" args 0
    setObj a (.set t.cleared frozen)
    return .none
  | "copy" =>
    atMost (kind ++ ".copy") args 0
    if frozen then return .ref a
    allocRef (.set t.copy frozen)
  | "union" =>
    let mut r := t.copy
    for o in args do
      if !same o then r ← r.update eq (← setOperand h fuel o)
    allocRef (.set r frozen)
  | "intersection" | "intersection_update" =>
    let mut r := t
    for o in args do
      r ← r.intersect eq (← setOperand h fuel o)
    if args.isEmpty then r := t.copy
    if name == "intersection" then allocRef (.set r frozen)
    else
      setObj a (.set r frozen)
      return .none
  | "difference" =>
    match args with
    | [] => allocRef (.set t.copy frozen)
    | o :: rest =>
      let mut r : SetTable := {}
      if !same o then r ← t.difference eq (← setOperand h fuel o)
      for o in rest do
        r ← r.removeOperand eq (← setOperand h fuel o)
      allocRef (.set r frozen)
  | "symmetric_difference" =>
    let o ← exactlyOne (kind ++ ".symmetric_difference") args
    allocRef (.set (← (← tableOfIterable h fuel o).toggleAll eq t.entries) frozen)
  | "update" =>
    let mut r := t
    for o in args do
      if !same o then r ← r.update eq (← setOperand h fuel o)
    setObj a (.set r frozen)
    return .none
  | "difference_update" =>
    let mut r := t
    for o in args do
      if same o then r := r.cleared
      else r ← r.removeOperand eq (← setOperand h fuel o)
    setObj a (.set r frozen)
    return .none
  | "symmetric_difference_update" =>
    let o ← exactlyOne "set.symmetric_difference_update" args
    let r ← if same o then pure t.cleared else t.toggleOperand eq (← setOperand h fuel o)
    setObj a (.set r frozen)
    return .none
  | "issubset" =>
    let o ← tableOfIterable h fuel (← exactlyOne (kind ++ ".issubset") args)
    return .bool (← t.subsetOf eq o)
  | "issuperset" =>
    let o ← tableOfIterable h fuel (← exactlyOne (kind ++ ".issuperset") args)
    return .bool (← o.subsetOf eq t)
  | "isdisjoint" =>
    let o ← tableOfIterable h fuel (← exactlyOne (kind ++ ".isdisjoint") args)
    return .bool (← t.entries.allM fun (hv, v) => do return !(← o.contains eq hv v))
  | "__len__" => return .int t.used
  | "__contains__" => return .bool (← containsItem h fuel (.ref a) (← exactlyOne "__contains__" args))
  | _ => throwExc "AttributeError" ("'" ++ kind ++ "' object has no attribute '" ++ name ++ "'")

/-- The bits of a natural number that are set. -/
def popCount (n : Nat) : Nat := (Nat.toDigits 2 n).count '1'

/-- The number of bits of a natural number. -/
def bitCount (n : Nat) : Nat := if n = 0 then 0 else (Nat.toDigits 2 n).length

/-- The byte order named by an argument of `to_bytes` or `from_bytes`: whether it is little. -/
def littleOrder (what : String) (v : Option Value) : Eval Bool := do
  match v with
  | none => return false
  | some (.str "big") => return false
  | some (.str "little") => return true
  | some (.str _) => throwExc "ValueError" "byteorder must be either 'little' or 'big'"
  | some x => throwExc "TypeError" (what ++ "() argument 'byteorder' must be str, not " ++ (← typeName x))

/-- The `length` bytes of `n` in two's complement, most significant first. -/
def bytesOfInt (n : Int) (length : Nat) : List UInt8 :=
  let m := if n < 0 then (2 ^ (8 * length) : Int) + n else n
  (List.range length).reverse.map fun i => ((m.toNat / 2 ^ (8 * i)) % 256).toUInt8

/-- The integer of bytes, most significant first, read in two's complement when `signed`. -/
def intOfBytes (bs : List UInt8) (signed : Bool) : Int :=
  let m : Nat := bs.foldl (fun acc b => acc * 256 + b.toNat) 0
  if signed && bs.length > 0 && m ≥ 2 ^ (8 * bs.length - 1) then (m : Int) - 2 ^ (8 * bs.length)
  else m

/-- `int.from_bytes(bytes, byteorder="big", *, signed=False)`. -/
def intFromBytes (h : Hooks) (fuel : Nat) (args : List Value) (kw : List (String × Value)) :
    Eval Value := do
  atMostGiven "from_bytes" args 2
  let src ← match argAt args kw 0 "bytes" with
    | some v => pure v
    | none => throwExc "TypeError" "from_bytes() missing required argument 'bytes' (pos 1)"
  let bs ← match src with
    | .bytes bs => pure bs
    | .str _ => throwExc "TypeError" "cannot convert 'str' object to bytes"
    | v =>
      (← iterate h fuel v).toList.mapM fun x => do
        match x.intValue? with
        | some k =>
          if 0 ≤ k && k < 256 then pure k.toNat.toUInt8
          else throwExc "ValueError" "bytes must be in range(0, 256)"
        | none => throwExc "TypeError" ("'" ++ (← typeName x) ++ "' object cannot be interpreted as an integer")
  let little ← littleOrder "from_bytes" (argAt args kw 1 "byteorder")
  let signed ← match kw.find? (·.1 == "signed") with
    | some (_, v) => truthy h v
    | none => pure false
  return .int (intOfBytes (if little then bs.reverse else bs) signed)

/-- A method of an integer. -/
def intMethod (h : Hooks) (n : Int) (name : String) (args : List Value) (kw : List (String × Value)) :
    Eval Value := do
  match name with
  | "bit_length" => atMost "int.bit_length" args 0; return .int (bitCount n.natAbs)
  | "bit_count" => atMost "int.bit_count" args 0; return .int (popCount n.natAbs)
  | "conjugate" => return .int n
  | "as_integer_ratio" => return .tuple [.int n, .int 1]
  | "__index__" | "__int__" => return .int n
  | "to_bytes" =>
    atMostGiven "to_bytes" args 2
    let length ← match argAt args kw 0 "length" with
      | some v => intArg h v
      | none => pure 1
    if length < 0 then throwExc "ValueError" "length argument must be non-negative"
    let little ← littleOrder "to_bytes" (argAt args kw 1 "byteorder")
    let signed ← match kw.find? (·.1 == "signed") with
      | some (_, v) => truthy h v
      | none => pure false
    if n < 0 && !signed then throwExc "OverflowError" "can't convert negative int to unsigned"
    let room : Int := 2 ^ (8 * length.toNat)
    let fits := if signed then -(room / 2) ≤ n && n < room / 2 else n < room
    if !fits then throwExc "OverflowError" "int too big to convert"
    let bs := bytesOfInt n length.toNat
    return .bytes (if little then bs.reverse else bs)
  | _ => throwExc "AttributeError" ("'int' object has no attribute '" ++ name ++ "'")

/-- A method of a float. -/
def floatMethod (x : Float) (name : String) (args : List Value) : Eval Value := do
  match name with
  | "is_integer" =>
    atMost "float.is_integer" args 0
    return .bool (!x.isNaN && !x.isInf && x.floor == x)
  | "conjugate" => return .float x
  | "hex" =>
    atMost "float.hex" args 0
    return .str (StubDoctest.Number.hexText x)
  | "as_integer_ratio" =>
    match StubDoctest.Number.decode x with
    | .nan => throwExc "ValueError" "cannot convert NaN to integer ratio"
    | .inf _ => throwExc "OverflowError" "cannot convert Infinity to integer ratio"
    | .finite neg m e =>
      let sgn : Int := if neg then -1 else 1
      if e ≥ 0 then return .tuple [.int (sgn * (m * 2 ^ e.toNat : Nat)), .int 1]
      else
        let den := 2 ^ (-e).toNat
        let g := Nat.gcd m den
        return .tuple [.int (sgn * ((m / g : Nat) : Int)), .int (den / g : Nat)]
  | _ => throwExc "AttributeError" ("'float' object has no attribute '" ++ name ++ "'")

/-- A method of a tuple. -/
def tupleMethod (h : Hooks) (fuel : Nat) (items : List Value) (name : String) (args : List Value) :
    Eval Value := do
  let xs := items.toArray
  match name with
  | "count" => return .int (← countOfValue h fuel xs (← exactlyOne "tuple.count" args))
  | "index" =>
    atLeast "index" args 1
    match ← indexOfValue h fuel xs args[0]! 0 xs.size with
    | some p => return .int p
    | none => throwExc "ValueError" "tuple.index(x): x not in tuple"
  | "__len__" => return .int xs.size
  | "__getitem__" => getItem h (.tuple items) (← exactlyOne "__getitem__" args)
  | _ => throwExc "AttributeError" ("'tuple' object has no attribute '" ++ name ++ "'")

/-- Text decoded from UTF-8, or `none` for malformed bytes. -/
def decodeUtf8 (bs : List UInt8) : Option String :=
  String.fromUTF8? (ByteArray.mk bs.toArray)

/-- A new instance of a class, with the arguments of an exception recorded. -/
def newInstance (c : ClassRef) (args : List Value) : Eval Value := do
  if ← isExceptionClass c then allocRef (.inst c #[("args", .tuple args)] none)
  else
    -- a class whose abstract methods are not all defined has no instances
    if let some (_, .ref b) ← findInMro c "__abstractmethods__" then
      if let .set t _ ← getObj b then
        let names := (t.items.filterMap fun | .str s => some s | _ => none).toArray.qsort (· < ·)
        unless names.isEmpty do
          throwExc "TypeError" ("Can't instantiate abstract class " ++ (← className c) ++
            " with abstract method" ++ (if names.size == 1 then " " else "s ") ++
            ", ".intercalate names.toList)
    allocRef (.inst c #[] none)

/-- The display form `object` gives an instance, ignoring its class's own. -/
def objectRepr (h : Hooks) (v : Value) : Eval String := do
  match v with
  | .ref a =>
    match ← getObj a with
    | .inst c attrs _ =>
      if ← isExceptionClass c then
        let name ← className c
        match excArgs attrs with
        | [x] => return name ++ "(" ++ (← reprOf h showFuel [] x) ++ ")"
        | args => return name ++ (← reprOf h showFuel [] (.tuple args))
      else return "<" ++ (← classFullName c) ++ " object at " ++ addressText a ++ ">"
    | _ => reprOf h showFuel [] v
  | _ => reprOf h showFuel [] v

/-- The plain form `object` gives an instance: an exception's from its arguments, otherwise the
display form. -/
def objectStr (h : Hooks) (v : Value) : Eval String := do
  match v with
  | .ref a =>
    match ← getObj a with
    | .inst c attrs _ =>
      if ← isExceptionClass c then exceptionText (strOf h showFuel) (reprOf h showFuel []) c attrs
      else reprOf h showFuel [] v
    | _ => strOf h showFuel v
  | _ => strOf h showFuel v

/-- A method every object has, called on an instance. -/
def objectMethod (h : Hooks) (self : Value) (name : String) (args : List Value) : Eval Value := do
  match name with
  | "__init__" =>
    match self with
    | .ref a =>
      match ← getObj a with
      | .inst c attrs data =>
        if ← isExceptionClass c then setObj a (.inst c (setPair attrs "args" (.tuple args)) data)
      | _ => pure ()
    | _ => pure ()
    return .none
  | "__repr__" => return .str (← objectRepr h self)
  | "__str__" => return .str (← objectStr h self)
  | "__eq__" => return match args with
    | [o] => if isSame self o then .bool true else .notImplemented
    | _ => .notImplemented
  | "__ne__" => return match args with
    | [o] => if isSame self o then .bool false else .notImplemented
    | _ => .notImplemented
  | "__hash__" => return .int (← hashValue h keyFuel self)
  | "__setattr__" =>
    match self, args with
    | .ref a, [.str k, v] =>
      match ← getObj a with
      | .inst c attrs data => setObj a (.inst c (setPair attrs k v) data)
      | _ => pure ()
    | _, _ => pure ()
    return .none
  | "__getattribute__" =>
    match args with
    | [.str k] => getAttr h self k
    | _ => throwExc "TypeError" "attribute name must be string"
  | "__delattr__" =>
    match args with
    | [.str k] => plainDelAttr h self k; return .none
    | _ => throwExc "TypeError" "attribute name must be string"
  | "__format__" =>
    match args with
    | [.str ""] => return .str (← strOf h showFuel self)
    | _ => throwExc "TypeError" ("unsupported format string passed to " ++ (← typeName self) ++ ".__format__")
  | "__init_subclass__" => return .none
  | "__dir__" =>
    match self with
    | .ref a =>
      match ← getObj a with
      | .inst _ attrs _ => allocRef (.list (attrs.map fun (k, _) => .str k))
      | _ => allocRef (.list #[])
    | _ => allocRef (.list #[])
  | "with_traceback" => return self
  | "add_note" =>
    match self, args with
    | .ref a, [note] =>
      match note with
      | .str _ => pure ()
      | _ => throwExc "TypeError" ("note must be a str, not '" ++ (← typeName note) ++ "'")
      match ← getObj a with
      | .inst c attrs data =>
        match lookupPairs attrs "__notes__" with
        | some (.ref l) =>
          match ← getObj l with
          | .list xs => setObj l (.list (xs.push note))
          | _ => throwExc "TypeError" "Cannot add note: __notes__ is not a list"
        | some _ => throwExc "TypeError" "Cannot add note: __notes__ is not a list"
        | none =>
          let l ← allocRef (.list #[note])
          setObj a (.inst c (setPair attrs "__notes__" l) data)
      | _ => pure ()
      return .none
    | _, _ => throwExc "TypeError" ("BaseException.add_note() takes exactly one argument (" ++
        toString args.length ++ " given)")
  | "__lt__" | "__le__" | "__gt__" | "__ge__" => return .notImplemented
  | "__sizeof__" => return .int 32
  | _ => throwExc "AttributeError" ("'" ++ (← typeName self) ++ "' object has no attribute '" ++ name ++ "'")

/-- `dict.fromkeys(iterable, value=None)`: a new dictionary binding each item to the value. -/
def dictFromKeys (h : Hooks) (fuel : Nat) (args : List Value) : Eval Value := do
  atMost "fromkeys" args 2
  match args with
  | it :: rest =>
    let v := rest.headD .none
    let mut es : Array (Value × Value) := #[]
    for k in ← iterate h fuel it do
      es ← dictInsert h es k v
    allocRef (.dict es)
  | [] => throwExc "TypeError" "fromkeys expected at least 1 argument, got 0"

/-- The classes a program defined that name a class among their bases, in the order they were
made. -/
def subclassesOf (k : ClassRef) : Eval (List Value) := do
  let heap := (← get).heap
  let mut out : List Value := []
  for i in [0:heap.size] do
    match heap[i]? with
    | some (.userClass _ bases _ _ _) => if bases.contains k then out := out ++ [.ref i]
    | _ => pure ()
  return out

/-- The binary operators by the names of their special methods. -/
def binOps : List Source.BinOp :=
  [.add, .sub, .mul, .matmul, .div, .floordiv, .mod, .pow, .lshift, .rshift, .bitor, .bitxor,
    .bitand]

/-- The family of a runtime type of data for comparisons: booleans count as integers, and frozen
sets as sets. -/
def compareFamily (name : String) : String :=
  if name == "bool" then "int" else if name == "frozenset" then "set" else name

/-- Whether the runtime compares a value of the first family with one of the second: within a
family, and a float or complex number with the narrower numbers. -/
def familiesCompare (a b : String) : Bool :=
  a == b || (a == "float" && b == "int") || (a == "complex" && (b == "int" || b == "float"))

/-- A special method of a runtime type of data, called on a value of that type: each acts as the
operation it stands for, and one that does not apply to the other operand gives
`NotImplemented`. `none` for a name that is not one of them. -/
def dataDunder (h : Hooks) (fuel : Nat) (self : Value) (name : String) (args : List Value)
    (kw : List (String × Value)) : Eval (Option Value) := do
  let operand (v : Value) : Eval Value := do return (← dataOf? v).getD v
  let family (v : Value) : Eval String := do return compareFamily (← typeName v)
  match name, args with
  | "__len__", [] => return some (.int (← lengthOf h self))
  | "__getitem__", [k] => return some (← getItem h self k)
  | "__setitem__", [k, v] => setItem h self k v; return some .none
  | "__delitem__", [k] => delItem h self k; return some .none
  | "__contains__", [x] => return some (.bool (← containsItem h fuel self x))
  | "__iter__", [] => return some (← iterOf h self)
  | "__repr__", [] => return some (.str (← reprOf h showFuel [] self))
  | "__str__", [] => return some (.str (← strOf h showFuel self))
  | "__hash__", [] => return some (.int (← hashValue h keyFuel self))
  | "__bool__", [] => return some (.bool (← truthy h self))
  | "__format__", [.str spec] => return some (.str (← formatValue h self spec))
  | "__init__", _ =>
    match self with
    | .ref a =>
      match ← getObj a with
      | .list _ =>
        if !kw.isEmpty then throwExc "TypeError" "list() takes no keyword arguments"
        match args with
        | [] => setObj a (.list #[])
        | [it] =>
          let items ← iterate h fuel it
          setObj a (.list items)
        | _ => throwExc "TypeError" ("list expected at most 1 argument, got " ++
            toString args.length)
        return some .none
      | .set _ false =>
        if !kw.isEmpty then throwExc "TypeError" "set() takes no keyword arguments"
        match args with
        | [] => setObj a (.set {} false)
        | [it] =>
          let t ← tableOfIterable h fuel it
          setObj a (.set t false)
        | _ => throwExc "TypeError" ("set expected at most 1 argument, got " ++
            toString args.length)
        return some .none
      | .dict _ =>
        let _ ← dictMethod h fuel a "update" args kw
        return some .none
      | .byteArray _ =>
        setObj a (.byteArray (← bytesFromArgs h fuel "bytearray" args kw).toArray)
        return some .none
      | .inst c _ _ => if ← isExceptionClass c then return none else return some .none
      | _ => return some .none
    | _ => return some .none
  | "__eq__", [o] | "__ne__", [o] =>
    let o ← operand o
    if !familiesCompare (← family self) (← family o) then return some .notImplemented
    let same ← builtinEq h keyFuel self o
    return some (.bool (if name == "__eq__" then same else !same))
  | "__lt__", [o] | "__le__", [o] | "__gt__", [o] | "__ge__", [o] =>
    let o ← operand o
    let f ← family self
    if !familiesCompare f (← family o) || f == "dict" || f == "complex" then
      return some .notImplemented
    let op : Source.CmpOp := match name with
      | "__lt__" => .lt | "__le__" => .le | "__gt__" => .gt | _ => .ge
    return some (.bool (← builtinOrder h keyFuel op self o (self, o)))
  | _, [o] =>
    let o ← operand o
    match binOps.find? (fun op => name == "__" ++ binOpDunder op ++ "__") with
    | some op => return some ((← builtinBinary h op self o).getD .notImplemented)
    | none =>
      match binOps.find? (fun op => name == "__r" ++ binOpDunder op ++ "__") with
      | some op => return some ((← builtinBinary h op o self).getD .notImplemented)
      | none => return none
  | _, _ => return none

/-- Call a method of the runtime on its receiver. -/
def callMethod (h : Hooks) (fuel : Nat) (self : Value) (name : String) (args : List Value)
    (kw : List (String × Value)) : Eval Value := do
  if name == "__subclasses__" then
    if let some k ← classOfValue? self then return ← allocRef (.list (← subclassesOf k).toArray)
  if name.startsWith "__" then
    if let some r ← dataDunder h fuel self name args kw then return r
  match self with
  | .str s =>
    if (strMethods.contains name) || name.startsWith "__" then strMethod h fuel s name args kw
    else objectMethod h self name args
  | .tuple items => tupleMethod h fuel items name args
  | .int n => if name.startsWith "__" && !(name == "__index__" || name == "__int__") then
      objectMethod h self name args else intMethod h n name args kw
  | .bool b => intMethod h (if b then 1 else 0) name args kw
  | .float x => floatMethod x name args
  | .complex re im =>
    if name == "conjugate" then return .complex re (-im) else objectMethod h self name args
  | .bytes bs => byteMethod h fuel bs false name args kw
  | .range a b c =>
    match name with
    | "count" =>
      let v ← exactlyOne "range.count" args
      return .int (if ← containsItem h fuel (.range a b c) v then 1 else 0)
    | "index" =>
      let v ← exactlyOne "range.index" args
      match v.intValue? with
      | some n =>
        if ← containsItem h fuel (.range a b c) v then return .int ((n - a) / c)
        else throwExc "ValueError" (toString n ++ " is not in range")
      | none => throwExc "ValueError" "sequence.index(x): x not in sequence"
    | _ => objectMethod h self name args
  | .cls (.builtin "dict") => if name == "fromkeys" then dictFromKeys h fuel args else objectMethod h self name args
  | .cls (.builtin "str") => if name == "maketrans" then makeTrans args else objectMethod h self name args
  | .cls (.builtin "bytes") | .cls (.builtin "bytearray") =>
    match name with
    | "maketrans" => byteTransTable args
    | "fromhex" =>
      match ← exactlyOne "fromhex" args with
      | .str t =>
        match bytesOfHex t with
        | .ok bs =>
          if self matches .cls (.builtin "bytes") then return .bytes bs
          else allocRef (.byteArray bs.toArray)
        | .error i =>
          throwExc "ValueError" ("non-hexadecimal number found in fromhex() arg at position " ++
            toString i)
      | x => throwExc "TypeError" ("fromhex() argument must be str, not " ++ (← typeName x))
    | _ => objectMethod h self name args
  | .cls (.builtin "int") =>
    if name == "from_bytes" then intFromBytes h fuel args kw else objectMethod h self name args
  | .cls (.builtin "float") =>
    if name == "fromhex" then
      match ← exactlyOne "fromhex" args with
      | .str t =>
        match StubDoctest.Number.ofHexText t with
        | .ok x => return .float x
        | .error .malformed => throwExc "ValueError" "invalid hexadecimal floating-point string"
        | .error .tooLarge =>
          throwExc "OverflowError" "hexadecimal value too large to represent as a float"
      | _ => throwExc "TypeError" "bad argument type for built-in operation"
    else objectMethod h self name args
  | .cls _ => objectMethod h self name args
  | .ref a =>
    match ← getObj a with
    | .list _ => listMethod h fuel a name args kw
    | .dict _ => if name == "fromkeys" then dictFromKeys h fuel args else dictMethod h fuel a name args kw
    | .set _ _ => setMethod h fuel a name args
    | .byteArray _ => byteArrayMethod h fuel a name args kw
    | .memoryView _ _ _ _ => memoryViewMethod h a name args
    | .iterator _ _ =>
      match name with
      | "__next__" =>
        atMost "__next__" args 0
        match ← advance h fuel self with
        | some v => return v
        | none => throwBare "StopIteration"
      | "__iter__" => return self
      | _ => objectMethod h self name args
    | .view d part =>
      match name with
      | "__len__" => return .int (← lengthOf h self)
      | "__iter__" => iterOf h self
      | "__contains__" => return .bool (← containsItem h fuel self (← exactlyOne "__contains__" args))
      | "__reversed__" =>
        let items ← viewItems d part
        allocRef (.iterator "dict_reversekeyiterator" (.items items.reverse 0))
      | "isdisjoint" =>
        let other ← iterate h fuel (← exactlyOne "isdisjoint" args)
        for x in other do
          if ← containsItem h fuel self x then return .bool false
        return .bool true
      | _ => objectMethod h self name args
    | .property g s =>
      match name, args with
      | "setter", [f] => allocRef (.property g f)
      | "getter", [f] => allocRef (.property f s)
      | "deleter", [_] => return .ref a
      | _, _ => throwExc "TypeError" (name ++ "() takes exactly one argument")
    | _ => objectMethod h self name args
  | _ => objectMethod h self name args

end StubDoctest.Exec
