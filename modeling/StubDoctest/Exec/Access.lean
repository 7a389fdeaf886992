import StubDoctest.Exec.Arith

/-!
# Iteration, length, subscripts and membership

Iterating a value yields its items: the characters of a string, the integers of a range or of a
byte string, the keys of a dictionary, the values of a set in slot order, what an iterator has
not yet given (and then it is spent), or what a class a program defines gives through
`__iter__` and `__next__` until `StopIteration`, or through `__getitem__` until `IndexError`.

A subscript takes an integer (counted from the end when negative) or a slice. A slice's
missing bounds stand for the whole sequence in the direction of its step; bounds beyond the
sequence are clamped. Dictionaries look up keys by hash and equality.
-/

namespace StubDoctest.Exec

/-- Whether an exception is an instance of a runtime class. -/
def excIs (e : Value) (name : String) : Eval Bool := isInstance e (.builtin name)

/-- The most items one iteration takes. -/
def iterationLimit : Nat := 10000000

/-- The first value of a set's slots at or after a position, with its slot. -/
def nextSlot (slots : Array Slot) (pos : Nat) : Option (Nat × Value) :=
  (List.range' pos (slots.size - pos)).findSome? fun i =>
    match slots[i]? with
    | some (Slot.item _ v) => some (i, v)
    | _ => none

/-- The message of `zip(strict=True)` when argument `i + 1` ends before or after the first
`i`. -/
def zipMismatch (i : Nat) (how : String) : String :=
  "zip() argument " ++ toString (i + 1) ++ " is " ++ how ++ " than argument" ++
    (if i == 1 then " " else "s 1-") ++ toString i

/-- The next item of an iterator, or `none` when it is spent. Lists, dictionaries and sets are
read as they are when each item is taken; a dictionary or set whose size changed refuses to go
on. -/
def advance (h : Hooks) (fuel : Nat) (it : Value) : Eval (Option Value) :=
  match fuel with
  | 0 => throw .exhausted
  | fuel + 1 => do
    let notIterator : Eval (Option Value) := do
      throwExc "TypeError" ("'" ++ (← typeName it) ++ "' object is not an iterator")
    let byNext (fn : Value) (args : List Value) : Eval (Option Value) :=
      tryCatch (some <$> h.call fn args []) fun
        | .raised e => do if ← excIs e "StopIteration" then pure none else throw (.raised e)
        | s => throw s
    match it with
    | .ref a =>
      match ← getObj a with
      | .iterator kind w =>
        let put (w : Walk) : Eval Unit := setObj a (.iterator kind w)
        let finish : Eval (Option Value) := do put .spent; return none
        match w with
        | .items items pos =>
          if hp : pos < items.size then
            put (.items items (pos + 1))
            return some items[pos]
          else finish
        | .range next stop step =>
          if (step > 0 && next < stop) || (step < 0 && next > stop) then
            put (.range (next + step) stop step)
            return some (.int next)
          else finish
        | .list b pos =>
          match ← getObj b with
          | .list xs =>
            if hp : pos < xs.size then
              put (.list b (pos + 1))
              return some xs[pos]
            else finish
          | _ => finish
        | .listBack b pos =>
          match ← getObj b with
          | .list xs =>
            if 0 ≤ pos && pos.toNat < xs.size then
              put (.listBack b (pos - 1))
              return some xs[pos.toNat]!
            else finish
          | _ => finish
        | .dict b part pos size =>
          match ← getObj b with
          | .dict es =>
            if es.size != size then
              throwExc "RuntimeError" "dictionary changed size during iteration"
            if hp : pos < es.size then
              put (.dict b part (pos + 1) size)
              return some (part.pick es[pos])
            else finish
          | _ => finish
        | .set b pos size =>
          match ← getObj b with
          | .set t _ =>
            if t.used != size then throwExc "RuntimeError" "Set changed size during iteration"
            match nextSlot t.slots pos with
            | some (i, v) =>
              put (.set b (i + 1) size)
              return some v
            | none => finish
          | _ => finish
        | .indexed obj pos =>
          match ← lookupSpecial obj "__getitem__" with
          | some fn =>
            let r ← tryCatch (some <$> h.call fn [obj, .int pos] []) fun
              | .raised e => do
                if (← excIs e "IndexError") || (← excIs e "StopIteration") then pure none
                else throw (.raised e)
              | s => throw s
            match r with
            | some x =>
              put (.indexed obj (pos + 1))
              return some x
            | none => finish
          | none => finish
        | .mapped f iters =>
          let mut args : Array Value := #[]
          for i in iters do
            match ← advance h fuel i with
            | some x => args := args.push x
            | none => return none
          return some (← h.call f args.toList [])
        | .filtered f inner =>
          for _ in [0:iterationLimit] do
            match ← advance h fuel inner with
            | none => return none
            | some x =>
              let keep ← match f with
                | .none => truthy h x
                | _ => do truthy h (← h.call f [x] [])
              if keep then return some x
          throw .exhausted
        | .zipped iters strict =>
          if iters.isEmpty then return none
          let mut xs : Array Value := #[]
          let mut i := 0
          for inner in iters do
            match ← advance h fuel inner with
            | some x => xs := xs.push x
            | none =>
              if strict then
                if i > 0 then throwExc "ValueError" (zipMismatch i "shorter")
                let mut j := 1
                for other in iters.drop 1 do
                  if (← advance h fuel other).isSome then
                    throwExc "ValueError" (zipMismatch j "longer")
                  j := j + 1
              return none
            i := i + 1
          return some (.tuple xs.toList)
        | .enumerated inner n =>
          match ← advance h fuel inner with
          | some x =>
            put (.enumerated inner (n + 1))
            return some (.tuple [.int n, x])
          | none => return none
        | .calling f sentinel =>
          let r ← tryCatch (some <$> h.call f [] []) fun
            | .raised e => do if ← excIs e "StopIteration" then pure none else throw (.raised e)
            | s => throw s
          match r with
          | some x =>
            if ← eqValues h fuel sentinel x then finish else return some x
          | none => finish
        | .spent => return none
      | .generator _ => byNext (.method it "__next__") []
      | .inst _ _ _ =>
        match ← lookupSpecial it "__next__" with
        | some fn => byNext fn [it]
        | none => notIterator
      | _ => notIterator
    | _ => notIterator

/-- Whether a value is an iterator: it gives its items through `__next__`. -/
def isIterator (v : Value) : Eval Bool := do
  match v with
  | .ref a =>
    match ← getObj a with
    | .iterator _ _ | .generator _ => return true
    | .inst _ _ _ => return (← lookupSpecial v "__next__").isSome
    | _ => return false
  | _ => return false

/-- The items an iterator has left, taken one by one. -/
def drainIterator (h : Hooks) (fuel : Nat) (it : Value) : Eval (Array Value) := do
  let mut acc : Array Value := #[]
  for _ in [0:iterationLimit] do
    match ← advance h fuel it with
    | some x => acc := acc.push x
    | none => return acc
  throw .exhausted

/-- The iterator that `__iter__` gives, refused when it is not one. -/
def iterOfSpecial (h : Hooks) (fn v : Value) : Eval Value := do
  let it ← h.call fn [v] []
  if ← isIterator it then return it
  else throwExc "TypeError" ("iter() returned non-iterator of type '" ++ (← typeName it) ++ "'")

/-- The iterator `iter` gives for a value: an iterator is its own; a class a program defines
gives one through `__iter__`, or walks `__getitem__`; lists, dictionaries and sets are walked
as they change; other values through their items. -/
def iterOf (h : Hooks) (v : Value) : Eval Value := do
  let make (kind : String) (w : Walk) : Eval Value := allocRef (.iterator kind w)
  let refuse : Eval Value := do
    throwExc "TypeError" ("'" ++ (← typeName v) ++ "' object is not iterable")
  match ← unwrapData v "__iter__" with
  | .ref a =>
    match ← getObj a with
    | .iterator _ _ | .generator _ => return v
    | .view d part =>
      match ← getObj d with
      | .dict es => make part.iteratorName (.dict d part 0 es.size)
      | _ => refuse
    | .inst _ _ _ =>
      match ← lookupSpecial v "__iter__" with
      | some .none => refuse
      | some fn => iterOfSpecial h fn v
      | none =>
        match ← lookupSpecial v "__getitem__" with
        | some _ => make "iterator" (.indexed v 0)
        | none => refuse
    | .list _ => make "list_iterator" (.list a 0)
    | .dict es => make "dict_keyiterator" (.dict a .keys 0 es.size)
    | .set t _ => make "set_iterator" (.set a 0 t.used)
    | .scope vars => make "dict_keyiterator" (.items (vars.map fun (k, _) => Value.str k) 0)
    | .byteArray bs => make "bytearray_iterator" (.items (bs.map fun b => Value.int b.toNat) 0)
    | .memoryView _ _ _ _ =>
      let bs := (← bytesLike? v).getD []
      make "memory_iterator" (.items (bs.map fun b => Value.int b.toNat).toArray 0)
    | _ => refuse
  | .str s =>
    let kind := if s.toList.all (·.toNat < 128) then "str_ascii_iterator" else "str_iterator"
    make kind (.items (s.toList.map fun c => Value.str c.toString).toArray 0)
  | .tuple items => make "tuple_iterator" (.items items.toArray 0)
  | .range a b c => make "range_iterator" (.range a b c)
  | .bytes bs => make "bytes_iterator" (.items (bs.map fun b => Value.int b.toNat).toArray 0)
  | _ => refuse

/-- Whether a value can be iterated. -/
def isIterable (v : Value) : Eval Bool := do
  match v with
  | .str _ | .bytes _ | .tuple _ | .range _ _ _ => return true
  | .ref a =>
    match ← getObj a with
    | .list _ | .dict _ | .set _ _ | .iterator _ _ | .view _ _ | .generator _ | .scope _
    | .byteArray _ | .memoryView _ _ _ _ => return true
    | .inst _ _ data =>
      if (← lookupSpecial v "__iter__").isSome || (← lookupSpecial v "__getitem__").isSome then
        return true
      -- the values of runtime types that instances hold are iterable, numbers apart
      match data with
      | some (.int _) | some (.bool _) | some (.float _) | some (.complex _ _) | none => return false
      | some _ => return true
    | _ => return false
  | _ => return false

/-- The items of an iterable value. -/
def iterate (h : Hooks) (fuel : Nat) (v : Value) : Eval (Array Value) := do
  match v with
  | .str s => return (s.toList.map fun c => Value.str c.toString).toArray
  | .bytes bs => return (bs.map fun b => Value.int b.toNat).toArray
  | .tuple items => return items.toArray
  | .range a b c =>
    return ((List.range (rangeLength a b c)).map fun (i : Nat) => Value.int (a + c * (i : Int))).toArray
  | .ref a =>
    match ← getObj a with
    | .list items => return items
    | .dict entries => return entries.map (·.1)
    | .scope vars => return vars.map fun (k, _) => Value.str k
    | .set t _ => return t.items.toArray
    | .view d part => viewItems d part
    | .byteArray bs => return bs.map fun b => Value.int b.toNat
    | .memoryView _ _ _ _ => return ((← bytesLike? v).getD []).toArray.map fun b => Value.int b.toNat
    | _ => drainIterator h fuel (← iterOf h v)
  | _ => drainIterator h fuel (← iterOf h v)

/-- The length of a value. -/
def lengthOf (h : Hooks) (v : Value) : Eval Nat := do
  let refuse : Eval Nat := do
    throwExc "TypeError" ("object of type '" ++ (← typeName v) ++ "' has no len()")
  match ← unwrapData v "__len__" with
  | .str s => return s.length
  | .bytes bs => return bs.length
  | .tuple items => return items.length
  | .range a b c => return rangeLength a b c
  | .ref a =>
    match ← getObj a with
    | .list items => return items.size
    | .dict entries => return entries.size
    | .scope vars => return vars.size
    | .set t _ => return t.used
    | .view d _ =>
      match ← getObj d with
      | .dict entries => return entries.size
      | _ => return 0
    | .byteArray bs => return bs.size
    | .memoryView _ _ size released =>
      if released then throwExc "ValueError" "operation forbidden on released memoryview object"
      return size
    | .inst _ _ _ =>
      match ← lookupSpecial v "__len__" with
      | some fn =>
        match ← h.call fn [v] [] with
        | .int n =>
          if n < 0 then throwExc "ValueError" "__len__() should return >= 0" else return n.toNat
        | .bool b => return if b then 1 else 0
        | r => throwExc "TypeError" ("'" ++ (← typeName r) ++ "' object cannot be interpreted as an integer")
      | none => refuse
    | _ => refuse
  | _ => refuse

/-- An integer usable as an index: an integer, a boolean, or a value a program gives an
`__index__`. -/
def indexValue? (h : Hooks) (v : Value) : Eval (Option Int) := do
  match (← unwrapData v "__index__").intValue? with
  | some n => return some n
  | none =>
    match ← lookupSpecial v "__index__" with
    | some fn =>
      match ← h.call fn [v] [] with
      | .int n => return some n
      | r => throwExc "TypeError" ("__index__ returned non-int (type " ++ (← typeName r) ++ ")")
    | none => return none

/-- The positions a slice selects in a sequence of length `n`, with its step. -/
def sliceIndices (h : Hooks) (n : Nat) (lo hi st : Value) : Eval (List Nat × Int) := do
  let bound (v : Value) : Eval (Option Int) := do
    match v with
    | .none => return none
    | _ =>
      match ← indexValue? h v with
      | some i => return some i
      | none => throwExc "TypeError" "slice indices must be integers or None or have an __index__ method"
  let step ← match ← bound st with
    | some 0 => throwExc "ValueError" "slice step cannot be zero"
    | some s => pure s
    | none => pure 1
  let len : Int := n
  let adjust (i : Int) : Int :=
    if i < 0 then (let j := i + len; if j < 0 then (if step < 0 then -1 else 0) else j)
    else if i ≥ len then (if step < 0 then len - 1 else len) else i
  let start := match ← bound lo with
    | some i => adjust i
    | none => if step < 0 then len - 1 else 0
  let stop := match ← bound hi with
    | some i => adjust i
    | none => if step < 0 then -1 else len
  let count : Nat :=
    if step < 0 then (if stop < start then ((start - stop - 1) / (-step) + 1).toNat else 0)
    else (if start < stop then ((stop - start - 1) / step + 1).toNat else 0)
  return ((List.range count).map fun (k : Nat) => (start + step * (k : Int)).toNat, step)

/-- A position of a sequence of length `n` from an index counted from either end. -/
def normIndex (n : Nat) (i : Int) : Option Nat :=
  let j := if i < 0 then i + n else i
  if 0 ≤ j ∧ j < n then some j.toNat else none

/-- The items at the given positions. -/
def pick {α : Type} [Inhabited α] (xs : Array α) (ps : List Nat) : Array α :=
  (ps.filterMap fun p => xs[p]?).toArray

/-- The runtime classes whose subscripts are generic aliases. -/
def genericRuntimeClasses : List String :=
  ["list", "dict", "tuple", "set", "frozenset", "type", "enumerate", "BaseExceptionGroup",
    "ExceptionGroup"]

/-- `cls[key]` for a class: its metaclass's `__getitem__`, else its `__class_getitem__`, else a
generic alias (`types.GenericAlias`) when it is or derives from a runtime container class. -/
def classItem (h : Hooks) (cls key : Value) : Eval Value := do
  if let some fn ← lookupSpecial cls "__getitem__" then return ← h.call fn [cls, key] []
  let some k ← classOfValue? cls | throwExc "TypeError" "'type' object is not subscriptable"
  if let some (_, fn) ← findInMro k "__class_getitem__" then
    -- the method is a class method even when not written as one
    let fn ← match fn with
      | .ref b =>
        match ← getObj b with
        | .classMethod g => pure g
        | _ => pure fn
      | _ => pure fn
    return ← h.call fn [cls, key] []
  let generic := (← classMro k).any fun
    | .builtin n => genericRuntimeClasses.contains n
    | .user _ => false
  if !generic then
    throwExc "TypeError" ("type '" ++ (← className k) ++ "' is not subscriptable")
  match ← moduleMember h "types" "GenericAlias" with
  | some ga => h.call ga [cls, key] []
  | none => throwExc "TypeError" ("type '" ++ (← className k) ++ "' is not subscriptable")

/-- `whole[key]`. An instance of a class derived from a runtime type whose classes bind no
`__getitem__` gives the item of the value it holds; a key its dictionary lacks goes to the
class's `__missing__` when there is one. -/
def getItem (h : Hooks) (whole key : Value) : Eval Value := do
  let indexFault (what : String) : Eval Value := do
    throwExc "TypeError" (what ++ " indices must be integers or slices, not " ++ (← typeName key))
  -- a dictionary of a derived class asks its `__missing__` for a key it lacks
  let missing : Eval Value := do
    match ← lookupSpecial whole "__missing__" with
    | some fn => h.call fn [whole, key] []
    | none => throwWith "KeyError" key
  let obj ← unwrapData whole "__getitem__"
  match obj with
  | .str s =>
    let cs := s.toList.toArray
    match key with
    | .slice lo hi st =>
      let (ps, _) ← sliceIndices h cs.size lo hi st
      return .str (String.ofList (pick cs ps).toList)
    | _ =>
      match ← indexValue? h key with
      | some i =>
        match normIndex cs.size i with
        | some p => return .str (cs[p]!).toString
        | none => throwExc "IndexError" "string index out of range"
      | none => throwExc "TypeError" ("string indices must be integers, not '" ++ (← typeName key) ++ "'")
  | .tuple items =>
    let xs := items.toArray
    match key with
    | .slice lo hi st =>
      let (ps, _) ← sliceIndices h xs.size lo hi st
      return .tuple (pick xs ps).toList
    | _ =>
      match ← indexValue? h key with
      | some i =>
        match normIndex xs.size i with
        | some p => return xs[p]!
        | none => throwExc "IndexError" "tuple index out of range"
      | none => indexFault "tuple"
  | .bytes bs =>
    let xs := bs.toArray
    match key with
    | .slice lo hi st =>
      let (ps, _) ← sliceIndices h xs.size lo hi st
      return .bytes (pick xs ps).toList
    | _ =>
      match ← indexValue? h key with
      | some i =>
        match normIndex xs.size i with
        | some p => return .int (xs[p]!).toNat
        | none => throwExc "IndexError" "index out of range"
      | none => indexFault "byte"
  | .range a b c =>
    let n := rangeLength a b c
    match key with
    | .slice lo hi st =>
      let (ps, step) ← sliceIndices h n lo hi st
      let start := match ps.head? with
        | some p => a + c * p
        | none => a
      return .range start (start + c * step * ps.length) (c * step)
    | _ =>
      match ← indexValue? h key with
      | some i =>
        match normIndex n i with
        | some p => return .int (a + c * p)
        | none => throwExc "IndexError" "range object index out of range"
      | none => indexFault "range"
  | .cls _ => classItem h obj key
  | .ref a =>
    match ← getObj a with
    | .list items =>
      match key with
      | .slice lo hi st =>
        let (ps, _) ← sliceIndices h items.size lo hi st
        allocRef (.list (pick items ps))
      | _ =>
        match ← indexValue? h key with
        | some i =>
          match normIndex items.size i with
          | some p => return items[p]!
          | none => throwExc "IndexError" "list index out of range"
        | none => indexFault "list"
    | .dict entries =>
      match ← dictFind h keyFuel entries key (← hashValue h keyFuel key) with
      | some i => return entries[i]!.2
      | none => missing
    | .userClass _ _ _ _ _ => classItem h obj key
    | .byteArray bs =>
      match key with
      | .slice lo hi st =>
        let (ps, _) ← sliceIndices h bs.size lo hi st
        allocRef (.byteArray (pick bs ps))
      | _ =>
        match ← indexValue? h key with
        | some i =>
          match normIndex bs.size i with
          | some p => return .int (bs[p]!).toNat
          | none => throwExc "IndexError" "bytearray index out of range"
        | none => indexFault "bytearray"
    | .memoryView src start size released =>
      if released then throwExc "ValueError" "operation forbidden on released memoryview object"
      let xs := ((← bytesLike? obj).getD []).toArray
      match key with
      | .slice lo hi st =>
        let (ps, step) ← sliceIndices h size lo hi st
        if step == 1 then
          allocRef (.memoryView src (start + (ps.head?.getD 0)) ps.length false)
        else
          let part := (pick xs ps).toList
          allocRef (.memoryView (.bytes part) 0 part.length false)
      | _ =>
        match ← indexValue? h key with
        | some i =>
          match normIndex size i with
          | some p => return .int (xs[p]!).toNat
          | none => throwExc "IndexError" "index out of bounds on dimension 1"
        | none => throwExc "TypeError" "memoryview: invalid slice key"
    | .inst _ _ _ =>
      match ← lookupSpecial obj "__getitem__" with
      | some fn => h.call fn [obj, key] []
      | none => throwExc "TypeError" ("'" ++ (← typeName whole) ++ "' object is not subscriptable")
    | _ => throwExc "TypeError" ("'" ++ (← typeName whole) ++ "' object is not subscriptable")
  | _ => throwExc "TypeError" ("'" ++ (← typeName whole) ++ "' object is not subscriptable")

/-- Whether a byte string holds a byte, given by its value, or a run of bytes. -/
def bytesContain (bs : List UInt8) (item : Value) : Eval Bool := do
  match item.intValue? with
  | some n =>
    if n < 0 || n > 255 then throwExc "ValueError" "byte must be in range(0, 256)"
    return bs.any (·.toNat == n)
  | none =>
    match ← bytesLike? item with
    | some t =>
      return t.isEmpty || (List.range (bs.length + 1)).any fun i => (bs.drop i).take t.length == t
    | none =>
      throwExc "TypeError" ("a bytes-like object is required, not '" ++ (← typeName item) ++ "'")

/-- Whether a container holds an item. -/
def containsItem (h : Hooks) (fuel : Nat) (container item : Value) : Eval Bool := do
  let byItems (xs : Array Value) : Eval Bool := do
    for x in xs do
      if isSame x item then return true
      if ← eqValues h fuel x item then return true
    return false
  -- An iterator is consumed up to the first item found.
  let byIterator : Eval Bool := do
    let it ← iterOf h container
    for _ in [0:iterationLimit] do
      match ← advance h fuel it with
      | some x =>
        if isSame x item then return true
        if ← eqValues h fuel x item then return true
      | none => return false
    throw .exhausted
  match ← unwrapData container "__contains__" with
  | .str s =>
    match item with
    | .str t => return (s.splitOn t).length > 1 || t.isEmpty
    | _ => throwExc "TypeError" ("'in <string>' requires string as left operand, not " ++ (← typeName item))
  | .bytes bs => bytesContain bs item
  | .tuple items => byItems items.toArray
  | .range a b c =>
    match item.intValue? with
    | some n =>
      let k := rangeLength a b c
      if c > 0 then return a ≤ n && n < a + c * k && (n - a) % c == 0
      else return a ≥ n && n > a + c * k && (a - n) % (-c) == 0
    | none => byIterator
  | .ref a =>
    match ← getObj a with
    | .list items => byItems items
    | .byteArray bs => bytesContain bs.toList item
    | .memoryView _ _ _ _ =>
      byItems (((← bytesLike? container).getD []).toArray.map fun b => Value.int b.toNat)
    | .dict entries =>
      return (← dictFind h keyFuel entries item (← hashValue h keyFuel item)).isSome
    | .set t _ =>
      t.contains (sameKey h keyFuel) (← hashValue h keyFuel item) item
    | .view d part =>
      match ← getObj d with
      | .dict entries =>
        match part, item with
        | .keys, _ =>
          return (← dictFind h keyFuel entries item (← hashValue h keyFuel item)).isSome
        | .items, .tuple [k, v] =>
          match ← dictFind h keyFuel entries k (← hashValue h keyFuel k) with
          | some i =>
            let x := entries[i]!.2
            return isSame x v || (← eqValues h fuel x v)
          | none => return false
        | .items, _ => return false
        | .values, _ => byItems (entries.map (·.2))
      | _ => return false
    | .inst _ _ _ =>
      match ← lookupSpecial container "__contains__" with
      | some fn => truthy h (← h.call fn [container, item] [])
      | none => byIterator
    | _ => byIterator
  | _ => throwExc "TypeError" ("argument of type '" ++ (← typeName container) ++ "' is not iterable")

end StubDoctest.Exec
