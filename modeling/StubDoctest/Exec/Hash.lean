import StubDoctest.Exec.Kind
import StubDoctest.Number.Binary

/-!
# Hashes, equal keys and the set table

Numbers hash by their value modulo the prime `2^61 - 1`, so that equal numbers of different
types hash alike: an integer by its residue (with its sign), a float `m · 2^e` as
`m · 2^(e mod 61)`; a hash of `-1` becomes `-2`. A tuple mixes its items' hashes with the
64-bit multiply-and-rotate scheme. Strings and bytes hash by 64-bit FNV-1a: their order in a set
is arbitrary but fixed.

A set is an open-addressing table whose slot order is its order of iteration: a value goes to
the slot of its hash modulo the table size, else to the first free slot among the next nine, else
further along the sequence `i ↦ 5i + 1 + perturb` where `perturb` is the hash shifted right by
five at each step. When three fifths of the slots are used the table grows to the least power
of two above four times the number of values, and the values are placed again in slot order.
Removal leaves a hole that a later insertion may reuse.
-/

namespace StubDoctest.Exec

/-- The modulus of numeric hashes. -/
def hashModulus : Nat := 2 ^ 61 - 1

/-- A hash with the reserved value `-1` replaced by `-2`. -/
def fixHash (h : Int) : Int := if h = -1 then -2 else h

/-- The hash of an integer. -/
def hashInt (n : Int) : Int :=
  let r : Int := (n.natAbs % hashModulus : Nat)
  fixHash (if n < 0 then -r else r)

/-- The hash of a float: infinities hash to `±314159`, NaN to 0, finite values by their exact
value. -/
def hashFloat (x : Float) : Int :=
  match Number.decode x with
  | .nan => 0
  | .inf neg => if neg then -314159 else 314159
  | .finite neg m e =>
    let shift := (e % 61).toNat
    let r : Int := ((m % hashModulus) * 2 ^ shift % hashModulus : Nat)
    fixHash (if neg then -r else r)

/-- Two's complement of a hash as an unsigned 64-bit word. -/
def hashWord (h : Int) : UInt64 := (h % (2 ^ 64 : Int)).toNat.toUInt64

/-- A 64-bit word read as a signed hash. -/
def wordHash (w : UInt64) : Int :=
  if w.toNat ≥ 2 ^ 63 then (w.toNat : Int) - 2 ^ 64 else w.toNat

/-- FNV-1a over bytes. -/
def fnvBytes (bs : List UInt8) : Int :=
  let w := bs.foldl (fun acc b => (acc ^^^ b.toUInt64) * 1099511628211) 14695981039346656037
  fixHash (wordHash w)

/-- The hash of a tuple from its items' hashes. -/
def hashTuple (hs : List Int) : Int :=
  let p1 : UInt64 := 11400714785074694791
  let p2 : UInt64 := 14029467366897019727
  let p5 : UInt64 := 2870177450012600261
  let acc := hs.foldl (fun acc h =>
    let acc := acc + hashWord h * p2
    let acc := (acc <<< 31) ||| (acc >>> 33)
    acc * p1) p5
  let acc := acc + (hs.length.toUInt64 ^^^ (p5 ^^^ 3527539))
  if acc = 0xFFFFFFFFFFFFFFFF then 1546275796 else wordHash acc

/-- The integer value of a number that is an integer or a boolean. -/
def Value.intValue? : Value → Option Int
  | .int n => some n
  | .bool b => some (if b then 1 else 0)
  | _ => Option.none

/-- Equality of numbers of any numeric type. -/
def numEq (a b : Value) : Option Bool :=
  match a, b with
  | .float x, .float y => some (x == y)
  | .float x, .complex re im => some (x == re && im == 0)
  | .complex re im, .float x => some (x == re && im == 0)
  | .complex r1 i1, .complex r2 i2 => some (r1 == r2 && i1 == i2)
  | .float x, v =>
    match v.intValue? with
    | some n => some (Number.floatEqInt x n)
    | none => none
  | v, .float x =>
    match v.intValue? with
    | some n => some (Number.floatEqInt x n)
    | none => none
  | .complex re im, v =>
    match v.intValue? with
    | some n => some (Number.floatEqInt re n && im == 0)
    | none => none
  | v, .complex re im =>
    match v.intValue? with
    | some n => some (Number.floatEqInt re n && im == 0)
    | none => none
  | u, v =>
    match u.intValue?, v.intValue? with
    | some m, some n => some (m = n)
    | _, _ => none

mutual

/-- Equality of keys as the runtime's own types define it; objects compare by identity. -/
def keyEq : Value → Value → Bool
  | .str a, .str b => a == b
  | .bytes a, .bytes b => a == b
  | .none, .none => true
  | .tuple as, .tuple bs => keyEqList as bs
  | .range a1 b1 c1, .range a2 b2 c2 => a1 = a2 && b1 = b2 && c1 = c2
  | .cls c, .cls d => c == d
  | .builtinFn a, .builtinFn b => a == b
  | .ref a, .ref b => a == b
  | .notImplemented, .notImplemented => true
  | .ellipsis, .ellipsis => true
  | a, b => (numEq a b).getD false

/-- Equality of lists of keys, item by item. -/
def keyEqList : List Value → List Value → Bool
  | [], [] => true
  | a :: as, b :: bs => keyEq a b && keyEqList as bs
  | _, _ => false

end

/-- The bits of a member's hash spread out, for the hash of a frozen set. -/
def shuffleBits (h : UInt64) : UInt64 := ((h ^^^ (89869747 : UInt64)) ^^^ (h <<< (16 : UInt64))) * (3644798167 : UInt64)

/-- The hash of a frozen set from its members' hashes: their spread bits combined by
exclusive or, so that the order does not matter, with the count folded in and the bits
mixed once more. -/
def frozenHash (hs : List Int) : Int :=
  let x := hs.foldl (fun acc h => acc ^^^ shuffleBits (hashWord h)) 0
  let x := x ^^^ (hs.length.toUInt64 + 1) * 1927868237
  let x := x ^^^ (x >>> 11) ^^^ (x >>> 25)
  let x := x * 69069 + 907133923
  let x := if x == 0xFFFFFFFFFFFFFFFF then 590923713 else x
  wordHash x

/-- The hash of a value, or `none` when it is not hashable; `fuel` bounds the nesting. -/
def hashOf (fuel : Nat) (v : Value) : Eval (Option Int) :=
  match fuel with
  | 0 => return none
  | fuel + 1 =>
    match v with
    | .none => return some 5858283
    | .bool b => return some (if b then 1 else 0)
    | .int n => return some (hashInt n)
    | .float x => return some (hashFloat x)
    | .complex re im =>
      return some (fixHash (hashFloat re + 1000003 * hashFloat im))
    | .str s => return some (fnvBytes s.toUTF8.toList)
    | .bytes bs => return some (fnvBytes bs)
    | .tuple items => do
      let mut hs : List Int := []
      for it in items do
        match ← hashOf fuel it with
        | some h => hs := hs ++ [h]
        | none => return none
      return some (hashTuple hs)
    | .range a b c => return some (hashTuple [hashInt a, hashInt b, hashInt c])
    | .ref a => do
      match ← getObj a with
      | .list _ => return none
      | .dict _ => return none
      | .set _ false => return none
      | .byteArray _ => return none
      | .memoryView (.bytes bs) start size _ => return some (fnvBytes ((bs.drop start).take size))
      | .memoryView _ _ _ _ => return none
      | .set t true =>
        return some (frozenHash (t.slots.toList.filterMap fun
          | .item h _ => some h
          | _ => none))
      | _ => return some (fixHash (a * 16 + 0x7f0000))
    | _ => return some 0x51ed270b

/-- The slot a probe sequence looks at after slot `i`. -/
def nextProbe (i : Nat) (perturb : UInt64) (mask : Nat) : Nat :=
  (i * 5 + 1 + perturb.toNat) % (mask + 1)

namespace SetTable

/-- The mask of the table: its size less one. -/
def mask (t : SetTable) : Nat := t.slots.size - 1

/-- The values of the table in slot order. -/
def items (t : SetTable) : List Value :=
  t.slots.toList.filterMap fun s =>
    match s with
    | .item _ v => some v
    | _ => none

/-- The values of the table with their hashes, in slot order. -/
def entries (t : SetTable) : List (Int × Value) :=
  t.slots.toList.filterMap fun s =>
    match s with
    | .item h v => some (h, v)
    | _ => none

/-- The first empty slot of the probe sequence of `hash` in a table without holes. `fuel`
bounds the probes. -/
def cleanSlot (slots : Array Slot) (hash : Int) : Nat :=
  let mask := slots.size - 1
  let rec go (fuel i : Nat) (perturb : UInt64) : Nat :=
    match fuel with
    | 0 => i
    | fuel + 1 =>
      let window := if i + 9 ≤ mask then List.range 10 else [0]
      match window.find? (fun j => match slots[i + j]? with
          | some .empty => true
          | _ => false) with
      | some j => i + j
      | none =>
        let perturb := perturb >>> 5
        go fuel (nextProbe i perturb mask) perturb
  go (slots.size + 64) ((hashWord hash).toNat % (mask + 1)) (hashWord hash)

/-- Place values in an empty table of `size` slots, in the given order. -/
def rebuild (size : Nat) (es : List (Int × Value)) : SetTable :=
  let slots := es.foldl (fun slots (h, v) => slots.setIfInBounds (cleanSlot slots h) (.item h v))
    (Array.replicate size .empty)
  { slots := slots, fill := es.length, used := es.length }

/-- The least power of two above `n`, at least eight. -/
def sizeAbove (n : Nat) : Nat :=
  let rec go (fuel size : Nat) : Nat :=
    match fuel with
    | 0 => size
    | fuel + 1 => if size ≤ n then go fuel (size * 2) else size
  go 64 8

/-- The table grown (or shrunk) to hold `minUsed` values, its values placed again. -/
def resize (t : SetTable) (minUsed : Nat) : SetTable :=
  { rebuild (sizeAbove minUsed) t.entries with finger := t.finger }

/-- Where a probe for a value stops: its slot when present (`true`), else the slot it would
take: the last hole on the way, or the empty slot that ends the probe. A stored value with the
same hash is compared through `eq`, the stored value first. `fuel` bounds the probes. -/
def probe [Monad m] (eq : Value → Value → m Bool) (t : SetTable) (hash : Int) (v : Value) :
    m (Bool × Nat) :=
  let mask := t.mask
  let rec go (fuel i : Nat) (perturb : UInt64) (free : Option Nat) : m (Bool × Nat) := do
    match fuel with
    | 0 => return (false, free.getD i)
    | fuel + 1 =>
      let window := if i + 9 ≤ mask then List.range 10 else [0]
      let mut free := free
      for j in window do
        match t.slots[i + j]? with
        | some .empty => return (false, free.getD (i + j))
        | some (.item h w) =>
          if h = hash then
            if ← eq w v then return (true, i + j)
        | some .dummy => free := some (i + j)
        | none => pure ()
      let perturb := perturb >>> 5
      go fuel (nextProbe i perturb mask) perturb free
  go (t.slots.size + 64) ((hashWord hash).toNat % (mask + 1)) (hashWord hash) none

/-- Whether the table holds a value. -/
def contains [Monad m] (eq : Value → Value → m Bool) (t : SetTable) (hash : Int) (v : Value) :
    m Bool := do
  return (← t.probe eq hash v).1

/-- The table with a value added, if it is not there. A hole is filled again; a new slot
counts toward the fill, and past three fifths of the slots the table grows. -/
def insert [Monad m] (eq : Value → Value → m Bool) (t : SetTable) (hash : Int) (v : Value) :
    m SetTable := do
  match ← t.probe eq hash v with
  | (true, _) => return t
  | (false, i) =>
    match t.slots[i]? with
    | some .dummy =>
      return { t with slots := t.slots.setIfInBounds i (.item hash v), used := t.used + 1 }
    | _ =>
      let slots := t.slots.setIfInBounds i (.item hash v)
      let t := { t with slots := slots, fill := t.fill + 1, used := t.used + 1 }
      if t.fill * 5 < t.mask * 3 then return t
      else return t.resize (if t.used > 50000 then t.used * 2 else t.used * 4)

/-- The table without a value, and whether it was there; its slot becomes a hole. -/
def erase [Monad m] (eq : Value → Value → m Bool) (t : SetTable) (hash : Int) (v : Value) :
    m (SetTable × Bool) := do
  match ← t.probe eq hash v with
  | (true, i) => return ({ t with slots := t.slots.setIfInBounds i .dummy, used := t.used - 1 }, true)
  | (false, _) => return (t, false)

/-- The value `pop` takes: the first value at or after the finger, going round the table, and
the table without it, its finger just past the slot. -/
def pop (t : SetTable) : Option (Value × SetTable) :=
  if t.used = 0 then none
  else
    let size := t.slots.size
    let start := t.finger % size
    let found := (List.range size).findSome? fun k =>
      let i := (start + k) % size
      match t.slots[i]? with
      | some (.item _ v) => some (i, v)
      | _ => none
    found.map fun (i, v) =>
      (v, { t with slots := t.slots.setIfInBounds i .dummy, used := t.used - 1, finger := i + 1 })

/-- The table made ready for `n` more values: grown once when they would fill it past three
fifths. -/
def makeRoom (t : SetTable) (n : Nat) : SetTable :=
  if (t.fill + n) * 5 ≥ t.mask * 3 then t.resize ((t.used + n) * 2) else t

/-- `other`'s values placed in a table `t` that has never held one: a copy of the slots when the
sizes agree and `other` has no holes, else each value in the first free slot of its probe. No
values are compared, since they are already distinct. -/
def fillEmpty (t other : SetTable) : SetTable :=
  if t.mask = other.mask && other.fill = other.used then
    { t with slots := other.slots, fill := other.fill, used := other.used }
  else
    let slots := other.entries.foldl (fun slots (h, v) =>
      slots.setIfInBounds (cleanSlot slots h) (.item h v)) t.slots
    { t with slots := slots, fill := other.used, used := other.used }

/-- The table of `other`'s values added to `t`, as a bulk update does: one resize first, then
the values placed directly when `t` has never held one, else inserted in slot order. -/
def merge [Monad m] (eq : Value → Value → m Bool) (t other : SetTable) : m SetTable :=
  if other.used = 0 then return t
  else
    let t := t.makeRoom other.used
    if t.fill = 0 then return t.fillEmpty other
    else other.entries.foldlM (fun acc (h, v) => acc.insert eq h v) t

/-- A copy of a table, as a new set made from it. -/
def copy (t : SetTable) : SetTable :=
  if t.used = 0 then {} else (({} : SetTable).makeRoom t.used).fillEmpty t

/-- The union: a copy of `a` with `b` merged in. -/
def union [Monad m] (eq : Value → Value → m Bool) (a b : SetTable) : m SetTable :=
  a.copy.merge eq b

/-- The intersection: the values of the smaller table found in the larger, in the smaller's
order. -/
def inter [Monad m] (eq : Value → Value → m Bool) (a b : SetTable) : m SetTable :=
  let (small, large) := if b.used > a.used then (a, b) else (b, a)
  small.entries.foldlM (fun acc (h, v) => do
    if ← large.contains eq h v then acc.insert eq h v else return acc) {}

/-- The table rebuilt when more than a quarter of its slots are holes. -/
def shed (t : SetTable) : SetTable :=
  if t.fill - t.used ≤ t.mask / 4 then t
  else t.resize (if t.used > 50000 then t.used * 2 else t.used * 4)

/-- Each value of a list with its hash removed from the table, then the holes shed. -/
def eraseAll [Monad m] (eq : Value → Value → m Bool) (t : SetTable) (es : List (Int × Value)) :
    m SetTable := do
  return (← es.foldlM (fun acc (h, v) => do return (← acc.erase eq h v).1) t).shed

/-- The values of `a` not in `b`, removed in place: through the intersection when `b` is more
than eight times larger. -/
def removeTable [Monad m] (eq : Value → Value → m Bool) (a b : SetTable) : m SetTable := do
  let b ← if b.used / 8 > a.used then inter eq a b else pure b
  a.eraseAll eq b.entries

/-- The difference: a copy of `a` with `b` removed when `a` is more than four times larger,
else the values of `a` not in `b`, in `a`'s order. -/
def diff [Monad m] (eq : Value → Value → m Bool) (a b : SetTable) : m SetTable :=
  if a.used / 4 > b.used then a.copy.removeTable eq b
  else a.entries.foldlM (fun acc (h, v) => do
    if ← b.contains eq h v then return acc else acc.insert eq h v) {}

/-- Each value of a list with its hash toggled in the table: removed if present, else added. -/
def toggleAll [Monad m] (eq : Value → Value → m Bool) (t : SetTable) (es : List (Int × Value)) :
    m SetTable :=
  es.foldlM (fun acc (h, v) => do
    match ← acc.erase eq h v with
    | (t, true) => return t
    | (t, false) => t.insert eq h v) t

/-- The symmetric difference: a copy of `b`, then each value of `a` removed if present and
added if not. -/
def symDiff [Monad m] (eq : Value → Value → m Bool) (a b : SetTable) : m SetTable :=
  b.copy.toggleAll eq a.entries

/-- Whether every value of `t` is in `o`. -/
def subsetOf [Monad m] (eq : Value → Value → m Bool) (t o : SetTable) : m Bool :=
  t.entries.allM fun (h, v) => o.contains eq h v

/-- An empty table that keeps the finger of `t`, as clearing a set leaves it. -/
def cleared (t : SetTable) : SetTable := { finger := t.finger }

end SetTable

/-- The other operand of a set operation, as the operation reads it. -/
inductive SetOperand where
  /-- A set or frozen set: its table. -/
  | table (t : SetTable)
  /-- A dictionary: its keys with their hashes, in order. -/
  | keys (es : List (Int × Value))
  /-- Any other iterable: its items with their hashes, in order. -/
  | items (es : List (Int × Value))

namespace SetTable

/-- `t` updated with an operand: a table merged, a dictionary's keys added after one resize
that makes room for all of them, other items added one by one. -/
def update [Monad m] (eq : Value → Value → m Bool) (t : SetTable) : SetOperand → m SetTable
  | .table o => t.merge eq o
  | .keys es => es.foldlM (fun acc (h, v) => acc.insert eq h v) (t.makeRoom es.length)
  | .items es => es.foldlM (fun acc (h, v) => acc.insert eq h v) t

/-- The table of a new set made from an operand. -/
def ofOperand [Monad m] (eq : Value → Value → m Bool) (o : SetOperand) : m SetTable :=
  ({} : SetTable).update eq o

/-- The values of a list found in `t`, in the list's order, until as many are found as `t`
holds. -/
def foundIn [Monad m] (eq : Value → Value → m Bool) (t : SetTable) :
    List (Int × Value) → SetTable → m SetTable
  | [], acc => return acc
  | (h, v) :: rest, acc => do
    if ← t.contains eq h v then
      let acc ← acc.insert eq h v
      if acc.used ≥ t.used then return acc else t.foundIn eq rest acc
    else t.foundIn eq rest acc

/-- The intersection with an operand: with a table, that of `inter`; otherwise the operand's
items found in `t`, in the operand's order. -/
def intersect [Monad m] (eq : Value → Value → m Bool) (t : SetTable) : SetOperand → m SetTable
  | .table o => t.inter eq o
  | .keys es | .items es => t.foundIn eq es {}

/-- The difference with an operand: with a table, that of `diff`; with a dictionary at least a
quarter of the size of `t`, the values of `t` not among its keys; otherwise a copy of `t` with
the operand's items removed. -/
def difference [Monad m] (eq : Value → Value → m Bool) (t : SetTable) : SetOperand → m SetTable
  | .table o => t.diff eq o
  | .keys es =>
    if t.used / 4 > es.length then t.copy.eraseAll eq es
    else t.entries.foldlM (fun acc (h, v) => do
      let found ← es.anyM fun (h', w) => if h' = h then eq w v else pure false
      if found then return acc else acc.insert eq h v) {}
  | .items es => t.copy.eraseAll eq es

/-- The operand's values removed from `t` in place. -/
def removeOperand [Monad m] (eq : Value → Value → m Bool) (t : SetTable) :
    SetOperand → m SetTable
  | .table o => t.removeTable eq o
  | .keys es | .items es => t.eraseAll eq es

/-- The operand's values toggled in `t` in place: a dictionary's keys in order, a table's values
in slot order, and other items through a set made of them. -/
def toggleOperand [Monad m] (eq : Value → Value → m Bool) (t : SetTable) :
    SetOperand → m SetTable
  | .table o => t.toggleAll eq o.entries
  | .keys es => t.toggleAll eq es
  | .items es => do t.toggleAll eq (← ofOperand eq (.items es)).entries

end SetTable

end StubDoctest.Exec
