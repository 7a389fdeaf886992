import StubDoctest.Exec.StrMethods

/-!
# Methods of byte strings, byte arrays and memory views

Byte strings and byte arrays share their methods: a byte array's methods give byte arrays where
a byte string's give byte strings, and a byte array also changes in place. Their operations on
runs of bytes are the operations on text applied to the characters with the same codes, so
that searching, splitting, replacing and padding agree with text by construction; what differs
is what counts as a letter, a digit, a blank or a line end, which for bytes is ASCII only.

An argument that stands for bytes may be any value of bytes: a byte string, a byte array or a
memory view. A single byte may also be given by its value where a method searches for one.
-/

namespace StubDoctest.Exec

open StubDoctest.Text

/-- A byte as the character with the same code. -/
def byteChar (b : UInt8) : Char := Char.ofNat b.toNat

/-- The characters with the codes of bytes. -/
def byteChars (bs : List UInt8) : List Char := bs.map byteChar

/-- The bytes with the codes of characters below 256. -/
def charBytes (cs : List Char) : List UInt8 := cs.map fun c => c.toNat.toUInt8

/-- Whether a byte is ASCII whitespace: space, tab, line feed, vertical tab, form feed or
carriage return. -/
def isByteSpace (b : UInt8) : Bool := b == 32 || (9 ≤ b && b ≤ 13)

/-- Whether a byte is an ASCII lowercase letter. -/
def isByteLower (b : UInt8) : Bool := 97 ≤ b && b ≤ 122

/-- Whether a byte is an ASCII uppercase letter. -/
def isByteUpper (b : UInt8) : Bool := 65 ≤ b && b ≤ 90

/-- Whether a byte is an ASCII letter. -/
def isByteAlpha (b : UInt8) : Bool := isByteLower b || isByteUpper b

/-- Whether a byte is an ASCII digit. -/
def isByteDigit (b : UInt8) : Bool := 48 ≤ b && b ≤ 57

/-- A byte raised to uppercase when it is an ASCII lowercase letter. -/
def byteUpper (b : UInt8) : UInt8 := if isByteLower b then b - 32 else b

/-- A byte lowered to lowercase when it is an ASCII uppercase letter. -/
def byteLower (b : UInt8) : UInt8 := if isByteUpper b then b + 32 else b

/-- A byte with the case of an ASCII letter swapped. -/
def byteSwapCase (b : UInt8) : UInt8 :=
  if isByteLower b then b - 32 else if isByteUpper b then b + 32 else b

/-- Bytes in title case: a letter that follows a letter is lowered, any other letter raised. -/
def byteTitle (bs : List UInt8) : List UInt8 :=
  let step (acc : Array UInt8 × Bool) (b : UInt8) : Array UInt8 × Bool :=
    if isByteAlpha b then (acc.1.push (if acc.2 then byteLower b else byteUpper b), true)
    else (acc.1.push b, false)
  (bs.foldl step (#[], false)).1.toList

/-- Bytes with the first raised and the rest lowered. -/
def byteCapitalize : List UInt8 → List UInt8
  | [] => []
  | b :: rest => byteUpper b :: rest.map byteLower

/-- Whether bytes are in title case: an uppercase letter only after a byte that is not a
letter, a lowercase letter only after a letter, and at least one letter. -/
def isByteTitle (bs : List UInt8) : Bool :=
  let step (acc : Bool × Bool × Bool) (b : UInt8) : Bool × Bool × Bool :=
    let (ok, prevCased, any) := acc
    if isByteUpper b then (ok && !prevCased, true, true)
    else if isByteLower b then (ok && prevCased, true, true)
    else (ok, false, any)
  let (ok, _, any) := bs.foldl step (true, false, false)
  ok && any

/-- The words of bytes between runs of ASCII whitespace, splitting at most `limit` times from
the left; the rest after the last split keeps its whitespace but loses the leading part. -/
def splitOnSpaces (bs : List UInt8) (limit : Option Nat) : List (List UInt8) :=
  let rec go (fuel : Nat) (k : Option Nat) (bs : List UInt8) : List (List UInt8) :=
    match fuel with
    | 0 => []
    | fuel + 1 =>
      let bs := bs.dropWhile isByteSpace
      if bs.isEmpty then []
      else if k == some 0 then [bs]
      else
        let w := bs.takeWhile (!isByteSpace ·)
        w :: go fuel (k.map (· - 1)) (bs.drop w.length)
  go (bs.length + 1) limit bs

/-- The words of bytes between runs of ASCII whitespace, splitting at most `limit` times from
the right. -/
def rsplitOnSpaces (bs : List UInt8) (limit : Option Nat) : List (List UInt8) :=
  ((splitOnSpaces bs.reverse limit).map List.reverse).reverse

/-- The lines of bytes, ended by a line feed, a carriage return or both, with or without their
ends. -/
def byteLines (bs : List UInt8) (keepEnds : Bool) : List (List UInt8) :=
  let rec go (fuel : Nat) (cur : List UInt8) (bs : List UInt8) : List (List UInt8) :=
    match fuel with
    | 0 => []
    | fuel + 1 =>
      match bs with
      | [] => if cur.isEmpty then [] else [cur.reverse]
      | 13 :: 10 :: rest =>
        (if keepEnds then (10 :: 13 :: cur).reverse else cur.reverse) :: go fuel [] rest
      | b :: rest =>
        if b == 10 || b == 13 then
          (if keepEnds then (b :: cur).reverse else cur.reverse) :: go fuel [] rest
        else go fuel (b :: cur) rest
  go (bs.length + 1) [] bs

/-- Bytes as hexadecimal digits, with `sep` between groups of `group` bytes counted from the
right (from the left when `group` is negative). -/
def hexGrouped (bs : List UInt8) (sep : String) (group : Int) : String :=
  let digits := bs.map fun b => byteHex b.toNat
  if sep.isEmpty || group == 0 then String.join digits
  else
    let k := group.natAbs
    let chunks (xs : List String) : List String :=
      (List.range ((xs.length + k - 1) / k)).map fun i => String.join ((xs.drop (i * k)).take k)
    if group > 0 then
      sep.intercalate ((chunks digits.reverse).map fun c =>
        -- each chunk was gathered from the right: put its bytes back in order
        String.join (((List.range (c.length / 2)).map fun i =>
          String.ofList ((c.toList.drop (2 * i)).take 2)).reverse)).reverse
    else sep.intercalate (chunks digits)

/-- The value of a hexadecimal digit. -/
def hexDigitValue (c : Char) : Option Nat :=
  if '0' ≤ c && c ≤ '9' then some (c.toNat - 48)
  else if 'a' ≤ c && c ≤ 'f' then some (c.toNat - 87)
  else if 'A' ≤ c && c ≤ 'F' then some (c.toNat - 55)
  else none

/-- The bytes that pairs of hexadecimal digits spell, with whitespace allowed between pairs;
otherwise the position of the first character that is not where a digit must be. -/
def bytesOfHex (s : String) : Except Nat (List UInt8) :=
  let cs := s.toList.toArray
  let rec go (fuel : Nat) (i : Nat) (acc : Array UInt8) : Except Nat (List UInt8) :=
    match fuel with
    | 0 => .ok acc.toList
    | fuel + 1 =>
      match cs[i]? with
      | none => .ok acc.toList
      | some c =>
        if c.toNat < 128 && isByteSpace c.toNat.toUInt8 then go fuel (i + 1) acc
        else
          match hexDigitValue c, (cs[i + 1]?).bind hexDigitValue with
          | some hi, some lo => go fuel (i + 2) (acc.push (hi * 16 + lo).toUInt8)
          | none, _ => .error i
          | some _, none => .error (i + 1)
  go (cs.size + 1) 0 #[]

/-- The bytes of an argument that stands for bytes, or the fault of any other value. -/
def bytesArg (v : Value) : Eval (List UInt8) := do
  match ← bytesLike? v with
  | some bs => return bs
  | none => throwExc "TypeError" ("a bytes-like object is required, not '" ++ (← typeName v) ++ "'")

/-- The bytes a search looks for: a run of bytes, or one byte by its value. -/
def needleArg (h : Hooks) (v : Value) : Eval (List UInt8) := do
  match ← bytesLike? v with
  | some bs => return bs
  | none =>
    match ← indexValue? h v with
    | some n =>
      if n < 0 || n > 255 then throwExc "ValueError" "byte must be in range(0, 256)"
      return [n.toNat.toUInt8]
    | none =>
      throwExc "TypeError" ("argument should be integer or bytes-like object, not '" ++
        (← typeName v) ++ "'")

/-- A byte given by its value: an integer from 0 to 255. -/
def byteValueArg (h : Hooks) (v : Value) : Eval UInt8 := do
  let n ← intArg h v
  if n < 0 || n > 255 then throwExc "ValueError" "byte must be in range(0, 256)"
  return n.toNat.toUInt8

/-- The fill byte of a padding: a run of exactly one byte. -/
def fillByteArg (what : String) (v : Option Value) : Eval UInt8 := do
  match v with
  | none => return 32
  | some x =>
    match ← byteString? x with
    | some [b] => return b
    | _ =>
      throwExc "TypeError" (what ++ "() argument 2 must be a byte string of length 1, not " ++
        (← typeName x))

/-- The bytes of the items of an iterable, each an integer from 0 to 255; `what` names the
type being made in the fault for a value out of range. -/
def bytesOfItems (h : Hooks) (fuel : Nat) (rangeFault : String) (v : Value) :
    Eval (List UInt8) := do
  let items ← iterate h fuel v
  items.toList.mapM fun x => do
    let n ← intArg h x
    if n < 0 || n > 255 then throwExc "ValueError" rangeFault
    pure n.toNat.toUInt8

/-- The bytes `bytes(...)` or `bytearray(...)` makes of its arguments: none, a count of zero
bytes, text with its encoding, a value of bytes, or an iterable of byte values. -/
def bytesFromArgs (h : Hooks) (fuel : Nat) (what : String) (args : List Value)
    (kw : List (String × Value)) : Eval (List UInt8) := do
  if args.length + kw.length > 3 then
    throwExc "TypeError" (what ++ "() takes at most 3 arguments (" ++
      toString (args.length + kw.length) ++ " given)")
  let source : Option Value := match args with
    | x :: _ => some x
    | [] => (kw.find? (fun (p : String × Value) => p.1 == "source")).map (·.2)
  let codecGiven := args.length > 1 || kw.any (·.1 != "source")
  let codecKw := kw.filter (·.1 != "source")
  match source with
  | none =>
    if codecGiven then throwExc "TypeError" "encoding without a string argument"
    return []
  | some (.str s) =>
    if !codecGiven then throwExc "TypeError" "string argument without an encoding"
    match ← encodeWith what s (args.drop 1) codecKw with
    | .bytes bs => return bs
    | _ => return []
  | some x =>
    if codecGiven then throwExc "TypeError" "encoding without a string argument"
    if let some bs ← bytesLike? x then return bs
    match ← indexValue? h x with
    | some n =>
      if n < 0 then throwExc "ValueError" "negative count"
      return List.replicate n.toNat 0
    | none =>
      if !(← isIterable x) then
        throwExc "TypeError" ("cannot convert '" ++ (← typeName x) ++ "' object to " ++ what)
      bytesOfItems h fuel
        (if what == "bytes" then "bytes must be in range(0, 256)" else "byte must be in range(0, 256)") x

/-- The table of `bytes.maketrans(src, dst)`: each byte maps to itself except those of `src`,
which map to the bytes of `dst` at the same places. -/
def byteTransTable (args : List Value) : Eval Value := do
  match args with
  | [x, y] =>
    let src ← bytesArg x
    let dst ← bytesArg y
    if src.length != dst.length then
      throwExc "ValueError" "maketrans arguments must have same length"
    let table := (src.zip dst).foldl (fun (t : Array UInt8) (p : UInt8 × UInt8) =>
        t.setIfInBounds p.1.toNat p.2)
      ((List.range 256).map Nat.toUInt8).toArray
    return .bytes table.toList
  | _ => throwExc "TypeError" ("maketrans expected 2 arguments, got " ++ toString args.length)

/-- A method of a byte string or, when `array`, of a byte array, on its bytes `bs`; results
that are bytes are byte arrays for a byte array. -/
def byteMethod (h : Hooks) (fuel : Nat) (bs : List UInt8) (array : Bool) (name : String)
    (args : List Value) (kw : List (String × Value)) : Eval Value := do
  let kind := if array then "bytearray" else "bytes"
  let n := bs.length
  let cs := byteChars bs
  let arg (i : Nat) (k : String) := argAt args kw i k
  let make (xs : List UInt8) : Eval Value :=
    if array then allocRef (.byteArray xs.toArray) else pure (.bytes xs)
  let makeChars (xs : List Char) : Eval Value := make (charBytes xs)
  let noKw : Eval Unit := do
    if !kw.isEmpty then throwExc "TypeError" (name ++ "() takes no keyword arguments")
  let noArgs : Eval Unit := do noKw; atMost (kind ++ "." ++ name) args 0
  let test (p : List UInt8 → Bool) : Eval Value := do noArgs; return .bool (p bs)
  match name with
  | "upper" => noArgs; make (bs.map byteUpper)
  | "lower" => noArgs; make (bs.map byteLower)
  | "swapcase" => noArgs; make (bs.map byteSwapCase)
  | "title" => noArgs; make (byteTitle bs)
  | "capitalize" => noArgs; make (byteCapitalize bs)
  | "isalpha" => test fun bs => !bs.isEmpty && bs.all isByteAlpha
  | "isdigit" => test fun bs => !bs.isEmpty && bs.all isByteDigit
  | "isalnum" => test fun bs => !bs.isEmpty && bs.all fun b => isByteAlpha b || isByteDigit b
  | "isspace" => test fun bs => !bs.isEmpty && bs.all isByteSpace
  | "isascii" => test fun bs => bs.all (· < 128)
  | "islower" => test fun bs => bs.any isByteLower && !bs.any isByteUpper
  | "isupper" => test fun bs => bs.any isByteUpper && !bs.any isByteLower
  | "istitle" => test isByteTitle
  | "decode" => decodeWith "decode" bs args kw
  | "hex" =>
    atMostGiven name args 2
    let sep ← match arg 0 "sep" with
      | none => pure ""
      | some (.str s) =>
        if s.length != 1 then throwExc "ValueError" "sep must be length 1."
        pure s
      | some x =>
        match ← byteString? x with
        | some [b] => pure (byteChar b).toString
        | some _ => throwExc "ValueError" "sep must be length 1."
        | none => throwExc "TypeError" "sep must be str or bytes."
    let group ← match arg 1 "bytes_per_sep" with
      | some v => intArg h v
      | none => pure 1
    return .str (hexGrouped bs sep group)
  | "strip" | "lstrip" | "rstrip" =>
    noKw; atMost name args 1
    let strip (xs : List UInt8) (chars : Option (List UInt8)) : List UInt8 :=
      match chars with
      | some set => xs.dropWhile (set.contains ·)
      | none => xs.dropWhile isByteSpace
    let chars ← match (args[0]? : Option Value) with
      | none | some .none => pure none
      | some x => some <$> bytesArg x
    make (match name with
      | "lstrip" => strip bs chars
      | "rstrip" => (strip bs.reverse chars).reverse
      | _ => (strip (strip bs chars).reverse chars).reverse)
  | "split" | "rsplit" =>
    atMostGiven name args 2
    let sep ← match arg 0 "sep" with
      | none | some .none => pure none
      | some x =>
        let s ← bytesArg x
        if s.isEmpty then throwExc "ValueError" "empty separator"
        pure (some s)
    let limit ← limitArg h (arg 1 "maxsplit")
    let parts := match sep, name with
      | some sp, "split" => (splitOnSep cs (byteChars sp) limit).map charBytes
      | some sp, _ => (rsplitOnSep cs (byteChars sp) limit).map charBytes
      | none, "split" => splitOnSpaces bs limit
      | none, _ => rsplitOnSpaces bs limit
    allocRef (.list (← parts.mapM make).toArray)
  | "splitlines" =>
    atMostGiven name args 1
    let keep ← match arg 0 "keepends" with
      | some v => truthy h v
      | none => pure false
    allocRef (.list (← (byteLines bs keep).mapM make).toArray)
  | "join" =>
    noKw
    let v ← exactlyOne (kind ++ ".join") args
    let items ← iterate h fuel v
    let mut parts : List (List UInt8) := []
    let mut i := 0
    for it in items do
      match ← bytesLike? ((← dataOf? it).getD it) with
      | some t => parts := parts ++ [t]
      | none =>
        throwExc "TypeError" ("sequence item " ++ toString i ++ ": expected a bytes-like object, " ++
          (← typeName it) ++ " found")
      i := i + 1
    make (bs.intercalate parts)
  | "replace" =>
    noKw
    atLeast "replace" args 2
    atMost "replace" args 3
    let old ← bytesArg args[0]!
    let new ← bytesArg args[1]!
    let limit ← limitArg h args[2]?
    makeChars (replaceIn cs (byteChars old) (byteChars new) limit)
  | "find" | "rfind" | "index" | "rindex" | "count" =>
    noKw
    atLeastGiven name args 1
    atMostGiven name args 3
    let sub := byteChars (← needleArg h args[0]!)
    let start ← boundArg h n args[1]? 0
    let stop ← boundArg h n args[2]? n
    if name == "count" then return .int (countIn cs sub start stop)
    let r := if name == "find" || name == "index" then findIn cs sub start stop
      else rfindIn cs sub start stop
    match r with
    | some i => return .int i
    | none =>
      if name == "index" || name == "rindex" then throwExc "ValueError" "subsection not found"
      else return .int (-1)
  | "startswith" | "endswith" =>
    noKw
    atLeastGiven name args 1
    atMostGiven name args 3
    let affixes ← match args[0]! with
      | .tuple items => items.mapM bytesArg
      | x =>
        match ← bytesLike? x with
        | some t => pure [t]
        | none =>
          throwExc "TypeError" (name ++ " first arg must be bytes or a tuple of bytes, not " ++
            (← typeName x))
    let start ← boundArg h n args[1]? 0
    let stop ← boundArg h n args[2]? n
    if start > n || start > stop then return .bool false
    let window := (bs.take stop).drop start
    return .bool (affixes.any fun a =>
      if name == "startswith" then a.isPrefixOf window else a.reverse.isPrefixOf window.reverse)
  | "center" | "ljust" | "rjust" =>
    noKw
    atLeast name args 1
    atMost name args 2
    let w := (← intArg h args[0]!).toNat
    let fill ← fillByteArg name args[1]?
    if w ≤ n then return ← make bs
    let pad := List.replicate (w - n) fill
    match name with
    | "ljust" => make (bs ++ pad)
    | "rjust" => make (pad ++ bs)
    | _ => makeChars (centerIn cs w (byteChar fill))
  | "zfill" =>
    let w ← intArg h (← exactlyOne (kind ++ ".zfill") args)
    makeChars (zeroFill cs w.toNat)
  | "expandtabs" =>
    atMostGiven name args 1
    let size ← match arg 0 "tabsize" with
      | some v => intArg h v
      | none => pure 8
    makeChars (expandTabsBy size.toNat cs)
  | "partition" | "rpartition" =>
    let sep ← bytesArg (← exactlyOne (kind ++ "." ++ name) args)
    if sep.isEmpty then throwExc "ValueError" "empty separator"
    let pos := if name == "partition" then findIn cs (byteChars sep) 0 n
      else rfindIn cs (byteChars sep) 0 n
    match pos with
    | some i =>
      return .tuple [← make (bs.take i), ← make sep, ← make (bs.drop (i + sep.length))]
    | none =>
      if name == "partition" then return .tuple [← make bs, ← make [], ← make []]
      else return .tuple [← make [], ← make [], ← make bs]
  | "removeprefix" =>
    let p ← bytesArg (← exactlyOne (kind ++ ".removeprefix") args)
    make (if p.isPrefixOf bs then bs.drop p.length else bs)
  | "removesuffix" =>
    let p ← bytesArg (← exactlyOne (kind ++ ".removesuffix") args)
    make (if !p.isEmpty && p.reverse.isPrefixOf bs.reverse then bs.take (n - p.length) else bs)
  | "translate" =>
    atLeastGiven name args 1
    atMostGiven name args 2
    let table ← match args[0]! with
      | .none => pure none
      | x =>
        let t ← bytesArg x
        if t.length != 256 then
          throwExc "ValueError" "translation table must be 256 characters long"
        pure (some t.toArray)
    let delete ← match arg 1 "delete" with
      | some x => bytesArg x
      | none => pure []
    let kept := bs.filter (!delete.contains ·)
    make (match table with
      | some t => kept.map fun b => t[b.toNat]!
      | none => kept)
  | "maketrans" => byteTransTable args
  | "__len__" => return .int n
  | "__contains__" => return .bool (← bytesContain bs (← exactlyOne "__contains__" args))
  | _ => throwExc "AttributeError" ("'" ++ kind ++ "' object has no attribute '" ++ name ++ "'")

/-- The bytes a byte array holds at an address. -/
def byteArrayAt (a : Nat) : Eval (Array UInt8) := do
  match ← getObj a with
  | .byteArray bs => return bs
  | _ => return #[]

/-- A method of the byte array at address `a`: the methods that change it in place, and
otherwise those it shares with byte strings. -/
def byteArrayMethod (h : Hooks) (fuel : Nat) (a : Nat) (name : String) (args : List Value)
    (kw : List (String × Value)) : Eval Value := do
  let bs ← byteArrayAt a
  let store (xs : Array UInt8) : Eval Value := do setObj a (.byteArray xs); return .none
  let noKw : Eval Unit := do
    if !kw.isEmpty then throwExc "TypeError" (name ++ "() takes no keyword arguments")
  match name with
  | "append" =>
    noKw
    let b ← byteValueArg h (← exactlyOne "bytearray.append" args)
    store (bs.push b)
  | "extend" =>
    noKw
    let v ← exactlyOne "bytearray.extend" args
    let more ← match ← bytesLike? v with
      | some t => pure t
      | none =>
        if !(← isIterable v) then
          throwExc "TypeError" ("can't extend bytearray with " ++ (← typeName v))
        bytesOfItems h fuel "byte must be in range(0, 256)" v
    store (bs ++ more.toArray)
  | "insert" =>
    noKw
    atLeast "insert" args 2
    atMost "insert" args 2
    let i ← intArg h args[0]!
    let b ← byteValueArg h args[1]!
    let n : Int := bs.size
    let p := (if i < 0 then max 0 (i + n) else min i n).toNat
    store ((bs.extract 0 p).push b ++ bs.extract p bs.size)
  | "pop" =>
    noKw
    atMost "pop" args 1
    if bs.isEmpty then throwExc "IndexError" "pop from empty bytearray"
    let i ← match args[0]? with
      | some v => intArg h v
      | none => pure (-1)
    match normIndex bs.size i with
    | some p =>
      setObj a (.byteArray (bs.eraseIdxIfInBounds p))
      return .int (bs[p]!).toNat
    | none => throwExc "IndexError" "pop index out of range"
  | "remove" =>
    noKw
    let b ← byteValueArg h (← exactlyOne "bytearray.remove" args)
    match bs.idxOf? b with
    | some p => store (bs.eraseIdxIfInBounds p)
    | none => throwExc "ValueError" "value not found in bytearray"
  | "reverse" => noKw; atMost "bytearray.reverse" args 0; store bs.reverse
  | "clear" => noKw; atMost "bytearray.clear" args 0; store #[]
  | "copy" => noKw; atMost "bytearray.copy" args 0; allocRef (.byteArray bs)
  | "__alloc__" => return .int (bs.size + 1)
  | "__setitem__" =>
    match args with
    | [k, v] => setByteItems h fuel a k v; return .none
    | _ => throwExc "TypeError" ("expected 2 arguments, got " ++ toString args.length)
  | "__delitem__" => delByteItems h a (← exactlyOne "__delitem__" args); return .none
  | _ => byteMethod h fuel bs.toList true name args kw
where
  /-- `ba[key] = v` for the byte array at `a`: one byte by its value, or a slice replaced by
  bytes. -/
  setByteItems (h : Hooks) (fuel : Nat) (a : Nat) (key v : Value) : Eval Unit := do
    let bs ← byteArrayAt a
    match key with
    | .slice lo hi st =>
      let (ps, step) ← sliceIndices h bs.size lo hi st
      let new ← match ← bytesLike? v with
        | some t => pure t
        | none =>
          if (v matches .str _) || !(← isIterable v) then
            throwExc "TypeError" "can assign only bytes, buffers, or iterables of ints in range(0, 256)"
          bytesOfItems h fuel "byte must be in range(0, 256)" v
      if step == 1 then
        let start := match ps.head? with
          | some p => p
          | none =>
            let n : Int := bs.size
            match lo.intValue? with
            | some i => (if i < 0 then max 0 (i + n) else min i n).toNat
            | none => 0
        let stop := start + ps.length
        setObj a (.byteArray (bs.extract 0 start ++ new.toArray ++ bs.extract stop bs.size))
      else
        if new.length != ps.length then
          throwExc "ValueError" ("attempt to assign bytes of size " ++ toString new.length ++
            " to extended slice of size " ++ toString ps.length)
        setObj a (.byteArray ((ps.zip new).foldl (fun xs (p, b) => xs.setIfInBounds p b) bs))
    | _ =>
      match ← indexValue? h key with
      | some i =>
        let b ← byteValueArg h v
        match normIndex bs.size i with
        | some p => setObj a (.byteArray (bs.setIfInBounds p b))
        | none => throwExc "IndexError" "bytearray index out of range"
      | none =>
        throwExc "TypeError" ("bytearray indices must be integers or slices, not " ++
          (← typeName key))
  /-- `del ba[key]` for the byte array at `a`. -/
  delByteItems (h : Hooks) (a : Nat) (key : Value) : Eval Unit := do
    let bs ← byteArrayAt a
    match key with
    | .slice lo hi st =>
      let (ps, _) ← sliceIndices h bs.size lo hi st
      let keep := (List.range bs.size).filter (!ps.contains ·)
      setObj a (.byteArray (keep.filterMap (bs[·]?)).toArray)
    | _ =>
      match ← indexValue? h key with
      | some i =>
        match normIndex bs.size i with
        | some p => setObj a (.byteArray (bs.eraseIdxIfInBounds p))
        | none => throwExc "IndexError" "bytearray index out of range"
      | none =>
        throwExc "TypeError" ("bytearray indices must be integers or slices, not " ++
          (← typeName key))

/-- A method or attribute of the memory view at address `a`. -/
def memoryViewMethod (h : Hooks) (a : Nat) (name : String) (args : List Value) :
    Eval Value := do
  let view := Value.ref a
  match ← getObj a with
  | .memoryView src start size released =>
    if name == "release" || name == "__exit__" then
      setObj a (.memoryView src start size true)
      return .none
    if released then throwExc "ValueError" "operation forbidden on released memoryview object"
    let bs := (← bytesLike? view).getD []
    match name with
    | "tobytes" => return .bytes bs
    | "tolist" => allocRef (.list (bs.map fun b => Value.int b.toNat).toArray)
    | "hex" => return .str (hexGrouped bs "" 0)
    | "toreadonly" => allocRef (.memoryView (.bytes bs) 0 bs.length false)
    | "__enter__" => return view
    | "__len__" => return .int size
    | "__getitem__" => getItem h view (← exactlyOne "__getitem__" args)
    | _ => throwExc "AttributeError" ("'memoryview' object has no attribute '" ++ name ++ "'")
  | _ => throwExc "AttributeError" ("'memoryview' object has no attribute '" ++ name ++ "'")

/-- `m[key] = v` for the memory view at address `a`: a view of a byte string refuses, one of a
byte array writes through to it. -/
def setViewItem (h : Hooks) (a : Nat) (key v : Value) : Eval Unit := do
  match ← getObj a with
  | .memoryView (.ref b) start size _ =>
    let bs ← byteArrayAt b
    match key with
    | .slice lo hi st =>
      let (ps, _) ← sliceIndices h size lo hi st
      let new ← bytesArg v
      if new.length != ps.length then
        throwExc "ValueError" "memoryview assignment: lvalue and rvalue have different structures"
      setObj b (.byteArray ((ps.zip new).foldl (fun xs (p, x) => xs.setIfInBounds (start + p) x) bs))
    | _ =>
      match ← indexValue? h key with
      | some i =>
        let x ← match ← indexValue? h v with
          | some n =>
            if n < 0 || n > 255 then throwExc "ValueError" "memoryview: invalid value for format 'B'"
            pure n.toNat.toUInt8
          | none => throwExc "TypeError" "memoryview: invalid type for format 'B'"
        match normIndex size i with
        | some p => setObj b (.byteArray (bs.setIfInBounds (start + p) x))
        | none => throwExc "IndexError" "index out of bounds on dimension 1"
      | none => throwExc "TypeError" "memoryview: invalid slice key"
  | _ => throwExc "TypeError" "cannot modify read-only memory"

end StubDoctest.Exec
