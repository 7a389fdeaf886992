import StubDoctest.Exec.Convert
import StubDoctest.Text.IdentChar
import StubDoctest.Text.Codec

/-!
# Methods of strings, and formatting with `str.format` and `%`

The methods of strings: case, search, split, strip, pad and the character classes. Bounds of
searches follow slice rules.

`str.format` reads literal text with doubled braces standing for braces, and replacement
fields `{name!conv:spec}`. A field's name is empty (the next positional argument), a number
(that positional argument) or a keyword, then attributes `.attr` and items `[key]`; automatic
and manual numbering do not mix. The specification may hold fields of its own, replaced first.

`%` reads conversions `%[(key)][flags][width][.precision]letter`, taking their values in turn
from a tuple of arguments (or the single argument), or by key from a mapping.
-/

namespace StubDoctest.Exec

open StubDoctest.Text

/-- The text of a value that must be a string. -/
def strArg (v : Value) : Eval String := do
  match v with
  | .str s => return s
  | _ => throwExc "TypeError" ("must be str, not " ++ (← typeName v))

/-- An integer argument: an integer, a boolean, or a value with `__index__`. -/
def intArg (h : Hooks) (v : Value) : Eval Int := do
  match ← indexValue? h v with
  | some n => return n
  | none =>
    throwExc "TypeError" ("'" ++ (← typeName v) ++ "' object cannot be interpreted as an integer")

/-- A bound of a search: `None` or missing means the given default. -/
def boundArg (h : Hooks) (n : Nat) (v : Option Value) (dflt : Nat) : Eval Nat := do
  match v with
  | none => return dflt
  | some .none => return dflt
  | some x => return clampBound n (← intArg h x)

/-- The argument at a position, or by keyword. -/
def argAt (args : List Value) (kw : List (String × Value)) (i : Nat) (name : String) :
    Option Value :=
  match args[i]? with
  | some v => some v
  | none => (kw.find? (·.1 == name)).map (·.2)

/-- The word `argument`, in the plural unless `n` is one. -/
def argumentsWord (n : Nat) : String := if n = 1 then "argument" else "arguments"

/-- Refuse more positional arguments than a method takes, in the words of a method whose
parameters are positional only. -/
def atMost (what : String) (args : List Value) (n : Nat) : Eval Unit := do
  if args.length > n then
    if n = 0 then
      throwExc "TypeError" (what ++ "() takes no arguments (" ++ toString args.length ++ " given)")
    else
      throwExc "TypeError" (what ++ " expected at most " ++ toString n ++ " " ++ argumentsWord n ++
        ", got " ++ toString args.length)

/-- Refuse fewer positional arguments than a method needs, in the words of a method whose
parameters are positional only. -/
def atLeast (what : String) (args : List Value) (n : Nat) : Eval Unit := do
  if args.length < n then
    throwExc "TypeError" (what ++ " expected at least " ++ toString n ++ " " ++ argumentsWord n ++
      ", got " ++ toString args.length)

/-- Refuse more arguments than a method takes, in the words of a method that reads its
arguments by a format. -/
def atMostGiven (what : String) (args : List Value) (n : Nat) : Eval Unit := do
  if args.length > n then
    throwExc "TypeError" (what ++ "() takes at most " ++ toString n ++ " " ++ argumentsWord n ++
      " (" ++ toString args.length ++ " given)")

/-- Refuse fewer arguments than a method needs, in the words of a method that reads its
arguments by a format. -/
def atLeastGiven (what : String) (args : List Value) (n : Nat) : Eval Unit := do
  if args.length < n then
    throwExc "TypeError" (what ++ "() takes at least " ++ toString n ++ " " ++ argumentsWord n ++
      " (" ++ toString args.length ++ " given)")

/-- Refuse a number of positional arguments other than one. -/
def exactlyOne (what : String) (args : List Value) : Eval Value := do
  match args with
  | [v] => return v
  | _ => throwExc "TypeError" (what ++ "() takes exactly one argument (" ++ toString args.length ++ " given)")

/-- The prefixes a `startswith` or `endswith` test takes: a string or a tuple of strings. -/
def affixesArg (what : String) (v : Value) : Eval (List String) := do
  match v with
  | .str s => return [s]
  | .tuple items =>
    items.mapM fun
      | .str s => pure s
      | x => do throwExc "TypeError" ("tuple for " ++ what ++ " must only contain str, not " ++ (← typeName x))
  | _ =>
    throwExc "TypeError" (what ++ " first arg must be str or a tuple of str, not " ++ (← typeName v))

/-- The characters a strip removes. -/
def stripArg (what : String) (v : Option Value) : Eval (Option (List Char)) := do
  match v with
  | none | some .none => return none
  | some (.str s) => return some s.toList
  | some _ => throwExc "TypeError" (what ++ " arg must be None or str")

/-- The separator of a split. -/
def sepArg (v : Option Value) : Eval (Option (List Char)) := do
  match v with
  | none | some .none => return none
  | some (.str s) =>
    if s.isEmpty then throwExc "ValueError" "empty separator" else return some s.toList
  | some x => throwExc "TypeError" ("must be str or None, not " ++ (← typeName x))

/-- The limit of a split: negative means none. -/
def limitArg (h : Hooks) (v : Option Value) : Eval (Option Nat) := do
  match v with
  | none => return none
  | some x =>
    let n ← intArg h x
    return if n < 0 then none else some n.toNat

/-- The fill character of a padding. -/
def fillArg (v : Option Value) : Eval Char := do
  match v with
  | none => return ' '
  | some (.str s) =>
    match s.toList with
    | [c] => return c
    | _ => throwExc "TypeError" "The fill character must be exactly one character long"
  | some x =>
    throwExc "TypeError" ("The fill character must be a unicode character, not " ++ (← typeName x))

/-- A list of strings as values. -/
def strValues (xs : List (List Char)) : List Value := xs.map fun cs => .str (String.ofList cs)

/-- The UTF-8 bytes of text. -/
def utf8Bytes (s : String) : List UInt8 := s.toUTF8.toList

/-- A piece of a format string. -/
inductive FormatPiece where
  /-- Literal text. -/
  | text (s : String)
  /-- A field: its name, conversion and specification. -/
  | field (name : String) (conv : Option Char) (spec : String)
  deriving Inhabited

/-- The text of a field up to its closing brace, with braces inside it balanced. -/
def fieldBody (cs : List Char) : Option (List Char × List Char) :=
  let rec go (fuel : Nat) (depth : Nat) (acc : List Char) (cs : List Char) :
      Option (List Char × List Char) :=
    match fuel with
    | 0 => none
    | fuel + 1 =>
      match cs with
      | [] => none
      | '\x7b' :: rest => go fuel (depth + 1) ('\x7b' :: acc) rest
      | '\x7d' :: rest =>
        if depth = 0 then some (acc.reverse, rest) else go fuel (depth - 1) ('\x7d' :: acc) rest
      | c :: rest => go fuel depth (c :: acc) rest
  go (cs.length + 1) 0 [] cs

/-- A field's name, conversion and specification. -/
def splitField (body : List Char) : Except String (String × Option Char × String) := do
  -- The name ends at the first `!` or `:` outside brackets.
  let rec nameEnd (fuel : Nat) (i : Nat) (cs : List Char) : Nat :=
    match fuel with
    | 0 => i
    | fuel + 1 =>
      match cs with
      | [] => i
      | '[' :: rest =>
        let inner := rest.takeWhile (· ≠ ']')
        nameEnd fuel (i + 1 + inner.length) (rest.drop inner.length)
      | c :: rest => if c = '!' || c = ':' then i else nameEnd fuel (i + 1) rest
  let k := nameEnd (body.length + 1) 0 body
  let name := String.ofList (body.take k)
  match body.drop k with
  | [] => return (name, none, "")
  | '!' :: rest =>
    match rest with
    | [] => throw "end of string while looking for conversion specifier"
    | [c] => return (name, some c, "")
    | c :: ':' :: spec => return (name, some c, String.ofList spec)
    | _ :: _ => throw "expected ':' after conversion specifier"
  | _ :: spec => return (name, none, String.ofList spec)

/-- The pieces of a format string. -/
def formatPieces (s : String) : Except String (List FormatPiece) :=
  let rec go (fuel : Nat) (acc : List Char) (cs : List Char) : Except String (List FormatPiece) :=
    match fuel with
    | 0 => .ok []
    | fuel + 1 =>
      let flush (rest : List FormatPiece) : List FormatPiece :=
        if acc.isEmpty then rest else .text (String.ofList acc.reverse) :: rest
      match cs with
      | [] => .ok (flush [])
      | '\x7b' :: '\x7b' :: rest => go fuel ('\x7b' :: acc) rest
      | '\x7d' :: '\x7d' :: rest => go fuel ('\x7d' :: acc) rest
      | '\x7d' :: _ => .error "Single '\x7d' encountered in format string"
      | '\x7b' :: rest =>
        if rest.isEmpty then .error "Single '\x7b' encountered in format string"
        else
          match fieldBody rest with
          | none => .error "expected '\x7d' before end of string"
          | some (body, after) => do
            let (name, conv, spec) ← splitField body
            let more ← go fuel [] after
            return flush (.field name conv spec :: more)
      | c :: rest => go fuel (c :: acc) rest
  go (s.length + 1) [] s.toList

/-- The accessors after a field's first name: attributes and items. -/
def fieldAccessors (cs : List Char) : Except String (List (Bool × String)) :=
  let rec go (fuel : Nat) (cs : List Char) : Except String (List (Bool × String)) :=
    match fuel with
    | 0 => .ok []
    | fuel + 1 =>
      match cs with
      | [] => .ok []
      | '.' :: rest =>
        let n := rest.takeWhile fun c => c ≠ '.' && c ≠ '['
        if n.isEmpty then .error "Empty attribute in format string"
        else do return (true, String.ofList n) :: (← go fuel (rest.drop n.length))
      | '[' :: rest =>
        let k := rest.takeWhile (· ≠ ']')
        if k.length = rest.length then .error "Missing ']' in format string"
        else if k.isEmpty then .error "Empty attribute in format string"
        else do return (false, String.ofList k) :: (← go fuel (rest.drop (k.length + 1)))
      | _ => .error "Only '.' or '[' may follow ']' in format field specifier"
  go (cs.length + 1) cs

/-- The state of field numbering: not yet chosen, automatic with the next index, or manual. -/
inductive Numbering where
  | unset | auto (next : Nat) | manual
  deriving Inhabited

/-- Whether text is a decimal number. -/
def isNumeral (s : String) : Bool := !s.isEmpty && s.toList.all fun c => '0' ≤ c && c ≤ '9'

/-- The value of a replacement field's name. -/
def fieldValue (h : Hooks) (name : String) (args : List Value) (kw : List (String × Value))
    (num : Numbering) : Eval (Value × Numbering) := do
  let first := (name.toList.takeWhile fun c => c ≠ '.' && c ≠ '[')
  let rest := name.toList.drop first.length
  let firstName := String.ofList first
  let valueErr {β : Type} (m : String) : Eval β := throwExc "ValueError" m
  let (base, num) ← if firstName.isEmpty then
      match num with
      | .manual => valueErr "cannot switch from manual field specification to automatic field numbering"
      | .unset => pure (Sum.inl 0, Numbering.auto 1)
      | .auto k => pure (Sum.inl k, Numbering.auto (k + 1))
    else if isNumeral firstName then
      match num with
      | .auto _ => valueErr "cannot switch from automatic field numbering to manual field specification"
      | _ => pure (Sum.inl (firstName.toNat!), Numbering.manual)
    else pure (Sum.inr firstName, num)
  let mut v ← match base with
    | .inl i =>
      match args[i]? with
      | some x => pure x
      | none => throwExc "IndexError" ("Replacement index " ++ toString i ++ " out of range for positional args tuple")
    | .inr k =>
      match kw.find? (·.1 == k) with
      | some (_, x) => pure x
      | none => throwWith "KeyError" (.str k)
  match fieldAccessors rest with
  | .error m => valueErr m
  | .ok accs =>
    for (isAttr, n) in accs do
      if isAttr then v ← getAttr h v n
      else v ← getItem h v (if isNumeral n then .int n.toNat! else .str n)
  return (v, num)

/-- `fmt.format(*args, **kw)`; `fuel` bounds the nesting of fields in specifications. -/
def formatWith (h : Hooks) (fuel : Nat) (fmt : String) (args : List Value)
    (kw : List (String × Value)) (num : Numbering) : Eval (String × Numbering) :=
  match fuel with
  | 0 => throwExc "ValueError" "Max string recursion exceeded"
  | fuel + 1 => do
    match formatPieces fmt with
    | .error m => throwExc "ValueError" m
    | .ok pieces =>
      let mut out := ""
      let mut num := num
      for p in pieces do
        match p with
        | .text s => out := out ++ s
        | .field name conv spec =>
          let (v, num') ← fieldValue h name args kw num
          num := num'
          let v ← match conv with
            | none => pure v
            | some c =>
              if c = 'r' || c = 's' || c = 'a' then convertField h c v
              else throwExc "ValueError" ("Unknown conversion specifier " ++ c.toString)
          let (spec, num'') ← if spec.toList.contains '\x7b' then formatWith h fuel spec args kw num
            else pure (spec, num)
          num := num''
          out := out ++ (← formatValue h v spec)
      return (out, num)

/-- The text of one `%` conversion of a value; `forBytes` formats bytes, whose text is the
characters with the codes of the bytes. -/
def percentOne (h : Hooks) (forBytes : Bool) (sp : PercentSpec) (v : Value) (index : Nat) :
    Eval String := do
  let letter := sp.letter
  let signText := match sp.sign with
    | some c => c.toString
    | none => ""
  let numberFault (what : String) : Eval String := do
    throwExc "TypeError" ("%" ++ letter.toString ++ " format: " ++ what ++ " is required, not " ++
      (← typeName v))
  match letter with
  | 's' | 'b' =>
    if !forBytes then
      if letter == 'b' then
        throwExc "ValueError" ("unsupported format character 'b' (0x62) at index " ++ toString index)
    let t ← if forBytes then
        match ← bytesLike? v with
        | some bs => pure (String.ofList (bs.map fun b => Char.ofNat b.toNat))
        | none =>
          throwExc "TypeError" ("%b requires a bytes-like object, or an object that implements " ++
            "__bytes__, not '" ++ (← typeName v) ++ "'")
      else strOf h showFuel v
    let t := match sp.precision with
      | some p => String.ofList (t.toList.take p)
      | none => t
    return percentPad sp false false "" t
  | 'r' | 'a' =>
    let t ← match letter with
      | 's' => strOf h showFuel v
      | 'r' => reprOf h showFuel [] v
      | _ => asciiOf h v
    let t := match sp.precision with
      | some p => String.ofList (t.toList.take p)
      | none => t
    return percentPad sp false false "" t
  | 'd' | 'i' | 'u' =>
    let n ← match v with
      | .float x => floatToInt x
      | _ =>
        match ← indexValue? h v with
        | some n => pure n
        | none => do
          let _ ← numberFault "a real number"
          pure 0
    let digits ← intText n.natAbs
    let digits := match sp.precision with
      | some p => String.ofList (List.replicate (p - digits.length) '0') ++ digits
      | none => digits
    return percentPad sp true (n < 0) signText digits
  | 'x' | 'X' | 'o' =>
    let n ← match ← indexValue? h v with
      | some n => pure n
      | none => do
        let _ ← numberFault "an integer"
        pure 0
    let base := if letter = 'o' then 8 else 16
    let ds := Nat.toDigits base n.natAbs
    let ds := if letter = 'X' then ds.map Char.toUpper else ds
    let ds := match sp.precision with
      | some p => List.replicate (p - ds.length) '0' ++ ds
      | none => ds
    let pre := if sp.alternate then (if letter = 'o' then "0o" else if letter = 'X' then "0X" else "0x") else ""
    return percentPad sp true (n < 0) (signText ++ pre) (String.ofList ds)
  | 'e' | 'E' | 'f' | 'F' | 'g' | 'G' =>
    let x ← match ← asFloat? v with
      | some x => pure x
      | none => do
        throwExc "TypeError" ("must be real number, not " ++ (← typeName v))
    let spec : FormatSpec := {
      alternate := sp.alternate, precision := some (sp.precision.getD 6), kind := some letter }
    match formatFloatSpec spec x with
    | .ok t =>
      let neg := t.startsWith "-"
      let body := if neg then String.ofList (t.toList.drop 1) else t
      return percentPad sp (!x.isNaN && !x.isInf) neg signText body
    | .error m => throwExc "ValueError" m
  | 'c' =>
    if forBytes then
      match ← byteString? v with
      | some [b] => return percentPad sp false false "" (Char.ofNat b.toNat).toString
      | _ =>
        match ← indexValue? h v with
        | some n =>
          if n < 0 || n ≥ 256 then throwExc "OverflowError" "%c arg not in range(256)"
          return percentPad sp false false "" (Char.ofNat n.toNat).toString
        | none => throwExc "TypeError" "%c requires an integer in range(256) or a single byte"
    match v with
    | .str s =>
      if s.length = 1 then return percentPad sp false false "" s
      else throwExc "TypeError" "%c requires int or char"
    | _ =>
      match ← indexValue? h v with
      | some n =>
        if n < 0 || n ≥ 0x110000 then throwExc "OverflowError" "%c arg not in range(0x110000)"
        else return percentPad sp false false "" (Char.ofNat n.toNat).toString
      | none => throwExc "TypeError" "%c requires int or char"
  | c =>
    let code := String.ofList (Nat.toDigits 16 c.toNat)
    throwExc "ValueError" ("unsupported format character '" ++ c.toString ++ "' (0x" ++ code ++
      ") at index " ++ toString index)

/-- Whether a value is a mapping for `%` with keys. -/
def isMapping (v : Value) : Eval Bool := do
  match v with
  | .ref a =>
    match ← getObj a with
    | .dict _ => return true
    | .inst _ _ _ => return (← lookupSpecial v "__getitem__").isSome
    | _ => return false
  | _ => return false

/-- `fmt % args`; `forBytes` formats bytes, given as the characters with their codes. -/
def percentFormat (h : Hooks) (fmt : String) (whole : Value) (forBytes : Bool := false) :
    Eval String := do
  -- a tuple of a derived class gives its items as the arguments
  let args ← match ← dataOf? whole with
    | some (.tuple xs) => pure (Value.tuple xs)
    | _ => pure whole
  let items : List Value := match args with
    | .tuple xs => xs
    | v => [v]
  let mapping ← if (match args with | .tuple _ => false | _ => true) then isMapping args else pure false
  let cs := fmt.toList
  let mut out := ""
  let mut rest := cs
  let mut pending := items
  let mut index := 0
  let mut usedKey := false
  for _ in [0:cs.length + 1] do
    match rest with
    | [] => break
    | '%' :: more =>
      match readPercent more with
      | none => throwExc "ValueError" "incomplete format"
      | some (sp, after) =>
        let consumed := more.length - after.length
        let here := index + consumed
        if sp.letter = '%' && sp.key.isNone then
          out := out ++ "%"
        else
          let mut sp := sp
          if sp.starWidth then
            match pending with
            | w :: ps =>
              let n ← intArg h w
              sp := { sp with width := some n.natAbs, left := sp.left || n < 0 }
              pending := ps
            | [] => throwExc "TypeError" "not enough arguments for format string"
          if sp.starPrecision then
            match pending with
            | p :: ps =>
              let n ← intArg h p
              sp := { sp with precision := some n.toNat }
              pending := ps
            | [] => throwExc "TypeError" "not enough arguments for format string"
          let v ← match sp.key with
            | some k =>
              if !mapping then throwExc "TypeError" "format requires a mapping"
              usedKey := true
              getItem h args (if forBytes then .bytes (k.toList.map fun c => c.toNat.toUInt8) else .str k)
            | none =>
              match pending with
              | v :: ps =>
                pending := ps
                pure v
              | [] => throwExc "TypeError" "not enough arguments for format string"
          out := out ++ (← percentOne h forBytes sp v here)
        rest := after
        index := index + 1 + consumed
    | c :: more =>
      out := out.push c
      rest := more
      index := index + 1
  if !pending.isEmpty && !mapping then
    throwExc "TypeError" ("not all arguments converted during " ++
      (if forBytes then "bytes" else "string") ++ " formatting")
  let _ := usedKey
  return out

/-- A character mapping table with code point `k` bound to `v`: a later binding of a code point
replaces its value in place. -/
def bindCode (es : Array (Value × Value)) (k : Int) (v : Value) : Array (Value × Value) :=
  match es.findIdx? (fun e => match e.1 with | .int j => j == k | _ => false) with
  | some i => es.setIfInBounds i (.int k, v)
  | none => es.push (.int k, v)

/-- The character mapping table of `str.maketrans`: from a dictionary whose keys are characters or
code points, or from two strings of equal length mapping character to character, and a third
whose characters map to `None`. -/
def makeTrans (args : List Value) : Eval Value := do
  atLeast "maketrans" args 1
  atMost "maketrans" args 3
  match args with
  | [table] =>
    let entries ← match table with
      | .ref a =>
        match ← getObj a with
        | .dict es => pure es
        | _ => throwExc "TypeError" "if you give only one argument to maketrans it must be a dict"
      | _ => throwExc "TypeError" "if you give only one argument to maketrans it must be a dict"
    let mut out : Array (Value × Value) := #[]
    for (k, v) in entries do
      match k with
      | .str t =>
        match t.toList with
        | [c] => out := bindCode out c.toNat v
        | _ => throwExc "ValueError" "string keys in translate table must be of length 1"
      | .int n => out := bindCode out n v
      | .bool b => out := bindCode out (if b then 1 else 0) v
      | _ => throwExc "TypeError" "keys in translate table must be strings or integers"
    allocRef (.dict out)
  | x :: y :: rest =>
    let xs ← match x with
      | .str t => pure t.toList
      | _ => throwExc "TypeError" "first maketrans argument must be a string if there is a second argument"
    let ys ← match y with
      | .str t => pure t.toList
      | v => throwExc "TypeError" ("maketrans() argument 2 must be str, not " ++ (← typeName v))
    if xs.length != ys.length then
      throwExc "ValueError" "the first two maketrans arguments must have equal length"
    let mut out : Array (Value × Value) := #[]
    for (a, b) in xs.zip ys do
      out := bindCode out a.toNat (.int b.toNat)
    match rest with
    | [z] =>
      let zs ← match z with
        | .str t => pure t.toList
        | v => throwExc "TypeError" ("maketrans() argument 3 must be str, not " ++ (← typeName v))
      for c in zs do
        out := bindCode out c.toNat .none
    | _ => pure ()
    allocRef (.dict out)
  | [] => throwExc "TypeError" "maketrans expected at least 1 argument, got 0"

/-- The codec of an encoding name, or the fault for a name of none. -/
def codecNamed (name : String) : Eval Text.Codec := do
  match Text.Codec.ofName? name with
  | some c => return c
  | none => throwExc "LookupError" ("unknown encoding: " ++ name)

/-- The codec and error handler that the `encoding` and `errors` arguments of a conversion
between text and bytes name, UTF-8 and `strict` when they are not given. -/
def codecArgs (what : String) (args : List Value) (kw : List (String × Value)) :
    Eval (Text.Codec × Text.ErrorHandler) := do
  if args.length > 2 then
    throwExc "TypeError" (what ++ "() takes at most 2 arguments (" ++ toString args.length ++
      " given)")
  if let some (k, _) := kw.find? (fun p => p.1 != "encoding" && p.1 != "errors") then
    throwExc "TypeError" ("'" ++ k ++ "' is an invalid keyword argument for " ++ what ++ "()")
  let named (i : Nat) (k : String) : Option Value :=
    args[i]?.orElse fun _ => (kw.find? (·.1 == k)).map (·.2)
  let textArg (i : Nat) (k dflt : String) : Eval String := do
    match named i k with
    | none => return dflt
    | some (.str s) => return s
    | some v => throwExc "TypeError" (what ++ "() argument '" ++ k ++ "' must be str, not " ++
        (← typeName v))
  let enc ← textArg 0 "encoding" "utf-8"
  let errs ← textArg 1 "errors" "strict"
  return (← codecNamed enc, Text.ErrorHandler.ofName errs)

/-- Raise what a codec's problem with `obj` is: the Unicode error of the stretch it refused,
or the fault of the handler. -/
def codecFault {α : Type} (p : Text.CodecProblem) (decoding : Bool) (obj : Value) : Eval α := do
  match p with
  | .refused f =>
    let cls := if decoding then "UnicodeDecodeError" else "UnicodeEncodeError"
    throw (.raised (← makeException (.builtin cls)
      [.str f.codec.name, obj, .int f.start, .int f.stop, .str f.reason] []))
  | .unknownHandler n => throwExc "LookupError" ("unknown error handler name '" ++ n ++ "'")
  | .encodeOnly =>
    throwExc "TypeError" "don't know how to handle UnicodeDecodeError in error callback"

/-- Text encoded with the codec and handler of the arguments. -/
def encodeWith (what : String) (s : String) (args : List Value) (kw : List (String × Value)) :
    Eval Value := do
  let (codec, eh) ← codecArgs what args kw
  match Text.encodeText codec eh s with
  | .ok bs => return .bytes bs
  | .error p => codecFault p false (.str s)

/-- Bytes decoded with the codec and handler of the arguments. -/
def decodeWith (what : String) (bs : List UInt8) (args : List Value)
    (kw : List (String × Value)) : Eval Value := do
  let (codec, eh) ← codecArgs what args kw
  match Text.decodeBytes codec eh bs with
  | .ok s => return .str s
  | .error p => codecFault p true (.bytes bs)

/-- A method of a string. -/
def strMethod (h : Hooks) (fuel : Nat) (s : String) (name : String) (args : List Value)
    (kw : List (String × Value)) : Eval Value := do
  let cs := s.toList
  let n := cs.length
  let arg (i : Nat) (k : String) := argAt args kw i k
  let noKw : Eval Unit := do
    if !kw.isEmpty then throwExc "TypeError" (name ++ "() takes no keyword arguments")
  let text (xs : List Char) : Value := .str (String.ofList xs)
  match name with
  | "upper" => atMost ("str." ++ name) args 0; return .str (upper s)
  | "lower" => atMost ("str." ++ name) args 0; return .str (lower s)
  | "casefold" => atMost ("str." ++ name) args 0; return .str (casefold s)
  | "capitalize" => atMost ("str." ++ name) args 0; return .str (capitalize s)
  | "title" => atMost ("str." ++ name) args 0; return .str (title s)
  | "swapcase" => atMost ("str." ++ name) args 0; return .str (swapCase s)
  | "strip" | "lstrip" | "rstrip" =>
    noKw; atMost name args 1
    let chars ← stripArg name (arg 0 "chars")
    let r := match name with
      | "lstrip" => stripLeft cs chars
      | "rstrip" => stripRight cs chars
      | _ => stripRight (stripLeft cs chars) chars
    return text r
  | "split" | "rsplit" =>
    atMostGiven name args 2
    let sep ← sepArg (arg 0 "sep")
    let limit ← limitArg h (arg 1 "maxsplit")
    let parts := match sep, name with
      | some sp, "split" => splitOnSep cs sp limit
      | some sp, _ => rsplitOnSep cs sp limit
      | none, "split" => splitOnBlanks cs limit
      | none, _ => rsplitOnBlanks cs limit
    allocRef (.list (strValues parts).toArray)
  | "splitlines" =>
    atMostGiven name args 1
    let keep ← match arg 0 "keepends" with
      | some v => truthy h v
      | none => pure false
    allocRef (.list (strValues (splitLinesOf cs keep)).toArray)
  | "join" =>
    noKw
    let v ← exactlyOne "str.join" args
    let items ← iterate h fuel v
    let mut parts : List String := []
    let mut i := 0
    for it in items do
      match (← dataOf? it).getD it with
      | .str t => parts := parts ++ [t]
      | _ => throwExc "TypeError" ("sequence item " ++ toString i ++ ": expected str instance, " ++
          (← typeName it) ++ " found")
      i := i + 1
    return .str (s.intercalate parts)
  | "replace" =>
    noKw
    atLeast "replace" args 2
    atMost "replace" args 3
    let old ← match args[0]! with
      | .str t => pure t
      | x => throwExc "TypeError" ("replace() argument 1 must be str, not " ++ (← typeName x))
    let new ← match args[1]! with
      | .str t => pure t
      | x => throwExc "TypeError" ("replace() argument 2 must be str, not " ++ (← typeName x))
    let limit ← limitArg h args[2]?
    return text (replaceIn cs old.toList new.toList limit)
  | "find" | "rfind" | "index" | "rindex" | "count" =>
    noKw
    atLeastGiven name args 1
    atMostGiven name args 3
    let sub ← strArg args[0]!
    let start ← boundArg h n args[1]? 0
    let stop ← boundArg h n args[2]? n
    if name == "count" then return .int (countIn cs sub.toList start stop)
    let r := if name == "find" || name == "index" then findIn cs sub.toList start stop
      else rfindIn cs sub.toList start stop
    match r with
    | some i => return .int i
    | none =>
      if name == "index" || name == "rindex" then throwExc "ValueError" "substring not found"
      else return .int (-1)
  | "startswith" | "endswith" =>
    noKw
    atLeastGiven name args 1
    atMostGiven name args 3
    let affixes ← affixesArg name args[0]!
    let start ← boundArg h n args[1]? 0
    let stop ← boundArg h n args[2]? n
    let window := (cs.take stop).drop start
    if start > n then return .bool false
    let hit := affixes.any fun a =>
      if name == "startswith" then a.toList.isPrefixOf window
      else a.toList.reverse.isPrefixOf window.reverse
    return .bool (hit && start ≤ stop || (affixes.any (·.isEmpty) && start ≤ stop))
  | "center" | "ljust" | "rjust" =>
    noKw
    atLeast name args 1
    atMost name args 2
    let w ← intArg h args[0]!
    let fill ← fillArg args[1]?
    let w := w.toNat
    if w ≤ n then return .str s
    let pad := List.replicate (w - n) fill
    return text (match name with
      | "ljust" => cs ++ pad
      | "rjust" => pad ++ cs
      | _ => centerIn cs w fill)
  | "maketrans" => noKw; makeTrans args
  | "translate" =>
    let table ← exactlyOne "str.translate" args
    let mut out : String := ""
    for c in cs do
      let found ← tryCatch (some <$> getItem h table (.int c.toNat)) fun e => do
        match e with
        | .raised x => if ← excIs x "LookupError" then pure none else throw e
        | _ => throw e
      match found with
      | none => out := out.push c
      | some .none => pure ()
      | some (.str t) => out := out ++ t
      | some v =>
        match v.intValue? with
        | some k =>
          if k < 0 || k ≥ 0x110000 then
            throwExc "ValueError" "character mapping must be in range(0x110000)"
          out := out.push (Char.ofNat k.toNat)
        | none => throwExc "TypeError" "character mapping must return integer, None or str"
    return .str out
  | "zfill" =>
    let w ← intArg h (← exactlyOne "str.zfill" args)
    return text (zeroFill cs w.toNat)
  | "partition" | "rpartition" =>
    let sepV ← exactlyOne ("str." ++ name) args
    let sep ← strArg sepV
    if sep.isEmpty then throwExc "ValueError" "empty separator"
    let pos := if name == "partition" then findIn cs sep.toList 0 n else rfindIn cs sep.toList 0 n
    match pos with
    | some i =>
      return .tuple [text (cs.take i), .str sep, text (cs.drop (i + sep.length))]
    | none =>
      if name == "partition" then return .tuple [.str s, .str "", .str ""]
      else return .tuple [.str "", .str "", .str s]
  | "removeprefix" =>
    let p ← strArg (← exactlyOne "str.removeprefix" args)
    return if p.toList.isPrefixOf cs then text (cs.drop p.length) else .str s
  | "removesuffix" =>
    let p ← strArg (← exactlyOne "str.removesuffix" args)
    return if p.toList.reverse.isPrefixOf cs.reverse && !p.isEmpty then text (cs.take (n - p.length))
      else .str s
  | "expandtabs" =>
    atMostGiven name args 1
    let size ← match arg 0 "tabsize" with
      | some v => intArg h v
      | none => pure 8
    return text (expandTabsBy size.toNat cs)
  | "isdigit" => return .bool (!cs.isEmpty && cs.all isDigitChar)
  | "isdecimal" => return .bool (!cs.isEmpty && cs.all isDecimalChar)
  | "isnumeric" => return .bool (!cs.isEmpty && cs.all isNumericChar)
  | "isalpha" => return .bool (!cs.isEmpty && cs.all isAlphaChar)
  | "isalnum" => return .bool (!cs.isEmpty && cs.all fun c => isAlphaChar c || isNumericChar c)
  | "isspace" => return .bool (!cs.isEmpty && cs.all isBlank)
  | "islower" => return .bool (isLowerText s)
  | "isupper" => return .bool (isUpperText s)
  | "istitle" => return .bool (isTitleText s)
  | "isascii" => return .bool (cs.all (·.toNat < 128))
  | "isprintable" => return .bool (cs.all isPrintable)
  | "isidentifier" =>
    return .bool (match cs with
      | c :: rest => (isIdentStart c || c = '_') && rest.all isIdentContinue
      | [] => false)
  | "format" =>
    let (r, _) ← formatWith h 4 s args kw .unset
    return .str r
  | "format_map" =>
    let m ← exactlyOne "str.format_map" args
    let pairs ← match m with
      | .ref a =>
        match ← getObj a with
        | .dict entries => pure (entries.toList.filterMap fun
            | (.str k, v) => some (k, v)
            | _ => none)
        | _ => pure []
      | _ => pure []
    let (r, _) ← formatWith h 4 s [] pairs .unset
    return .str r
  | "encode" => encodeWith "encode" s args kw
  | "__len__" => return .int n
  | "__contains__" => return .bool (← containsItem h fuel (.str s) (← exactlyOne "__contains__" args))
  | "__getitem__" => getItem h (.str s) (← exactlyOne "__getitem__" args)
  | _ => throwExc "AttributeError" ("'str' object has no attribute '" ++ name ++ "'")

end StubDoctest.Exec
