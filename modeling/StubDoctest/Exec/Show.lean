import StubDoctest.Exec.Lookup
import StubDoctest.Exec.Exception
import StubDoctest.Number.FloatText
import StubDoctest.Text.Quoted

/-!
# The text of values

Two texts per value: the display form (`repr`), which reads back where it can, and the plain
form (`str`), which for strings is the string itself and for most other values the display
form. A class a program defines may give either through `__repr__` or `__str__`; the plain form
falls back to the display form.

Containers show their items' display forms, with `[...]` or `{...}` for a container met again
inside itself. Exceptions show their class name and arguments; their plain form is their
family's (see the module of exceptions). Integers of more than 4300 digits have no text.
-/

namespace StubDoctest.Exec

open StubDoctest.Number

/-- The decimal text of an integer, or the fault for one with more digits than the limit. -/
def intText (n : Int) : Eval String := do
  let digits := toString n.natAbs
  let limit := (← get).intDigitLimit
  if limit > 0 && digits.length > limit then
    throwExc "ValueError" ("Exceeds the limit (" ++ toString limit ++
      " digits) for integer string conversion; use sys.set_int_max_str_digits() to increase the limit")
  return (if n < 0 then "-" else "") ++ digits

/-- The fault for reading an integer from more decimal digits than the limit. -/
def checkDigitCount (digits : Nat) : Eval Unit := do
  let limit := (← get).intDigitLimit
  if limit > 0 && digits > limit then
    throwExc "ValueError" ("Exceeds the limit (" ++ toString limit ++
      " digits) for integer string conversion: value has " ++ toString digits ++
      " digits; use sys.set_int_max_str_digits() to increase the limit")

/-- Positional or scientific text of a double without `.0`, as a part of a complex number. -/
def floatBare (x : Float) : String :=
  let t := floatText x
  if t.endsWith ".0" then String.ofList (t.toList.take (t.length - 2)) else t

/-- Whether a double has its sign bit set. -/
def signBit (x : Float) : Bool := x.toBits.toNat ≥ 2 ^ 63

/-- The text of a complex number. -/
def complexText (re im : Float) : String :=
  let imText := floatBare im ++ "j"
  if re == 0 && !signBit re then imText
  else
    let sign := if im.isNaN then "+" else if signBit im then "" else "+"
    "(" ++ floatBare re ++ sign ++ imText ++ ")"

/-- Lower-case hexadecimal of a byte, two digits. -/
def byteHex (b : Nat) : String :=
  let ds := Nat.toDigits 16 b
  String.ofList (if ds.length < 2 then '0' :: ds else ds)

/-- The display form of a byte string; `escapeSingle` escapes every single quote, as the display
form of a byte array does even between double quotes. -/
def bytesReprWith (escapeSingle : Bool) (bs : List UInt8) : String :=
  let hasSingle := bs.contains 39
  let hasDouble := bs.contains 34
  let q : Nat := if hasSingle && !hasDouble then 34 else 39
  let body := bs.foldl (fun acc b =>
    let n := b.toNat
    acc ++ (if n = q || n = 92 || (escapeSingle && n = 39) then "\\" ++ (Char.ofNat n).toString
      else if n = 9 then "\\t" else if n = 10 then "\\n" else if n = 13 then "\\r"
      else if n < 32 || n ≥ 127 then "\\x" ++ byteHex n
      else (Char.ofNat n).toString)) ""
  "b" ++ (Char.ofNat q).toString ++ body ++ (Char.ofNat q).toString

/-- The display form of a byte string. -/
def bytesRepr (bs : List UInt8) : String := bytesReprWith false bs

/-- Items' texts joined by commas. -/
def joinComma (ts : List String) : String := ", ".intercalate ts

/-- The qualified name of a class. -/
def classQualname : ClassRef → Eval String
  | .builtin n => return n
  | .user a => do
    match ← getObj a with
    | .userClass n _ _ attrs _ =>
      match lookupPairs attrs "__qualname__" with
      | some (.str q) => return q
      | _ => return n
    | _ => return "object"

/-- The qualified name of a class after the name of its module, unless that is `builtins`. -/
def classFullName (c : ClassRef) : Eval String := do
  let q ← classQualname c
  match c with
  | .builtin _ => return q
  | .user a =>
    match ← getObj a with
    | .userClass _ _ _ attrs _ =>
      match lookupPairs attrs "__module__" with
      | some (.str m) => return if m == "builtins" then q else m ++ "." ++ q
      | _ => return q
    | _ => return q

/-- The display form of a class. -/
def classRepr (c : ClassRef) : Eval String := do
  return "<class '" ++ (← classFullName c) ++ "'>"

/-- The arguments of an exception instance. -/
def excArgs (attrs : Array (String × Value)) : List Value :=
  match lookupPairs attrs "args" with
  | some (.tuple items) => items
  | _ => []

/-- The fuel that bounds the nesting of values shown; the recursion limit stops it first. -/
def showFuel : Nat := 100000

/-- An action run one level deeper in the stack, as showing a value is: refused with the
recursion fault, naming what was being done, when the stack is full. -/
def nested {α : Type} (doing : String) (act : Eval α) : Eval α := do
  let m ← get
  if m.depth + m.baseDepth ≥ m.recursionLimit then
    throwExc "RecursionError" ("maximum recursion depth exceeded" ++ doing)
  modify fun m => { m with depth := m.depth + 1 }
  let r ← tryCatch act fun e => do
    modify fun m => { m with depth := m.depth - 1 }
    throw e
  modify fun m => { m with depth := m.depth - 1 }
  return r

/-- Special methods the runtime types define as slot wrappers; the rest of their methods, and
`__getitem__` of lists and dictionaries and `__contains__` of dictionaries and sets, are plain
methods. -/
def slotMethodNames : List String :=
  ["__abs__", "__add__", "__and__", "__bool__", "__contains__", "__delattr__", "__delitem__",
   "__divmod__", "__eq__", "__float__", "__floordiv__", "__ge__", "__getattribute__",
   "__getitem__", "__gt__", "__hash__", "__iadd__", "__iand__", "__imul__", "__index__",
   "__init__", "__int__", "__invert__", "__ior__", "__isub__", "__iter__", "__ixor__", "__le__",
   "__len__", "__lshift__", "__lt__", "__mod__", "__mul__", "__ne__", "__neg__", "__or__",
   "__pos__", "__pow__", "__radd__", "__rand__", "__rdivmod__", "__repr__", "__rfloordiv__",
   "__rlshift__", "__rmod__", "__rmul__", "__ror__", "__rpow__", "__rrshift__", "__rshift__",
   "__rsub__", "__rtruediv__", "__rxor__", "__setattr__", "__setitem__", "__str__", "__sub__",
   "__truediv__", "__xor__", "__next__", "__call__", "__get__", "__set__", "__delete__"]

/-- Whether a method of a runtime type is shown as a slot wrapper. -/
def isSlotMethod (cls name : String) : Bool :=
  slotMethodNames.contains name &&
    !(name == "__getitem__" && (cls == "list" || cls == "dict")) &&
    !(name == "__contains__" && (cls == "dict" || cls == "set" || cls == "frozenset"))

mutual

/-- The display form of a value; `seen` holds the containers being shown. Each value shown is
one level deeper in the stack. -/
def reprOf (h : Hooks) (fuel : Nat) (seen : List Nat) (v : Value) : Eval String :=
  match fuel with
  | 0 => throwExc "RecursionError" "maximum recursion depth exceeded while getting the repr of an object"
  | fuel + 1 =>
    nested " while getting the repr of an object" do
    match v with
    | .none => return "None"
    | .bool b => return if b then "True" else "False"
    | .int n => intText n
    | .float x => return floatText x
    | .complex re im => return complexText re im
    | .str s => return Text.quote s
    | .bytes bs => return bytesRepr bs
    | .tuple items => do
      let ts ← reprList h fuel seen items
      return "(" ++ joinComma ts ++ (if items.length = 1 then ",)" else ")")
    | .range a b c =>
      return "range(" ++ toString a ++ ", " ++ toString b ++
        (if c = 1 then ")" else ", " ++ toString c ++ ")")
    | .slice lo hi st => do
      return "slice(" ++ (← reprOf h fuel seen lo) ++ ", " ++ (← reprOf h fuel seen hi) ++ ", " ++
        (← reprOf h fuel seen st) ++ ")"
    | .cls c => classRepr c
    | .builtinFn "exit" => return "Use exit() or Ctrl-D (i.e. EOF) to exit"
    | .builtinFn "quit" => return "Use quit() or Ctrl-D (i.e. EOF) to exit"
    | .builtinFn n => return "<built-in function " ++ n ++ ">"
    | .method self name => do
      match self with
      | .cls c => return "<built-in method " ++ name ++ " of type object at " ++
          addressText (match c with
            | .user a => a
            | .builtin _ => 7) ++ ">"
      | _ => return "<built-in method " ++ name ++ " of " ++ (← typeName self) ++
          " object at " ++ addressText 11 ++ ">"
    | .descriptor c n =>
      let kind := if isSlotMethod c n then "<slot wrapper '" else "<method '"
      return kind ++ n ++ "' of '" ++ c ++ "' objects>"
    | .notImplemented => return "NotImplemented"
    | .ellipsis => return "Ellipsis"
    | .ref a => do
      match ← getObj a with
      | .list items =>
        if seen.contains a then return "[...]"
        else return "[" ++ joinComma (← reprList h fuel (a :: seen) items.toList) ++ "]"
      | .dict entries =>
        if seen.contains a then return "\x7b...\x7d"
        else return "\x7b" ++ joinComma (← reprPairs h fuel (a :: seen) entries.toList) ++ "\x7d"
      | .scope vars =>
        if seen.contains a then return "\x7b...\x7d"
        else return "\x7b" ++ joinComma (← reprPairs h fuel (a :: seen)
          (vars.toList.map fun (k, x) => (Value.str k, x))) ++ "\x7d"
      | .set t frozen =>
        let items := t.items
        if items.isEmpty then return if frozen then "frozenset()" else "set()"
        else
          let body := "\x7b" ++ joinComma (← reprList h fuel (a :: seen) items) ++ "\x7d"
          return if frozen then "frozenset(" ++ body ++ ")" else body
      | .inst c attrs data =>
        match ← lookupSpecial v "__repr__" with
        | some fn => do
          match ← h.call fn [v] [] with
          | .str s => return s
          | r => throwExc "TypeError" ("__repr__ returned non-string (type " ++ (← typeName r) ++ ")")
        | none =>
          -- a set of a derived class shows the class's name around its items
          let heldSet ← match data with
            | some (.ref p) => do
              match ← getObj p with
              | .set t _ => pure (some (p, t))
              | _ => pure none
            | _ => pure none
          if let some (p, t) := heldSet then
            let name ← className c
            if t.items.isEmpty then return name ++ "()"
            return name ++ "(\x7b" ++ joinComma (← reprList h fuel (p :: seen) t.items) ++ "\x7d)"
          -- so does a byte array
          if let some (.ref p) := data then
            if let .byteArray bs ← getObj p then
              return (← className c) ++ "(" ++ bytesReprWith true bs.toList ++ ")"
          if let some d := data then reprOf h fuel seen d
          else if ← isExceptionClass c then
            let name ← className c
            match excArgs attrs with
            | [x] => return name ++ "(" ++ (← reprOf h fuel seen x) ++ ")"
            | args => return name ++ (← reprOf h fuel seen (.tuple args))
          else return "<" ++ (← classQualname c) ++ " object at " ++ addressText a ++ ">"
      | .userClass _ _ _ _ _ =>
        -- a metaclass may say how its classes show
        match ← lookupSpecial v "__repr__" with
        | some fn => do
          match ← h.call fn [v] [] with
          | .str s => return s
          | r => throwExc "TypeError" ("__repr__ returned non-string (type " ++ (← typeName r) ++ ")")
        | none => classRepr (.user a)
      | .function fn => return "<function " ++ fn.qualname ++ " at " ++ addressText a ++ ">"
      | .boundMethod self fn => do
        let fname ← match fn with
          | .ref b => do
            match ← getObj b with
            | .function f => pure f.qualname
            | _ => pure "?"
          | _ => pure "?"
        return "<bound method " ++ fname ++ " of " ++ (← reprOf h fuel seen self) ++ ">"
      | .module n _ => return "<module '" ++ n ++ "' (built-in)>"
      | .iterator kind _ => return "<" ++ kind ++ " object at " ++ addressText a ++ ">"
      | .view d part =>
        let items ← viewItems d part
        return part.viewName ++ "([" ++ joinComma (← reprList h fuel (a :: seen) items.toList) ++ "])"
      | .generator g => return "<generator object " ++ g.fn.qualname ++ " at " ++ addressText a ++ ">"
      | .property _ _ => return "<property object at " ++ addressText a ++ ">"
      | .staticMethod fn => return "<staticmethod(" ++ (← reprOf h fuel seen fn) ++ ")>"
      | .classMethod fn => return "<classmethod(" ++ (← reprOf h fuel seen fn) ++ ")>"
      | .superProxy c self => do
        return "<super: " ++ (← classRepr c) ++ ", <" ++ (← typeName self) ++ " object>>"
      | .byteArray bs => return "bytearray(" ++ bytesReprWith true bs.toList ++ ")"
      | .memoryView _ _ _ released =>
        return "<" ++ (if released then "released " else "") ++ "memory at " ++ addressText a ++ ">"

/-- The display forms of values. -/
def reprList (h : Hooks) (fuel : Nat) (seen : List Nat) (vs : List Value) : Eval (List String) :=
  match fuel with
  | 0 => throwExc "RecursionError" "maximum recursion depth exceeded while getting the repr of an object"
  | fuel + 1 => vs.mapM (reprOf h fuel seen)

/-- The display forms `key: value` of pairs. -/
def reprPairs (h : Hooks) (fuel : Nat) (seen : List Nat) (ps : List (Value × Value)) :
    Eval (List String) :=
  match fuel with
  | 0 => throwExc "RecursionError" "maximum recursion depth exceeded while getting the repr of an object"
  | fuel + 1 => ps.mapM fun (k, x) => do
    return (← reprOf h fuel seen k) ++ ": " ++ (← reprOf h fuel seen x)

end

/-- The plain form of a value. -/
def strOf (h : Hooks) (fuel : Nat) (v : Value) : Eval String :=
  match fuel with
  | 0 => throwExc "RecursionError" "maximum recursion depth exceeded while getting the str of an object"
  | fuel + 1 =>
    match v with
    | .str s => return s
    | .ref a => do
      match ← getObj a with
      | .inst c attrs data =>
        match ← lookupSpecial v "__str__" with
        | some fn =>
          match ← h.call fn [v] [] with
          | .str s => return s
          | r => throwExc "TypeError" ("__str__ returned non-string (type " ++ (← typeName r) ++ ")")
        | none =>
          -- Strings and byte strings have a plain form of their own; other types show their
          -- display form, which the class may give.
          match data with
          | some (.str s) => return s
          | some (.bytes bs) => strOf h fuel (.bytes bs)
          | _ =>
            if ← isExceptionClass c then exceptionText (strOf h fuel) (reprOf h fuel []) c attrs
            else reprOf h fuel [] v
      | _ => reprOf h fuel [] v
    | _ => reprOf h fuel [] v

end StubDoctest.Exec
