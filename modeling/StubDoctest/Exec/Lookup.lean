import StubDoctest.Exec.Hash

/-!
# Finding attributes on classes

An attribute of a class defined by a program is found in the first class of its linearized
ancestors whose namespace binds it. Special methods (`__repr__`, `__eq__`, `__add__`, …) are
looked up this way on the class of a value, never on the value itself. Classes of the runtime
contribute no namespace here: their behaviour is built in.

The runtime's methods are listed per class, so that an attribute is found or refused before it
is called.
-/

namespace StubDoctest.Exec

/-- The attribute `name` in the namespaces of a class's ancestors, with the class that binds
it. -/
def findInMro (c : ClassRef) (name : String) : Eval (Option (ClassRef × Value)) := do
  for k in ← classMro c do
    match k with
    | .user a =>
      match ← getObj a with
      | .userClass _ _ _ attrs _ =>
        match lookupPairs attrs name with
        | some v => return some (k, v)
        | none => pure ()
      | _ => pure ()
    | .builtin _ => pure ()
  return none

/-- The special method `name` of a value's class, if a class a program defined binds it. -/
def lookupSpecial (v : Value) (name : String) : Eval (Option Value) := do
  match ← typeOf v with
  | .user a => return (← findInMro (.user a) name).map (·.2)
  | .builtin _ => return none

/-- The runtime types of data a class may derive from, so that its instances hold a value of
the type. -/
def dataTypes : List String :=
  ["list", "dict", "set", "frozenset", "tuple", "str", "int", "float", "complex", "bytes",
    "bytearray"]

/-- Whether instances of a runtime type of data hold a mutable object of their own. -/
def isMutableData (name : String) : Bool :=
  name == "list" || name == "dict" || name == "set" || name == "bytearray"

/-- The runtime type of data a class derives from: the first among its ancestors. -/
def dataBase? (c : ClassRef) : Eval (Option String) := do
  for k in ← classMro c do
    match k with
    | .builtin n => if dataTypes.contains n then return some n
    | .user _ => pure ()
  return none

/-- The value of the runtime type an instance holds, when its class derives from one. -/
def dataOf? (v : Value) : Eval (Option Value) := do
  match v with
  | .ref a =>
    match ← getObj a with
    | .inst _ _ data => return data
    | _ => return none
  | _ => return none

/-- The value an operation of the runtime acts on: for an instance whose class derives from a
runtime type and binds no special method `name` of its own, the value of that type it holds;
otherwise the value itself. -/
def unwrapData (v : Value) (name : String) : Eval Value := do
  match ← dataOf? v with
  | some d => if (← lookupSpecial v name).isSome then return v else return d
  | none => return v

/-- Whether a value is an instance of a class a program defined. -/
def isUserInstance (v : Value) : Eval Bool := do
  match ← typeOf v with
  | .user _ => return true
  | .builtin _ => return false

/-- The methods of strings. -/
def strMethods : List String :=
  ["capitalize", "casefold", "center", "count", "encode", "endswith", "expandtabs", "find",
    "format", "format_map", "index", "isalnum", "isalpha", "isascii", "isdecimal", "isdigit",
    "isidentifier", "islower", "isnumeric", "isprintable", "isspace", "istitle", "isupper",
    "join", "ljust", "lower", "lstrip", "partition", "removeprefix", "removesuffix", "replace",
    "rfind", "rindex", "rjust", "rpartition", "rsplit", "rstrip", "split", "splitlines",
    "startswith", "strip", "swapcase", "title", "translate", "upper", "zfill", "maketrans"]

/-- The methods of lists. -/
def listMethods : List String :=
  ["append", "clear", "copy", "count", "extend", "index", "insert", "pop", "remove", "reverse",
    "sort"]

/-- The methods of dictionaries. -/
def dictMethods : List String :=
  ["clear", "copy", "fromkeys", "get", "items", "keys", "pop", "popitem", "setdefault",
    "update", "values"]

/-- The methods of sets that leave the set as it is. -/
def frozenSetMethods : List String :=
  ["copy", "difference", "intersection", "isdisjoint", "issubset", "issuperset",
    "symmetric_difference", "union"]

/-- The methods of sets. -/
def setMethods : List String :=
  frozenSetMethods ++ ["add", "clear", "difference_update", "discard", "intersection_update",
    "pop", "remove", "symmetric_difference_update", "update"]

/-- The methods of tuples. -/
def tupleMethods : List String := ["count", "index"]

/-- The methods of byte strings. -/
def bytesMethods : List String :=
  ["capitalize", "center", "count", "decode", "endswith", "expandtabs", "find", "fromhex", "hex",
    "index", "isalnum", "isalpha", "isascii", "isdigit", "islower", "isspace", "istitle",
    "isupper", "join", "ljust", "lower", "lstrip", "maketrans", "partition", "removeprefix",
    "removesuffix", "replace", "rfind", "rindex", "rjust", "rpartition", "rsplit", "rstrip",
    "split", "splitlines", "startswith", "strip", "swapcase", "title", "translate", "upper",
    "zfill"]

/-- The methods of byte arrays. -/
def byteArrayMethods : List String :=
  bytesMethods ++ ["append", "clear", "copy", "extend", "insert", "pop", "remove", "reverse",
    "__alloc__"]

/-- The methods of memory views. -/
def memoryViewMethods : List String :=
  ["hex", "release", "tobytes", "tolist", "toreadonly", "__enter__", "__exit__"]

/-- The methods of integers. -/
def intMethods : List String :=
  ["as_integer_ratio", "bit_count", "bit_length", "conjugate", "to_bytes"]

/-- The methods of floats. -/
def floatMethods : List String := ["as_integer_ratio", "conjugate", "hex", "is_integer"]

/-- The methods of a runtime class, by its name. -/
def runtimeMethods : String → List String
  | "str" => strMethods
  | "list" => listMethods
  | "dict" => dictMethods
  | "set" => setMethods
  | "frozenset" => frozenSetMethods
  | "tuple" => tupleMethods
  | "bytes" => bytesMethods
  | "bytearray" => byteArrayMethods
  | "memoryview" => memoryViewMethods
  | "int" => intMethods
  | "bool" => intMethods
  | "float" => floatMethods
  | "complex" => ["conjugate"]
  | "range" => ["count", "index"]
  | _ => []

/-- A fake address for the text of an object at heap address `a`. -/
def addressText (a : Nat) : String :=
  let digits := Nat.toDigits 16 (0x7f3a1c000000 + a * 48)
  "0x" ++ String.ofList digits

end StubDoctest.Exec
