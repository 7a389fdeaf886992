import StubDoctest.Exec.Value

/-!
# Classes and the class of a value

The runtime's classes form a tree under `object`; exceptions descend from `BaseException`.
A class defined by a program has its ancestors linearized once, when it is made: the class
itself, then a merge of its bases' linearizations and the list of its bases, taking at each step
the first head that is in no other list's tail.
-/

namespace StubDoctest.Exec

/-- The parent of each runtime class but `object`. -/
def runtimeParents : List (String × String) :=
  [("BaseException", "object"), ("Exception", "BaseException"),
    ("SystemExit", "BaseException"), ("KeyboardInterrupt", "BaseException"),
    ("GeneratorExit", "BaseException"), ("BaseExceptionGroup", "BaseException"),
    ("ArithmeticError", "Exception"), ("ZeroDivisionError", "ArithmeticError"),
    ("OverflowError", "ArithmeticError"), ("FloatingPointError", "ArithmeticError"),
    ("LookupError", "Exception"), ("IndexError", "LookupError"), ("KeyError", "LookupError"),
    ("ValueError", "Exception"), ("UnicodeError", "ValueError"),
    ("UnicodeDecodeError", "UnicodeError"), ("UnicodeEncodeError", "UnicodeError"),
    ("UnicodeTranslateError", "UnicodeError"),
    ("TypeError", "Exception"), ("NameError", "Exception"), ("UnboundLocalError", "NameError"),
    ("AttributeError", "Exception"), ("AssertionError", "Exception"),
    ("ImportError", "Exception"), ("ModuleNotFoundError", "ImportError"),
    ("RuntimeError", "Exception"), ("NotImplementedError", "RuntimeError"),
    ("RecursionError", "RuntimeError"), ("StopIteration", "Exception"),
    ("StopAsyncIteration", "Exception"), ("SyntaxError", "Exception"),
    ("IndentationError", "SyntaxError"), ("TabError", "IndentationError"),
    ("OSError", "Exception"), ("FileNotFoundError", "OSError"), ("FileExistsError", "OSError"),
    ("PermissionError", "OSError"), ("IsADirectoryError", "OSError"),
    ("NotADirectoryError", "OSError"), ("TimeoutError", "OSError"),
    ("ConnectionError", "OSError"), ("BlockingIOError", "OSError"),
    ("ChildProcessError", "OSError"), ("InterruptedError", "OSError"),
    ("ProcessLookupError", "OSError"), ("BrokenPipeError", "ConnectionError"),
    ("ConnectionAbortedError", "ConnectionError"), ("ConnectionRefusedError", "ConnectionError"),
    ("ConnectionResetError", "ConnectionError"), ("EOFError", "Exception"),
    ("MemoryError", "Exception"), ("BufferError", "Exception"), ("ReferenceError", "Exception"),
    ("SystemError", "Exception"),
    ("Warning", "Exception"), ("UserWarning", "Warning"), ("DeprecationWarning", "Warning"),
    ("PendingDeprecationWarning", "Warning"), ("SyntaxWarning", "Warning"),
    ("RuntimeWarning", "Warning"), ("FutureWarning", "Warning"), ("ImportWarning", "Warning"),
    ("UnicodeWarning", "Warning"), ("BytesWarning", "Warning"),
    ("ResourceWarning", "Warning"), ("EncodingWarning", "Warning"),
    ("bool", "int")]

/-- The runtime classes that are not exceptions and whose parent is `object`. -/
def plainRuntimeClasses : List String :=
  ["int", "float", "complex", "str", "bytes", "list", "tuple", "dict", "set", "frozenset",
    "range", "slice", "NoneType", "type", "function", "builtin_function_or_method",
    "method_descriptor", "method", "module", "property", "staticmethod", "classmethod",
    "super", "generator", "list_iterator", "tuple_iterator", "str_iterator", "range_iterator",
    "set_iterator", "dict_keyiterator", "dict_valueiterator", "dict_itemiterator",
    "dict_keys", "dict_values", "dict_items", "list_reverseiterator", "str_ascii_iterator",
    "bytes_iterator", "callable_iterator", "iterator", "dict_reversekeyiterator",
    "NotImplementedType", "ellipsis", "enumerate", "zip", "map", "filter", "reversed",
    "bytearray", "memoryview", "Quitter", "bytearray_iterator", "memory_iterator"]

/-- Whether a name is a runtime class. -/
def isRuntimeClass (name : String) : Bool :=
  name == "object" || plainRuntimeClasses.contains name ||
    runtimeParents.any (·.1 == name)

/-- The parent of a runtime class. -/
def runtimeParent (name : String) : Option String :=
  if name == "object" then none
  else match runtimeParents.find? (·.1 == name) with
    | some (_, p) => some p
    | none => some "object"

/-- A runtime class and its ancestors, nearest first; `fuel` bounds the depth. -/
def runtimeAncestors (fuel : Nat) (name : String) : List String :=
  match fuel with
  | 0 => [name]
  | fuel + 1 =>
    match runtimeParent name with
    | some p => name :: runtimeAncestors fuel p
    | none => [name]

/-- The linearized ancestors of a class, itself first. -/
def classMro : ClassRef → Eval (List ClassRef)
  | .builtin n => return (runtimeAncestors 16 n).map .builtin
  | .user a => do
    match ← getObj a with
    | .userClass _ _ mro _ _ => return mro
    | _ => return [.user a, .builtin "object"]

/-- Whether `c` is `d` or descends from it. -/
def isSubclass (c d : ClassRef) : Eval Bool := return (← classMro c).contains d

/-- The name of a class. -/
def className : ClassRef → Eval String
  | .builtin n => return n
  | .user a => do
    match ← getObj a with
    | .userClass n _ _ _ _ => return n
    | _ => return "object"

/-- The class of a value. -/
def typeOf : Value → Eval ClassRef
  | .none => return .builtin "NoneType"
  | .bool _ => return .builtin "bool"
  | .int _ => return .builtin "int"
  | .float _ => return .builtin "float"
  | .complex _ _ => return .builtin "complex"
  | .str _ => return .builtin "str"
  | .bytes _ => return .builtin "bytes"
  | .tuple _ => return .builtin "tuple"
  | .range _ _ _ => return .builtin "range"
  | .slice _ _ _ => return .builtin "slice"
  | .cls _ => return .builtin "type"
  | .builtinFn "exit" | .builtinFn "quit" => return .builtin "Quitter"
  | .builtinFn _ => return .builtin "builtin_function_or_method"
  | .method _ _ => return .builtin "builtin_function_or_method"
  | .descriptor _ _ => return .builtin "method_descriptor"
  | .notImplemented => return .builtin "NotImplementedType"
  | .ellipsis => return .builtin "ellipsis"
  | .ref a => do
    match ← getObj a with
    | .list _ => return .builtin "list"
    | .dict _ => return .builtin "dict"
    | .set _ frozen => return .builtin (if frozen then "frozenset" else "set")
    | .inst c _ _ => return c
    | .userClass _ _ _ _ metaclass => return metaclass
    | .function _ => return .builtin "function"
    | .boundMethod _ _ => return .builtin "method"
    | .module _ _ => return .builtin "module"
    | .scope _ => return .builtin "dict"
    | .iterator k _ => return .builtin k
    | .view _ part => return .builtin (DictPart.viewName part)
    | .generator _ => return .builtin "generator"
    | .property _ _ => return .builtin "property"
    | .staticMethod _ => return .builtin "staticmethod"
    | .classMethod _ => return .builtin "classmethod"
    | .superProxy _ _ => return .builtin "super"
    | .byteArray _ => return .builtin "bytearray"
    | .memoryView _ _ _ _ => return .builtin "memoryview"

/-- The bytes of a byte string, a byte array or a view of one; `none` for any other value. -/
def bytesLike? (v : Value) : Eval (Option (List UInt8)) := do
  match v with
  | .bytes bs => return some bs
  | .ref a =>
    match ← getObj a with
    | .byteArray bs => return some bs.toList
    | .memoryView src start size _ =>
      let whole ← match src with
        | .bytes bs => pure bs
        | .ref b =>
          match ← getObj b with
          | .byteArray bs => pure bs.toList
          | _ => pure []
        | _ => pure []
      return some ((whole.drop start).take size)
    | _ => return none
  | _ => return none

/-- The bytes of a byte string or a byte array; `none` for any other value. -/
def byteString? (v : Value) : Eval (Option (List UInt8)) := do
  match v with
  | .bytes bs => return some bs
  | .ref a =>
    match ← getObj a with
    | .byteArray bs => return some bs.toList
    | _ => return none
  | _ => return none

/-- The value of a class: a runtime class as itself, a program's class by its reference. -/
def classValue : ClassRef → Value
  | .builtin n => .cls (.builtin n)
  | .user a => .ref a

/-- The class a value is, if it is one. -/
def classOfValue? (v : Value) : Eval (Option ClassRef) := do
  match v with
  | .cls c => return some c
  | .ref a =>
    match ← getObj a with
    | .userClass _ _ _ _ _ => return some (.user a)
    | _ => return none
  | _ => return none

/-- The name of the class of a value. -/
def typeName (v : Value) : Eval String := do className (← typeOf v)

/-- Whether a value is an instance of a class. -/
def isInstance (v : Value) (c : ClassRef) : Eval Bool := do isSubclass (← typeOf v) c

/-- Whether a class is an exception class. -/
def isExceptionClass (c : ClassRef) : Eval Bool := isSubclass c (.builtin "BaseException")

/-- The first list's head that is in no list's tail; `none` if every head is. -/
def goodHead (seqs : List (List ClassRef)) : Option ClassRef :=
  (seqs.filterMap List.head?).find? fun h => seqs.all fun s => !(s.drop 1).contains h

/-- Merge linearizations, taking at each step a head that no list's tail holds; `none` when
no consistent order exists. `fuel` bounds the number of steps. -/
def mergeMro (fuel : Nat) (seqs : List (List ClassRef)) : Option (List ClassRef) :=
  match fuel with
  | 0 => none
  | fuel + 1 =>
    let seqs := seqs.filter (!·.isEmpty)
    if seqs.isEmpty then some []
    else
      match goodHead seqs with
      | some h => (mergeMro fuel (seqs.map fun s => s.filter (· != h))).map (h :: ·)
      | none => none

/-- The linearization of a new class with the given bases, or `none` when none exists. -/
def linearize (self : ClassRef) (bases : List ClassRef) : Eval (Option (List ClassRef)) := do
  let mros ← bases.mapM classMro
  let total := (mros.map List.length).foldr (· + ·) 0 + bases.length + 1
  return (mergeMro total (mros ++ [bases])).map (self :: ·)

end StubDoctest.Exec
