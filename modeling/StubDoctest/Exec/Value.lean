import StubDoctest.Source.Tree

/-!
# Values, objects and the machine

Values of the language are immediate (`None`, booleans, integers, floats, strings, bytes,
tuples, ranges, slices, classes of the runtime, functions of the runtime and their bound
forms) or references to objects on a heap. Objects are what a program can change or compare
by identity: lists, dictionaries, sets, instances, classes defined by the program, functions,
modules, scopes of names, iterators and a few wrappers.

The machine holds the heap, the text written to standard output, the last value shown at the
prompt (bound to `_`), the depth of calls and the values yielded by running generators. It also
notes where the block of examples being run starts on the heap, and whether that block wrote an
object older than itself: every write to an existing object goes through `setObj` or
`modifyObj`, which note it.

Evaluation runs in `Eval`: a state monad over the machine with a signal that interrupts
evaluation, either a raised exception (kept on the heap) or the end of the fuel. State is kept
when a signal is raised, as an exception does not undo effects.
-/

namespace StubDoctest.Exec

open StubDoctest.Source

/-- A class: one of the runtime, by name, or one a program defined, by its heap address. -/
inductive ClassRef where
  /-- A class of the runtime. -/
  | builtin (name : String)
  /-- A class defined by a program. -/
  | user (addr : Nat)
  deriving DecidableEq, Inhabited

/-- Values. -/
inductive Value where
  /-- `None`. -/
  | none
  /-- `True` or `False`. -/
  | bool (b : Bool)
  /-- An integer. -/
  | int (n : Int)
  /-- A float. -/
  | float (x : Float)
  /-- A complex number by its real and imaginary parts. -/
  | complex (re im : Float)
  /-- A text string. -/
  | str (s : String)
  /-- A byte string. -/
  | bytes (bs : List UInt8)
  /-- A tuple. -/
  | tuple (items : List Value)
  /-- `range(start, stop, step)`. -/
  | range (start stop step : Int)
  /-- A slice; `None` stands for a missing bound. -/
  | slice (lo hi step : Value)
  /-- A class. -/
  | cls (c : ClassRef)
  /-- A function of the runtime, by name. -/
  | builtinFn (name : String)
  /-- A method of the runtime bound to its receiver. -/
  | method (self : Value) (name : String)
  /-- A method of a runtime class taken from the class, called with the receiver first. -/
  | descriptor (cls : String) (name : String)
  /-- `NotImplemented`. -/
  | notImplemented
  /-- `Ellipsis`. -/
  | ellipsis
  /-- An object on the heap. -/
  | ref (addr : Nat)
  deriving Inhabited

/-- A function defined by a program, with the scopes it closes over. -/
structure Function where
  /-- Its name. -/
  name : String
  /-- Its dotted name inside classes and functions. -/
  qualname : String
  /-- Its parameters. -/
  params : Params
  /-- Default values of the positional parameters that have one, in order. -/
  defaults : List Value
  /-- Default values of keyword-only parameters. -/
  kwDefaults : List (String × Value)
  /-- Its body; a lambda's body is one `return` statement. -/
  body : List Stmt
  /-- The scopes it closes over, innermost first; the last is the module's. -/
  scopes : List Nat
  /-- The names its body binds, which are local unless declared global or nonlocal. -/
  localNames : List String
  /-- The names declared global. -/
  globalNames : List String
  /-- The names declared nonlocal. -/
  nonlocalNames : List String
  /-- Whether its body yields. -/
  isGenerator : Bool
  /-- The class whose body defined it, for `super()`. -/
  owner : Option Nat
  /-- Attributes a program gave it, `__doc__` among them once set. -/
  attrs : Array (String × Value) := #[]
  deriving Inhabited

/-- The slots of a set: each a value with its hash, or a hole left by a removal. -/
inductive Slot where
  /-- Never used. -/
  | empty
  /-- Used by a value since removed. -/
  | dummy
  /-- A value and its hash. -/
  | item (hash : Int) (v : Value)
  deriving Inhabited

/-- A set as an open-addressing table: the order of its slots is its order of iteration. -/
structure SetTable where
  /-- The slots; their number is a power of two. -/
  slots : Array Slot := Array.replicate 8 .empty
  /-- Slots holding a value or a hole. -/
  fill : Nat := 0
  /-- Slots holding a value. -/
  used : Nat := 0
  /-- The slot where the next `pop` starts looking. -/
  finger : Nat := 0
  deriving Inhabited

/-- The part of a dictionary that a view or an iterator over it gives. -/
inductive DictPart where
  | keys | values | items
  deriving DecidableEq, Inhabited

/-- The class name of a view of a part of a dictionary. -/
def DictPart.viewName : DictPart → String
  | .keys => "dict_keys"
  | .values => "dict_values"
  | .items => "dict_items"

/-- The class name of an iterator over a part of a dictionary. -/
def DictPart.iteratorName : DictPart → String
  | .keys => "dict_keyiterator"
  | .values => "dict_valueiterator"
  | .items => "dict_itemiterator"

/-- How a block ended before its end: by `break`, `continue`, `return` or an exception. -/
inductive Abrupt where
  /-- `break`. -/
  | brk
  /-- `continue`. -/
  | cont
  /-- `return` with the value. -/
  | ret (v : Value)
  /-- A raised exception. -/
  | raised (exc : Value)
  deriving Inhabited

/-- What remains to run of a paused generator's body at one level of nesting. A paused body is
a stack of these, innermost first. -/
inductive Resume where
  /-- Statements still to run. -/
  | block (rest : List Stmt)
  /-- A `while` loop, tested again once its body has run. -/
  | whileLoop (test : Expr) (body orelse : List Stmt)
  /-- A `for` loop over an iterator, advanced again once its body has run. -/
  | forLoop (target : Expr) (iter : Value) (body orelse : List Stmt)
  /-- The body of a `try` statement runs: its handlers, `else` part and `finally` part. -/
  | guarded (handlers : List Handler) (orelse final : List Stmt)
  /-- A handler runs for an exception, bound to a name or not; the `finally` part follows. -/
  | handling (exc : Value) (name : Option String) (final : List Stmt)
  /-- A `finally` part runs; after it, what interrupted the `try` statement goes on. -/
  | finishing (pending : Option Abrupt)
  /-- The body of a `with` statement runs for a context manager and its `__exit__`. -/
  | managed (manager exit : Value)
  /-- A `yield` waits for the value it gives, to bind it to the targets. -/
  | receive (targets : List Expr)
  /-- A `yield from` takes items from an iterator; what it ends with is bound to the targets. -/
  | delegate (iter : Value) (targets : List Expr)
  deriving Inhabited

/-- Where a generator is in its life. -/
inductive GenState where
  /-- Made and not yet started. -/
  | created
  /-- Paused at a `yield`. -/
  | suspended
  /-- Running now. -/
  | running
  /-- Returned, raised or closed: it gives nothing more. -/
  | closed
  deriving DecidableEq, Inhabited

/-- A generator: the function whose body it runs, the scope of its names and what remains of
its body. -/
structure Generator where
  /-- The function. -/
  fn : Function
  /-- The address of its scope. -/
  locals : Nat
  /-- Its first argument, for `super()`. -/
  selfArg : Option Value
  /-- What remains of its body. -/
  stack : List Resume
  /-- Where it is in its life. -/
  state : GenState
  deriving Inhabited

/-- What an iterator walks through, and how far it is. -/
inductive Walk where
  /-- Fixed items, from a position. -/
  | items (items : Array Value) (pos : Nat)
  /-- The integers from `next` by `step`, before `stop`. -/
  | range (next stop step : Int)
  /-- The items of a list on the heap from a position, as the list is when each is taken. -/
  | list (addr pos : Nat)
  /-- The items of a list on the heap from a position down to the first. -/
  | listBack (addr : Nat) (pos : Int)
  /-- A part of a dictionary from a position, which must keep the size it had. -/
  | dict (addr : Nat) (part : DictPart) (pos size : Nat)
  /-- The values of a set from a slot, which must keep the size it had. -/
  | set (addr pos size : Nat)
  /-- What `__getitem__` gives for 0, 1, 2, … until `IndexError`. -/
  | indexed (obj : Value) (pos : Nat)
  /-- A function of the next items of iterators. -/
  | mapped (f : Value) (iters : List Value)
  /-- The items of an iterator that pass a test. -/
  | filtered (f : Value) (iter : Value)
  /-- Tuples of the next items of iterators; with `strict`, they must end together. -/
  | zipped (iters : List Value) (strict : Bool)
  /-- The items of an iterator with their count. -/
  | enumerated (iter : Value) (count : Int)
  /-- What a function gives when called, until it gives the sentinel. -/
  | calling (f sentinel : Value)
  /-- Nothing more. -/
  | spent
  deriving Inhabited

/-- Objects on the heap. -/
inductive Obj where
  /-- A list. -/
  | list (items : Array Value)
  /-- A dictionary, in the order of insertion of its keys. -/
  | dict (entries : Array (Value × Value))
  /-- A set or, when `frozen`, a frozen set. -/
  | set (table : SetTable) (frozen : Bool)
  /-- An instance of a class with its attributes; an instance of a class derived from a runtime
  type of data (`list`, `dict`, `str`, `tuple`, `int`, …) holds a value of that type, which
  the type's own operations act on: a reference to a list, dictionary or set of its own, or
  an immutable value. -/
  | inst (cls : ClassRef) (attrs : Array (String × Value)) (data : Option Value)
  /-- A class defined by a program: its name, bases, linearized ancestors (itself first),
  attributes and the class it is an instance of. -/
  | userClass (name : String) (bases : List ClassRef) (mro : List ClassRef)
      (attrs : Array (String × Value)) (metaclass : ClassRef)
  /-- A function defined by a program. -/
  | function (fn : Function)
  /-- A function bound to its receiver. -/
  | boundMethod (self : Value) (fn : Value)
  /-- A module with its attributes. -/
  | module (name : String) (attrs : Array (String × Value))
  /-- A scope of names. -/
  | scope (vars : Array (String × Value))
  /-- An iterator; `kind` is the name of its class. -/
  | iterator (kind : String) (walk : Walk)
  /-- A view of a part of the dictionary at an address. -/
  | view (dict : Nat) (part : DictPart)
  /-- A generator. -/
  | generator (gen : Generator)
  /-- `property(getter, setter)`. -/
  | property (getter setter : Value)
  /-- `staticmethod(f)`. -/
  | staticMethod (fn : Value)
  /-- `classmethod(f)`. -/
  | classMethod (fn : Value)
  /-- `super()` inside a method of `cls` with receiver `self`. -/
  | superProxy (cls : ClassRef) (self : Value)
  /-- A byte array: a byte string that changes in place. -/
  | byteArray (bytes : Array UInt8)
  /-- A view of `size` bytes of `source` (a byte string, or a reference to a byte array) from
  `start`; `released` once the view is released. -/
  | memoryView (source : Value) (start size : Nat) (released : Bool)
  deriving Inhabited

/-- How a statement ends. -/
inductive Flow where
  /-- It ran to its end. -/
  | normal
  /-- `break`. -/
  | brk
  /-- `continue`. -/
  | cont
  /-- `return` with the value. -/
  | ret (v : Value)
  deriving Inhabited

/-- What interrupts evaluation. -/
inductive Signal where
  /-- A raised exception. -/
  | raised (exc : Value)
  /-- The fuel ran out. -/
  | exhausted
  deriving Inhabited

/-- The machine. -/
structure Machine where
  /-- The heap of objects. -/
  heap : Array Obj := #[]
  /-- Text written to standard output. -/
  out : String := ""
  /-- The last value shown at the prompt. -/
  shown : Option Value := none
  /-- The depth of calls of functions defined by programs. -/
  depth : Nat := 0
  /-- The frames below the code being run, which count toward the recursion limit. -/
  baseDepth : Nat := 0
  /-- The most frames the stack may hold. -/
  recursionLimit : Nat := 1000
  /-- The most decimal digits an integer's text may have; zero for no limit. -/
  intDigitLimit : Nat := 4300
  /-- The values yielded so far by each generator running, innermost first. -/
  yields : List (Array Value) := []
  /-- The modules imported so far, by name, with their addresses. -/
  modules : List (String × Nat) := []
  /-- The exceptions being handled, innermost first, for a bare `raise`. -/
  handling : List Value := []
  /-- The namespaces of class bodies that a metaclass is making into classes, each with the
  address kept for its class. -/
  classCells : List (Nat × Nat) := []
  /-- The global scope of the code that made the call being run: a class that `type` makes
  without a `__module__` takes the name of that code's module. -/
  callerGlobals : Option Nat := none
  /-- The number of objects on the heap when the block of examples being run started; the
  objects below it belong to the process, not to the block. -/
  blockBase : Nat := 0
  /-- Whether the block being run wrote an object older than itself. -/
  wroteOld : Bool := false
  deriving Inhabited

/-- Evaluation: effects on the machine, and a signal that may interrupt. -/
abbrev Eval := ExceptT Signal (StateM Machine)

/-- What the runtime's operations need from the evaluator: calling a value with positional and
keyword arguments, for methods a program defines, and importing a module, for the types that
bundled modules define. -/
structure Hooks where
  /-- Call a value. -/
  call : Value → List Value → List (String × Value) → Eval Value
  /-- Import a module by its dotted name. -/
  load : String → Eval Value

/-- The object at an address. -/
def getObj (a : Nat) : Eval Obj := do
  return (← get).heap[a]?.getD (.scope #[])

/-- The item of a dictionary entry that a part of the dictionary gives. -/
def DictPart.pick (part : DictPart) (entry : Value × Value) : Value :=
  match part with
  | .keys => entry.1
  | .values => entry.2
  | .items => .tuple [entry.1, entry.2]

/-- The items of a view of a part of the dictionary at an address. -/
def viewItems (d : Nat) (part : DictPart) : Eval (Array Value) := do
  match ← getObj d with
  | .dict entries => return entries.map part.pick
  | _ => return #[]

/-- Replace the object at an address. -/
def setObj (a : Nat) (o : Obj) : Eval Unit :=
  modify fun m => { m with heap := m.heap.setIfInBounds a o,
                           wroteOld := m.wroteOld || decide (a < m.blockBase) }

/-- Change the object at an address in place. -/
def modifyObj (a : Nat) (f : Obj → Obj) : Eval Unit :=
  modify fun m => { m with heap := m.heap.modify a f,
                           wroteOld := m.wroteOld || decide (a < m.blockBase) }

/-- Put a new object on the heap and return its address. -/
def alloc (o : Obj) : Eval Nat := do
  let m ← get
  set { m with heap := m.heap.push o }
  return m.heap.size

/-- Put a new object on the heap and return a reference to it. -/
def allocRef (o : Obj) : Eval Value := return .ref (← alloc o)

/-- Write text to standard output. -/
def emit (s : String) : Eval Unit := modify fun m => { m with out := m.out ++ s }

/-- The value bound to a key in association pairs. -/
def lookupPairs {α : Type} (ps : Array (String × α)) (k : String) : Option α :=
  (ps.find? (·.1 == k)).map (·.2)

/-- Association pairs with `k` bound to `v`: an existing binding changes in place. -/
def setPair {α : Type} (ps : Array (String × α)) (k : String) (v : α) : Array (String × α) :=
  match ps.findIdx? (·.1 == k) with
  | some i => ps.setIfInBounds i (k, v)
  | none => ps.push (k, v)

/-- Association pairs without `k`. -/
def erasePair {α : Type} (ps : Array (String × α)) (k : String) : Array (String × α) :=
  ps.filter (·.1 != k)

/-- A new exception instance of a class with the given arguments. -/
def newException (c : ClassRef) (args : List Value) : Eval Value :=
  allocRef (.inst c #[("args", .tuple args)] none)

/-- Raise a new exception of a runtime class with a message. -/
def throwExc {α : Type} (cls : String) (msg : String) : Eval α := do
  throw (.raised (← newException (.builtin cls) [.str msg]))

/-- Raise a new exception of a runtime class without arguments. -/
def throwBare {α : Type} (cls : String) : Eval α := do
  throw (.raised (← newException (.builtin cls) []))

/-- Raise a new exception of a runtime class with one argument. -/
def throwWith {α : Type} (cls : String) (arg : Value) : Eval α := do
  throw (.raised (← newException (.builtin cls) [arg]))

end StubDoctest.Exec
