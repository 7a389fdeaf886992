import StubDoctest.Exec.Format
import StubDoctest.Source.Yields

/-!
# Frames and the resolution of names

Code runs in a frame: the module's, a function call's, a class body's or a comprehension's.
Each frame has a scope of its own (the module's is its globals) and sees the scopes of the
functions around it.

A function's local names are the names its body binds (assignments, loop and `with`
targets, imports, definitions, handlers' names and patterns' captures) less those it declares
`global` or `nonlocal`; they are found once, when the function is made, without looking into
nested definitions. Reading a local name that is not bound is an `UnboundLocalError`; any other
name is looked for in the enclosing functions' scopes, then the globals, then the builtins. A
class body reads its own scope first, then the globals; the functions defined in it do not see
its scope.
-/

namespace StubDoctest.Exec

open StubDoctest.Source

/-- The kinds of frame. -/
inductive FrameKind where
  | module | function | classBody | comprehension
  deriving DecidableEq, Inhabited

/-- A frame of execution. -/
structure Frame where
  /-- Its kind. -/
  kind : FrameKind
  /-- The address of its scope. -/
  locals : Nat
  /-- The address of the module's scope. -/
  globals : Nat
  /-- The scopes of the enclosing functions, innermost first. -/
  enclosing : List Nat := []
  /-- The names local to a function. -/
  localNames : List String := []
  /-- The names declared global. -/
  globalNames : List String := []
  /-- The names declared nonlocal. -/
  nonlocalNames : List String := []
  /-- How many function or class bodies it is nested in; the prompt shows values at zero. -/
  nest : Nat := 0
  /-- The class whose body defined the running function, for `super()`. -/
  owner : Option Nat := none
  /-- The running function's first argument, for `super()`. -/
  selfArg : Option Value := none
  /-- The prefix of the qualified names of definitions made in it. -/
  qualPrefix : String := ""
  /-- Whether it runs at the prompt, where expression statements show their values. -/
  interactive : Bool := false
  /-- For a comprehension, the scope an assignment expression binds in. -/
  outer : Option Nat := none
  deriving Inhabited

mutual

/-- The names a target binds. -/
def targetNames : Expr → List String
  | .name n => [n]
  | .tuple es => targetNamesList es
  | .list es => targetNamesList es
  | .starred e => targetNames e
  | _ => []

/-- The names targets bind. -/
def targetNamesList : List Expr → List String
  | [] => []
  | e :: es => targetNames e ++ targetNamesList es

end

mutual

/-- The names a pattern captures. -/
def patternNames : Pattern → List String
  | .capture (some n) => [n]
  | .star (some n) => [n]
  | .sequence ps => patternNamesList ps
  | .mapping _ ps rest => patternNamesList ps ++ rest.toList
  | .cls _ ps _ kwPs => patternNamesList ps ++ patternNamesList kwPs
  | .asPat p n => patternNames p ++ [n]
  | .orPat ps => patternNamesList ps
  | _ => []

/-- The names patterns capture. -/
def patternNamesList : List Pattern → List String
  | [] => []
  | p :: ps => patternNames p ++ patternNamesList ps

end

/-- The name an import binds: the alias, or the first part of the dotted name. -/
def Alias.boundName (a : Alias) : String :=
  match a.asName with
  | some n => n
  | none => (a.name.splitOn ".").headD a.name

mutual

/-- The names a statement binds, and the names it declares global and nonlocal. -/
def stmtBinds : Stmt → List String × List String × List String
  | .assign ts _ => (targetNamesList ts, [], [])
  | .augAssign t _ _ => (targetNames t, [], [])
  | .annAssign t _ _ => (targetNames t, [], [])
  | .del ts => (targetNamesList ts, [], [])
  | .global ns => ([], ns, [])
  | .nonlocal ns => ([], [], ns)
  | .importNames as => (as.map Alias.boundName, [], [])
  | .importFrom _ _ as => ((as.filter (·.name != "*")).map Alias.boundName, [], [])
  | .ifElse _ b o => joinBinds (stmtsBinds b) (stmtsBinds o)
  | .while _ b o => joinBinds (stmtsBinds b) (stmtsBinds o)
  | .forIn _ t _ b o => joinBinds (targetNames t, [], []) (joinBinds (stmtsBinds b) (stmtsBinds o))
  | .with _ items b =>
    joinBinds (targetNamesList (items.filterMap (·.2)), [], []) (stmtsBinds b)
  | .tryExcept b hs o f _ =>
    joinBinds (stmtsBinds b) (joinBinds (handlersBinds hs) (joinBinds (stmtsBinds o) (stmtsBinds f)))
  | .funcDef _ n _ _ _ _ _ => ([n], [], [])
  | .classDef n _ _ _ _ => ([n], [], [])
  | .matchCases _ cs => casesBinds cs
  | _ => ([], [], [])

/-- The names statements bind and declare. -/
def stmtsBinds : List Stmt → List String × List String × List String
  | [] => ([], [], [])
  | s :: ss => joinBinds (stmtBinds s) (stmtsBinds ss)

/-- The names handlers bind and declare. -/
def handlersBinds : List Handler → List String × List String × List String
  | [] => ([], [], [])
  | .mk _ n b :: hs => joinBinds (n.toList, [], []) (joinBinds (stmtsBinds b) (handlersBinds hs))

/-- The names cases bind and declare. -/
def casesBinds : List MatchCase → List String × List String × List String
  | [] => ([], [], [])
  | .mk p _ b :: cs => joinBinds (patternNames p, [], []) (joinBinds (stmtsBinds b) (casesBinds cs))

/-- Two findings of names together. -/
def joinBinds (a b : List String × List String × List String) : List String × List String × List String :=
  (a.1 ++ b.1, a.2.1 ++ b.2.1, a.2.2 ++ b.2.2)

end

/-- The names of parameters. -/
def paramNames : Params → List String
  | .mk posOnly regular varArgs kwOnly varKw =>
    (posOnly ++ regular).map (fun | .mk n _ _ => n) ++ (varArgs.toList.map fun | .mk n _ _ => n) ++
      kwOnly.map (fun | .mk n _ _ => n) ++ (varKw.toList.map fun | .mk n _ _ => n)

/-- The local, global and nonlocal names of a function with these parameters and body. -/
def functionNames (ps : Params) (body : List Stmt) : List String × List String × List String :=
  let (bound, globals, nonlocals) := stmtsBinds body
  let locals := (paramNames ps ++ bound).filter fun n => !globals.contains n && !nonlocals.contains n
  (locals.eraseDups, globals.eraseDups, nonlocals.eraseDups)

/-- The builtin functions, by name. -/
def builtinFunctionNames : List String :=
  ["abs", "all", "any", "ascii", "bin", "callable", "chr", "delattr", "dir", "divmod",
    "format", "getattr", "globals", "hasattr", "hash", "hex", "id", "input", "isinstance",
    "issubclass", "iter", "len", "locals", "max", "min", "next", "oct", "ord", "pow", "print",
    "repr", "round", "setattr", "sorted", "sum", "vars", "open", "exec", "eval", "compile",
    "exit", "quit", "help", "breakpoint", "__import__", "__build_class__"]

/-- The value a builtin name is bound to. -/
def builtinValue? (name : String) : Option Value :=
  if builtinFunctionNames.contains name then some (.builtinFn name)
  else if name == "NotImplemented" then some .notImplemented
  else if name == "Ellipsis" then some .ellipsis
  else if name == "__name__" then some (.str "builtins")
  else if name == "__debug__" then some (.bool true)
  else if name == "EnvironmentError" || name == "IOError" then some (.cls (.builtin "OSError"))
  else if isRuntimeClass name && !(name.startsWith "dict_" || name.endsWith "_iterator" ||
      ["NoneType", "function", "builtin_function_or_method", "method_descriptor", "method",
        "module", "generator", "NotImplementedType", "ellipsis", "Quitter"].contains name) then
    some (.cls (.builtin name))
  else none

/-- Whether a dictionary key is the string `name`. -/
def keyIsName (name : String) : Value → Bool
  | .str s => s == name
  | _ => false

/-- The value bound to a name in a scope, or in a dictionary serving as one. -/
def scopeGet (a : Nat) (name : String) : Eval (Option Value) := do
  match ← getObj a with
  | .scope vars => return lookupPairs vars name
  | .dict es => return (es.find? (keyIsName name ·.1)).map (·.2)
  | _ => return none

/-- Bind a name in a scope, or in a dictionary serving as one. -/
def scopeSet (a : Nat) (name : String) (v : Value) : Eval Unit :=
  modifyObj a fun
    | .scope vars => .scope (setPair vars name v)
    | .dict es =>
      match es.findIdx? (keyIsName name ·.1) with
      | some i => .dict (es.setIfInBounds i (.str name, v))
      | none => .dict (es.push (.str name, v))
    | o => o

/-- Remove a name from a scope, or from a dictionary serving as one; whether it was bound. -/
def scopeDel (a : Nat) (name : String) : Eval Bool := do
  match ← getObj a with
  | .scope vars =>
    if (lookupPairs vars name).isSome then
      setObj a (.scope (erasePair vars name))
      return true
    else return false
  | .dict es =>
    if es.any (keyIsName name ·.1) then
      setObj a (.dict (es.filter (!keyIsName name ·.1)))
      return true
    else return false
  | _ => return false

/-- The names of the module of the runtime, in the order it binds them. -/
def builtinsOrder : List String :=
  ["__name__", "__doc__", "__package__", "__loader__", "__spec__", "__build_class__",
    "__import__", "abs", "all", "any", "ascii", "bin", "breakpoint", "callable", "chr",
    "compile", "delattr", "dir", "divmod", "eval", "exec", "format", "getattr", "globals",
    "hasattr", "hash", "hex", "id", "input", "isinstance", "issubclass", "iter", "aiter", "len",
    "locals", "max", "min", "next", "anext", "oct", "ord", "pow", "print", "repr", "round",
    "setattr", "sorted", "sum", "vars", "None", "Ellipsis", "NotImplemented", "False", "True",
    "bool", "memoryview", "bytearray", "bytes", "classmethod", "complex", "dict", "enumerate",
    "filter", "float", "frozenset", "property", "int", "list", "map", "object", "range",
    "reversed", "set", "slice", "staticmethod", "str", "super", "tuple", "type", "zip",
    "__debug__", "BaseException", "BaseExceptionGroup", "Exception", "GeneratorExit",
    "KeyboardInterrupt", "SystemExit", "ArithmeticError", "AssertionError", "AttributeError",
    "BufferError", "EOFError", "ImportError", "LookupError", "MemoryError", "NameError",
    "OSError", "ReferenceError", "RuntimeError", "StopAsyncIteration", "StopIteration",
    "SyntaxError", "SystemError", "TypeError", "ValueError", "Warning", "FloatingPointError",
    "OverflowError", "ZeroDivisionError", "BytesWarning", "DeprecationWarning",
    "EncodingWarning", "FutureWarning", "ImportWarning", "PendingDeprecationWarning",
    "ResourceWarning", "RuntimeWarning", "SyntaxWarning", "UnicodeWarning", "UserWarning",
    "BlockingIOError", "ChildProcessError", "ConnectionError", "FileExistsError",
    "FileNotFoundError", "InterruptedError", "IsADirectoryError", "NotADirectoryError",
    "PermissionError", "ProcessLookupError", "TimeoutError", "IndentationError", "IndexError",
    "KeyError", "ModuleNotFoundError", "NotImplementedError", "RecursionError",
    "UnboundLocalError", "UnicodeError", "BrokenPipeError", "ConnectionAbortedError",
    "ConnectionRefusedError", "ConnectionResetError", "TabError", "UnicodeDecodeError",
    "UnicodeEncodeError", "UnicodeTranslateError", "ExceptionGroup", "EnvironmentError",
    "IOError", "open", "quit", "exit", "copyright", "credits", "license", "help"]

/-- The dictionary of the module of the runtime: each name it binds with its value. -/
def builtinsDict : Eval Value := do
  let entries := builtinsOrder.filterMap fun n =>
    let v := match n with
      | "None" | "__doc__" | "__package__" | "__loader__" | "__spec__" => some Value.none
      | "True" => some (.bool true)
      | "False" => some (.bool false)
      | _ => builtinValue? n
    v.map fun v => (Value.str n, v)
  allocRef (.dict entries.toArray)

/-- A scope for a module run at the prompt, holding `__builtins__`, the dictionary of the
module of the runtime, as running code in a fresh dictionary adds it. -/
def newModuleScope : Eval Nat := do
  alloc (.scope #[("__builtins__", ← builtinsDict)])

/-- What `locals()` gives in a frame: in a function, a new dictionary of its bound local names
in the order the function declares them; elsewhere the scope itself. -/
def localsValue (fr : Frame) : Eval Value := do
  if fr.kind == .function then
    match ← getObj fr.locals with
    | .scope vars =>
      let bound := fr.localNames.filterMap fun n =>
        (lookupPairs vars n).map fun v => (Value.str n, v)
      allocRef (.dict bound.toArray)
    | _ => allocRef (.dict #[])
  else return .ref fr.locals

/-- The fault of a name bound nowhere. -/
def nameFault {α : Type} (name : String) : Eval α :=
  throwExc "NameError" ("name '" ++ name ++ "' is not defined")

/-- The value of a name in the globals or the builtins. -/
def loadGlobal (fr : Frame) (name : String) : Eval Value := do
  match ← scopeGet fr.globals name with
  | some v => return v
  | none =>
    if name == "_" then
      match (← get).shown with
      | some v => return v
      | none => nameFault name
    else
      match builtinValue? name with
      | some v => return v
      | none => nameFault name

/-- The first enclosing scope that binds a name. -/
def findEnclosing (scopes : List Nat) (name : String) : Eval (Option (Nat × Value)) := do
  for s in scopes do
    match ← scopeGet s name with
    | some v => return some (s, v)
    | none => pure ()
  return none

/-- The value of a name read in a frame. -/
def loadName (fr : Frame) (name : String) : Eval Value := do
  match fr.kind with
  | .module => loadGlobal fr name
  | .classBody =>
    match ← scopeGet fr.locals name with
    | some v => return v
    | none =>
      match ← findEnclosing fr.enclosing name with
      | some (_, v) => return v
      | none => loadGlobal fr name
  | _ =>
    if fr.globalNames.contains name then loadGlobal fr name
    else
      match ← scopeGet fr.locals name with
      | some v => return v
      | none =>
        if fr.localNames.contains name && !fr.nonlocalNames.contains name then
          throwExc "UnboundLocalError"
            ("cannot access local variable '" ++ name ++ "' where it is not associated with a value")
        else
          match ← findEnclosing fr.enclosing name with
          | some (_, v) => return v
          | none => loadGlobal fr name

/-- The scope a name is bound in when a frame assigns it. -/
def storeScope (fr : Frame) (name : String) : Eval Nat := do
  if fr.globalNames.contains name then return fr.globals
  else if fr.nonlocalNames.contains name then
    match ← findEnclosing fr.enclosing name with
    | some (s, _) => return s
    | none => return fr.enclosing.headD fr.locals
  else return fr.locals

/-- Bind a name in a frame. -/
def storeName (fr : Frame) (name : String) (v : Value) : Eval Unit := do
  scopeSet (← storeScope fr name) name v

/-- Unbind a name in a frame. -/
def deleteName (fr : Frame) (name : String) : Eval Unit := do
  let s ← storeScope fr name
  if !(← scopeDel s name) then
    if fr.kind == .function && s == fr.locals then
      throwExc "UnboundLocalError"
        ("cannot access local variable '" ++ name ++ "' where it is not associated with a value")
    else nameFault name

end StubDoctest.Exec
