import StubDoctest.Exec.Scope

/-!
# Attributes

Reading an attribute of an instance of a class a program defines looks first for a property
on the class, then in the instance's own attributes, then on the class: a function found there
is bound to the instance, a class method to the class, and a static method is returned as it
is. `__getattr__` is the last resort. A class's attributes come from its linearized ancestors.
The runtime's values have their methods and a few data attributes (`real`, `imag`, `start`,
…); a method of a runtime class read from the class is an unbound descriptor.

Writing an attribute of an instance goes through a property's setter when the class has one,
and otherwise binds it in the instance. Values of the runtime take no attributes.
-/

namespace StubDoctest.Exec

/-- The methods every object has, and the extra ones of exceptions. -/
def objectMethods : List String :=
  ["__init__", "__repr__", "__str__", "__eq__", "__ne__", "__hash__", "__setattr__",
    "__getattribute__", "__delattr__", "__format__", "__dir__", "__init_subclass__",
    "__new__", "__reduce__", "__sizeof__", "__lt__", "__le__", "__gt__", "__ge__"]

/-- The methods of exceptions beyond those of every object. -/
def exceptionMethods : List String := ["with_traceback", "add_note"]

/-- The fault of a missing attribute of an instance. -/
def attrFault {α : Type} (v : Value) (name : String) : Eval α := do
  throwExc "AttributeError" ("'" ++ (← typeName v) ++ "' object has no attribute '" ++ name ++ "'")

/-- The fault of a missing attribute of a class. -/
def classAttrFault {α : Type} (c : ClassRef) (name : String) : Eval α := do
  throwExc "AttributeError" ("type object '" ++ (← classQualname c) ++ "' has no attribute '" ++
    name ++ "'")

/-- The docstring of a body: its first statement when that is a string. -/
def bodyDoc : List StubDoctest.Source.Stmt → Value
  | .expr (.lit (.str s)) :: _ => .str s
  | _ => .none

/-- A value found on a class, bound to the instance it is read through. -/
def bindToInstance (obj : Value) (c : ClassRef) (v : Value) : Eval Value := do
  match v with
  | .ref a =>
    match ← getObj a with
    | .function _ => allocRef (.boundMethod obj v)
    | .staticMethod fn => return fn
    | .classMethod fn => allocRef (.boundMethod (classValue c) fn)
    | _ => return v
  | _ => return v

/-- A value found on a class, read through the class. -/
def bindToClass (c : ClassRef) (v : Value) : Eval Value := do
  match v with
  | .ref a =>
    match ← getObj a with
    | .staticMethod fn => return fn
    | .classMethod fn => allocRef (.boundMethod (classValue c) fn)
    | _ => return v
  | _ => return v

/-- An attribute a program set on a function, as a flag that is false when it is not set. -/
def functionFlag (fn : Value) (name : String) : Eval Value := do
  match fn with
  | .ref b =>
    match ← getObj b with
    | .function f => return (lookupPairs f.attrs name).getD (.bool false)
    | _ => return .bool false
  | _ => return .bool false

/-- The property object a value is, with its getter and setter. -/
def asProperty? (v : Value) : Eval (Option (Value × Value)) := do
  match v with
  | .ref a =>
    match ← getObj a with
    | .property g s => return some (g, s)
    | _ => return none
  | _ => return none

/-- Data attributes of the runtime's immediate values. -/
def dataAttr? (v : Value) (name : String) : Option Value :=
  match v, name with
  | .int n, "real" => some (.int n)
  | .int _, "imag" => some (.int 0)
  | .int n, "numerator" => some (.int n)
  | .int _, "denominator" => some (.int 1)
  | .bool b, "real" => some (.int (if b then 1 else 0))
  | .bool _, "imag" => some (.int 0)
  | .bool b, "numerator" => some (.int (if b then 1 else 0))
  | .bool _, "denominator" => some (.int 1)
  | .float x, "real" => some (.float x)
  | .float _, "imag" => some (.float 0)
  | .complex re _, "real" => some (.float re)
  | .complex _ im, "imag" => some (.float im)
  | .range a _ _, "start" => some (.int a)
  | .range _ b _, "stop" => some (.int b)
  | .range _ _ c, "step" => some (.int c)
  | .slice a _ _, "start" => some a
  | .slice _ b _, "stop" => some b
  | .slice _ _ c, "step" => some c
  | _, _ => none

/-- Whether values of a runtime type of data have a special method that acts as the operation
it stands for. -/
def dataHasDunder (kind name : String) : Bool :=
  let containers := ["str", "bytes", "bytearray", "tuple", "list", "dict", "set", "frozenset"]
  let numbers := ["int", "bool", "float", "complex"]
  let arith (ops : List String) := ops.any fun o => name == "__" ++ o ++ "__" || name == "__r" ++ o ++ "__"
  ["__repr__", "__str__", "__hash__", "__format__", "__init__", "__eq__", "__ne__", "__lt__",
    "__le__", "__gt__", "__ge__"].contains name ||
  (containers.contains kind && ["__len__", "__iter__", "__contains__"].contains name) ||
  (["str", "bytes", "bytearray", "tuple", "list", "dict"].contains kind && name == "__getitem__") ||
  (["list", "dict", "bytearray"].contains kind && (name == "__setitem__" || name == "__delitem__")) ||
  (numbers.contains kind && (name == "__bool__" ||
    arith ["add", "sub", "mul", "truediv", "floordiv", "mod", "pow"])) ||
  ((kind == "int" || kind == "bool") && arith ["lshift", "rshift", "and", "or", "xor"]) ||
  (["str", "bytes", "bytearray", "tuple", "list"].contains kind && arith ["add", "mul"]) ||
  ((kind == "str" || kind == "bytes") && arith ["mod"]) ||
  ((kind == "set" || kind == "frozenset") && arith ["or", "and", "sub", "xor"]) ||
  (kind == "dict" && arith ["or"])

/-- An attribute of the value of a runtime type an instance holds: a data attribute, or a method
of the type bound to the value. -/
def heldAttr? (d : Value) (name : String) : Eval (Option Value) := do
  if let some v := dataAttr? d name then return some v
  let kind ← typeName d
  if (runtimeMethods kind).contains name || dataHasDunder kind name then
    return some (.method d name)
  return none

/-- The attributes a class of the runtime gives when read from the class. -/
def runtimeClassAttr? (n : String) (name : String) : Option Value :=
  if name == "__name__" || name == "__qualname__" then some (.str n)
  else if name == "__module__" then some (.str "builtins")
  else if n == "dict" && name == "fromkeys" then some (.method (.cls (.builtin "dict")) "fromkeys")
  else if n == "str" && name == "maketrans" then some (.method (.cls (.builtin "str")) "maketrans")
  else if n == "int" && name == "from_bytes" then some (.method (.cls (.builtin "int")) "from_bytes")
  else if n == "float" && name == "fromhex" then some (.method (.cls (.builtin "float")) "fromhex")
  else if (n == "bytes" || n == "bytearray") && (name == "fromhex" || name == "maketrans") then
    some (.method (.cls (.builtin n)) name)
  else if n == "type" && name == "__new__" then some (.builtinFn "type.__new__")
  else if isMutableData n && name == "__hash__" then some .none
  else if dataTypes.contains n && name == "__new__" then some (.builtinFn (n ++ ".__new__"))
  else if (runtimeMethods n).contains name || dataHasDunder n name then some (.descriptor n name)
  else if objectMethods.contains name then some (.descriptor n name)
  else none

/-- The names a `__slots__` value declares: one name, or the names in a tuple, list or
dictionary. -/
def slotNames (v : Value) : Eval (List String) := do
  let names (xs : List Value) : List String := xs.filterMap fun
    | .str s => some s
    | _ => none
  match v with
  | .str s => return [s]
  | .tuple xs => return names xs
  | .ref a =>
    match ← getObj a with
    | .list xs => return names xs.toList
    | .dict es => return names (es.toList.map (·.1))
    | _ => return []
  | _ => return []

/-- The only attributes instances of a class may have, when every class it descends from
declares slots and none of them gives instances a dictionary. -/
def instanceSlots (c : ClassRef) : Eval (Option (List String)) := do
  let mut names : List String := []
  for k in ← classMro c do
    match k with
    | .builtin k =>
      -- values of the runtime's types of data keep no attributes of their own
      if k != "object" && !dataTypes.contains k then return none
    | .user b =>
      match ← getObj b with
      | .userClass _ _ _ attrs _ =>
        match lookupPairs attrs "__slots__" with
        | some sv => names := names ++ (← slotNames sv)
        | none => return none
      | _ => return none
  if names.contains "__dict__" then return none
  return some names

/-- The attribute `name` of a value. -/
def getAttr (h : Hooks) (obj : Value) (name : String) : Eval Value := do
  if name == "__class__" then return classValue (← typeOf obj)
  match obj with
  | .ref a =>
    match ← getObj a with
    | .inst c attrs data =>
      let found ← findInMro c name
      if let some (_, v) := found then
        if let some (g, _) ← asProperty? v then
          if let .none := g then
            throwExc "AttributeError" ("property '" ++ name ++ "' of '" ++ (← classQualname c) ++
              "' object has no getter")
          return ← h.call g [obj] []
        -- a descriptor that also sets or deletes comes before the instance's own attributes
        if let some getter ← lookupSpecial v "__get__" then
          if (← lookupSpecial v "__set__").isSome || (← lookupSpecial v "__delete__").isSome then
            return ← h.call getter [v, obj, classValue c] []
      match lookupPairs attrs name with
      | some v => return v
      | none =>
        match found with
        | some (_, v) =>
          match ← lookupSpecial v "__get__" with
          | some getter => h.call getter [v, obj, classValue c] []
          | none => bindToInstance obj c v
        | none =>
          if let some d := data then
            if let some v ← heldAttr? d name then return v
          let isExc ← isExceptionClass c
          if name == "__dict__" then
            if (← instanceSlots c).isSome then attrFault obj name
            let fam ← excFamily c
            let fields := if isExc then "args" :: fam.fieldNames else ["args"]
            return ← allocRef (.dict (attrs.filter (!fields.contains ·.1) |>.map fun (k, v) =>
              (.str k, v)))
          if name == "__doc__" then return .none
          if name == "__module__" then return .str "builtins"
          if isExc then
            if let some v ← exceptionField? c attrs name then return v
          if isExc && (name == "__traceback__" || name == "__cause__" || name == "__context__") then
            return .none
          if isExc && name == "__suppress_context__" then return .bool false
          if objectMethods.contains name || (isExc && exceptionMethods.contains name) then
            return .method obj name
          match ← findInMro c "__getattr__" with
          | some (_, fn) => h.call fn [obj, .str name] []
          | none => attrFault obj name
    | .userClass n bases mro attrs metaclass =>
      let c := ClassRef.user a
      match name with
      | "__name__" => return .str n
      | "__mro__" => return .tuple (mro.map classValue)
      | "__bases__" => return .tuple (bases.map classValue)
      | "__dict__" => allocRef (.dict (attrs.map fun (k, v) => (.str k, v)))
      | "__subclasses__" => return .method obj name
      | "__module__" =>
        -- a class's own module only, `type` called where no module is named setting none;
        -- a metaclass a program defined has a `__module__` of its own that hides this rule
        match lookupPairs attrs name with
        | some v => return v
        | none =>
          if let .user m := metaclass then
            if let some (_, mv) ← findInMro (.user m) name then
              match ← findInMro c name with
              | some (_, v) => return v
              | none => return mv
          throwExc "AttributeError" "__module__"
      | "__annotations__" =>
        -- a class's own annotations, made empty when it has none
        match lookupPairs attrs name with
        | some v => return v
        | none =>
          let d ← allocRef (.dict #[])
          setObj a (.userClass n bases mro (setPair attrs name d) metaclass)
          return d
      | _ =>
        match ← findInMro c name with
        | some (_, v) =>
          match ← lookupSpecial v "__get__" with
          | some getter => h.call getter [v, .none, classValue c] []
          | none => bindToClass c v
        | none =>
          if let .user m := metaclass then
            if let some (_, v) ← findInMro (.user m) name then
              return ← bindToInstance (.ref a) (.user m) v
          if name == "__doc__" then return .none
          -- The runtime ancestors' methods, as descriptors.
          let runtimeAncestor := mro.findSome? fun
            | .builtin k => if k != "object" then some k else none
            | .user _ => none
          match runtimeAncestor.bind (runtimeClassAttr? · name) with
          | some v => return v
          | none =>
            if objectMethods.contains name then return .descriptor "object" name
            classAttrFault c name
    | .function fn =>
      match lookupPairs fn.attrs name with
      | some v => return v
      | none =>
        match name with
        | "__annotations__" =>
          let d ← allocRef (.dict #[])
          setObj a (.function { fn with attrs := setPair fn.attrs name d })
          return d
        | "__name__" => return .str fn.name
        | "__qualname__" => return .str fn.qualname
        | "__doc__" => return bodyDoc fn.body
        | "__module__" =>
          -- the name of the module the function was defined in, if its globals name one
          match fn.scopes.getLast? with
          | some g =>
            match ← getObj g with
            | .scope vars => return (lookupPairs vars "__name__").getD .none
            | .dict es =>
              return ((es.find? fun (k, _) => match k with
                | .str s => s == "__name__"
                | _ => false).map (·.2)).getD .none
            | _ => return .none
          | none => return .none
        | "__globals__" =>
          match fn.scopes.getLast? with
          | some g => return .ref g
          | none => allocRef (.dict #[])
        | "__defaults__" => return if fn.defaults.isEmpty then .none else .tuple fn.defaults
        | "__kwdefaults__" =>
          if fn.kwDefaults.isEmpty then return .none
          allocRef (.dict (fn.kwDefaults.map fun (k, v) => (Value.str k, v)).toArray)
        | "__dict__" =>
          allocRef (.dict ((fn.attrs.filter fun (k, _) => k != "__doc__" && k != "__annotations__").map
            fun (k, v) => (.str k, v)))
        | _ => attrFault obj name
    | .boundMethod self fn =>
      match name with
      | "__self__" => return self
      | "__func__" => return fn
      | _ =>
        match fn with
        | .ref b =>
          match ← getObj b with
          | .function f =>
            match name with
            | "__name__" => return .str f.name
            | "__qualname__" => return .str f.qualname
            | "__doc__" => return bodyDoc f.body
            | _ => attrFault obj name
          | _ => attrFault obj name
        | _ => attrFault obj name
    | .module n attrs =>
      match lookupPairs attrs name with
      | some v => return v
      | none =>
        if name == "__name__" then return .str n
        throwExc "AttributeError" ("module '" ++ n ++ "' has no attribute '" ++ name ++ "'")
    | .property g s =>
      match name with
      | "fget" => return g
      | "fset" => return s
      | "setter" | "getter" | "deleter" => return .method obj name
      | "__isabstractmethod__" => functionFlag g name
      | "__doc__" =>
        match g with
        | .ref b =>
          match ← getObj b with
          | .function f => return bodyDoc f.body
          | _ => return .none
        | _ => return .none
      | _ => attrFault obj name
    | .staticMethod fn | .classMethod fn =>
      if name == "__func__" || name == "__wrapped__" then return fn
      else if name == "__isabstractmethod__" then functionFlag fn name
      else attrFault obj name
    | .superProxy c self =>
      -- a class below `c` is looked through as a class; anything else as an instance
      let selfAsClass ← match ← classOfValue? self with
        | some k => do if ← isSubclass k c then pure (some k) else pure none
        | none => pure none
      let selfClass ← match selfAsClass with
        | some k => pure k
        | none => typeOf self
      let mro ← classMro selfClass
      let after := (mro.dropWhile (· != c)).drop 1
      let mut result : Option Value := none
      for k in after do
        if result.isNone then
          match k with
          | .user b =>
            match ← getObj b with
            | .userClass _ _ _ attrs _ =>
              match lookupPairs attrs name with
              | some v =>
                result := some (← match selfAsClass with
                  | some k' => bindToClass k' v
                  | none => bindToInstance self selfClass v)
              | none => pure ()
            | _ => pure ()
          | .builtin k =>
            -- a runtime type of data acts on the value an instance holds
            if dataTypes.contains k then
              if name == "__new__" then result := some (.builtinFn (k ++ ".__new__"))
              else if selfAsClass.isNone then
                if let some d ← dataOf? self then
                  if let some v ← heldAttr? d name then result := some v
      match result with
      | some v => return v
      | none =>
        if after.contains (.builtin "type") && selfAsClass.isNone then
          match name with
          | "__new__" => return .builtinFn "type.__new__"
          | "__call__" => return ← allocRef (.boundMethod self (.builtinFn "type.__call__"))
          | "__init__" => return ← allocRef (.boundMethod self (.builtinFn "type.__init__"))
          | _ => pure ()
        if after.contains (.builtin "type") && name == "__new__" then
          return .builtinFn "type.__new__"
        if objectMethods.contains name then
          match selfAsClass with
          | some _ =>
            -- `__init_subclass__` is a class method: it stays bound to the class
            if name == "__init_subclass__" then return .method self name
            return .descriptor "object" name
          | none => return .method self name
        else throwExc "AttributeError" ("'super' object has no attribute '" ++ name ++ "'")
    | o =>
      let kind ← typeName obj
      if (runtimeMethods kind).contains name then return .method obj name
      match o with
      | .dict _ => if name == "__len__" || name == "__getitem__" || name == "__contains__" then
          return .method obj name else pure ()
      | .list _ => if name == "__len__" || name == "__getitem__" || name == "__contains__" then
          return .method obj name else pure ()
      | .iterator _ _ => if name == "__next__" || name == "__iter__" then
          return .method obj name else pure ()
      | .generator g =>
        if ["__next__", "__iter__", "send", "throw", "close"].contains name then
          return .method obj name
        else if name == "__name__" then return .str g.fn.name
        else if name == "__qualname__" then return .str g.fn.qualname
        else if name == "gi_running" then return .bool (g.state == .running)
        else if name == "gi_suspended" then return .bool (g.state == .suspended)
        else if name == "gi_yieldfrom" then
          match g.stack with
          | .delegate it _ :: _ => return it
          | _ => return .none
        else pure ()
      | .view _ part =>
        if name == "__len__" || name == "__iter__" || name == "__contains__" ||
            (part == .keys && ["isdisjoint", "__reversed__"].contains name) then
          return .method obj name
        else pure ()
      | .byteArray _ =>
        if ["__len__", "__getitem__", "__setitem__", "__delitem__", "__contains__"].contains name then
          return .method obj name
      | .memoryView src _ size released =>
        if released then throwExc "ValueError" "operation forbidden on released memoryview object"
        match name with
        | "obj" => return src
        | "nbytes" => return .int size
        | "readonly" => return .bool (src matches .bytes _)
        | "itemsize" => return .int 1
        | "format" => return .str "B"
        | "ndim" => return .int 1
        | "shape" => return .tuple [.int size]
        | "strides" => return .tuple [.int 1]
        | "suboffsets" => return .tuple []
        | "c_contiguous" | "f_contiguous" | "contiguous" => return .bool true
        | "__len__" | "__getitem__" => return .method obj name
        | _ => pure ()
      | _ => pure ()
      attrFault obj name
  | .cls (.builtin n) =>
    if name == "__subclasses__" then return .method obj name
    match runtimeClassAttr? n name with
    | some v => return v
    | none =>
      if name == "__mro__" then
        return .tuple ((← classMro (.builtin n)).map .cls)
      if name == "__doc__" then return .none
      classAttrFault (.builtin n) name
  | .cls (.user a) => getAttr h (.ref a) name
  | .builtinFn n =>
    if name == "__name__" || name == "__qualname__" then return .str n
    else if name == "__module__" then return .str "builtins"
    else attrFault obj name
  | .method self n =>
    if name == "__name__" then return .str n
    else if name == "__self__" then return self
    else attrFault obj name
  | _ =>
    match dataAttr? obj name with
    | some v => return v
    | none =>
      let kind ← typeName obj
      if (runtimeMethods kind).contains name then return .method obj name
      if name == "__doc__" then return .none
      if objectMethods.contains name || name == "__len__" || name == "__getitem__" ||
          name == "__add__" || name == "__mul__" || name == "__contains__" then
        return .method obj name
      attrFault obj name

/-- The attribute `name` of a value, or `none` when reading it raises `AttributeError`. -/
def attrIfAny (h : Hooks) (obj : Value) (name : String) : Eval (Option Value) := do
  tryCatch (some <$> getAttr h obj name) fun e => do
    match e with
    | .raised x => if ← excIs x "AttributeError" then return none else throw e
    | _ => throw e

/-- Bind the attribute `name` of a value. -/
def setAttr (h : Hooks) (obj : Value) (name : String) (v : Value) : Eval Unit := do
  match obj with
  | .ref a =>
    match ← getObj a with
    | .inst c attrs data =>
      match ← findInMro c name with
      | some (_, p) =>
        match ← asProperty? p with
        | some (_, setter) =>
          match setter with
          | .none =>
            throwExc "AttributeError" ("property '" ++ name ++ "' of '" ++ (← classQualname c) ++
              "' object has no setter")
          | _ => discard <| h.call setter [obj, v] []
        | none =>
          if let some setter ← lookupSpecial p "__set__" then
            discard <| h.call setter [p, obj, v] []
            return
          if let some slots ← instanceSlots c then
            if !slots.contains name then
              throwExc "AttributeError" ("'" ++ (← classQualname c) ++ "' object attribute '" ++
                name ++ "' is read-only")
          setObj a (.inst c (setPair attrs name v) data)
      | none =>
        match ← findInMro c "__setattr__" with
        | some (_, fn) => discard <| h.call fn [obj, .str name, v] []
        | none =>
          if let some slots ← instanceSlots c then
            if !slots.contains name then attrFault obj name
          setObj a (.inst c (setPair attrs name v) data)
    | .userClass n bases mro attrs metaclass =>
      match name, v with
      | "__name__", .str s => setObj a (.userClass s bases mro attrs metaclass)
      | "__name__", _ =>
        throwExc "TypeError" ("can only assign string to " ++ n ++ ".__name__, not '" ++
          (← typeName v) ++ "'")
      | _, _ => setObj a (.userClass n bases mro (setPair attrs name v) metaclass)
    | .module n attrs => setObj a (.module n (setPair attrs name v))
    | .function fn =>
      match name, v with
      | "__name__", .str s => setObj a (.function { fn with name := s })
      | "__qualname__", .str s => setObj a (.function { fn with qualname := s })
      | "__name__", _ | "__qualname__", _ =>
        throwExc "TypeError" (name ++ " must be set to a string object")
      | "__defaults__", .tuple ds => setObj a (.function { fn with defaults := ds })
      | "__defaults__", .none => setObj a (.function { fn with defaults := [] })
      | "__defaults__", _ => throwExc "TypeError" "__defaults__ must be set to a tuple object"
      | _, _ => setObj a (.function { fn with attrs := setPair fn.attrs name v })
    | _ => attrFault obj name
  | .cls (.builtin n) =>
    throwExc "TypeError" ("cannot set '" ++ name ++ "' attribute of immutable type '" ++ n ++ "'")
  | .cls (.user a) => setAttr h (.ref a) name v
  | _ =>
    if (dataAttr? obj name).isSome then
      throwExc "AttributeError" ("attribute '" ++ name ++ "' of '" ++ (← typeName obj) ++
        "' objects is not writable")
    else attrFault obj name

/-- Unbind the attribute `name` of a value the way `object.__delattr__` does. -/
def plainDelAttr (h : Hooks) (obj : Value) (name : String) : Eval Unit := do
  match obj with
  | .ref a =>
    match ← getObj a with
    | .inst c attrs data =>
      if let some (_, p) ← findInMro c name then
        if let some deleter ← lookupSpecial p "__delete__" then
          discard <| h.call deleter [p, obj] []
          return
      if (lookupPairs attrs name).isSome then setObj a (.inst c (erasePair attrs name) data)
      else attrFault obj name
    | .userClass n bases mro attrs metaclass =>
      if (lookupPairs attrs name).isSome then
        setObj a (.userClass n bases mro (erasePair attrs name) metaclass)
      else classAttrFault (.user a) name
    | .module n attrs =>
      if (lookupPairs attrs name).isSome then setObj a (.module n (erasePair attrs name))
      else throwExc "AttributeError" ("module '" ++ n ++ "' has no attribute '" ++ name ++ "'")
    | _ => attrFault obj name
  | _ => attrFault obj name

/-- Unbind the attribute `name` of a value, through the class's own `__delattr__` when it
defines one. -/
def delAttr (h : Hooks) (obj : Value) (name : String) : Eval Unit := do
  if let .ref a := obj then
    if let .inst c _ _ ← getObj a then
      if let some (_, fn) ← findInMro c "__delattr__" then
        discard <| h.call fn [obj, .str name] []
        return
  plainDelAttr h obj name

end StubDoctest.Exec
