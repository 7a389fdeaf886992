import StubDoctest.Exec.Modules
import StubDoctest.Source.Parser.Stmt
import StubDoctest.Source.Check
import StubDoctest.Bundled.Table
import StubDoctest.Source.Unparse

/-!
# Running programs

Expressions evaluate and statements run in a frame, with a fuel argument that every nested
step consumes, so that each function here is total. Calls of functions a program defines bind
their arguments in a new scope and count towards the recursion limit; a function whose body
yields runs to its end at the call and gives an iterator over what it yielded.

Classes are made in two steps: the class object is put on the heap first, so that the
functions of its body know it for `super()`; its attributes are the scope its body ran in.

At the prompt, an expression statement shows the display form of its value (unless `None`)
and binds it to `_`.
-/

namespace StubDoctest.Exec

open StubDoctest.Source

/-- Whether one more call would pass the recursion limit: the frames of the calls of functions
a program defines, over the frames below the code being run. -/
def stackFull : Eval Bool := do
  let m ← get
  return m.depth + m.baseDepth ≥ m.recursionLimit

/-- The most times a loop runs its body. -/
def loopLimit : Nat := 10000000

/-- The value of a literal. -/
def literalValue : Literal → Value
  | .none => .none
  | .bool b => .bool b
  | .ellipsis => .ellipsis
  | .int n => .int n
  | .float x => .float x
  | .imag x => .complex 0 x
  | .str s => .str s
  | .bytes bs => .bytes bs

/-- Whether an expression is a constant after folding: a literal, a sign on a number, or a
tuple of constants. -/
def isConstantExpr : Nat → Expr → Bool
  | 0, _ => false
  | _ + 1, .lit _ => true
  | _ + 1, .unary .neg (.lit (.int _)) => true
  | _ + 1, .unary .neg (.lit (.float _)) => true
  | _ + 1, .unary .neg (.lit (.imag _)) => true
  | _ + 1, .unary .pos (.lit (.int _)) => true
  | d + 1, .tuple es => es.all (isConstantExpr d)
  | _ + 1, _ => false

/-- The outcome of an evaluation, kept instead of raised. -/
def observe {α : Type} (act : Eval α) : Eval (Except Signal α) :=
  tryCatch (Except.ok <$> act) fun s => pure (.error s)

/-- A comparison of two values. -/
def compareOp (h : Hooks) (fuel : Nat) (op : CmpOp) (a b : Value) : Eval Bool := do
  match op with
  | .eq | .ne => truthy h (← richCompare h fuel op a b)
  | .is => return isSame a b
  | .isNot => return !isSame a b
  | .isIn => containsItem h fuel b a
  | .notIn => return !(← containsItem h fuel b a)
  | _ => orderValues h fuel op a b

/-- The value of a comparison operator: a rich comparison's own value, or whether identity or
membership holds. -/
def compareValue (h : Hooks) (fuel : Nat) (op : CmpOp) (a b : Value) : Eval Value := do
  match op with
  | .eq | .ne | .lt | .le | .gt | .ge => richCompare h fuel op a b
  | _ => return .bool (← compareOp h fuel op a b)

/-- The scopes a function defined in a frame closes over, innermost first, the module's last. -/
def scopeChain (fr : Frame) : List Nat :=
  match fr.kind with
  | .module => [fr.globals]
  | .classBody => fr.enclosing ++ [fr.globals]
  | _ => fr.locals :: fr.enclosing ++ [fr.globals]

/-- A special method of a context manager: what its class binds, or a memory view's own, which
releases the view on exit. -/
def contextSpecial (ctx : Value) (name : String) : Eval (Option Value) := do
  if let some fn ← lookupSpecial ctx name then return some fn
  if (← typeName ctx) == "memoryview" then return some (.method ctx name)
  return none

/-- Whether an exception matches the class or classes of a handler. -/
def handlerMatches (e : Value) (t : Value) : Eval Bool := do
  let one (c : Value) : Eval Bool := do
    match ← classOfValue? c with
    | some k =>
      if !(← isExceptionClass k) then
        throwExc "TypeError" "catching classes that do not inherit from BaseException is not allowed"
      isInstance e k
    | none => throwExc "TypeError" "catching classes that do not inherit from BaseException is not allowed"
  match t with
  | .tuple items =>
    for c in items do
      if ← one c then return true
    return false
  | _ => one t

/-- The display form of an exception's class, with its module unless that is `builtins`. -/
def exceptionTypeName (c : ClassRef) : Eval String := do
  let q ← classQualname c
  match c with
  | .builtin _ => return q
  | .user a =>
    match ← getObj a with
    | .userClass _ _ _ attrs _ =>
      match lookupPairs attrs "__module__" with
      | some (.str m) => return if m == "builtins" || m == "__main__" then q else m ++ "." ++ q
      | _ => return q
    | _ => return q

/-- The body of a comprehension: one value, or a key and a value. -/
inductive CompBody where
  | one (e : Expr)
  | pair (k v : Expr)

/-- Whether a target is starred. -/
def Expr.isStarredTarget : Expr → Bool
  | .starred _ => true
  | _ => false

/-- The names the targets of comprehension clauses bind. -/
def compTargets : List CompFor → List String
  | [] => []
  | .mk _ t _ _ :: rest => targetNames t ++ compTargets rest

/-- The runtime classes whose instances a single positional class sub-pattern matches whole. -/
def selfMatchingClasses : List String :=
  ["bool", "bytearray", "bytes", "dict", "float", "frozenset", "int", "list", "set", "str", "tuple"]

/-- Push a value onto the values the innermost running generator yielded. -/
def pushYield (v : Value) : Eval Unit :=
  modify fun m => { m with yields := match m.yields with
    | y :: ys => y.push v :: ys
    | [] => [] }

/-- The abrupt end a statement's flow stands for, if it is not normal. -/
def Abrupt.ofFlow : Flow → Option Abrupt
  | .normal => none
  | .brk => some .brk
  | .cont => some .cont
  | .ret v => some (.ret v)

/-- What a generator is resumed with: a value sent in, or an exception thrown in. -/
inductive Resumption where
  | send (v : Value)
  | throwIn (e : Value)

/-- What running a generator's body up to its next pause gave. -/
inductive GenOutcome where
  /-- It yielded a value and waits with what remains. -/
  | yielded (v : Value) (stack : List Resume)
  /-- It returned a value. -/
  | returned (v : Value)

/-- One step of a generator's body: a value yielded, or what remains with how the innermost
part ended if it ended early. -/
inductive GenStep where
  | yielded (v : Value) (stack : List Resume)
  | next (stack : List Resume) (ab : Option Abrupt)

/-- A step that raised, turned into what remains with the exception. -/
def catchRaised (act : Eval GenStep) (rest : List Resume) : Eval GenStep :=
  tryCatch act fun
    | .raised e => pure (.next rest (some (.raised e)))
    | s => throw s

/-- Record the exception being handled as the context of an exception raised while it is
handled, unless the raised one has a context already or is that very exception. -/
def chainContext (e : Value) : Eval Unit := do
  match (← get).handling, e with
  | cur :: _, .ref a =>
    if isSame cur e then return
    match ← getObj a with
    | .inst k attrs data =>
      if (lookupPairs attrs "__context__").isNone then
        setObj a (.inst k (setPair attrs "__context__" cur) data)
    | _ => pure ()
  | _, _ => pure ()

/-- The exceptions the handlers of a paused body are handling, innermost first. -/
def handlingOf (stack : List Resume) : List Value :=
  stack.filterMap fun
    | .handling e _ _ => some e
    | _ => none

/-- The frame a function's body runs in, with its scope and first argument. -/
def functionFrame (fn : Function) (loc : Nat) (selfArg : Option Value) : Frame := {
  kind := .function, locals := loc, globals := fn.scopes.getLastD 0,
  enclosing := fn.scopes.dropLast, localNames := fn.localNames,
  globalNames := fn.globalNames, nonlocalNames := fn.nonlocalNames, nest := 1,
  owner := fn.owner, selfArg := selfArg, qualPrefix := fn.qualname ++ ".<locals>." }

/-- The body of the generator a generator expression makes: a loop over its first iterator,
bound to `.0`, with the other clauses nested inside and a `yield` of the element innermost. -/
def genexpBody (target : Expr) (conds : List Expr) (rest : List CompFor) (elt : Expr) :
    List Stmt :=
  [.forIn false target (.name ".0") (guardedBy conds (inner rest)) []]
where
  guardedBy : List Expr → List Stmt → List Stmt
    | [], body => body
    | c :: cs, body => [.ifElse c (guardedBy cs body) []]
  inner : List CompFor → List Stmt
    | [] => [.expr (.yield (some elt))]
    | .mk _ t i cs :: more => [.forIn false t i (guardedBy cs (inner more)) []]

/-- The value a `StopIteration` carries: its first argument, or `None`. -/
def stopValue (e : Value) : Eval Value := do
  match e with
  | .ref a =>
    match ← getObj a with
    | .inst _ attrs _ =>
      match lookupPairs attrs "args" with
      | some (.tuple (v :: _)) => return v
      | _ => return .none
    | _ => return .none
  | _ => return .none

/-- Set an attribute of an exception instance. -/
def setExcAttr (e : Value) (name : String) (v : Value) : Eval Unit := do
  match e with
  | .ref a =>
    match ← getObj a with
    | .inst k attrs data => setObj a (.inst k (setPair attrs name v) data)
    | _ => pure ()
  | _ => pure ()

/-- The parameters' default expressions: those of the positional ones, then the keyword-only
ones with their names. -/
def paramDefaults (ps : Params) : List Expr × List (String × Expr) :=
  let .mk posOnly regular _ kwOnly _ := ps
  ((posOnly ++ regular).filterMap fun | .mk _ _ d => d,
    kwOnly.filterMap fun | .mk n _ d => d.map (n, ·))

/-- The metaclass of a new class: the given one or the most derived of its bases' classes;
they must all be ancestors of one of them. -/
def winningMeta (metaclass : ClassRef) (bases : List ClassRef) : Eval ClassRef := do
  let mut winner := metaclass
  for b in bases do
    let bm ← typeOf (classValue b)
    if ← isSubclass winner bm then pure ()
    else if ← isSubclass bm winner then winner := bm
    else
      throwExc "TypeError" ("metaclass conflict: the metaclass of a derived class must be a " ++
        "(non-strict) subclass of the metaclasses of all its bases")
  return winner

/-- Source code run by `eval` or `exec`: an expression or a block of statements. -/
inductive SourceCode where
  /-- An expression, for `eval`. -/
  | expr (e : Expr)
  /-- Statements, for `exec`. -/
  | block (stmts : List Stmt)

/-- The syntax error of source code run by `eval` or `exec`. -/
def sourceFault {α : Type} (cls msg : String) (line : Nat) : Eval α := do
  let e ← makeException (.builtin cls)
    [.str msg, .tuple [.str "<string>", .int line, .none, .none]] []
  throw (.raised e)

/-- Whether a value can serve as the globals of code: a dictionary or a module's scope. -/
def isNamespace (v : Value) : Eval (Option Nat) := do
  match v with
  | .ref a =>
    match ← getObj a with
    | .dict _ | .scope _ => return some a
    | _ => return none
  | _ => return none

/-- The source of `eval` or `exec` parsed, with the frame it runs in: the given globals, which
gain `__builtins__`, and locals; or those of the calling frame, where in a function the locals
are a snapshot, so that the code cannot rebind the function's own names. -/
def sourceFrame (fr : Frame) (what : String) (args : List Value) (kw : List (String × Value)) :
    Eval (Frame × SourceCode) := do
  if !kw.isEmpty then throwExc "TypeError" (what ++ "() takes no keyword arguments")
  let (src, gv, lv) ← match args with
    | [] => throwExc "TypeError" (what ++ " expected at least 1 argument, got 0")
    | [s] => pure (s, Value.none, Value.none)
    | [s, g] => pure (s, g, Value.none)
    | [s, g, l] => pure (s, g, l)
    | _ => throwExc "TypeError" (what ++ " expected at most 3 arguments, got " ++
        toString args.length)
  let text ← match src with
    | .str s => pure s
    | .bytes bs =>
      match decodeUtf8 bs with
      | some s => pure s
      | none => sourceFault "SyntaxError" "(unicode error) invalid utf-8" 1
    | _ => throwExc "TypeError" (what ++ "() arg 1 must be a string, bytes or code object")
  let g ← match gv with
    | .none => pure none
    | _ =>
      match ← isNamespace gv with
      | some a => pure (some a)
      | none =>
        if what == "eval" then throwExc "TypeError" "globals must be a dict"
        else throwExc "TypeError" ("exec() globals must be a dict, not " ++ (← typeName gv))
  let l ← match lv with
    | .none => pure none
    | _ =>
      match ← isNamespace lv with
      | some a => pure (some a)
      | none =>
        if what == "eval" then throwExc "TypeError" "locals must be a mapping"
        else throwExc "TypeError" ("locals must be a mapping or None, not " ++ (← typeName lv))
  if let some a := g then
    if (← scopeGet a "__builtins__").isNone then scopeSet a "__builtins__" (← builtinsDict)
  let frame : Frame ← match g, l with
    | none, none =>
      if fr.kind == .function then
        match ← localsValue fr with
        | .ref snap => pure { kind := .classBody, locals := snap, globals := fr.globals }
        | _ => pure { kind := .module, locals := fr.globals, globals := fr.globals }
      else
        let enclosing := if fr.kind == .classBody then [] else fr.enclosing
        pure { kind := fr.kind, locals := fr.locals, globals := fr.globals, enclosing := enclosing }
    | some a, none => pure { kind := .module, locals := a, globals := a }
    | none, some b => pure { kind := .classBody, locals := b, globals := fr.globals }
    | some a, some b =>
      pure { kind := if a == b then .module else .classBody, locals := b, globals := a }
  let text := if what == "eval" then String.ofList (text.toList.dropWhile (fun c => c == ' ' || c == '\t'))
    else text
  match StubDoctest.Source.parseModule text.toList with
  | .error f => sourceFault f.kind.className f.message f.line
  | .ok stmts =>
    if what == "eval" then
      match stmts with
      | [.expr e] => return (frame, .expr e)
      | _ => sourceFault "SyntaxError" "invalid syntax" 1
    else
      match StubDoctest.Source.compileFault stmts with
      | some msg => sourceFault "SyntaxError" msg 1
      | none => return (frame, .block stmts)

set_option maxHeartbeats 400000 in
mutual

/-- The value of an expression. -/
def evalExpr (fuel : Nat) (fr : Frame) (e : Expr) : Eval Value :=
  match fuel with
  | 0 => throw .exhausted
  | fuel + 1 => do
    let h : Hooks := ⟨callValue fuel, importNamed fuel⟩
    match e with
    | .lit v => return literalValue v
    | .name n => loadName fr n
    | .fstr parts => return .str (← evalFParts fuel fr parts)
    | .unary op a =>
      let v ← evalExpr fuel fr a
      if op == .not then return .bool !(← truthy h v) else unaryOp h op v
    | .binary op a b =>
      let x ← evalExpr fuel fr a
      let y ← evalExpr fuel fr b
      match op, x with
      | .mod, .str s =>
        if (← lookupSpecial y "__rmod__").isSome then binaryOp h op x y
        else return .str (← percentFormat h s y)
      | .mod, _ =>
        match ← byteString? x with
        | some bs =>
          if (← lookupSpecial y "__rmod__").isSome then binaryOp h op x y
          else
            let t ← percentFormat h (String.ofList (byteChars bs)) y true
            let out := charBytes t.toList
            if let .bytes _ := x then return .bytes out else allocRef (.byteArray out.toArray)
        | none => binaryOp h op x y
      | _, _ => binaryOp h op x y
    | .andAlso a b =>
      let x ← evalExpr fuel fr a
      if ← truthy h x then evalExpr fuel fr b else return x
    | .orElse a b =>
      let x ← evalExpr fuel fr a
      if ← truthy h x then return x else evalExpr fuel fr b
    | .compare first rest =>
      -- a chain is the conjunction of its links: the first false link's value, else the last
      let mut left ← evalExpr fuel fr first
      let mut result := Value.bool true
      for (op, rhs) in rest do
        let right ← evalExpr fuel fr rhs
        result ← compareValue h fuel op left right
        if !(← truthy h result) then return result
        left := right
      return result
    | .ifElse t b o =>
      if ← truthy h (← evalExpr fuel fr t) then evalExpr fuel fr b else evalExpr fuel fr o
    | .lambda ps body =>
      makeFunction fuel fr "<lambda>" ps [.ret (some body)]
    | .walrus n v =>
      let x ← evalExpr fuel fr v
      match fr.outer with
      | some s => scopeSet s n x
      | none => storeName fr n x
      return x
    | .call fnE args =>
      let f ← evalExpr fuel fr fnE
      let (pos, kws) ← evalArgs fuel fr args (some f)
      match f, pos with
      | .cls (.builtin "super"), [] =>
        match fr.owner, fr.selfArg with
        | some c, some self => allocRef (.superProxy (.user c) self)
        | _, _ => throwExc "RuntimeError" "super(): no arguments"
      | .builtinFn "globals", [] => return .ref fr.globals
      | .builtinFn "locals", [] | .builtinFn "vars", [] => localsValue fr
      | .builtinFn "dir", [] =>
        let names ← iterate h fuel (← localsValue fr)
        let names := names.filterMap fun
          | .str s => some s
          | _ => none
        allocRef (.list ((names.qsort (· < ·)).map Value.str))
      | .builtinFn "eval", _ =>
        match ← sourceFrame fr "eval" pos kws with
        | (fr', .expr e) => evalExpr fuel fr' e
        | _ => return .none
      | .builtinFn "exec", _ =>
        match ← sourceFrame fr "exec" pos kws with
        | (fr', .block ss) =>
          discard <| execBlock fuel fr' ss
          return .none
        | _ => return .none
      | _, _ =>
        modify fun m => { m with callerGlobals := some fr.globals }
        callValue fuel f pos kws
    | .attr o n => getAttr h (← evalExpr fuel fr o) n
    | .index o k =>
      let obj ← evalExpr fuel fr o
      let key ← evalExpr fuel fr k
      getItem h obj key
    | .slice lo hi st =>
      let ev (x : Option Expr) : Eval Value := match x with
        | some x => evalExpr fuel fr x
        | none => pure .none
      return .slice (← ev lo) (← ev hi) (← ev st)
    | .starred _ => throwExc "SyntaxError" "can't use starred expression here"
    | .tuple es => return .tuple (← evalList fuel fr es).toList
    | .list es => allocRef (.list (← evalList fuel fr es))
    | .set es =>
      -- A display of more than two constants is made as a frozen set, made again from its
      -- own items when the constants are stored, then merged.
      let h : Hooks := ⟨callValue fuel, importNamed fuel⟩
      let eq := sameKey h keyFuel
      if es.length > 2 && es.all (isConstantExpr 32) then
        let frozen ← tableOf h (← evalList fuel fr es)
        allocRef (.set (← SetTable.ofOperand eq (.items frozen.entries)).copy false)
      else
        -- Items are added in order; a starred iterable updates the set as `update` does.
        let mut t : SetTable := {}
        for e in es do
          match e with
          | .starred x => t ← t.update eq (← setOperand h fuel (← evalExpr fuel fr x))
          | _ =>
            let v ← evalExpr fuel fr e
            t ← t.insert eq (← hashValue h keyFuel v) v
        allocRef (.set t false)
    | .dict items => evalDict fuel fr items
    | .comp .gen elt (.mk _ target iterE conds :: rest) =>
      -- The first iterable is taken where the expression stands; the rest runs lazily.
      let it ← iterOf h (← evalExpr fuel fr iterE)
      let body := genexpBody target conds rest elt
      let fn : Function := {
        name := "<genexpr>", qualname := fr.qualPrefix ++ "<genexpr>", params := .empty,
        defaults := [], kwDefaults := [], body := body, scopes := scopeChain fr,
        localNames := ".0" :: compTargets (.mk false target iterE conds :: rest), globalNames := [],
        nonlocalNames := [], isGenerator := true, owner := fr.owner }
      let loc ← alloc (.scope #[(".0", it)])
      allocRef (.generator ⟨fn, loc, fr.selfArg, [.block body], .created⟩)
    | .comp kind elt clauses =>
      let items ← evalComp fuel fr (.one elt) clauses
      match kind with
      | .list => allocRef (.list items)
      | .set => allocRef (.set (← tableOf h items) false)
      | .gen => allocRef (.iterator "generator" (.items items 0))
    | .dictComp k v clauses =>
      let pairs ← evalComp fuel fr (.pair k v) clauses
      let mut es : Array (Value × Value) := #[]
      for p in pairs do
        match p with
        | .tuple [a, b] => es ← dictInsert h es a b
        | _ => pure ()
      allocRef (.dict es)
    | .await _ => throwExc "SyntaxError" "'await' outside function"
    | .yield v =>
      let x ← match v with
        | some v => evalExpr fuel fr v
        | none => pure .none
      pushYield x
      return .none
    | .yieldFrom v =>
      let x ← evalExpr fuel fr v
      for item in ← iterate h fuel x do
        pushYield item
      return .none

/-- The values of expressions, with starred ones spread. -/
def evalList (fuel : Nat) (fr : Frame) (es : List Expr) : Eval (Array Value) :=
  match fuel with
  | 0 => throw .exhausted
  | fuel + 1 => do
    let h : Hooks := ⟨callValue fuel, importNamed fuel⟩
    let mut out : Array Value := #[]
    for e in es do
      match e with
      | .starred x =>
        let v ← evalExpr fuel fr x
        if !(← isIterable v) then
          throwExc "TypeError" ("Value after * must be an iterable, not " ++ (← typeName v))
        out := out ++ (← iterate h fuel v)
      | _ => out := out.push (← evalExpr fuel fr e)
    return out

/-- How a fault in the arguments of a call names the callee: its module (unless none or the
builtins) and qualified name, then `()`. -/
def calleeText (h : Hooks) (callee : Option Value) : Eval String := do
  match callee with
  | none => return ""
  | some f =>
    let f' ← match f with
      | .ref a =>
        match ← getObj a with
        | .boundMethod _ fn => pure fn
        | _ => pure f
      | _ => pure f
    let qual ← match ← attrIfAny h f' "__qualname__" with
      | some (.str q) => pure q
      | _ => return (← strOf h showFuel f) ++ " "
    let modName ← match f' with
      | .method _ _ | .descriptor _ _ => pure none
      | _ => match ← attrIfAny h f' "__module__" with
        | some (.str m) => pure (if m == "builtins" then none else some m)
        | _ => pure none
    return (match modName with
      | some m => m ++ "." ++ qual
      | none => qual) ++ "() "

/-- The positional and keyword arguments of a call to `callee`. -/
def evalArgs (fuel : Nat) (fr : Frame) (args : List Arg) (callee : Option Value) :
    Eval (List Value × List (String × Value)) :=
  match fuel with
  | 0 => throw .exhausted
  | fuel + 1 => do
    let h : Hooks := ⟨callValue fuel, importNamed fuel⟩
    let mut pos : Array Value := #[]
    let mut kws : Array (String × Value) := #[]
    for a in args do
      match a with
      | .pos e => pos := pos.push (← evalExpr fuel fr e)
      | .star e =>
        let v ← evalExpr fuel fr e
        if !(← isIterable v) then
          throwExc "TypeError" ((← calleeText h callee) ++
            "argument after * must be an iterable, not " ++ (← typeName v))
        pos := pos ++ (← iterate h fuel v)
      | .kw n e => kws := kws.push (n, ← evalExpr fuel fr e)
      | .starstar e =>
        let v ← evalExpr fuel fr e
        let entries ← match v with
          | .ref r =>
            match ← getObj r with
            | .dict es => pure es
            | _ => throwExc "TypeError" ((← calleeText h callee) ++
                "argument after ** must be a mapping, not " ++ (← typeName v))
          | _ => throwExc "TypeError" ((← calleeText h callee) ++
              "argument after ** must be a mapping, not " ++ (← typeName v))
        for (k, x) in entries do
          match k with
          | .str s =>
            if kws.any (·.1 == s) then
              throwExc "TypeError" ((← calleeText h callee) ++
                "got multiple values for keyword argument '" ++ s ++ "'")
            kws := kws.push (s, x)
          | _ => throwExc "TypeError" "keywords must be strings"
    return (pos.toList, kws.toList)

/-- The text of the pieces of a formatted string. -/
def evalFParts (fuel : Nat) (fr : Frame) (parts : List FPart) : Eval String :=
  match fuel with
  | 0 => throw .exhausted
  | fuel + 1 => do
    let h : Hooks := ⟨callValue fuel, importNamed fuel⟩
    let mut out := ""
    for p in parts do
      match p with
      | .text s => out := out ++ s
      | .field e dbg conv spec =>
        let v ← evalExpr fuel fr e
        out := out ++ dbg.getD ""
        let conv := if conv.isNone && dbg.isSome && spec.isNone then some 'r' else conv
        let v ← match conv with
          | some c => convertField h c v
          | none => pure v
        let specText ← match spec with
          | some ps => evalFParts fuel fr ps
          | none => pure ""
        out := out ++ (← formatValue h v specText)
    return out

/-- A dictionary display. -/
def evalDict (fuel : Nat) (fr : Frame) (items : List DictItem) : Eval Value :=
  match fuel with
  | 0 => throw .exhausted
  | fuel + 1 => do
    let h : Hooks := ⟨callValue fuel, importNamed fuel⟩
    let mut es : Array (Value × Value) := #[]
    for it in items do
      match it with
      | .pair k v =>
        let kv ← evalExpr fuel fr k
        let vv ← evalExpr fuel fr v
        es ← dictInsert h es kv vv
      | .spread e =>
        let m ← evalExpr fuel fr e
        match m with
        | .ref r =>
          match ← getObj r with
          | .dict more =>
            for (k, v) in more do
              es ← dictInsert h es k v
          | _ => throwExc "TypeError" ("'" ++ (← typeName m) ++ "' object is not a mapping")
        | _ => throwExc "TypeError" ("'" ++ (← typeName m) ++ "' object is not a mapping")
    allocRef (.dict es)

/-- The values a comprehension produces, in its own scope. -/
def evalComp (fuel : Nat) (fr : Frame) (body : CompBody) (clauses : List CompFor) :
    Eval (Array Value) :=
  match fuel with
  | 0 => throw .exhausted
  | fuel + 1 => do
    match clauses with
    | [] => return #[]
    | .mk _ target iterE conds :: rest =>
      -- The first iterable is evaluated where the comprehension stands.
      let first ← evalExpr fuel fr iterE
      let scope ← alloc (.scope #[])
      let cfr : Frame := {
        kind := .comprehension, locals := scope, globals := fr.globals,
        enclosing := (scopeChain fr).dropLast, localNames := compTargets clauses,
        nest := fr.nest + 1, owner := fr.owner, selfArg := fr.selfArg,
        qualPrefix := fr.qualPrefix,
        outer := some (if fr.kind == .comprehension then fr.outer.getD fr.locals else fr.locals) }
      compFor fuel cfr target first conds rest body #[]

/-- The values of the remaining clauses of a comprehension. -/
def compRest (fuel : Nat) (fr : Frame) (clauses : List CompFor) (body : CompBody)
    (acc : Array Value) : Eval (Array Value) :=
  match fuel with
  | 0 => throw .exhausted
  | fuel + 1 => do
    match clauses with
    | [] =>
      match body with
      | .one e => return acc.push (← evalExpr fuel fr e)
      | .pair k v =>
        let kv ← evalExpr fuel fr k
        let vv ← evalExpr fuel fr v
        return acc.push (.tuple [kv, vv])
    | .mk _ target iterE conds :: rest =>
      let v ← evalExpr fuel fr iterE
      compFor fuel fr target v conds rest body acc

/-- One `for` clause of a comprehension over the items of a value. -/
def compFor (fuel : Nat) (fr : Frame) (target : Expr) (iterV : Value) (conds : List Expr)
    (rest : List CompFor) (body : CompBody) (acc : Array Value) : Eval (Array Value) :=
  match fuel with
  | 0 => throw .exhausted
  | fuel + 1 => do
    let h : Hooks := ⟨callValue fuel, importNamed fuel⟩
    let it ← iterOf h iterV
    let mut acc := acc
    for _ in [0:loopLimit] do
      match ← advance h fuel it with
      | none => return acc
      | some x =>
        assignTo fuel fr target x
        let mut ok := true
        for c in conds do
          if ok then
            if !(← truthy h (← evalExpr fuel fr c)) then ok := false
        if ok then acc ← compRest fuel fr rest body acc
    throw .exhausted

/-- A function made in a frame: its defaults evaluated now, its scopes those it stands in. -/
def makeFunction (fuel : Nat) (fr : Frame) (name : String) (ps : Params) (body : List Stmt) :
    Eval Value :=
  match fuel with
  | 0 => throw .exhausted
  | fuel + 1 => do
    let (dflts, kwDflts) := paramDefaults ps
    let defaults ← dflts.mapM (evalExpr fuel fr)
    let kwDefaults ← kwDflts.mapM fun (n, e) => do return (n, ← evalExpr fuel fr e)
    let (locals, globalsN, nonlocalsN) := functionNames ps body
    let fn : Function := {
      name := name, qualname := fr.qualPrefix ++ name, params := ps, defaults := defaults,
      kwDefaults := kwDefaults, body := body, scopes := scopeChain fr, localNames := locals,
      globalNames := globalsN, nonlocalNames := nonlocalsN, isGenerator := bodyYields body,
      owner := fr.owner }
    allocRef (.function fn)

/-- Call a value with positional and keyword arguments. -/
def callValue (fuel : Nat) (f : Value) (args : List Value) (kw : List (String × Value)) : Eval Value :=
  match fuel with
  | 0 => throw .exhausted
  | fuel + 1 => do
    let h : Hooks := ⟨callValue fuel, importNamed fuel⟩
    let notCallable : Eval Value := do
      throwExc "TypeError" ("'" ++ (← typeName f) ++ "' object is not callable")
    let callClass (a : Nat) (metaclass : ClassRef) : Eval Value := do
      match metaclass with
      | .user m =>
        match ← findInMro (.user m) "__call__" with
        | some (_, fn) => callValue fuel (← bindToInstance (.ref a) (.user m) fn) args kw
        | none => instantiate fuel a args kw
      | .builtin _ => instantiate fuel a args kw
    match f with
    | .builtinFn "type.__new__" =>
      match args with
      | mcls :: rest =>
        match ← classOfValue? mcls with
        | some k => classFromArgs fuel k rest kw
        | none => throwExc "TypeError" ("type.__new__(X): X is not a type object (" ++
            (← typeName mcls) ++ ")")
      | [] => throwExc "TypeError" "type.__new__(): not enough arguments"
    | .builtinFn "type.__call__" =>
      match args with
      | .ref a :: rest =>
        match ← getObj a with
        | .userClass _ _ _ _ _ => instantiate fuel a rest kw
        | _ => throwExc "TypeError" "descriptor '__call__' requires a 'type' object"
      | .cls c :: rest => callValue fuel (.cls c) rest kw
      | _ => throwExc "TypeError" "descriptor '__call__' requires a 'type' object"
    | .builtinFn "type.__init__" => return .none
    | .builtinFn n =>
      if n.endsWith ".__new__" && dataTypes.contains (n.dropEnd 8).toString then
        -- a runtime type of data makes an instance of a class derived from it
        let base := (n.dropEnd 8).toString
        match args with
        | cv :: rest =>
          match ← classOfValue? cv with
          | some k =>
            if !(← isSubclass k (.builtin base)) then
              throwExc "TypeError" (base ++ ".__new__(" ++ (← className k) ++ "): " ++
                (← className k) ++ " is not a subtype of " ++ base)
            let held ← callValue fuel (.cls (.builtin base)) (if isMutableData base then [] else rest) kw
            match k with
            | .builtin _ => return held
            | .user _ => allocRef (.inst k #[] (some held))
          | none => throwExc "TypeError" (base ++ ".__new__(X): X is not a type object (" ++
              (← typeName cv) ++ ")")
        | [] => throwExc "TypeError" (base ++ ".__new__(): not enough arguments")
      else callLibrary h fuel n args kw
    | .cls (.builtin "type") =>
      if args.length == 3 then classFromArgs fuel (.builtin "type") args kw
      else construct h fuel "type" args kw
    | .cls (.builtin "super") =>
      match args with
      | [c, self] =>
        match ← classOfValue? c with
        | some k => allocRef (.superProxy k self)
        | none => throwExc "TypeError" ("super() argument 1 must be a type, not " ++ (← typeName c))
      | _ => throwExc "RuntimeError" "super(): no arguments"
    | .cls (.builtin n) => construct h fuel n args kw
    | .cls (.user a) =>
      match ← getObj a with
      | .userClass _ _ _ _ metaclass => callClass a metaclass
      | _ => instantiate fuel a args kw
    | .method self n =>
      match self with
      | .ref a =>
        match ← getObj a with
        | .generator _ => generatorMethod fuel self a n args
        | _ => callMethod h fuel self n args kw
      | _ => callMethod h fuel self n args kw
    | .descriptor c n =>
      match args with
      | self :: rest =>
        if n == "__new__" then
          match ← classOfValue? self with
          | some k => newInstance k rest
          | none => throwExc "TypeError" ("object.__new__(X): X is not a type object (" ++ (← typeName self) ++ ")")
        else
          let t ← typeOf self
          if c != "object" && !(← isSubclass t (.builtin c)) then
            throwExc "TypeError" ("descriptor '" ++ n ++ "' for '" ++ c ++ "' objects doesn't apply to a '" ++
              (← typeName self) ++ "' object")
          if c == "object" || (← isExceptionClass (.builtin c)) then objectMethod h self n rest
          else
            match t with
            | .user _ =>
              match ← dataOf? self with
              | some d => callMethod h fuel d n rest kw
              | none => objectMethod h self n rest
            | .builtin _ => callMethod h fuel self n rest kw
      | [] => throwExc "TypeError" ("unbound method " ++ c ++ "." ++ n ++ "() needs an argument")
    | .ref a =>
      match ← getObj a with
      | .function fn => callFunction fuel fn args kw
      | .boundMethod self g => callValue fuel g (self :: args) kw
      | .userClass _ _ _ _ metaclass => callClass a metaclass
      | .staticMethod g => callValue fuel g args kw
      | .inst _ _ _ =>
        match ← lookupSpecial f "__call__" with
        | some fn => callValue fuel fn (f :: args) kw
        | none => notCallable
      | _ => notCallable
    | _ => notCallable

/-- Make an instance of a class a program defined, and initialize it. -/
def instantiate (fuel : Nat) (a : Nat) (args : List Value) (kw : List (String × Value)) : Eval Value :=
  match fuel with
  | 0 => throw .exhausted
  | fuel + 1 => do
    let c := ClassRef.user a
    let userNew ← findInMro c "__new__"
    let inst ← match userNew with
      | some (_, fnv) =>
        let fnv ← match fnv with
          | .ref b =>
            match ← getObj b with
            | .staticMethod g => pure g
            | _ => pure fnv
          | _ => pure fnv
        callValue fuel fnv (.ref a :: args) kw
      | none =>
        if ← isSubclass c (.builtin "type") then classFromArgs fuel c args kw
        else
          match ← dataBase? c with
          | some base =>
            -- the value of a mutable type starts empty when a class's `__init__` fills it
            let own := isMutableData base && (← findInMro c "__init__").isSome
            let held ← if own then callValue fuel (.cls (.builtin base)) [] []
              else callValue fuel (.cls (.builtin base)) args kw
            allocRef (.inst c #[] (some held))
          | none => newInstance c args
    if !(← isInstance inst c) then return inst
    match ← findInMro c "__init__" with
    | some (_, initFn) =>
      let r ← callValue fuel initFn (inst :: args) kw
      match r with
      | .none => return inst
      | _ => throwExc "TypeError" ("__init__() should return None, not '" ++ (← typeName r) ++ "'")
    | none =>
      let isExc ← isExceptionClass c
      let isMeta ← isSubclass c (.builtin "type")
      let isData := (← dataBase? c).isSome
      if userNew.isNone && !isExc && !isMeta && !isData && !(args.isEmpty && kw.isEmpty) then
        throwExc "TypeError" ((← classQualname c) ++ "() takes no arguments")
      if isExc && !kw.isEmpty then
        throwExc "TypeError" ((← classQualname c) ++ "() takes no keyword arguments")
      return inst

/-- Call a function a program defined. -/
def callFunction (fuel : Nat) (fn : Function) (args : List Value) (kw : List (String × Value)) :
    Eval Value :=
  match fuel with
  | 0 => throw .exhausted
  | fuel + 1 => do
    if ← stackFull then
      throwExc "RecursionError" "maximum recursion depth exceeded"
    let vars ← bindArguments fn args kw
    let loc ← alloc (.scope vars)
    let fr := functionFrame fn loc args.head?
    -- A generator whose body can pause is made now and runs when asked for items.
    if fn.isGenerator && bodyResumable fn.body then
      return ← allocRef (.generator ⟨fn, loc, args.head?, [.block fn.body], .created⟩)
    modify fun m => { m with depth := m.depth + 1 }
    if fn.isGenerator then
      modify fun m => { m with yields := #[] :: m.yields }
      let r ← observe (execBlock fuel fr fn.body)
      let items := ((← get).yields.headD #[])
      modify fun m => { m with yields := m.yields.drop 1, depth := m.depth - 1 }
      match r with
      | .ok _ => allocRef (.iterator "generator" (.items items 0))
      | .error (.raised e) =>
        if ← excIs e "StopIteration" then allocRef (.iterator "generator" (.items items 0))
        else throw (.raised e)
      | .error s => throw s
    else
      let r ← observe (execBlock fuel fr fn.body)
      modify fun m => { m with depth := m.depth - 1 }
      match r with
      | .ok (.ret v) => return v
      | .ok _ => return .none
      | .error s => throw s

/-- Start a statement that yields: a `yield` pauses, other statements open the parts they run. -/
def startStmt (fuel : Nat) (fr : Frame) (s : Stmt) (after : List Resume) : Eval GenStep :=
  match fuel with
  | 0 => throw .exhausted
  | fuel + 1 => do
    let h : Hooks := ⟨callValue fuel, importNamed fuel⟩
    let value (v : Option Expr) : Eval Value := match v with
      | some e => evalExpr fuel fr e
      | none => pure .none
    match s with
    | .expr (.yield v) => return .yielded (← value v) after
    | .assign ts (.yield v) => return .yielded (← value v) (.receive ts :: after)
    | .expr (.yieldFrom e) => return .next (.delegate (← iterOf h (← evalExpr fuel fr e)) [] :: after) none
    | .assign ts (.yieldFrom e) =>
      return .next (.delegate (← iterOf h (← evalExpr fuel fr e)) ts :: after) none
    | .ifElse test body orelse =>
      let b ← truthy h (← evalExpr fuel fr test)
      return .next (.block (if b then body else orelse) :: after) none
    | .while test body orelse => return .next (.whileLoop test body orelse :: after) none
    | .forIn _ target iterE body orelse =>
      let it ← iterOf h (← evalExpr fuel fr iterE)
      return .next (.forLoop target it body orelse :: after) none
    | .tryExcept body handlers orelse final _ =>
      return .next (.block body :: .guarded handlers orelse final :: after) none
    | .with _ items body =>
      match items with
      | [] => return .next (.block body :: after) none
      | (ctxE, target) :: more =>
        let ctx ← evalExpr fuel fr ctxE
        let enter ← contextSpecial ctx "__enter__"
        let exit ← contextSpecial ctx "__exit__"
        match enter, exit with
        | some en, some ex =>
          let v ← callValue fuel en [ctx] []
          let inner := if more.isEmpty then body else [Stmt.with false more body]
          let bound ← observe (match target with
            | some t => assignTo fuel fr t v
            | none => pure ())
          match bound with
          | .ok () => return .next (.block inner :: .managed ctx ex :: after) none
          | .error (.raised e) => return .next (.managed ctx ex :: after) (some (.raised e))
          | .error sg => throw sg
        | _, _ =>
          throwExc "TypeError" ("'" ++ (← typeName ctx) ++
            "' object does not support the context manager protocol")
    | .matchCases subject cases =>
      let v ← evalExpr fuel fr subject
      for c in cases do
        let .mk pat guard cbody := c
        if ← matchPattern fuel fr pat v then
          let ok ← match guard with
            | some g => do truthy h (← evalExpr fuel fr g)
            | none => pure true
          if ok then return .next (.block cbody :: after) none
      return .next after none
    | _ => return .next after (Abrupt.ofFlow (← execStmt fuel fr s))

/-- Take the next item of the iterator a `yield from` delegates to, passing on what the
generator was resumed with; at its end, bind the value it ended with. -/
def delegateStep (fuel : Nat) (fr : Frame) (it : Value) (targets : List Expr)
    (st rest : List Resume) (input : Resumption) : Eval GenStep :=
  match fuel with
  | 0 => throw .exhausted
  | fuel + 1 => do
    let h : Hooks := ⟨callValue fuel, importNamed fuel⟩
    let isGen ← match it with
      | .ref a => do
        match ← getObj a with
        | .generator _ => pure true
        | _ => pure false
      | _ => pure false
    let outcome ← tryCatch (do
        match input with
        | .throwIn e =>
          if isGen then return Sum.inl (← callValue fuel (.method it "throw") [e] [])
          else throw (.raised e)
        | .send v =>
          match v, isGen with
          | .none, true => return Sum.inl (← callValue fuel (.method it "__next__") [] [])
          | .none, false =>
            match ← advance h fuel it with
            | some x => return Sum.inl x
            | none => return Sum.inr Value.none
          | _, true => return Sum.inl (← callValue fuel (.method it "send") [v] [])
          | _, false => return Sum.inl (← callValue fuel (← getAttr h it "send") [v] []))
      fun
        | .raised e => do
          if ← excIs e "StopIteration" then return Sum.inr (← stopValue e) else throw (.raised e)
        | sg => throw sg
    match outcome with
    | .inl v => return .yielded v st
    | .inr r =>
      for t in targets do
        assignTo fuel fr t r
      return .next rest none

/-- One step of a paused body that runs on normally. -/
def stepGen (fuel : Nat) (fr : Frame) (st : List Resume) : Eval GenStep :=
  match fuel with
  | 0 => throw .exhausted
  | fuel + 1 => do
    let h : Hooks := ⟨callValue fuel, importNamed fuel⟩
    match st with
    | [] => return .next [] (some (.ret .none))
    | top :: rest =>
      match top with
      | .block [] => return .next rest none
      | .block (s :: ss) =>
        let after := Resume.block ss :: rest
        if stmtYields 10000 s then catchRaised (startStmt fuel fr s after) after
        else catchRaised (do return .next after (Abrupt.ofFlow (← execStmt fuel fr s))) after
      | .whileLoop test body orelse =>
        catchRaised (do
          if ← truthy h (← evalExpr fuel fr test) then return .next (.block body :: st) none
          else return .next (.block orelse :: rest) none) rest
      | .forLoop target it body orelse =>
        catchRaised (do
          match ← advance h fuel it with
          | some x =>
            assignTo fuel fr target x
            return .next (.block body :: st) none
          | none => return .next (.block orelse :: rest) none) rest
      | .guarded _ orelse final =>
        if !orelse.isEmpty then return .next (.block orelse :: .guarded [] [] final :: rest) none
        else if !final.isEmpty then return .next (.block final :: .finishing none :: rest) none
        else return .next rest none
      | .handling _ name final =>
        modify fun m => { m with handling := m.handling.drop 1 }
        if let some n := name then discard <| observe (deleteName fr n)
        if !final.isEmpty then return .next (.block final :: .finishing none :: rest) none
        else return .next rest none
      | .finishing pending => return .next rest pending
      | .managed mgr exit =>
        catchRaised (do
          discard <| callValue fuel exit [mgr, .none, .none, .none] []
          return .next rest none) rest
      | .receive _ => return .next rest none
      | .delegate it targets =>
        catchRaised (delegateStep fuel fr it targets st rest (.send .none)) rest

/-- Carry an early end of the innermost part of a paused body out through one level: loops take
`break` and `continue`, handlers take the exceptions they match, `finally` parts and context
managers run on the way out. -/
def unwindGen (fuel : Nat) (fr : Frame) (top : Resume) (rest : List Resume) (ab : Abrupt) :
    Eval (List Resume × Option Abrupt) :=
  match fuel with
  | 0 => throw .exhausted
  | fuel + 1 => do
    let h : Hooks := ⟨callValue fuel, importNamed fuel⟩
    let withFinal (final : List Stmt) : List Resume × Option Abrupt :=
      if final.isEmpty then (rest, some ab) else (.block final :: .finishing (some ab) :: rest, none)
    match top, ab with
    | .whileLoop _ _ _, .brk | .forLoop _ _ _ _, .brk => return (rest, none)
    | .whileLoop _ _ _, .cont | .forLoop _ _ _ _, .cont => return (top :: rest, none)
    | .guarded handlers _ final, .raised e =>
      chainContext e
      let mut chosen : Option (Option String × List Stmt) := none
      for hd in handlers do
        if chosen.isNone then
          let .mk t name hbody := hd
          let hit ← match t with
            | none => pure true
            | some te => do handlerMatches e (← evalExpr fuel fr te)
          if hit then chosen := some (name, hbody)
      match chosen with
      | some (name, hbody) =>
        if let some n := name then storeName fr n e
        modify fun m => { m with handling := e :: m.handling }
        return (.block hbody :: .handling e name final :: rest, none)
      | none => return withFinal final
    | .guarded _ _ final, _ => return withFinal final
    | .handling _ name final, _ =>
      modify fun m => { m with handling := m.handling.drop 1 }
      if let some n := name then discard <| observe (deleteName fr n)
      return withFinal final
    | .managed mgr exit, .raised e =>
      let t ← typeOf e
      if ← truthy h (← callValue fuel exit [mgr, classValue t, e, .none] []) then return (rest, none)
      else return (rest, some ab)
    | .managed mgr exit, _ =>
      discard <| callValue fuel exit [mgr, .none, .none, .none] []
      return (rest, some ab)
    | _, _ => return (rest, some ab)

/-- Run a paused generator body, resumed with a value or an exception, until it yields again,
returns or raises. -/
def runGenerator (fuel : Nat) (fr : Frame) (stack : List Resume) (input : Resumption) :
    Eval GenOutcome :=
  match fuel with
  | 0 => throw .exhausted
  | fuel + 1 => do
    let mut st := stack
    let mut ab : Option Abrupt := none
    match input, stack with
    | .send v, .receive targets :: rest =>
      st := rest
      match ← observe (targets.forM fun t => assignTo fuel fr t v) with
      | .ok _ => pure ()
      | .error (.raised e) => ab := some (.raised e)
      | .error sg => throw sg
    | _, .delegate it targets :: rest =>
      match ← catchRaised (delegateStep fuel fr it targets stack rest input) rest with
      | .yielded v st' => return .yielded v st'
      | .next st' ab' =>
        st := st'
        ab := ab'
    | .throwIn e, _ => ab := some (.raised e)
    | .send _, _ => pure ()
    for _ in [0:loopLimit] do
      match ab with
      | some a =>
        match st with
        | [] =>
          match a with
          | .raised e => throw (.raised e)
          | .ret v => return .returned v
          | _ => return .returned .none
        | top :: rest =>
          match ← observe (unwindGen fuel fr top rest a) with
          | .ok (st', ab') =>
            st := st'
            ab := ab'
          | .error (.raised e) =>
            st := rest
            ab := some (.raised e)
          | .error sg => throw sg
      | none =>
        match st with
        | [] => return .returned .none
        | _ =>
          match ← stepGen fuel fr st with
          | .yielded v st' => return .yielded v st'
          | .next st' ab' =>
            st := st'
            ab := ab'
    throw .exhausted

/-- Resume the generator at an address: it runs until it yields, which gives the value, or
ends, which raises `StopIteration` with what it returned. A generator that raised
`StopIteration` itself raises `RuntimeError` instead. -/
def resumeGenerator (fuel : Nat) (a : Nat) (input : Resumption) : Eval Value :=
  match fuel with
  | 0 => throw .exhausted
  | fuel + 1 => do
    match ← getObj a with
    | .generator g =>
      let close : Eval Unit := setObj a (.generator { g with state := .closed, stack := [] })
      match g.state, input with
      | .running, _ => throwExc "ValueError" "generator already executing"
      | .closed, .throwIn e => throw (.raised e)
      | .closed, .send _ => throwBare "StopIteration"
      | .created, .send .none => pure ()
      | .created, .send _ =>
        throwExc "TypeError" "can't send non-None value to a just-started generator"
      | .created, .throwIn e =>
        close
        throw (.raised e)
      | .suspended, _ => pure ()
      if ← stackFull then
        throwExc "RecursionError" "maximum recursion depth exceeded"
      setObj a (.generator { g with state := .running })
      let saved := (← get).handling
      modify fun m => { m with depth := m.depth + 1, handling := handlingOf g.stack ++ m.handling }
      let r ← observe (runGenerator fuel (functionFrame g.fn g.locals g.selfArg) g.stack input)
      modify fun m => { m with depth := m.depth - 1, handling := saved }
      match r with
      | .ok (.yielded v st) =>
        setObj a (.generator { g with state := .suspended, stack := st })
        return v
      | .ok (.returned v) =>
        close
        match v with
        | .none => throwBare "StopIteration"
        | _ => throwWith "StopIteration" v
      | .error (.raised e) =>
        close
        if ← excIs e "StopIteration" then
          let err ← newException (.builtin "RuntimeError") [.str "generator raised StopIteration"]
          setExcAttr err "__cause__" e
          setExcAttr err "__context__" e
          setExcAttr err "__suppress_context__" (.bool true)
          throw (.raised err)
        else throw (.raised e)
      | .error sg =>
        close
        throw sg
    | _ => throwExc "TypeError" "descriptor requires a 'generator' object"

/-- Close the generator at an address: a paused one gets `GeneratorExit` where it waits, and
must not yield again. -/
def closeGenerator (fuel : Nat) (a : Nat) : Eval Value :=
  match fuel with
  | 0 => throw .exhausted
  | fuel + 1 => do
    match ← getObj a with
    | .generator g =>
      match g.state with
      | .running => throwExc "ValueError" "generator already executing"
      | .suspended =>
        let ge ← newException (.builtin "GeneratorExit") []
        let r ← tryCatch (some <$> resumeGenerator fuel a (.throwIn ge)) fun
          | .raised e => do
            if (← excIs e "GeneratorExit") || (← excIs e "StopIteration") then pure none
            else throw (.raised e)
          | sg => throw sg
        match r with
        | some _ => throwExc "RuntimeError" "generator ignored GeneratorExit"
        | none => return .none
      | _ =>
        setObj a (.generator { g with state := .closed, stack := [] })
        return .none
    | _ => return .none

/-- A method of a generator. -/
def generatorMethod (fuel : Nat) (self : Value) (a : Nat) (name : String) (args : List Value) :
    Eval Value :=
  match fuel with
  | 0 => throw .exhausted
  | fuel + 1 => do
    let h : Hooks := ⟨callValue fuel, importNamed fuel⟩
    match name with
    | "__next__" =>
      if !args.isEmpty then
        throwExc "TypeError" ("expected 0 arguments, got " ++ toString args.length)
      resumeGenerator fuel a (.send .none)
    | "send" =>
      match args with
      | [v] => resumeGenerator fuel a (.send v)
      | _ => throwExc "TypeError" ("generator.send() takes exactly one argument (" ++
          toString args.length ++ " given)")
    | "throw" =>
      let e ← match args with
        | t :: more =>
          match ← classOfValue? t with
          | some k =>
            if !(← isExceptionClass k) then
              throwExc "TypeError" ("exceptions must be classes or instances deriving from BaseException, not type")
            match more with
            | v :: _ =>
              if ← isInstance v k then pure v
              else match v with
                | .none => callValue fuel t [] []
                | .tuple vs => callValue fuel t vs []
                | _ => callValue fuel t [v] []
            | [] => callValue fuel t [] []
          | none =>
            if ← isInstance t (.builtin "BaseException") then
              match more with
              | v :: _ =>
                match v with
                | .none => pure t
                | _ => throwExc "TypeError" "instance exception may not have a separate value"
              | [] => pure t
            else
              throwExc "TypeError" ("exceptions must be classes or instances deriving from BaseException, not " ++
                (← typeName t))
        | [] => throwExc "TypeError" "throw expected at least 1 argument, got 0"
      resumeGenerator fuel a (.throwIn e)
    | "close" => closeGenerator fuel a
    | "__iter__" => return self
    | _ => objectMethod h self name args

/-- Run statements until one does not end normally. -/
def execBlock (fuel : Nat) (fr : Frame) (ss : List Stmt) : Eval Flow :=
  match fuel with
  | 0 => throw .exhausted
  | fuel + 1 => do
    for s in ss do
      let fl ← execStmt fuel fr s
      match fl with
      | .normal => pure ()
      | _ => return fl
    return .normal

/-- Run a statement. -/
def execStmt (fuel : Nat) (fr : Frame) (s : Stmt) : Eval Flow :=
  match fuel with
  | 0 => throw .exhausted
  | fuel + 1 => do
    let h : Hooks := ⟨callValue fuel, importNamed fuel⟩
    match s with
    | .expr e =>
      let v ← evalExpr fuel fr e
      if fr.interactive then
        match v with
        | .none => pure ()
        | _ =>
          modify fun m => { m with shown := some .none }
          emit ((← reprOf h showFuel [] v) ++ "\n")
          modify fun m => { m with shown := some v }
      return .normal
    | .assign targets value =>
      let v ← evalExpr fuel fr value
      for t in targets do
        assignTo fuel fr t v
      return .normal
    | .augAssign target op value =>
      let inPlace (cur v : Value) : Eval Value := do
        -- Lists, sets and dictionaries change in place.
        match cur, op with
        | .ref a, .add =>
          match ← getObj a with
          | .list xs =>
            let more ← iterate h fuel v
            setObj a (.list (xs ++ more))
            return cur
          | .byteArray xs =>
            if let some more ← bytesLike? v then
              setObj a (.byteArray (xs ++ more.toArray))
              return cur
            binaryOp h op cur v true
          | _ => binaryOp h op cur v true
        | .ref a, .mul =>
          match ← getObj a, v.intValue? with
          | .list xs, some n =>
            setObj a (.list (repeatList xs.toList (repeatCount n)).toArray)
            return cur
          | .byteArray xs, some n =>
            setObj a (.byteArray (repeatList xs.toList (repeatCount n)).toArray)
            return cur
          | _, _ => binaryOp h op cur v true
        | .ref a, _ =>
          match ← getObj a, v with
          | .set t false, .ref b =>
            match ← getObj b with
            | .set u _ =>
              let eq := sameKey h keyFuel
              let t' : Option SetTable ← match op with
                | .bitor => if a == b then pure (some t) else some <$> t.merge eq u
                | .bitand => if a == b then pure (some t.copy) else some <$> t.inter eq u
                | .sub => if a == b then pure (some t.cleared) else some <$> t.removeTable eq u
                | .bitxor =>
                  if a == b then pure (some t.cleared) else some <$> t.toggleAll eq u.entries
                | _ => pure none
              match t' with
              | some t' => setObj a (.set t' false); return cur
              | none => binaryOp h op cur v true
            | _ => binaryOp h op cur v true
          | .dict es, _ =>
            if op == .bitor then
              let mut es := es
              for (k, x) in ← pairsOf h fuel v do
                es ← dictInsert h es k x
              setObj a (.dict es)
              return cur
            else binaryOp h op cur v true
          | _, _ => binaryOp h op cur v true
        | .str s, .mod => return .str (← percentFormat h s v)
        | _, _ => binaryOp h op cur v true
      match target with
      | .name n =>
        let cur ← loadName fr n
        let v ← evalExpr fuel fr value
        storeName fr n (← inPlace cur v)
      | .attr o n =>
        let obj ← evalExpr fuel fr o
        let cur ← getAttr h obj n
        let v ← evalExpr fuel fr value
        setAttr h obj n (← inPlace cur v)
      | .index o k =>
        let obj ← evalExpr fuel fr o
        let key ← evalExpr fuel fr k
        let cur ← getItem h obj key
        let v ← evalExpr fuel fr value
        setItem h obj key (← inPlace cur v)
      | _ => throwExc "SyntaxError" "illegal expression for augmented assignment"
      return .normal
    | .annAssign target ann value =>
      if let some v := value then
        assignTo fuel fr target (← evalExpr fuel fr v)
      -- a module or class keeps the annotations of its names; a function evaluates none
      if fr.kind != .function then
        let asText ← annotationsAsText fr
        match target with
        | .name n =>
          let a ← if asText then pure (Value.str ann.annotationText) else evalExpr fuel fr ann
          setItem h (← annotationsDict fr.locals) (.str n) a
        | _ => if !asText then discard <| evalExpr fuel fr ann
      return .normal
    | .pass => return .normal
    | .brk => return .brk
    | .cont => return .cont
    | .ret v =>
      match v with
      | some e => return .ret (← evalExpr fuel fr e)
      | none => return .ret .none
    | .raise exc cause =>
      match exc with
      | none =>
        match (← get).handling with
        | e :: _ => throw (.raised e)
        | [] => throwExc "RuntimeError" "No active exception to reraise"
      | some ex =>
        let v ← evalExpr fuel fr ex
        let toExc (v : Value) : Eval Value := do
          match ← classOfValue? v with
          | some k =>
            if ← isExceptionClass k then callValue fuel v [] []
            else throwExc "TypeError" "exceptions must derive from BaseException"
          | none =>
            if ← isInstance v (.builtin "BaseException") then return v
            else throwExc "TypeError" "exceptions must derive from BaseException"
        let e ← toExc v
        match cause with
        | some c =>
          let cv ← evalExpr fuel fr c
          let cv ← match cv with
            | .none => pure Value.none
            | _ => toExc cv
          match e with
          | .ref a =>
            match ← getObj a with
            | .inst k attrs data =>
              setObj a (.inst k (setPair (setPair attrs "__cause__" cv) "__suppress_context__"
                (.bool true)) data)
            | _ => pure ()
          | _ => pure ()
        | none => pure ()
        throw (.raised e)
    | .global _ => return .normal
    | .nonlocal _ => return .normal
    | .del targets =>
      for t in targets do
        deleteTarget fuel fr t
      return .normal
    | .assert test msg =>
      if ← truthy h (← evalExpr fuel fr test) then return .normal
      match msg with
      | some m =>
        let mv ← evalExpr fuel fr m
        throw (.raised (← newException (.builtin "AssertionError") [mv]))
      | none => throwBare "AssertionError"
    | .importNames aliases =>
      for a in aliases do
        match a.asName with
        | some n => storeName fr n (← importNamed fuel a.name)
        | none =>
          let top := (a.name.splitOn ".").headD a.name
          let _ ← importNamed fuel a.name
          storeName fr top (← importNamed fuel top)
      return .normal
    | .importFrom module level names =>
      let modName := module.getD ""
      if level > 0 then
        -- the package is found from the globals' name; these globals may not have one
        if (← scopeGet fr.globals "__package__").isNone && (← scopeGet fr.globals "__spec__").isNone &&
            (← scopeGet fr.globals "__name__").isNone then
          throw (.raised (← newException (.builtin "KeyError") [.str "'__name__' not in globals"]))
        throwExc "ImportError" "attempted relative import with no known parent package"
      let m ← importNamed fuel modName
      for a in names do
        if a.name == "*" then
          match m with
          | .ref r =>
            match ← getObj r with
            | .module _ attrs =>
              for (k, v) in attrs do
                if !k.startsWith "_" then storeName fr k v
            | _ => pure ()
          | _ => pure ()
        else
          let v ← tryCatch (getAttr h m a.name) fun
            | .raised e => do
              if ← excIs e "AttributeError" then
                throwExc "ImportError" ("cannot import name '" ++ a.name ++ "' from '" ++ modName ++
                  "' (unknown location)")
              else throw (.raised e)
            | s => throw s
          storeName fr (a.asName.getD a.name) v
      return .normal
    | .ifElse test body orelse =>
      if ← truthy h (← evalExpr fuel fr test) then execBlock fuel fr body
      else execBlock fuel fr orelse
    | .while test body orelse =>
      for _ in [0:loopLimit] do
        if !(← truthy h (← evalExpr fuel fr test)) then
          return ← execBlock fuel fr orelse
        match ← execBlock fuel fr body with
        | .brk => return .normal
        | .ret v => return .ret v
        | _ => pure ()
      throw .exhausted
    | .forIn _ target iterE body orelse =>
      let v ← evalExpr fuel fr iterE
      let it ← iterOf h v
      for _ in [0:loopLimit] do
        match ← advance h fuel it with
        | none => return ← execBlock fuel fr orelse
        | some x =>
          assignTo fuel fr target x
          match ← execBlock fuel fr body with
          | .brk => return .normal
          | .ret r => return .ret r
          | _ => pure ()
      throw .exhausted
    | .with _ items body => execWith fuel fr items body
    | .tryExcept body handlers orelse final _ => execTry fuel fr body handlers orelse final
    | .funcDef _ name ps returns decorators body _ =>
      let decos ← decorators.mapM (evalExpr fuel fr)
      let fnv ← makeFunction fuel fr name ps body
      -- Annotations are evaluated after the defaults, and kept on the function.
      let asText ← annotationsAsText fr
      let annotation (a : Expr) : Eval Value := do
        if asText then return .str a.annotationText else evalExpr fuel fr a
      let mut anns : Array (Value × Value) := #[]
      for (n, a) in annotatedParams ps do
        anns := anns.push (.str n, ← annotation a)
      if let some r := returns then anns := anns.push (.str "return", ← annotation r)
      if !anns.isEmpty then setAttr h fnv "__annotations__" (← allocRef (.dict anns))
      let mut v := fnv
      for d in decos.reverse do
        v ← callValue fuel d [v] []
      storeName fr name v
      return .normal
    | .classDef name bases decorators body _ =>
      makeClass fuel fr name bases decorators body
      return .normal
    | .matchCases subject cases =>
      let v ← evalExpr fuel fr subject
      for c in cases do
        let .mk pat guard cbody := c
        if ← matchPattern fuel fr pat v then
          let ok ← match guard with
            | some g => do truthy h (← evalExpr fuel fr g)
            | none => pure true
          if ok then return ← execBlock fuel fr cbody
      return .normal

/-- Run a `with` statement's items, nesting, and then its body. -/
def execWith (fuel : Nat) (fr : Frame) (items : List (Expr × Option Expr)) (body : List Stmt) :
    Eval Flow :=
  match fuel with
  | 0 => throw .exhausted
  | fuel + 1 => do
    let h : Hooks := ⟨callValue fuel, importNamed fuel⟩
    match items with
    | [] => execBlock fuel fr body
    | (ctxE, target) :: rest =>
      let ctx ← evalExpr fuel fr ctxE
      let enter ← contextSpecial ctx "__enter__"
      let exit ← contextSpecial ctx "__exit__"
      match enter, exit with
      | some en, some ex =>
        let v ← callValue fuel en [ctx] []
        if let some t := target then assignTo fuel fr t v
        let r ← observe (execWith fuel fr rest body)
        match r with
        | .ok fl =>
          discard <| callValue fuel ex [ctx, .none, .none, .none] []
          return fl
        | .error (.raised e) =>
          let t ← typeOf e
          let suppress ← truthy h (← callValue fuel ex [ctx, classValue t, e, .none] [])
          if suppress then return .normal else throw (.raised e)
        | .error s => throw s
      | _, _ =>
        throwExc "TypeError" ("'" ++ (← typeName ctx) ++ "' object does not support the context manager protocol")

/-- Run a `try` statement. -/
def execTry (fuel : Nat) (fr : Frame) (body : List Stmt) (handlers : List Handler)
    (orelse final : List Stmt) : Eval Flow :=
  match fuel with
  | 0 => throw .exhausted
  | fuel + 1 => do
    let r ← observe (execBlock fuel fr body)
    let r ← match r with
      | .ok .normal => observe (execBlock fuel fr orelse)
      | .ok fl => pure (.ok fl)
      | .error (.raised e) => observe do
        chainContext e
        let mut chosen : Option (Option String × List Stmt) := none
        for hd in handlers do
          if chosen.isNone then
            let .mk t name hbody := hd
            let hit ← match t with
              | none => pure true
              | some te => do handlerMatches e (← evalExpr fuel fr te)
            if hit then chosen := some (name, hbody)
        match chosen with
        | none => throw (.raised e)
        | some (name, hbody) =>
          if let some n := name then storeName fr n e
          modify fun m => { m with handling := e :: m.handling }
          let hr ← observe (execBlock fuel fr hbody)
          if let .error (.raised e2) := hr then chainContext e2
          modify fun m => { m with handling := m.handling.drop 1 }
          if let some n := name then
            discard <| observe (deleteName fr n)
          match hr with
          | .ok fl => pure fl
          | .error s => throw s
      | .error s => pure (.error s)
    if final.isEmpty then
      match r with
      | .ok fl => return fl
      | .error s => throw s
    else
      -- a pending exception is being handled while the final part runs
      let pending := match r with
        | .error (.raised e) => some e
        | _ => none
      if let some e := pending then
        chainContext e
        modify fun m => { m with handling := e :: m.handling }
      let fin ← observe (execBlock fuel fr final)
      if let .error (.raised e3) := fin then chainContext e3
      if pending.isSome then modify fun m => { m with handling := m.handling.drop 1 }
      match fin with
      | .error s => throw s
      | .ok .normal =>
        match r with
        | .ok fl => return fl
        | .error s => throw s
      | .ok other => return other

/-- The module of a dotted name, made on its first import and kept: one of the runtime, or one
whose source comes bundled, run in a namespace of its own that starts with the runtime's
attributes of the module when there are any. A dotted name imports the module above it first
and becomes its attribute. -/
def importNamed (fuel : Nat) (name : String) : Eval Value :=
  match fuel with
  | 0 => throw .exhausted
  | fuel + 1 => do
    if let some (_, a) := (← get).modules.find? (·.1 == name) then return .ref a
    let parts := name.splitOn "."
    let parent := ".".intercalate parts.dropLast
    if parts.length > 1 then
      let _ ← importNamed fuel parent
      if (Bundled.source? name).isNone then
        if Bundled.isPackage parent then
          throwExc "ModuleNotFoundError" ("No module named '" ++ name ++ "'")
        else
          throwExc "ModuleNotFoundError" ("No module named '" ++ name ++ "'; '" ++ parent ++
            "' is not a package")
    match Bundled.source? name with
    | none => importModule name
    | some text =>
      let g ← newModuleScope
      scopeSet g "__name__" (.str name)
      if let some attrs ← moduleAttrs name then
        for (k, v) in attrs do scopeSet g k v
      let a ← alloc (.module name #[])
      modify fun m => { m with modules := (name, a) :: m.modules }
      match StubDoctest.Source.parseModule text.toList with
      | .error f => sourceFault f.kind.className f.message f.line
      | .ok stmts =>
        discard <| execBlock fuel { kind := .module, locals := g, globals := g } stmts
        let vars ← match ← getObj g with
          | .scope vs => pure (vs.filter fun (k, _) => k != "__builtins__")
          | _ => pure #[]
        setObj a (.module name vars)
        if parts.length > 1 then
          if let some (_, p) := (← get).modules.find? (·.1 == parent) then
            match ← getObj p with
            | .module n attrs => setObj p (.module n (setPair attrs (parts.getLast?.getD name) (.ref a)))
            | _ => pure ()
        return .ref a

/-- The flag of a class whose instances match sequence patterns. -/
def sequenceFlag : Nat := 32

/-- Whether a value's class, or one of its ancestors, declares a flag in `__abc_tpflags__`, as the
abstract collection classes do for the patterns their instances match. -/
def hasClassFlag (v : Value) (flag : Nat) : Eval Bool := do
  match ← typeOf v with
  | .user a =>
    match ← findInMro (.user a) "__abc_tpflags__" with
    | some (_, .int n) => return n.toNat &&& flag != 0
    | _ => return false
  | .builtin _ => return false

/-- Whether annotations in a frame are kept as text: its module imported the feature
`annotations` of `__future__`. -/
def annotationsAsText (fr : Frame) : Eval Bool := do
  match (← get).modules.find? (·.1 == "__future__") with
  | none => return false
  | some (_, m) =>
    match ← getObj m, ← scopeGet fr.globals "annotations" with
    | .module _ attrs, some v =>
      match lookupPairs attrs "annotations" with
      | some w => return isSame v w
      | none => return false
    | _, _ => return false

/-- The `__annotations__` dictionary of a scope, made when it has none. -/
def annotationsDict (scope : Nat) : Eval Value := do
  match ← scopeGet scope "__annotations__" with
  | some d => return d
  | none =>
    let d ← allocRef (.dict #[])
    scopeSet scope "__annotations__" d
    return d

/-- The names of parameters with their annotations, in the order they are written. -/
def annotatedParams (ps : Params) : List (String × Expr) :=
  let .mk posOnly regular varArgs kwOnly varKw := ps
  let ann : Param → Option (String × Expr) := fun | .mk n a _ => a.map (n, ·)
  (posOnly ++ regular).filterMap ann ++ varArgs.toList.filterMap ann ++ kwOnly.filterMap ann ++
    varKw.toList.filterMap ann

/-- Bind a value to an assignment target. -/
def assignTo (fuel : Nat) (fr : Frame) (target : Expr) (v : Value) : Eval Unit :=
  match fuel with
  | 0 => throw .exhausted
  | fuel + 1 => do
    let h : Hooks := ⟨callValue fuel, importNamed fuel⟩
    match target with
    | .name n => storeName fr n v
    | .attr o n => setAttr h (← evalExpr fuel fr o) n v
    | .index o k =>
      let obj ← evalExpr fuel fr o
      let key ← evalExpr fuel fr k
      setItem h obj key v
    | .tuple ts | .list ts =>
      if !(← isIterable v) then
        throwExc "TypeError" ("cannot unpack non-iterable " ++ (← typeName v) ++ " object")
      let items ← iterate h fuel v
      match ts.findIdx? Expr.isStarredTarget with
      | none =>
        if items.size > ts.length then
          throwExc "ValueError" ("too many values to unpack (expected " ++ toString ts.length ++ ")")
        if items.size < ts.length then
          throwExc "ValueError" ("not enough values to unpack (expected " ++ toString ts.length ++
            ", got " ++ toString items.size ++ ")")
        for (t, x) in ts.zip items.toList do
          assignTo fuel fr t x
      | some i =>
        let after := ts.length - i - 1
        if items.size < i + after then
          throwExc "ValueError" ("not enough values to unpack (expected at least " ++
            toString (i + after) ++ ", got " ++ toString items.size ++ ")")
        for (t, x) in (ts.take i).zip (items.toList.take i) do
          assignTo fuel fr t x
        let middle := items.extract i (items.size - after)
        match ts[i]? with
        | some (.starred t) => assignTo fuel fr t (← allocRef (.list middle))
        | _ => pure ()
        for (t, x) in (ts.drop (i + 1)).zip (items.toList.drop (items.size - after)) do
          assignTo fuel fr t x
    | .starred _ => throwExc "SyntaxError" "starred assignment target must be in a list or tuple"
    | _ => throwExc "SyntaxError" "cannot assign to expression"

/-- Remove the binding of a `del` target. -/
def deleteTarget (fuel : Nat) (fr : Frame) (target : Expr) : Eval Unit :=
  match fuel with
  | 0 => throw .exhausted
  | fuel + 1 => do
    let h : Hooks := ⟨callValue fuel, importNamed fuel⟩
    match target with
    | .name n => deleteName fr n
    | .attr o n => delAttr h (← evalExpr fuel fr o) n
    | .index o k =>
      let obj ← evalExpr fuel fr o
      delItem h obj (← evalExpr fuel fr k)
    | .tuple ts | .list ts =>
      for t in ts do
        deleteTarget fuel fr t
    | _ => throwExc "SyntaxError" "cannot delete expression"

/-- Make a class that is an instance of `metaclass` from its name, bases and namespace, at `addr`
when an address is kept for it. Its ancestors are linearized; a class that defines `__eq__`
and not `__hash__` gets `__hash__ = None`; its slots may not name its class variables; its
attributes' `__set_name__` and its nearest ancestor's `__init_subclass__` (with the keywords)
are called. -/
def buildClass (fuel : Nat) (metaclass : ClassRef) (name : String) (given : List ClassRef)
    (attrs : Array (String × Value)) (addr : Option Nat) (kw : List (String × Value)) :
    Eval Value :=
  match fuel with
  | 0 => throw .exhausted
  | fuel + 1 => do
    let refs := if given.isEmpty then [ClassRef.builtin "object"] else given
    let addr ← match addr with
      | some a => pure a
      | none => alloc (.userClass name refs [] #[] metaclass)
    let mro ← match ← linearize (.user addr) refs with
      | some m => pure m
      | none =>
        let names ← refs.mapM className
        throwExc "TypeError" ("Cannot create a consistent method resolution\norder (MRO) for bases " ++
          ", ".intercalate names)
    let mut attrs := attrs.filter (·.1 != "__classcell__")
    -- these two hooks are class methods even when written as plain functions
    for hook in ["__init_subclass__", "__class_getitem__"] do
      if let some (.ref f) := lookupPairs attrs hook then
        if let .function _ ← getObj f then
          attrs := setPair attrs hook (← allocRef (.classMethod (.ref f)))
    if (lookupPairs attrs "__eq__").isSome && (lookupPairs attrs "__hash__").isNone then
      attrs := attrs.push ("__hash__", .none)
    if (lookupPairs attrs "__qualname__").isNone then attrs := attrs.push ("__qualname__", .str name)
    if (lookupPairs attrs "__module__").isNone then
      if let some g := (← get).callerGlobals then
        if let some m ← scopeGet g "__name__" then attrs := attrs.push ("__module__", m)
    if let some sv := lookupPairs attrs "__slots__" then
      for n in ← slotNames sv do
        if (lookupPairs attrs n).isSome then
          throwExc "ValueError" ("'" ++ n ++ "' in __slots__ conflicts with class variable")
    setObj addr (.userClass name refs mro attrs metaclass)
    let cls := Value.ref addr
    for (k, v) in attrs do
      if let some fn ← lookupSpecial v "__set_name__" then
        discard <| callValue fuel fn [v, cls, .str k] []
    let parentHook ← mro.drop 1 |>.findSomeM? fun k => do
      match k with
      | .user b =>
        match ← getObj b with
        | .userClass _ _ _ battrs _ => return lookupPairs battrs "__init_subclass__"
        | _ => return none
      | .builtin _ => return none
    match parentHook with
    | some hook =>
      let fn ← match hook with
        | .ref f =>
          match ← getObj f with
          | .classMethod g => pure g
          | _ => pure hook
        | _ => pure hook
      discard <| callValue fuel fn [cls] kw
    | none =>
      if !kw.isEmpty then
        throwExc "TypeError" (name ++ ".__init_subclass__() takes no keyword arguments")
    return cls

/-- `type(name, bases, namespace)`, or the metaclass `metaclass` called the same way: the class
made from the arguments. -/
def classFromArgs (fuel : Nat) (metaclass : ClassRef) (args : List Value)
    (kw : List (String × Value)) : Eval Value :=
  match fuel with
  | 0 => throw .exhausted
  | fuel + 1 => do
    match args with
    | [nameV, basesV, nsV] =>
      let name ← match nameV with
        | .str s => pure s
        | v => throwExc "TypeError" ("type.__new__() argument 1 must be str, not " ++ (← typeName v))
      let baseVals ← match basesV with
        | .tuple xs => pure xs
        | v => throwExc "TypeError" ("type.__new__() argument 2 must be tuple, not " ++ (← typeName v))
      let (nsAddr, entries) ← match nsV with
        | .ref d =>
          match ← getObj d with
          | .dict es => pure (d, es)
          | _ => throwExc "TypeError" ("type.__new__() argument 3 must be dict, not " ++
              (← typeName nsV))
        | v => throwExc "TypeError" ("type.__new__() argument 3 must be dict, not " ++ (← typeName v))
      let refs ← baseVals.mapM fun b => do
        match ← classOfValue? b with
        | some k => pure k
        | none => throwExc "TypeError" ("type.__new__() argument 2 must be tuple of classes")
      let metaclass ← winningMeta metaclass refs
      let attrs := entries.filterMap fun (k, v) =>
        match k with
        | .str s => some (s, v)
        | _ => none
      let cell := ((← get).classCells.find? (·.1 == nsAddr)).map (·.2)
      buildClass fuel metaclass name refs attrs cell kw
    | _ => throwExc "TypeError" "type() takes 1 or 3 arguments"

/-- Run a class definition and bind the class. -/
def makeClass (fuel : Nat) (fr : Frame) (name : String) (bases : List Arg) (decorators : List Expr)
    (body : List Stmt) : Eval Unit :=
  match fuel with
  | 0 => throw .exhausted
  | fuel + 1 => do
    let h : Hooks := ⟨callValue fuel, importNamed fuel⟩
    let decos ← decorators.mapM (evalExpr fuel fr)
    let (origBases, kws) ← evalArgs fuel fr bases none
    -- a base that is not a class names the classes it stands for
    let mut baseVals : List Value := []
    for b in origBases do
      if (← classOfValue? b).isSome then baseVals := baseVals ++ [b]
      else
        match ← attrIfAny h b "__mro_entries__" with
        | some fn =>
          match ← callValue fuel fn [.tuple origBases] [] with
          | .tuple xs => baseVals := baseVals ++ xs
          | _ => throwExc "TypeError" "__mro_entries__ must return a tuple"
        | none => baseVals := baseVals ++ [b]
    let mut refs : List ClassRef := []
    for b in baseVals do
      match ← classOfValue? b with
      | some k =>
        if refs.contains k then
          throwExc "TypeError" ("duplicate base class " ++ (← className k))
        refs := refs ++ [k]
      | none => throwExc "TypeError" "bases must be types"
    let given := (kws.find? (·.1 == "metaclass")).map (·.2)
    let kw := kws.filter (·.1 != "metaclass")
    let metaRef ← match given with
      | some m => classOfValue? m
      | none => pure (some (ClassRef.builtin "type"))
    let metaclass ← match metaRef with
      | some m => winningMeta m refs
      | none => pure (ClassRef.builtin "type")
    let addr ← alloc (.userClass name (if refs.isEmpty then [.builtin "object"] else refs) []
      #[] metaclass)
    let qual := fr.qualPrefix ++ name
    let moduleName ← loadName fr "__name__"
    let mut vars : Array (String × Value) := #[("__module__", moduleName), ("__qualname__", .str qual)]
    match body with
    | .expr (.lit (.str d)) :: _ => vars := vars.push ("__doc__", .str d)
    | _ => pure ()
    let scope ← alloc (.scope vars)
    let cfr : Frame := {
      kind := .classBody, locals := scope, globals := fr.globals,
      enclosing := (scopeChain fr).dropLast, nest := fr.nest + 1, owner := some addr,
      qualPrefix := qual ++ "." }
    discard <| execBlock fuel cfr body
    let mut attrs ← match ← getObj scope with
      | .scope vs => pure vs
      | _ => pure #[]
    if baseVals.length != origBases.length || !(baseVals.zip origBases).all (fun (x, y) => isSame x y) then
      attrs := setPair attrs "__orig_bases__" (.tuple origBases)
    let made ← match given, metaRef, metaclass with
      | _, some _, .builtin "type" => buildClass fuel metaclass name refs attrs (some addr) kw
      | _, some _, _ =>
        let ns ← alloc (.dict (attrs.map fun (k, v) => (.str k, v)))
        modify fun m => { m with classCells := (ns, addr) :: m.classCells }
        let r ← observe (callValue fuel (classValue metaclass)
          [.str name, .tuple (refs.map classValue), .ref ns] kw)
        modify fun m => { m with classCells := m.classCells.filter (·.1 != ns) }
        match r with
        | .ok v => pure v
        | .error s => throw s
      | some m, none, _ =>
        let ns ← allocRef (.dict (attrs.map fun (k, v) => (.str k, v)))
        callValue fuel m [.str name, .tuple (refs.map classValue), ns] kw
      | none, none, _ => buildClass fuel metaclass name refs attrs (some addr) kw
    let mut v := made
    for d in decos.reverse do
      v ← callValue fuel d [v] []
    storeName fr name v

/-- Whether a value matches a pattern, binding its captures. -/
def matchPattern (fuel : Nat) (fr : Frame) (p : Pattern) (v : Value) : Eval Bool :=
  match fuel with
  | 0 => throw .exhausted
  | fuel + 1 => do
    let h : Hooks := ⟨callValue fuel, importNamed fuel⟩
    match p with
    | .value e => eqValues h fuel v (← evalExpr fuel fr e)
    | .singleton lit => return isSame v (literalValue lit)
    | .capture none => return true
    | .capture (some n) => storeName fr n v; return true
    | .star _ => return true
    | .sequence ps =>
      let items? ← match ← unwrapData v "__iter__" with
        | .tuple xs => pure (some xs.toArray)
        | .range a b c => pure (some (← iterate h fuel (.range a b c)))
        | .ref a =>
          match ← getObj a with
          | .list xs => pure (some xs)
          | .inst _ _ _ =>
            if ← hasClassFlag v sequenceFlag then pure (some (← iterate h fuel v)) else pure none
          | _ => pure none
        | _ => pure none
      match items? with
      | none => return false
      | some items =>
        match ps.findIdx? Pattern.isStar with
        | none =>
          if items.size != ps.length then return false
          matchSeq fuel fr ps items.toList
        | some i =>
          let after := ps.length - i - 1
          if items.size < i + after then return false
          if !(← matchSeq fuel fr (ps.take i) (items.toList.take i)) then return false
          match ps[i]? with
          | some (.star (some n)) =>
            storeName fr n (← allocRef (.list (items.extract i (items.size - after))))
          | _ => pure ()
          matchSeq fuel fr (ps.drop (i + 1)) (items.toList.drop (items.size - after))
    | .mapping keys ps rest =>
      match ← unwrapData v "__getitem__" with
      | .ref a =>
        match ← getObj a with
        | .dict entries =>
          let mut used : List Value := []
          for (k, sub) in keys.zip ps do
            let kv ← evalExpr fuel fr k
            match ← dictFind h keyFuel entries kv (← hashValue h keyFuel kv) with
            | some i =>
              used := used ++ [kv]
              if !(← matchPattern fuel fr sub entries[i]!.2) then return false
            | none => return false
          if let some n := rest then
            let mut remaining := entries
            for k in used do
              match ← dictFind h keyFuel remaining k (← hashValue h keyFuel k) with
              | some i => remaining := remaining.eraseIdxIfInBounds i
              | none => pure ()
            storeName fr n (← allocRef (.dict remaining))
          return true
        | _ => return false
      | _ => return false
    | .cls ce ps kwNames kwPs =>
      let cv ← evalExpr fuel fr ce
      match ← classOfValue? cv with
      | none => throwExc "TypeError" "called match pattern must be a class"
      | some k =>
        if !(← isInstance v k) then return false
        let cname ← className k
        -- the attributes the sub-patterns look at: those `__match_args__` names for the
        -- positional ones (or the subject itself for a class that matches itself), then the
        -- keywords; an attribute looked at twice is refused, a missing one fails the match
        let mut seen : List String := []
        let mut looked : List Value := []
        if !ps.isEmpty then
          let found ← observe (getAttr h cv "__match_args__")
          let (names, matchSelf) ← match found with
            | .ok (.tuple xs) => pure (xs, false)
            | .ok other =>
              throwExc "TypeError" (cname ++ ".__match_args__ must be a tuple (got " ++
                (← typeName other) ++ ")")
            | .error (.raised e) =>
              if ← excIs e "AttributeError" then
                pure ([], match k with
                  | .builtin n => selfMatchingClasses.contains n
                  | .user _ => false)
              else throw (.raised e)
            | .error s => throw s
          let allowed := if matchSelf then 1 else names.length
          if allowed < ps.length then
            throwExc "TypeError" (cname ++ "() accepts " ++ toString allowed ++
              " positional sub-pattern" ++ (if allowed == 1 then "" else "s") ++ " (" ++
              toString ps.length ++ " given)")
          if matchSelf then looked := [v]
          else
            for nv in names.take ps.length do
              match nv with
              | .str n =>
                if seen.contains n then
                  throwExc "TypeError" (cname ++ "() got multiple sub-patterns for attribute " ++
                    Text.quote n)
                seen := n :: seen
                match ← observe (getAttr h v n) with
                | .ok x => looked := looked ++ [x]
                | .error (.raised e) =>
                  if ← excIs e "AttributeError" then return false else throw (.raised e)
                | .error s => throw s
              | other =>
                throwExc "TypeError" ("__match_args__ elements must be strings (got " ++
                  (← typeName other) ++ ")")
        for n in kwNames do
          if seen.contains n then
            throwExc "TypeError" (cname ++ "() got multiple sub-patterns for attribute " ++
              Text.quote n)
          seen := n :: seen
          match ← observe (getAttr h v n) with
          | .ok x => looked := looked ++ [x]
          | .error (.raised e) =>
            if ← excIs e "AttributeError" then return false else throw (.raised e)
          | .error s => throw s
        matchSeq fuel fr (ps ++ kwPs) looked
    | .asPat sub n =>
      if ← matchPattern fuel fr sub v then
        storeName fr n v
        return true
      else return false
    | .orPat ps =>
      for sub in ps do
        if ← matchPattern fuel fr sub v then return true
      return false

/-- Whether values match patterns one by one. -/
def matchSeq (fuel : Nat) (fr : Frame) (ps : List Pattern) (vs : List Value) : Eval Bool :=
  match fuel with
  | 0 => throw .exhausted
  | fuel + 1 => do
    for (p, v) in ps.zip vs do
      if !(← matchPattern fuel fr p v) then return false
    return true

end

end StubDoctest.Exec
