import StubDoctest.Source.Tree

/-!
# The symbol table of a program

Before a program runs, each of its blocks (the module, every function, lambda and
comprehension, every class body) records how it binds, uses and declares each name, in the
order the names first appear. A block is built by walking its statements in order; the blocks
nested in it are built when the walk reaches them, and hold their own names.

Some programs are refused while the table is built, by the first fault met on the walk:

* a parameter named twice;
* `global` or `nonlocal` for a name the block has already used, assigned or annotated, or
  that is a parameter;
* an assignment expression in a comprehension that rebinds one of its iteration variables,
  stands in an iterable of the comprehension, or would bind in a class body; and an iteration
  variable that rebinds an assignment expression's target;
* `yield` inside a comprehension;
* `from m import *` outside the module.

Others once it is built: a name declared both `global` and `nonlocal`, `nonlocal` in the
module, and `nonlocal` for a name no enclosing function binds. These are found block by block,
each block's own names before the blocks nested in it; the names an enclosing function binds
are seen through class bodies, whose own names are not.
-/

namespace StubDoctest.Source

/-- What a block records about a name. -/
structure NameFlags where
  /-- It is a parameter. -/
  param : Bool := false
  /-- It is assigned, defined or deleted. -/
  assigned : Bool := false
  /-- It is imported. -/
  imported : Bool := false
  /-- It is read. -/
  used : Bool := false
  /-- It is declared `global`. -/
  global : Bool := false
  /-- It is declared `nonlocal`. -/
  nonlocal : Bool := false
  /-- It is annotated. -/
  annotated : Bool := false
  /-- It is an iteration variable of a comprehension. -/
  iterVar : Bool := false
  deriving Inhabited

/-- How a name occurs. -/
inductive Occurrence where
  | param | assign | import | use | global | nonlocal | annotate
  deriving DecidableEq, Inhabited

/-- The flags with one more occurrence recorded. -/
def NameFlags.add (fl : NameFlags) : Occurrence → NameFlags
  | .param => { fl with param := true }
  | .assign => { fl with assigned := true }
  | .import => { fl with imported := true }
  | .use => { fl with used := true }
  | .global => { fl with global := true }
  | .nonlocal => { fl with nonlocal := true }
  | .annotate => { fl with annotated := true, assigned := true }

/-- The kinds of block. -/
inductive BlockKind where
  | module | function | classBody
  deriving DecidableEq, Inhabited

/-- A finished block: its kind, its names in the order they first appear, and the blocks
nested in it. -/
inductive SymTable where
  | mk (kind : BlockKind) (names : List (String × NameFlags)) (children : List SymTable)
  deriving Inhabited

/-- A block while its statements are walked. -/
structure OpenBlock where
  /-- Its kind. -/
  kind : BlockKind
  /-- For a comprehension, what the errors call it: `list comprehension` and so on. -/
  comprehension : Option String := none
  /-- Its names so far. -/
  names : Array (String × NameFlags) := #[]
  /-- The blocks nested in it, finished. -/
  children : Array SymTable := #[]
  /-- How many iterables of comprehensions the walk is inside. -/
  iterDepth : Nat := 0
  /-- Whether the walk is in the target of a comprehension's `for`. -/
  iterTarget : Bool := false
  deriving Inhabited

/-- Building the table: the open blocks, innermost first, or the first fault. -/
abbrev SymM := StateT (List OpenBlock) (Except String)

/-- The flags a block has for a name. -/
def OpenBlock.flags (b : OpenBlock) (n : String) : NameFlags :=
  ((b.names.find? (·.1 == n)).map (·.2)).getD {}

/-- The block with new flags for a name, which keeps its place. -/
def OpenBlock.setFlags (b : OpenBlock) (n : String) (fl : NameFlags) : OpenBlock :=
  match b.names.findIdx? (·.1 == n) with
  | some i => { b with names := b.names.set! i (n, fl) }
  | none => { b with names := b.names.push (n, fl) }

/-- The innermost open block. -/
def currentBlock : SymM OpenBlock := do
  return (← get).headD default

/-- Change the innermost open block. -/
def modifyBlock (f : OpenBlock → OpenBlock) : SymM Unit :=
  modify fun
    | b :: bs => f b :: bs
    | [] => []

/-- Record an occurrence of a name in the innermost block. -/
def addName (n : String) (occ : Occurrence) : SymM Unit := do
  let b ← currentBlock
  let old := b.flags n
  if occ == .param && old.param then
    throw ("duplicate argument '" ++ n ++ "' in function definition")
  let mut fl := old.add occ
  if b.iterTarget then
    if fl.global || fl.nonlocal then
      throw ("comprehension inner loop cannot rebind assignment expression target '" ++ n ++ "'")
    fl := { fl with iterVar := true }
  modifyBlock (·.setFlags n fl)

/-- Open a block nested in the innermost one. -/
def openBlock (kind : BlockKind) (comprehension : Option String := none) : SymM Unit :=
  modify fun bs => { kind := kind, comprehension := comprehension } :: bs

/-- Finish the innermost block, nesting it in the one around it. -/
def closeBlock : SymM Unit :=
  modify fun
    | b :: outer :: bs =>
      { outer with children := outer.children.push (.mk b.kind b.names.toList b.children.toList) } :: bs
    | bs => bs

/-- Walk with the innermost block inside one more iterable of a comprehension. -/
def inIterable (act : SymM Unit) : SymM Unit := do
  modifyBlock fun b => { b with iterDepth := b.iterDepth + 1 }
  act
  modifyBlock fun b => { b with iterDepth := b.iterDepth - 1 }

/-- Walk a comprehension's target: the names it binds are iteration variables. -/
def inIterTarget (act : SymM Unit) : SymM Unit := do
  modifyBlock fun b => { b with iterTarget := true }
  act
  modifyBlock fun b => { b with iterTarget := false }

/-- Record a `global` or `nonlocal` declaration, refused for a name the block has already
met otherwise. -/
def declareName (n : String) (isGlobal : Bool) : SymM Unit := do
  let fl := (← currentBlock).flags n
  let what := if isGlobal then "global" else "nonlocal"
  if fl.param then throw ("name '" ++ n ++ "' is parameter and " ++ what)
  if fl.used then throw ("name '" ++ n ++ "' is used prior to " ++ what ++ " declaration")
  if fl.annotated then throw ("annotated name '" ++ n ++ "' can't be " ++ what)
  if fl.assigned then throw ("name '" ++ n ++ "' is assigned to before " ++ what ++ " declaration")
  addName n (if isGlobal then .global else .nonlocal)

/-- The block an assignment expression in a comprehension binds in: the nearest enclosing
function or the module, past the comprehensions, none of which may have the name as an
iteration variable. The name is declared in the innermost comprehension accordingly. -/
def bindFromComprehension (n : String) : SymM Unit := do
  let stack ← get
  let rec find (i : Nat) (bs : List OpenBlock) : SymM Unit :=
    match bs with
    | [] => pure ()
    | b :: rest => do
      if b.comprehension.isSome then
        if (b.flags n).iterVar then
          throw ("assignment expression cannot rebind comprehension iteration variable '" ++ n ++ "'")
        find (i + 1) rest
      else
        match b.kind with
        | .classBody =>
          throw "assignment expression within a comprehension cannot be used in a class body"
        | .function => do
          let occ := if (b.flags n).global then Occurrence.global else .nonlocal
          addName n occ
          modify fun bs => bs.modify i fun blk => blk.setFlags n ((blk.flags n).add .assign)
        | .module => do
          addName n .global
          modify fun bs => bs.modify i fun blk => blk.setFlags n ((blk.flags n).add .global)
  find 0 stack

/-- The name an `import` binds: the `as` name, else the first part of the dotted name. -/
def Alias.boundName (a : Alias) : String :=
  a.asName.getD ((a.name.splitOn ".").headD a.name)

/-- The parameter names, in the order the table records them: positional-only, ordinary,
keyword-only, then the collectors. -/
def Params.names : Params → List String
  | .mk posOnly regular varArgs kwOnly varKw =>
    let nm : Param → String := fun | .mk n _ _ => n
    (posOnly ++ regular ++ kwOnly).map nm ++ varArgs.toList.map nm ++ varKw.toList.map nm

/-- The default values of parameters: the positional ones, then the keyword-only ones. -/
def Params.defaults : Params → List Expr
  | .mk posOnly regular _ kwOnly _ =>
    let d : Param → Option Expr := fun | .mk _ _ e => e
    (posOnly ++ regular).filterMap d ++ kwOnly.filterMap d

/-- The annotations of parameters: positional ones, the positional collector, keyword-only
ones, the keyword collector. -/
def Params.annotations : Params → List Expr
  | .mk posOnly regular varArgs kwOnly varKw =>
    let a : Param → Option Expr := fun | .mk _ e _ => e
    (posOnly ++ regular).filterMap a ++ varArgs.toList.filterMap a ++ kwOnly.filterMap a ++
      varKw.toList.filterMap a

/-- What the errors call a comprehension of a kind. -/
def CompKind.scopeWords : CompKind → String
  | .list => "list comprehension"
  | .set => "set comprehension"
  | .gen => "generator expression"

mutual

/-- Walk an expression; `depth` bounds the nesting. -/
def symExpr : Nat → Expr → SymM Unit
  | 0, _ => pure ()
  | d + 1, e => do
    let go := symExpr d
    match e with
    | .lit _ => pure ()
    | .name n => addName n .use
    | .fstr parts => symParts d parts
    | .unary _ a => go a
    | .binary _ a b => do go a; go b
    | .andAlso a b => do go a; go b
    | .orElse a b => do go a; go b
    | .compare a rest => do
      go a
      for (_, x) in rest do go x
    | .ifElse t b o => do go t; go b; go o
    | .lambda ps body => do
      for x in ps.defaults do go x
      openBlock .function
      for n in ps.names do addName n .param
      go body
      closeBlock
    | .walrus n v => do
      let b ← currentBlock
      if b.iterDepth > 0 then
        throw "assignment expression cannot be used in a comprehension iterable expression"
      if b.comprehension.isSome then bindFromComprehension n
      go v
      addName n .assign
    | .call f args => do
      go f
      for a in args do symArg d a
    | .attr o _ => go o
    | .index a b => do go a; go b
    | .slice lo hi st => do
      for x in [lo, hi, st] do
        if let some y := x then go y
    | .starred x => go x
    | .tuple es => for x in es do go x
    | .list es => for x in es do go x
    | .set es => for x in es do go x
    | .dict items =>
      for it in items do
        match it with
        | .pair k v => do go k; go v
        | .spread x => go x
    | .comp kind elt clauses => symComp d kind.scopeWords elt none clauses
    | .dictComp k v clauses => symComp d "dict comprehension" k (some v) clauses
    | .await x => go x
    | .yield v => do
      if let some x := v then go x
      symYield
    | .yieldFrom x => do
      go x
      symYield

/-- A `yield` in the innermost block, refused in a comprehension. -/
def symYield : SymM Unit := do
  match (← currentBlock).comprehension with
  | some what => throw ("'yield' inside " ++ what)
  | none => pure ()

/-- Walk the pieces of a formatted string. -/
def symParts : Nat → List FPart → SymM Unit
  | 0, _ => pure ()
  | d + 1, parts => do
    for p in parts do
      match p with
      | .text _ => pure ()
      | .field e _ _ spec => do
        symExpr d e
        if let some sp := spec then symParts d sp

/-- Walk an argument of a call. -/
def symArg : Nat → Arg → SymM Unit
  | 0, _ => pure ()
  | d + 1, a =>
    match a with
    | .pos e | .star e | .kw _ e | .starstar e => symExpr d e

/-- Walk a comprehension: its first iterable in the block it stands in, the rest in a block of
its own that receives the first iterator as its argument. -/
def symComp : Nat → String → Expr → Option Expr → List CompFor → SymM Unit
  | 0, _, _, _, _ => pure ()
  | d + 1, what, elt, value, clauses => do
    match clauses with
    | [] => pure ()
    | .mk _ target iter conds :: rest =>
      inIterable (symExpr d iter)
      openBlock .function (some what)
      addName ".0" .param
      inIterTarget (symTarget d target)
      for c in conds do symExpr d c
      for cl in rest do
        let .mk _ t i cs := cl
        inIterTarget (symTarget d t)
        inIterable (symExpr d i)
        for c in cs do symExpr d c
      if let some v := value then symExpr d v
      symExpr d elt
      closeBlock

/-- Walk an assignment target: names in it are bound, other parts are read. -/
def symTarget : Nat → Expr → SymM Unit
  | 0, _ => pure ()
  | d + 1, e =>
    match e with
    | .name n => addName n .assign
    | .tuple es | .list es => for x in es do symTarget d x
    | .starred x => symTarget d x
    | _ => symExpr d e

/-- Walk a pattern: its captures are bound. -/
def symPattern : Nat → Pattern → SymM Unit
  | 0, _ => pure ()
  | d + 1, p =>
    match p with
    | .value e => symExpr d e
    | .singleton _ => pure ()
    | .capture n | .star n => if let some x := n then addName x .assign else pure ()
    | .sequence ps | .orPat ps => for q in ps do symPattern d q
    | .mapping keys ps rest => do
      for k in keys do symExpr d k
      for q in ps do symPattern d q
      if let some r := rest then addName r .assign
    | .cls c ps _ kwPs => do
      symExpr d c
      for q in ps ++ kwPs do symPattern d q
    | .asPat q n => do
      symPattern d q
      addName n .assign

/-- Walk a statement. -/
def symStmt : Nat → Stmt → SymM Unit
  | 0, _ => pure ()
  | d + 1, s => do
    let ex := symExpr d
    let body := fun (ss : List Stmt) => ss.forM (symStmt d)
    match s with
    | .expr e => ex e
    | .assign targets value => do
      for t in targets do symTarget d t
      ex value
    | .augAssign target _ value => do
      symTarget d target
      ex value
    | .annAssign target ann value => do
      match target with
      | .name n =>
        let b ← currentBlock
        let fl := b.flags n
        if b.kind != .module && (fl.global || fl.nonlocal) then
          throw ("annotated name '" ++ n ++ "' can't be " ++ (if fl.global then "global" else "nonlocal"))
        addName n .annotate
      | _ => symTarget d target
      ex ann
      if let some v := value then ex v
    | .pass | .brk | .cont => pure ()
    | .ret v => if let some x := v then ex x
    | .raise exc cause => do
      if let some x := exc then ex x
      if let some x := cause then ex x
    | .global names => for n in names do declareName n true
    | .nonlocal names => for n in names do declareName n false
    | .del targets => for t in targets do symTarget d t
    | .assert test msg => do
      ex test
      if let some m := msg then ex m
    | .importNames aliases => for a in aliases do addName a.boundName .import
    | .importFrom _ _ names =>
      for a in names do
        if a.name == "*" then
          if (← currentBlock).kind != .module then throw "import * only allowed at module level"
        else addName a.boundName .import
    | .ifElse test b o => do ex test; body b; body o
    | .while test b o => do ex test; body b; body o
    | .forIn _ target iter b o => do
      symTarget d target
      ex iter
      body b
      body o
    | .with _ items b => do
      for (ctx, target) in items do
        ex ctx
        if let some t := target then symTarget d t
      body b
    | .tryExcept b handlers o f _ => do
      body b
      body o
      for hd in handlers do
        let .mk t name hb := hd
        if let some x := t then ex x
        if let some n := name then addName n .assign
        body hb
      body f
    | .funcDef _ name ps returns decorators b _ => do
      addName name .assign
      for x in ps.defaults do ex x
      for x in ps.annotations do ex x
      if let some r := returns then ex r
      for x in decorators do ex x
      openBlock .function
      for n in ps.names do addName n .param
      body b
      closeBlock
    | .classDef name bases decorators b _ => do
      addName name .assign
      for a in bases do symArg d a
      for x in decorators do ex x
      openBlock .classBody
      body b
      closeBlock
    | .matchCases subject cases => do
      ex subject
      for c in cases do
        let .mk p guard cb := c
        symPattern d p
        if let some g := guard then ex g
        body cb

end

/-- The faults found once the table is built, in one block and then in the blocks nested in
it; `bound` holds the names the enclosing functions bind, and is `none` for the module. -/
def SymTable.check : Nat → SymTable → Option (List String) → Except String Unit
  | 0, _, _ => pure ()
  | d + 1, .mk kind names children, bound => do
    for (n, fl) in names do
      if fl.global then
        if fl.nonlocal then throw ("name '" ++ n ++ "' is nonlocal and global")
      else if fl.nonlocal then
        match bound with
        | none => throw "nonlocal declaration not allowed at module level"
        | some bs =>
          if !bs.contains n then throw ("no binding for nonlocal '" ++ n ++ "' found")
    let locals := names.filterMap fun (n, fl) =>
      if !fl.global && !fl.nonlocal && (fl.param || fl.assigned || fl.imported) then some n
      else none
    let inner := match kind with
      | .function => locals ++ bound.getD []
      | _ => bound.getD []
    for c in children do
      SymTable.check d c (some inner)

/-- The depth of nesting the walks look into. -/
def symbolDepth : Nat := 10000

/-- The symbol table of a module's statements, or the first fault that refuses them. -/
def symbolTable (body : List Stmt) : Except String SymTable := do
  let ((), st) ← (body.forM (symStmt symbolDepth)).run [{ kind := .module }]
  match st with
  | [b] => return .mk b.kind b.names.toList b.children.toList
  | _ => return .mk .module [] []

/-- The first fault the symbol table finds in a module's statements. -/
def symbolFault (body : List Stmt) : Option String :=
  match symbolTable body with
  | .error msg => some msg
  | .ok t =>
    match t.check symbolDepth none with
    | .error msg => some msg
    | .ok () => none

end StubDoctest.Source
