import StubDoctest.Source.Symbols
import StubDoctest.Source.Yields
import StubDoctest.Text.Quoted
import StubDoctest.Number.FloatText

/-!
# Programs refused before they run

A program that parses may still be refused before any of it runs. Three passes look at it, and
the first fault found is the program's `SyntaxError`:

1. Its future imports: those at its start (after a docstring) may name only the known
   features; `braces` is answered with `not a chance`.
2. Its symbol table (see `Symbols`).
3. The compilation of its code, statement by statement in order, each function, class body and
   comprehension as a unit of its own. This pass refuses `return` outside a function, `break`
   and `continue` outside a loop (and across an `except*` handler), `yield` and `await`
   outside a function, `yield from` and `return` with a value where an asynchronous function
   forbids them, a keyword argument repeated, a starred expression where none can stand,
   assignment targets with two starred names, binding or deleting `__debug__`, a bare
   `except:` before other handlers, a future import after the start, and patterns that can
   never be reached, bind a name twice, bind different names in alternatives, repeat a key of a
   mapping or an attribute of a class pattern.

Nothing of a refused program runs, even the parts before the fault or in branches never taken.
-/

namespace StubDoctest.Source

/-- The features a future import may name. -/
def futureFeatures : List String :=
  ["nested_scopes", "generators", "division", "absolute_import", "with_statement",
    "print_function", "unicode_literals", "barry_as_FLUFL", "generator_stop", "annotations"]

/-- Whether a statement is a future import. -/
def Stmt.isFutureImport : Stmt → Bool
  | .importFrom (some "__future__") 0 _ => true
  | _ => false

/-- How many statements at the start of a module are its docstring and its future imports. -/
def leadingRun (body : List Stmt) : Nat :=
  let doc := match body with
    | .expr (.lit (.str _)) :: _ => 1
    | _ => 0
  doc + ((body.drop doc).takeWhile Stmt.isFutureImport).length

/-- The future imports at the start of a module. -/
def leadingFutures (body : List Stmt) : List Alias :=
  ((body.take (leadingRun body)).filter Stmt.isFutureImport).flatMap fun
    | .importFrom _ _ names => names
    | _ => []

/-- The fault of a future import at the start of a module naming an unknown feature. -/
def futureFault (body : List Stmt) : Option String :=
  (leadingFutures body).findSome? fun a =>
    if a.name == "braces" then some "not a chance"
    else if futureFeatures.contains a.name then none
    else some ("future feature " ++ a.name ++ " is not defined")

/-- The kinds of unit code is translated in. -/
inductive UnitKind where
  | module | function | classBody | comprehension
  deriving DecidableEq, Inhabited

/-- The unit a piece of code is translated in, and where in it the code stands. -/
structure CodeUnit where
  /-- The kind of unit. -/
  kind : UnitKind
  /-- Whether it is an asynchronous function. -/
  isAsync : Bool := false
  /-- Whether it is a generator. -/
  isGenerator : Bool := false
  /-- Whether a lambda: no `await` in it. -/
  isLambda : Bool := false
  /-- Whether the code stands in a loop's body. -/
  inLoop : Bool := false
  /-- Whether an `except*` handler stands between the code and its innermost loop. -/
  starBeforeLoop : Bool := false
  /-- Whether the code stands in an `except*` handler of the unit. -/
  inStarHandler : Bool := false
  /-- Whether annotations are kept as text rather than evaluated. -/
  textAnnotations : Bool := false
  deriving Inhabited

/-- The unit of a function's body. -/
def CodeUnit.function (outer : CodeUnit) (isAsync : Bool) (body : List Stmt) : CodeUnit :=
  { kind := .function, isAsync := isAsync, isGenerator := bodyYields body,
    textAnnotations := outer.textAnnotations }

/-- Whether code in the unit stands inside a function. -/
def CodeUnit.inFunction (u : CodeUnit) : Bool := u.kind == .function || u.kind == .comprehension

/-- Translating, or the first fault. -/
abbrev CheckM := Except String

/-- Refuse binding `__debug__`. -/
def forbidStore (n : String) : CheckM Unit :=
  if n == "__debug__" then throw "cannot assign to __debug__" else pure ()

/-- Refuse deleting `__debug__`. -/
def forbidDelete (n : String) : CheckM Unit :=
  if n == "__debug__" then throw "cannot delete __debug__" else pure ()

/-- Refuse a call's keyword names that bind `__debug__` or repeat. -/
def checkKeywords : List String → CheckM Unit
  | [] => pure ()
  | n :: rest => do
    forbidStore n
    if rest.contains n then throw ("keyword argument repeated: " ++ n)
    checkKeywords rest

/-- The keyword names of a call's arguments. -/
def keywordNames (args : List Arg) : List String :=
  args.filterMap fun
    | .kw n _ => some n
    | _ => none

/-- A constant a mapping pattern's key folds to. -/
inductive Const where
  | none
  | bool (b : Bool)
  | int (n : Int)
  | float (x : Float)
  | complex (re im : Float)
  | str (s : String)
  | bytes (bs : List UInt8)
  deriving Inhabited

/-- The real and imaginary parts of a numeric constant, exact for integers. -/
def Const.parts : Const → Option (Sum Int Float × Float)
  | .bool b => some (.inl (if b then 1 else 0), 0)
  | .int n => some (.inl n, 0)
  | .float x => some (.inr x, 0)
  | .complex re im => some (.inr re, im)
  | _ => Option.none

/-- The double nearest a real part. -/
def realValue : Sum Int Float → Float
  | .inl n => Float.ofInt n
  | .inr x => x

/-- Equality of constants, numbers by value across their types. -/
def Const.equal (a b : Const) : Bool :=
  match a, b with
  | .none, .none => true
  | .str s, .str t => s == t
  | .bytes s, .bytes t => s == t
  | _, _ =>
    match a.parts, b.parts with
    | some (r1, i1), some (r2, i2) =>
      i1 == i2 &&
        match r1, r2 with
        | .inl m, .inl n => m == n
        | .inl m, .inr y => Number.floatEqInt y m
        | .inr x, .inl n => Number.floatEqInt x n
        | .inr x, .inr y => x == y
    | _, _ => false

/-- The constant an expression folds to, if it is one. -/
def constOf : Nat → Expr → Option Const
  | 0, _ => Option.none
  | d + 1, e =>
    match e with
    | .lit .none => some .none
    | .lit (.bool b) => some (.bool b)
    | .lit (.int n) => some (.int n)
    | .lit (.float x) => some (.float x)
    | .lit (.imag x) => some (.complex 0 x)
    | .lit (.str s) => some (.str s)
    | .lit (.bytes bs) => some (.bytes bs)
    | .unary .neg x =>
      match constOf d x with
      | some (.int n) => some (.int (-n))
      | some (.bool b) => some (.int (if b then -1 else 0))
      | some (.float y) => some (.float (-y))
      | some (.complex re im) => some (.complex (-re) (-im))
      | _ => Option.none
    | .binary op x y =>
      match op, constOf d x, constOf d y with
      | .add, some a, some (.complex re im) =>
        (a.parts.map fun (r, _) => Const.complex (realValue r + re) im)
      | .sub, some a, some (.complex re im) =>
        (a.parts.map fun (r, _) => Const.complex (realValue r - re) (0 - im))
      | _, _, _ => Option.none
    | _ => Option.none

/-- The text of a double inside a complex number's display: no `.0` for a whole number. -/
def complexPartText (x : Float) : String :=
  let t := Number.floatText x
  if t.endsWith ".0" then String.ofList (t.toList.dropLast.dropLast) else t

/-- The display form of a constant. -/
def Const.display : Const → String
  | .none => "None"
  | .bool b => if b then "True" else "False"
  | .int n => toString n
  | .float x => Number.floatText x
  | .complex re im =>
    let imText := complexPartText im
    if re == 0 && (re.toBits >>> 63) == 0 then imText ++ "j"
    else
      let sign := if imText.startsWith "-" then "" else "+"
      "(" ++ complexPartText re ++ sign ++ imText ++ "j)"
  | .str s => Text.quote s
  | .bytes bs =>
    let cs := bs.map fun b => Char.ofNat b.toNat
    let q := Text.quoteFor cs
    let body := cs.flatMap fun c =>
      if c.toNat ≥ 0x7f then ('\\' :: 'x' :: (Text.hexPadded 2 c.toNat).toList)
      else Text.escapeChar q c
    "b" ++ String.ofList (q :: body ++ [q])

/-- Record a name a pattern binds, refused when it binds `__debug__` or a name the pattern
already binds. -/
def storeCapture (n : String) (stores : List String) : CheckM (List String) := do
  forbidStore n
  if stores.contains n then
    throw ("multiple assignments to name " ++ Text.quote n ++ " in pattern")
  return stores ++ [n]

/-- Refuse a class pattern's keyword names that bind `__debug__` or repeat. -/
def checkPatternKeywords : List String → CheckM Unit
  | [] => pure ()
  | n :: rest => do
    forbidStore n
    if rest.contains n then throw ("attribute name repeated in class pattern: " ++ n)
    checkPatternKeywords rest

/-- Refuse a mapping pattern's keys that repeat a constant or are neither constants nor
attribute lookups. -/
def checkMappingKeys (keys : List Expr) : CheckM Unit := do
  let mut seen : List Const := []
  for k in keys do
    match constOf 64 k with
    | some c =>
      if seen.any (·.equal c) then
        throw ("mapping pattern checks duplicate key (" ++ c.display ++ ")")
      seen := c :: seen
    | none =>
      match k with
      | .attr _ _ => pure ()
      | _ => throw "mapping pattern keys may only match literals and attribute lookups"

/-- Whether a pattern is the wildcard `_`. -/
def Pattern.isWildcard : Pattern → Bool
  | .capture none => true
  | _ => false

mutual

/-- Translate an expression. -/
def codeExpr : Nat → CodeUnit → Expr → CheckM Unit
  | 0, _, _ => pure ()
  | d + 1, u, e => do
    let go := codeExpr d u
    match e with
    | .lit _ | .name _ => pure ()
    | .fstr parts => codeParts d u parts
    | .unary _ a => go a
    | .binary _ a b => do go a; go b
    | .andAlso a b => do go a; go b
    | .orElse a b => do go a; go b
    | .compare a rest => do
      go a
      for (_, x) in rest do go x
    | .ifElse t b o => do go t; go b; go o
    | .lambda ps body => do
      for n in ps.names do forbidStore n
      for x in ps.defaults do go x
      let lam : CodeUnit := {
        kind := .function, isGenerator := exprYields 10000 body, isLambda := true,
        textAnnotations := u.textAnnotations }
      codeExpr d lam body
    | .walrus n v => do
      go v
      forbidStore n
    | .call f args => do
      checkKeywords (keywordNames args)
      go f
      for a in args do
        match a with
        | .pos x | .star x | .kw _ x | .starstar x => go x
    | .attr o _ => go o
    | .index a b => do
      go a
      codeElt d u b
    | .slice lo hi st =>
      for x in [lo, hi, st] do
        if let some y := x then go y
    | .starred _ => throw "can't use starred expression here"
    | .tuple es | .list es | .set es => for x in es do codeElt d u x
    | .dict items =>
      for it in items do
        match it with
        | .pair k v => do go k; go v
        | .spread x => go x
    | .comp _ elt clauses => codeComp d u elt none clauses
    | .dictComp k v clauses => codeComp d u k (some v) clauses
    | .await x => do
      if !u.inFunction then throw "'await' outside function"
      if u.kind == .function && (!u.isAsync || u.isLambda) then
        throw "'await' outside async function"
      go x
    | .yield v => do
      if !u.inFunction then throw "'yield' outside function"
      if let some x := v then go x
    | .yieldFrom x => do
      if !u.inFunction then throw "'yield' outside function"
      if u.isAsync then throw "'yield from' inside async function"
      go x

/-- Translate an element of a display, which may be starred. -/
def codeElt : Nat → CodeUnit → Expr → CheckM Unit
  | 0, _, _ => pure ()
  | d + 1, u, e =>
    match e with
    | .starred x => codeExpr d u x
    | _ => codeExpr d u e

/-- Translate the pieces of a formatted string. -/
def codeParts : Nat → CodeUnit → List FPart → CheckM Unit
  | 0, _, _ => pure ()
  | d + 1, u, parts => do
    for p in parts do
      match p with
      | .text _ => pure ()
      | .field e _ _ spec => do
        codeExpr d u e
        if let some sp := spec then codeParts d u sp

/-- Translate a comprehension: its clauses and element in a unit of its own, then its first
iterable where it stands. -/
def codeComp : Nat → CodeUnit → Expr → Option Expr → List CompFor → CheckM Unit
  | 0, _, _, _, _ => pure ()
  | d + 1, u, elt, value, clauses => do
    match clauses with
    | [] => pure ()
    | .mk _ target iter conds :: rest =>
      let inner : CodeUnit := { kind := .comprehension, textAnnotations := u.textAnnotations }
      codeTarget d inner target
      for c in conds do codeExpr d inner c
      for cl in rest do
        let .mk _ t i cs := cl
        codeExpr d inner i
        codeTarget d inner t
        for c in cs do codeExpr d inner c
      codeExpr d inner elt
      if let some v := value then codeExpr d inner v
      codeExpr d u iter

/-- Translate an assignment target. -/
def codeTarget : Nat → CodeUnit → Expr → CheckM Unit
  | 0, _, _ => pure ()
  | d + 1, u, e =>
    match e with
    | .name n => forbidStore n
    | .attr o n => do
      forbidStore n
      codeExpr d u o
    | .index a b => do
      codeExpr d u a
      codeElt d u b
    | .tuple es | .list es => do
      let stars := es.filter Expr.isStarred
      if stars.length > 1 then throw "multiple starred expressions in assignment"
      if (es.takeWhile (!·.isStarred)).length ≥ 256 && stars.length == 1 then
        throw "too many expressions in star-unpacking assignment"
      for x in es do
        match x with
        | .starred y => codeTarget d u y
        | _ => codeTarget d u x
    | .starred _ => throw "starred assignment target must be in a list or tuple"
    | _ => codeExpr d u e

/-- Translate a target of `del`. -/
def codeDelete : Nat → CodeUnit → Expr → CheckM Unit
  | 0, _, _ => pure ()
  | d + 1, u, e =>
    match e with
    | .name n => forbidDelete n
    | .attr o n => do
      forbidDelete n
      codeExpr d u o
    | .tuple es | .list es => for x in es do codeDelete d u x
    | _ => codeExpr d u e

/-- Translate a pattern; `allow` says whether it may match anything, `stores` are the names
the enclosing pattern binds so far, and the result adds this one's. -/
def codePattern : Nat → CodeUnit → Bool → List String → Pattern → CheckM (List String)
  | 0, _, _, stores, _ => pure stores
  | d + 1, u, allow, stores, p => do
    match p with
    | .value e => do
      codeExpr d u e
      return stores
    | .singleton _ => return stores
    | .capture none =>
      if !allow then throw "wildcard makes remaining patterns unreachable"
      return stores
    | .capture (some n) =>
      if !allow then
        throw ("name capture " ++ Text.quote n ++ " makes remaining patterns unreachable")
      storeCapture n stores
    | .star none => return stores
    | .star (some n) => storeCapture n stores
    | .asPat q n => do
      let stores ← codePattern d u allow stores q
      storeCapture n stores
    | .sequence ps => do
      if (ps.filter Pattern.isStar).length > 1 then
        throw "multiple starred names in sequence pattern"
      let mut st := stores
      for q in ps do st ← codePattern d u true st q
      return st
    | .mapping keys ps rest => do
      checkMappingKeys keys
      for k in keys do codeExpr d u k
      let mut st := stores
      for q in ps do st ← codePattern d u true st q
      match rest with
      | some r => storeCapture r st
      | none => return st
    | .cls c ps kwNames kwPs => do
      checkPatternKeywords kwNames
      codeExpr d u c
      let mut st := stores
      for q in ps ++ kwPs do st ← codePattern d u true st q
      return st
    | .orPat ps => do
      let mut control : Option (List String) := none
      let n := ps.length
      let mut i := 0
      for q in ps do
        let names ← codePattern d u (allow && i + 1 == n) [] q
        match control with
        | none => control := some names
        | some ctl =>
          if names.length != ctl.length || ctl.any (!names.contains ·) then
            throw "alternative patterns bind different names"
        i := i + 1
      let mut st := stores
      for name in control.getD [] do st ← storeCapture name st
      return st

/-- Translate a statement; `lead` says whether it stands among a module's leading future
imports. -/
def codeStmt : Nat → CodeUnit → Bool → Stmt → CheckM Unit
  | 0, _, _, _ => pure ()
  | d + 1, u, lead, s => do
    let ex := codeExpr d u
    let block := fun (v : CodeUnit) (ss : List Stmt) => ss.forM (codeStmt d v false)
    let loopBody : CodeUnit := { u with inLoop := true, starBeforeLoop := false }
    match s with
    | .expr e => ex e
    | .assign targets value => do
      ex value
      for t in targets do codeTarget d u t
    | .augAssign target _ value =>
      match target with
      | .name n => do
        ex value
        forbidStore n
      | .attr o _ => do
        ex o
        ex value
      | .index a b => do
        ex a
        codeElt d u b
        ex value
      | _ => ex value
    | .annAssign target ann value => do
      if let some v := value then
        ex v
        codeTarget d u target
      match target with
      | .name n =>
        forbidStore n
        if (u.kind == .module || u.kind == .classBody) && !u.textAnnotations then ex ann
      | .attr o n =>
        forbidStore n
        if value.isNone then ex o
      | .index a b =>
        if value.isNone then
          ex a
          codeElt d u b
      | _ => pure ()
    | .pass | .global _ | .nonlocal _ => pure ()
    | .brk =>
      if u.starBeforeLoop then
        throw "'break', 'continue' and 'return' cannot appear in an except* block"
      if !u.inLoop then throw "'break' outside loop"
    | .cont =>
      if u.starBeforeLoop then
        throw "'break', 'continue' and 'return' cannot appear in an except* block"
      if !u.inLoop then throw "'continue' not properly in loop"
    | .ret v => do
      if u.kind != .function then throw "'return' outside function"
      if v.isSome && u.isAsync && u.isGenerator then
        throw "'return' with value in async generator"
      if let some x := v then ex x
      if u.inStarHandler then
        throw "'break', 'continue' and 'return' cannot appear in an except* block"
    | .raise exc cause => do
      if let some x := exc then ex x
      if let some x := cause then ex x
    | .del targets => for t in targets do codeDelete d u t
    | .assert test msg => do
      ex test
      if let some m := msg then ex m
    | .importNames aliases => for a in aliases do forbidStore a.boundName
    | .importFrom module _ names => do
      if module == some "__future__" && !lead then
        throw "from __future__ imports must occur at the beginning of the file"
      for a in names do
        if a.name != "*" then forbidStore a.boundName
    | .ifElse test b o => do
      ex test
      block u b
      block u o
    | .while test b o => do
      ex test
      block loopBody b
      block u o
    | .forIn isAsync target iter b o => do
      if isAsync && !(u.kind == .function && u.isAsync) then
        throw "'async for' outside async function"
      ex iter
      codeTarget d u target
      block loopBody b
      block u o
    | .with isAsync items b => do
      if isAsync && !(u.kind == .function && u.isAsync) then
        throw "'async with' outside async function"
      for (ctx, target) in items do
        ex ctx
        if let some t := target then codeTarget d u t
      block u b
    | .tryExcept b handlers o f star => do
      block u b
      block u o
      let n := handlers.length
      let mut i := 0
      for hd in handlers do
        let .mk t name hb := hd
        if t.isNone && i + 1 < n then throw "default 'except:' must be last"
        if let some x := t then ex x
        if let some nm := name then forbidStore nm
        let inner := if star then { u with starBeforeLoop := true, inStarHandler := true } else u
        block inner hb
        i := i + 1
      block u f
    | .funcDef isAsync name ps returns decorators b _ => do
      for n in ps.names do forbidStore n
      for x in decorators do ex x
      for x in ps.defaults do ex x
      if !u.textAnnotations then
        for x in ps.annotations do ex x
        if let some r := returns then ex r
      block (u.function isAsync b) b
      forbidStore name
    | .classDef name bases decorators b _ => do
      for x in decorators do ex x
      block { kind := .classBody, textAnnotations := u.textAnnotations } b
      checkKeywords (keywordNames bases)
      for a in bases do
        match a with
        | .pos x | .star x | .kw _ x | .starstar x => ex x
      forbidStore name
    | .matchCases subject cases => do
      ex subject
      let n := cases.length
      let hasDefault := n > 1 && (cases.getLast?.map fun | .mk p _ _ => p.isWildcard).getD false
      let mut i := 0
      for c in cases do
        let .mk p guard cb := c
        if !(hasDefault && i + 1 == n) then
          discard <| codePattern d u (guard.isSome || i + 1 == n) [] p
        if let some g := guard then ex g
        block u cb
        i := i + 1

end

/-- The fault the compilation of a module's statements meets first. -/
def codeFault (body : List Stmt) : Option String :=
  let lead := leadingRun body
  let u : CodeUnit := {
    kind := .module, textAnnotations := (leadingFutures body).any (·.name == "annotations") }
  let rec go (i : Nat) : List Stmt → CheckM Unit
    | [] => pure ()
    | s :: rest => do
      codeStmt symbolDepth u (i < lead) s
      go (i + 1) rest
  match go 0 body with
  | .error msg => some msg
  | .ok () => none

/-- Why a module that parses is refused before it runs: the first fault of its future
imports, its symbol table, or the compilation of its code. -/
def compileFault (body : List Stmt) : Option String :=
  (futureFault body).orElse fun _ => (symbolFault body).orElse fun _ => codeFault body

end StubDoctest.Source
