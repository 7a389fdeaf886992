import StubDoctest.Source.Parser.Pattern

/-!
# Parsing statements

A module is a sequence of statements up to the end marker. A line of simple statements is
separated by `;` and ended by a newline; a compound statement (`if`, `while`, `for`, `with`,
`try`, `def`, `class`, `match`, each optionally decorated or `async` where the grammar allows)
owns blocks, each either the rest of its line or an indented run of statements.

Targets of assignments are read as expressions and then checked (`isStarTarget`,
`isSingleTarget`, `isDelTarget`). `match` is a keyword only where a match statement can be
read; otherwise the line is read as simple statements.

Two entry points: `parseModule` reads a whole file; `parseSingle` reads one statement as an
interactive prompt does, where the end of the text also ends the statement and anything but
blanks and comments after it is a fault.
-/

namespace StubDoctest.Source

/-- Expect a colon at `i`. A missing colon is named when the grammar forces one, or when the
line ends where it should stand. -/
def expectColon (ts : Tokens) (i : Nat) (forced : Bool) : Except SyntaxFault Nat :=
  if isOp ts i ":" then .ok (i + 1)
  else if forced || isKind ts i .newline then .error (faultAt ts i "expected ':'")
  else .error (faultAt ts i)

/-- A dotted name from `i`. -/
def dottedName (fuel : Nat) (ts : Tokens) (i : Nat) : Except SyntaxFault (String × Nat) :=
  match fuel with
  | 0 => .error (faultAt ts i)
  | fuel + 1 => do
    let (n, j) ← expectName ts i
    if isOp ts j "." then
      let (rest, k) ← dottedName fuel ts (j + 1)
      return (n ++ "." ++ rest, k)
    else return (n, j)

/-- An optional `as name` at `i`. -/
def asName (ts : Tokens) (i : Nat) : Except SyntaxFault (Option String × Nat) :=
  if isWord ts i "as" then do
    let (n, j) ← expectName ts (i + 1)
    return (some n, j)
  else return (none, i)

/-- Dotted names with optional `as`, separated by commas. -/
def importAliases (fuel : Nat) (ts : Tokens) (i : Nat) : Except SyntaxFault (List Alias × Nat) :=
  match fuel with
  | 0 => .error (faultAt ts i)
  | fuel + 1 => do
    let (n, j) ← dottedName (ts.size + 1) ts i
    let (a, k) ← asName ts j
    if isOp ts k "," then
      let (more, l) ← importAliases fuel ts (k + 1)
      return (⟨n, a⟩ :: more, l)
    else return ([⟨n, a⟩], k)

/-- Names with optional `as` after `from ... import`, separated by commas; a trailing comma
only inside parentheses. -/
def fromAliases (fuel : Nat) (ts : Tokens) (i : Nat) (parens : Bool) :
    Except SyntaxFault (List Alias × Nat) :=
  match fuel with
  | 0 => .error (faultAt ts i)
  | fuel + 1 => do
    let (n, j) ← expectName ts i
    let (a, k) ← asName ts j
    if isOp ts k "," then
      if parens && isOp ts (k + 1) ")" then return ([⟨n, a⟩], k + 1)
      else if !parens && (isKind ts (k + 1) .newline || isOp ts (k + 1) ";") then
        throw (faultAt ts k "trailing comma not allowed without surrounding parentheses")
      else
        let (more, l) ← fromAliases fuel ts (k + 1) parens
        return (⟨n, a⟩ :: more, l)
    else return ([⟨n, a⟩], k)

/-- The number of dots of a relative import from `i`, with the index after them. -/
def importDots (fuel : Nat) (ts : Tokens) (i : Nat) : Nat × Nat :=
  match fuel with
  | 0 => (0, i)
  | fuel + 1 =>
    if isOp ts i "." then
      let (n, j) := importDots fuel ts (i + 1)
      (n + 1, j)
    else if isOp ts i "..." then
      let (n, j) := importDots fuel ts (i + 1)
      (n + 3, j)
    else (0, i)

/-- `import a.b as c, d`. -/
def importStmt (ts : Tokens) (i : Nat) : Except SyntaxFault (Stmt × Nat) := do
  let (names, j) ← importAliases (ts.size + 1) ts (i + 1)
  return (.importNames names, j)

/-- `from ..a import b as c`, `from a import (b, c)` or `from a import *`. -/
def fromStmt (ts : Tokens) (i : Nat) : Except SyntaxFault (Stmt × Nat) := do
  let (level, j) := importDots (ts.size + 1) ts (i + 1)
  let (module, k) ←
    if isWord ts j "import" then
      if level = 0 then throw (faultAt ts j) else pure (none, j)
    else do
      let (m, k) ← dottedName (ts.size + 1) ts j
      pure (some m, k)
  if !isWord ts k "import" then throw (faultAt ts k)
  if isOp ts (k + 1) "*" then return (.importFrom module level [⟨"*", none⟩], k + 2)
  else if isOp ts (k + 1) "(" then
    let (names, l) ← fromAliases (ts.size + 1) ts (k + 2) true
    let l ← expectOp ts l ")"
    return (.importFrom module level names, l)
  else
    let (names, l) ← fromAliases (ts.size + 1) ts (k + 1) false
    return (.importFrom module level names, l)

/-- Names separated by commas, for `global` and `nonlocal`. -/
def nameList (fuel : Nat) (ts : Tokens) (i : Nat) : Except SyntaxFault (List String × Nat) :=
  match fuel with
  | 0 => .error (faultAt ts i)
  | fuel + 1 => do
    let (n, j) ← expectName ts i
    if isOp ts j "," then
      let (more, k) ← nameList fuel ts (j + 1)
      return (n :: more, k)
    else return ([n], j)

/-- Whether an expression stands at the level of `|` or tighter, the level at which a
mistaken `=` is taken for a comparison in the message. -/
def Expr.isOperand : Expr → Bool
  | .compare _ _ => false
  | .unary .not _ => false
  | .andAlso _ _ => false
  | .orElse _ _ => false
  | .ifElse _ _ _ => false
  | .lambda _ _ => false
  | .walrus _ _ => false
  | .starred _ => false
  | .tuple _ => false
  | .list _ => false
  | .comp .gen _ _ => false
  | .lit .none => false
  | .lit (.bool _) => false
  | .yield _ => false
  | .yieldFrom _ => false
  | _ => true

/-- The fault for an assignment whose targets are `targets`, if one is invalid: `single`
when the statement is one target and one value. -/
def assignFault (ts : Tokens) (i : Nat) (single : Bool) : List Expr → Option SyntaxFault
  | [] => none
  | t :: rest =>
    match t with
    | .yield _ => some (faultAt ts i "assignment to yield expression not possible")
    | .yieldFrom _ => some (faultAt ts i "assignment to yield expression not possible")
    | _ =>
      match invalidTarget t with
      | none => assignFault ts i false rest
      | some b =>
        if single && t.isOperand then
          some (faultAt ts i ("cannot assign to " ++ targetKind b ++
            " here. Maybe you meant '==' instead of '='?"))
        else some (faultAt ts i ("cannot assign to " ++ targetKind b))

/-- Whether the token at `i` starts a compound statement. -/
def startsCompound (ts : Tokens) (i : Nat) : Bool :=
  match (tokAt ts i).kind with
  | .name n => ["def", "class", "if", "while", "for", "with", "try", "async"].contains n
  | .op "@" => true
  | _ => false

mutual

/-- One statement: a compound statement, or a line of simple statements. -/
def statement (f : Nat) (ts : Tokens) (i : Nat) : Except SyntaxFault (List Stmt × Nat) :=
  match f with
  | 0 => .error (faultAt ts i "too many nested blocks")
  | f + 1 =>
    if isKind ts i .indent then .error (indentFaultAt ts i "unexpected indent")
    else if startsCompound ts i then do
      let (s, j) ← compound f ts i
      return ([s], j)
    else if isWord ts i "match" then
      match matchStmt f ts i with
      | .ok (some (s, j)) => .ok ([s], j)
      | .ok none => simpleStmts f ts i
      | .error e => .error e
    else simpleStmts f ts i

/-- Simple statements separated by `;` up to the end of the line. -/
def simpleStmts (f : Nat) (ts : Tokens) (i : Nat) : Except SyntaxFault (List Stmt × Nat) :=
  match f with
  | 0 => .error (faultAt ts i "too many nested blocks")
  | f + 1 => do
    let (s, j) ← simpleStmt f ts i
    if isOp ts j ";" then
      if isKind ts (j + 1) .newline then return ([s], j + 2)
      else
        let (ss, k) ← simpleStmts f ts (j + 1)
        return (s :: ss, k)
    else if isKind ts j .newline then return ([s], j + 1)
    else .error (faultAt ts j)

/-- One simple statement. -/
def simpleStmt (f : Nat) (ts : Tokens) (i : Nat) : Except SyntaxFault (Stmt × Nat) :=
  match f with
  | 0 => .error (faultAt ts i "too many nested blocks")
  | f + 1 =>
    match (tokAt ts i).kind with
    | .name "pass" => .ok (.pass, i + 1)
    | .name "break" => .ok (.brk, i + 1)
    | .name "continue" => .ok (.cont, i + 1)
    | .name "return" =>
      if startsExpr ts (i + 1) then do
        let (e, j) ← starExpressions f ts (i + 1)
        return (.ret (some e), j)
      else .ok (.ret none, i + 1)
    | .name "raise" =>
      if startsExpr ts (i + 1) then do
        let (e, j) ← expression f ts (i + 1)
        if isWord ts j "from" then
          let (c, k) ← expression f ts (j + 1)
          return (.raise (some e) (some c), k)
        else return (.raise (some e) none, j)
      else .ok (.raise none none, i + 1)
    | .name "global" => do
      let (ns, j) ← nameList (ts.size + 1) ts (i + 1)
      return (.global ns, j)
    | .name "nonlocal" => do
      let (ns, j) ← nameList (ts.size + 1) ts (i + 1)
      return (.nonlocal ns, j)
    | .name "del" => do
      let (e, j) ← starExpressions f ts (i + 1)
      if !(isOp ts j ";" || isKind ts j .newline) then throw (faultAt ts j)
      match e with
      | .tuple es =>
        match es.find? (!isDelTarget ·) with
        | some b => throw (faultAt ts (i + 1) ("cannot delete " ++ targetKind b))
        | none => return (.del es, j)
      | _ =>
        if isDelTarget e then return (.del [e], j)
        else throw (faultAt ts (i + 1) ("cannot delete " ++ targetKind e))
    | .name "assert" => do
      let (e, j) ← expression f ts (i + 1)
      if isOp ts j "," then
        let (m, k) ← expression f ts (j + 1)
        return (.assert e (some m), k)
      else return (.assert e none, j)
    | .name "import" => importStmt ts i
    | .name "from" => fromStmt ts i
    | _ => exprStmt f ts i

/-- A value on the right of `=`: a `yield` expression or an expression list. -/
def rhs (f : Nat) (ts : Tokens) (i : Nat) : Except SyntaxFault (Expr × Nat) :=
  match f with
  | 0 => .error (faultAt ts i "too many nested blocks")
  | f + 1 => if isWord ts i "yield" then yieldExpr f ts i else starExpressions f ts i

/-- An expression statement, or an assignment, augmented or annotated. -/
def exprStmt (f : Nat) (ts : Tokens) (i : Nat) : Except SyntaxFault (Stmt × Nat) :=
  match f with
  | 0 => .error (faultAt ts i "too many nested blocks")
  | f + 1 => do
    let (first, j) ← rhs f ts i
    if isOp ts j ":" then
      match first with
      | .tuple _ => throw (faultAt ts i "only single target (not tuple) can be annotated")
      | .list _ => throw (faultAt ts i "only single target (not list) can be annotated")
      | _ =>
        if !isSingleTarget first then throw (faultAt ts i "illegal target for annotation")
        let (ann, k) ← expression f ts (j + 1)
        if isOp ts k "=" then
          let (v, l) ← rhs f ts (k + 1)
          return (.annAssign first ann (some v), l)
        else return (.annAssign first ann none, k)
    else
      match augOpAt? ts j with
      | some op =>
        if !isSingleTarget first then
          throw (faultAt ts i ("'" ++ targetKind first ++
            "' is an illegal expression for augmented assignment"))
        else
          let (v, k) ← rhs f ts (j + 1)
          return (.augAssign first op v, k)
      | none =>
        if isOp ts j "=" then
          let (rest, k) ← assignChain f ts (j + 1)
          let all := first :: rest
          let targets := all.dropLast
          let value := all.getLastD first
          match assignFault ts i (targets.length = 1) targets with
          | some e => throw e
          | none => return (.assign targets value, k)
        else return (.expr first, j)

/-- The values after an `=` of an assignment chain. -/
def assignChain (f : Nat) (ts : Tokens) (i : Nat) : Except SyntaxFault (List Expr × Nat) :=
  match f with
  | 0 => .error (faultAt ts i "too many nested blocks")
  | f + 1 => do
    let (v, j) ← rhs f ts i
    if isOp ts j "=" then
      let (rest, k) ← assignChain f ts (j + 1)
      return (v :: rest, k)
    else return ([v], j)

/-- A compound statement at `i`. -/
def compound (f : Nat) (ts : Tokens) (i : Nat) : Except SyntaxFault (Stmt × Nat) :=
  match f with
  | 0 => .error (faultAt ts i "too many nested blocks")
  | f + 1 =>
    match (tokAt ts i).kind with
    | .op "@" => decorated f ts i []
    | .name "def" => funcDef f ts i false []
    | .name "class" => classDef f ts i []
    | .name "if" => ifStmt f ts i "if"
    | .name "while" => whileStmt f ts i
    | .name "for" => forStmt f ts i false
    | .name "with" => withStmt f ts i false
    | .name "try" => tryStmt f ts i
    | .name "async" =>
      if isWord ts (i + 1) "def" then funcDef f ts (i + 1) true []
      else if isWord ts (i + 1) "for" then forStmt f ts (i + 1) true
      else if isWord ts (i + 1) "with" then withStmt f ts (i + 1) true
      else .error (faultAt ts (i + 1))
    | _ => .error (faultAt ts i)

/-- Decorators, each `@expression` on a line of its own, then a definition. -/
def decorated (f : Nat) (ts : Tokens) (i : Nat) (decs : List Expr) :
    Except SyntaxFault (Stmt × Nat) :=
  match f with
  | 0 => .error (faultAt ts i "too many nested blocks")
  | f + 1 =>
    if isOp ts i "@" then do
      let (d, j) ← namedExpression f ts (i + 1)
      if !isKind ts j .newline then throw (faultAt ts j)
      decorated f ts (j + 1) (d :: decs)
    else if isWord ts i "def" then funcDef f ts i false decs.reverse
    else if isWord ts i "async" && isWord ts (i + 1) "def" then
      funcDef f ts (i + 1) true decs.reverse
    else if isWord ts i "class" then classDef f ts i decs.reverse
    else .error (faultAt ts i)

/-- A block after a colon: the rest of the line, or an indented run of statements. `what`
names the statement for the fault of a missing indentation. -/
def block (f : Nat) (ts : Tokens) (i : Nat) (what : String) (line : Nat) :
    Except SyntaxFault (List Stmt × Nat) :=
  match f with
  | 0 => .error (faultAt ts i "too many nested blocks")
  | f + 1 =>
    if isKind ts i .newline then
      if isKind ts (i + 1) .indent then blockStmts f ts (i + 2) []
      else .error (indentFaultAt ts (i + 1)
        ("expected an indented block after " ++ what ++ " on line " ++ toString line))
    else simpleStmts f ts i

/-- Statements of an indented block up to and with its dedent. -/
def blockStmts (f : Nat) (ts : Tokens) (i : Nat) (acc : List Stmt) :
    Except SyntaxFault (List Stmt × Nat) :=
  match f with
  | 0 => .error (faultAt ts i "too many nested blocks")
  | f + 1 =>
    if isKind ts i .dedent then .ok (acc, i + 1)
    else if isKind ts i .endmarker then .ok (acc, i)
    else do
      let (ss, j) ← statement f ts i
      blockStmts f ts j (acc ++ ss)

/-- `def name(params) -> returns: body`, at the `def` keyword. -/
def funcDef (f : Nat) (ts : Tokens) (i : Nat) (isAsync : Bool) (decs : List Expr) :
    Except SyntaxFault (Stmt × Nat) :=
  match f with
  | 0 => .error (faultAt ts i "too many nested blocks")
  | f + 1 => do
    let line := (tokAt ts i).line
    let (name, j) ← expectName ts (i + 1)
    if !isOp ts j "(" then throw (faultAt ts j "expected '('")
    let (ps, k) ← paramList f ts (j + 1) true ")"
    let k ← expectOp ts k ")"
    let (returns, l) ←
      if isOp ts k "->" then do
        let (r, l) ← expression f ts (k + 1)
        pure (some r, l)
      else pure (none, k)
    let m ← expectColon ts l true
    let (body, n) ← block f ts m "function definition" line
    return (.funcDef isAsync name ps returns decs body line, n)

/-- `class name(bases): body`, at the `class` keyword. -/
def classDef (f : Nat) (ts : Tokens) (i : Nat) (decs : List Expr) :
    Except SyntaxFault (Stmt × Nat) :=
  match f with
  | 0 => .error (faultAt ts i "too many nested blocks")
  | f + 1 => do
    let line := (tokAt ts i).line
    let (name, j) ← expectName ts (i + 1)
    let (bases, k) ←
      if isOp ts j "(" then callArgs f ts (j + 1) [] false false false else pure ([], j)
    let l ← expectColon ts k false
    let (body, m) ← block f ts l "class definition" line
    return (.classDef name bases decs body line, m)

/-- `if` or `elif` with its test, body and what follows. -/
def ifStmt (f : Nat) (ts : Tokens) (i : Nat) (kw : String) : Except SyntaxFault (Stmt × Nat) :=
  match f with
  | 0 => .error (faultAt ts i "too many nested blocks")
  | f + 1 => do
    let line := (tokAt ts i).line
    let (test, j) ← namedExpression f ts (i + 1)
    let j ← expectColon ts j false
    let (body, k) ← block f ts j ("'" ++ kw ++ "' statement") line
    if isWord ts k "elif" then
      let (s, l) ← ifStmt f ts k "elif"
      return (.ifElse test body [s], l)
    else
      let (orelse, l) ← elseBlock f ts k
      return (.ifElse test body orelse, l)

/-- An optional `else` block. -/
def elseBlock (f : Nat) (ts : Tokens) (i : Nat) : Except SyntaxFault (List Stmt × Nat) :=
  match f with
  | 0 => .error (faultAt ts i "too many nested blocks")
  | f + 1 =>
    if isWord ts i "else" then do
      let j ← expectColon ts (i + 1) true
      block f ts j "'else' statement" (tokAt ts i).line
    else .ok ([], i)

/-- `while test: body`, with an optional `else`. -/
def whileStmt (f : Nat) (ts : Tokens) (i : Nat) : Except SyntaxFault (Stmt × Nat) :=
  match f with
  | 0 => .error (faultAt ts i "too many nested blocks")
  | f + 1 => do
    let (test, j) ← namedExpression f ts (i + 1)
    let j ← expectColon ts j false
    let (body, k) ← block f ts j "'while' statement" (tokAt ts i).line
    let (orelse, l) ← elseBlock f ts k
    return (.while test body orelse, l)

/-- `for target in iter: body`, with an optional `else`, at the `for` keyword. -/
def forStmt (f : Nat) (ts : Tokens) (i : Nat) (isAsync : Bool) :
    Except SyntaxFault (Stmt × Nat) :=
  match f with
  | 0 => .error (faultAt ts i "too many nested blocks")
  | f + 1 => do
    let (t, j) ← starTargets f ts (i + 1)
    if !isWord ts j "in" then throw (faultAt ts j)
    let (iter, k) ← starExpressions f ts (j + 1)
    let k ← expectColon ts k false
    let (body, l) ← block f ts k "'for' statement" (tokAt ts i).line
    let (orelse, m) ← elseBlock f ts l
    return (.forIn isAsync t iter body orelse, m)

/-- `with items: body`, the items optionally in parentheses, at the `with` keyword. -/
def withStmt (f : Nat) (ts : Tokens) (i : Nat) (isAsync : Bool) :
    Except SyntaxFault (Stmt × Nat) :=
  match f with
  | 0 => .error (faultAt ts i "too many nested blocks")
  | f + 1 =>
    let line := (tokAt ts i).line
    let bracketed : Option (List (Expr × Option Expr) × Nat) :=
      if isOp ts (i + 1) "(" then
        match withItems f ts (i + 2) true with
        | .ok (items, j) => if isOp ts j ")" && isOp ts (j + 1) ":" then some (items, j + 2) else none
        | .error _ => none
      else none
    match bracketed with
    | some (items, j) => do
      let (body, k) ← block f ts j "'with' statement" line
      return (.with isAsync items body, k)
    | none => do
      let (items, j) ← withItems f ts (i + 1) false
      let j ← expectColon ts j false
      let (body, k) ← block f ts j "'with' statement" line
      return (.with isAsync items body, k)

/-- Items of a `with` statement separated by commas; a trailing comma only inside
parentheses. -/
def withItems (f : Nat) (ts : Tokens) (i : Nat) (parens : Bool) :
    Except SyntaxFault (List (Expr × Option Expr) × Nat) :=
  match f with
  | 0 => .error (faultAt ts i "too many nested blocks")
  | f + 1 => do
    let (e, j) ← expression f ts i
    let (t, k) ←
      if isWord ts j "as" then do
        let (t, k) ← starTarget f ts (j + 1)
        if isOp ts k "," || isOp ts k ")" || isOp ts k ":" then pure (some t, k)
        else throw (faultAt ts k)
      else pure (none, j)
    if isOp ts k "," then
      if parens && isOp ts (k + 1) ")" then return ([(e, t)], k + 1)
      else
        let (more, l) ← withItems f ts (k + 1) parens
        return ((e, t) :: more, l)
    else return ([(e, t)], k)

/-- `try` with its handlers, `else` and `finally` blocks. -/
def tryStmt (f : Nat) (ts : Tokens) (i : Nat) : Except SyntaxFault (Stmt × Nat) :=
  match f with
  | 0 => .error (faultAt ts i "too many nested blocks")
  | f + 1 => do
    let j ← expectColon ts (i + 1) true
    let (body, k) ← block f ts j "'try' statement" (tokAt ts i).line
    if isWord ts k "finally" then
      let (final, l) ← finallyBlock f ts k
      return (.tryExcept body [] [] final false, l)
    else if isWord ts k "except" then
      let star := isOp ts (k + 1) "*"
      let (hs, l) ← handlers f ts k star []
      let (orelse, m) ← elseBlock f ts l
      let (final, n) ←
        if isWord ts m "finally" then finallyBlock f ts m else pure ([], m)
      return (.tryExcept body hs orelse final star, n)
    else throw (faultAt ts k "expected 'except' or 'finally' block")

/-- A `finally` block at the `finally` keyword. -/
def finallyBlock (f : Nat) (ts : Tokens) (i : Nat) : Except SyntaxFault (List Stmt × Nat) :=
  match f with
  | 0 => .error (faultAt ts i "too many nested blocks")
  | f + 1 => do
    let j ← expectColon ts (i + 1) true
    block f ts j "'finally' statement" (tokAt ts i).line

/-- Exception handlers from `i`, all `except*` when `star`, none when not. -/
def handlers (f : Nat) (ts : Tokens) (i : Nat) (star : Bool) (acc : List Handler) :
    Except SyntaxFault (List Handler × Nat) :=
  match f with
  | 0 => .error (faultAt ts i "too many nested blocks")
  | f + 1 =>
    if !isWord ts i "except" then .ok (acc.reverse, i)
    else if isOp ts (i + 1) "*" != star then
      .error (faultAt ts i "cannot have both 'except' and 'except*' on the same 'try'")
    else do
      let line := (tokAt ts i).line
      let what := if star then "'except*' statement" else "'except' statement"
      let k := if star then i + 2 else i + 1
      if isOp ts k ":" then
        if star then throw (faultAt ts k "expected one or more exception types")
        let (body, l) ← block f ts (k + 1) what line
        handlers f ts l star (.mk none none body :: acc)
      else if isKind ts k .newline then
        if star then throw (faultAt ts k "expected one or more exception types")
        else throw (faultAt ts k "expected ':'")
      else
        let (ty, l) ← expression f ts k
        if isOp ts l "," then throw (faultAt ts k "multiple exception types must be parenthesized")
        let (name, m) ← asName ts l
        let m ← expectColon ts m false
        let (body, n) ← block f ts m what line
        handlers f ts n star (.mk (some ty) name body :: acc)

/-- A `match` statement at the soft keyword, or `none` when the line is no match statement. -/
def matchStmt (f : Nat) (ts : Tokens) (i : Nat) : Except SyntaxFault (Option (Stmt × Nat)) :=
  match f with
  | 0 => .error (faultAt ts i "too many nested blocks")
  | f + 1 =>
    let subject : Option (Expr × Nat) :=
      match starNamedExpression f ts (i + 1) with
      | .ok (e, j) =>
        if isOp ts j "," then
          match starExpressionsTail f ts (j + 1) with
          | .ok (es, k) => some (.tuple (e :: es), k)
          | .error _ => none
        else if e.isStarred then none
        else some (e, j)
      | .error _ => none
    match subject with
    | none => .ok none
    | some (subj, j) =>
      if isKind ts j .newline then .error (faultAt ts j "expected ':'")
      else if !(isOp ts j ":" && isKind ts (j + 1) .newline) then .ok none
      else if !isKind ts (j + 2) .indent then
        .error (indentFaultAt ts (j + 2) ("expected an indented block after 'match' statement on line "
          ++ toString (tokAt ts i).line))
      else do
        let (cases, k) ← caseBlocks f ts (j + 3) []
        if cases.isEmpty then throw (faultAt ts (j + 3))
        return some (.matchCases subj cases, k)

/-- The cases of a match statement up to and with its dedent. -/
def caseBlocks (f : Nat) (ts : Tokens) (i : Nat) (acc : List MatchCase) :
    Except SyntaxFault (List MatchCase × Nat) :=
  match f with
  | 0 => .error (faultAt ts i "too many nested blocks")
  | f + 1 =>
    if isKind ts i .dedent then .ok (acc.reverse, i + 1)
    else if !isWord ts i "case" then .error (faultAt ts i)
    else do
      let (p, j) ← casePatterns f ts (i + 1)
      let (guard, k) ←
        if isWord ts j "if" then do
          let (g, k) ← namedExpression f ts (j + 1)
          pure (some g, k)
        else pure (none, j)
      let k ← expectColon ts k false
      let (body, l) ← block f ts k "'case' statement" (tokAt ts i).line
      caseBlocks f ts l (.mk p guard body :: acc)

/-- Statements up to the end marker. -/
def moduleStmts (f : Nat) (ts : Tokens) (i : Nat) (acc : List Stmt) :
    Except SyntaxFault (List Stmt × Nat) :=
  match f with
  | 0 => .error (faultAt ts i "too many nested blocks")
  | f + 1 =>
    if isKind ts i .endmarker then .ok (acc, i)
    else do
      let (ss, j) ← statement f ts i
      moduleStmts f ts j (acc ++ ss)

end

/-- The statements of a module. -/
def parseModule (cs : List Char) : Except SyntaxFault (List Stmt) := do
  let ts ← tokenize cs
  let (ss, _) ← moduleStmts (parseFuel cs.length) ts 0 []
  return ss

/-- Tokens as an interactive prompt reads them: the end of the text is also the end of a
line, so a compound statement closes where the text ends. -/
def singleTokens (ts : Tokens) : Tokens :=
  match ts.toList with
  | [] => ts
  | [t] => #[t]
  | _ => ts.pop.push ⟨.newline, (tokAt ts ts.size).line, 0⟩ |>.push (tokAt ts ts.size)

/-- Whether only layout tokens remain from `i`: the text after the statement holds nothing
but blanks and comments. -/
def onlyLayoutFrom (ts : Tokens) (i : Nat) : Bool :=
  (ts.toList.drop i).all fun t =>
    match t.kind with
    | .newline => true
    | .dedent => true
    | .endmarker => true
    | _ => false

/-- One statement as an interactive prompt compiles it: an empty text is no statement, a
compound statement must end with the text, and text after a line of simple statements is a
fault. -/
def parseSingle (cs : List Char) : Except SyntaxFault (List Stmt) := do
  let ts := singleTokens (← tokenize cs)
  let f := parseFuel cs.length
  if isKind ts 0 .endmarker || isKind ts 0 .newline then return []
  let (ss, j) ←
    if startsCompound ts 0 then do
      let (s, j) ← compound f ts 0
      if isKind ts j .newline then pure ([s], j + 1) else throw (faultAt ts j)
    else statement f ts 0
  if onlyLayoutFrom ts j then return ss
  else throw (faultAt ts j "multiple statements found while compiling a single statement")

end StubDoctest.Source
