import StubDoctest.Source.Parser.Basic
import StubDoctest.Source.Lexer
import StubDoctest.Source.Literal

/-!
# Parsing expressions

Expressions by precedence, loosest first: `lambda` and conditional expressions, `or`, `and`,
`not`, comparison chains, `|`, `^`, `&`, shifts, `+` and `-`, `*` `/` `//` `%` `@`, unary
`+` `-` `~`, `**` (right of it a unary expression), `await`, and primaries (an atom followed by
attributes, calls and subscripts). Atoms are names, constants, adjacent string literals
(joined; a formatted one makes the whole a formatted string), and the bracketed displays,
comprehensions and groups.

Every function takes a fuel argument that decreases on each call. A call chain reads a token
at least every few dozen calls, so fuel proportional to the length of the source is never
exhausted on a text the grammar accepts (`parseFuel`).

The fields of a formatted string are parsed by tokenizing their text inside brackets and
reading one expression list from the tokens.
-/

namespace StubDoctest.Source

/-- Fuel for parsing a source of `n` characters. -/
def parseFuel (n : Nat) : Nat := 64 * (n + 4)

/-- Whether the token at `i` can start an expression. -/
def startsExpr (ts : Tokens) (i : Nat) : Bool :=
  match (tokAt ts i).kind with
  | .name n => !isKeyword n || ["None", "True", "False", "not", "lambda", "await"].contains n
  | .number _ => true
  | .string _ => true
  | .op o => ["(", "[", "\x7b", "-", "+", "~", "...", "*"].contains o
  | _ => false

/-- Whether the token at `i` can start an atom. -/
def startsAtom (ts : Tokens) (i : Nat) : Bool :=
  match (tokAt ts i).kind with
  | .name n => !isKeyword n || ["None", "True", "False"].contains n
  | .number _ => true
  | .string _ => true
  | .op o => ["(", "[", "\x7b", "..."].contains o
  | _ => false

/-- The comparison operator at `i` and the tokens it takes. -/
def cmpOpAt? (ts : Tokens) (i : Nat) : Option (CmpOp × Nat) :=
  match (tokAt ts i).kind with
  | .op "==" => some (.eq, 1)
  | .op "!=" => some (.ne, 1)
  | .op "<" => some (.lt, 1)
  | .op "<=" => some (.le, 1)
  | .op ">" => some (.gt, 1)
  | .op ">=" => some (.ge, 1)
  | .name "in" => some (.isIn, 1)
  | .name "not" => if isWord ts (i + 1) "in" then some (.notIn, 2) else none
  | .name "is" => if isWord ts (i + 1) "not" then some (.isNot, 2) else some (.is, 1)
  | _ => none

/-- The binary operator at `i` of a precedence level: 0 for `|`, 1 for `^`, 2 for `&`, 3 for
shifts, 4 for `+` and `-`, 5 for the multiplicative operators. -/
def binOpAt? (ts : Tokens) (i : Nat) (level : Nat) : Option BinOp :=
  match level, (tokAt ts i).kind with
  | 0, .op "|" => some .bitor
  | 1, .op "^" => some .bitxor
  | 2, .op "&" => some .bitand
  | 3, .op "<<" => some .lshift
  | 3, .op ">>" => some .rshift
  | 4, .op "+" => some .add
  | 4, .op "-" => some .sub
  | 5, .op "*" => some .mul
  | 5, .op "/" => some .div
  | 5, .op "//" => some .floordiv
  | 5, .op "%" => some .mod
  | 5, .op "@" => some .matmul
  | _, _ => none

/-- The texts of the string tokens that stand one after another from `i`. -/
def stringRun (ts : Tokens) (i : Nat) : List String :=
  ((ts.toList.drop i).takeWhile (fun t => match t.kind with
    | .string _ => true
    | _ => false)).filterMap (fun t => match t.kind with
    | .string s => some s
    | _ => none)

/-- Merge adjacent text pieces of a formatted string and drop empty ones. -/
def mergeTexts : List FPart → List FPart
  | [] => []
  | .text a :: rest =>
    match mergeTexts rest with
    | .text b :: rest' => .text (a ++ b) :: rest'
    | rest' => if a.isEmpty then rest' else .text a :: rest'
  | p :: rest => p :: mergeTexts rest

/-- The state of reading parameters. -/
structure ParamState where
  /-- Positional-only parameters. -/
  posOnly : List Param := []
  /-- Ordinary parameters. -/
  regular : List Param := []
  /-- The collector of extra positional arguments. -/
  varArgs : Option Param := none
  /-- Keyword-only parameters. -/
  kwOnly : List Param := []
  /-- The collector of extra keyword arguments. -/
  varKw : Option Param := none
  /-- 0 before `/`, 1 after it, 2 after `*`, 3 after `**`. -/
  phase : Nat := 0
  /-- Whether a positional parameter had a default. -/
  sawDefault : Bool := false
  /-- Whether a bare `*` still needs a keyword-only parameter. -/
  bareStar : Bool := false

/-- The parameters read. -/
def ParamState.params (s : ParamState) : Params :=
  .mk s.posOnly s.regular s.varArgs s.kwOnly s.varKw

set_option maxHeartbeats 400000 in
mutual

/-- `expression`: a lambda, or a disjunction with an optional conditional part. -/
def expression (f : Nat) (ts : Tokens) (i : Nat) : Except SyntaxFault (Expr × Nat) :=
  match f with
  | 0 => failAt ts i "too many nested parentheses"
  | f + 1 =>
    if isWord ts i "lambda" then lambdef f ts i
    else do
      let (a, j) ← disjunction f ts i
      if isWord ts j "if" then
        let (c, k) ← disjunction f ts (j + 1)
        if !isWord ts k "else" then failAt ts k "expected 'else' after 'if' expression"
        else
          let (b, l) ← expression f ts (k + 1)
          return (.ifElse c a b, l)
      else if startsExpr ts j then
        match a with
        | .name n =>
          if n == "print" || n == "exec" then
            match starExpressions f ts j with
            | .ok _ => failAt ts i ("Missing parentheses in call to '" ++ n ++ "'. Did you mean " ++
                n ++ "(...)?")
            | .error _ => return (a, j)
          else juxtaposed f ts i a j
        | _ => juxtaposed f ts i a j
      else return (a, j)

/-- An expression `a` followed directly by another one: inside brackets the comma between them
was most likely forgotten. A name before a string and a soft keyword are exempt, since those
begin statements and prefixes that read otherwise. -/
def juxtaposed (f : Nat) (ts : Tokens) (i : Nat) (a : Expr) (j : Nat) :
    Except SyntaxFault (Expr × Nat) :=
  match f with
  | 0 => failAt ts i "too many nested parentheses"
  | f + 1 =>
    let exempt := ["_", "match", "case"].any (isWord ts i) ||
      ((nameAt? ts i).isSome && (tokAt ts (i + 1)).kind.isString)
    if exempt then .ok (a, j)
    else
      match expression f ts j with
      | .ok (_, k) =>
        if bracketLevel ts k > 0 then failAt ts i "invalid syntax. Perhaps you forgot a comma?"
        else .ok (a, j)
      | .error _ => .ok (a, j)

/-- `lambda params: body`. -/
def lambdef (f : Nat) (ts : Tokens) (i : Nat) : Except SyntaxFault (Expr × Nat) :=
  match f with
  | 0 => failAt ts i "too many nested parentheses"
  | f + 1 => do
    let (ps, j) ← paramList f ts (i + 1) false ":"
    let j ← expectOp ts j ":"
    let (body, k) ← expression f ts j
    return (.lambda ps body, k)

/-- `name := value`, or an expression that no `:=` follows. -/
def namedExpression (f : Nat) (ts : Tokens) (i : Nat) : Except SyntaxFault (Expr × Nat) :=
  match f with
  | 0 => failAt ts i "too many nested parentheses"
  | f + 1 =>
    match nameAt? ts i with
    | some n =>
      if isOp ts (i + 1) ":=" then do
        let (v, j) ← expression f ts (i + 2)
        return (.walrus n v, j)
      else plainExpression f ts i
    | none => plainExpression f ts i

/-- An expression that no `:=` follows. -/
def plainExpression (f : Nat) (ts : Tokens) (i : Nat) : Except SyntaxFault (Expr × Nat) :=
  match f with
  | 0 => failAt ts i "too many nested parentheses"
  | f + 1 => do
    let (e, j) ← expression f ts i
    if isOp ts j ":=" then failAt ts j ("cannot use assignment expressions with " ++ targetKind e)
    else return (e, j)

/-- `*e` or an expression. -/
def starExpression (f : Nat) (ts : Tokens) (i : Nat) : Except SyntaxFault (Expr × Nat) :=
  match f with
  | 0 => failAt ts i "too many nested parentheses"
  | f + 1 =>
    if isOp ts i "*" then do
      let (e, j) ← bitOr f ts (i + 1)
      return (.starred e, j)
    else expression f ts i

/-- `*e` or a named expression. -/
def starNamedExpression (f : Nat) (ts : Tokens) (i : Nat) : Except SyntaxFault (Expr × Nat) :=
  match f with
  | 0 => failAt ts i "too many nested parentheses"
  | f + 1 =>
    if isOp ts i "*" then do
      let (e, j) ← bitOr f ts (i + 1)
      return (.starred e, j)
    else namedExpression f ts i

/-- One or more star expressions separated by commas: a tuple when a comma is written. -/
def starExpressions (f : Nat) (ts : Tokens) (i : Nat) : Except SyntaxFault (Expr × Nat) :=
  match f with
  | 0 => failAt ts i "too many nested parentheses"
  | f + 1 => do
    let (e, j) ← starExpression f ts i
    if isOp ts j "," then
      let (es, k) ← starExpressionsTail f ts (j + 1)
      return (.tuple (e :: es), k)
    else return (e, j)

/-- The items after a comma of a star-expression list. -/
def starExpressionsTail (f : Nat) (ts : Tokens) (i : Nat) : Except SyntaxFault (List Expr × Nat) :=
  match f with
  | 0 => failAt ts i "too many nested parentheses"
  | f + 1 =>
    if startsExpr ts i then do
      let (e, j) ← starExpression f ts i
      if isOp ts j "," then
        let (es, k) ← starExpressionsTail f ts (j + 1)
        return (e :: es, k)
      else return ([e], j)
    else return ([], i)

/-- Items of a display after its first one, up to the closing bracket `close`. -/
def displayTail (f : Nat) (ts : Tokens) (i : Nat) (close : String) : Except SyntaxFault (List Expr × Nat) :=
  match f with
  | 0 => failAt ts i "too many nested parentheses"
  | f + 1 =>
    if isOp ts i close then return ([], i + 1)
    else if isOp ts i "," then
      if isOp ts (i + 1) close then return ([], i + 2)
      else do
        let (e, j) ← starNamedExpression f ts (i + 1)
        let (es, k) ← displayTail f ts j close
        return (e :: es, k)
    else failAt ts i

/-- `yield`, `yield value` or `yield from value`. -/
def yieldExpr (f : Nat) (ts : Tokens) (i : Nat) : Except SyntaxFault (Expr × Nat) :=
  match f with
  | 0 => failAt ts i "too many nested parentheses"
  | f + 1 =>
    if isWord ts (i + 1) "from" then do
      let (e, j) ← expression f ts (i + 2)
      return (.yieldFrom e, j)
    else if startsExpr ts (i + 1) then do
      let (e, j) ← starExpressions f ts (i + 1)
      return (.yield (some e), j)
    else return (.yield none, i + 1)

/-- `a or b or ...`. -/
def disjunction (f : Nat) (ts : Tokens) (i : Nat) : Except SyntaxFault (Expr × Nat) :=
  match f with
  | 0 => failAt ts i "too many nested parentheses"
  | f + 1 => do
    let (a, j) ← conjunction f ts i
    disjunctionTail f ts a j

/-- The `or` parts after the first operand. -/
def disjunctionTail (f : Nat) (ts : Tokens) (acc : Expr) (i : Nat) : Except SyntaxFault (Expr × Nat) :=
  match f with
  | 0 => failAt ts i "too many nested parentheses"
  | f + 1 =>
    if isWord ts i "or" then do
      let (b, j) ← conjunction f ts (i + 1)
      disjunctionTail f ts (.orElse acc b) j
    else return (acc, i)

/-- `a and b and ...`. -/
def conjunction (f : Nat) (ts : Tokens) (i : Nat) : Except SyntaxFault (Expr × Nat) :=
  match f with
  | 0 => failAt ts i "too many nested parentheses"
  | f + 1 => do
    let (a, j) ← inversion f ts i
    conjunctionTail f ts a j

/-- The `and` parts after the first operand. -/
def conjunctionTail (f : Nat) (ts : Tokens) (acc : Expr) (i : Nat) : Except SyntaxFault (Expr × Nat) :=
  match f with
  | 0 => failAt ts i "too many nested parentheses"
  | f + 1 =>
    if isWord ts i "and" then do
      let (b, j) ← inversion f ts (i + 1)
      conjunctionTail f ts (.andAlso acc b) j
    else return (acc, i)

/-- `not e` or a comparison. -/
def inversion (f : Nat) (ts : Tokens) (i : Nat) : Except SyntaxFault (Expr × Nat) :=
  match f with
  | 0 => failAt ts i "too many nested parentheses"
  | f + 1 =>
    if isWord ts i "not" then do
      let (e, j) ← inversion f ts (i + 1)
      return (.unary .not e, j)
    else comparison f ts i

/-- A chain of comparisons. -/
def comparison (f : Nat) (ts : Tokens) (i : Nat) : Except SyntaxFault (Expr × Nat) :=
  match f with
  | 0 => failAt ts i "too many nested parentheses"
  | f + 1 => do
    let (a, j) ← bitOr f ts i
    let (rest, k) ← comparisonTail f ts j
    if rest.isEmpty then return (a, k) else return (.compare a rest, k)

/-- The operator and operand pairs of a comparison chain. -/
def comparisonTail (f : Nat) (ts : Tokens) (i : Nat) : Except SyntaxFault (List (CmpOp × Expr) × Nat) :=
  match f with
  | 0 => failAt ts i "too many nested parentheses"
  | f + 1 =>
    match cmpOpAt? ts i with
    | some (op, n) => do
      let (b, j) ← bitOr f ts (i + n)
      let (rest, k) ← comparisonTail f ts j
      return ((op, b) :: rest, k)
    | none => return ([], i)

/-- Left-associative binary operators of one precedence level: `ops` maps operator tokens
to operators and `next` reads the operands. -/
def binaryLevel (f : Nat) (ts : Tokens) (i : Nat) (level : Nat) : Except SyntaxFault (Expr × Nat) :=
  match f with
  | 0 => failAt ts i "too many nested parentheses"
  | f + 1 => do
    let (a, j) ← operand f ts i level
    binaryTail f ts a j level

/-- The operand of a precedence level: the next level, or a unary expression below the
multiplicative level. -/
def operand (f : Nat) (ts : Tokens) (i : Nat) (level : Nat) : Except SyntaxFault (Expr × Nat) :=
  match f with
  | 0 => failAt ts i "too many nested parentheses"
  | f + 1 => if level ≥ 5 then factor f ts i else binaryLevel f ts i (level + 1)

/-- The operator parts of a precedence level after the first operand. -/
def binaryTail (f : Nat) (ts : Tokens) (acc : Expr) (i : Nat) (level : Nat) : Except SyntaxFault (Expr × Nat) :=
  match f with
  | 0 => failAt ts i "too many nested parentheses"
  | f + 1 =>
    match binOpAt? ts i level with
    | some op => do
      let (b, j) ← operand f ts (i + 1) level
      binaryTail f ts (.binary op acc b) j level
    | none => return (acc, i)

/-- `a | b | ...`. -/
def bitOr (f : Nat) (ts : Tokens) (i : Nat) : Except SyntaxFault (Expr × Nat) :=
  match f with
  | 0 => failAt ts i "too many nested parentheses"
  | f + 1 => binaryLevel f ts i 0

/-- Unary `+`, `-`, `~`, or a power. -/
def factor (f : Nat) (ts : Tokens) (i : Nat) : Except SyntaxFault (Expr × Nat) :=
  match f with
  | 0 => failAt ts i "too many nested parentheses"
  | f + 1 =>
    let un : Option UnaryOp :=
      if isOp ts i "+" then some .pos else if isOp ts i "-" then some .neg
      else if isOp ts i "~" then some .invert else none
    match un with
    | some op => do
      let (e, j) ← factor f ts (i + 1)
      return (.unary op e, j)
    | none => power f ts i

/-- `a ** b`, where `b` is a unary expression. -/
def power (f : Nat) (ts : Tokens) (i : Nat) : Except SyntaxFault (Expr × Nat) :=
  match f with
  | 0 => failAt ts i "too many nested parentheses"
  | f + 1 => do
    let (a, j) ←
      if isWord ts i "await" then do
        let (e, j) ← primary f ts (i + 1)
        pure (Expr.await e, j)
      else primary f ts i
    if isOp ts j "**" then
      let (b, k) ← factor f ts (j + 1)
      return (.binary .pow a b, k)
    else return (a, j)

/-- An atom followed by attributes, calls and subscripts. -/
def primary (f : Nat) (ts : Tokens) (i : Nat) : Except SyntaxFault (Expr × Nat) :=
  match f with
  | 0 => failAt ts i "too many nested parentheses"
  | f + 1 => do
    let (a, j) ← atom f ts i
    primaryTail f ts a j

/-- The attributes, calls and subscripts after a primary. -/
def primaryTail (f : Nat) (ts : Tokens) (acc : Expr) (i : Nat) : Except SyntaxFault (Expr × Nat) :=
  match f with
  | 0 => failAt ts i "too many nested parentheses"
  | f + 1 =>
    if isOp ts i "." then do
      let (n, j) ← expectName ts (i + 1)
      primaryTail f ts (.attr acc n) j
    else if isOp ts i "(" then do
      let (args, j) ← callArgs f ts (i + 1) [] false false true
      primaryTail f ts (.call acc args) j
    else if isOp ts i "[" then do
      let (key, j) ← slices f ts (i + 1)
      let j ← expectOp ts j "]"
      primaryTail f ts (.index acc key) j
    else return (acc, i)

/-- An atom. -/
def atom (f : Nat) (ts : Tokens) (i : Nat) : Except SyntaxFault (Expr × Nat) :=
  match f with
  | 0 => failAt ts i "too many nested parentheses"
  | f + 1 =>
    match (tokAt ts i).kind with
    | .name "None" => return (.lit .none, i + 1)
    | .name "True" => return (.lit (.bool true), i + 1)
    | .name "False" => return (.lit (.bool false), i + 1)
    | .name n => if isKeyword n then failAt ts i else return (.name (normName n), i + 1)
    | .number t => return (.lit (numberLiteral t), i + 1)
    | .string _ => strings f ts i
    | .op "..." => return (.lit .ellipsis, i + 1)
    | .op "(" => parenAtom f ts (i + 1)
    | .op "[" => bracketAtom f ts (i + 1)
    | .op "\x7b" => braceAtom f ts (i + 1)
    | .indent => .error (indentFaultAt ts i "unexpected indent")
    | _ => failAt ts i

/-- After `(`: the empty tuple, a parenthesized `yield`, a generator expression, a tuple or
a group. -/
def parenAtom (f : Nat) (ts : Tokens) (i : Nat) : Except SyntaxFault (Expr × Nat) :=
  match f with
  | 0 => failAt ts i "too many nested parentheses"
  | f + 1 =>
    if isOp ts i ")" then return (.tuple [], i + 1)
    else if isWord ts i "yield" then do
      let (e, j) ← yieldExpr f ts i
      let j ← expectOp ts j ")"
      return (e, j)
    else do
      let (e, j) ← starNamedExpression f ts i
      if isWord ts j "for" || (isWord ts j "async" && isWord ts (j + 1) "for") then
        if e.isStarred then failAt ts i "iterable unpacking cannot be used in comprehension"
        else
          let (cs, k) ← compClauses f ts j
          let k ← expectOp ts k ")"
          return (.comp .gen e cs, k)
      else if isOp ts j "," then
        let (es, k) ← displayTail f ts j ")"
        return (.tuple (e :: es), k)
      else if isOp ts j ")" then
        if e.isStarred then failAt ts i "cannot use starred expression here"
        else return (e, j + 1)
      else failAt ts j

/-- After `[`: a list display or a list comprehension. -/
def bracketAtom (f : Nat) (ts : Tokens) (i : Nat) : Except SyntaxFault (Expr × Nat) :=
  match f with
  | 0 => failAt ts i "too many nested parentheses"
  | f + 1 =>
    if isOp ts i "]" then return (.list [], i + 1)
    else do
      let (e, j) ← starNamedExpression f ts i
      if isWord ts j "for" || (isWord ts j "async" && isWord ts (j + 1) "for") then
        if e.isStarred then failAt ts i "iterable unpacking cannot be used in comprehension"
        else
          let (cs, k) ← compClauses f ts j
          let k ← expectOp ts k "]"
          return (.comp .list e cs, k)
      else
        let (es, k) ← displayTail f ts j "]"
        return (.list (e :: es), k)

/-- After `{`: a dictionary or set display or comprehension. -/
def braceAtom (f : Nat) (ts : Tokens) (i : Nat) : Except SyntaxFault (Expr × Nat) :=
  match f with
  | 0 => failAt ts i "too many nested parentheses"
  | f + 1 =>
    if isOp ts i "\x7d" then return (.dict [], i + 1)
    else if isOp ts i "**" then do
      let (e, j) ← bitOr f ts (i + 1)
      let (items, k) ← dictTail f ts j
      return (.dict (.spread e :: items), k)
    else if isOp ts i "*" then do
      let (e, j) ← starNamedExpression f ts i
      let (es, k) ← displayTail f ts j "\x7d"
      return (.set (e :: es), k)
    else do
      let (e, j) ← namedExpression f ts i
      if isOp ts j ":" then
        if e.isWalrus then failAt ts j
        else
          let (v, k) ← expression f ts (j + 1)
          if isWord ts k "for" || (isWord ts k "async" && isWord ts (k + 1) "for") then
            let (cs, l) ← compClauses f ts k
            let l ← expectOp ts l "\x7d"
            return (.dictComp e v cs, l)
          else
            let (items, l) ← dictTail f ts k
            return (.dict (.pair e v :: items), l)
      else if isWord ts j "for" || (isWord ts j "async" && isWord ts (j + 1) "for") then
        let (cs, k) ← compClauses f ts j
        let k ← expectOp ts k "\x7d"
        return (.comp .set e cs, k)
      else
        let (es, k) ← displayTail f ts j "\x7d"
        return (.set (e :: es), k)

/-- Items of a dictionary display after its first one, up to `}`. -/
def dictTail (f : Nat) (ts : Tokens) (i : Nat) : Except SyntaxFault (List DictItem × Nat) :=
  match f with
  | 0 => failAt ts i "too many nested parentheses"
  | f + 1 =>
    if isOp ts i "\x7d" then return ([], i + 1)
    else if isOp ts i "," then
      if isOp ts (i + 1) "\x7d" then return ([], i + 2)
      else if isOp ts (i + 1) "**" then do
        let (e, j) ← bitOr f ts (i + 2)
        let (items, k) ← dictTail f ts j
        return (.spread e :: items, k)
      else do
        let (key, j) ← expression f ts (i + 1)
        let j ← expectOp ts j ":"
        let (v, k) ← expression f ts j
        let (items, l) ← dictTail f ts k
        return (.pair key v :: items, l)
    else failAt ts i

/-- The `for` and `if` clauses of a comprehension. -/
def compClauses (f : Nat) (ts : Tokens) (i : Nat) : Except SyntaxFault (List CompFor × Nat) :=
  match f with
  | 0 => failAt ts i "too many nested parentheses"
  | f + 1 => do
    let isAsync := isWord ts i "async"
    let i := if isAsync then i + 1 else i
    if !isWord ts i "for" then failAt ts i
    else
      let (t, j) ← starTargets f ts (i + 1)
      if !isWord ts j "in" then failAt ts j
      else
        let (iter, k) ← disjunction f ts (j + 1)
        let (conds, l) ← compConds f ts k
        let clause := CompFor.mk isAsync t iter conds
        if isWord ts l "for" || (isWord ts l "async" && isWord ts (l + 1) "for") then
          let (more, m) ← compClauses f ts l
          return (clause :: more, m)
        else return ([clause], l)

/-- The `if` conditions of a comprehension clause. -/
def compConds (f : Nat) (ts : Tokens) (i : Nat) : Except SyntaxFault (List Expr × Nat) :=
  match f with
  | 0 => failAt ts i "too many nested parentheses"
  | f + 1 =>
    if isWord ts i "if" then do
      let (c, j) ← disjunction f ts (i + 1)
      let (cs, k) ← compConds f ts j
      return (c :: cs, k)
    else return ([], i)

/-- Assignment targets of a `for` clause: one target, or targets separated by commas. -/
def starTargets (f : Nat) (ts : Tokens) (i : Nat) : Except SyntaxFault (Expr × Nat) :=
  match f with
  | 0 => failAt ts i "too many nested parentheses"
  | f + 1 => do
    let (t, j) ← starTarget f ts i
    if isOp ts j "," then
      let (more, k) ← starTargetsTail f ts (j + 1)
      return (.tuple (t :: more), k)
    else return (t, j)

/-- The targets after a comma of a target list. -/
def starTargetsTail (f : Nat) (ts : Tokens) (i : Nat) : Except SyntaxFault (List Expr × Nat) :=
  match f with
  | 0 => failAt ts i "too many nested parentheses"
  | f + 1 =>
    if isOp ts i "*" || startsAtom ts i then do
      let (t, j) ← starTarget f ts i
      if isOp ts j "," then
        let (more, k) ← starTargetsTail f ts (j + 1)
        return (t :: more, k)
      else return ([t], j)
    else return ([], i)

/-- One assignment target: `*target`, or a primary that is a valid target. -/
def starTarget (f : Nat) (ts : Tokens) (i : Nat) : Except SyntaxFault (Expr × Nat) :=
  match f with
  | 0 => failAt ts i "too many nested parentheses"
  | f + 1 =>
    if isOp ts i "*" then
      if isOp ts (i + 1) "*" then failAt ts (i + 1)
      else do
        let (t, j) ← starTarget f ts (i + 1)
        return (.starred t, j)
    else do
      let (e, j) ← primary f ts i
      if isStarTarget e && !e.isStarred then return (e, j)
      else failAt ts i ("cannot assign to " ++ targetKind ((invalidTarget e).getD e))

/-- The arguments of a call after `(`, up to and with `)`; a generator expression may stand as
the only argument when `gen` holds (it does for calls, not for the bases of a class). -/
def callArgs (f : Nat) (ts : Tokens) (i : Nat) (acc : List Arg) (sawKw sawSpread gen : Bool) :
    Except SyntaxFault (List Arg × Nat) :=
  match f with
  | 0 => failAt ts i "too many nested parentheses"
  | f + 1 =>
    if isOp ts i ")" then return (acc.reverse, i + 1)
    else do
      let (arg, j, kw, spread) ← callArg f ts i acc sawKw sawSpread gen
      if isOp ts j "," then callArgs f ts (j + 1) (arg :: acc) kw spread gen
      else if isOp ts j ")" then return ((arg :: acc).reverse, j + 1)
      else failAt ts j

/-- One argument of a call, with whether a keyword argument and whether a keyword unpacking
have been read so far. -/
def callArg (f : Nat) (ts : Tokens) (i : Nat) (acc : List Arg) (sawKw sawSpread gen : Bool) :
    Except SyntaxFault (Arg × Nat × Bool × Bool) :=
  match f with
  | 0 => .error (faultAt ts i "too many nested parentheses")
  | f + 1 =>
    if isOp ts i "*" then
      if sawSpread then
        .error (faultAt ts i "iterable argument unpacking follows keyword argument unpacking")
      else do
        let (e, j) ← expression f ts (i + 1)
        return (Arg.star e, j, sawKw, sawSpread)
    else if isOp ts i "**" then do
      let (e, j) ← expression f ts (i + 1)
      return (Arg.starstar e, j, sawKw, true)
    else
      match nameAt? ts i with
      | some n =>
        if isOp ts (i + 1) "=" then do
          let (e, j) ← expression f ts (i + 2)
          return (Arg.kw n e, j, true, sawSpread)
        else positionalArg f ts i acc sawKw sawSpread gen
      | none => positionalArg f ts i acc sawKw sawSpread gen

/-- A positional argument, or the generator expression that is a call's only argument. -/
def positionalArg (f : Nat) (ts : Tokens) (i : Nat) (acc : List Arg) (sawKw sawSpread gen : Bool) :
    Except SyntaxFault (Arg × Nat × Bool × Bool) :=
  match f with
  | 0 => .error (faultAt ts i "too many nested parentheses")
  | f + 1 => do
    let (e, j) ← namedExpression f ts i
    if isWord ts j "for" || (isWord ts j "async" && isWord ts (j + 1) "for") then
      let (cs, k) ← compClauses f ts j
      if !gen then .error (faultAt ts j)
      else if acc.isEmpty && isOp ts k ")" then return (.pos (.comp .gen e cs), k, sawKw, sawSpread)
      else .error (faultAt ts i "Generator expression must be parenthesized")
    else if isOp ts j "=" then
      match ["True", "False", "None"].find? (isWord ts i) with
      | some w =>
        if j == i + 1 then .error (faultAt ts i ("cannot assign to " ++ w))
        else .error (faultAt ts j "expression cannot contain assignment, perhaps you meant \"==\"?")
      | none => .error (faultAt ts j "expression cannot contain assignment, perhaps you meant \"==\"?")
    else if sawSpread then
      .error (faultAt ts i "positional argument follows keyword argument unpacking")
    else if sawKw then .error (faultAt ts i "positional argument follows keyword argument")
    else return (.pos e, j, sawKw, sawSpread)

/-- The key of a subscript after `[`: one slice or expression, or a tuple of them. -/
def slices (f : Nat) (ts : Tokens) (i : Nat) : Except SyntaxFault (Expr × Nat) :=
  match f with
  | 0 => failAt ts i "too many nested parentheses"
  | f + 1 => do
    let (e, j) ← sliceItem f ts i
    if isOp ts j "," then
      let (more, k) ← slicesTail f ts (j + 1)
      return (.tuple (e :: more), k)
    else if e.isStarred then return (.tuple [e], j)
    else return (e, j)

/-- The items after a comma of a subscript. -/
def slicesTail (f : Nat) (ts : Tokens) (i : Nat) : Except SyntaxFault (List Expr × Nat) :=
  match f with
  | 0 => failAt ts i "too many nested parentheses"
  | f + 1 =>
    if isOp ts i "]" then return ([], i)
    else do
      let (e, j) ← sliceItem f ts i
      if isOp ts j "," then
        let (more, k) ← slicesTail f ts (j + 1)
        return (e :: more, k)
      else return ([e], j)

/-- One item of a subscript: `*e`, a slice `lo:hi:step` or a named expression. -/
def sliceItem (f : Nat) (ts : Tokens) (i : Nat) : Except SyntaxFault (Expr × Nat) :=
  match f with
  | 0 => failAt ts i "too many nested parentheses"
  | f + 1 =>
    if isOp ts i "*" then do
      let (e, j) ← expression f ts (i + 1)
      return (.starred e, j)
    else if isOp ts i ":" then sliceRest f ts none (i + 1)
    else do
      let (e, j) ← namedExpression f ts i
      if isOp ts j ":" then
        if e.isWalrus then failAt ts j else sliceRest f ts (some e) (j + 1)
      else return (e, j)

/-- The rest of a slice after its first colon. -/
def sliceRest (f : Nat) (ts : Tokens) (lo : Option Expr) (i : Nat) : Except SyntaxFault (Expr × Nat) :=
  match f with
  | 0 => failAt ts i "too many nested parentheses"
  | f + 1 => do
    let (hi, j) ←
      if startsExpr ts i && !isOp ts i "*" then do
        let (e, j) ← expression f ts i
        pure (some e, j)
      else pure (none, i)
    if isOp ts j ":" then
      if startsExpr ts (j + 1) && !isOp ts (j + 1) "*" then do
        let (e, k) ← expression f ts (j + 1)
        return (.slice lo hi (some e), k)
      else return (.slice lo hi none, j + 1)
    else return (.slice lo hi none, j)

/-- Parameters up to the token `close` (not read): with annotations for a definition,
without for a lambda. -/
def paramList (f : Nat) (ts : Tokens) (i : Nat) (annotated : Bool) (close : String) :
    Except SyntaxFault (Params × Nat) :=
  match f with
  | 0 => failAt ts i "too many nested parentheses"
  | f + 1 => paramLoop f ts i annotated close {}

/-- Read parameters one by one. -/
def paramLoop (f : Nat) (ts : Tokens) (i : Nat) (annotated : Bool) (close : String)
    (st : ParamState) : Except SyntaxFault (Params × Nat) :=
  match f with
  | 0 => failAt ts i "too many nested parentheses"
  | f + 1 =>
    if isOp ts i close then
      if st.bareStar then failAt ts i "named arguments must follow bare *"
      else return (st.params, i)
    else do
      let (st, j) ← paramItem f ts i annotated close st
      if isOp ts j "," then paramLoop f ts (j + 1) annotated close st
      else if isOp ts j close then
        if st.bareStar then failAt ts j "named arguments must follow bare *"
        else return (st.params, j)
      else failAt ts j

/-- One parameter, `/`, `*`, `*name` or `**name`. -/
def paramItem (f : Nat) (ts : Tokens) (i : Nat) (annotated : Bool) (close : String)
    (st : ParamState) : Except SyntaxFault (ParamState × Nat) :=
  match f with
  | 0 => .error (faultAt ts i "too many nested parentheses")
  | f + 1 =>
    if isOp ts i "/" then
      if st.phase ≠ 0 || st.regular.isEmpty then .error (faultAt ts i)
      else .ok ({ st with posOnly := st.regular, regular := [], phase := 1 }, i + 1)
    else if isOp ts i "*" then
      if st.phase ≥ 2 then .error (faultAt ts i)
      else if isOp ts (i + 1) "," then .ok ({ st with phase := 2, bareStar := true }, i + 1)
      else
        match nameAt? ts (i + 1) with
        | some n => do
          let (ann, j) ← paramAnnotation f ts (i + 2) (annotated && close == ")") true
          if isOp ts j "=" then .error (faultAt ts j "var-positional argument cannot have default value")
          else .ok ({ st with phase := 2, varArgs := some (.mk n ann none) }, j)
        | none => .error (faultAt ts (i + 1) "named arguments must follow bare *")
    else if isOp ts i "**" then
      match nameAt? ts (i + 1) with
      | some n => do
        if st.phase = 3 then .error (faultAt ts i)
        else if st.bareStar then .error (faultAt ts i "named arguments must follow bare *")
        else
          let (ann, j) ← paramAnnotation f ts (i + 2) annotated false
          if isOp ts j "=" then .error (faultAt ts j "var-keyword argument cannot have default value")
          else .ok ({ st with phase := 3, varKw := some (.mk n ann none), bareStar := false }, j)
      | none => .error (faultAt ts (i + 1))
    else
      match nameAt? ts i with
      | some n => do
        if st.phase = 3 then .error (faultAt ts i "arguments cannot follow var-keyword argument")
        else
          let (ann, j) ← paramAnnotation f ts (i + 1) annotated false
          let (dflt, k) ←
            if isOp ts j "=" then do
              let (d, k) ← expression f ts (j + 1)
              pure (some d, k)
            else pure (none, j)
          let p := Param.mk n ann dflt
          if st.phase ≥ 2 then .ok ({ st with kwOnly := st.kwOnly ++ [p], bareStar := false }, k)
          else if dflt.isNone && st.sawDefault then
            .error (faultAt ts i "non-default argument follows default argument")
          else .ok ({ st with regular := st.regular ++ [p], sawDefault := st.sawDefault || dflt.isSome }, k)
      | none => .error (faultAt ts i)

/-- An optional annotation `: expression` (`: *expression` allowed when `starred`). -/
def paramAnnotation (f : Nat) (ts : Tokens) (i : Nat) (annotated starred : Bool) :
    Except SyntaxFault (Option Expr × Nat) :=
  match f with
  | 0 => failAt ts i "too many nested parentheses"
  | f + 1 =>
    if annotated && isOp ts i ":" then do
      let (e, j) ← if starred then starExpression f ts (i + 1) else expression f ts (i + 1)
      return (some e, j)
    else return (none, i)

/-- Adjacent string literals from `i`, joined. -/
def strings (f : Nat) (ts : Tokens) (i : Nat) : Except SyntaxFault (Expr × Nat) :=
  match f with
  | 0 => failAt ts i "too many nested parentheses"
  | f + 1 =>
    let toks := stringRun ts i
    let line := (tokAt ts i).line
    let fault (m : String) : SyntaxFault := ⟨.grammar, m, line⟩
    let lits := toks.map StringToken.ofText
    let j := i + toks.length
    match lits with
    | [] => failAt ts i
    | first :: _ =>
      if lits.any (·.bytes != first.bytes) then .error (fault "cannot mix bytes and nonbytes literals")
      else if first.bytes then
        if lits.any (fun l => l.body.any (·.toNat ≥ 128)) then
          .error (fault "bytes can only contain ASCII literal characters")
        else
          match lits.mapM (fun l => if l.raw then .ok (l.body.map (·.toNat.toUInt8))
              else decodeByteEscapes l.body) with
          | .ok parts => .ok (.lit (.bytes parts.flatten), j)
          | .error m => .error (fault m)
      else if lits.all (!·.formatted) then
        match lits.mapM (fun l => if l.raw then .ok l.body else decodeEscapes 0 l.body) with
        | .ok parts => .ok (.lit (.str (String.ofList parts.flatten)), j)
        | .error m => .error (fault m)
      else do
        let parts ← fstringParts f lits line
        return (.fstr (mergeTexts parts), j)

/-- The pieces of joined literals, at least one of them formatted. -/
def fstringParts (f : Nat) (lits : List StringToken) (line : Nat) :
    Except SyntaxFault (List FPart) :=
  match f with
  | 0 => .error ⟨.grammar, "too many nested parentheses", line⟩
  | f + 1 =>
    match lits with
    | [] => .ok []
    | l :: rest => do
      let here ←
        if l.formatted then
          match splitFString (l.body.length + 2) l.raw 0 l.body with
          | .ok (raws, _) => convertParts f raws line
          | .error m => .error ⟨.grammar, m, line⟩
        else
          match (if l.raw then .ok l.body else decodeEscapes 0 l.body) with
          | .ok cs => .ok [FPart.text (String.ofList cs)]
          | .error m => .error ⟨.grammar, m, line⟩
      let more ← fstringParts f rest line
      return here ++ more

/-- Pieces of a formatted string with their fields' expressions parsed. -/
def convertParts (f : Nat) (raws : List RawPart) (line : Nat) : Except SyntaxFault (List FPart) :=
  match f with
  | 0 => .error ⟨.grammar, "too many nested parentheses", line⟩
  | f + 1 =>
    match raws with
    | [] => .ok []
    | .text s :: rest => do
      let more ← convertParts f rest line
      return .text s :: more
    | .field src dbg conv spec :: rest => do
      let e ← fieldExpr f src line
      let spec' ← match spec with
        | some sp => do
          let ps ← convertParts f sp line
          pure (some (mergeTexts ps))
        | none => pure none
      let more ← convertParts f rest line
      return .field e dbg conv spec' :: more

/-- The expression of a replacement field, read from its text inside brackets. -/
def fieldExpr (f : Nat) (src : List Char) (line : Nat) : Except SyntaxFault Expr :=
  match f with
  | 0 => .error ⟨.grammar, "too many nested parentheses", line⟩
  | f + 1 =>
    match tokenize ('(' :: src ++ [')']) with
    | .error e => .error { e with message := "f-string: " ++ e.message, line := line }
    | .ok toks =>
      match starExpressions f toks 0 with
      | .ok (e, j) =>
        if isKind toks j .newline || isKind toks j .endmarker then .ok e
        else .error ⟨.grammar, "f-string: invalid syntax", line⟩
      | .error e => .error { e with message := "f-string: " ++ e.message, line := line }

end

end StubDoctest.Source
