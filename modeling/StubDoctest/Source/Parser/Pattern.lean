import StubDoctest.Source.Parser.Expr

/-!
# Parsing patterns of `match` statements

A case reads an open sequence (patterns separated by commas, without brackets) or one
pattern. A pattern is alternatives separated by `|`, optionally bound by `as name`. The closed
patterns are literals (numbers, signed numbers, complex sums of a real and an imaginary
number, strings that are not formatted, `None`, `True`, `False`), captures, the wildcard `_`,
dotted names compared by value, groups, sequences in brackets, mappings and class patterns.
-/

namespace StubDoctest.Source

/-- Whether a literal is imaginary. -/
def Literal.isImag : Literal → Bool
  | .imag _ => true
  | _ => false

/-- Whether the token at `i` is a number literal. -/
def isNumberAt (ts : Tokens) (i : Nat) : Bool :=
  match (tokAt ts i).kind with
  | .number _ => true
  | _ => false

/-- A number of a pattern at `i`: a number literal, or one with a minus sign. -/
def signedNumberAt (ts : Tokens) (i : Nat) : Except SyntaxFault (Expr × Bool × Nat) :=
  match (tokAt ts i).kind with
  | .number t => .ok (.lit (numberLiteral t), (numberLiteral t).isImag, i + 1)
  | .op "-" =>
    match (tokAt ts (i + 1)).kind with
    | .number t => .ok (.unary .neg (.lit (numberLiteral t)), (numberLiteral t).isImag, i + 2)
    | _ => .error (faultAt ts (i + 1))
  | _ => .error (faultAt ts i)

/-- A literal number of a pattern or a mapping key: a signed number, or a real and an
imaginary number joined by `+` or `-`. -/
def numberPattern (ts : Tokens) (i : Nat) : Except SyntaxFault (Expr × Nat) := do
  let (a, aImag, j) ← signedNumberAt ts i
  let op? : Option BinOp :=
    if isOp ts j "+" then some .add else if isOp ts j "-" then some .sub else none
  match op? with
  | none => return (a, j)
  | some op =>
    match (tokAt ts (j + 1)).kind with
    | .number t =>
      if aImag then throw (faultAt ts i "real number required in complex literal")
      else if !(numberLiteral t).isImag then
        throw (faultAt ts (j + 1) "imaginary number required in complex literal")
      else return (.binary op a (.lit (numberLiteral t)), j + 2)
    | _ => throw (faultAt ts (j + 1))

/-- A dotted name from `i`: a name followed by attributes. -/
def dottedNameExpr (fuel : Nat) (ts : Tokens) (acc : Expr) (i : Nat) : Expr × Nat :=
  match fuel with
  | 0 => (acc, i)
  | fuel + 1 =>
    if isOp ts i "." then
      match nameAt? ts (i + 1) with
      | some n => dottedNameExpr fuel ts (.attr acc n) (i + 2)
      | none => (acc, i)
    else (acc, i)

/-- The name bound by a capture or an `as` at `i`: a name other than `_` that no `.`, `(`
or `=` follows. -/
def captureTargetAt? (ts : Tokens) (i : Nat) : Option String :=
  match nameAt? ts i with
  | some n =>
    if n == "_" || isOp ts (i + 1) "." || isOp ts (i + 1) "(" || isOp ts (i + 1) "=" then none
    else some n
  | none => none

mutual

/-- The patterns of a case: one pattern, or an open sequence. -/
def casePatterns (f : Nat) (ts : Tokens) (i : Nat) : Except SyntaxFault (Pattern × Nat) :=
  match f with
  | 0 => .error (faultAt ts i "too many nested parentheses")
  | f + 1 => do
    let (p, j) ← starOrPattern f ts i
    if isOp ts j "," then
      let (ps, k) ← patternItems f ts (j + 1) ":"
      return (.sequence (p :: ps), k)
    else
      match p with
      | .star _ => .error (faultAt ts i "can't use starred expression here")
      | _ => return (p, j)

/-- Patterns after a comma of a sequence, up to the token `close` (not read). -/
def patternItems (f : Nat) (ts : Tokens) (i : Nat) (close : String) :
    Except SyntaxFault (List Pattern × Nat) :=
  match f with
  | 0 => .error (faultAt ts i "too many nested parentheses")
  | f + 1 =>
    if isOp ts i close || (close == ":" && isWord ts i "if") then return ([], i)
    else do
      let (p, j) ← starOrPattern f ts i
      if isOp ts j "," then
        let (ps, k) ← patternItems f ts (j + 1) close
        return (p :: ps, k)
      else return ([p], j)

/-- `*name`, `*_` or a pattern. -/
def starOrPattern (f : Nat) (ts : Tokens) (i : Nat) : Except SyntaxFault (Pattern × Nat) :=
  match f with
  | 0 => .error (faultAt ts i "too many nested parentheses")
  | f + 1 =>
    if isOp ts i "*" then
      match nameAt? ts (i + 1) with
      | some "_" => return (.star none, i + 2)
      | some n => return (.star (some n), i + 2)
      | none => .error (faultAt ts (i + 1))
    else pattern f ts i

/-- Alternatives with an optional `as name`. -/
def pattern (f : Nat) (ts : Tokens) (i : Nat) : Except SyntaxFault (Pattern × Nat) :=
  match f with
  | 0 => .error (faultAt ts i "too many nested parentheses")
  | f + 1 => do
    let (p, j) ← orPattern f ts i
    if isWord ts j "as" then
      match captureTargetAt? ts (j + 1) with
      | some n => return (.asPat p n, j + 2)
      | none =>
        if isWord ts (j + 1) "_" then .error (faultAt ts (j + 1) "cannot use '_' as a target")
        else .error (faultAt ts (j + 1) "invalid pattern target")
    else return (p, j)

/-- Closed patterns separated by `|`. -/
def orPattern (f : Nat) (ts : Tokens) (i : Nat) : Except SyntaxFault (Pattern × Nat) :=
  match f with
  | 0 => .error (faultAt ts i "too many nested parentheses")
  | f + 1 => do
    let (p, j) ← closedPattern f ts i
    if isOp ts j "|" then
      let (ps, k) ← orTail f ts (j + 1)
      return (.orPat (p :: ps), k)
    else return (p, j)

/-- The alternatives after a `|`. -/
def orTail (f : Nat) (ts : Tokens) (i : Nat) : Except SyntaxFault (List Pattern × Nat) :=
  match f with
  | 0 => .error (faultAt ts i "too many nested parentheses")
  | f + 1 => do
    let (p, j) ← closedPattern f ts i
    if isOp ts j "|" then
      let (ps, k) ← orTail f ts (j + 1)
      return (p :: ps, k)
    else return ([p], j)

/-- A closed pattern. -/
def closedPattern (f : Nat) (ts : Tokens) (i : Nat) : Except SyntaxFault (Pattern × Nat) :=
  match f with
  | 0 => .error (faultAt ts i "too many nested parentheses")
  | f + 1 =>
    match (tokAt ts i).kind with
    | .number _ => do
      let (e, j) ← numberPattern ts i
      return (.value e, j)
    | .op "-" => do
      let (e, j) ← numberPattern ts i
      return (.value e, j)
    | .string _ => do
      let (e, j) ← strings f ts i
      match e with
      | .fstr _ => .error (faultAt ts i "patterns may only match literals and attribute lookups")
      | _ => return (.value e, j)
    | .name "None" => return (.singleton .none, i + 1)
    | .name "True" => return (.singleton (.bool true), i + 1)
    | .name "False" => return (.singleton (.bool false), i + 1)
    | .op "(" =>
      if isOp ts (i + 1) ")" then return (.sequence [], i + 2)
      else do
        let (p, j) ← starOrPattern f ts (i + 1)
        if isOp ts j "," then
          let (ps, k) ← patternItems f ts (j + 1) ")"
          let k ← expectOp ts k ")"
          return (.sequence (p :: ps), k)
        else
          let j ← expectOp ts j ")"
          match p with
          | .star _ => .error (faultAt ts i "can't use starred expression here")
          | _ => return (p, j)
    | .op "[" => do
      let (ps, k) ← patternItems f ts (i + 1) "]"
      let k ← expectOp ts k "]"
      return (.sequence ps, k)
    | .op "\x7b" => mappingPattern f ts (i + 1) [] []
    | _ =>
      match nameAt? ts i with
      | some n =>
        let (e, j) := dottedNameExpr (ts.size + 1) ts (.name n) (i + 1)
        if isOp ts j "(" then classArgs f ts e (j + 1) [] [] []
        else
          match e with
          | .name "_" => return (.capture none, j)
          | .name m =>
            if isOp ts j "=" then .error (faultAt ts j) else return (.capture (some m), j)
          | _ => return (.value e, j)
      | none => .error (faultAt ts i)

/-- The items of a mapping pattern after `{`, up to and with `}`. -/
def mappingPattern (f : Nat) (ts : Tokens) (i : Nat) (keys : List Expr) (ps : List Pattern) :
    Except SyntaxFault (Pattern × Nat) :=
  match f with
  | 0 => .error (faultAt ts i "too many nested parentheses")
  | f + 1 =>
    if isOp ts i "\x7d" then return (.mapping keys.reverse ps.reverse none, i + 1)
    else if isOp ts i "**" then
      match captureTargetAt? ts (i + 1) with
      | some n =>
        let j := if isOp ts (i + 2) "," then i + 3 else i + 2
        if isOp ts j "\x7d" then return (.mapping keys.reverse ps.reverse (some n), j + 1)
        else .error (faultAt ts j)
      | none => .error (faultAt ts (i + 1))
    else do
      let (key, j) ← mappingKey f ts i
      let j ← expectOp ts j ":"
      let (p, k) ← pattern f ts j
      if isOp ts k "," then mappingPattern f ts (k + 1) (key :: keys) (p :: ps)
      else if isOp ts k "\x7d" then
        return (.mapping (key :: keys).reverse (p :: ps).reverse none, k + 1)
      else .error (faultAt ts k)

/-- A key of a mapping pattern: a literal or a dotted name with at least one dot. -/
def mappingKey (f : Nat) (ts : Tokens) (i : Nat) : Except SyntaxFault (Expr × Nat) :=
  match f with
  | 0 => .error (faultAt ts i "too many nested parentheses")
  | f + 1 =>
    match (tokAt ts i).kind with
    | .number _ => numberPattern ts i
    | .op "-" => numberPattern ts i
    | .string _ => do
      let (e, j) ← strings f ts i
      match e with
      | .fstr _ => .error (faultAt ts i "patterns may only match literals and attribute lookups")
      | _ => return (e, j)
    | .name "None" => return (.lit .none, i + 1)
    | .name "True" => return (.lit (.bool true), i + 1)
    | .name "False" => return (.lit (.bool false), i + 1)
    | _ =>
      match nameAt? ts i with
      | some n =>
        let (e, j) := dottedNameExpr (ts.size + 1) ts (.name n) (i + 1)
        match e with
        | .attr _ _ => return (e, j)
        | _ => .error (faultAt ts i)
      | none => .error (faultAt ts i)

/-- The arguments of a class pattern after `(`, up to and with `)`: positional patterns, then
keyword patterns. -/
def classArgs (f : Nat) (ts : Tokens) (cls : Expr) (i : Nat) (ps : List Pattern)
    (names : List String) (kps : List Pattern) : Except SyntaxFault (Pattern × Nat) :=
  match f with
  | 0 => .error (faultAt ts i "too many nested parentheses")
  | f + 1 =>
    if isOp ts i ")" then return (.cls cls ps.reverse names.reverse kps.reverse, i + 1)
    else do
      let (ps, names, kps, j) ←
        match nameAt? ts i with
        | some n =>
          if isOp ts (i + 1) "=" then do
            let (p, j) ← pattern f ts (i + 2)
            pure (ps, n :: names, p :: kps, j)
          else do
            let (p, j) ← pattern f ts i
            if names.isEmpty then pure (p :: ps, names, kps, j)
            else throw (faultAt ts i "positional patterns follow keyword patterns")
        | none => do
          let (p, j) ← pattern f ts i
          if names.isEmpty then pure (p :: ps, names, kps, j)
          else throw (faultAt ts i "positional patterns follow keyword patterns")
      if isOp ts j "," then classArgs f ts cls (j + 1) ps names kps
      else if isOp ts j ")" then return (.cls cls ps.reverse names.reverse kps.reverse, j + 1)
      else .error (faultAt ts j)

end

end StubDoctest.Source
