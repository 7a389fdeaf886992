/-!
# Syntax trees of Python source

Expressions, patterns and statements as the parser builds them. Names are stored normalized
(compatibility normal form for names that are not ASCII). Literals hold their values: integers
exactly, floats as the double they denote, strings decoded. Formatted strings are a list of
text pieces and replacement fields.

A function or class definition keeps the line of its keyword, which is the line reported for
its docstring.
-/

namespace StubDoctest.Source

/-- Constants written in source. -/
inductive Literal where
  /-- `None`. -/
  | none
  /-- `True` or `False`. -/
  | bool (b : Bool)
  /-- `...`. -/
  | ellipsis
  /-- An integer. -/
  | int (n : Nat)
  /-- A float. -/
  | float (x : Float)
  /-- An imaginary number, by its imaginary part. -/
  | imag (x : Float)
  /-- A text string. -/
  | str (s : String)
  /-- A byte string. -/
  | bytes (bs : List UInt8)
  deriving Inhabited

/-- Operators of one operand. -/
inductive UnaryOp where
  | neg | pos | invert | not
  deriving DecidableEq, Repr, Inhabited

/-- Operators of two operands, also used by augmented assignment. -/
inductive BinOp where
  | add | sub | mul | matmul | div | floordiv | mod | pow | lshift | rshift | bitor | bitxor
  | bitand
  deriving DecidableEq, Repr, Inhabited

/-- Comparison operators. -/
inductive CmpOp where
  | eq | ne | lt | le | gt | ge | is | isNot | isIn | notIn
  deriving DecidableEq, Repr, Inhabited

/-- The kinds of comprehension. -/
inductive CompKind where
  | list | set | gen
  deriving DecidableEq, Repr, Inhabited

mutual

/-- Expressions. -/
inductive Expr where
  /-- A constant. -/
  | lit (v : Literal)
  /-- A variable. -/
  | name (id : String)
  /-- A formatted string. -/
  | fstr (parts : List FPart)
  /-- A unary operation. -/
  | unary (op : UnaryOp) (e : Expr)
  /-- A binary operation. -/
  | binary (op : BinOp) (a b : Expr)
  /-- `a and b`. -/
  | andAlso (a b : Expr)
  /-- `a or b`. -/
  | orElse (a b : Expr)
  /-- A chain of comparisons. -/
  | compare (first : Expr) (rest : List (CmpOp × Expr))
  /-- `body if test else orelse`. -/
  | ifElse (test body orelse : Expr)
  /-- An anonymous function. -/
  | lambda (params : Params) (body : Expr)
  /-- An assignment expression `name := value`. -/
  | walrus (target : String) (value : Expr)
  /-- A call. -/
  | call (fn : Expr) (args : List Arg)
  /-- An attribute. -/
  | attr (obj : Expr) (name : String)
  /-- A subscript. -/
  | index (obj : Expr) (key : Expr)
  /-- A slice, inside a subscript. -/
  | slice (lo hi step : Option Expr)
  /-- `*e`. -/
  | starred (e : Expr)
  /-- A tuple display. -/
  | tuple (es : List Expr)
  /-- A list display. -/
  | list (es : List Expr)
  /-- A set display. -/
  | set (es : List Expr)
  /-- A dictionary display. -/
  | dict (items : List DictItem)
  /-- A list, set or generator comprehension. -/
  | comp (kind : CompKind) (elt : Expr) (clauses : List CompFor)
  /-- A dictionary comprehension. -/
  | dictComp (key value : Expr) (clauses : List CompFor)
  /-- `await e`. -/
  | await (e : Expr)
  /-- `yield` with an optional value. -/
  | yield (e : Option Expr)
  /-- `yield from e`. -/
  | yieldFrom (e : Expr)
  deriving Inhabited

/-- A piece of a formatted string. -/
inductive FPart where
  /-- Literal text. -/
  | text (s : String)
  /-- A replacement field: the expression, its text when written with `=`, the conversion and
  the format specification, if one is written. -/
  | field (e : Expr) (debugText : Option String) (conv : Option Char) (spec : Option (List FPart))
  deriving Inhabited

/-- An argument of a call. -/
inductive Arg where
  /-- A positional argument. -/
  | pos (e : Expr)
  /-- `*e`. -/
  | star (e : Expr)
  /-- `name=e`. -/
  | kw (name : String) (e : Expr)
  /-- `**e`. -/
  | starstar (e : Expr)
  deriving Inhabited

/-- An item of a dictionary display. -/
inductive DictItem where
  /-- `key: value`. -/
  | pair (key value : Expr)
  /-- `**e`. -/
  | spread (e : Expr)
  deriving Inhabited

/-- A `for` clause of a comprehension with its `if` conditions. -/
inductive CompFor where
  | mk (isAsync : Bool) (target iter : Expr) (conds : List Expr)
  deriving Inhabited

/-- A parameter: name, annotation and default. -/
inductive Param where
  | mk (name : String) (ann : Option Expr) (dflt : Option Expr)
  deriving Inhabited

/-- The parameters of a function: positional-only, ordinary, the collector of extra
positional arguments, keyword-only and the collector of extra keyword arguments. -/
inductive Params where
  | mk (posOnly regular : List Param) (varArgs : Option Param) (kwOnly : List Param)
      (varKw : Option Param)
  deriving Inhabited

end

/-- The parameters of a function without any. -/
def Params.empty : Params := .mk [] [] none [] none

/-- Patterns of a `match` statement. -/
inductive Pattern where
  /-- A literal or a dotted name compared by equality. -/
  | value (e : Expr)
  /-- `None`, `True` or `False`, compared by identity. -/
  | singleton (v : Literal)
  /-- A capture of the subject under a name, or the wildcard `_`. -/
  | capture (name : Option String)
  /-- A sequence of patterns. -/
  | sequence (ps : List Pattern)
  /-- `*name` or `*_` inside a sequence. -/
  | star (name : Option String)
  /-- A mapping: keys, their patterns and the capture of the rest. -/
  | mapping (keys : List Expr) (ps : List Pattern) (rest : Option String)
  /-- A class pattern: positional and keyword sub-patterns. -/
  | cls (cls : Expr) (ps : List Pattern) (kwNames : List String) (kwPs : List Pattern)
  /-- `p as name`. -/
  | asPat (p : Pattern) (name : String)
  /-- Alternatives. -/
  | orPat (ps : List Pattern)
  deriving Inhabited

/-- Whether an expression is a starred expression. -/
def Expr.isStarred : Expr → Bool
  | .starred _ => true
  | _ => false

/-- Whether a pattern is a star pattern. -/
def Pattern.isStar : Pattern → Bool
  | .star _ => true
  | _ => false

/-- A name imported, with the name it is bound to. -/
structure Alias where
  /-- The dotted name. -/
  name : String
  /-- The name given by `as`. -/
  asName : Option String
  deriving Inhabited

mutual

/-- Statements. -/
inductive Stmt where
  /-- An expression evaluated for its effect. -/
  | expr (e : Expr)
  /-- `t1 = t2 = value`. -/
  | assign (targets : List Expr) (value : Expr)
  /-- `target op= value`. -/
  | augAssign (target : Expr) (op : BinOp) (value : Expr)
  /-- `target: ann = value`. -/
  | annAssign (target : Expr) (ann : Expr) (value : Option Expr)
  /-- `pass`. -/
  | pass
  /-- `break`. -/
  | brk
  /-- `continue`. -/
  | cont
  /-- `return`. -/
  | ret (value : Option Expr)
  /-- `raise`, with the exception and its cause. -/
  | raise (exc cause : Option Expr)
  /-- `global`. -/
  | global (names : List String)
  /-- `nonlocal`. -/
  | nonlocal (names : List String)
  /-- `del`. -/
  | del (targets : List Expr)
  /-- `assert`. -/
  | assert (test : Expr) (msg : Option Expr)
  /-- `import a.b as c`. -/
  | importNames (names : List Alias)
  /-- `from ..m import a as b`; the names are `*` for a star import. -/
  | importFrom (module : Option String) (level : Nat) (names : List Alias)
  /-- `if`, with `elif` parts nested in the `else` part. -/
  | ifElse (test : Expr) (body orelse : List Stmt)
  /-- `while`. -/
  | while (test : Expr) (body orelse : List Stmt)
  /-- `for`. -/
  | forIn (isAsync : Bool) (target iter : Expr) (body orelse : List Stmt)
  /-- `with`. -/
  | with (isAsync : Bool) (items : List (Expr × Option Expr)) (body : List Stmt)
  /-- `try`, with `except*` handlers when `star`. -/
  | tryExcept (body : List Stmt) (handlers : List Handler) (orelse final : List Stmt)
      (star : Bool)
  /-- A function definition at the line of its `def` keyword. -/
  | funcDef (isAsync : Bool) (name : String) (params : Params) (returns : Option Expr)
      (decorators : List Expr) (body : List Stmt) (line : Nat)
  /-- A class definition at the line of its `class` keyword. -/
  | classDef (name : String) (bases : List Arg) (decorators : List Expr) (body : List Stmt)
      (line : Nat)
  /-- `match`. -/
  | matchCases (subject : Expr) (cases : List MatchCase)
  deriving Inhabited

/-- An exception handler: the type matched, the name bound, the body. -/
inductive Handler where
  | mk (type : Option Expr) (name : Option String) (body : List Stmt)
  deriving Inhabited

/-- A case of a `match` statement. -/
inductive MatchCase where
  | mk (pat : Pattern) (guard : Option Expr) (body : List Stmt)
  deriving Inhabited

end

end StubDoctest.Source
