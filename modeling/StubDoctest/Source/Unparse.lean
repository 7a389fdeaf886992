import StubDoctest.Source.Tree
import StubDoctest.Text.Quoted
import StubDoctest.Number.FloatText

/-!
# Expressions written back as source

An annotation that is kept as text, rather than evaluated, is the expression written back in a
normal form: operators with single spaces around them, items separated by `, `, strings quoted
as their display form, and parentheses exactly where the binding strength of the operators
needs them. An expression in a context of strength `p` is put in parentheses when its own
operator binds less strongly than `p`; the left operand of a left-associative operator keeps
the operator's strength and the right operand needs one more (the reverse for `**`). A tuple is
always parenthesized, as an annotation is written in the context of a conditional expression.
-/

namespace StubDoctest.Source

/-! Binding strengths of the operators, weakest first. -/

/-- The binding strength of a tuple display. -/
def Strength.tuple : Nat := 2

/-- The binding strength of a conditional expression or lambda. -/
def Strength.test : Nat := 4

/-- The binding strength of `or`. -/
def Strength.or : Nat := 5

/-- The binding strength of `and`. -/
def Strength.and : Nat := 6

/-- The binding strength of `not`. -/
def Strength.not : Nat := 7

/-- The binding strength of comparisons. -/
def Strength.cmp : Nat := 8

/-- The binding strength of `|`. -/
def Strength.bitor : Nat := 9

/-- The binding strength of `^`. -/
def Strength.bitxor : Nat := 10

/-- The binding strength of `&`. -/
def Strength.bitand : Nat := 11

/-- The binding strength of shifts. -/
def Strength.shift : Nat := 12

/-- The binding strength of `+` and `-`. -/
def Strength.arith : Nat := 13

/-- The binding strength of `*`, `/`, `//`, `%` and `@`. -/
def Strength.term : Nat := 14

/-- The binding strength of unary `-`, `+` and `~`. -/
def Strength.factor : Nat := 15

/-- The binding strength of `**`. -/
def Strength.power : Nat := 16

/-- The binding strength of `await`. -/
def Strength.await : Nat := 17

/-- The binding strength of names, constants, calls, subscripts and attributes. -/
def Strength.atom : Nat := 18

/-- The text and the binding strength of a binary operator. -/
def BinOp.written : BinOp → String × Nat
  | .add => ("+", Strength.arith) | .sub => ("-", Strength.arith)
  | .mul => ("*", Strength.term) | .matmul => ("@", Strength.term)
  | .div => ("/", Strength.term) | .floordiv => ("//", Strength.term)
  | .mod => ("%", Strength.term) | .pow => ("**", Strength.power)
  | .lshift => ("<<", Strength.shift) | .rshift => (">>", Strength.shift)
  | .bitor => ("|", Strength.bitor) | .bitxor => ("^", Strength.bitxor)
  | .bitand => ("&", Strength.bitand)

/-- The text of a comparison operator. -/
def CmpOp.written : CmpOp → String
  | .eq => "==" | .ne => "!=" | .lt => "<" | .le => "<=" | .gt => ">" | .ge => ">="
  | .is => "is" | .isNot => "is not" | .isIn => "in" | .notIn => "not in"

/-- The source text of a constant. -/
def Literal.written : Literal → String
  | .none => "None"
  | .bool b => if b then "True" else "False"
  | .ellipsis => "..."
  | .int n => toString n
  | .float x => Number.floatText x
  | .imag x => Number.floatText x ++ "j"
  | .str s => Text.quote s
  | .bytes bs => "b" ++ Text.quote (String.ofList (bs.map fun b => Char.ofNat b.toNat))

/-- Text in parentheses when `needed`. -/
def parenIf (needed : Bool) (s : String) : String := if needed then "(" ++ s ++ ")" else s

/-- The source text of an expression in a context of binding strength `p`; `depth` bounds the
nesting written. -/
def Expr.writtenAt : Nat → Nat → Expr → String
  | 0, _, _ => "..."
  | d + 1, p, e =>
    let go := Expr.writtenAt d
    let items (es : List Expr) : String := ", ".intercalate (es.map (go Strength.test))
    let param (q : Param) : String :=
      match q with
      | .mk n _ (some v) => n ++ "=" ++ go Strength.test v
      | .mk n _ none => n
    match e with
    | .lit v => v.written
    | .name n => n
    | .fstr _ => "f'...'"
    | .unary op a =>
      match op with
      | .not => parenIf (p > Strength.not) ("not " ++ go Strength.not a)
      | .neg => parenIf (p > Strength.factor) ("-" ++ go Strength.factor a)
      | .pos => parenIf (p > Strength.factor) ("+" ++ go Strength.factor a)
      | .invert => parenIf (p > Strength.factor) ("~" ++ go Strength.factor a)
    | .binary op a b =>
      let (sym, q) := op.written
      let (l, r) := if op == .pow then (q + 1, q) else (q, q + 1)
      parenIf (p > q) (go l a ++ " " ++ sym ++ " " ++ go r b)
    | .andAlso a b => parenIf (p > Strength.and) (go (Strength.and + 1) a ++ " and " ++ go (Strength.and + 1) b)
    | .orElse a b => parenIf (p > Strength.or) (go (Strength.or + 1) a ++ " or " ++ go (Strength.or + 1) b)
    | .compare a rest =>
      parenIf (p > Strength.cmp) (go (Strength.cmp + 1) a ++
        String.join (rest.map fun (op, b) => " " ++ op.written ++ " " ++ go (Strength.cmp + 1) b))
    | .ifElse t b o =>
      parenIf (p > Strength.test) (go (Strength.test + 1) b ++ " if " ++ go (Strength.test + 1) t ++
        " else " ++ go Strength.test o)
    | .lambda ps body =>
      let .mk posOnly regular varArgs kwOnly varKw := ps
      let names := (posOnly ++ regular).map param ++ (varArgs.toList.map fun | .mk n _ _ => "*" ++ n) ++
        kwOnly.map param ++ (varKw.toList.map fun | .mk n _ _ => "**" ++ n)
      let head := if names.isEmpty then "lambda" else "lambda " ++ ", ".intercalate names
      parenIf (p > Strength.test) (head ++ ": " ++ go Strength.test body)
    | .walrus n v => parenIf (p > 1) (n ++ " := " ++ go Strength.atom v)
    | .call f args =>
      let arg : Arg → String := fun
        | .pos a => go Strength.test a
        | .star a => "*" ++ go Strength.test a
        | .kw n a => n ++ "=" ++ go Strength.test a
        | .starstar a => "**" ++ go Strength.test a
      go Strength.atom f ++ "(" ++ ", ".intercalate (args.map arg) ++ ")"
    | .attr o n => go Strength.atom o ++ "." ++ n
    | .index o k =>
      let key := match k with
        | .tuple [x] => go Strength.test x ++ ","
        | .tuple (x :: xs) => items (x :: xs)
        | k => go Strength.tuple k
      go Strength.atom o ++ "[" ++ key ++ "]"
    | .slice lo hi st =>
      let part (x : Option Expr) : String := (x.map (go Strength.test)).getD ""
      part lo ++ ":" ++ part hi ++ (match st with | some s => ":" ++ go Strength.test s | none => "")
    | .starred a => "*" ++ go Strength.bitor a
    | .tuple [x] => "(" ++ go Strength.test x ++ ",)"
    | .tuple es => "(" ++ items es ++ ")"
    | .list es => "[" ++ items es ++ "]"
    | .set es => "\x7b" ++ items es ++ "\x7d"
    | .dict ds =>
      let item : DictItem → String := fun
        | .pair k v => go Strength.test k ++ ": " ++ go Strength.test v
        | .spread v => "**" ++ go Strength.bitor v
      "\x7b" ++ ", ".intercalate (ds.map item) ++ "\x7d"
    | .comp kind elt clauses =>
      let clause (c : CompFor) : String :=
        let .mk isAsync t it conds := c
        (if isAsync then " async for " else " for ") ++ go Strength.tuple t ++ " in " ++
          go (Strength.test + 1) it ++ String.join (conds.map fun c => " if " ++ go (Strength.test + 1) c)
      let body := go Strength.test elt ++ String.join (clauses.map clause)
      match kind with
      | .list => "[" ++ body ++ "]"
      | .set => "\x7b" ++ body ++ "\x7d"
      | .gen => "(" ++ body ++ ")"
    | .dictComp k v clauses =>
      let clause (c : CompFor) : String :=
        let .mk isAsync t it conds := c
        (if isAsync then " async for " else " for ") ++ go Strength.tuple t ++ " in " ++
          go (Strength.test + 1) it ++ String.join (conds.map fun c => " if " ++ go (Strength.test + 1) c)
      "\x7b" ++ go Strength.test k ++ ": " ++ go Strength.test v ++ String.join (clauses.map clause) ++ "\x7d"
    | .await a => parenIf (p > Strength.await) ("await " ++ go Strength.atom a)
    | .yield none => parenIf (p > 3) "yield"
    | .yield (some a) => parenIf (p > 3) ("yield " ++ go Strength.tuple a)
    | .yieldFrom a => parenIf (p > 3) ("yield from " ++ go Strength.test a)

/-- The source text of an annotation kept as text. -/
def Expr.annotationText (e : Expr) : String := Expr.writtenAt 1000 Strength.test e

end StubDoctest.Source
