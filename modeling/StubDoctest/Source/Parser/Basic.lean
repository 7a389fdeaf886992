import StubDoctest.Source.Token
import StubDoctest.Source.Tree
import StubDoctest.Text.Normalize

/-!
# Reading tokens

The parser reads an array of tokens by index; every parsing function returns what it read
with the index after it, or a syntax fault. This module holds the token tests, the faults, and
the rules that say which expressions may stand as the target of an assignment, an augmented
or annotated assignment, or a deletion.

Targets are parsed as expressions and then checked: an assignment target is a name, an
attribute, a subscript, a starred target (not starred twice) or a tuple or list of targets; an
augmented or annotated target is a name, an attribute or a subscript; a deletion target is a
name, an attribute, a subscript or a tuple or list of deletion targets.
-/

namespace StubDoctest.Source

/-- Tokens read by index. Every parsing function returns the value read with the index after
it, or a syntax fault. -/
abbrev Tokens := Array Token

/-- The token at index `i`; past the end, the last token (the end marker). -/
def tokAt (ts : Tokens) (i : Nat) : Token :=
  match ts[i]? with
  | some t => t
  | none => ts.back?.getD ⟨.endmarker, 1, 0⟩

/-- Whether the token at `i` is the operator `s`. -/
def isOp (ts : Tokens) (i : Nat) (s : String) : Bool :=
  match (tokAt ts i).kind with
  | .op o => o == s
  | _ => false

/-- Whether the token at `i` is the word `k` (a keyword or a soft keyword). -/
def isWord (ts : Tokens) (i : Nat) (k : String) : Bool :=
  match (tokAt ts i).kind with
  | .name n => n == k
  | _ => false

/-- Whether a token is a string literal. -/
def TokenKind.isString : TokenKind → Bool
  | .string _ => true
  | _ => false

/-- How many brackets are open after the tokens before index `k`. -/
def bracketLevel (ts : Tokens) (k : Nat) : Nat :=
  (ts.extract 0 k).foldl (fun n t =>
    match t.kind with
    | .op "(" | .op "[" | .op "\x7b" => n + 1
    | .op ")" | .op "]" | .op "\x7d" => n - 1
    | _ => n) 0

/-- Whether the token at `i` is of the given layout kind. -/
def isKind (ts : Tokens) (i : Nat) (k : TokenKind) : Bool := (tokAt ts i).kind == k

/-- An identifier as the program sees it: names past ASCII are normalized. -/
def normName (s : String) : String :=
  if s.toList.all (fun c => c.toNat < 128) then s else Text.nfkc s

/-- The name at `i`, normalized, if the token is a name and not a keyword. -/
def nameAt? (ts : Tokens) (i : Nat) : Option String :=
  match (tokAt ts i).kind with
  | .name n => if isKeyword n then none else some (normName n)
  | _ => none

/-- A syntax fault at the token at `i`. -/
def faultAt (ts : Tokens) (i : Nat) (msg : String := "invalid syntax") : SyntaxFault :=
  ⟨.grammar, msg, (tokAt ts i).line⟩

/-- An indentation fault at the token at `i`. -/
def indentFaultAt (ts : Tokens) (i : Nat) (msg : String) : SyntaxFault :=
  ⟨.indentation, msg, (tokAt ts i).line⟩

/-- Fail at `i` with the generic fault. -/
def failAt {α : Type} (ts : Tokens) (i : Nat) (msg : String := "invalid syntax") : Except SyntaxFault (α × Nat) :=
  .error (faultAt ts i msg)

/-- Expect the operator `s` at `i`. -/
def expectOp (ts : Tokens) (i : Nat) (s : String) : Except SyntaxFault Nat :=
  if isOp ts i s then .ok (i + 1) else .error (faultAt ts i)

/-- Expect a name at `i`. -/
def expectName (ts : Tokens) (i : Nat) : Except SyntaxFault (String × Nat) :=
  match nameAt? ts i with
  | some n => .ok (n, i + 1)
  | none => failAt ts i

/-- Whether an expression is an assignment expression. -/
def Expr.isWalrus : Expr → Bool
  | .walrus _ _ => true
  | _ => false

mutual

/-- Whether an expression may stand as an assignment target. -/
def isStarTarget : Expr → Bool
  | .name _ => true
  | .attr _ _ => true
  | .index _ _ => true
  | .starred e => !e.isStarred && isStarTarget e
  | .tuple es => allStarTargets es
  | .list es => allStarTargets es
  | _ => false

/-- Whether every expression of a list may stand as an assignment target. -/
def allStarTargets : List Expr → Bool
  | [] => true
  | e :: es => isStarTarget e && allStarTargets es

end

/-- Whether an expression may stand as the target of an augmented or annotated assignment. -/
def isSingleTarget : Expr → Bool
  | .name _ => true
  | .attr _ _ => true
  | .index _ _ => true
  | _ => false

mutual

/-- Whether an expression may be deleted. -/
def isDelTarget : Expr → Bool
  | .name _ => true
  | .attr _ _ => true
  | .index _ _ => true
  | .tuple es => allDelTargets es
  | .list es => allDelTargets es
  | _ => false

/-- Whether every expression of a list may be deleted. -/
def allDelTargets : List Expr → Bool
  | [] => true
  | e :: es => isDelTarget e && allDelTargets es

end

/-- The text of what an expression is, for the messages of faults. -/
def targetKind : Expr → String
  | .name _ => "name"
  | .attr _ _ => "attribute"
  | .index _ _ => "subscript"
  | .starred _ => "starred"
  | .tuple _ => "tuple"
  | .list _ => "list"
  | .lit (.none) => "None"
  | .lit (.bool true) => "True"
  | .lit (.bool false) => "False"
  | .lit .ellipsis => "ellipsis"
  | .lit _ => "literal"
  | .fstr _ => "f-string expression"
  | .call _ _ => "function call"
  | .binary _ _ _ => "expression"
  | .unary _ _ => "expression"
  | .andAlso _ _ => "expression"
  | .orElse _ _ => "expression"
  | .compare _ _ => "comparison"
  | .ifElse _ _ _ => "conditional expression"
  | .lambda _ _ => "lambda"
  | .walrus _ _ => "named expression"
  | .dict _ => "dict literal"
  | .set _ => "set display"
  | .comp .list _ _ => "list comprehension"
  | .comp .set _ _ => "set comprehension"
  | .comp .gen _ _ => "generator expression"
  | .dictComp _ _ _ => "dict comprehension"
  | .await _ => "await expression"
  | .yield _ => "yield expression"
  | .yieldFrom _ => "yield expression"
  | _ => "expression"

mutual

/-- The first part of an expression that keeps it from being an assignment target, if any. -/
def invalidTarget : Expr → Option Expr
  | .name _ => none
  | .attr _ _ => none
  | .index _ _ => none
  | .starred e => invalidTarget e
  | .tuple es => invalidTargets es
  | .list es => invalidTargets es
  | e => some e

/-- The first part of a list of expressions that is no assignment target, if any. -/
def invalidTargets : List Expr → Option Expr
  | [] => none
  | e :: es =>
    match invalidTarget e with
    | some b => some b
    | none => invalidTargets es

end

/-- The binary operator of an augmented assignment token. -/
def augOp? : String → Option BinOp
  | "+=" => some .add
  | "-=" => some .sub
  | "*=" => some .mul
  | "@=" => some .matmul
  | "/=" => some .div
  | "%=" => some .mod
  | "&=" => some .bitand
  | "|=" => some .bitor
  | "^=" => some .bitxor
  | "<<=" => some .lshift
  | ">>=" => some .rshift
  | "**=" => some .pow
  | "//=" => some .floordiv
  | _ => none

/-- The augmented assignment operator at `i`, if any. -/
def augOpAt? (ts : Tokens) (i : Nat) : Option BinOp :=
  match (tokAt ts i).kind with
  | .op o => augOp? o
  | _ => none

end StubDoctest.Source
