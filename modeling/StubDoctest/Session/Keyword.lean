import StubDoctest.Text.WordChar
import StubDoctest.Text.Case

/-!
# Keyword expressions

An expression selecting test items by name: words joined by `and`, `or` and `not`, with
brackets. A word matches an item when it is, ignoring case, part of one of the item's names.
An empty expression selects no item.

Words are runs of word characters and `:`, `+`, `-`, `.`, `[`, `]`, `\` and `/`.
-/

namespace StubDoctest.Session

/-- A keyword expression. -/
inductive KeyExpr where
  /-- A word, matched as part of a name. -/
  | word (w : String)
  /-- Negation. -/
  | not (e : KeyExpr)
  /-- Both. -/
  | both (a b : KeyExpr)
  /-- Either. -/
  | either (a b : KeyExpr)
  /-- No item: the empty expression. -/
  | never
  deriving Inhabited

/-- The tokens of a keyword expression. -/
inductive KeyToken where
  | lparen | rparen | andT | orT | notT
  | ident (s : String)
  deriving Inhabited, BEq

/-- Whether a character may stand in a word. -/
def isWordPart (c : Char) : Bool :=
  Text.isWordChar c || ":+-.[]\\/".toList.contains c

/-- The tokens of an expression's text, or the column of an unexpected character. -/
def keyTokens (cs : List Char) : Except Nat (List KeyToken) :=
  let rec go (fuel : Nat) (col : Nat) (cs : List Char) : Except Nat (List KeyToken) :=
    match fuel with
    | 0 => .ok []
    | fuel + 1 =>
      match cs with
      | [] => .ok []
      | c :: rest =>
        if c = ' ' || c = '\t' then go fuel (col + 1) rest
        else if c = '(' then do return KeyToken.lparen :: (← go fuel (col + 1) rest)
        else if c = ')' then do return KeyToken.rparen :: (← go fuel (col + 1) rest)
        else if isWordPart c then
          let w := cs.takeWhile isWordPart
          let tok := match String.ofList w with
            | "and" => KeyToken.andT
            | "or" => KeyToken.orT
            | "not" => KeyToken.notT
            | s => KeyToken.ident s
          do return tok :: (← go fuel (col + w.length) (cs.drop w.length))
        else .error (col + 1)
  go (cs.length + 1) 0 cs

mutual

/-- `or` of `and` terms. -/
def orExpr (fuel : Nat) (ts : List KeyToken) : Option (KeyExpr × List KeyToken) :=
  match fuel with
  | 0 => none
  | fuel + 1 => do
    let (a, rest) ← andExpr fuel ts
    orTail fuel a rest

/-- The rest of an `or` chain. -/
def orTail (fuel : Nat) (acc : KeyExpr) (ts : List KeyToken) : Option (KeyExpr × List KeyToken) :=
  match fuel with
  | 0 => none
  | fuel + 1 =>
    match ts with
    | .orT :: rest => do
      let (b, rest') ← andExpr fuel rest
      orTail fuel (.either acc b) rest'
    | _ => some (acc, ts)

/-- `and` of negations. -/
def andExpr (fuel : Nat) (ts : List KeyToken) : Option (KeyExpr × List KeyToken) :=
  match fuel with
  | 0 => none
  | fuel + 1 => do
    let (a, rest) ← notExpr fuel ts
    andTail fuel a rest

/-- The rest of an `and` chain. -/
def andTail (fuel : Nat) (acc : KeyExpr) (ts : List KeyToken) : Option (KeyExpr × List KeyToken) :=
  match fuel with
  | 0 => none
  | fuel + 1 =>
    match ts with
    | .andT :: rest => do
      let (b, rest') ← notExpr fuel rest
      andTail fuel (.both acc b) rest'
    | _ => some (acc, ts)

/-- A negation, a bracketed expression or a word. -/
def notExpr (fuel : Nat) (ts : List KeyToken) : Option (KeyExpr × List KeyToken) :=
  match fuel with
  | 0 => none
  | fuel + 1 =>
    match ts with
    | .notT :: rest => do
      let (e, rest') ← notExpr fuel rest
      return (.not e, rest')
    | .lparen :: rest => do
      let (e, rest') ← orExpr fuel rest
      match rest' with
      | .rparen :: more => return (e, more)
      | _ => none
    | .ident w :: rest => some (.word w, rest)
    | _ => none

end

/-- The expression of a text, or `none` when it is not one. -/
def parseKeyExpr (s : String) : Option KeyExpr :=
  match keyTokens s.toList with
  | .error _ => none
  | .ok [] => some .never
  | .ok ts =>
    match orExpr (4 * ts.length + 4) ts with
    | some (e, []) => some e
    | _ => none

/-- Whether `part` occurs in `s`. -/
def occursIn (part s : String) : Bool :=
  part.isEmpty || (s.splitOn part).length > 1

/-- Whether an item with these names is selected by an expression. -/
def KeyExpr.selects (names : List String) : KeyExpr → Bool
  | .word w => names.any fun n => occursIn (Text.lower w) (Text.lower n)
  | .not e => !e.selects names
  | .both a b => a.selects names && b.selects names
  | .either a b => a.selects names || b.selects names
  | .never => false

/-- A negated expression selects exactly the items the expression leaves out. -/
theorem KeyExpr.selects_not (e : KeyExpr) (names : List String) :
    (KeyExpr.not e).selects names = !e.selects names := rfl

end StubDoctest.Session
