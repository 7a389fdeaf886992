import StubDoctest.Source.Tree

/-!
# Where function bodies yield

A function whose body holds `yield` or `yield from`, outside the functions, classes and
comprehensions nested in it, is a generator. A generator's body can pause at a yield and go
on later when each yield stands where nothing else of its statement is left to evaluate: as the
whole of an expression statement or of an assigned value, inside blocks whose tests, iterables,
handlers' types and context managers do not yield themselves.
-/

namespace StubDoctest.Source

/-- Whether an expression yields, outside nested functions and comprehensions of their own;
`depth` bounds the nesting looked into. -/
def exprYields : Nat → Expr → Bool
  | 0, _ => false
  | d + 1, e =>
    let go := exprYields d
    match e with
    | .yield _ => true
    | .yieldFrom _ => true
    | .unary _ e => go e
    | .binary _ a b => go a || go b
    | .andAlso a b => go a || go b
    | .orElse a b => go a || go b
    | .compare a rest => go a || rest.any (go ·.2)
    | .ifElse a b c => go a || go b || go c
    | .walrus _ e => go e
    | .call f args => go f || args.any fun
        | .pos e => go e | .star e => go e | .kw _ e => go e | .starstar e => go e
    | .attr e _ => go e
    | .index a b => go a || go b
    | .starred e => go e
    | .tuple es => es.any go
    | .list es => es.any go
    | .set es => es.any go
    | .await e => go e
    | _ => false

/-- Whether a statement yields, outside nested definitions; `depth` bounds the nesting looked
into. -/
def stmtYields : Nat → Stmt → Bool
  | 0, _ => false
  | d + 1, s =>
    let ex := exprYields (d + 1)
    let go := stmtYields d
    match s with
    | .expr e => ex e
    | .assign _ v => ex v
    | .augAssign _ _ v => ex v
    | .annAssign _ _ (some v) => ex v
    | .ret (some v) => ex v
    | .ifElse t b o => ex t || b.any go || o.any go
    | .while t b o => ex t || b.any go || o.any go
    | .forIn _ _ i b o => ex i || b.any go || o.any go
    | .with _ items b => items.any (ex ·.1) || b.any go
    | .tryExcept b hs o f _ =>
      b.any go || hs.any (fun | .mk _ _ hb => hb.any go) || o.any go || f.any go
    | .matchCases e cs => ex e || cs.any fun | .mk _ _ cb => cb.any go
    | _ => false

/-- Whether a function body yields. -/
def bodyYields (body : List Stmt) : Bool := body.any (stmtYields 10000)

/-- Whether a statement yields only where a paused generator can wait between statements: as
the whole of an expression statement or of an assigned value (`yield`, `yield from`), or inside
the blocks of `if`, `while`, `for`, `try`, `with` and `match` statements whose other parts do
not yield. `depth` bounds the nesting looked into. -/
def stmtResumable : Nat → Stmt → Bool
  | 0, _ => false
  | d + 1, s =>
    let ex := exprYields 10000
    let no (e : Option Expr) : Bool := !((e.map ex).getD false)
    let go := fun (ss : List Stmt) => ss.all (stmtResumable d)
    if !stmtYields 10000 s then true
    else
      match s with
      | .expr (.yield v) => no v
      | .expr (.yieldFrom v) => !ex v
      | .assign ts (.yield v) => !ts.any ex && no v
      | .assign ts (.yieldFrom v) => !ts.any ex && !ex v
      | .ifElse t b o => !ex t && go b && go o
      | .while t b o => !ex t && go b && go o
      | .forIn false t i b o => !ex t && !ex i && go b && go o
      | .with false items b => items.all (fun (e, t) => !ex e && no t) && go b
      | .tryExcept b hs o f false =>
        go b && hs.all (fun | .mk t _ hb => no t && go hb) && go o && go f
      | .matchCases e cs => !ex e && cs.all (fun | .mk _ g cb => no g && go cb)
      | _ => false

/-- Whether a generator's body can be paused at each of its yields. -/
def bodyResumable (body : List Stmt) : Bool := body.all (stmtResumable 10000)

end StubDoctest.Source
