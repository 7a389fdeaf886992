import StubDoctest.Source.Parser.Stmt

/-!
# Parsing never goes back

Every parsing function reads the tokens from an index and, when it succeeds, returns the index
where it stopped. For the expression, pattern and statement grammars, at every fuel, that index
is never before the one it started from (and `juxtaposed`, which only checks what follows an
expression, stops where the expression did).

Each grammar is one mutual recursion over a shared fuel, so its bounds are gathered in one
record per grammar, one field per function: `ExprAdvance`, `PatternAdvance`, `StmtAdvance`.
At fuel 0 every function fails, and the record at `f + 1` is built from the one at `f`, by one
step lemma per function that unfolds it once.
-/

set_option autoImplicit false

namespace StubDoctest.Source

/-! ## Expressions -/

@[grind →] theorem expectOp_eq {ts : Tokens} {i j : Nat} {s : String}
    (h : expectOp ts i s = .ok j) :
    j = i + 1 := by
  unfold expectOp at h
  split at h
  · exact (Except.ok.inj h).symm
  · cases h

@[grind →] theorem expectName_eq {ts : Tokens} {i j : Nat} {n : String}
    (h : expectName ts i = .ok (n, j)) :
    j = i + 1 := by
  unfold expectName failAt at h
  split at h
  · cases h; rfl
  · cases h

/-- Every parse of the expression grammar at fuel `f` that succeeds ends at or after the token
where it started. -/
structure ExprAdvance (f : Nat) : Prop where
  expression_le : ∀ {ts i e j}, expression f ts i = .ok (e, j) → i ≤ j
  juxtaposed_eq : ∀ {ts i a j₀ e j}, juxtaposed f ts i a j₀ = .ok (e, j) → j = j₀
  lambdef_le : ∀ {ts i e j}, lambdef f ts i = .ok (e, j) → i ≤ j
  namedExpression_le : ∀ {ts i e j}, namedExpression f ts i = .ok (e, j) → i ≤ j
  plainExpression_le : ∀ {ts i e j}, plainExpression f ts i = .ok (e, j) → i ≤ j
  starExpression_le : ∀ {ts i e j}, starExpression f ts i = .ok (e, j) → i ≤ j
  starNamedExpression_le : ∀ {ts i e j}, starNamedExpression f ts i = .ok (e, j) → i ≤ j
  starExpressions_le : ∀ {ts i e j}, starExpressions f ts i = .ok (e, j) → i ≤ j
  starExpressionsTail_le : ∀ {ts i es j}, starExpressionsTail f ts i = .ok (es, j) → i ≤ j
  displayTail_le : ∀ {ts i c es j}, displayTail f ts i c = .ok (es, j) → i ≤ j
  yieldExpr_le : ∀ {ts i e j}, yieldExpr f ts i = .ok (e, j) → i ≤ j
  disjunction_le : ∀ {ts i e j}, disjunction f ts i = .ok (e, j) → i ≤ j
  disjunctionTail_le : ∀ {ts a i e j}, disjunctionTail f ts a i = .ok (e, j) → i ≤ j
  conjunction_le : ∀ {ts i e j}, conjunction f ts i = .ok (e, j) → i ≤ j
  conjunctionTail_le : ∀ {ts a i e j}, conjunctionTail f ts a i = .ok (e, j) → i ≤ j
  inversion_le : ∀ {ts i e j}, inversion f ts i = .ok (e, j) → i ≤ j
  comparison_le : ∀ {ts i e j}, comparison f ts i = .ok (e, j) → i ≤ j
  comparisonTail_le : ∀ {ts i cs j}, comparisonTail f ts i = .ok (cs, j) → i ≤ j
  binaryLevel_le : ∀ {ts i l e j}, binaryLevel f ts i l = .ok (e, j) → i ≤ j
  operand_le : ∀ {ts i l e j}, operand f ts i l = .ok (e, j) → i ≤ j
  binaryTail_le : ∀ {ts a i l e j}, binaryTail f ts a i l = .ok (e, j) → i ≤ j
  bitOr_le : ∀ {ts i e j}, bitOr f ts i = .ok (e, j) → i ≤ j
  factor_le : ∀ {ts i e j}, factor f ts i = .ok (e, j) → i ≤ j
  power_le : ∀ {ts i e j}, power f ts i = .ok (e, j) → i ≤ j
  primary_le : ∀ {ts i e j}, primary f ts i = .ok (e, j) → i ≤ j
  primaryTail_le : ∀ {ts a i e j}, primaryTail f ts a i = .ok (e, j) → i ≤ j
  atom_le : ∀ {ts i e j}, atom f ts i = .ok (e, j) → i ≤ j
  parenAtom_le : ∀ {ts i e j}, parenAtom f ts i = .ok (e, j) → i ≤ j
  bracketAtom_le : ∀ {ts i e j}, bracketAtom f ts i = .ok (e, j) → i ≤ j
  braceAtom_le : ∀ {ts i e j}, braceAtom f ts i = .ok (e, j) → i ≤ j
  dictTail_le : ∀ {ts i ds j}, dictTail f ts i = .ok (ds, j) → i ≤ j
  compClauses_le : ∀ {ts i cs j}, compClauses f ts i = .ok (cs, j) → i ≤ j
  compConds_le : ∀ {ts i cs j}, compConds f ts i = .ok (cs, j) → i ≤ j
  starTargets_le : ∀ {ts i e j}, starTargets f ts i = .ok (e, j) → i ≤ j
  starTargetsTail_le : ∀ {ts i es j}, starTargetsTail f ts i = .ok (es, j) → i ≤ j
  starTarget_le : ∀ {ts i e j}, starTarget f ts i = .ok (e, j) → i ≤ j
  callArgs_le : ∀ {ts i acc k s g as j}, callArgs f ts i acc k s g = .ok (as, j) → i ≤ j
  callArg_le : ∀ {ts i acc k s g a j k' s'},
    callArg f ts i acc k s g = .ok (a, j, k', s') → i ≤ j
  positionalArg_le : ∀ {ts i acc k s g a j k' s'},
    positionalArg f ts i acc k s g = .ok (a, j, k', s') → i ≤ j
  slices_le : ∀ {ts i e j}, slices f ts i = .ok (e, j) → i ≤ j
  slicesTail_le : ∀ {ts i es j}, slicesTail f ts i = .ok (es, j) → i ≤ j
  sliceItem_le : ∀ {ts i e j}, sliceItem f ts i = .ok (e, j) → i ≤ j
  sliceRest_le : ∀ {ts lo i e j}, sliceRest f ts lo i = .ok (e, j) → i ≤ j
  paramList_le : ∀ {ts i a c ps j}, paramList f ts i a c = .ok (ps, j) → i ≤ j
  paramLoop_le : ∀ {ts i a c st ps j}, paramLoop f ts i a c st = .ok (ps, j) → i ≤ j
  paramItem_le : ∀ {ts i a c st st' j}, paramItem f ts i a c st = .ok (st', j) → i ≤ j
  paramAnnotation_le : ∀ {ts i a s e j}, paramAnnotation f ts i a s = .ok (e, j) → i ≤ j
  strings_le : ∀ {ts i e j}, strings f ts i = .ok (e, j) → i ≤ j

namespace ExprAdvance

variable {f : Nat} (h : ExprAdvance f) {ts : Tokens} {i j : Nat}
include h

theorem expression_succ {e : Expr} (hx : expression (f + 1) ts i = .ok (e, j)) : i ≤ j := by
  have := @h.lambdef_le
  have := @h.disjunction_le
  have := @h.expression_le
  have := @h.juxtaposed_eq
  simp only [expression, bind, Except.bind, pure, Except.pure, failAt] at hx
  grind

omit h in
theorem juxtaposed_succ {a e : Expr} {j₀ : Nat}
    (hx : juxtaposed (f + 1) ts i a j₀ = .ok (e, j)) : j = j₀ := by
  simp only [juxtaposed, failAt] at hx
  grind

theorem lambdef_succ {e : Expr} (hx : lambdef (f + 1) ts i = .ok (e, j)) : i ≤ j := by
  have := @h.paramList_le
  have := @h.expression_le
  simp only [lambdef, bind, Except.bind, pure, Except.pure] at hx
  grind

theorem namedExpression_succ {e : Expr}
    (hx : namedExpression (f + 1) ts i = .ok (e, j)) : i ≤ j := by
  have := @h.expression_le
  have := @h.plainExpression_le
  simp only [namedExpression, bind, Except.bind, pure, Except.pure] at hx
  grind

theorem plainExpression_succ {e : Expr}
    (hx : plainExpression (f + 1) ts i = .ok (e, j)) : i ≤ j := by
  have := @h.expression_le
  simp only [plainExpression, bind, Except.bind, pure, Except.pure, failAt] at hx
  grind

theorem starExpression_succ {e : Expr} (hx : starExpression (f + 1) ts i = .ok (e, j)) : i ≤ j := by
  have := @h.bitOr_le
  have := @h.expression_le
  simp only [starExpression, bind, Except.bind, pure, Except.pure] at hx
  grind

theorem starNamedExpression_succ {e : Expr}
    (hx : starNamedExpression (f + 1) ts i = .ok (e, j)) : i ≤ j := by
  have := @h.bitOr_le
  have := @h.namedExpression_le
  simp only [starNamedExpression, bind, Except.bind, pure, Except.pure] at hx
  grind

theorem starExpressions_succ {e : Expr}
    (hx : starExpressions (f + 1) ts i = .ok (e, j)) : i ≤ j := by
  have := @h.starExpression_le
  have := @h.starExpressionsTail_le
  simp only [starExpressions, bind, Except.bind, pure, Except.pure] at hx
  grind

theorem starExpressionsTail_succ {es : List Expr}
    (hx : starExpressionsTail (f + 1) ts i = .ok (es, j)) : i ≤ j := by
  have := @h.starExpression_le
  have := @h.starExpressionsTail_le
  simp only [starExpressionsTail, bind, Except.bind, pure, Except.pure] at hx
  grind

theorem displayTail_succ {c : String} {es : List Expr}
    (hx : displayTail (f + 1) ts i c = .ok (es, j)) : i ≤ j := by
  have := @h.starNamedExpression_le
  have := @h.displayTail_le
  simp only [displayTail, bind, Except.bind, pure, Except.pure, failAt] at hx
  grind

theorem yieldExpr_succ {e : Expr} (hx : yieldExpr (f + 1) ts i = .ok (e, j)) : i ≤ j := by
  have := @h.expression_le
  have := @h.starExpressions_le
  simp only [yieldExpr, bind, Except.bind, pure, Except.pure] at hx
  grind

theorem disjunction_succ {e : Expr} (hx : disjunction (f + 1) ts i = .ok (e, j)) : i ≤ j := by
  have := @h.conjunction_le
  have := @h.disjunctionTail_le
  simp only [disjunction, bind, Except.bind] at hx
  grind

theorem disjunctionTail_succ {a e : Expr}
    (hx : disjunctionTail (f + 1) ts a i = .ok (e, j)) : i ≤ j := by
  have := @h.conjunction_le
  have := @h.disjunctionTail_le
  simp only [disjunctionTail, bind, Except.bind, pure, Except.pure] at hx
  grind

theorem conjunction_succ {e : Expr} (hx : conjunction (f + 1) ts i = .ok (e, j)) : i ≤ j := by
  have := @h.inversion_le
  have := @h.conjunctionTail_le
  simp only [conjunction, bind, Except.bind] at hx
  grind

theorem conjunctionTail_succ {a e : Expr}
    (hx : conjunctionTail (f + 1) ts a i = .ok (e, j)) : i ≤ j := by
  have := @h.inversion_le
  have := @h.conjunctionTail_le
  simp only [conjunctionTail, bind, Except.bind, pure, Except.pure] at hx
  grind

theorem inversion_succ {e : Expr} (hx : inversion (f + 1) ts i = .ok (e, j)) : i ≤ j := by
  have := @h.inversion_le
  have := @h.comparison_le
  simp only [inversion, bind, Except.bind, pure, Except.pure] at hx
  grind

theorem comparison_succ {e : Expr} (hx : comparison (f + 1) ts i = .ok (e, j)) : i ≤ j := by
  have := @h.bitOr_le
  have := @h.comparisonTail_le
  simp only [comparison, bind, Except.bind, pure, Except.pure] at hx
  grind

theorem comparisonTail_succ {cs : List (CmpOp × Expr)}
    (hx : comparisonTail (f + 1) ts i = .ok (cs, j)) : i ≤ j := by
  have := @h.bitOr_le
  have := @h.comparisonTail_le
  simp only [comparisonTail, bind, Except.bind, pure, Except.pure] at hx
  grind

theorem binaryLevel_succ {l : Nat} {e : Expr}
    (hx : binaryLevel (f + 1) ts i l = .ok (e, j)) : i ≤ j := by
  have := @h.operand_le
  have := @h.binaryTail_le
  simp only [binaryLevel, bind, Except.bind] at hx
  grind

theorem operand_succ {l : Nat} {e : Expr} (hx : operand (f + 1) ts i l = .ok (e, j)) : i ≤ j := by
  have := @h.factor_le
  have := @h.binaryLevel_le
  simp only [operand] at hx
  grind

theorem binaryTail_succ {a e : Expr} {l : Nat}
    (hx : binaryTail (f + 1) ts a i l = .ok (e, j)) : i ≤ j := by
  have := @h.operand_le
  have := @h.binaryTail_le
  simp only [binaryTail, bind, Except.bind, pure, Except.pure] at hx
  grind

theorem bitOr_succ {e : Expr} (hx : bitOr (f + 1) ts i = .ok (e, j)) : i ≤ j := by
  have := @h.binaryLevel_le
  simp only [bitOr] at hx
  grind

theorem factor_succ {e : Expr} (hx : factor (f + 1) ts i = .ok (e, j)) : i ≤ j := by
  have := @h.factor_le
  have := @h.power_le
  simp only [factor, bind, Except.bind, pure, Except.pure] at hx
  grind

theorem power_succ {e : Expr} (hx : power (f + 1) ts i = .ok (e, j)) : i ≤ j := by
  have := @h.primary_le
  have := @h.factor_le
  simp only [power, bind, Except.bind, pure, Except.pure] at hx
  grind

theorem primary_succ {e : Expr} (hx : primary (f + 1) ts i = .ok (e, j)) : i ≤ j := by
  have := @h.atom_le
  have := @h.primaryTail_le
  simp only [primary, bind, Except.bind] at hx
  grind

theorem primaryTail_succ {a e : Expr} (hx : primaryTail (f + 1) ts a i = .ok (e, j)) : i ≤ j := by
  have := @h.primaryTail_le
  have := @h.callArgs_le
  have := @h.slices_le
  simp only [primaryTail, bind, Except.bind, pure, Except.pure] at hx
  grind

theorem atom_succ {e : Expr} (hx : atom (f + 1) ts i = .ok (e, j)) : i ≤ j := by
  have := @h.strings_le
  have := @h.parenAtom_le
  have := @h.bracketAtom_le
  have := @h.braceAtom_le
  simp only [atom, pure, Except.pure, failAt] at hx
  grind

theorem parenAtom_succ {e : Expr} (hx : parenAtom (f + 1) ts i = .ok (e, j)) : i ≤ j := by
  have := @h.yieldExpr_le
  have := @h.starNamedExpression_le
  have := @h.compClauses_le
  have := @h.displayTail_le
  simp only [parenAtom, bind, Except.bind, pure, Except.pure, failAt] at hx
  grind

theorem bracketAtom_succ {e : Expr} (hx : bracketAtom (f + 1) ts i = .ok (e, j)) : i ≤ j := by
  have := @h.starNamedExpression_le
  have := @h.compClauses_le
  have := @h.displayTail_le
  simp only [bracketAtom, bind, Except.bind, pure, Except.pure, failAt] at hx
  grind

theorem braceAtom_succ {e : Expr} (hx : braceAtom (f + 1) ts i = .ok (e, j)) : i ≤ j := by
  have := @h.bitOr_le
  have := @h.dictTail_le
  have := @h.starNamedExpression_le
  have := @h.displayTail_le
  have := @h.namedExpression_le
  have := @h.expression_le
  have := @h.compClauses_le
  simp only [braceAtom, bind, Except.bind, pure, Except.pure, failAt] at hx
  grind

theorem dictTail_succ {ds : List DictItem} (hx : dictTail (f + 1) ts i = .ok (ds, j)) : i ≤ j := by
  have := @h.bitOr_le
  have := @h.dictTail_le
  have := @h.expression_le
  simp only [dictTail, bind, Except.bind, pure, Except.pure, failAt] at hx
  grind

theorem compClauses_succ {cs : List CompFor}
    (hx : compClauses (f + 1) ts i = .ok (cs, j)) : i ≤ j := by
  have := @h.starTargets_le
  have := @h.disjunction_le
  have := @h.compConds_le
  have := @h.compClauses_le
  simp only [compClauses, bind, Except.bind, pure, Except.pure, failAt] at hx
  grind

theorem compConds_succ {cs : List Expr} (hx : compConds (f + 1) ts i = .ok (cs, j)) : i ≤ j := by
  have := @h.disjunction_le
  have := @h.compConds_le
  simp only [compConds, bind, Except.bind, pure, Except.pure] at hx
  grind

theorem starTargets_succ {e : Expr} (hx : starTargets (f + 1) ts i = .ok (e, j)) : i ≤ j := by
  have := @h.starTarget_le
  have := @h.starTargetsTail_le
  simp only [starTargets, bind, Except.bind, pure, Except.pure] at hx
  grind

theorem starTargetsTail_succ {es : List Expr}
    (hx : starTargetsTail (f + 1) ts i = .ok (es, j)) : i ≤ j := by
  have := @h.starTarget_le
  have := @h.starTargetsTail_le
  simp only [starTargetsTail, bind, Except.bind, pure, Except.pure] at hx
  grind

theorem starTarget_succ {e : Expr} (hx : starTarget (f + 1) ts i = .ok (e, j)) : i ≤ j := by
  have := @h.starTarget_le
  have := @h.primary_le
  simp only [starTarget, bind, Except.bind, pure, Except.pure, failAt] at hx
  grind

theorem callArgs_succ {acc : List Arg} {k s g : Bool} {as : List Arg}
    (hx : callArgs (f + 1) ts i acc k s g = .ok (as, j)) : i ≤ j := by
  have := @h.callArg_le
  have := @h.callArgs_le
  simp only [callArgs, bind, Except.bind, pure, Except.pure, failAt] at hx
  grind

theorem callArg_succ {acc : List Arg} {k s g k' s' : Bool} {a : Arg}
    (hx : callArg (f + 1) ts i acc k s g = .ok (a, j, k', s')) : i ≤ j := by
  have := @h.expression_le
  have := @h.positionalArg_le
  simp only [callArg, bind, Except.bind, pure, Except.pure] at hx
  grind

theorem positionalArg_succ {acc : List Arg} {k s g k' s' : Bool} {a : Arg}
    (hx : positionalArg (f + 1) ts i acc k s g = .ok (a, j, k', s')) : i ≤ j := by
  have := @h.namedExpression_le
  have := @h.compClauses_le
  simp only [positionalArg, bind, Except.bind, pure, Except.pure] at hx
  -- the keyword looked up only chooses between two faults
  generalize List.find? (isWord ts i) ["True", "False", "None"] = w at hx
  grind

theorem slices_succ {e : Expr} (hx : slices (f + 1) ts i = .ok (e, j)) : i ≤ j := by
  have := @h.sliceItem_le
  have := @h.slicesTail_le
  simp only [slices, bind, Except.bind, pure, Except.pure] at hx
  grind

theorem slicesTail_succ {es : List Expr} (hx : slicesTail (f + 1) ts i = .ok (es, j)) : i ≤ j := by
  have := @h.sliceItem_le
  have := @h.slicesTail_le
  simp only [slicesTail, bind, Except.bind, pure, Except.pure] at hx
  grind

theorem sliceItem_succ {e : Expr} (hx : sliceItem (f + 1) ts i = .ok (e, j)) : i ≤ j := by
  have := @h.expression_le
  have := @h.sliceRest_le
  have := @h.namedExpression_le
  simp only [sliceItem, bind, Except.bind, pure, Except.pure, failAt] at hx
  grind

theorem sliceRest_succ {lo : Option Expr} {e : Expr}
    (hx : sliceRest (f + 1) ts lo i = .ok (e, j)) : i ≤ j := by
  have := @h.expression_le
  simp only [sliceRest, bind, Except.bind, pure, Except.pure] at hx
  grind

theorem paramList_succ {a : Bool} {c : String} {ps : Params}
    (hx : paramList (f + 1) ts i a c = .ok (ps, j)) : i ≤ j := by
  have := @h.paramLoop_le
  simp only [paramList] at hx
  grind

theorem paramLoop_succ {a : Bool} {c : String} {st : ParamState} {ps : Params}
    (hx : paramLoop (f + 1) ts i a c st = .ok (ps, j)) : i ≤ j := by
  have := @h.paramItem_le
  have := @h.paramLoop_le
  simp only [paramLoop, bind, Except.bind, pure, Except.pure, failAt] at hx
  grind

theorem paramItem_succ {a : Bool} {c : String} {st st' : ParamState}
    (hx : paramItem (f + 1) ts i a c st = .ok (st', j)) : i ≤ j := by
  have := @h.paramAnnotation_le
  have := @h.expression_le
  simp only [paramItem, bind, Except.bind, pure, Except.pure] at hx
  grind

theorem paramAnnotation_succ {a s : Bool} {e : Option Expr}
    (hx : paramAnnotation (f + 1) ts i a s = .ok (e, j)) : i ≤ j := by
  have := @h.starExpression_le
  have := @h.expression_le
  unfold paramAnnotation at hx
  simp only [bind, Except.bind, pure, Except.pure] at hx
  grind

omit h in
theorem strings_succ {e : Expr} (hx : strings (f + 1) ts i = .ok (e, j)) : i ≤ j := by
  simp only [strings, bind, Except.bind, pure, Except.pure, failAt] at hx
  grind

end ExprAdvance

theorem exprAdvance_zero : ExprAdvance 0 := by
  constructor <;> intros <;> simp_all only [expression, juxtaposed, lambdef, namedExpression,
    plainExpression, starExpression, starNamedExpression, starExpressions, starExpressionsTail,
    displayTail, yieldExpr, disjunction, disjunctionTail, conjunction, conjunctionTail, inversion,
    comparison, comparisonTail, binaryLevel, operand, binaryTail, bitOr, factor, power, primary,
    primaryTail, atom, parenAtom, bracketAtom, braceAtom, dictTail, compClauses, compConds,
    starTargets, starTargetsTail, starTarget, callArgs, callArg, positionalArg, slices,
    slicesTail, sliceItem, sliceRest, paramList, paramLoop, paramItem, paramAnnotation, strings,
    failAt, reduceCtorEq]

/-- Expression parsing never moves backwards, at any fuel. -/
theorem exprAdvance : ∀ f, ExprAdvance f
  | 0 => exprAdvance_zero
  | f + 1 =>
    have h := exprAdvance f
    ⟨h.expression_succ, ExprAdvance.juxtaposed_succ, h.lambdef_succ, h.namedExpression_succ,
      h.plainExpression_succ, h.starExpression_succ, h.starNamedExpression_succ,
      h.starExpressions_succ, h.starExpressionsTail_succ, h.displayTail_succ, h.yieldExpr_succ,
      h.disjunction_succ, h.disjunctionTail_succ, h.conjunction_succ, h.conjunctionTail_succ,
      h.inversion_succ, h.comparison_succ, h.comparisonTail_succ, h.binaryLevel_succ,
      h.operand_succ, h.binaryTail_succ, h.bitOr_succ, h.factor_succ, h.power_succ, h.primary_succ,
      h.primaryTail_succ, h.atom_succ, h.parenAtom_succ, h.bracketAtom_succ, h.braceAtom_succ,
      h.dictTail_succ, h.compClauses_succ, h.compConds_succ, h.starTargets_succ,
      h.starTargetsTail_succ, h.starTarget_succ, h.callArgs_succ, h.callArg_succ,
      h.positionalArg_succ, h.slices_succ, h.slicesTail_succ, h.sliceItem_succ, h.sliceRest_succ,
      h.paramList_succ, h.paramLoop_succ, h.paramItem_succ, h.paramAnnotation_succ,
      ExprAdvance.strings_succ⟩

/-! ## Patterns -/

@[grind →] theorem signedNumberAt_le {ts : Tokens} {i j : Nat} {e : Expr} {b : Bool}
    (hx : signedNumberAt ts i = .ok (e, b, j)) : i ≤ j := by
  unfold signedNumberAt at hx
  grind

@[grind →] theorem numberPattern_le {ts : Tokens} {i j : Nat} {e : Expr}
    (hx : numberPattern ts i = .ok (e, j)) : i ≤ j := by
  simp only [numberPattern, bind, Except.bind, pure, Except.pure, throw, throwThe,
    MonadExceptOf.throw] at hx
  grind

@[grind .] theorem dottedNameExpr_le (ts : Tokens) :
    ∀ (fuel : Nat) (acc : Expr) (i : Nat), i ≤ (dottedNameExpr fuel ts acc i).2
  | 0, _, _ => by simp [dottedNameExpr]
  | fuel + 1, acc, i => by
    have := dottedNameExpr_le ts fuel
    unfold dottedNameExpr
    grind

/-- Every parse of the pattern grammar at fuel `f` that succeeds ends at or after the token where it
started. -/
structure PatternAdvance (f : Nat) : Prop where
  casePatterns_le : ∀ {ts i p j}, casePatterns f ts i = .ok (p, j) → i ≤ j
  patternItems_le : ∀ {ts i c ps j}, patternItems f ts i c = .ok (ps, j) → i ≤ j
  starOrPattern_le : ∀ {ts i p j}, starOrPattern f ts i = .ok (p, j) → i ≤ j
  pattern_le : ∀ {ts i p j}, pattern f ts i = .ok (p, j) → i ≤ j
  orPattern_le : ∀ {ts i p j}, orPattern f ts i = .ok (p, j) → i ≤ j
  orTail_le : ∀ {ts i ps j}, orTail f ts i = .ok (ps, j) → i ≤ j
  closedPattern_le : ∀ {ts i p j}, closedPattern f ts i = .ok (p, j) → i ≤ j
  mappingPattern_le : ∀ {ts i ks ps p j}, mappingPattern f ts i ks ps = .ok (p, j) → i ≤ j
  mappingKey_le : ∀ {ts i e j}, mappingKey f ts i = .ok (e, j) → i ≤ j
  classArgs_le : ∀ {ts c i ps ns kps p j}, classArgs f ts c i ps ns kps = .ok (p, j) → i ≤ j

namespace PatternAdvance

variable {f : Nat} (h : PatternAdvance f) {ts : Tokens} {i j : Nat}
include h

theorem casePatterns_succ {p : Pattern} (hx : casePatterns (f + 1) ts i = .ok (p, j)) : i ≤ j := by
  have := @h.starOrPattern_le
  have := @h.patternItems_le
  simp only [casePatterns, bind, Except.bind, pure, Except.pure] at hx
  grind

theorem patternItems_succ {c : String} {ps : List Pattern}
    (hx : patternItems (f + 1) ts i c = .ok (ps, j)) : i ≤ j := by
  have := @h.starOrPattern_le
  have := @h.patternItems_le
  simp only [patternItems, bind, Except.bind, pure, Except.pure] at hx
  grind

theorem starOrPattern_succ {p : Pattern}
    (hx : starOrPattern (f + 1) ts i = .ok (p, j)) : i ≤ j := by
  have := @h.pattern_le
  simp only [starOrPattern, pure, Except.pure] at hx
  grind

theorem pattern_succ {p : Pattern} (hx : pattern (f + 1) ts i = .ok (p, j)) : i ≤ j := by
  have := @h.orPattern_le
  simp only [pattern, bind, Except.bind, pure, Except.pure] at hx
  grind

theorem orPattern_succ {p : Pattern} (hx : orPattern (f + 1) ts i = .ok (p, j)) : i ≤ j := by
  have := @h.closedPattern_le
  have := @h.orTail_le
  simp only [orPattern, bind, Except.bind, pure, Except.pure] at hx
  grind

theorem orTail_succ {ps : List Pattern} (hx : orTail (f + 1) ts i = .ok (ps, j)) : i ≤ j := by
  have := @h.closedPattern_le
  have := @h.orTail_le
  simp only [orTail, bind, Except.bind, pure, Except.pure] at hx
  grind

theorem closedPattern_succ {p : Pattern}
    (hx : closedPattern (f + 1) ts i = .ok (p, j)) : i ≤ j := by
  have := @h.starOrPattern_le
  have := @h.patternItems_le
  have := @h.mappingPattern_le
  have hclass := @h.classArgs_le
  have := @(exprAdvance f).strings_le
  simp only [closedPattern, bind, Except.bind, pure, Except.pure] at hx
  -- one case per kind of the first token
  split at hx
  case h_10 =>
    -- a name, dotted or not: a capture, a value, or the class of a class pattern
    split at hx
    · rename_i n _
      have := dottedNameExpr_le ts (ts.size + 1) (.name n) (i + 1)
      split at hx
      · have := hclass hx
        omega
      · grind
    · cases hx
  all_goals grind

theorem mappingPattern_succ {ks : List Expr} {ps : List Pattern} {p : Pattern}
    (hx : mappingPattern (f + 1) ts i ks ps = .ok (p, j)) : i ≤ j := by
  have := @h.mappingKey_le
  have := @h.pattern_le
  have := @h.mappingPattern_le
  simp only [mappingPattern, bind, Except.bind, pure, Except.pure] at hx
  grind

omit h in
theorem mappingKey_succ {e : Expr} (hx : mappingKey (f + 1) ts i = .ok (e, j)) : i ≤ j := by
  have := @(exprAdvance f).strings_le
  simp only [mappingKey, bind, Except.bind, pure, Except.pure] at hx
  split at hx
  case h_7 =>
    -- a dotted name
    split at hx
    · rename_i n _
      have := dottedNameExpr_le ts (ts.size + 1) (.name n) (i + 1)
      grind
    · cases hx
  all_goals grind

theorem classArgs_succ {c : Expr} {ps : List Pattern} {ns : List String} {kps : List Pattern}
    {p : Pattern}
    (hx : classArgs (f + 1) ts c i ps ns kps = .ok (p, j)) : i ≤ j := by
  have := @h.pattern_le
  have := @h.classArgs_le
  simp only [classArgs, bind, Except.bind, pure, Except.pure, throw, throwThe,
    MonadExceptOf.throw] at hx
  grind

end PatternAdvance

theorem patternAdvance_zero : PatternAdvance 0 := by
  constructor <;> intros <;> simp_all only [casePatterns, patternItems, starOrPattern, pattern,
    orPattern, orTail, closedPattern, mappingPattern, mappingKey, classArgs, reduceCtorEq]

/-- Pattern parsing never moves backwards, at any fuel. -/
theorem patternAdvance : ∀ f, PatternAdvance f
  | 0 => patternAdvance_zero
  | f + 1 =>
    have h := patternAdvance f
    ⟨h.casePatterns_succ, h.patternItems_succ, h.starOrPattern_succ, h.pattern_succ,
      h.orPattern_succ, h.orTail_succ, h.closedPattern_succ, h.mappingPattern_succ,
      PatternAdvance.mappingKey_succ, h.classArgs_succ⟩

/-! ## Statements -/

@[grind →] theorem expectColon_eq {ts : Tokens} {i j : Nat} {forced : Bool}
    (h : expectColon ts i forced = .ok j) : j = i + 1 := by
  unfold expectColon at h
  grind

@[grind →] theorem dottedName_le {ts : Tokens} :
    ∀ {fuel i j : Nat} {n : String}, dottedName fuel ts i = .ok (n, j) → i ≤ j
  | 0, _, _, _, h => by simp [dottedName, faultAt] at h
  | fuel + 1, i, j, n, h => by
    have := @dottedName_le ts fuel
    simp only [dottedName, bind, Except.bind, pure, Except.pure] at h
    grind

@[grind →] theorem asName_le {ts : Tokens} {i j : Nat} {a : Option String}
    (h : asName ts i = .ok (a, j)) : i ≤ j := by
  simp only [asName, bind, Except.bind, pure, Except.pure] at h
  grind

@[grind →] theorem importAliases_le {ts : Tokens} :
    ∀ {fuel i j : Nat} {as : List Alias}, importAliases fuel ts i = .ok (as, j) → i ≤ j
  | 0, _, _, _, h => by simp [importAliases, faultAt] at h
  | fuel + 1, i, j, as, h => by
    have := @importAliases_le ts fuel
    simp only [importAliases, bind, Except.bind, pure, Except.pure] at h
    grind

@[grind →] theorem fromAliases_le {ts : Tokens} {parens : Bool} :
    ∀ {fuel i j : Nat} {as : List Alias}, fromAliases fuel ts i parens = .ok (as, j) → i ≤ j
  | 0, _, _, _, h => by simp [fromAliases, faultAt] at h
  | fuel + 1, i, j, as, h => by
    have := @fromAliases_le ts parens fuel
    simp only [fromAliases, bind, Except.bind, pure, Except.pure, throw, throwThe,
      MonadExceptOf.throw] at h
    grind

@[grind .] theorem importDots_le (ts : Tokens) : ∀ (fuel i : Nat), i ≤ (importDots fuel ts i).2
  | 0, _ => by simp [importDots]
  | fuel + 1, i => by
    have := importDots_le ts fuel
    unfold importDots
    grind

@[grind →] theorem importStmt_le {ts : Tokens} {i j : Nat} {s : Stmt}
    (h : importStmt ts i = .ok (s, j)) : i ≤ j := by
  simp only [importStmt, bind, Except.bind, pure, Except.pure] at h
  grind

@[grind →] theorem fromStmt_le {ts : Tokens} {i j : Nat} {s : Stmt}
    (h : fromStmt ts i = .ok (s, j)) : i ≤ j := by
  have := importDots_le ts (ts.size + 1) (i + 1)
  simp only [fromStmt, bind, Except.bind, pure, Except.pure, throw, throwThe,
    MonadExceptOf.throw] at h
  grind

@[grind →] theorem nameList_le {ts : Tokens} :
    ∀ {fuel i j : Nat} {ns : List String}, nameList fuel ts i = .ok (ns, j) → i ≤ j
  | 0, _, _, _, h => by simp [nameList, faultAt] at h
  | fuel + 1, i, j, ns, h => by
    have := @nameList_le ts fuel
    simp only [nameList, bind, Except.bind, pure, Except.pure] at h
    grind

/-- Every parse of the statement grammar at fuel `f` that succeeds ends at or after the token
where it started. -/
structure StmtAdvance (f : Nat) : Prop where
  statement_le : ∀ {ts i ss j}, statement f ts i = .ok (ss, j) → i ≤ j
  simpleStmts_le : ∀ {ts i ss j}, simpleStmts f ts i = .ok (ss, j) → i ≤ j
  simpleStmt_le : ∀ {ts i s j}, simpleStmt f ts i = .ok (s, j) → i ≤ j
  rhs_le : ∀ {ts i e j}, rhs f ts i = .ok (e, j) → i ≤ j
  exprStmt_le : ∀ {ts i s j}, exprStmt f ts i = .ok (s, j) → i ≤ j
  assignChain_le : ∀ {ts i es j}, assignChain f ts i = .ok (es, j) → i ≤ j
  compound_le : ∀ {ts i s j}, compound f ts i = .ok (s, j) → i ≤ j
  decorated_le : ∀ {ts i ds s j}, decorated f ts i ds = .ok (s, j) → i ≤ j
  block_le : ∀ {ts i w l ss j}, block f ts i w l = .ok (ss, j) → i ≤ j
  blockStmts_le : ∀ {ts i acc ss j}, blockStmts f ts i acc = .ok (ss, j) → i ≤ j
  funcDef_le : ∀ {ts i a ds s j}, funcDef f ts i a ds = .ok (s, j) → i ≤ j
  classDef_le : ∀ {ts i ds s j}, classDef f ts i ds = .ok (s, j) → i ≤ j
  ifStmt_le : ∀ {ts i kw s j}, ifStmt f ts i kw = .ok (s, j) → i ≤ j
  elseBlock_le : ∀ {ts i ss j}, elseBlock f ts i = .ok (ss, j) → i ≤ j
  whileStmt_le : ∀ {ts i s j}, whileStmt f ts i = .ok (s, j) → i ≤ j
  forStmt_le : ∀ {ts i a s j}, forStmt f ts i a = .ok (s, j) → i ≤ j
  withStmt_le : ∀ {ts i a s j}, withStmt f ts i a = .ok (s, j) → i ≤ j
  withItems_le : ∀ {ts i p its j}, withItems f ts i p = .ok (its, j) → i ≤ j
  tryStmt_le : ∀ {ts i s j}, tryStmt f ts i = .ok (s, j) → i ≤ j
  finallyBlock_le : ∀ {ts i ss j}, finallyBlock f ts i = .ok (ss, j) → i ≤ j
  handlers_le : ∀ {ts i st acc hs j}, handlers f ts i st acc = .ok (hs, j) → i ≤ j
  matchStmt_le : ∀ {ts i s j}, matchStmt f ts i = .ok (some (s, j)) → i ≤ j
  caseBlocks_le : ∀ {ts i acc cs j}, caseBlocks f ts i acc = .ok (cs, j) → i ≤ j
  moduleStmts_le : ∀ {ts i acc ss j}, moduleStmts f ts i acc = .ok (ss, j) → i ≤ j

namespace StmtAdvance

variable {f : Nat} (h : StmtAdvance f) {ts : Tokens} {i j : Nat}
include h

theorem statement_succ {ss : List Stmt} (hx : statement (f + 1) ts i = .ok (ss, j)) : i ≤ j := by
  have := @h.compound_le
  have := @h.matchStmt_le
  have := @h.simpleStmts_le
  simp only [statement, bind, Except.bind, pure, Except.pure] at hx
  grind

theorem simpleStmts_succ {ss : List Stmt}
    (hx : simpleStmts (f + 1) ts i = .ok (ss, j)) : i ≤ j := by
  have := @h.simpleStmt_le
  have := @h.simpleStmts_le
  simp only [simpleStmts, bind, Except.bind, pure, Except.pure] at hx
  grind

theorem simpleStmt_succ {s : Stmt} (hx : simpleStmt (f + 1) ts i = .ok (s, j)) : i ≤ j := by
  have := @(exprAdvance f).starExpressions_le
  have := @(exprAdvance f).expression_le
  have := @h.exprStmt_le
  simp only [simpleStmt, bind, Except.bind, pure, Except.pure,
    throw, throwThe, MonadExceptOf.throw] at hx
  grind

omit h in
theorem rhs_succ {e : Expr} (hx : rhs (f + 1) ts i = .ok (e, j)) : i ≤ j := by
  have := @(exprAdvance f).yieldExpr_le
  have := @(exprAdvance f).starExpressions_le
  simp only [rhs] at hx
  grind

theorem exprStmt_succ {s : Stmt} (hx : exprStmt (f + 1) ts i = .ok (s, j)) : i ≤ j := by
  have := @h.rhs_le
  have := @(exprAdvance f).expression_le
  have := @h.assignChain_le
  simp only [exprStmt, bind, Except.bind, pure, Except.pure,
    throw, throwThe, MonadExceptOf.throw] at hx
  grind

theorem assignChain_succ {es : List Expr}
    (hx : assignChain (f + 1) ts i = .ok (es, j)) : i ≤ j := by
  have := @h.rhs_le
  have := @h.assignChain_le
  simp only [assignChain, bind, Except.bind, pure, Except.pure] at hx
  grind

theorem compound_succ {s : Stmt} (hx : compound (f + 1) ts i = .ok (s, j)) : i ≤ j := by
  have := @h.decorated_le
  have := @h.funcDef_le
  have := @h.classDef_le
  have := @h.ifStmt_le
  have := @h.whileStmt_le
  have := @h.forStmt_le
  have := @h.withStmt_le
  have := @h.tryStmt_le
  simp only [compound] at hx
  grind

theorem decorated_succ {ds : List Expr} {s : Stmt}
    (hx : decorated (f + 1) ts i ds = .ok (s, j)) : i ≤ j := by
  have := @(exprAdvance f).namedExpression_le
  have := @h.decorated_le
  have := @h.funcDef_le
  have := @h.classDef_le
  simp only [decorated, bind, Except.bind, throw, throwThe, MonadExceptOf.throw] at hx
  grind

theorem block_succ {w : String} {l : Nat} {ss : List Stmt}
    (hx : block (f + 1) ts i w l = .ok (ss, j)) : i ≤ j := by
  have := @h.blockStmts_le
  have := @h.simpleStmts_le
  simp only [block] at hx
  grind

theorem blockStmts_succ {acc ss : List Stmt}
    (hx : blockStmts (f + 1) ts i acc = .ok (ss, j)) : i ≤ j := by
  have := @h.statement_le
  have := @h.blockStmts_le
  simp only [blockStmts, bind, Except.bind] at hx
  grind

theorem funcDef_succ {a : Bool} {ds : List Expr} {s : Stmt}
    (hx : funcDef (f + 1) ts i a ds = .ok (s, j)) : i ≤ j := by
  have := @(exprAdvance f).paramList_le
  have := @(exprAdvance f).expression_le
  have := @h.block_le
  simp only [funcDef, bind, Except.bind, pure, Except.pure,
    throw, throwThe, MonadExceptOf.throw] at hx
  repeat' split at hx
  all_goals grind

theorem classDef_succ {ds : List Expr} {s : Stmt}
    (hx : classDef (f + 1) ts i ds = .ok (s, j)) : i ≤ j := by
  have := @(exprAdvance f).callArgs_le
  have := @h.block_le
  simp only [classDef, bind, Except.bind, pure, Except.pure] at hx
  grind

theorem ifStmt_succ {kw : String} {s : Stmt}
    (hx : ifStmt (f + 1) ts i kw = .ok (s, j)) : i ≤ j := by
  have := @(exprAdvance f).namedExpression_le
  have := @h.block_le
  have := @h.ifStmt_le
  have := @h.elseBlock_le
  simp only [ifStmt, bind, Except.bind, pure, Except.pure] at hx
  grind

theorem elseBlock_succ {ss : List Stmt} (hx : elseBlock (f + 1) ts i = .ok (ss, j)) : i ≤ j := by
  have := @h.block_le
  simp only [elseBlock, bind, Except.bind] at hx
  grind

theorem whileStmt_succ {s : Stmt} (hx : whileStmt (f + 1) ts i = .ok (s, j)) : i ≤ j := by
  have := @(exprAdvance f).namedExpression_le
  have := @h.block_le
  have := @h.elseBlock_le
  simp only [whileStmt, bind, Except.bind, pure, Except.pure] at hx
  grind

theorem forStmt_succ {a : Bool} {s : Stmt} (hx : forStmt (f + 1) ts i a = .ok (s, j)) : i ≤ j := by
  have := @(exprAdvance f).starTargets_le
  have := @(exprAdvance f).starExpressions_le
  have := @h.block_le
  have := @h.elseBlock_le
  simp only [forStmt, bind, Except.bind, pure, Except.pure,
    throw, throwThe, MonadExceptOf.throw] at hx
  repeat' split at hx
  all_goals grind

theorem withStmt_succ {a : Bool} {s : Stmt}
    (hx : withStmt (f + 1) ts i a = .ok (s, j)) : i ≤ j := by
  have := @h.withItems_le
  have := @h.block_le
  simp only [withStmt, bind, Except.bind, pure, Except.pure] at hx
  grind

theorem withItems_succ {p : Bool} {its : List (Expr × Option Expr)}
    (hx : withItems (f + 1) ts i p = .ok (its, j)) : i ≤ j := by
  have := @(exprAdvance f).expression_le
  have := @(exprAdvance f).starTarget_le
  have := @h.withItems_le
  simp only [withItems, bind, Except.bind, pure, Except.pure,
    throw, throwThe, MonadExceptOf.throw] at hx
  grind

theorem tryStmt_succ {s : Stmt} (hx : tryStmt (f + 1) ts i = .ok (s, j)) : i ≤ j := by
  have := @h.block_le
  have := @h.finallyBlock_le
  have := @h.handlers_le
  have := @h.elseBlock_le
  simp only [tryStmt, bind, Except.bind, pure, Except.pure,
    throw, throwThe, MonadExceptOf.throw] at hx
  repeat' split at hx
  all_goals grind

theorem finallyBlock_succ {ss : List Stmt}
    (hx : finallyBlock (f + 1) ts i = .ok (ss, j)) : i ≤ j := by
  have := @h.block_le
  simp only [finallyBlock, bind, Except.bind] at hx
  grind

theorem handlers_succ {st : Bool} {acc hs : List Handler}
    (hx : handlers (f + 1) ts i st acc = .ok (hs, j)) : i ≤ j := by
  have := @h.block_le
  have := @(exprAdvance f).expression_le
  have := @h.handlers_le
  simp only [handlers, bind, Except.bind, throw, throwThe, MonadExceptOf.throw] at hx
  repeat' split at hx
  all_goals grind

theorem matchStmt_succ {s : Stmt} (hx : matchStmt (f + 1) ts i = .ok (some (s, j))) : i ≤ j := by
  have := @(exprAdvance f).starNamedExpression_le
  have := @(exprAdvance f).starExpressionsTail_le
  have := @h.caseBlocks_le
  simp only [matchStmt, bind, Except.bind, pure, Except.pure,
    throw, throwThe, MonadExceptOf.throw] at hx
  repeat' split at hx
  all_goals grind

theorem caseBlocks_succ {acc cs : List MatchCase}
    (hx : caseBlocks (f + 1) ts i acc = .ok (cs, j)) : i ≤ j := by
  have := @(patternAdvance f).casePatterns_le
  have := @(exprAdvance f).namedExpression_le
  have := @h.block_le
  have := @h.caseBlocks_le
  simp only [caseBlocks, bind, Except.bind, pure, Except.pure] at hx
  repeat' split at hx
  all_goals grind

theorem moduleStmts_succ {acc ss : List Stmt}
    (hx : moduleStmts (f + 1) ts i acc = .ok (ss, j)) : i ≤ j := by
  have := @h.statement_le
  have := @h.moduleStmts_le
  simp only [moduleStmts, bind, Except.bind] at hx
  grind

end StmtAdvance

theorem stmtAdvance_zero : StmtAdvance 0 := by
  constructor <;> intros <;> simp_all only [statement, simpleStmts, simpleStmt, rhs, exprStmt,
    assignChain, compound, decorated, block, blockStmts, funcDef, classDef, ifStmt, elseBlock,
    whileStmt, forStmt, withStmt, withItems, tryStmt, finallyBlock, handlers, matchStmt, caseBlocks,
    moduleStmts, faultAt, reduceCtorEq]

/-- Statement parsing never moves backwards, at any fuel. -/
theorem stmtAdvance : ∀ f, StmtAdvance f
  | 0 => stmtAdvance_zero
  | f + 1 =>
    have h := stmtAdvance f
    ⟨h.statement_succ, h.simpleStmts_succ, h.simpleStmt_succ, StmtAdvance.rhs_succ, h.exprStmt_succ,
      h.assignChain_succ, h.compound_succ, h.decorated_succ, h.block_succ, h.blockStmts_succ,
      h.funcDef_succ, h.classDef_succ, h.ifStmt_succ, h.elseBlock_succ, h.whileStmt_succ,
      h.forStmt_succ, h.withStmt_succ, h.withItems_succ, h.tryStmt_succ, h.finallyBlock_succ,
      h.handlers_succ, h.matchStmt_succ, h.caseBlocks_succ, h.moduleStmts_succ⟩

end StubDoctest.Source
