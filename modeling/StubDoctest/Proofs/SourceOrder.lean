import StubDoctest.Proofs.TokenLines
import StubDoctest.Proofs.ParseProgress
import StubDoctest.Stub.Collect

/-!
# Docstrings in the order of their lines

The entries a stub yields come in strictly increasing order of their lines, so no two share a
line: the module's own first, at line 1, then those of the definitions, each at the line of its
`def` or `class` keyword (not of a decorator), a class before its members and every definition
after all that is nested in the ones before it (`entriesOfText_in_line_order`).

The walk lists a class before its body and the statements of a body in order; what makes that
the order of the lines is where the parser reads each definition. `Laid ts i j es` says that the
entries `es` were read from the tokens `i` to `j`: each at the line of a `def` or `class`
keyword from `i` on, with a line end after it and before `j`. The lexer puts every line end on
an earlier line than all the tokens after it (`TokensLined`), so entries laid in consecutive
runs of tokens are in order (`Laid.append`). `StmtLaid` carries this through every parser of
statements at every fuel: a definition's own entry stands before the line end of its header,
the entries of its body after it.

The module's own entry comes before all others because a module that has one starts with an
expression, read as a line of simple statements: it holds no definitions, and its line end,
at line 1 or later, stands before all of them.
-/

set_option autoImplicit false

namespace StubDoctest.Stub

open StubDoctest.Source

/-! ## Entries of a list of statements -/

theorem bodyEntries_append (pre : String) (a b : List Stmt) :
    bodyEntries pre (a ++ b) = bodyEntries pre a ++ bodyEntries pre b := by
  induction a with
  | nil => rfl
  | cons s a ih => simp only [List.cons_append, bodyEntries, ih, List.append_assoc]

theorem moduleEntries_nil (stem : String) : moduleEntries stem [] = [] := rfl

theorem mem_entryOf {name : String} {body : List Stmt} {line : Nat} {e : Entry}
    (he : e ∈ entryOf name body line) : e.name = name ∧ e.line = line := by
  unfold entryOf at he
  split at he
  · split at he
    · rw [List.mem_singleton.1 he]
      exact ⟨rfl, rfl⟩
    · cases he
  · cases he

theorem entryOf_pairwise (R : Entry → Entry → Prop) (name : String) (body : List Stmt)
    (line : Nat) : (entryOf name body line).Pairwise R := by
  unfold entryOf
  split
  · split
    · exact List.pairwise_singleton R _
    · exact List.Pairwise.nil
  · exact List.Pairwise.nil

/-! ## Entries laid out in the tokens -/

/-- The keywords that open a definition: `def` and `class`. -/
def OpensDef (k : TokenKind) : Prop := k = .name "def" ∨ k = .name "class"

/-- The entries `es` stand in the tokens from `i` to `j`: each at the line of a `def` or `class`
keyword from `i` on that a line end before `j` follows, and they come in the order of their
lines. -/
structure Laid (ts : Tokens) (i j : Nat) (es : List Entry) : Prop where
  placed : ∀ e ∈ es, ∃ k m, i ≤ k ∧ k ≤ m ∧ m < j ∧ (tokAt ts m).kind = .newline ∧
    OpensDef (tokAt ts k).kind ∧ e.line = (tokAt ts k).line
  sorted : es.Pairwise fun a b => a.line < b.line

namespace Laid

variable {ts : Tokens}

theorem nil {i j : Nat} : Laid ts i j [] := ⟨by simp, .nil⟩

theorem mono {i i' j j' : Nat} {es : List Entry} (h : Laid ts i j es) (hi : i' ≤ i)
    (hj : j ≤ j') : Laid ts i' j' es where
  placed e he := by
    obtain ⟨k, m, hik, hkm, hmj, hm, hk, hl⟩ := h.placed e he
    exact ⟨k, m, by omega, hkm, by omega, hm, hk, hl⟩
  sorted := h.sorted

/-- The entries read from `i` to `j` come before those read from `j` on: the line end after
each of the first stands before every token of the second. -/
theorem append (hl : TokensLined ts) {i j l : Nat} {es₁ es₂ : List Entry}
    (h₁ : Laid ts i j es₁) (h₂ : Laid ts j l es₂) (hij : i ≤ j) (hjl : j ≤ l) :
    Laid ts i l (es₁ ++ es₂) where
  placed e he := by
    rcases List.mem_append.1 he with he | he
    · exact (h₁.mono (Nat.le_refl i) hjl).placed e he
    · exact (h₂.mono hij (Nat.le_refl l)).placed e he
  sorted := by
    refine List.pairwise_append.2 ⟨h₁.sorted, h₂.sorted, fun a ha b hb => ?_⟩
    obtain ⟨k, m, -, hkm, hmj, hm, -, hak⟩ := h₁.placed a ha
    obtain ⟨k', m', hjk', -, -, -, -, hbk⟩ := h₂.placed b hb
    calc a.line = (tokAt ts k).line := hak
      _ ≤ (tokAt ts m).line := hl.line_mono hkm
      _ < (tokAt ts k').line := hl.line_lt_of_newline (by omega) hm
      _ = b.line := hbk.symm

/-- The entry of a definition whose keyword is at `i` stands in the tokens up to the line end
`m` that closes its header. -/
theorem entryOf_of_newline {i m : Nat} {name : String} {body : List Stmt}
    (hi : OpensDef (tokAt ts i).kind) (him : i ≤ m) (hm : (tokAt ts m).kind = .newline) :
    Laid ts i (m + 1) (entryOf name body (tokAt ts i).line) where
  placed _ he := ⟨i, m, Nat.le_refl i, him, Nat.lt_succ_self m, hm, hi, (mem_entryOf he).2⟩
  sorted := entryOf_pairwise _ name body _

end Laid

/-! ## What the parsers build -/

theorem kind_of_isKind {ts : Tokens} {i : Nat} {k : TokenKind} (h : isKind ts i k = true) :
    (tokAt ts i).kind = k := by
  simpa [isKind] using h

theorem kind_of_isWord {ts : Tokens} {i : Nat} {w : String} (h : isWord ts i w = true) :
    (tokAt ts i).kind = .name w := by
  unfold isWord at h
  split at h
  · rename_i n hn
    rw [hn, beq_iff_eq.1 h]
  · cases h

section Shapes

variable {f : Nat} {ts : Tokens} {i j : Nat} {s : Stmt}

/-- A function definition is built at the line of its `def` keyword, from a block that starts
after its header. -/
theorem funcDef_block {a : Bool} {ds : List Expr} (hx : funcDef (f + 1) ts i a ds = .ok (s, j)) :
    ∃ name ps r body m, i < m ∧
      block f ts m "function definition" (tokAt ts i).line = .ok (body, j) ∧
      s = .funcDef a name ps r ds body (tokAt ts i).line := by
  have := @(exprAdvance f).paramList_le
  have := @(exprAdvance f).expression_le
  simp only [funcDef, bind, Except.bind, pure, Except.pure, throw, throwThe,
    MonadExceptOf.throw] at hx
  repeat' split at hx
  all_goals try (cases hx; done)
  all_goals
    cases hx
    refine ⟨_, _, _, _, _, ?_, by assumption, rfl⟩
    grind

/-- A class definition is built at the line of its `class` keyword, from a block that starts
after its header. -/
theorem classDef_block {ds : List Expr} (hx : classDef (f + 1) ts i ds = .ok (s, j)) :
    ∃ name bs body m, i < m ∧
      block f ts m "class definition" (tokAt ts i).line = .ok (body, j) ∧
      s = .classDef name bs ds body (tokAt ts i).line := by
  have := @(exprAdvance f).callArgs_le
  simp only [classDef, bind, Except.bind, pure, Except.pure] at hx
  repeat' split at hx
  all_goals try (cases hx; done)
  all_goals
    cases hx
    refine ⟨_, _, _, _, ?_, by assumption, rfl⟩
    grind

theorem ifStmt_shape {kw : String} (hx : ifStmt f ts i kw = .ok (s, j)) :
    ∃ t b o, s = .ifElse t b o := by
  cases f with
  | zero => simp [ifStmt] at hx
  | succ f =>
    simp only [ifStmt, bind, Except.bind, pure, Except.pure] at hx
    repeat' split at hx
    all_goals (cases hx <;> exact ⟨_, _, _, rfl⟩)

theorem funcDef_shape {a : Bool} {ds : List Expr} (hx : funcDef f ts i a ds = .ok (s, j)) :
    ∃ name ps r body, s = .funcDef a name ps r ds body (tokAt ts i).line := by
  cases f with
  | zero => simp [funcDef] at hx
  | succ f =>
    obtain ⟨name, ps, r, body, -, -, -, rfl⟩ := funcDef_block hx
    exact ⟨name, ps, r, body, rfl⟩

theorem classDef_shape {ds : List Expr} (hx : classDef f ts i ds = .ok (s, j)) :
    ∃ name bs body, s = .classDef name bs ds body (tokAt ts i).line := by
  cases f with
  | zero => simp [classDef] at hx
  | succ f =>
    obtain ⟨name, bs, body, -, -, -, rfl⟩ := classDef_block hx
    exact ⟨name, bs, body, rfl⟩

theorem whileStmt_shape (hx : whileStmt f ts i = .ok (s, j)) :
    ∃ t b o, s = .while t b o := by
  cases f with
  | zero => simp [whileStmt] at hx
  | succ f =>
    simp only [whileStmt, bind, Except.bind, pure, Except.pure] at hx
    repeat' split at hx
    all_goals (cases hx <;> exact ⟨_, _, _, rfl⟩)

theorem forStmt_shape {a : Bool} (hx : forStmt f ts i a = .ok (s, j)) :
    ∃ t it b o, s = .forIn a t it b o := by
  cases f with
  | zero => simp [forStmt] at hx
  | succ f =>
    simp only [forStmt, bind, Except.bind, pure, Except.pure, throw, throwThe,
      MonadExceptOf.throw] at hx
    repeat' split at hx
    all_goals (cases hx <;> exact ⟨_, _, _, _, rfl⟩)

theorem withStmt_shape {a : Bool} (hx : withStmt f ts i a = .ok (s, j)) :
    ∃ items b, s = .with a items b := by
  cases f with
  | zero => simp [withStmt] at hx
  | succ f =>
    simp only [withStmt, bind, Except.bind, pure, Except.pure] at hx
    repeat' split at hx
    all_goals (cases hx <;> exact ⟨_, _, rfl⟩)

theorem tryStmt_shape (hx : tryStmt f ts i = .ok (s, j)) :
    ∃ b hs o fin star, s = .tryExcept b hs o fin star := by
  cases f with
  | zero => simp [tryStmt] at hx
  | succ f =>
    simp only [tryStmt, bind, Except.bind, pure, Except.pure, throw, throwThe,
      MonadExceptOf.throw] at hx
    repeat' split at hx
    all_goals (cases hx <;> exact ⟨_, _, _, _, _, rfl⟩)

theorem matchStmt_shape (hx : matchStmt f ts i = .ok (some (s, j))) :
    ∃ subj cs, s = .matchCases subj cs := by
  cases f with
  | zero => simp [matchStmt] at hx
  | succ f =>
    simp only [matchStmt, bind, Except.bind, pure, Except.pure, throw, throwThe,
      MonadExceptOf.throw] at hx
    repeat' split at hx
    all_goals (cases hx <;> exact ⟨_, _, rfl⟩)

/-! A simple statement is never a definition. -/

theorem exprStmt_defEntries (hx : exprStmt f ts i = .ok (s, j)) (pre : String) :
    defEntries pre s = [] := by
  cases f with
  | zero => simp [exprStmt] at hx
  | succ f =>
    simp only [exprStmt, bind, Except.bind, pure, Except.pure, throw, throwThe,
      MonadExceptOf.throw] at hx
    repeat' split at hx
    all_goals (cases hx <;> rfl)

theorem importStmt_defEntries (hx : importStmt ts i = .ok (s, j)) (pre : String) :
    defEntries pre s = [] := by
  simp only [importStmt, bind, Except.bind, pure, Except.pure] at hx
  repeat' split at hx
  all_goals (cases hx <;> rfl)

theorem fromStmt_defEntries (hx : fromStmt ts i = .ok (s, j)) (pre : String) :
    defEntries pre s = [] := by
  simp only [fromStmt, bind, Except.bind, pure, Except.pure, throw, throwThe,
    MonadExceptOf.throw] at hx
  repeat' split at hx
  all_goals (cases hx <;> rfl)

theorem simpleStmt_defEntries (hx : simpleStmt f ts i = .ok (s, j)) (pre : String) :
    defEntries pre s = [] := by
  cases f with
  | zero => simp [simpleStmt] at hx
  | succ f =>
    simp only [simpleStmt, bind, Except.bind, pure, Except.pure, throw, throwThe,
      MonadExceptOf.throw] at hx
    repeat' split at hx
    all_goals first
      | exact importStmt_defEntries hx pre
      | exact fromStmt_defEntries hx pre
      | exact exprStmt_defEntries hx pre
      | (cases hx <;> rfl)

end Shapes

/-- A line of simple statements holds no definitions and ends with a line end. -/
theorem simpleStmts_laid {ts : Tokens} : ∀ {f i j : Nat} {ss : List Stmt},
    simpleStmts f ts i = .ok (ss, j) →
      (∀ pre, bodyEntries pre ss = []) ∧ ∃ m, i ≤ m ∧ m < j ∧ (tokAt ts m).kind = .newline
  | 0, _, _, _, hx => by simp [simpleStmts] at hx
  | f + 1, i, j, ss, hx => by
    simp only [simpleStmts, bind, Except.bind, pure, Except.pure] at hx
    split at hx
    · cases hx
    rename_i v hs
    have hik := (stmtAdvance f).simpleStmt_le hs
    have hnone : ∀ pre, bodyEntries pre [v.1] = [] := fun pre => by
      simp [bodyEntries, simpleStmt_defEntries hs pre]
    split at hx
    · split at hx
      · -- `;` at the end of the line
        cases hx
        exact ⟨hnone, v.2 + 1, by omega, by omega, kind_of_isKind ‹_›⟩
      · -- `;` and more statements on the line
        split at hx
        · cases hx
        rename_i w hw
        cases hx
        obtain ⟨hss, m, hm₁, hm₂, hm⟩ := simpleStmts_laid hw
        refine ⟨fun pre => ?_, m, by omega, hm₂, hm⟩
        simp [bodyEntries, simpleStmt_defEntries hs pre, hss pre]
    · split at hx
      · cases hx
        exact ⟨hnone, v.2, hik, by omega, kind_of_isKind ‹_›⟩
      · cases hx

/-- Where the parsers of statements at fuel `f` put the entries they read from the tokens `ts`:
a statement's and a definition's stand in the tokens read, a block's after the line end that
opens it, and the statements of an indented block or of the module are added to what was read
before them. -/
structure StmtLaid (ts : Tokens) (f : Nat) : Prop where
  statement_laid : ∀ {i ss j}, statement f ts i = .ok (ss, j) →
    ∀ pre, Laid ts i j (bodyEntries pre ss)
  compound_laid : ∀ {i s j}, compound f ts i = .ok (s, j) →
    ∀ pre, Laid ts i j (defEntries pre s)
  decorated_laid : ∀ {i ds s j}, decorated f ts i ds = .ok (s, j) →
    ∀ pre, Laid ts i j (defEntries pre s)
  funcDef_laid : ∀ {i a ds s j}, (tokAt ts i).kind = .name "def" →
    funcDef f ts i a ds = .ok (s, j) → ∀ pre, Laid ts i j (defEntries pre s)
  classDef_laid : ∀ {i ds s j}, (tokAt ts i).kind = .name "class" →
    classDef f ts i ds = .ok (s, j) → ∀ pre, Laid ts i j (defEntries pre s)
  block_laid : ∀ {i w l ss j}, block f ts i w l = .ok (ss, j) →
    ∃ m, i ≤ m ∧ m < j ∧ (tokAt ts m).kind = .newline ∧
      ∀ pre, Laid ts (m + 1) j (bodyEntries pre ss)
  blockStmts_laid : ∀ {i acc ss j}, blockStmts f ts i acc = .ok (ss, j) →
    ∃ rest, ss = acc ++ rest ∧ ∀ pre, Laid ts i j (bodyEntries pre rest)
  moduleStmts_laid : ∀ {i acc ss j}, moduleStmts f ts i acc = .ok (ss, j) →
    ∃ rest, ss = acc ++ rest ∧ ∀ pre, Laid ts i j (bodyEntries pre rest)

namespace StmtLaid

variable {ts : Tokens} (hl : TokensLined ts) {f : Nat} (h : StmtLaid ts f) {i j : Nat}
include h

theorem statement_succ {ss : List Stmt} (hx : statement (f + 1) ts i = .ok (ss, j))
    (pre : String) : Laid ts i j (bodyEntries pre ss) := by
  unfold statement at hx
  split at hx
  · cases hx
  split at hx
  · -- a compound statement
    obtain ⟨⟨s, k⟩, hc, hx⟩ := bind_eq_ok.1 hx
    cases hx
    simpa [bodyEntries] using h.compound_laid hc pre
  split at hx
  · -- a `match` statement, or a line of simple statements that starts with the soft keyword
    split at hx
    · rename_i s k hm
      cases hx
      obtain ⟨_, _, rfl⟩ := matchStmt_shape hm
      exact Laid.nil
    · rw [(simpleStmts_laid hx).1 pre]
      exact Laid.nil
    · cases hx
  · rw [(simpleStmts_laid hx).1 pre]
    exact Laid.nil

theorem compound_succ {s : Stmt} (hx : compound (f + 1) ts i = .ok (s, j)) (pre : String) :
    Laid ts i j (defEntries pre s) := by
  unfold compound at hx
  split at hx
  · exact h.decorated_laid hx pre
  · exact h.funcDef_laid ‹_› hx pre
  · exact h.classDef_laid ‹_› hx pre
  · obtain ⟨_, _, _, rfl⟩ := ifStmt_shape hx
    exact Laid.nil
  · obtain ⟨_, _, _, rfl⟩ := whileStmt_shape hx
    exact Laid.nil
  · obtain ⟨_, _, _, _, rfl⟩ := forStmt_shape hx
    exact Laid.nil
  · obtain ⟨_, _, rfl⟩ := withStmt_shape hx
    exact Laid.nil
  · obtain ⟨_, _, _, _, _, rfl⟩ := tryStmt_shape hx
    exact Laid.nil
  · -- `async` before a `def`, a `for` or a `with`
    split at hx
    · exact (h.funcDef_laid (kind_of_isWord ‹_›) hx pre).mono (Nat.le_succ i) (Nat.le_refl j)
    split at hx
    · obtain ⟨_, _, _, _, rfl⟩ := forStmt_shape hx
      exact Laid.nil
    split at hx
    · obtain ⟨_, _, rfl⟩ := withStmt_shape hx
      exact Laid.nil
    · cases hx
  · cases hx

theorem decorated_succ {ds : List Expr} {s : Stmt} (hx : decorated (f + 1) ts i ds = .ok (s, j))
    (pre : String) : Laid ts i j (defEntries pre s) := by
  unfold decorated at hx
  split at hx
  · -- a decorator on a line of its own, then the rest of the definition
    obtain ⟨⟨d, k⟩, hd, hx⟩ := bind_eq_ok.1 hx
    have hik := (exprAdvance f).namedExpression_le hd
    dsimp only at hx
    split at hx
    · simp [throw, throwThe, MonadExceptOf.throw, bind, Except.bind] at hx
    · exact (h.decorated_laid hx pre).mono (by omega) (Nat.le_refl j)
  split at hx
  · exact h.funcDef_laid (kind_of_isWord ‹_›) hx pre
  split at hx
  · have hw := Bool.and_eq_true_iff.1 ‹_›
    exact (h.funcDef_laid (kind_of_isWord hw.2) hx pre).mono (Nat.le_succ i) (Nat.le_refl j)
  split at hx
  · exact h.classDef_laid (kind_of_isWord ‹_›) hx pre
  · cases hx

theorem funcDef_succ {a : Bool} {ds : List Expr} {s : Stmt} (hi : (tokAt ts i).kind = .name "def")
    (hx : funcDef (f + 1) ts i a ds = .ok (s, j)) (pre : String) :
    Laid ts i j (defEntries pre s) := by
  obtain ⟨name, ps, r, body, m, him, hb, rfl⟩ := funcDef_block hx
  obtain ⟨m', hmm', hm'j, hnl, -⟩ := h.block_laid hb
  cases a
  · exact (Laid.entryOf_of_newline (Or.inl hi) (by omega) hnl).mono (Nat.le_refl i) (by omega)
  · exact Laid.nil

include hl in
theorem classDef_succ {ds : List Expr} {s : Stmt} (hi : (tokAt ts i).kind = .name "class")
    (hx : classDef (f + 1) ts i ds = .ok (s, j)) (pre : String) :
    Laid ts i j (defEntries pre s) := by
  obtain ⟨name, bs, body, m, him, hb, rfl⟩ := classDef_block hx
  obtain ⟨m', hmm', hm'j, hnl, hbody⟩ := h.block_laid hb
  -- the class's own entry stands before the line end `m'` of its header, its members' after it
  exact (Laid.entryOf_of_newline (Or.inr hi) (by omega) hnl).append hl (hbody _) (by omega)
    (by omega)

theorem block_succ {w : String} {l : Nat} {ss : List Stmt}
    (hx : block (f + 1) ts i w l = .ok (ss, j)) :
    ∃ m, i ≤ m ∧ m < j ∧ (tokAt ts m).kind = .newline ∧
      ∀ pre, Laid ts (m + 1) j (bodyEntries pre ss) := by
  unfold block at hx
  split at hx
  · split at hx
    · -- an indented block after the line end at `i`
      have hij := (stmtAdvance f).blockStmts_le hx
      obtain ⟨rest, rfl, hrest⟩ := h.blockStmts_laid hx
      exact ⟨i, Nat.le_refl i, by omega, kind_of_isKind ‹_›,
        fun pre => (hrest pre).mono (Nat.le_succ _) (Nat.le_refl j)⟩
    · cases hx
  · obtain ⟨hss, m, him, hmj, hm⟩ := simpleStmts_laid hx
    exact ⟨m, him, hmj, hm, fun pre => by rw [hss pre]; exact Laid.nil⟩

include hl in
/-- A statement read from `i` to `k`, then statements whose entries are laid from `k` to `j`:
together their entries are laid from `i` to `j`. -/
theorem statement_append {k : Nat} {ss rest : List Stmt} {pre : String}
    (hs : statement f ts i = .ok (ss, k)) (hrest : Laid ts k j (bodyEntries pre rest))
    (hkj : k ≤ j) : Laid ts i j (bodyEntries pre (ss ++ rest)) := by
  rw [bodyEntries_append]
  exact (h.statement_laid hs pre).append hl hrest ((stmtAdvance f).statement_le hs) hkj

include hl in
theorem blockStmts_succ {acc ss : List Stmt} (hx : blockStmts (f + 1) ts i acc = .ok (ss, j)) :
    ∃ rest, ss = acc ++ rest ∧ ∀ pre, Laid ts i j (bodyEntries pre rest) := by
  unfold blockStmts at hx
  split at hx
  · cases hx
    exact ⟨[], by simp, fun _ => Laid.nil⟩
  split at hx
  · cases hx
    exact ⟨[], by simp, fun _ => Laid.nil⟩
  obtain ⟨⟨ss₁, k⟩, hs, hx⟩ := bind_eq_ok.1 hx
  obtain ⟨rest, rfl, hrest⟩ := h.blockStmts_laid hx
  exact ⟨ss₁ ++ rest, by simp,
    fun pre => h.statement_append hl hs (hrest pre) ((stmtAdvance f).blockStmts_le hx)⟩

include hl in
theorem moduleStmts_succ {acc ss : List Stmt} (hx : moduleStmts (f + 1) ts i acc = .ok (ss, j)) :
    ∃ rest, ss = acc ++ rest ∧ ∀ pre, Laid ts i j (bodyEntries pre rest) := by
  unfold moduleStmts at hx
  split at hx
  · cases hx
    exact ⟨[], by simp, fun _ => Laid.nil⟩
  obtain ⟨⟨ss₁, k⟩, hs, hx⟩ := bind_eq_ok.1 hx
  obtain ⟨rest, rfl, hrest⟩ := h.moduleStmts_laid hx
  exact ⟨ss₁ ++ rest, by simp,
    fun pre => h.statement_append hl hs (hrest pre) ((stmtAdvance f).moduleStmts_le hx)⟩

end StmtLaid

theorem stmtLaid_zero (ts : Tokens) : StmtLaid ts 0 := by
  constructor <;> intros <;> simp_all only [statement, compound, decorated, funcDef, classDef,
    block, blockStmts, moduleStmts, reduceCtorEq]

/-- Every parser of statements, at every fuel, puts the entries it reads where `StmtLaid` says,
when the tokens are lined. -/
theorem stmtLaid {ts : Tokens} (hl : TokensLined ts) : ∀ f, StmtLaid ts f
  | 0 => stmtLaid_zero ts
  | f + 1 =>
    have h := stmtLaid hl f
    ⟨h.statement_succ, h.compound_succ, h.decorated_succ, h.funcDef_succ, h.classDef_succ hl,
      h.block_succ, h.blockStmts_succ hl, h.moduleStmts_succ hl⟩

/-! ## The module's own entry -/

theorem decorated_ne_expr {ts : Tokens} : ∀ {f i : Nat} {ds : List Expr} {s : Stmt} {j : Nat},
    decorated f ts i ds = .ok (s, j) → ∀ e, s ≠ .expr e
  | 0, _, _, _, _, hx => by simp [decorated] at hx
  | f + 1, i, ds, s, j, hx => by
    unfold decorated at hx
    split at hx
    · obtain ⟨⟨d, k⟩, -, hx⟩ := bind_eq_ok.1 hx
      dsimp only at hx
      split at hx
      · simp [throw, throwThe, MonadExceptOf.throw, bind, Except.bind] at hx
      · exact decorated_ne_expr hx
    split at hx
    · obtain ⟨_, _, _, _, rfl⟩ := funcDef_shape hx
      exact fun _ h => Stmt.noConfusion h
    split at hx
    · obtain ⟨_, _, _, _, rfl⟩ := funcDef_shape hx
      exact fun _ h => Stmt.noConfusion h
    split at hx
    · obtain ⟨_, _, _, rfl⟩ := classDef_shape hx
      exact fun _ h => Stmt.noConfusion h
    · cases hx

/-- A compound statement is never an expression, so it is never a docstring. -/
theorem compound_ne_expr {ts : Tokens} {f i j : Nat} {s : Stmt}
    (hx : compound f ts i = .ok (s, j)) (e : Expr) : s ≠ .expr e := by
  cases f with
  | zero => simp [compound] at hx
  | succ f =>
    unfold compound at hx
    split at hx
    · exact decorated_ne_expr hx e
    · obtain ⟨_, _, _, _, rfl⟩ := funcDef_shape hx
      exact fun h => Stmt.noConfusion h
    · obtain ⟨_, _, _, rfl⟩ := classDef_shape hx
      exact fun h => Stmt.noConfusion h
    · obtain ⟨_, _, _, rfl⟩ := ifStmt_shape hx
      exact fun h => Stmt.noConfusion h
    · obtain ⟨_, _, _, rfl⟩ := whileStmt_shape hx
      exact fun h => Stmt.noConfusion h
    · obtain ⟨_, _, _, _, rfl⟩ := forStmt_shape hx
      exact fun h => Stmt.noConfusion h
    · obtain ⟨_, _, rfl⟩ := withStmt_shape hx
      exact fun h => Stmt.noConfusion h
    · obtain ⟨_, _, _, _, _, rfl⟩ := tryStmt_shape hx
      exact fun h => Stmt.noConfusion h
    · split at hx
      · obtain ⟨_, _, _, _, rfl⟩ := funcDef_shape hx
        exact fun h => Stmt.noConfusion h
      split at hx
      · obtain ⟨_, _, _, _, rfl⟩ := forStmt_shape hx
        exact fun h => Stmt.noConfusion h
      split at hx
      · obtain ⟨_, _, rfl⟩ := withStmt_shape hx
        exact fun h => Stmt.noConfusion h
      · cases hx
    · cases hx

theorem docstringOf_cons_of_ne_expr {s : Stmt} (hs : ∀ e, s ≠ .expr e) (rest : List Stmt) :
    docstringOf (s :: rest) = none := by
  cases s with
  | expr e => exact absurd rfl (hs e)
  | _ => rfl

/-- A statement that starts with what could be a docstring is a line of simple statements: it
holds no definitions and ends with a line end. -/
theorem statement_docstring {ts : Tokens} {f i j : Nat} {ss rest : List Stmt}
    (hx : statement f ts i = .ok (ss, j)) (hd : docstringOf (ss ++ rest) ≠ none) :
    (∀ pre, bodyEntries pre ss = []) ∧ ∃ m, i ≤ m ∧ m < j ∧ (tokAt ts m).kind = .newline := by
  cases f with
  | zero => simp [statement] at hx
  | succ f =>
    unfold statement at hx
    split at hx
    · cases hx
    split at hx
    · obtain ⟨⟨s, k⟩, hc, hx⟩ := bind_eq_ok.1 hx
      cases hx
      exact absurd (docstringOf_cons_of_ne_expr (compound_ne_expr hc) rest) hd
    split at hx
    · split at hx
      · rename_i s k hm
        cases hx
        obtain ⟨_, _, rfl⟩ := matchStmt_shape hm
        exact absurd rfl hd
      · exact simpleStmts_laid hx
      · cases hx
    · exact simpleStmts_laid hx

/-! ## Entries in the order of their lines -/

/-- The entries of a module read from lined tokens come in strictly increasing order of their
lines: the module's own, at line 1, before those of its definitions, and each definition after
everything before it. -/
theorem moduleEntries_pairwise {ts : Tokens} (hl : TokensLined ts) {f j : Nat}
    {body : List Stmt} (hx : moduleStmts f ts 0 [] = .ok (body, j)) (stem : String) :
    (moduleEntries stem body).Pairwise fun a b => a.line < b.line := by
  cases f with
  | zero => simp [moduleStmts] at hx
  | succ f =>
    unfold moduleStmts at hx
    split at hx
    · cases hx
      exact List.Pairwise.nil
    obtain ⟨⟨ss, k⟩, hs, hx⟩ := bind_eq_ok.1 hx
    obtain ⟨rest, rfl, hrest⟩ := (stmtLaid hl f).moduleStmts_laid hx
    have hkj := (stmtAdvance f).moduleStmts_le hx
    have hall := ((stmtLaid hl f).statement_laid hs "").append hl (hrest "") (Nat.zero_le k) hkj
    rw [List.nil_append, moduleEntries, bodyEntries_append]
    refine List.pairwise_append.2 ⟨entryOf_pairwise _ _ _ _, hall.sorted, fun a ha b hb => ?_⟩
    -- the module has its own entry, so it starts with a docstring, read from a line of simple
    -- statements whose line end stands before every definition
    have hd : docstringOf (ss ++ rest) ≠ none := by
      intro hnone
      unfold entryOf at ha
      rw [hnone] at ha
      cases ha
    obtain ⟨hnil, m, -, hmk, hm⟩ := statement_docstring hs hd
    rw [hnil, List.nil_append] at hb
    obtain ⟨k', m', hkk', -, -, -, -, hbk⟩ := (hrest "").placed b hb
    rw [(mem_entryOf ha).2]
    calc 1 ≤ (tokAt ts m).line := hl.line_pos m
      _ < (tokAt ts k').line := hl.line_lt_of_newline (by omega) hm
      _ = b.line := hbk.symm

/-- Every entry of a definition in a module read from lined tokens stands at the line of a `def`
or `class` keyword among them. -/
theorem bodyEntries_at_keywords {ts : Tokens} (hl : TokensLined ts) {f j : Nat}
    {body : List Stmt} (hx : moduleStmts f ts 0 [] = .ok (body, j)) (pre : String) :
    ∀ e ∈ bodyEntries pre body, ∃ t ∈ ts.toList, OpensDef t.kind ∧ e.line = t.line := by
  obtain ⟨rest, rfl, hrest⟩ := (stmtLaid hl f).moduleStmts_laid hx
  intro e he
  obtain ⟨k, -, -, -, -, -, hk, hek⟩ := (hrest pre).placed e he
  exact ⟨tokAt ts k, hl.tokAt_mem k, hk, hek⟩

/-- The docstrings found in a stub's text come in strictly increasing order of their lines, so
that no two share a line: first the module's own, at line 1, then those of the definitions, each
at the line of its `def` or `class` keyword (not of a decorator), a class before its members
and every definition after all that is nested in the ones before it. -/
theorem entriesOfText_in_line_order (stem : String) (text : List Char) {es : List Entry}
    (h : entriesOfText stem text = .ok es) :
    es.Pairwise (fun a b => a.line < b.line) ∧
      ∃ own defs, es = own ++ defs ∧ (∀ e ∈ own, e.name = stem ∧ e.line = 1) ∧
        ∀ ts, tokenize (Text.uniformNewlines text) = .ok ts →
          ∀ e ∈ defs, ∃ t ∈ ts.toList, OpensDef t.kind ∧ e.line = t.line := by
  obtain ⟨body, hb, rfl⟩ : ∃ body, readBody text = .ok body ∧ es = moduleEntries stem body := by
    unfold entriesOfText at h
    cases hr : readBody text with
    | error e =>
      rw [hr] at h
      cases h
    | ok body =>
      rw [hr] at h
      cases h
      exact ⟨body, rfl, rfl⟩
  have hown : ∀ e ∈ entryOf stem body 1, e.name = stem ∧ e.line = 1 := fun _ => mem_entryOf
  unfold readBody at hb
  dsimp only at hb
  split at hb
  · cases hb
  split at hb
  · -- the text parses: its tokens are lined
    rename_i body' hp
    cases hb
    unfold parseModule at hp
    obtain ⟨ts, hts, hp⟩ := bind_eq_ok.1 hp
    obtain ⟨⟨ss, j⟩, hm, hp⟩ := bind_eq_ok.1 hp
    cases hp
    have hl := tokensLined_tokenize hts
    refine ⟨moduleEntries_pairwise hl hm stem, _, _, rfl, hown, fun ts' hts' => ?_⟩
    rw [hts] at hts'
    cases hts'
    exact bodyEntries_at_keywords hl hm ""
  · -- a text that does not parse holds no entries
    cases hb
    rw [moduleEntries_nil]
    exact ⟨List.Pairwise.nil, [], [], rfl, by simp, by simp⟩

/-- A stub with a module docstring, a decorated function, a class with a method, and a
function after the class; each docstring holds an example. -/
def nestedStubText : List Char :=
  ("\"\"\"Module.\n\n>>> 1\n1\n\"\"\"\n\n@overload\ndef f():\n    \"\"\">>> 2\"\"\"\n\n" ++
    "class A:\n    \"\"\">>> 3\"\"\"\n\n    def m(self):\n        \"\"\">>> 4\"\"\"\n\n\n" ++
    "def g():\n    \"\"\">>> 5\"\"\"\n").toList

theorem nestedStub_in_line_order :
    ∃ es, entriesOfText "mod" nestedStubText = .ok es ∧
      es.map (fun e => (e.name, e.line)) =
        [("mod", 1), ("f", 8), ("A", 11), ("A.m", 14), ("g", 18)] ∧
      es.Pairwise (fun a b => a.line < b.line) ∧
      ∃ own defs, es = own ++ defs ∧ (∀ e ∈ own, e.name = "mod" ∧ e.line = 1) ∧
        ∀ ts, tokenize (Text.uniformNewlines nestedStubText) = .ok ts →
          ∀ e ∈ defs, ∃ t ∈ ts.toList, OpensDef t.kind ∧ e.line = t.line := by
  have hlines : (entriesOfText "mod" nestedStubText).toOption.map
      (List.map fun e => (e.name, e.line)) =
        some [("mod", 1), ("f", 8), ("A", 11), ("A.m", 14), ("g", 18)] := by
    decide +kernel
  cases hes : entriesOfText "mod" nestedStubText with
  | error e =>
    rw [hes] at hlines
    cases hlines
  | ok es =>
    rw [hes] at hlines
    exact ⟨es, rfl, Option.some.inj hlines,
      entriesOfText_in_line_order "mod" nestedStubText hes⟩

end StubDoctest.Stub
