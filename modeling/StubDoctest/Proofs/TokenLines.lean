import StubDoctest.Source.Parser.Stmt

/-!
# The lexer numbers lines in order

The parser reads a definition's line from the token of its keyword, and a statement ends with
a line end (`newline`) token. This module shows what the lexer guarantees about those lines:
every token's line is counted from one, a token never stands on an earlier line than one
before it, and a line end stands on an earlier line than every token after it (a line end is
the last token of its line). So a token that follows a line end is on a later line.

The invariant `LexState.Lined` is stated on the lexer's state, with the current line as the
bound of every token emitted so far. Each scanner either only reads on (`Reads`) or adds one
token at the line where it started (`Adds`); `lined_lexStep` carries the invariant through one
step of the lexer and `tokensLined_tokenize` through a whole run. `TokensLined` then reads the
result as the parser sees it, through `tokAt`.
-/

set_option autoImplicit false

namespace StubDoctest.Source

/-- A token that stands on line `L` or before it, and strictly before it when it ends a logical
line. -/
def Token.Before (L : Nat) (t : Token) : Prop :=
  t.line ≤ L ∧ (t.kind = .newline → t.line < L)

theorem Token.Before.mono {t : Token} {L L' : Nat} (h : t.Before L) (hL : L ≤ L') : t.Before L' :=
  ⟨by have := h.1; omega, fun hk => by have := h.2 hk; omega⟩

theorem bind_eq_ok {ε α β : Type} {x : Except ε α} {g : α → Except ε β} {b : β} :
    x >>= g = .ok b ↔ ∃ a, x = .ok a ∧ g a = .ok b := by
  cases x <;> simp [bind, Except.bind]

theorem ite_bind_eq {α β : Type} {ε : Type} (c : Prop) [Decidable c] (x y : Except ε α)
    (k : α → Except ε β) : (if c then x >>= k else y >>= k) = (if c then x else y) >>= k := by
  split <;> rfl

namespace LexState

@[simp, grind =] theorem skip_tokens (st : LexState) (n : Nat) :
    (st.skip n).tokens = st.tokens := rfl
@[simp, grind =] theorem skip_line (st : LexState) (n : Nat) : (st.skip n).line = st.line := rfl
@[simp, grind =] theorem skipNewline_tokens (st : LexState) :
    st.skipNewline.tokens = st.tokens := rfl
@[simp, grind =] theorem skipNewline_line (st : LexState) : st.skipNewline.line = st.line + 1 := rfl
@[simp, grind =] theorem emit_tokens (st : LexState) (k : TokenKind) (l c : Nat) :
    (st.emit k l c).tokens = st.tokens.push ⟨k, l, c⟩ := rfl
@[simp, grind =] theorem emit_line (st : LexState) (k : TokenKind) (l c : Nat) :
    (st.emit k l c).line = st.line := rfl

/-- `st'` has read on from `st` without adding a token. -/
def Reads (st st' : LexState) : Prop := st'.tokens = st.tokens ∧ st.line ≤ st'.line

theorem Reads.refl (st : LexState) : Reads st st := ⟨rfl, Nat.le_refl _⟩

theorem Reads.trans {a b c : LexState} (h₁ : Reads a b) (h₂ : Reads b c) : Reads a c :=
  ⟨h₂.1.trans h₁.1, Nat.le_trans h₁.2 h₂.2⟩

theorem reads_skip (st : LexState) (n : Nat) : Reads st (st.skip n) := ⟨rfl, Nat.le_refl _⟩

theorem reads_skipNewline (st : LexState) : Reads st st.skipNewline :=
  ⟨rfl, Nat.le_succ _⟩

/-- The lexer's invariant on lines: the line is counted from one, the tokens so far are in the
order of their lines with every line end on an earlier line than what follows it, and none
stands after the current line. -/
structure Lined (st : LexState) : Prop where
  line_pos : 1 ≤ st.line
  ordered : st.tokens.toList.Pairwise fun a b => a.Before b.line
  before : ∀ t ∈ st.tokens.toList, 1 ≤ t.line ∧ t.Before st.line

theorem Lined.of_reads {st st' : LexState} (h : st.Lined) (hr : Reads st st') : st'.Lined where
  line_pos := Nat.le_trans h.line_pos hr.2
  ordered := by rw [hr.1]; exact h.ordered
  before t ht := by
    rw [hr.1] at ht
    exact ⟨(h.before t ht).1, (h.before t ht).2.mono hr.2⟩

/-- A token that is no line end, added at a line `L` no earlier than the tokens before it and no
later than the current line, keeps the invariant. -/
theorem Lined.emit_at {st₀ st : LexState} {k : TokenKind} {c : Nat} (h : st₀.Lined)
    (hr : Reads st₀ st) (hk : k ≠ .newline) : (st.emit k st₀.line c).Lined where
  line_pos := by simpa using Nat.le_trans h.line_pos hr.2
  ordered := by
    rw [emit_tokens, Array.toList_push, List.pairwise_append, hr.1]
    refine ⟨h.ordered, by simp, fun a ha b hb => ?_⟩
    simp only [List.mem_singleton] at hb
    subst hb
    exact (h.before a ha).2
  before t ht := by
    rw [emit_tokens, Array.toList_push, List.mem_append, List.mem_singleton, hr.1] at ht
    rcases ht with ht | rfl
    · exact ⟨(h.before t ht).1, (h.before t ht).2.mono (by simpa using hr.2)⟩
    · exact ⟨h.line_pos, by simpa using hr.2, fun hk' => absurd hk' hk⟩

theorem Lined.emit {st : LexState} {k : TokenKind} {c : Nat} (h : st.Lined) (hk : k ≠ .newline) :
    (st.emit k st.line c).Lined :=
  h.emit_at (Reads.refl st) hk

/-- A line end closes its line: added at the current line, it keeps the invariant once the
lexer has moved past the line feed. -/
theorem Lined.newline {st : LexState} {c : Nat} (h : st.Lined) :
    (st.emit .newline st.line c).skipNewline.Lined where
  line_pos := by simp
  ordered := by
    simp only [skipNewline_tokens, emit_tokens, Array.toList_push, List.pairwise_append]
    refine ⟨h.ordered, by simp, fun a ha b hb => ?_⟩
    simp only [List.mem_singleton] at hb
    subst hb
    exact (h.before a ha).2
  before t ht := by
    simp only [skipNewline_tokens, emit_tokens, Array.toList_push, List.mem_append,
      List.mem_singleton] at ht
    rcases ht with ht | rfl
    · exact ⟨(h.before t ht).1, (h.before t ht).2.mono (by simp)⟩
    · exact ⟨h.line_pos, by simp, fun _ => by simp⟩

end LexState

open LexState

theorem reads_skipBlanks : ∀ (fuel : Nat) (st : LexState), Reads st (skipBlanks fuel st)
  | 0, st => Reads.refl st
  | fuel + 1, st => by
    unfold skipBlanks
    split
    · exact (reads_skip st 1).trans (reads_skipBlanks fuel _)
    · exact Reads.refl st

theorem reads_skipToLineEnd : ∀ (fuel : Nat) (st : LexState), Reads st (skipToLineEnd fuel st)
  | 0, st => Reads.refl st
  | fuel + 1, st => by
    unfold skipToLineEnd
    split
    · exact (reads_skip st 1).trans (reads_skipToLineEnd fuel _)
    · exact Reads.refl st

theorem reads_skipWhile (p : Char → Bool) :
    ∀ (fuel : Nat) (st : LexState), Reads st (skipWhile fuel p st)
  | 0, st => Reads.refl st
  | fuel + 1, st => by
    unfold skipWhile
    split
    · exact (reads_skip st 1).trans (reads_skipWhile p fuel _)
    · exact Reads.refl st

theorem reads_measureIndent :
    ∀ {fuel : Nat} {st st' : LexState} {col alt cont col' alt' cont' : Nat},
      measureIndent fuel st col alt cont = .ok (st', col', alt', cont') → Reads st st'
  | 0, st, st', _, _, _, _, _, _, h => by
    simp only [measureIndent, Except.ok.injEq, Prod.mk.injEq] at h
    exact h.1 ▸ Reads.refl st
  | fuel + 1, st, st', col, alt, cont, col', alt', cont', h => by
    unfold measureIndent at h
    split at h
    · exact (reads_skip st 1).trans (reads_measureIndent h)
    · exact (reads_skip st 1).trans (reads_measureIndent h)
    · exact (reads_skip st 1).trans (reads_measureIndent h)
    · split at h
      · dsimp only at h
        split at h
        · cases h
        · exact ((reads_skip st 1).trans (reads_skipNewline _)).trans (reads_measureIndent h)
      · cases h
    · simp only [Except.ok.injEq, Prod.mk.injEq] at h
      exact h.1 ▸ Reads.refl st

theorem reads_scanStringBody {q : Char} {size startLine : Nat} :
    ∀ {fuel : Nat} {st st' : LexState} {closing : Nat},
      scanStringBody fuel st q size closing startLine = .ok st' → Reads st st'
  | 0, st, st', _, h => by
    simp only [scanStringBody, Except.ok.injEq] at h
    exact h ▸ Reads.refl st
  | fuel + 1, st, st', closing, h => by
    unfold scanStringBody at h
    split at h
    · simp only [Except.ok.injEq] at h
      exact h ▸ Reads.refl st
    · split at h
      · split at h <;> cases h
      · split at h
        · cases h
        · exact (reads_skipNewline st).trans (reads_scanStringBody h)
      · split at h
        · exact (reads_skip st 1).trans (reads_scanStringBody h)
        · split at h
          · split at h
            · exact ((reads_skip st 1).trans (reads_skipNewline _)).trans (reads_scanStringBody h)
            · exact (reads_skip st 2).trans (reads_scanStringBody h)
            · exact (reads_skip st 1).trans (reads_scanStringBody h)
          · exact (reads_skip st 1).trans (reads_scanStringBody h)

theorem reads_decimalTail : ∀ {fuel : Nat} {st st' : LexState},
    decimalTail fuel st = .ok st' → Reads st st'
  | 0, st, st', h => by
    simp only [decimalTail, Except.ok.injEq] at h
    exact h ▸ Reads.refl st
  | fuel + 1, st, st', h => by
    unfold decimalTail at h
    have hw := reads_skipWhile isDigit (st.text.size + 1) st
    dsimp only at h
    split at h
    · split at h
      · exact (hw.trans (reads_skip _ 2)).trans (reads_decimalTail h)
      · cases h
    · simp only [Except.ok.injEq] at h
      exact h ▸ hw

theorem reads_radixDigits {isRadix : Char → Bool} {kind : String} :
    ∀ {fuel : Nat} {st st' : LexState}, radixDigits fuel st isRadix kind = .ok st' → Reads st st'
  | 0, st, st', h => by
    simp only [radixDigits, Except.ok.injEq] at h
    exact h ▸ Reads.refl st
  | fuel + 1, st, st', h => by
    unfold radixDigits at h
    -- an underscore may be read first
    have hu : Reads st (if st.peek = some '_' then st.skip 1 else st) := by
      split
      · exact reads_skip st 1
      · exact Reads.refl st
    generalize (if st.peek = some '_' then st.skip 1 else st) = st₁ at h hu
    dsimp only at h
    split at h
    · have hw := hu.trans (reads_skipWhile isRadix (st₁.text.size + 1) st₁)
      split at h
      · exact hw.trans (reads_radixDigits h)
      · simp only [Except.ok.injEq] at h
        exact h ▸ hw
    · split at h <;> cases h

theorem reads_numberRest {st st' : LexState} {afterPoint : Bool}
    (h : numberRest st afterPoint = .ok st') : Reads st st' := by
  have hd : ∀ {fuel : Nat} {a b : LexState}, decimalTail fuel a = .ok b →
      b.tokens = a.tokens ∧ a.line ≤ b.line := reads_decimalTail
  unfold numberRest at h
  simp only [bind, Except.bind, pure, Except.pure, throw, throwThe, MonadExceptOf.throw] at h
  unfold Reads
  grind

theorem reads_zeros : ∀ {fuel : Nat} {st st' : LexState},
    scanNumber.zeros fuel st = .ok st' → Reads st st'
  | 0, st, st', h => by
    simp only [scanNumber.zeros, Except.ok.injEq] at h
    exact h ▸ Reads.refl st
  | fuel + 1, st, st', h => by
    unfold scanNumber.zeros at h
    have := @reads_zeros fuel
    unfold Reads at this ⊢
    grind

/-- `st'` is `st` read on, with one token added that is no line end and stands at the line where
the reading started. -/
def Adds (st st' : LexState) : Prop :=
  ∃ t : Token, t.kind ≠ .newline ∧ t.line = st.line ∧ st'.tokens = st.tokens.push t ∧
    st.line ≤ st'.line

theorem adds_scanNumber {st st' : LexState} (h : scanNumber st = .ok st') : Adds st st' := by
  have hd : ∀ {fuel : Nat} {a b : LexState}, decimalTail fuel a = .ok b →
      b.tokens = a.tokens ∧ a.line ≤ b.line := reads_decimalTail
  have hn : ∀ {a b : LexState} {p : Bool}, numberRest a p = .ok b →
      b.tokens = a.tokens ∧ a.line ≤ b.line := reads_numberRest
  have hz : ∀ {fuel : Nat} {a b : LexState}, scanNumber.zeros fuel a = .ok b →
      b.tokens = a.tokens ∧ a.line ≤ b.line := reads_zeros
  have hr : ∀ {fuel : Nat} {a b : LexState} {p : Char → Bool} {k : String},
      radixDigits fuel a p k = .ok b → b.tokens = a.tokens ∧ a.line ≤ b.line := reads_radixDigits
  unfold scanNumber at h
  simp only [bind, Except.bind, pure, Except.pure, throw, throwThe, MonadExceptOf.throw] at h
  unfold Adds
  grind

theorem adds_scanName {st st' : LexState} (h : scanName st = .ok st') : Adds st st' := by
  have hw := reads_skipWhile isNameChar (st.text.size + 1) st
  unfold scanName at h
  simp only [bind, Except.bind, pure, Except.pure, throw, throwThe, MonadExceptOf.throw] at h
  generalize skipWhile (st.text.size + 1) isNameChar st = s at h hw
  -- every exit that succeeds adds the word read, at the line where it starts
  have hs : st' = s.emit (.name (String.ofList (s.text.extract st.pos s.pos).toList)) st.line
      st.col := by
    split at h
    · split at h
      · cases h
      · exact (Except.ok.inj h).symm
    · exact (Except.ok.inj h).symm
  subst hs
  exact ⟨⟨.name _, st.line, st.col⟩, by simp, rfl, by rw [emit_tokens, hw.1], by simpa using hw.2⟩

theorem adds_scanString {st st' : LexState} {start : Nat} (h : scanString st start = .ok st') :
    Adds st st' := by
  have hb : ∀ {fuel : Nat} {a b : LexState} {q : Char} {size closing startLine : Nat},
      scanStringBody fuel a q size closing startLine = .ok b →
      b.tokens = a.tokens ∧ a.line ≤ b.line := reads_scanStringBody
  unfold scanString at h
  simp only [bind, Except.bind, pure, Except.pure] at h
  unfold Adds
  grind

theorem adds_scanOperator {st st' : LexState} {c : Char} (h : scanOperator st c = .ok st') :
    Adds st st' := by
  unfold scanOperator at h
  simp only [bind, Except.bind, pure, Except.pure, throw, throwThe, MonadExceptOf.throw] at h
  repeat' split at h
  -- the faults are no result; every other exit adds one operator at the current line
  all_goals cases h
  all_goals exact ⟨_, by simp, rfl, rfl, Nat.le_refl _⟩

theorem LexState.Lined.of_adds {st st' : LexState} (h : st.Lined) (ha : Adds st st') :
    st'.Lined := by
  obtain ⟨t, hk, hl, ht, hle⟩ := ha
  refine ⟨Nat.le_trans h.line_pos hle, ?_, fun u hu => ?_⟩
  · rw [ht, Array.toList_push, List.pairwise_append]
    refine ⟨h.ordered, by simp, fun a ha b hb => ?_⟩
    simp only [List.mem_singleton] at hb
    subst hb
    rw [hl]
    exact (h.before a ha).2
  · rw [ht, Array.toList_push, List.mem_append, List.mem_singleton] at hu
    rcases hu with hu | rfl
    · exact ⟨(h.before u hu).1, (h.before u hu).2.mono hle⟩
    · exact ⟨hl ▸ h.line_pos, by omega, fun hk' => absurd hk' hk⟩

/-- Dedents added one after another at the current line keep the invariant and the line. -/
theorem lined_foldl_dedent {L c : Nat} :
    ∀ (l : List Nat) (s : LexState), s.Lined → s.line = L →
      (l.foldl (fun s _ => s.emit .dedent L c) s).Lined ∧
        (l.foldl (fun s _ => s.emit .dedent L c) s).line = L
  | [], s, h, hL => ⟨h, hL⟩
  | _ :: l, s, h, hL => by
    rw [List.foldl_cons]
    exact lined_foldl_dedent l _ (hL ▸ h.emit (by decide)) (by simpa using hL)

theorem lined_closeBlocks {st st' : LexState} {col alt : Nat} (h : st.Lined)
    (hc : closeBlocks st col alt = .ok st') : st'.Lined ∧ st.line ≤ st'.line := by
  unfold closeBlocks at hc
  generalize closeBlocks.go col st.indents 0 = r at hc
  obtain ⟨stack, n⟩ := r
  dsimp only at hc
  split at hc
  · split at hc
    · cases hc
    · split at hc
      · cases hc
      · cases hc
        -- one dedent for each block closed, all at the current line
        have hd := lined_foldl_dedent (c := st.col) (List.range n) st h rfl
        exact ⟨hd.1.of_reads ⟨rfl, Nat.le_refl _⟩, Nat.le_of_eq hd.2.symm⟩
  · cases hc
    exact ⟨h, Nat.le_refl _⟩

theorem lined_startLine {st st' : LexState} {blank : Bool} (h : st.Lined)
    (hs : startLine st = .ok (st', blank)) : st'.Lined ∧ st.line ≤ st'.line := by
  unfold startLine at hs
  simp only [bind, Except.bind, pure, Except.pure, throw, throwThe, MonadExceptOf.throw] at hs
  split at hs
  · cases hs
  rename_i v hm
  -- after the indentation is measured, the state no longer stands at the start of a line
  have hr : Reads st { v.1 with atLineStart := false } :=
    (reads_measureIndent hm).trans ⟨rfl, Nat.le_refl _⟩
  have h₁ := h.of_reads hr
  generalize (if v.2.2.2 ≠ 0 then v.2.2.2 else v.2.1) = col at hs
  generalize (if v.2.2.2 ≠ 0 then v.2.2.2 else v.2.2.1) = alt at hs
  split at hs
  · cases hs
    exact ⟨h₁, hr.2⟩
  split at hs
  · split at hs
    · split at hs
      · cases hs
      · cases hs
        exact ⟨h₁, hr.2⟩
    · split at hs
      · -- a deeper line opens a block with an indent at its line
        split at hs
        · cases hs
        · split at hs
          · cases hs
          · cases hs
            exact ⟨(h₁.emit (show TokenKind.indent ≠ .newline by decide)).of_reads
              ⟨rfl, Nat.le_refl _⟩, hr.2⟩
      · split at hs
        · cases hs
        · rename_i v' hc
          cases hs
          have := lined_closeBlocks h₁ hc
          exact ⟨this.1, Nat.le_trans hr.2 this.2⟩
  · cases hs
    exact ⟨h₁, hr.2⟩

theorem lined_lexStep {st st' : LexState} {done : Bool} (h : st.Lined)
    (hs : lexStep st = .ok (st', done)) :
    st'.Lined ∧ (done = true → ∃ t, st'.tokens.back? = some t ∧ t.kind = .endmarker) := by
  unfold lexStep at hs
  dsimp only at hs
  rw [ite_bind_eq] at hs
  obtain ⟨⟨s₁, blank⟩, h₁, hs⟩ := bind_eq_ok.1 hs
  -- the start of a line is measured first
  have hl₁ : s₁.Lined := by
    split at h₁
    · exact (lined_startLine h h₁).1
    · cases h₁
      exact h
  dsimp only at hs
  -- then blanks and a comment are skipped
  have hr₂ : Reads s₁ (if (skipBlanks (s₁.text.size + 1) s₁).peek = some '#' then
      skipToLineEnd ((skipBlanks (s₁.text.size + 1) s₁).text.size + 1)
        (skipBlanks (s₁.text.size + 1) s₁)
      else skipBlanks (s₁.text.size + 1) s₁) := by
    have hb := reads_skipBlanks (s₁.text.size + 1) s₁
    split
    · exact hb.trans (reads_skipToLineEnd _ _)
    · exact hb
  generalize (if (skipBlanks (s₁.text.size + 1) s₁).peek = some '#' then
      skipToLineEnd ((skipBlanks (s₁.text.size + 1) s₁).text.size + 1)
        (skipBlanks (s₁.text.size + 1) s₁)
      else skipBlanks (s₁.text.size + 1) s₁) = s₂ at hs hr₂
  have hl₂ := hl₁.of_reads hr₂
  simp only [bind, Except.bind, pure, Except.pure, throw, throwThe, MonadExceptOf.throw] at hs
  split at hs
  · -- the end of the text: the end marker, once every bracket is closed
    split at hs
    · cases hs
    · cases hs
      exact ⟨hl₂.emit (by decide), fun _ => ⟨⟨.endmarker, s₂.line, s₂.col⟩, by simp, rfl⟩⟩
  split at hs
  · -- a name, or a string literal after its prefix
    split at hs
    · split at hs
      · cases hs
      · cases hs
        exact ⟨(hl₂.of_reads (reads_skip _ _)).of_adds (adds_scanString ‹_›), by simp⟩
    · split at hs
      · cases hs
      · cases hs
        exact ⟨hl₂.of_adds (adds_scanName ‹_›), by simp⟩
  split at hs
  · -- a line feed ends the logical line, unless the line is blank or a bracket is open
    cases hs
    refine ⟨?_, by simp⟩
    have hnl : (if (blank || !s₂.brackets.isEmpty) = true then s₂
        else s₂.emit .newline s₂.line s₂.col).skipNewline.Lined := by
      split
      · exact hl₂.of_reads (reads_skipNewline s₂)
      · exact hl₂.newline
    exact hnl.of_reads ⟨rfl, Nat.le_refl _⟩
  repeat' split at hs
  -- numbers, strings, operators, and a backslash that joins two lines
  all_goals cases hs
  · exact ⟨hl₂.of_adds (adds_scanNumber ‹_›), by simp⟩
  · exact ⟨hl₂.of_adds (adds_scanNumber ‹_›), by simp⟩
  · exact ⟨hl₂.of_adds (adds_scanString ‹_›), by simp⟩
  · exact ⟨hl₂.of_reads ((reads_skip _ 1).trans (reads_skipNewline _)), by simp⟩
  · exact ⟨hl₂.of_adds (adds_scanOperator ‹_›), by simp⟩

/-- What a run of the lexer leaves: tokens in the order of their lines, with every line end on an
earlier line than all that follows it, lines counted from one, and the end marker last. -/
structure TokensLined (ts : Array Token) : Prop where
  ordered : ts.toList.Pairwise fun a b => a.Before b.line
  lines_pos : ∀ t ∈ ts.toList, 1 ≤ t.line
  last : ∃ t, ts.back? = some t ∧ t.kind = .endmarker

theorem tokensLined_lexRun :
    ∀ {fuel : Nat} {st : LexState} {ts : Array Token}, st.Lined → lexRun fuel st = .ok ts →
      TokensLined ts
  | 0, _, _, _, hr => by simp [lexRun] at hr
  | fuel + 1, st, ts, h, hr => by
    unfold lexRun at hr
    split at hr
    · cases hr
    · rename_i st' hs
      cases hr
      have hl := lined_lexStep h hs
      exact ⟨hl.1.ordered, fun t ht => (hl.1.before t ht).1, hl.2 rfl⟩
    · rename_i st' hs
      exact tokensLined_lexRun (lined_lexStep h hs).1 hr

theorem tokensLined_tokenize {cs : List Char} {ts : Array Token} (h : tokenize cs = .ok ts) :
    TokensLined ts :=
  tokensLined_lexRun ⟨Nat.le_refl 1, by simp, by simp⟩ h

namespace TokensLined

variable {ts : Tokens} (hl : TokensLined ts)
include hl

theorem size_pos : 0 < ts.size := by
  obtain ⟨t, ht, -⟩ := hl.last
  rcases Nat.eq_zero_or_pos ts.size with h | h
  · simp [Array.back?, h] at ht
  · exact h

/-- Past the end the parser reads the last token, so every read is of a token at an index below
the size. -/
theorem tokAt_eq (i : Nat) (h : min i (ts.size - 1) < ts.size) :
    tokAt ts i = ts[min i (ts.size - 1)] := by
  have hpos := hl.size_pos
  unfold tokAt
  rcases Nat.lt_or_ge i ts.size with hi | hi
  · rw [Array.getElem?_eq_getElem hi]
    simp only [Nat.min_eq_left (show i ≤ ts.size - 1 by omega)]
  · rw [Array.getElem?_eq_none hi]
    simp only [Nat.min_eq_right (show ts.size - 1 ≤ i by omega), Array.back?,
      Array.getElem?_eq_getElem (show ts.size - 1 < ts.size by omega), Option.getD_some]

theorem tokAt_mem (k : Nat) : tokAt ts k ∈ ts.toList := by
  have hpos := hl.size_pos
  rw [hl.tokAt_eq k (by omega)]
  exact Array.getElem_mem_toList _

theorem before_of_lt {p q : Nat} (hp : p < ts.size) (hq : q < ts.size) (hpq : p < q) :
    ts[p].Before ts[q].line := by
  have := List.pairwise_iff_getElem.1 hl.ordered p q (by simpa using hp) (by simpa using hq) hpq
  simpa using this

theorem line_pos (k : Nat) : 1 ≤ (tokAt ts k).line := by
  have hpos := hl.size_pos
  rw [hl.tokAt_eq k (by omega)]
  exact hl.lines_pos _ (Array.getElem_mem_toList _)

theorem line_mono {a b : Nat} (hab : a ≤ b) : (tokAt ts a).line ≤ (tokAt ts b).line := by
  have hpos := hl.size_pos
  rw [hl.tokAt_eq a (by omega), hl.tokAt_eq b (by omega)]
  rcases Nat.lt_or_ge (min a (ts.size - 1)) (min b (ts.size - 1)) with h | h
  · exact (hl.before_of_lt (by omega) (by omega) h).1
  · have : min a (ts.size - 1) = min b (ts.size - 1) := by omega
    simp only [this, Nat.le_refl]

/-- A line end stands on an earlier line than every token after it. -/
theorem line_lt_of_newline {a b : Nat} (hab : a < b) (hk : (tokAt ts a).kind = .newline) :
    (tokAt ts a).line < (tokAt ts b).line := by
  have hpos := hl.size_pos
  obtain ⟨t, ht, hend⟩ := hl.last
  have hback : ts[ts.size - 1] = t := by
    simpa [Array.back?, Array.getElem?_eq_getElem (show ts.size - 1 < ts.size by omega)] using ht
  -- the last token is the end marker, so the line end stands before it
  have ha : a < ts.size - 1 := by
    rcases Nat.lt_or_ge a (ts.size - 1) with h | h
    · exact h
    · have hlast : tokAt ts a = t := by
        rw [hl.tokAt_eq a (by omega)]
        simp only [Nat.min_eq_right h, hback]
      rw [hlast, hend] at hk
      cases hk
  have hlt := hl.before_of_lt (p := a) (q := min b (ts.size - 1)) (by omega) (by omega) (by omega)
  have hta : tokAt ts a = ts[a] := by
    rw [hl.tokAt_eq a (by omega)]
    simp only [Nat.min_eq_left (Nat.le_of_lt ha)]
  rw [hta] at hk ⊢
  rw [hl.tokAt_eq b (by omega)]
  exact hlt.2 hk

end TokensLined

end StubDoctest.Source
