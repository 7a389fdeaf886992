import Mathlib.Data.List.Induction
import Mathlib.Data.List.TakeWhile
import StubDoctest.Proofs.PromptFree

/-!
# Cleaning keeps the prompts of a docstring

A docstring is cleaned before the walk tests it for a prompt `>>>`: tabs are expanded, the
first line loses its leading blanks, every later line loses the common indentation of the
later lines that hold more than blanks, and empty lines are dropped at both ends. None of
these steps can cut a prompt or make one. Tab expansion turns a tab into spaces and keeps every
other character; a prompt stands inside one line; the blanks a line loses all stand before its
first character that is not blank, and a prompt starts with one; and a line holding a prompt is
not empty.

Main statements: a cleaned docstring holds a prompt exactly when the raw one does
(`prompt_infix_clean_iff`), so the walk emits an entry for a node exactly when the first
statement of its body is a plain string constant holding a prompt, with the cleaned text, which
is not empty and still holds the prompt (`mem_entryOf_iff`).
-/

set_option autoImplicit false

namespace StubDoctest.Docstring

open StubDoctest.Text StubDoctest.Reader

/-! ## Characters that cannot start a prompt -/

/-- A prompt in a text whose first character is not `>` lies in the rest of the text. -/
theorem prompt_infix_of_cons {c : Char} {cs : List Char} (hc : c ≠ '>')
    (h : Stub.prompt <:+: c :: cs) : Stub.prompt <:+: cs := by
  rcases List.infix_cons_iff.1 h with hpre | hin
  · rw [prompt_eq_replicate, List.replicate_succ] at hpre
    exact absurd (List.cons_prefix_cons.1 hpre).1.symm hc
  · exact hin

/-- A prompt after a run of blanks lies after the run. -/
theorem prompt_infix_of_blanks_append :
    ∀ {bs cs : List Char}, (∀ c ∈ bs, isBlank c = true) → Stub.prompt <:+: bs ++ cs →
      Stub.prompt <:+: cs
  | [], _, _, h => h
  | b :: bs, cs, hbs, h => by
    have hb : b ≠ '>' := by
      rintro rfl
      exact absurd (hbs _ (List.mem_cons_self ..)) (by decide)
    exact prompt_infix_of_blanks_append (fun c hc => hbs c (List.mem_cons_of_mem _ hc))
      (prompt_infix_of_cons hb h)

/-- Stripping the leading blanks of a line keeps its prompt. -/
theorem prompt_infix_dropBlanks {cs : List Char} (h : Stub.prompt <:+: cs) :
    Stub.prompt <:+: dropBlanks cs := by
  rw [← List.takeWhile_append_dropWhile (p := isBlank) (l := cs)] at h
  exact prompt_infix_of_blanks_append (fun c hc => List.mem_takeWhile_imp hc) h

/-! ## Tab expansion keeps a prompt -/

/-- A run of `>` that starts a text starts it after tab expansion. -/
theorem replicate_prefix_expandTabsFrom (n : Nat) :
    ∀ (col : Nat) (cs : List Char), List.replicate n '>' <+: cs →
      List.replicate n '>' <+: expandTabsFrom col cs := by
  induction n with
  | zero => intros; exact List.nil_prefix
  | succ n ih =>
    intro col cs h
    cases cs with
    | nil => simp at h
    | cons c cs =>
      rw [List.replicate_succ] at h ⊢
      obtain ⟨rfl, hrest⟩ := List.cons_prefix_cons.1 h
      -- a mark is neither a tab nor a line end: it is kept and the column moves on
      rw [expandTabsFrom, if_neg (by decide), if_neg (by decide)]
      exact List.cons_prefix_cons.2 ⟨rfl, ih _ cs hrest⟩

/-- Tab expansion keeps every prompt of a text. -/
theorem prompt_infix_expandTabsFrom :
    ∀ (col : Nat) (cs : List Char), Stub.prompt <:+: cs → Stub.prompt <:+: expandTabsFrom col cs
  | _, [], h => absurd h promptFree_nil
  | col, c :: cs, h => by
    rcases List.infix_cons_iff.1 h with hpre | hin
    · exact (replicate_prefix_expandTabsFrom 3 col (c :: cs) (prompt_eq_replicate ▸ hpre)).isInfix
    · -- the prompt lies in the rest, which is expanded after `c` from some column
      have hrest : ∀ col', Stub.prompt <:+: expandTabsFrom col' cs :=
        fun col' => prompt_infix_expandTabsFrom col' cs hin
      unfold expandTabsFrom
      split
      · dsimp only
        exact (hrest _).trans (List.suffix_append _ _).isInfix
      · split
        · exact (hrest 0).trans (List.suffix_cons _ _).isInfix
        · exact (hrest _).trans (List.suffix_cons _ _).isInfix

/-- A prompt stands inside one line: it holds no line break. -/
theorem exists_line_of_prompt_infix {cs : List Char} (h : Stub.prompt <:+: cs) :
    ∃ l ∈ linesOf cs, Stub.prompt <:+: l := by
  by_contra hnone
  simp only [not_exists, not_and] at hnone
  have hjoin : PromptFree (['\n'].intercalate (linesOf cs)) :=
    promptFree_intercalate (by decide) _ hnone
  rw [linesOf, List.intercalate_splitOn] at hjoin
  exact hjoin h

/-! ## The margin of the later lines -/

theorem margin_append_singleton (lines : List (List Char)) (l : List Char) :
    margin (lines ++ [l]) =
      match indentOf? l, margin lines with
      | some n, some m => some (min n m)
      | some n, none => some n
      | none, a => a := by
  rw [margin, List.foldl_append]
  rfl

/-- The margin is at most the indentation of every line that holds more than blanks. -/
theorem margin_le_of_mem {l : List Char} {n : Nat} (hn : indentOf? l = some n) :
    ∀ {lines : List (List Char)}, l ∈ lines → ∃ m, margin lines = some m ∧ m ≤ n := by
  intro lines
  -- induction from the last line, the one the fold takes last
  induction lines using List.reverseRecOn with
  | nil => intro h; cases h
  | append_singleton lines x ih =>
    intro hl
    rw [margin_append_singleton]
    rcases List.mem_append.1 hl with hl | hl
    · obtain ⟨m, hm, hle⟩ := ih hl
      rw [hm]
      cases indentOf? x with
      | none => exact ⟨m, rfl, hle⟩
      | some k => exact ⟨min k m, rfl, by omega⟩
    · rw [← List.mem_singleton.1 hl, hn]
      cases margin lines with
      | none => exact ⟨n, rfl, le_refl n⟩
      | some m => exact ⟨min n m, rfl, by omega⟩

/-- A line that holds a prompt keeps it when at most its indentation is cut off. -/
theorem prompt_infix_drop_of_le_indent {l : List Char} {n m : Nat} (hn : indentOf? l = some n)
    (hm : m ≤ n) (h : Stub.prompt <:+: l) : Stub.prompt <:+: l.drop m := by
  have hlen : n = (l.takeWhile isBlank).length := by
    have hsplit : (l.takeWhile isBlank).length + (dropBlanks l).length = l.length := by
      rw [dropBlanks, ← List.length_append, List.takeWhile_append_dropWhile]
    simp only [indentOf?] at hn
    by_cases hempty : (dropBlanks l).isEmpty = true
    · rw [if_pos hempty] at hn
      cases hn
    · rw [if_neg hempty, Option.some.injEq] at hn
      omega
  have hdrop : l.drop m = (l.takeWhile isBlank).drop m ++ dropBlanks l :=
    calc l.drop m = (l.takeWhile isBlank ++ dropBlanks l).drop m := by
          simp only [dropBlanks, List.takeWhile_append_dropWhile]
      _ = (l.takeWhile isBlank).drop m ++ dropBlanks l :=
          List.drop_append_of_le_length (by omega)
  rw [hdrop]
  exact (prompt_infix_dropBlanks h).trans (List.suffix_append _ _).isInfix

/-- A line that holds a prompt holds more than blanks. -/
theorem indentOf?_isSome_of_prompt {l : List Char} (h : Stub.prompt <:+: l) :
    ∃ n, indentOf? l = some n := by
  have hne : dropBlanks l ≠ [] := fun he => promptFree_nil (he ▸ prompt_infix_dropBlanks h)
  simp only [indentOf?]
  rw [if_neg (by simpa using hne)]
  exact ⟨_, rfl⟩

/-! ## Empty lines at the ends -/

theorem mem_dropEmptyHead {lines : List (List Char)} {l : List Char} (hl : l ∈ lines)
    (hne : l ≠ []) : l ∈ dropEmptyHead lines := by
  rw [← List.takeWhile_append_dropWhile (p := List.isEmpty) (l := lines)] at hl
  rcases List.mem_append.1 hl with ht | hd
  · exact absurd (List.isEmpty_iff.1 (List.mem_takeWhile_imp ht)) hne
  · exact hd

theorem mem_of_mem_dropEmptyHead {lines : List (List Char)} {l : List Char}
    (hl : l ∈ dropEmptyHead lines) : l ∈ lines :=
  (List.dropWhile_suffix _).subset hl

/-- A line that is not empty survives dropping the empty lines at both ends. -/
theorem mem_trimEmpty {lines : List (List Char)} {l : List Char} (hl : l ∈ lines)
    (hne : l ≠ []) : l ∈ dropEmptyHead (dropEmptyHead lines.reverse).reverse :=
  mem_dropEmptyHead (List.mem_reverse.2 (mem_dropEmptyHead (List.mem_reverse.2 hl) hne)) hne

theorem mem_of_mem_trimEmpty {lines : List (List Char)} {l : List Char}
    (hl : l ∈ dropEmptyHead (dropEmptyHead lines.reverse).reverse) : l ∈ lines :=
  List.mem_reverse.1 (mem_of_mem_dropEmptyHead (List.mem_reverse.1 (mem_of_mem_dropEmptyHead hl)))

/-! ## The cleaned text -/

/-- The lines of a docstring after its first one lose their margin, or nothing when they are all
blank. -/
def cutMargin (rest : List (List Char)) : List (List Char) :=
  match margin rest with
  | some m => rest.map (·.drop m)
  | none => rest

/-- The cleaned text: the first line without its leading blanks and the others without their
margin, less the empty lines at both ends. -/
theorem toList_clean_of_lines {doc : String} {first : List Char} {rest : List (List Char)}
    (h : linesOf (expandTabs doc.toList) = first :: rest) :
    (clean doc).toList =
      unlines (dropEmptyHead (dropEmptyHead (dropBlanks first :: cutMargin rest).reverse).reverse) := by
  unfold clean
  rw [h]
  simp only [String.toList_ofList]
  rfl

/-- Every cleaned line is a piece of the docstring after tab expansion. -/
theorem infix_of_mem_cleanedLines {doc : String} {first : List Char} {rest : List (List Char)}
    (h : linesOf (expandTabs doc.toList) = first :: rest) {l : List Char}
    (hl : l ∈ dropBlanks first :: cutMargin rest) : l <:+: expandTabs doc.toList := by
  have hline : ∀ k ∈ first :: rest, k <:+: expandTabs doc.toList := fun k hk =>
    infix_of_mem_linesOf (h ▸ hk)
  rcases List.mem_cons.1 hl with rfl | hl
  · exact (List.dropWhile_suffix _).isInfix.trans (hline first (by simp))
  · unfold cutMargin at hl
    split at hl
    · obtain ⟨k, hk, rfl⟩ := List.mem_map.1 hl
      exact (List.drop_suffix _ k).isInfix.trans (hline k (List.mem_cons_of_mem _ hk))
    · exact hline l (List.mem_cons_of_mem _ hl)

/-- A line of the docstring that holds a prompt gives a cleaned line that holds it. -/
theorem exists_cleanedLine_of_prompt {first : List Char} {rest : List (List Char)} {l : List Char}
    (hl : l ∈ first :: rest) (h : Stub.prompt <:+: l) :
    ∃ k ∈ dropBlanks first :: cutMargin rest, Stub.prompt <:+: k := by
  rcases List.mem_cons.1 hl with rfl | hl
  · exact ⟨dropBlanks l, List.mem_cons_self .., prompt_infix_dropBlanks h⟩
  · obtain ⟨n, hn⟩ := indentOf?_isSome_of_prompt h
    obtain ⟨m, hm, hle⟩ := margin_le_of_mem hn hl
    refine ⟨l.drop m, List.mem_cons_of_mem _ ?_, prompt_infix_drop_of_le_indent hn hle h⟩
    simp only [cutMargin, hm]
    exact List.mem_map_of_mem hl

/-- Cleaning a docstring neither cuts a prompt nor makes one. -/
theorem prompt_infix_clean_iff (doc : String) :
    Stub.prompt <:+: (clean doc).toList ↔ Stub.prompt <:+: doc.toList := by
  obtain ⟨first, rest, h⟩ : ∃ first rest, linesOf (expandTabs doc.toList) = first :: rest :=
    List.exists_cons_of_ne_nil (List.splitOn_ne_nil '\n' _)
  rw [toList_clean_of_lines h]
  constructor
  · -- every cleaned line is a piece of the expanded text, which holds a prompt only if the
    -- docstring does
    intro hclean
    by_contra hfree
    refine promptFree_intercalate (by decide) _ (fun l hl => ?_) hclean
    exact (promptFree_expandTabsFrom 0 _ hfree).of_piece
      (infix_of_mem_cleanedLines h (mem_of_mem_trimEmpty hl))
  · intro hdoc
    have hexp : Stub.prompt <:+: expandTabs doc.toList := prompt_infix_expandTabsFrom 0 _ hdoc
    obtain ⟨l, hl, hpl⟩ := exists_line_of_prompt_infix hexp
    rw [h] at hl
    obtain ⟨k, hk, hpk⟩ := exists_cleanedLine_of_prompt hl hpl
    have hne : k ≠ [] := fun he => promptFree_nil (he ▸ hpk)
    exact hpk.trans (infix_of_mem_intercalate (mem_trimEmpty hk hne))

end StubDoctest.Docstring

namespace StubDoctest.Stub

open StubDoctest.Source

/-- A cleaned docstring is kept exactly when the raw one holds a prompt. -/
theorem holdsExamples_clean (s : String) :
    holdsExamples (Docstring.clean s) = true ↔ prompt <:+: s.toList := by
  rw [← Docstring.prompt_infix_clean_iff]
  constructor
  · intro h
    simp only [holdsExamples, Bool.and_eq_true, decide_eq_true_eq] at h
    exact h.2
  · intro h
    have hne : (Docstring.clean s).toList ≠ [] := fun he => Reader.promptFree_nil (he ▸ h)
    simp only [holdsExamples, Bool.and_eq_true, decide_eq_true_eq]
    exact ⟨by simpa [String.isEmpty_iff, ← String.toList_eq_nil_iff] using hne, h⟩

/-- A body has a docstring exactly when its first statement is a plain string constant; the
docstring is that string cleaned. -/
theorem docstringOf_eq_some_iff {body : List Stmt} {d : String} :
    docstringOf body = some d ↔
      ∃ s rest, body = .expr (.lit (.str s)) :: rest ∧ d = Docstring.clean s := by
  constructor
  · intro h
    unfold docstringOf at h
    split at h
    · rename_i s rest
      exact ⟨s, rest, rfl, (Option.some.inj h).symm⟩
    · cases h
  · rintro ⟨s, rest, rfl, rfl⟩
    rfl

/-- The walk emits an entry for a node exactly when the first statement of the node's body is a
plain string constant (not bytes, not a formatted string) that holds a prompt; the entry carries
the cleaned string, which is not empty and still holds the prompt. -/
theorem mem_entryOf_iff (name : String) (body : List Stmt) (line : Nat) (e : Entry) :
    e ∈ entryOf name body line ↔
      ∃ s rest, body = .expr (.lit (.str s)) :: rest ∧ prompt <:+: s.toList ∧
        e = ⟨name, Docstring.clean s, line⟩ ∧ Docstring.clean s ≠ "" ∧
        prompt <:+: (Docstring.clean s).toList := by
  constructor
  · intro he
    unfold entryOf at he
    split at he
    · rename_i d hd
      split at he
      · rename_i hkeep
        obtain ⟨s, rest, rfl, rfl⟩ := docstringOf_eq_some_iff.1 hd
        have hs := (holdsExamples_clean s).1 hkeep
        have hclean := (Docstring.prompt_infix_clean_iff s).2 hs
        refine ⟨s, rest, rfl, hs, List.mem_singleton.1 he, ?_, hclean⟩
        rintro hempty
        exact Reader.promptFree_nil (by simpa [hempty] using hclean)
      · cases he
    · cases he
  · rintro ⟨s, rest, rfl, hs, rfl, -, -⟩
    simp [entryOf, docstringOf, (holdsExamples_clean s).2 hs]

end StubDoctest.Stub
