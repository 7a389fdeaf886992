import StubDoctest.Example.Parse
import StubDoctest.Stub.Collect

/-!
# Docstrings without a prompt

A docstring in which `>>>` never occurs is read as a block without examples, and reading it
never faults. Nothing on the way to the examples' reader can make a prompt: the markdown step
keeps the docstring or joins pieces of it with line breaks, tab expansion only turns tabs into
spaces, and the reader's lines are pieces of the expanded text with their common indentation
cut off. The reader starts an example only at a line that holds a prompt.

Main statement: `ofDocstring_of_promptFree`.
-/

set_option autoImplicit false

namespace StubDoctest.Reader

open StubDoctest.Text

/-! ## Texts without a prompt -/

/-- A text without a prompt `>>>` in it. -/
def PromptFree (cs : List Char) : Prop := ¬ Stub.prompt <:+: cs

theorem prompt_eq_replicate : Stub.prompt = List.replicate 3 '>' := rfl

theorem PromptFree.of_piece {a b : List Char} (hb : PromptFree b) (hab : a <:+: b) :
    PromptFree a :=
  fun ha => hb (ha.trans hab)

theorem promptFree_nil : PromptFree [] := by
  intro h
  simpa [prompt_eq_replicate] using h.length_le

/-- A character other than `>` splits every prompt-free text around it. -/
theorem promptFree_append_cons {a b : List Char} {x : Char} (hx : x ≠ '>')
    (ha : PromptFree a) (hb : PromptFree b) : PromptFree (a ++ x :: b) := by
  intro h
  rcases List.infix_append_iff.1 h with h | h | ⟨l₁, l₂, hl, hl₁, hl₂⟩
  · exact ha h
  · rcases List.infix_cons_iff.1 h with h | h
    · rw [prompt_eq_replicate] at h
      exact hx (List.cons_prefix_cons.1 h).1.symm
    · exact hb h
  · cases l₂ with
    | nil =>
      rw [List.append_nil] at hl
      exact ha (hl ▸ hl₁.isInfix)
    | cons y l₂ =>
      have hy : y = x := (List.cons_prefix_cons.1 hl₂).1
      have hmem : y ∈ Stub.prompt := by simp [hl]
      rw [prompt_eq_replicate, List.mem_replicate] at hmem
      exact hx (hy ▸ hmem.2)

theorem promptFree_intercalate {x : Char} (hx : x ≠ '>') :
    ∀ ls : List (List Char), (∀ l ∈ ls, PromptFree l) → PromptFree ([x].intercalate ls)
  | [], _ => promptFree_nil
  | [l], h => by simpa using h l (by simp)
  | l :: l' :: ls, h => by
    rw [List.intercalate_cons_cons, List.append_assoc, List.singleton_append]
    exact promptFree_append_cons hx (h l (by simp))
      (promptFree_intercalate hx (l' :: ls) fun m hm => h m (List.mem_cons_of_mem _ hm))

/-! ## Tab expansion -/

theorem promptFree_replicate_space_append {n : Nat} {cs : List Char} (h : PromptFree cs) :
    PromptFree (List.replicate n ' ' ++ cs) := by
  induction n with
  | zero => simpa using h
  | succ n ih =>
    rw [List.replicate_succ, List.cons_append]
    exact promptFree_append_cons (a := []) (by decide) promptFree_nil ih

/-- A run of `>` that starts the text after tab expansion starts the text before it. -/
theorem replicate_prefix_of_expandTabsFrom (n : Nat) :
    ∀ (col : Nat) (cs : List Char), List.replicate n '>' <+: expandTabsFrom col cs →
      List.replicate n '>' <+: cs := by
  induction n with
  | zero => intros; exact List.nil_prefix
  | succ n ih =>
    intro col cs h
    cases cs with
    | nil => simp [expandTabsFrom] at h
    | cons c cs =>
      rw [List.replicate_succ] at h ⊢
      unfold expandTabsFrom at h
      split at h
      · -- A tab becomes at least one space, never a mark.
        have hw : tabWidth - col % tabWidth = (tabWidth - col % tabWidth - 1) + 1 := by
          simp only [tabWidth]; omega
        dsimp only at h
        rw [hw, List.replicate_succ, List.cons_append] at h
        exact absurd (List.cons_prefix_cons.1 h).1 (by decide)
      · split at h <;>
        · obtain ⟨rfl, hrest⟩ := List.cons_prefix_cons.1 h
          exact List.cons_prefix_cons.2 ⟨rfl, ih _ cs hrest⟩

/-- Tab expansion puts no prompt into a text. -/
theorem promptFree_expandTabsFrom :
    ∀ (col : Nat) (cs : List Char), PromptFree cs → PromptFree (expandTabsFrom col cs)
  | _, [], _ => by simpa [expandTabsFrom] using promptFree_nil
  | col, c :: cs, h => by
    have hcs : PromptFree cs := h.of_piece (List.suffix_cons c cs).isInfix
    intro hp
    unfold expandTabsFrom at hp
    split at hp
    · exact promptFree_replicate_space_append (promptFree_expandTabsFrom _ cs hcs) hp
    · -- The prompt either starts at `c` or lies in the expansion of the rest.
      have hcases : ∀ col', Stub.prompt <:+: c :: expandTabsFrom col' cs →
          Stub.prompt <:+: c :: cs := fun col' hp' => by
        rcases List.infix_cons_iff.1 hp' with hpre | hin
        · rw [prompt_eq_replicate, List.replicate_succ] at hpre ⊢
          obtain ⟨rfl, hrest⟩ := List.cons_prefix_cons.1 hpre
          exact (List.cons_prefix_cons.2
            ⟨rfl, replicate_prefix_of_expandTabsFrom 2 col' cs hrest⟩).isInfix
        · exact (promptFree_expandTabsFrom col' cs hcs hin).elim
      split at hp
      · exact h (hcases 0 hp)
      · exact h (hcases (col + 1) hp)

/-! ## The reader's lines -/

theorem infix_of_mem_intercalate {x : Char} :
    ∀ {ls : List (List Char)} {l : List Char}, l ∈ ls → l <:+: [x].intercalate ls
  | [], _, h => absurd h List.not_mem_nil
  | [m], l, h => by
    rw [List.mem_singleton.1 h]
    simp
  | m :: m' :: ls, l, h => by
    rw [List.intercalate_cons_cons]
    rcases List.mem_cons.1 h with rfl | h
    · exact List.infix_append_left.trans (List.infix_append_left)
    · exact (infix_of_mem_intercalate h).trans List.infix_append_right

/-- Every line of a text is a piece of it. -/
theorem infix_of_mem_linesOf {cs l : List Char} (h : l ∈ linesOf cs) : l <:+: cs := by
  have hjoin : ['\n'].intercalate (cs.splitOn '\n') = cs := List.intercalate_splitOn '\n'
  rw [← hjoin]
  exact infix_of_mem_intercalate h

/-- Each prepared line of a docstring is a piece of its text after tab expansion. -/
theorem infix_of_mem_preparedLines {doc : String} {l : List Char}
    (h : l ∈ (preparedLines doc).1) : l <:+: expandTabs doc.toList := by
  simp only [preparedLines] at h
  split at h
  · obtain ⟨m, hm, rfl⟩ := List.mem_map.1 h
    exact (List.drop_suffix _ m).isInfix.trans (infix_of_mem_linesOf hm)
  · exact infix_of_mem_linesOf h

theorem isPromptLine_eq_false {l : List Char} (h : PromptFree l) : isPromptLine l = false := by
  rw [isPromptLine, Bool.eq_false_iff]
  intro hp
  have hpre : Stub.prompt <+: l.dropWhile (· = ' ') := List.isPrefixOf_iff_prefix.1 hp
  exact h (hpre.isInfix.trans (List.dropWhile_suffix _).isInfix)

/-- Without a prompt line the reader finds no example and no fault. -/
theorem readLines_go_of_no_prompt (name : String) (base : Nat) :
    ∀ (fuel line : Nat) (ls : List (List Char)), (∀ l ∈ ls, isPromptLine l = false) →
      readLines.go name base fuel line ls = .ok []
  | 0, _, _, _ => by simp [readLines.go]
  | _ + 1, _, [], _ => by simp [readLines.go]
  | fuel + 1, line, l :: ls, h => by
    rw [readLines.go, if_neg (by simp [h l (List.mem_cons_self ..)])]
    exact readLines_go_of_no_prompt name base fuel (line + 1) ls
      fun m hm => h m (List.mem_cons_of_mem _ hm)

/-- A docstring without a prompt holds no examples. -/
theorem readExamples_of_promptFree {name doc : String} (h : PromptFree doc.toList) :
    readExamples name doc = .ok [] := by
  have hlines : ∀ l ∈ (preparedLines doc).1, isPromptLine l = false := fun l hl =>
    isPromptLine_eq_false
      ((promptFree_expandTabsFrom 0 _ h).of_piece (infix_of_mem_preparedLines hl))
  unfold readExamples readLines
  exact readLines_go_of_no_prompt name _ _ 0 _ hlines

end StubDoctest.Reader

/-! ## Markdown fences -/

namespace StubDoctest.Fence

theorem pieces_of_afterOpener {body line rest : List Char}
    (h : afterOpener body = some (line, rest)) : line <+: body ∧ rest <:+ body := by
  unfold afterOpener at h
  split at h
  · rename_i r hr
    split at h
    · simp only [Option.some.injEq, Prod.mk.injEq] at h
      obtain ⟨rfl, rfl⟩ := h
      refine ⟨List.takeWhile_prefix _, ?_⟩
      have hsuf : '\n' :: r <:+ body := hr ▸ List.dropWhile_suffix _
      exact (List.drop_suffix _ r).trans ((List.suffix_cons '\n' r).trans hsuf)
    · cases h
  · cases h

/-- A fence's content and the text after it are pieces of the text the fence starts. -/
theorem pieces_of_atHead {cs line rest : List Char} (h : atHead cs = some (line, rest)) :
    line <:+: cs ∧ rest <:+ cs := by
  unfold atHead at h
  split at h
  · obtain ⟨hline, hrest⟩ := pieces_of_afterOpener h
    have hdrop : cs.drop opener.length <:+ cs := List.drop_suffix _ cs
    exact ⟨hline.isInfix.trans hdrop.isInfix, hrest.trans hdrop⟩
  · cases h

/-- Every block taken from a text is a piece of it. -/
theorem infix_of_mem_blocks : ∀ (cs b : List Char), b ∈ blocks cs → b <:+: cs
  | [], b, hb => by simp [blocks] at hb
  | c :: cs, b, hb => by
    rw [blocks] at hb
    split at hb
    · rename_i body rest h
      have : rest.length < cs.length + 1 := by
        have := length_atHead_lt h
        simpa using this
      obtain ⟨hbody, hrest⟩ := pieces_of_atHead h
      rcases List.mem_cons.1 hb with rfl | hb
      · exact hbody
      · exact (infix_of_mem_blocks rest b hb).trans hrest.isInfix
    · exact (infix_of_mem_blocks cs b hb).trans (List.suffix_cons c cs).isInfix
termination_by cs => cs.length

end StubDoctest.Fence

namespace StubDoctest.Reader

/-! ## Blocks of prompt-free docstrings -/

/-- Extracting the fences of a docstring puts no prompt into it: the result is the docstring
itself or its fences' contents, each a piece of it, joined by line breaks. -/
theorem promptFree_extract {doc : String} (h : PromptFree doc.toList) :
    PromptFree (Fence.extract doc).toList := by
  unfold Fence.extract
  split
  · exact h
  · rename_i b bs hb
    rw [String.toList_intercalate, List.map_map]
    have hid : String.toList ∘ String.ofList = id := funext fun cs => String.toList_ofList
    rw [hid, List.map_id, ← hb]
    exact promptFree_intercalate (by decide) _ fun l hl =>
      h.of_piece (Fence.infix_of_mem_blocks _ l hl)

/-- A docstring without a prompt is read as a block without examples, and never faults. -/
theorem ofDocstring_of_promptFree {name file : String} {line : Option Int} {doc : String}
    (h : PromptFree doc.toList) :
    Block.ofDocstring name file line doc =
      .ok { name, file, line, docstring := Fence.extract doc, examples := [] } := by
  simp only [Block.ofDocstring, readExamples_of_promptFree (promptFree_extract h)]

/-- A docstring the walk does not keep holds no prompt. -/
theorem promptFree_of_holdsExamples_eq_false {doc : String}
    (h : Stub.holdsExamples doc = false) : PromptFree doc.toList := by
  rw [Stub.holdsExamples, Bool.and_eq_false_iff] at h
  rcases h with h | h
  · have hempty : doc = "" := by simpa using h
    rw [hempty]
    exact promptFree_nil
  · simpa [PromptFree] using h

end StubDoctest.Reader

