import StubDoctest.Doc.Fence

/-!
# The fence scan, position by position

The markdown step reads a docstring the way a leftmost, non-overlapping regular-expression
search reads it. A fence opens at a position `p` when the text from `p` on is the opener, a
content line without a line break, a line break and a closer (`FenceAt`): the content runs
to the first line break after the opener, and a closer must follow that break. The search
(`Scan`) starts at position 0, takes the leftmost fence at or after the current position and
goes on right after its closer; when no fence opens at or after the current position it ends.

Main statements: the blocks of a text are exactly what the search finds (`scan_iff_blocks`),
and extracting the examples' text keeps the docstring when the search finds nothing and
otherwise joins the found content lines with line breaks, so that the result splits at its
line breaks back into those lines, one line break fewer than lines (`extract_eq_scan_join`).
-/

set_option autoImplicit false

namespace StubDoctest.Fence

/-! ## Fences by position -/

/-- A whole fence opens at position `p` of `cs` with content line `line`: from `p` on, `cs`
reads the opener, `line`, a line break and a closer, and `line` holds no line break, so that
the line break after it is the first one after the opener. -/
def FenceAt (cs : List Char) (p : Nat) (line : List Char) : Prop :=
  ∃ after, cs.drop p = opener ++ line ++ '\n' :: after ∧ '\n' ∉ line ∧ closer <+: after

/-- The position right after the closer of a fence at `p` with content line `line`. -/
def resumeAt (p : Nat) (line : List Char) : Nat :=
  p + opener.length + line.length + 1 + closer.length

/-- The leftmost, non-overlapping search for fences from position `i`, with the content lines
it finds in order. -/
inductive Scan (cs : List Char) : Nat → List (List Char) → Prop
  /-- No fence opens at or after `i`: the search ends. -/
  | done {i : Nat} : (∀ p line, i ≤ p → ¬ FenceAt cs p line) → Scan cs i []
  /-- The leftmost fence at or after `i` opens at `p`; the search goes on after its closer. -/
  | found {i p : Nat} {line : List Char} {lines : List (List Char)} : i ≤ p → FenceAt cs p line →
      (∀ p' line', i ≤ p' → p' < p → ¬ FenceAt cs p' line') →
      Scan cs (resumeAt p line) lines → Scan cs i (line :: lines)

/-! ## A fence at the head of a text -/

/-- The part of a text up to its first line break, for a text that is a line without line
breaks, a line break and more. -/
theorem takeWhile_ne_newline {line after : List Char} (h : '\n' ∉ line) :
    (line ++ '\n' :: after).takeWhile (· ≠ '\n') = line := by
  have hall : ∀ c ∈ line, decide (c ≠ '\n') = true := fun c hc =>
    decide_eq_true fun hc' => h (hc' ▸ hc)
  rw [List.takeWhile_append_of_pos hall, List.takeWhile_cons_of_neg (by simp), List.append_nil]

theorem dropWhile_ne_newline_append {line after : List Char} (h : '\n' ∉ line) :
    (line ++ '\n' :: after).dropWhile (· ≠ '\n') = '\n' :: after := by
  have hall : ∀ c ∈ line, decide (c ≠ '\n') = true := fun c hc =>
    decide_eq_true fun hc' => h (hc' ▸ hc)
  rw [List.dropWhile_append_of_pos hall, List.dropWhile_cons_of_neg (by simp)]

/-- What follows an opener makes a fence exactly when it is a line without line breaks, a
line break and a closer; the text after the closer is what is left. -/
theorem afterOpener_eq_some_iff {body line rest : List Char} :
    afterOpener body = some (line, rest) ↔
      ∃ after, body = line ++ '\n' :: after ∧ '\n' ∉ line ∧ closer <+: after ∧
        rest = after.drop closer.length := by
  constructor
  · intro h
    have hline := newline_not_mem_of_afterOpener h
    unfold afterOpener at h
    split at h
    · rename_i after hdrop
      split at h
      · rename_i hclose
        simp only [Option.some.injEq, Prod.mk.injEq] at h
        obtain ⟨rfl, rfl⟩ := h
        refine ⟨after, ?_, hline, List.isPrefixOf_iff_prefix.1 hclose, rfl⟩
        rw [← hdrop, List.takeWhile_append_dropWhile]
      · cases h
    · cases h
  · rintro ⟨after, rfl, hline, hclose, rfl⟩
    unfold afterOpener
    rw [dropWhile_ne_newline_append hline, takeWhile_ne_newline hline]
    simp [List.isPrefixOf_iff_prefix.2 hclose]

/-- A fence starts at the head of a text exactly when the text is the opener, a content line
without line breaks, a line break and a closer; the text after the closer is what is left. -/
theorem atHead_eq_some_iff {cs line rest : List Char} :
    atHead cs = some (line, rest) ↔
      ∃ after, cs = opener ++ line ++ '\n' :: after ∧ '\n' ∉ line ∧ closer <+: after ∧
        rest = after.drop closer.length := by
  unfold atHead
  constructor
  · intro h
    split at h
    · rename_i hopen
      obtain ⟨after, hbody, hline, hclose, hrest⟩ := afterOpener_eq_some_iff.1 h
      refine ⟨after, ?_, hline, hclose, hrest⟩
      rw [List.append_assoc, ← hbody]
      exact (List.prefix_iff_eq_append.1 (List.isPrefixOf_iff_prefix.1 hopen)).symm
    · cases h
  · rintro ⟨after, rfl, hline, hclose, rfl⟩
    have hopen : opener.isPrefixOf (opener ++ line ++ '\n' :: after) = true := by
      rw [List.isPrefixOf_iff_prefix, List.append_assoc]
      exact List.prefix_append _ _
    rw [if_pos hopen, List.append_assoc, List.drop_left]
    exact afterOpener_eq_some_iff.2 ⟨after, rfl, hline, hclose, rfl⟩

/-- The search resumes where the text after a fence's closer starts. -/
theorem drop_resumeAt {cs : List Char} {p : Nat} {line after : List Char}
    (hcs : cs.drop p = opener ++ line ++ '\n' :: after) :
    cs.drop (resumeAt p line) = after.drop closer.length := by
  have hskip : cs.drop (p + (opener ++ line ++ ['\n']).length) = after := by
    rw [← List.drop_drop, hcs]
    simp
  rw [resumeAt, ← hskip, List.drop_drop]
  simp only [List.length_append, List.length_singleton]
  congr 1
  omega

/-- A fence opens at `p` exactly when one starts at the head of the text from `p`, and the
text after its closer is the text from the position the search resumes at. -/
theorem atHead_drop_eq_some_iff {cs : List Char} {p : Nat} {line rest : List Char} :
    atHead (cs.drop p) = some (line, rest) ↔
      FenceAt cs p line ∧ rest = cs.drop (resumeAt p line) := by
  rw [atHead_eq_some_iff]
  constructor
  · rintro ⟨after, hcs, hline, hclose, rfl⟩
    exact ⟨⟨after, hcs, hline, hclose⟩, (drop_resumeAt hcs).symm⟩
  · rintro ⟨⟨after, hcs, hline, hclose⟩, rfl⟩
    exact ⟨after, hcs, hline, hclose, drop_resumeAt hcs⟩

theorem atHead_drop_eq_none_iff {cs : List Char} {p : Nat} :
    atHead (cs.drop p) = none ↔ ∀ line, ¬ FenceAt cs p line := by
  constructor
  · intro h line hf
    have := atHead_drop_eq_some_iff.2 ⟨hf, rfl⟩
    rw [h] at this
    cases this
  · intro h
    cases hat : atHead (cs.drop p) with
    | none => rfl
    | some r => exact absurd (atHead_drop_eq_some_iff.1 hat).1 (h r.1)

/-- A fence at a position has one content line: the text up to the first line break after the
opener. -/
theorem FenceAt.line_unique {cs : List Char} {p : Nat} {l₁ l₂ : List Char}
    (h₁ : FenceAt cs p l₁) (h₂ : FenceAt cs p l₂) : l₁ = l₂ := by
  obtain ⟨a₁, hcs₁, hl₁, -⟩ := h₁
  obtain ⟨a₂, hcs₂, hl₂, -⟩ := h₂
  rw [hcs₁, List.append_assoc, List.append_assoc] at hcs₂
  have hrest := List.append_cancel_left hcs₂
  calc l₁ = (l₁ ++ '\n' :: a₁).takeWhile (· ≠ '\n') := (takeWhile_ne_newline hl₁).symm
    _ = (l₂ ++ '\n' :: a₂).takeWhile (· ≠ '\n') := by rw [hrest]
    _ = l₂ := takeWhile_ne_newline hl₂

/-- No fence opens past the end of a text. -/
theorem not_fenceAt_of_length_le {cs : List Char} {p : Nat} {line : List Char}
    (hp : cs.length ≤ p) : ¬ FenceAt cs p line := by
  rintro ⟨after, hcs, -, -⟩
  rw [List.drop_eq_nil_of_le hp] at hcs
  have hlen := congrArg List.length hcs
  simp only [List.length_nil, List.length_append, List.length_cons] at hlen
  omega

/-! ## The search -/

/-- Where no fence opens, the search from the next position is the search from here. -/
theorem Scan.of_succ {cs : List Char} {i : Nat} {lines : List (List Char)}
    (hnone : ∀ line, ¬ FenceAt cs i line) (h : Scan cs (i + 1) lines) : Scan cs i lines := by
  cases h with
  | done hdone =>
    refine .done fun p line hp => ?_
    rcases Nat.eq_or_lt_of_le hp with rfl | hp
    · exact hnone line
    · exact hdone p line hp
  | found hp hf hmin hrest =>
    refine .found (by omega) hf (fun p' line' hp' hlt => ?_) hrest
    rcases Nat.eq_or_lt_of_le hp' with rfl | hp'
    · exact hnone line'
    · exact hmin p' line' hp' hlt

/-- The blocks of the text from `i` on are what the search from `i` finds. -/
theorem scan_blocks (cs : List Char) :
    ∀ (l : List Char) (i : Nat), cs.drop i = l → Scan cs i (blocks l) := by
  intro l
  -- induction along the recursion of the scanner over the rest of the text
  fun_induction blocks l with
  | case1 =>
    intro i hi
    exact .done fun p line hp => not_fenceAt_of_length_le (by
      have := List.drop_eq_nil_iff.1 hi
      omega)
  | case2 c rest line after hat _ ih =>
    intro i hi
    obtain ⟨hf, hafter⟩ := atHead_drop_eq_some_iff.1 (hi ▸ hat)
    exact .found (Nat.le_refl i) hf (fun p' line' hp' hlt => absurd hlt (by omega))
      (ih _ hafter.symm)
  | case3 c rest hat ih =>
    intro i hi
    have hnone := atHead_drop_eq_none_iff.1 (hi ▸ hat)
    have hnext : cs.drop (i + 1) = rest := by
      rw [← List.drop_drop, hi]
      rfl
    exact Scan.of_succ hnone (ih (i + 1) hnext)

/-- The search finds one list of blocks: the leftmost fence is one position, its content line
is fixed by that position, and so is where the search goes on. -/
theorem Scan.unique {cs : List Char} {i : Nat} {l₁ l₂ : List (List Char)}
    (h₁ : Scan cs i l₁) (h₂ : Scan cs i l₂) : l₁ = l₂ := by
  induction h₁ generalizing l₂ with
  | done hdone =>
    cases h₂ with
    | done => rfl
    | found hp hf => exact absurd hf (hdone _ _ hp)
  | @found i p line lines hp hf hmin _ ih =>
    cases h₂ with
    | done hdone => exact absurd hf (hdone _ _ hp)
    | @found _ p' line' lines' hp' hf' hmin' hrest' =>
      -- neither fence can lie before the other, both being leftmost
      have hpp : p = p' := by
        rcases Nat.lt_trichotomy p p' with hlt | heq | hgt
        · exact absurd hf (hmin' p line hp hlt)
        · exact heq
        · exact absurd hf' (hmin p' line' hp' hgt)
      subst hpp
      have hline : line = line' := hf.line_unique hf'
      subst hline
      rw [ih hrest']

/-- The search from the start of a text finds exactly the text's blocks. -/
theorem scan_iff_blocks (cs : List Char) (lines : List (List Char)) :
    Scan cs 0 lines ↔ lines = blocks cs := by
  have hblocks : Scan cs 0 (blocks cs) := scan_blocks cs cs 0 (List.drop_zero)
  exact ⟨fun h => h.unique hblocks, fun h => h ▸ hblocks⟩

/-! ## The examples' text -/

/-- Lines without a separator, joined by it, hold one separator fewer than there are lines. -/
theorem count_intercalate {x : Char} :
    ∀ {ls : List (List Char)}, (∀ l ∈ ls, x ∉ l) → ([x].intercalate ls).count x = ls.length - 1
  | [], _ => rfl
  | [l], h => by simpa using List.count_eq_zero.2 (h l (by simp))
  | l :: l' :: ls, h => by
    have hl : l.count x = 0 := List.count_eq_zero.2 (h l (by simp))
    have ih : ([x].intercalate (l' :: ls)).count x = ls.length :=
      count_intercalate fun m hm => h m (List.mem_cons_of_mem _ hm)
    rw [List.intercalate_cons_cons, List.count_append, List.count_append, hl, ih]
    simp
    omega

theorem toList_extract_of_ne_nil {doc : String} (h : blocks doc.toList ≠ []) :
    (extract doc).toList = ['\n'].intercalate (blocks doc.toList) := by
  unfold extract
  split
  · contradiction
  · rename_i b bs hb
    rw [String.toList_intercalate, List.map_map]
    have hid : String.toList ∘ String.ofList = id := funext fun cs => String.toList_ofList
    rw [hid, List.map_id, ← hb]
    rfl

/-- The examples' text of a docstring is the docstring itself when the search finds no fence,
and otherwise the content lines it finds joined by line breaks: the result then has one line
break fewer than there are lines, and splits at its line breaks back into exactly those
lines. -/
theorem extract_eq_scan_join (doc : String) :
    ∃ lines, (∀ lines', Scan doc.toList 0 lines' ↔ lines' = lines) ∧
      (lines = [] → extract doc = doc) ∧
      (lines ≠ [] →
        extract doc = "\n".intercalate (lines.map String.ofList) ∧
        (extract doc).toList.count '\n' = lines.length - 1 ∧
        (extract doc).toList.splitOn '\n' = lines) := by
  refine ⟨blocks doc.toList, fun lines' => scan_iff_blocks _ lines', extract_of_blocks_eq_nil,
    fun hne => ?_⟩
  have hnl : ∀ l ∈ blocks doc.toList, '\n' ∉ l := newline_not_mem_blocks doc.toList
  refine ⟨?_, ?_, ?_⟩
  · unfold extract
    split
    · contradiction
    · rename_i b bs hb
      rw [hb]
  · rw [toList_extract_of_ne_nil hne]
    exact count_intercalate hnl
  · rw [toList_extract_of_ne_nil hne]
    exact List.splitOn_intercalate '\n' hnl hne

end StubDoctest.Fence
