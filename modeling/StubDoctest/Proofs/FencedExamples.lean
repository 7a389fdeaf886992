import Mathlib.Data.List.Infix
import StubDoctest.Example.Parse

/-!
# Examples written inside markdown fences

The markdown step reads a fence's content up to the first line break after the opener, and
takes the fence only when a closer follows that break. So a fence whose content spans lines,
and holds no line break followed by a closer, is never taken where it opens
(`atHead_eq_none_of_multiline`), whatever follows it. A docstring none of whose fences is taken
is parsed whole, fence lines included, so an example whose expected output runs up to the
closing fence expects that fence as well (`fencedExample_expects_closing_fence`).
-/

set_option autoImplicit false

namespace StubDoctest.Fence

/-- A line break is no part of a closer. -/
theorem newline_not_mem_closer : '\n' ∉ closer := by decide

/-- What follows a line break inside a fence's content cannot start with a closer, unless the
content holds a line break followed by a closer. -/
theorem not_closer_prefix_after_break {rest after : List Char}
    (hrest : ¬ closer <+: rest) : ¬ closer <+: rest ++ '\n' :: after := by
  intro h
  rcases List.prefix_or_prefix_of_prefix h (List.prefix_append rest ('\n' :: after)) with
    hc | ⟨t, ht⟩
  · exact hrest hc
  · -- the closer is `rest` and then more; that more would start with the line break
    rw [← ht, List.prefix_append_right_inj] at h
    cases t with
    | nil => exact hrest ⟨[], by simp [← ht]⟩
    | cons c t =>
      obtain ⟨rfl, -⟩ := List.cons_prefix_cons.1 h
      exact newline_not_mem_closer (by simp [← ht])

/-- Text holding a line break runs, up to its first one, to that line break. -/
theorem dropWhile_ne_newline : ∀ {cs : List Char}, '\n' ∈ cs →
    ∃ rest, cs.dropWhile (· ≠ '\n') = '\n' :: rest
  | c :: cs, h => by
    by_cases hc : c = '\n'
    · exact ⟨cs, by rw [List.dropWhile_cons, if_neg (by simp [hc]), hc]⟩
    · have hcs : '\n' ∈ cs := by
        rcases List.mem_cons.1 h with h | h
        · exact absurd h.symm hc
        · exact h
      obtain ⟨rest, hrest⟩ := dropWhile_ne_newline hcs
      exact ⟨rest, by rw [List.dropWhile_cons, if_pos (by simpa using hc), hrest]⟩

/-- A fence whose content spans lines, and holds no line break followed by a closer, is not
taken where it opens: the content's first line is not followed by a closer. -/
theorem atHead_eq_none_of_multiline {content after : List Char} (hnl : '\n' ∈ content)
    (hclose : ¬ '\n' :: closer <:+: content) :
    atHead (opener ++ content ++ '\n' :: closer ++ after) = none := by
  have hopen : opener.isPrefixOf (opener ++ content ++ '\n' :: closer ++ after) = true := by
    rw [List.isPrefixOf_iff_prefix, List.append_assoc, List.append_assoc]
    exact List.prefix_append _ _
  -- the content's first line break is where the content runs to
  obtain ⟨rest, hrest⟩ := dropWhile_ne_newline hnl
  have hsuffix : '\n' :: rest <:+ content := hrest ▸ List.dropWhile_suffix _
  have hnot : ¬ closer <+: rest := fun h =>
    hclose ((List.cons_prefix_cons.2 ⟨rfl, h⟩).isInfix.trans hsuffix.isInfix)
  unfold atHead afterOpener
  rw [if_pos hopen, List.append_assoc, List.append_assoc, List.drop_left, List.dropWhile_append,
    hrest]
  simp only [List.isEmpty_cons, Bool.false_eq_true, if_false, List.cons_append]
  rw [if_neg]
  rw [List.isPrefixOf_iff_prefix]
  exact not_closer_prefix_after_break hnot

/-- The fence around the two lines `>>> 1` and `1` is not taken. -/
theorem atHead_eq_none_of_two_line_fence :
    '\n' ∈ ">>> 1\n1".toList ∧ ¬ '\n' :: closer <:+: ">>> 1\n1".toList ∧
      atHead (opener ++ ">>> 1\n1".toList ++ '\n' :: closer ++ []) = none :=
  ⟨by decide, by decide, atHead_eq_none_of_multiline (by decide) (by decide)⟩

end StubDoctest.Fence

namespace StubDoctest

/-- A fenced example whose expected output runs up to the closing fence: read from the fence's
content alone it expects `1`, but the docstring's only fence spans lines, so no fence is taken,
and read from the whole docstring it expects `1` and then the closing fence. -/
theorem fencedExample_expects_closing_fence :
    ((Reader.readExamples "f" ">>> 1\n1").toOption.map
        (·.map fun ex => (ex.source, ex.want, ex.excMsg))) =
      some [("1\n", "1\n", none)] ∧
    ((Block.ofDocstring "f" "mod.pyi" (some 1) "```python\n>>> 1\n1\n```").toOption.map
        (·.examples.map fun ex => (ex.source, ex.want, ex.excMsg))) =
      some [("1\n", "1\n```\n", none)] := by
  decide +kernel

end StubDoctest
