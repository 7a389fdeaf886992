/-!
# Markdown fences in a docstring

A docstring may hold its examples inside markdown code fences. A fence here is the text
"```python", a line break, one line of content (possibly empty), a line break and "```".
The content line holds no line break, so a fence spans exactly three lines of text.

`Fence.blocks` scans from the left and takes every fence that does not overlap one taken
before; `Fence.extract` joins their content lines with line breaks, or returns the docstring
unchanged when it has no fence at all.

Main statements: a taken block never contains a line break (`Fence.newline_not_mem_blocks`),
and extraction of a text without fences is the identity (`Fence.extract_of_blocks_eq_nil`).
-/

namespace StubDoctest.Fence

/-- The text that opens a fence: three backticks, the word `python` and a line break. -/
def opener : List Char := "```python\n".toList

/-- The text that closes a fence, right after the line break that ends its content. -/
def closer : List Char := "```".toList

/-- The content line and the text after the closer, for the text that follows an opener:
the content runs to the first line break, and a closer must follow that break. -/
def afterOpener (body : List Char) : Option (List Char × List Char) :=
  match body.dropWhile (· ≠ '\n') with
  | '\n' :: rest =>
    if closer.isPrefixOf rest then some (body.takeWhile (· ≠ '\n'), rest.drop closer.length)
    else none
  | _ => none

/-- The content line of a fence that starts at the head of `cs`, with the text after its
closer, if a whole fence starts there. -/
def atHead (cs : List Char) : Option (List Char × List Char) :=
  if opener.isPrefixOf cs then afterOpener (cs.drop opener.length) else none

theorem length_dropWhile_le {α : Type} (p : α → Bool) :
    ∀ l : List α, (l.dropWhile p).length ≤ l.length
  | [] => Nat.le_refl _
  | c :: cs => by
    rw [List.dropWhile_cons]
    split
    · exact Nat.le_succ_of_le (length_dropWhile_le p cs)
    · exact Nat.le_refl _

theorem length_afterOpener_lt {body line rest : List Char}
    (h : afterOpener body = some (line, rest)) : rest.length < body.length := by
  unfold afterOpener at h
  have hd := length_dropWhile_le (· ≠ '\n') body
  split at h
  · rename_i r hr
    split at h
    · simp only [Option.some.injEq, Prod.mk.injEq] at h
      obtain ⟨-, rfl⟩ := h
      rw [hr] at hd
      simp only [List.length_cons, List.length_drop] at hd ⊢
      omega
    · exact absurd h (by simp)
  · exact absurd h (by simp)

theorem newline_not_mem_of_afterOpener {body line rest : List Char}
    (h : afterOpener body = some (line, rest)) : '\n' ∉ line := by
  unfold afterOpener at h
  split at h
  · split at h
    · simp only [Option.some.injEq, Prod.mk.injEq] at h
      obtain ⟨rfl, -⟩ := h
      intro hm
      have := List.all_eq_true.1 (List.all_takeWhile (p := (· ≠ '\n')) (l := body)) _ hm
      simp at this
    · exact absurd h (by simp)
  · exact absurd h (by simp)

/-- What follows a fence is shorter than the text the fence starts. -/
theorem length_atHead_lt {cs line rest : List Char} (h : atHead cs = some (line, rest)) :
    rest.length < cs.length := by
  unfold atHead at h
  split at h
  · have := length_afterOpener_lt h
    simp only [List.length_drop] at this
    omega
  · exact absurd h (by simp)

theorem newline_not_mem_of_atHead {cs line rest : List Char}
    (h : atHead cs = some (line, rest)) : '\n' ∉ line := by
  unfold atHead at h
  split at h
  · exact newline_not_mem_of_afterOpener h
  · exact absurd h (by simp)

/-- The content lines of the fences of `cs`, scanning from the left: where a whole fence
starts, its line is taken and the scan goes on after its closer; elsewhere it moves one
character on. -/
def blocks : List Char → List (List Char)
  | [] => []
  | c :: cs =>
    match h : atHead (c :: cs) with
    | some (body, rest) =>
      have : rest.length < cs.length + 1 := by
        have := length_atHead_lt h
        simpa using this
      body :: blocks rest
    | none => blocks cs
termination_by cs => cs.length

/-- The examples' text of a docstring: the content lines of its fences joined by line
breaks, or the whole docstring when it has none. -/
def extract (doc : String) : String :=
  match blocks doc.toList with
  | [] => doc
  | b :: bs => "\n".intercalate ((b :: bs).map String.ofList)

/-- No block taken from a docstring holds a line break. -/
theorem newline_not_mem_blocks : ∀ (cs b : List Char), b ∈ blocks cs → '\n' ∉ b
  | [], b, hb => by simp [blocks] at hb
  | c :: cs, b, hb => by
    rw [blocks] at hb
    split at hb
    · rename_i body rest h
      rcases List.mem_cons.1 hb with rfl | hb
      · exact newline_not_mem_of_atHead h
      · have : rest.length < cs.length + 1 := by
          have := length_atHead_lt h
          simpa using this
        exact newline_not_mem_blocks rest b hb
    · exact newline_not_mem_blocks cs b hb
termination_by cs => cs.length

/-- A docstring without a fence is its own examples' text. -/
theorem extract_of_blocks_eq_nil {doc : String} (h : blocks doc.toList = []) :
    extract doc = doc := by
  simp [extract, h]

end StubDoctest.Fence
