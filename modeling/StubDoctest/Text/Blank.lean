/-!
# Blank characters

The blank characters of the Unicode standard (version 14) as text processing sees them: the
ASCII tab, line feed, vertical tab, form feed and carriage return, the four information
separators U+001C to U+001F, the space, the next-line character, and the Unicode space
separators and line and paragraph separators.

On top of the class: stripping blanks from the ends of a text, and splitting a text into its
blank-separated words.
-/

namespace StubDoctest.Text

/-- Whether `c` is a blank character. -/
def isBlank (c : Char) : Bool :=
  let n := c.toNat
  (0x09 ≤ n ∧ n ≤ 0x0d) || (0x1c ≤ n ∧ n ≤ 0x20) || n == 0x85 || n == 0xa0 || n == 0x1680 ||
    (0x2000 ≤ n ∧ n ≤ 0x200a) || n == 0x2028 || n == 0x2029 || n == 0x202f || n == 0x205f ||
    n == 0x3000

/-- Every character that core calls whitespace is blank. -/
theorem isBlank_of_isWhitespace {c : Char} (h : c.isWhitespace = true) : isBlank c = true := by
  simp only [Char.isWhitespace, Bool.or_eq_true, decide_eq_true_eq] at h
  rcases h with ((h | h) | h) | h <;> subst h <;> decide

/-- The characters of `cs` without its leading blanks. -/
def dropBlanks (cs : List Char) : List Char := cs.dropWhile isBlank

/-- What is left after the leading blanks starts with a character that is not blank. -/
theorem dropBlanks_head {c : Char} {rest : List Char} :
    ∀ {cs : List Char}, dropBlanks cs = c :: rest → isBlank c = false
  | [], h => by simp [dropBlanks] at h
  | d :: ds, h => by
    unfold dropBlanks at h
    rw [List.dropWhile_cons] at h
    split at h
    · exact dropBlanks_head h
    · next hd =>
      obtain ⟨rfl, -⟩ := List.cons.inj h
      simpa using hd

/-- The characters of `cs` without its trailing blanks. -/
def dropTrailingBlanks (cs : List Char) : List Char :=
  (cs.reverse.dropWhile isBlank).reverse

/-- `s` without leading blanks. -/
def trimLeft (s : String) : String := String.ofList (dropBlanks s.toList)

/-- `s` without trailing blanks. -/
def trimRight (s : String) : String := String.ofList (dropTrailingBlanks s.toList)

/-- `s` without leading or trailing blanks. -/
def trim (s : String) : String := String.ofList (dropTrailingBlanks (dropBlanks s.toList))

/-- The words of `cs`: its maximal runs of characters that are not blank, in order. -/
def wordsOf (cs : List Char) : List (List Char) :=
  let (done, cur) := cs.foldl (fun (acc : List (List Char) × List Char) c =>
    if isBlank c then
      (if acc.2.isEmpty then acc.1 else acc.2.reverse :: acc.1, [])
    else (acc.1, c :: acc.2)) ([], [])
  (if cur.isEmpty then done else cur.reverse :: done).reverse

/-- The blank-separated words of `s`. -/
def words (s : String) : List String := (wordsOf s.toList).map String.ofList

end StubDoctest.Text
