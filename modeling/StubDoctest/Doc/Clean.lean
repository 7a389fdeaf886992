import StubDoctest.Text.Blank
import StubDoctest.Text.Layout

/-!
# Cleaning a docstring

A docstring as written carries the indentation of the code around it. Cleaning expands tabs
(to columns of eight), strips the blanks that start the first line, removes from every later
line the least indentation of those later lines that hold more than blanks, and drops the empty
lines at both ends. A line counts as empty here only if it has no character at all, so a line
of blanks longer than the margin survives at the ends.
-/

namespace StubDoctest.Docstring

open StubDoctest.Text

/-- The indentation of a line that holds more than blanks. -/
def indentOf? (line : List Char) : Option Nat :=
  let rest := dropBlanks line
  if rest.isEmpty then none else some (line.length - rest.length)

/-- The least indentation of the lines that hold more than blanks, if any does. -/
def margin (lines : List (List Char)) : Option Nat :=
  lines.foldl (fun acc l =>
    match indentOf? l, acc with
    | some n, some m => some (min n m)
    | some n, none => some n
    | none, a => a) none

/-- Lines without the empty ones at their start. -/
def dropEmptyHead (lines : List (List Char)) : List (List Char) := lines.dropWhile List.isEmpty

/-- The cleaned text of a docstring. -/
def clean (doc : String) : String :=
  match linesOf (expandTabs doc.toList) with
  | [] => ""
  | first :: rest =>
    let cut := match margin rest with
      | some m => rest.map (·.drop m)
      | none => rest
    let lines := dropBlanks first :: cut
    let trimmed := (dropEmptyHead lines.reverse).reverse
    String.ofList (unlines (dropEmptyHead trimmed))

end StubDoctest.Docstring
