/-!
# Lines and tab stops

Tab stops every eight columns, and the split of a text into lines at line feeds.
`expandTabs` puts the columns of a text at tab stops: a tab becomes the spaces up to the next
multiple of eight, and a line feed or a carriage return starts column zero again.
-/

namespace StubDoctest.Text

/-- The width between tab stops. -/
def tabWidth : Nat := 8

/-- `cs` with each tab replaced by spaces up to the next tab stop, the column counted from
`col` and restarted at every line feed and carriage return. -/
def expandTabsFrom : Nat → List Char → List Char
  | _, [] => []
  | col, c :: cs =>
    if c = '\t' then
      let w := tabWidth - col % tabWidth
      List.replicate w ' ' ++ expandTabsFrom (col + w) cs
    else if c = '\n' ∨ c = '\r' then c :: expandTabsFrom 0 cs
    else c :: expandTabsFrom (col + 1) cs

/-- `cs` with its tabs expanded to tab stops. -/
def expandTabs (cs : List Char) : List Char := expandTabsFrom 0 cs

/-- The lines of `cs`, split at every line feed: one more line than there are line feeds. -/
def linesOf (cs : List Char) : List (List Char) := cs.splitOn '\n'

/-- The text of lines joined by line feeds. -/
def unlines (ls : List (List Char)) : List Char := List.intercalate ['\n'] ls

/-- The number of leading spaces of `cs`. -/
def leadingSpaces (cs : List Char) : Nat := (cs.takeWhile (· = ' ')).length

end StubDoctest.Text
