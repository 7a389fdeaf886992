/-!
# Paths left out of collection

`--ignore` names a path relative to the directory the session collects: the file itself, or a
directory whose files are all left out. `--ignore-glob` gives a shell pattern, matched against
the path of a file and of each directory above it. In a pattern `*` stands for any text,
slashes included, `?` for one character, and `[...]` for one character of a set, `[!...]` for
one outside it, with ranges such as `a-z`; a `[` that is never closed stands for itself.

Paths are compared once made plain: empty and `.` parts dropped, and a `..` part cancelling
the part before it.
-/

namespace StubDoctest.Session

/-- The parts of a path made plain: empty and `.` parts dropped, a `..` part cancelling the
part before it. -/
def plainParts (p : String) : List String :=
  ((p.splitOn "/").foldl (fun acc part =>
    if part.isEmpty || part == "." then acc
    else if part == ".." then acc.drop 1
    else part :: acc) []).reverse

/-- A path made plain. -/
def plainPath (p : String) : String := "/".intercalate (plainParts p)

/-- The directories above a path and the path itself, outermost first: `a/b/c` gives `a`,
`a/b` and `a/b/c`. -/
def pathPrefixes (p : String) : List String :=
  let parts := plainParts p
  (List.range parts.length).map fun n => "/".intercalate (parts.take (n + 1))

/-- One element of a shell pattern. -/
inductive GlobPart where
  /-- A character standing for itself. -/
  | char (c : Char)
  /-- `*`: any text. -/
  | any
  /-- `?`: any one character. -/
  | one
  /-- `[...]`: one character in the ranges, or outside them when `negated`. -/
  | set (negated : Bool) (ranges : List (Char × Char))
  deriving Repr

/-- The ranges of the inside of a set, `a-z` for a range and any other character for itself. -/
def setRanges : List Char → List (Char × Char)
  | a :: '-' :: b :: rest => (a, b) :: setRanges rest
  | c :: rest => (c, c) :: setRanges rest
  | [] => []

/-- The inside of a set up to its closing `]`, and what follows; a `]` right at the start
belongs to the inside. `none` when the set is never closed. -/
def setBody (cs : List Char) : Option (List Char × List Char) :=
  let (lead, rest) := match cs with
    | ']' :: more => ([']'], more)
    | _ => ([], cs)
  match rest.span (· != ']') with
  | (body, ']' :: after) => some (lead ++ body, after)
  | _ => none

/-- A shell pattern read into its elements. -/
def parseGlob (cs : List Char) : List GlobPart :=
  let rec go (fuel : Nat) (cs : List Char) : List GlobPart :=
    match fuel with
    | 0 => []
    | fuel + 1 =>
      match cs with
      | [] => []
      | '*' :: rest => .any :: go fuel rest
      | '?' :: rest => .one :: go fuel rest
      | '[' :: rest =>
        let (negated, inner) := match rest with
          | '!' :: more => (true, more)
          | _ => (false, rest)
        match setBody inner with
        | some (body, after) => .set negated (setRanges body) :: go fuel after
        | none => .char '[' :: go fuel rest
      | c :: rest => .char c :: go fuel rest
  go (cs.length + 1) cs

/-- Whether a character fits one element that stands for a single character. -/
def GlobPart.fits (p : GlobPart) (c : Char) : Bool :=
  match p with
  | .char d => c == d
  | .any | .one => true
  | .set negated ranges => negated != ranges.any fun (lo, hi) => lo ≤ c && c ≤ hi

/-- Whether a text matches a shell pattern as a whole. -/
def globMatches : List GlobPart → List Char → Bool
  | [], cs => cs.isEmpty
  | .any :: ps, cs => (List.range (cs.length + 1)).any fun n => globMatches ps (cs.drop n)
  | p :: ps, c :: cs => p.fits c && globMatches ps cs
  | _ :: _, [] => false

/-- Whether a file at a path is left out by the paths and patterns to ignore. -/
def isIgnored (ignore globs : List String) (path : String) : Bool :=
  let above := pathPrefixes path
  let ignored := ignore.map plainPath
  let patterns := globs.map fun g => parseGlob (plainPath g).toList
  above.any fun q => ignored.contains q || patterns.any fun g => globMatches g q.toList

/-- A `*` matches any text. -/
theorem globMatches_any (cs : List Char) : globMatches [.any] cs = true := by
  simp only [globMatches, List.any_eq_true, List.mem_range]
  refine ⟨cs.length, Nat.lt_succ_self _, ?_⟩
  simp

end StubDoctest.Session
