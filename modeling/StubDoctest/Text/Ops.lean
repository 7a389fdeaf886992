import StubDoctest.Text.Blank

/-!
# Operations on text

Searching, counting, replacing, splitting, stripping and padding text, each with the bounds
rules of string slices: a negative bound counts from the end, and bounds are clamped to the
text. Splitting on blanks drops empty words; splitting on a separator keeps them. Line
boundaries are the line feed, carriage return (with a following line feed as one boundary),
vertical tab, form feed, the information separators U+001C to U+001E, next line, and the
line and paragraph separators.
-/

namespace StubDoctest.Text

/-- A bound of a slice of a text of length `n`, clamped to `0..n`. -/
def clampBound (n : Nat) (i : Int) : Nat :=
  if i < 0 then (let j := i + n; if j < 0 then 0 else j.toNat) else min i.toNat n

/-- Whether `pre` is at the head of `cs`. -/
def headIs (pre cs : List Char) : Bool := pre.isPrefixOf cs

/-- The first position at or after `start` and ending by `stop` where `needle` occurs. -/
def findIn (hay needle : List Char) (start stop : Nat) : Option Nat :=
  if start > hay.length || start > stop then none
  else
    let window := (hay.take stop).drop start
    let n := needle.length
    if n > window.length then none
    else (List.range (window.length - n + 1)).find? (fun i => headIs needle (window.drop i))
      |>.map (· + start)

/-- The last such position. -/
def rfindIn (hay needle : List Char) (start stop : Nat) : Option Nat :=
  if start > hay.length || start > stop then none
  else
    let window := (hay.take stop).drop start
    let n := needle.length
    if n > window.length then none
    else ((List.range (window.length - n + 1)).reverse.find? fun i => headIs needle (window.drop i))
      |>.map (· + start)

/-- The number of occurrences of `needle` that do not overlap. -/
def countIn (hay needle : List Char) (start stop : Nat) : Nat :=
  if start > hay.length || start > stop then 0
  else
    let window := (hay.take stop).drop start
    if needle.isEmpty then window.length + 1
    else
      let rec go (fuel : Nat) (cs : List Char) : Nat :=
        match fuel with
        | 0 => 0
        | fuel + 1 =>
          match cs with
          | [] => 0
          | _ :: rest =>
            if headIs needle cs then 1 + go fuel (cs.drop needle.length) else go fuel rest
      go (window.length + 1) window

/-- Text with at most `limit` occurrences of `old` replaced by `new`, left to right. -/
def replaceIn (cs old new : List Char) (limit : Option Nat) : List Char :=
  if old.isEmpty then
    -- The replacement goes before every character and at the end.
    let k := match limit with
      | some l => l
      | none => cs.length + 1
    let rec ins (fuel : Nat) (k : Nat) (cs : List Char) : List Char :=
      match fuel with
      | 0 => cs
      | fuel + 1 =>
        if k = 0 then cs
        else match cs with
          | [] => new
          | c :: rest => new ++ c :: ins fuel (k - 1) rest
    ins (cs.length + 1) k cs
  else
    let rec go (fuel : Nat) (k : Option Nat) (cs : List Char) : List Char :=
      match fuel with
      | 0 => cs
      | fuel + 1 =>
        if k == some 0 then cs
        else match cs with
          | [] => []
          | c :: rest =>
            if headIs old cs then new ++ go fuel (k.map (· - 1)) (cs.drop old.length)
            else c :: go fuel k rest
    go (cs.length + 1) limit cs

/-- Text split at each occurrence of a separator, at most `limit` times from the left. -/
def splitOnSep (cs sep : List Char) (limit : Option Nat) : List (List Char) :=
  let rec go (fuel : Nat) (k : Option Nat) (cur : List Char) (cs : List Char) : List (List Char) :=
    match fuel with
    | 0 => [cur.reverse ++ cs]
    | fuel + 1 =>
      if k == some 0 then [cur.reverse ++ cs]
      else match cs with
        | [] => [cur.reverse]
        | c :: rest =>
          if headIs sep cs then cur.reverse :: go fuel (k.map (· - 1)) [] (cs.drop sep.length)
          else go fuel k (c :: cur) rest
  go (cs.length + 1) limit [] cs

/-- Text split at each occurrence of a separator, at most `limit` times from the right. -/
def rsplitOnSep (cs sep : List Char) (limit : Option Nat) : List (List Char) :=
  ((splitOnSep cs.reverse sep.reverse limit).map List.reverse).reverse

/-- The blank-separated words of a text, splitting at most `limit` times from the left; the
rest after the last split keeps its blanks but loses the leading ones. -/
def splitOnBlanks (cs : List Char) (limit : Option Nat) : List (List Char) :=
  let rec go (fuel : Nat) (k : Option Nat) (cs : List Char) : List (List Char) :=
    match fuel with
    | 0 => []
    | fuel + 1 =>
      let cs := cs.dropWhile isBlank
      if cs.isEmpty then []
      else if k == some 0 then [cs]
      else
        let w := cs.takeWhile (!isBlank ·)
        w :: go fuel (k.map (· - 1)) (cs.drop w.length)
  go (cs.length + 1) limit cs

/-- The blank-separated words of a text, splitting at most `limit` times from the right. -/
def rsplitOnBlanks (cs : List Char) (limit : Option Nat) : List (List Char) :=
  ((splitOnBlanks cs.reverse limit).map List.reverse).reverse

/-- Whether a character ends a line. -/
def isLineBreak (c : Char) : Bool :=
  let n := c.toNat
  n = 10 || n = 13 || n = 11 || n = 12 || n = 0x1c || n = 0x1d || n = 0x1e || n = 0x85 ||
    n = 0x2028 || n = 0x2029

/-- The lines of a text, with or without their ends. -/
def splitLinesOf (cs : List Char) (keepEnds : Bool) : List (List Char) :=
  let rec go (fuel : Nat) (cur : List Char) (cs : List Char) : List (List Char) :=
    match fuel with
    | 0 => []
    | fuel + 1 =>
      match cs with
      | [] => if cur.isEmpty then [] else [cur.reverse]
      | '\r' :: '\n' :: rest =>
        (if keepEnds then ('\n' :: '\r' :: cur).reverse else cur.reverse) :: go fuel [] rest
      | c :: rest =>
        if isLineBreak c then (if keepEnds then (c :: cur).reverse else cur.reverse) :: go fuel [] rest
        else go fuel (c :: cur) rest
  go (cs.length + 1) [] cs

/-- Text without leading characters of a set (blanks when none is given). -/
def stripLeft (cs : List Char) (chars : Option (List Char)) : List Char :=
  match chars with
  | some set => cs.dropWhile (set.contains ·)
  | none => cs.dropWhile isBlank

/-- Text without trailing characters of a set (blanks when none is given). -/
def stripRight (cs : List Char) (chars : Option (List Char)) : List Char :=
  (stripLeft cs.reverse chars).reverse

/-- Text centred in `width` with a fill character; an odd margin puts the extra fill on the
right when the width is even and on the left when it is odd. -/
def centerIn (cs : List Char) (width : Nat) (fill : Char) : List Char :=
  if width ≤ cs.length then cs
  else
    let total := width - cs.length
    let left := total / 2 + (if total % 2 = 1 && width % 2 = 1 then 1 else 0)
    List.replicate left fill ++ cs ++ List.replicate (total - left) fill

/-- Text padded with zeros on the left to `width`, after a leading sign. -/
def zeroFill (cs : List Char) (width : Nat) : List Char :=
  if width ≤ cs.length then cs
  else
    let pad := List.replicate (width - cs.length) '0'
    match cs with
    | c :: rest => if c = '+' || c = '-' then c :: pad ++ rest else pad ++ cs
    | [] => pad

/-- Text with tabs replaced by spaces up to the next multiple of `size`; line ends reset the
column. -/
def expandTabsBy (size : Nat) (cs : List Char) : List Char :=
  let step (acc : List Char × Nat) (c : Char) : List Char × Nat :=
    let (out, col) := acc
    if c = '\t' then
      if size = 0 then (out, col)
      else
        let k := size - col % size
        (out ++ List.replicate k ' ', col + k)
    else if c = '\n' || c = '\r' then (out ++ [c], 0)
    else (out ++ [c], col + 1)
  (cs.foldl step ([], 0)).1

end StubDoctest.Text
