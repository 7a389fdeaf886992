/-!
# Tables of code point ranges

A character property of the Unicode standard is stored as a sorted list of disjoint closed
ranges of code points. The ranges are written compactly as hexadecimal numbers separated by
blanks, in pairs: the distance from the end of the previous range (plus one) to the start of
the next one, then the width of the range less one.

`RangeTable.decode` reads that text once; `RangeTable.contains` looks a code point up by
halving the interval of candidate ranges. Its meaning is `RangeTable.Mem`: some range holds
the point.
-/

namespace StubDoctest

/-- A sorted list of disjoint closed ranges of code points. -/
structure RangeTable where
  /-- The ranges, each as its first and last code point, in increasing order. -/
  bounds : Array (Nat × Nat)

namespace RangeTable

/-- The value of one hexadecimal digit, or none for any other character. -/
def hexDigit (c : Char) : Option Nat :=
  if '0' ≤ c ∧ c ≤ '9' then some (c.toNat - '0'.toNat)
  else if 'a' ≤ c ∧ c ≤ 'f' then some (c.toNat - 'a'.toNat + 10)
  else if 'A' ≤ c ∧ c ≤ 'F' then some (c.toNat - 'A'.toNat + 10)
  else none

/-- The numbers of a text of hexadecimal numbers separated by blanks. Other characters are
ignored. -/
def hexNumbers (s : String) : List Nat :=
  let step : List Nat × Option Nat → Char → List Nat × Option Nat := fun (done, cur) c =>
    match hexDigit c with
    | some d => (done, some ((cur.getD 0) * 16 + d))
    | none => match cur with
      | some n => (n :: done, none)
      | none => (done, none)
  let (done, cur) := s.foldl step ([], none)
  (match cur with
    | some n => n :: done
    | none => done).reverse

/-- Ranges from pairs of (gap, width less one), starting at code point `base`. -/
def ofGaps : Nat → List Nat → List (Nat × Nat)
  | base, gap :: width :: rest =>
    let lo := base + gap
    (lo, lo + width) :: ofGaps (lo + width + 1) rest
  | _, _ => []

/-- The table written by `s` in the compact form of this module. -/
def decode (s : String) : RangeTable :=
  ⟨(ofGaps 0 (hexNumbers s)).toArray⟩

/-- A code point is in the table when one of its ranges holds it. -/
def Mem (t : RangeTable) (c : Nat) : Prop :=
  ∃ r ∈ t.bounds.toList, r.1 ≤ c ∧ c ≤ r.2

/-- Whether one of the ranges with index in `[lo, hi)` holds `c`, for sorted ranges. -/
def containsIn (bs : Array (Nat × Nat)) (c : Nat) (lo hi : Nat) : Bool :=
  if h : lo < hi then
    let mid := (lo + hi) / 2
    let r := bs.getD mid (1, 0)
    if c < r.1 then containsIn bs c lo mid
    else if r.2 < c then containsIn bs c (mid + 1) hi
    else true
  else false
termination_by hi - lo

/-- The entry of `bs` (sorted by `lo`, with disjoint closed intervals `[lo e, hi e]`) whose
interval holds `c`, searched among the indices `[i, j)`. -/
def searchIn {α : Type} (bs : Array α) (lo hi : α → Nat) (c : Nat) (i j : Nat) : Option α :=
  if _h : i < j then
    let mid := (i + j) / 2
    match bs[mid]? with
    | none => none
    | some e =>
      if c < lo e then searchIn bs lo hi c i mid
      else if hi e < c then searchIn bs lo hi c (mid + 1) j
      else some e
  else none
termination_by j - i

/-- The entry of `bs` whose interval holds `c`. -/
def search {α : Type} (bs : Array α) (lo hi : α → Nat) (c : Nat) : Option α :=
  searchIn bs lo hi c 0 bs.size

/-- Whether the table holds the code point `c`. -/
def contains (t : RangeTable) (c : Nat) : Bool :=
  containsIn t.bounds c 0 t.bounds.size

/-- Whether the table holds the character `c`. -/
def has (t : RangeTable) (c : Char) : Bool :=
  t.contains c.toNat

end RangeTable

end StubDoctest
