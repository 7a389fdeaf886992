import StubDoctest.Text.Table
import StubDoctest.Text.NormalData

/-!
# Compatibility normalization

The normalization form KC of the Unicode standard: every character is replaced by its full
compatibility decomposition (Hangul syllables by their arithmetic decomposition), runs of
combining marks are put in canonical order (a stable sort by combining class), and then each
mark is composed with the last starter before it when the pair has a primary composite and no
character between them blocks it.

The decomposition table covers the identifier characters, so `nfkc` is the normal form of any
text made of identifier characters; other characters are kept as they are.
-/

namespace StubDoctest.Text

/-- One entry of the decomposition table: `count` code points from `first`, mapped either as a
run (each to `image` head plus its offset) or, for a single code point, to `image`. -/
structure Decomposition where
  /-- The first code point the entry maps. -/
  first : Nat
  /-- How many consecutive code points it maps. -/
  count : Nat
  /-- The image of the first code point. -/
  image : List Nat

/-- The numbers of an entry text such as `1f*3:41` or `2:41.301`, split at `*`, `:` and `.`. -/
def entryNumbers (e : String) : List Nat :=
  RangeTable.hexNumbers (e.map fun c => if c = '*' ∨ c = ':' ∨ c = '.' then ' ' else c)

/-- Entries of a table text, each with its start code point decoded from the gaps. -/
def entriesOf (s : String) : List (Nat × Bool × List Nat) :=
  let raw := (s.splitOn " ").filter (!·.isEmpty)
  let step := fun (acc : Nat × List (Nat × Bool × List Nat)) (e : String) =>
    let isRun := e.contains '*'
    match entryNumbers e with
    | gap :: rest =>
      let first := acc.1 + gap
      let width := if isRun then rest.headD 1 else 1
      (first + width, (first, isRun, rest) :: acc.2)
    | [] => acc
  (raw.foldl step (0, [])).2.reverse

/-- The decomposition table. -/
def decompositions : Array Decomposition :=
  ((entriesOf decompositionText).map fun (first, isRun, rest) =>
    if isRun then ⟨first, rest.headD 1, rest.drop 1⟩ else ⟨first, 1, rest⟩).toArray

/-- The combining classes other than zero, as (first, count, class). -/
def combiningClasses : Array (Nat × Nat × Nat) :=
  ((entriesOf combiningText).map fun (first, _, rest) =>
    (first, rest.headD 1, (rest.drop 1).headD 0)).toArray

/-- The key of an ordered pair of code points. -/
def pairKey (a b : Nat) : Nat := a * 0x200000 + b

/-- The primary composites, as (key of the pair, composite), sorted by key. -/
def compositions : Array (Nat × Nat) :=
  (((entriesOf compositionText).map fun (c, _, rest) =>
    (pairKey (rest.headD 0) ((rest.drop 1).headD 0), c)).mergeSort
      (fun x y => x.1 ≤ y.1)).toArray

/-- The canonical combining class of a code point. -/
def combiningClass (c : Nat) : Nat :=
  match RangeTable.search combiningClasses (·.1) (fun e => e.1 + e.2.1 - 1) c with
  | some e => e.2.2
  | none => 0

section Hangul

/-- First Hangul syllable. -/
def syllableBase : Nat := 0xAC00
/-- First leading consonant. -/
def leadBase : Nat := 0x1100
/-- First vowel. -/
def vowelBase : Nat := 0x1161
/-- One before the first trailing consonant. -/
def trailBase : Nat := 0x11A7
/-- Number of leading consonants. -/
def leadCount : Nat := 19
/-- Number of vowels. -/
def vowelCount : Nat := 21
/-- Number of trailing consonants, the absent one included. -/
def trailCount : Nat := 28
/-- Number of syllables. -/
def syllableCount : Nat := 11172

/-- The arithmetic decomposition of a Hangul syllable. -/
def hangulParts (s : Nat) : List Nat :=
  let i := s - syllableBase
  let l := leadBase + i / (vowelCount * trailCount)
  let v := vowelBase + (i % (vowelCount * trailCount)) / trailCount
  let t := trailBase + i % trailCount
  if t = trailBase then [l, v] else [l, v, t]

end Hangul

/-- Whether `c` is a Hangul syllable. -/
def isSyllable (c : Nat) : Bool := syllableBase ≤ c && c < syllableBase + syllableCount

/-- The full compatibility decomposition of one code point. -/
def decomposeCode (c : Nat) : List Nat :=
  if isSyllable c then hangulParts c
  else
    match RangeTable.search decompositions (·.first) (fun e => e.first + e.count - 1) c with
    | some e =>
      if e.count = 1 then e.image else [e.image.headD 0 + (c - e.first)]
    | none => [c]

/-- The primary composite of a pair, if it has one. -/
def composePair (a b : Nat) : Option Nat :=
  if leadBase ≤ a ∧ a < leadBase + leadCount ∧ vowelBase ≤ b ∧ b < vowelBase + vowelCount then
    some (syllableBase + ((a - leadBase) * vowelCount + (b - vowelBase)) * trailCount)
  else if isSyllable a ∧ (a - syllableBase) % trailCount = 0 ∧ trailBase < b ∧
      b < trailBase + trailCount then
    some (a + (b - trailBase))
  else
    let k := pairKey a b
    (RangeTable.search compositions (·.1) (·.1) k).map (·.2)

/-- Insert a mark into a run of marks sorted by class, after every mark of class at most its
own. -/
def insertMark (m : Nat) : List Nat → List Nat
  | [] => [m]
  | x :: xs => if combiningClass m < combiningClass x then m :: x :: xs else x :: insertMark m xs

/-- Canonical order: every run of marks (class other than zero) sorted stably by class. The
run is kept reversed while it grows. -/
def canonicalOrder (cs : List Nat) : List Nat :=
  let flush (run : List Nat) : List Nat := run.foldl (fun acc m => insertMark m acc) []
  let (done, run) := cs.foldl (fun (acc : List Nat × List Nat) c =>
    if combiningClass c = 0 then (acc.1 ++ flush acc.2.reverse ++ [c], [])
    else (acc.1, c :: acc.2)) ([], [])
  done ++ flush run.reverse

/-- The state of canonical composition: the characters so far (reversed), the index from the
end of the last starter, its value, and the class of the last kept character (256 before any
starter). -/
structure ComposeState where
  /-- The kept characters, last first. -/
  kept : List Nat := []
  /-- How many kept characters follow the last starter. -/
  sinceStarter : Option Nat := none
  /-- The class of the last kept character. -/
  lastClass : Nat := 256

/-- Replace the character `k` places from the end of a reversed list. -/
def setFromEnd (xs : List Nat) (k : Nat) (v : Nat) : List Nat := xs.set k v

/-- One step of canonical composition. -/
def composeStep (st : ComposeState) (c : Nat) : ComposeState :=
  let cls := combiningClass c
  let composite : Option Nat := match st.sinceStarter with
    | some k =>
      match st.kept[k]? with
      | some s => if st.lastClass < cls ∨ st.lastClass = 0 then composePair s c else none
      | none => none
    | none => none
  match composite, st.sinceStarter with
  | some p, some k => { st with kept := setFromEnd st.kept k p }
  | _, _ =>
    { kept := c :: st.kept
      sinceStarter := if cls = 0 then some 0 else st.sinceStarter.map (· + 1)
      lastClass := cls }

/-- Canonical composition of a text in canonical order. -/
def compose (cs : List Nat) : List Nat :=
  (cs.foldl composeStep {}).kept.reverse

/-- The normalization form KC of a text. -/
def nfkcCodes (cs : List Nat) : List Nat := compose (canonicalOrder (cs.flatMap decomposeCode))

/-- The normalization form KC of `s`. -/
def nfkc (s : String) : String :=
  String.ofList ((nfkcCodes (s.toList.map Char.toNat)).map Char.ofNat)

end StubDoctest.Text
