/-!
# Code points

Text is a sequence of Unicode code points from U+0000 to U+10FFFF, surrogates included: a lone
surrogate can be written with an escape or made from its number. A Lean character is a Unicode
scalar value, which leaves the 2048 surrogates out, so they are carried by a block of the
private-use plane 15 kept for them, U+FD800 to U+FDFFF: `codeOf` reads the code point that a
character carries and `ofCode` makes the character that carries a code point. The two are
inverse on every code point outside that block (`codeOf_ofCode`).
-/

namespace StubDoctest.Text

/-- The distance from a surrogate to the character that carries it. -/
def surrogateShift : Nat := 0xF0000

/-- Whether a code point is a surrogate. -/
def isSurrogate (n : Nat) : Bool := 0xD800 ≤ n && n ≤ 0xDFFF

/-- Whether a character carries a surrogate. -/
def carriesSurrogate (c : Char) : Bool := 0xFD800 ≤ c.toNat && c.toNat ≤ 0xFDFFF

/-- The code point a character carries. -/
def codeOf (c : Char) : Nat :=
  if carriesSurrogate c then c.toNat - surrogateShift else c.toNat

/-- The character that carries a code point below U+110000. -/
def ofCode (n : Nat) : Char :=
  if isSurrogate n then Char.ofNat (n + surrogateShift) else Char.ofNat n

/-- A valid code point is the number of the character made from it. -/
theorem toNat_ofNat_of_valid (m : Nat) (h : m.isValidChar) : (Char.ofNat m).toNat = m := by
  rw [Char.ofNat, dif_pos h]
  exact UInt32.toNat_ofNatLT ..

/-- Reading back the character made for a code point gives the code point, for every code
point outside the block that carries the surrogates. -/
theorem codeOf_ofCode (n : Nat) (h : n < 0x110000) (hb : ¬ (0xFD800 ≤ n ∧ n ≤ 0xFDFFF)) :
    codeOf (ofCode n) = n := by
  unfold codeOf ofCode carriesSurrogate isSurrogate surrogateShift
  by_cases hs : 0xD800 ≤ n ∧ n ≤ 0xDFFF
  · have hv : (n + 0xF0000).isValidChar := Or.inr ⟨by omega, by omega⟩
    have hs' : (decide (0xD800 ≤ n) && decide (n ≤ 0xDFFF)) = true := by simp [hs.1, hs.2]
    rw [if_pos hs', toNat_ofNat_of_valid _ hv, if_pos (by simp; omega)]
    omega
  · have hv : n.isValidChar := by
      unfold Nat.isValidChar
      omega
    have hs' : ¬ (decide (0xD800 ≤ n) && decide (n ≤ 0xDFFF)) = true := by simpa using hs
    have hb' : ¬ (decide (0xFD800 ≤ n) && decide (n ≤ 0xFDFFF)) = true := by simpa using hb
    rw [if_neg hs', toNat_ofNat_of_valid _ hv, if_neg hb']

end StubDoctest.Text
