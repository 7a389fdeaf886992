import StubDoctest.Text.Codec

/-!
# Strict decoding reads back the UTF-8 form of a text

The UTF-8 form of a text writes each character's code point in one to four bytes (`utf8Of`).
Main statement: the strict decoder reads the form of every text back to that text
(`decodeUtf8_utf8Form`), so the bytes it accepts include every valid UTF-8 string.

The decoder takes one character per step; `decodeFrom_one` to `decodeFrom_four` are its steps
for forms of one to four bytes. Stated with whatever bytes follow, the step on one character's
form (`decodeFrom_utf8Of`) composes along the text. A byte below `0x80` stands in a
character's form only as that character itself (`eq_ofNat_of_mem_utf8Of`): line ends and null
characters are found in the bytes where they are in the text.
-/

set_option autoImplicit false

namespace StubDoctest.Text

/-- The UTF-8 form of a text. -/
def utf8Form (cs : List Char) : List UInt8 := cs.flatMap fun c => utf8Of c.toNat

@[simp] theorem utf8Form_nil : utf8Form [] = [] := rfl

@[simp] theorem utf8Form_cons (c : Char) (cs : List Char) :
    utf8Form (c :: cs) = utf8Of c.toNat ++ utf8Form cs := rfl

theorem toNat_toUInt8_of_lt {n : Nat} (h : n < 256) : n.toUInt8.toNat = n := by
  simp [Nat.mod_eq_of_lt h]

theorem toNat_lt_of_char (c : Char) : c.toNat < 0x110000 := by
  have h := c.valid
  simp only [UInt32.isValidChar, Nat.isValidChar] at h
  show c.val.toNat < _
  omega

theorem isContinuation_cont (k : Nat) : isContinuation (0x80 + k % 64).toUInt8 = true := by
  simp [isContinuation]
  omega

theorem contValue_cont (k : Nat) : contValue (0x80 + k % 64).toUInt8 = k % 64 := by
  simp [contValue]
  omega

/-! ## The decoder's steps -/

section Steps

variable {pos : Nat} {acc : List Char} {s b c d : UInt8} {rest : List UInt8}

theorem decodeFrom_one (hs : s.toNat < 0x80) :
    decodeFrom pos acc (s :: rest) = decodeFrom (pos + 1) (Char.ofNat s.toNat :: acc) rest := by
  cases rest <;> simp [decodeFrom, hs]

theorem decodeFrom_two (hs : 0xC2 ≤ s.toNat ∧ s.toNat < 0xE0) (hb : isContinuation b) :
    decodeFrom pos acc (s :: b :: rest) =
      decodeFrom (pos + 2) (Char.ofNat (s.toNat % 32 * 64 + contValue b) :: acc) rest := by
  simp [decodeFrom, hs.2, hb, show ¬ s.toNat < 0x80 by omega, show ¬ s.toNat < 0xC2 by omega]

theorem decodeFrom_three (hs : 0xE0 ≤ s.toNat ∧ s.toNat < 0xF0) (hb : secondOk s b)
    (hc : isContinuation c) :
    decodeFrom pos acc (s :: b :: c :: rest) =
      decodeFrom (pos + 3)
        (Char.ofNat (s.toNat % 16 * 4096 + contValue b * 64 + contValue c) :: acc) rest := by
  simp [decodeFrom, hs.2, hb, hc, show ¬ s.toNat < 0x80 by omega, show ¬ s.toNat < 0xC2 by omega,
    show ¬ s.toNat < 0xE0 by omega]

theorem decodeFrom_four (hs : 0xF0 ≤ s.toNat ∧ s.toNat < 0xF5) (hb : secondOk s b)
    (hc : isContinuation c) (hd : isContinuation d) :
    decodeFrom pos acc (s :: b :: c :: d :: rest) =
      decodeFrom (pos + 4)
        (Char.ofNat (s.toNat % 8 * 262144 + contValue b * 4096 + contValue c * 64 +
          contValue d) :: acc) rest := by
  simp [decodeFrom, hs.2, hb, hc, hd, show ¬ s.toNat < 0x80 by omega,
    show ¬ s.toNat < 0xC2 by omega, show ¬ s.toNat < 0xE0 by omega,
    show ¬ s.toNat < 0xF0 by omega]

end Steps

/-! ## Reading back -/

/-- Decoding the form of one character reads that character back, whatever follows it. -/
theorem decodeFrom_utf8Of (pos : Nat) (acc : List Char) (c : Char) (rest : List UInt8) :
    decodeFrom pos acc (utf8Of c.toNat ++ rest) =
      decodeFrom (pos + (utf8Of c.toNat).length) (c :: acc) rest := by
  have hv := c.valid
  simp only [UInt32.isValidChar, Nat.isValidChar] at hv
  have hlt := toNat_lt_of_char c
  generalize hn : c.toNat = n at hlt
  replace hv : n < 0xD800 ∨ 0xDFFF < n := by rw [← hn]; exact hv.imp id And.left
  have hc : Char.ofNat n = c := by rw [← hn, Char.ofNat_toNat]
  -- one case per length of the form; the decoder's step for that length reads it back
  by_cases h1 : n < 0x80
  · have hs : n.toUInt8.toNat = n := toNat_toUInt8_of_lt (by omega)
    rw [utf8Of, if_pos h1, List.singleton_append, decodeFrom_one (by omega), hs, hc]
    rfl
  by_cases h2 : n < 0x800
  · have hs : (0xC0 + n / 64).toUInt8.toNat = 0xC0 + n / 64 := toNat_toUInt8_of_lt (by omega)
    rw [utf8Of, if_neg h1, if_pos h2, List.cons_append, List.singleton_append,
      decodeFrom_two (by omega) (isContinuation_cont n)]
    simp only [contValue_cont, hs, List.length_cons, List.length_nil]
    rw [show (0xC0 + n / 64) % 32 * 64 + n % 64 = n by omega, hc]
  by_cases h3 : n < 0x10000
  · have hs : (0xE0 + n / 4096).toUInt8.toNat = 0xE0 + n / 4096 := toNat_toUInt8_of_lt (by omega)
    -- the second byte rules out the overlong forms and the surrogates
    have hb : secondOk (0xE0 + n / 4096).toUInt8 (0x80 + n / 64 % 64).toUInt8 = true := by
      have hb' := toNat_toUInt8_of_lt (show 0x80 + n / 64 % 64 < 256 by omega)
      simp only [secondOk, isContinuation_cont, hs, hb', Bool.true_and]
      grind
    rw [utf8Of, if_neg h1, if_neg h2, if_pos h3, List.cons_append, List.cons_append,
      List.singleton_append, decodeFrom_three (by omega) hb (isContinuation_cont n)]
    simp only [contValue_cont, hs, List.length_cons, List.length_nil]
    rw [show (0xE0 + n / 4096) % 16 * 4096 + n / 64 % 64 * 64 + n % 64 = n by omega, hc]
  · have hs : (0xF0 + n / 262144).toUInt8.toNat = 0xF0 + n / 262144 :=
      toNat_toUInt8_of_lt (by omega)
    -- the second byte rules out the overlong forms and the code points past U+10FFFF
    have hb : secondOk (0xF0 + n / 262144).toUInt8 (0x80 + n / 4096 % 64).toUInt8 = true := by
      have hb' := toNat_toUInt8_of_lt (show 0x80 + n / 4096 % 64 < 256 by omega)
      simp only [secondOk, isContinuation_cont, hs, hb', Bool.true_and]
      grind
    rw [utf8Of, if_neg h1, if_neg h2, if_neg h3, List.cons_append, List.cons_append,
      List.cons_append, List.singleton_append, decodeFrom_four (by omega) hb
        (isContinuation_cont (n / 64)) (isContinuation_cont n)]
    simp only [contValue_cont, hs, List.length_cons, List.length_nil]
    rw [show (0xF0 + n / 262144) % 8 * 262144 + n / 4096 % 64 * 4096 + n / 64 % 64 * 64 +
      n % 64 = n by omega, hc]

theorem decodeFrom_utf8Form (cs : List Char) :
    ∀ pos acc, decodeFrom pos acc (utf8Form cs) = .ok (acc.reverse ++ cs) := by
  induction cs with
  | nil => intro pos acc; simp [decodeFrom]
  | cons c cs ih =>
    intro pos acc
    rw [utf8Form_cons, decodeFrom_utf8Of, ih]
    simp

/-- The strict decoder reads the UTF-8 form of every text back to that text. -/
theorem decodeUtf8_utf8Form (cs : List Char) : decodeUtf8 (utf8Form cs) = .ok cs := by
  unfold decodeUtf8
  simpa using decodeFrom_utf8Form cs 0 []

/-! ## ASCII bytes in a form -/

theorem utf8Of_ne_nil (n : Nat) : utf8Of n ≠ [] := by
  unfold utf8Of
  grind

/-- Past ASCII, every byte of a character's form has its high bit set. -/
theorem le_toNat_of_mem_utf8Of {n : Nat} (h : 0x80 ≤ n) (hn : n < 0x110000) {x : UInt8}
    (hx : x ∈ utf8Of n) : 0x80 ≤ x.toNat := by
  rw [utf8Of, if_neg (by omega)] at hx
  by_cases h2 : n < 0x800
  · rw [if_pos h2] at hx
    simp at hx
    rcases hx with rfl | rfl <;> simp <;> omega
  by_cases h3 : n < 0x10000
  · rw [if_neg h2, if_pos h3] at hx
    simp at hx
    rcases hx with rfl | rfl | rfl <;> simp <;> omega
  · rw [if_neg h2, if_neg h3] at hx
    simp at hx
    rcases hx with rfl | rfl | rfl | rfl <;> simp <;> omega

/-- A byte below `0x80` stands in a character's form only as the character itself. -/
theorem eq_ofNat_of_mem_utf8Of {c : Char} {x : UInt8} (hx : x ∈ utf8Of c.toNat)
    (hlt : x.toNat < 0x80) : c = Char.ofNat x.toNat := by
  by_cases h : c.toNat < 0x80
  · rw [utf8Of, if_pos h, List.mem_singleton] at hx
    rw [hx, toNat_toUInt8_of_lt (by omega), Char.ofNat_toNat]
  · have := le_toNat_of_mem_utf8Of (by omega) (toNat_lt_of_char c) hx
    omega

end StubDoctest.Text
