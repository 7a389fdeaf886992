import Mathlib.Data.List.Infix
import StubDoctest.Proofs.Utf8Form
import StubDoctest.Stub.Collect

/-!
# Reading a stub as an import reads a module

The interpreter reads a module's source from its bytes. It refuses a null byte, makes line ends
uniform on the bytes, sets aside a leading UTF-8 byte-order mark, looks on the first two lines
for a comment that declares the source's encoding (PEP 263), and decodes the bytes in that
encoding, UTF-8 when none is declared (`importText`). The collector reads a stub otherwise: it
decodes the whole file as UTF-8 first, keeps a byte-order mark as a character, and makes line
ends uniform on the characters (`Stub.readBytes`).

Main statement: on the UTF-8 form of any text that begins with no byte-order mark, declares no
encoding but UTF-8 and reads as a module when imported, the collector finds the entries of that
module (`entriesOfBytes_eq_of_import`). With a byte-order mark the two part: the collector
keeps the mark in front of the first line, where the parser refuses it.

The readers agree because line ends made uniform on the bytes are the form of line ends made
uniform on the characters (`uniformNewlineBytes_utf8Form`): a carriage return and a line feed
are single bytes in a form, and a byte below `0x80` stands there only for itself.
-/

set_option autoImplicit false

namespace StubDoctest.Stub

open StubDoctest.Source StubDoctest.Text

/-! ## What an import reads -/

/-- The UTF-8 byte-order mark. -/
def utf8Bom : List UInt8 := [0xEF, 0xBB, 0xBF]

/-- Line ends made uniform on bytes: a carriage return, alone or before a line feed, becomes a
line feed. -/
def uniformNewlineBytes : List UInt8 → List UInt8
  | [] => []
  | [b] => if b = 13 then [10] else [b]
  | b :: c :: rest =>
    if b = 13 then
      if c = 10 then 10 :: uniformNewlineBytes rest else 10 :: uniformNewlineBytes (c :: rest)
    else b :: uniformNewlineBytes (c :: rest)

/-- Whether a byte is a blank within a line: a space, a tab or a form feed. -/
def isLineBlank (b : UInt8) : Bool := b = 32 || b = 9 || b = 12

/-- Whether a byte may stand in the name of an encoding: an ASCII letter or digit, `-`, `_`
or `.`. -/
def isNameByte (b : UInt8) : Bool :=
  (48 ≤ b && b ≤ 57) || (65 ≤ b && b ≤ 90) || (97 ≤ b && b ≤ 122) ||
    b = 45 || b = 95 || b = 46

/-- The bytes of the word `coding`. -/
def codingWord : List UInt8 := [99, 111, 100, 105, 110, 103]

/-- The name declared in a comment's text: after the first `coding` that `:` or `=`, blanks
and a non-empty name follow. -/
def codingName : List UInt8 → Option (List UInt8)
  | [] => none
  | b :: rest =>
    let here : Option (List UInt8) :=
      if codingWord.isPrefixOf (b :: rest) then
        match (b :: rest).drop 6 with
        | sep :: more =>
          if sep = 58 || sep = 61 then
            let name := (more.dropWhile fun x => x = 32 || x = 9).takeWhile isNameByte
            if name.isEmpty then none else some name
          else none
        | [] => none
      else none
    match here with
    | some name => some name
    | none => codingName rest

/-- The encoding a line declares: blanks, then a comment that names it. -/
def lineCoding (line : List UInt8) : Option String :=
  match line.dropWhile isLineBlank with
  | 35 :: comment =>
    (codingName comment).map fun name => String.ofList (name.map (Char.ofNat ·.toNat))
  | _ => none

/-- Whether a line holds nothing but blanks and perhaps a comment. -/
def commentOnly (line : List UInt8) : Bool :=
  match line.dropWhile isLineBlank with
  | [] => true
  | b :: _ => b = 35

/-- The encoding a source declares: on its first line, or on its second when the first holds
nothing but blanks and perhaps a comment. -/
def declaredEncoding (bs : List UInt8) : Option String :=
  let first := bs.takeWhile (· ≠ 10)
  let second := ((bs.dropWhile (· ≠ 10)).drop 1).takeWhile (· ≠ 10)
  match lineCoding first with
  | some e => some e
  | none => if commentOnly first then lineCoding second else none

/-- The name the reader gives a declared encoding, from its first twelve characters in lower
case with `_` read as `-`: `utf-8` for UTF-8 and its variants, `iso-8859-1` for Latin-1 and
its variants, and otherwise the name as declared. -/
def readerName (e : String) : String :=
  let buf := String.ofList ((e.toList.take 12).map fun c => if c = '_' then '-' else c.toLower)
  if buf = "utf-8" || "utf-8-".isPrefixOf buf then "utf-8"
  else if buf = "latin-1" || buf = "iso-8859-1" || buf = "iso-latin-1" ||
      "latin-1-".isPrefixOf buf || "iso-8859-1-".isPrefixOf buf ||
      "iso-latin-1-".isPrefixOf buf then "iso-8859-1"
  else e

/-- The codecs of the interpreter, by name: each reads bytes as text, or refuses them. -/
abbrev Codecs := String → List UInt8 → Option (List Char)

/-- The bytes an import decodes, with line ends made uniform and a leading byte-order mark set
aside; and whether there was a mark. -/
def importSource (bytes : List UInt8) : Bool × List UInt8 :=
  let bs := uniformNewlineBytes bytes
  if utf8Bom.isPrefixOf bs then (true, bs.drop 3) else (false, bs)

/-- The encoding a module's bytes declare, as an import finds it. -/
def importDeclared (bytes : List UInt8) : Option String :=
  declaredEncoding (importSource bytes).2

/-- The text an import reads from a module's bytes, or none when it refuses them: a null byte,
bytes that are no text in their encoding, an encoding other than UTF-8 declared after a
byte-order mark. -/
def importText (codecs : Codecs) (bytes : List UInt8) : Option (List Char) :=
  if bytes.contains 0 then none
  else
    let (marked, bs) := importSource bytes
    match declaredEncoding bs with
    | none => (decodeUtf8 bs).toOption
    | some e =>
      if readerName e = "utf-8" then (decodeUtf8 bs).toOption
      else if marked then none
      else codecs (readerName e) bs

/-- The module an import reads from bytes, or none when it refuses them or they do not
parse. -/
def importBody (codecs : Codecs) (bytes : List UInt8) : Option (List Stmt) :=
  (importText codecs bytes).bind fun cs => (parseModule cs).toOption

/-- Whether a declared encoding is UTF-8: the reader knows its name as UTF-8, or the codec of
that name reads bytes as UTF-8 does. -/
def NamesUtf8 (codecs : Codecs) (e : String) : Prop :=
  readerName e = "utf-8" ∨ ∀ bs, codecs (readerName e) bs = (decodeUtf8 bs).toOption

/-! ## Line ends on bytes and on characters -/

theorem uniformNewlineBytes_cons_of_ne {b : UInt8} (hb : b ≠ 13) (t : List UInt8) :
    uniformNewlineBytes (b :: t) = b :: uniformNewlineBytes t := by
  cases t <;> simp [uniformNewlineBytes, hb]

theorem uniformNewlineBytes_cr_of_head {t : List UInt8} (ht : t.head? ≠ some 10) :
    uniformNewlineBytes (13 :: t) = 10 :: uniformNewlineBytes t := by
  cases t with
  | nil => rfl
  | cons x t =>
    have hx : x ≠ 10 := fun h => ht (by rw [h]; rfl)
    simp [uniformNewlineBytes, hx]

theorem uniformNewlineBytes_cr (t : List UInt8) :
    ∃ r, uniformNewlineBytes (13 :: t) = 10 :: r := by
  cases t with
  | nil => exact ⟨[], rfl⟩
  | cons z t => by_cases hz : z = 10 <;> simp [uniformNewlineBytes, hz]

theorem uniformNewlineBytes_append_of_ne {bs : List UInt8} (h : ∀ x ∈ bs, x ≠ 13)
    (t : List UInt8) :
    uniformNewlineBytes (bs ++ t) = bs ++ uniformNewlineBytes t := by
  induction bs with
  | nil => rfl
  | cons b bs ih =>
    rw [List.cons_append, uniformNewlineBytes_cons_of_ne (h b (by simp)),
      ih fun x hx => h x (by simp [hx]), List.cons_append]

theorem ne_cr_of_mem_utf8Of {c : Char} (hc : c ≠ '\r') {x : UInt8} (hx : x ∈ utf8Of c.toNat) :
    x ≠ 13 := by
  rintro rfl
  exact hc (eq_ofNat_of_mem_utf8Of hx (by decide))

theorem head_utf8Form_ne_lf {cs : List Char} (h : cs.head? ≠ some '\n') :
    (utf8Form cs).head? ≠ some 10 := by
  intro hx
  cases cs with
  | nil => simp at hx
  | cons c cs =>
    -- the first byte opens the first character's form, where a line feed is that character
    obtain ⟨y, ys, hform⟩ := List.exists_cons_of_ne_nil (utf8Of_ne_nil c.toNat)
    rw [utf8Form_cons, hform, List.cons_append, List.head?_cons, Option.some.injEq] at hx
    have hmem : (10 : UInt8) ∈ utf8Of c.toNat := by simp [hform, hx]
    rw [eq_ofNat_of_mem_utf8Of hmem (by decide)] at h
    exact h rfl

/-- Line ends made uniform on a text's form are the form of line ends made uniform on the
text. -/
theorem uniformNewlineBytes_utf8Form (cs : List Char) :
    uniformNewlineBytes (utf8Form cs) = utf8Form (uniformNewlines cs) := by
  fun_induction uniformNewlines cs with
  | case1 => rfl
  | case2 rest ih =>
    show uniformNewlineBytes (13 :: 10 :: utf8Form rest) = 10 :: utf8Form (uniformNewlines rest)
    simp [uniformNewlineBytes, ih]
  | case3 rest hrest ih =>
    -- a carriage return alone: the byte after it is no line feed
    show uniformNewlineBytes (13 :: utf8Form rest) = 10 :: utf8Form (uniformNewlines rest)
    rw [uniformNewlineBytes_cr_of_head (head_utf8Form_ne_lf ?_), ih]
    intro hhead
    obtain ⟨t, ht⟩ := List.head?_eq_some_iff.1 hhead
    exact hrest t ht
  | case4 c rest _ hc ih =>
    rw [utf8Form_cons, utf8Form_cons,
      uniformNewlineBytes_append_of_ne (fun x hx => ne_cr_of_mem_utf8Of hc hx), ih]

/-- Line ends made uniform keep a prefix that holds no line feed. -/
theorem prefix_of_prefix_uniformNewlineBytes {p : List UInt8} (hp : (10 : UInt8) ∉ p) :
    ∀ {bs : List UInt8}, p <+: uniformNewlineBytes bs → p <+: bs := by
  induction p with
  | nil => intro bs _; exact List.nil_prefix
  | cons y p ih =>
    intro bs h
    cases bs with
    | nil => simp [uniformNewlineBytes] at h
    | cons x t =>
      by_cases hx : x = 13
      · -- the reader's first byte is then a line feed, which the prefix does not start with
        obtain ⟨r, hr⟩ := uniformNewlineBytes_cr t
        rw [hx, hr, List.cons_prefix_cons] at h
        exact absurd (by rw [← h.1]; exact List.mem_cons_self) hp
      · rw [uniformNewlineBytes_cons_of_ne hx, List.cons_prefix_cons] at h
        exact List.cons_prefix_cons.2 ⟨h.1, ih (fun hp' => hp (List.mem_cons_of_mem y hp')) h.2⟩

theorem uniformNewlines_no_null {cs : List Char} (h : '\x00' ∉ cs) :
    '\x00' ∉ uniformNewlines cs := by
  fun_induction uniformNewlines cs <;> simp_all

/-! ## The two readers agree -/

/-- An import of the form of a text that starts with no byte-order mark reads the text with its
line ends made uniform, when it declares no encoding but UTF-8. -/
theorem importText_utf8Form (codecs : Codecs) {text : List Char}
    (hbom : ¬ utf8Bom <+: utf8Form text)
    (hdecl : ∀ e, importDeclared (utf8Form text) = some e → NamesUtf8 codecs e)
    (hnull : (utf8Form text).contains 0 = false) :
    importText codecs (utf8Form text) = some (uniformNewlines text) := by
  have hform := uniformNewlineBytes_utf8Form text
  have hsrc : importSource (utf8Form text) = (false, utf8Form (uniformNewlines text)) := by
    have hmark : utf8Bom.isPrefixOf (utf8Form (uniformNewlines text)) = false := by
      rw [Bool.eq_false_iff, ne_eq, List.isPrefixOf_iff_prefix, ← hform]
      exact fun h => hbom (prefix_of_prefix_uniformNewlineBytes (by decide) h)
    simp [importSource, hform, hmark]
  have hread := decodeUtf8_utf8Form (uniformNewlines text)
  unfold importText
  rw [hnull, hsrc]
  simp only [Bool.false_eq_true, if_false]
  cases hd : declaredEncoding (utf8Form (uniformNewlines text)) with
  | none => simp [hread, Except.toOption]
  | some e =>
    have hnames : NamesUtf8 codecs e := hdecl e (by rw [importDeclared, hsrc, hd])
    rcases hnames with hutf8 | hcodec
    · simp [hutf8, hread, Except.toOption]
    · simp [hcodec, hread, Except.toOption]

/-- On the UTF-8 form of a text that begins with no byte-order mark, declares no encoding but
UTF-8 and reads as a module when imported, the collector finds the entries of the module that
an import reads. -/
theorem entriesOfBytes_eq_of_import (codecs : Codecs) (stem : String) {text : List Char}
    {body : List Stmt} (hbom : ¬ utf8Bom <+: utf8Form text)
    (hdecl : ∀ e, importDeclared (utf8Form text) = some e → NamesUtf8 codecs e)
    (himport : importBody codecs (utf8Form text) = some body) :
    entriesOfBytes stem (utf8Form text) = .ok (moduleEntries stem body) := by
  -- an import refuses a null byte, so the text holds no null character
  have hnull : (utf8Form text).contains 0 = false := by
    cases h : (utf8Form text).contains 0 with
    | false => rfl
    | true =>
      rw [importBody, importText, if_pos h] at himport
      cases himport
  have hparse : parseModule (uniformNewlines text) = .ok body := by
    rw [importBody, importText_utf8Form codecs hbom hdecl hnull, Option.bind_some] at himport
    cases hp : parseModule (uniformNewlines text) with
    | error e => simp [hp, Except.toOption] at himport
    | ok b => simpa [hp, Except.toOption] using himport
  have hchar : '\x00' ∉ uniformNewlines text := by
    refine uniformNewlines_no_null fun h => ?_
    have h0 : (0 : UInt8) ∈ utf8Form text := List.mem_flatMap.2 ⟨'\x00', h, by decide⟩
    simp [h0] at hnull
  have hread : readBytes (utf8Form text) = .ok body := by
    simp [readBytes, decodeUtf8_utf8Form, readBody, hchar, hparse]
  rw [entriesOfBytes, hread]
  rfl

/-- A stub that declares UTF-8 on its first line and ends its lines with carriage returns, alone
or before line feeds. -/
def crStubText : List Char :=
  ("# -*- coding: utf-8 -*-\r\n\"\"\"Stub.\r\n\r\n>>> 1 + 1\r\n2\r\n\"\"\"\r" ++
    "def f():\r\n    \"\"\">>> f()\"\"\"\r\n").toList

theorem crStub_entries_as_imported :
    ¬ utf8Bom <+: utf8Form crStubText ∧
      importDeclared (utf8Form crStubText) = some "utf-8" ∧
      entriesOfBytes "stub" (utf8Form crStubText) =
        .ok (moduleEntries "stub"
          ((importBody (fun _ _ => none) (utf8Form crStubText)).getD [])) := by
  have hbom : ¬ utf8Bom <+: utf8Form crStubText := by decide +kernel
  have hdecl : importDeclared (utf8Form crStubText) = some "utf-8" := by decide +kernel
  have hread : importBody (fun _ _ => none) (utf8Form crStubText) =
      some ((importBody (fun _ _ => none) (utf8Form crStubText)).getD []) := by
    obtain ⟨body, hbody⟩ := Option.isSome_iff_exists.mp
      (show (importBody (fun _ _ => none) (utf8Form crStubText)).isSome by decide +kernel)
    rw [hbody]
    rfl
  refine ⟨hbom, hdecl, entriesOfBytes_eq_of_import (fun _ _ => none) "stub" hbom ?_ hread⟩
  intro e he
  rw [hdecl, Option.some.injEq] at he
  subst he
  exact Or.inl (by decide +kernel)

end StubDoctest.Stub
