import StubDoctest.Text.CodePoint
import StubDoctest.Text.Quoted
import StubDoctest.Text.Utf8

/-!
# Codecs

Text becomes bytes, and bytes text, through one of three codecs: UTF-8, ASCII and Latin-1.
Where a codec cannot go on, an error handler named by the caller decides what happens to the
stretch it is stuck on: a maximal run of characters it cannot encode, or one byte sequence it
cannot decode.

* `strict` refuses, with a fault that names the codec, the stretch and the reason;
* `ignore` drops the stretch;
* `replace` puts `?` for each character, or one U+FFFD for the bytes;
* `backslashreplace` writes each character or byte as an escape;
* `xmlcharrefreplace` writes each character as a decimal character reference;
* `surrogateescape` maps undecodable bytes to the surrogates U+DC80 to U+DCFF, and those
  surrogates back to their bytes;
* `surrogatepass` lets UTF-8 carry surrogates like other code points.

A handler that cannot deal with a stretch refuses it as `strict` would; an unknown handler is
only looked up, and refused, when a stretch needs it.
-/

namespace StubDoctest.Text

/-- A codec between text and bytes. -/
inductive Codec where
  /-- UTF-8, which cannot encode surrogates. -/
  | utf8
  /-- ASCII: code points below 128. -/
  | ascii
  /-- Latin-1: code points below 256, one byte each. -/
  | latin1
  deriving DecidableEq, Repr

/-- The name a codec reports itself by. -/
def Codec.name : Codec → String
  | .utf8 => "utf-8"
  | .ascii => "ascii"
  | .latin1 => "latin-1"

/-- An encoding name as it is looked up: in lower case, each run of characters other than
letters, digits and dots between two of them written as one underscore. -/
def normalEncodingName (s : String) : String :=
  let keep (c : Char) : Bool := c.isAlphanum || c = '.'
  let step := fun (acc : List Char × Bool) (c : Char) =>
    if keep c then
      let out := if acc.2 && !acc.1.isEmpty then '_' :: acc.1 else acc.1
      (asciiLower c :: out, false)
    else (acc.1, true)
  String.ofList (s.toList.foldl step ([], false)).1.reverse
where
  asciiLower (c : Char) : Char := if 'A' ≤ c ∧ c ≤ 'Z' then Char.ofNat (c.toNat + 32) else c

/-- The codec an encoding name denotes, by its own name or one of its aliases. -/
def Codec.ofName? (s : String) : Option Codec :=
  let n := normalEncodingName s
  let m := n.map fun c => if c = '.' then '_' else c
  let is (names : List String) : Bool := names.contains n || names.contains m
  if is ["utf_8", "utf8", "u8", "utf", "utf8_ucs2", "utf8_ucs4", "cp65001"] then some .utf8
  else if is ["ascii", "us_ascii", "646", "ansi_x3.4_1968", "ansi_x3_4_1968", "ansi_x3.4_1986",
      "cp367", "csascii", "ibm367", "iso646_us", "iso_646.irv_1991", "iso_ir_6", "us"] then
    some .ascii
  else if is ["latin_1", "latin1", "latin", "l1", "8859", "cp819", "csisolatin1", "ibm819",
      "iso8859", "iso8859_1", "iso_8859_1", "iso_8859_1_1987", "iso_ir_100"] then
    some .latin1
  else none

/-- What to do with a stretch a codec is stuck on. -/
inductive ErrorHandler where
  /-- Refuse it. -/
  | strict
  /-- Drop it. -/
  | ignore
  /-- Put a replacement character in its place. -/
  | replace
  /-- Write it as escapes. -/
  | backslash
  /-- Write it as decimal character references. -/
  | xmlRef
  /-- Map bytes to surrogates and back. -/
  | escapeSurrogates
  /-- Let UTF-8 carry surrogates. -/
  | passSurrogates
  /-- A handler of no known name. -/
  | unknown (name : String)
  deriving DecidableEq, Repr

/-- The handler of a name. -/
def ErrorHandler.ofName (s : String) : ErrorHandler :=
  match s with
  | "strict" => .strict
  | "ignore" => .ignore
  | "replace" => .replace
  | "backslashreplace" | "namereplace" => .backslash
  | "xmlcharrefreplace" => .xmlRef
  | "surrogateescape" => .escapeSurrogates
  | "surrogatepass" => .passSurrogates
  | other => .unknown other

/-- A stretch a codec refused: the positions from `start` up to `stop` (exclusive) and why. -/
structure CodecFault where
  /-- The codec. -/
  codec : Codec
  /-- The position of the first character or byte refused. -/
  start : Nat
  /-- The position after the last one. -/
  stop : Nat
  /-- Why the codec refused them. -/
  reason : String
  deriving Repr

/-- Why text could not be encoded or bytes decoded. -/
inductive CodecProblem where
  /-- A stretch was refused. -/
  | refused (f : CodecFault)
  /-- A stretch needed a handler of no known name. -/
  | unknownHandler (name : String)
  /-- The handler only deals with encoding. -/
  | encodeOnly
  deriving Repr

/-- Whether a codec encodes a code point. -/
def Codec.encodes : Codec → Nat → Bool
  | .utf8, n => !isSurrogate n
  | .ascii, n => n < 128
  | .latin1, n => n < 256

/-- Why a codec refuses the code points it does not encode. -/
def Codec.encodeReason : Codec → String
  | .utf8 => "surrogates not allowed"
  | .ascii => "ordinal not in range(128)"
  | .latin1 => "ordinal not in range(256)"

/-- The UTF-8 form of a code point, surrogates written like other code points. -/
def utf8Of (n : Nat) : List UInt8 :=
  if n < 0x80 then [n.toUInt8]
  else if n < 0x800 then [(0xC0 + n / 64).toUInt8, (0x80 + n % 64).toUInt8]
  else if n < 0x10000 then
    [(0xE0 + n / 4096).toUInt8, (0x80 + n / 64 % 64).toUInt8, (0x80 + n % 64).toUInt8]
  else
    [(0xF0 + n / 262144).toUInt8, (0x80 + n / 4096 % 64).toUInt8,
      (0x80 + n / 64 % 64).toUInt8, (0x80 + n % 64).toUInt8]

/-- The bytes of a code point the codec encodes. -/
def Codec.bytesOf : Codec → Nat → List UInt8
  | .utf8, n => utf8Of n
  | _, n => [n.toUInt8]

/-- The escape of a code point: `\xhh`, `\uhhhh` or `\Uhhhhhhhh`. -/
def escapeOfCode (n : Nat) : List Char :=
  if n ≤ 0xff then '\\' :: 'x' :: (hexPadded 2 n).toList
  else if n ≤ 0xffff then '\\' :: 'u' :: (hexPadded 4 n).toList
  else '\\' :: 'U' :: (hexPadded 8 n).toList

/-- ASCII characters as bytes. -/
def asciiBytes (cs : List Char) : List UInt8 := cs.map (·.toNat.toUInt8)

/-- Whether a code point is one of the surrogates that stand for an undecodable byte. -/
def isByteSurrogate (n : Nat) : Bool := 0xDC80 ≤ n && n ≤ 0xDCFF

/-- The bytes a handler puts for a stretch of code points starting at `pos`, or the fault
that refuses the stretch from the first code point it cannot deal with. -/
def ErrorHandler.encodeStretch (eh : ErrorHandler) (codec : Codec) (pos : Nat)
    (codes : List Nat) : Except CodecProblem (List UInt8) :=
  let refuse (k : Nat) : Except CodecProblem (List UInt8) :=
    .error (.refused ⟨codec, pos + k, pos + codes.length, codec.encodeReason⟩)
  match eh with
  | .strict => refuse 0
  | .ignore => .ok []
  | .replace => .ok (codes.map fun _ => 63)
  | .backslash => .ok (asciiBytes (codes.flatMap escapeOfCode))
  | .xmlRef => .ok (asciiBytes (codes.flatMap fun n => ("&#" ++ toString n ++ ";").toList))
  | .escapeSurrogates =>
    let good := codes.takeWhile isByteSurrogate
    if good.length = codes.length then .ok (good.map fun n => (n - 0xDC00).toUInt8)
    else refuse good.length
  | .passSurrogates =>
    if codec = .utf8 && codes.all isSurrogate then .ok (codes.flatMap utf8Of) else refuse 0
  | .unknown name => .error (.unknownHandler name)

/-- The bytes of the code points `codes`, the first at position `pos`. -/
def encodeCodes (codec : Codec) (eh : ErrorHandler) (pos : Nat) :
    List Nat → Except CodecProblem (List UInt8)
  | [] => .ok []
  | n :: rest =>
    if codec.encodes n then
      (encodeCodes codec eh (pos + 1) rest).map (codec.bytesOf n ++ ·)
    else
      let run := rest.takeWhile (!codec.encodes ·)
      let after := rest.drop run.length
      match eh.encodeStretch codec pos (n :: run) with
      | .ok bs => (encodeCodes codec eh (pos + 1 + run.length) after).map (bs ++ ·)
      | .error p => .error p
termination_by codes => codes.length
decreasing_by all_goals (simp only [List.length_cons, List.length_drop]; omega)

/-- Text encoded by a codec. -/
def encodeText (codec : Codec) (eh : ErrorHandler) (s : String) :
    Except CodecProblem (List UInt8) :=
  encodeCodes codec eh 0 (s.toList.map codeOf)

/-- The first code point of bytes and how many bytes it takes, or the length of the
undecodable sequence at their start and why it is one. -/
def Codec.decodeNext : Codec → List UInt8 → Except (Nat × String) (Nat × Nat)
  | .utf8, bs =>
    match utf8Next bs with
    | .ok r => .ok r
    | .error (k, p) => .error (k, p.reason)
  | .ascii, b :: _ => if b.toNat < 128 then .ok (b.toNat, 1) else .error (1, "ordinal not in range(128)")
  | .latin1, b :: _ => .ok (b.toNat, 1)
  | _, [] => .error (0, "unexpected end of data")

/-- The code points a handler puts for an undecodable byte sequence `bad` at `pos` that is
followed by `rest`, with how many bytes of `bad` and `rest` it has consumed; or its refusal. -/
def ErrorHandler.decodeStretch (eh : ErrorHandler) (codec : Codec) (pos : Nat)
    (bad rest : List UInt8) (reason : String) : Except CodecProblem (List Nat × Nat) :=
  let refuse : Except CodecProblem (List Nat × Nat) :=
    .error (.refused ⟨codec, pos, pos + bad.length, reason⟩)
  match eh with
  | .strict => refuse
  | .ignore => .ok ([], bad.length)
  | .replace => .ok ([0xFFFD], bad.length)
  | .backslash => .ok ((bad.flatMap fun b => escapeOfCode b.toNat).map Char.toNat, bad.length)
  | .xmlRef => .error .encodeOnly
  | .escapeSurrogates =>
    if bad.all (·.toNat ≥ 128) then .ok (bad.map fun b => 0xDC00 + b.toNat, bad.length)
    else refuse
  | .passSurrogates =>
    match codec, bad ++ rest with
    | .utf8, a :: b :: c :: _ =>
      if a.toNat = 0xED && 0xA0 ≤ b.toNat && b.toNat < 0xC0 && isContinuation c then
        .ok ([0xD000 + (b.toNat % 64) * 64 + c.toNat % 64], 3)
      else refuse
    | _, _ => refuse
  | .unknown name => .error (.unknownHandler name)

/-- The code points of bytes, the first at position `pos`. -/
def decodeCodes (codec : Codec) (eh : ErrorHandler) : Nat → List UInt8 →
    Except CodecProblem (List Nat)
  | _, [] => .ok []
  | pos, b :: more =>
    match codec.decodeNext (b :: more) with
    | .ok (n, k) =>
      if 0 < k then (decodeCodes codec eh (pos + k) ((b :: more).drop k)).map (n :: ·)
      else .ok [n]
    | .error (k, reason) =>
      let k := max k 1
      match eh.decodeStretch codec pos ((b :: more).take k) ((b :: more).drop k) reason with
      | .ok (ns, used) =>
        let used := max used 1
        (decodeCodes codec eh (pos + used) ((b :: more).drop used)).map (ns ++ ·)
      | .error p => .error p
termination_by _ bs => bs.length
decreasing_by all_goals simp_wf <;> omega

/-- Bytes decoded by a codec into text. -/
def decodeBytes (codec : Codec) (eh : ErrorHandler) (bs : List UInt8) :
    Except CodecProblem String :=
  (decodeCodes codec eh 0 bs).map fun ns => String.ofList (ns.map ofCode)

end StubDoctest.Text
