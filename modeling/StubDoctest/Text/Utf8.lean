/-!
# Strict UTF-8 decoding

Bytes are read as UTF-8, refusing what the standard refuses: a byte that cannot start a
character, a start byte not followed by the continuation bytes it announces (overlong forms,
surrogates and code points past U+10FFFF count as a bad second byte), and a sequence cut
short by the end of the input. The first such fault stops decoding; it names the bytes it
covers and why.
-/

namespace StubDoctest.Text

/-- Why bytes are no UTF-8. -/
inductive Utf8Problem
  /-- The byte cannot start a character. -/
  | invalidStart
  /-- A byte that should continue the character does not. -/
  | invalidContinuation
  /-- The input ends inside a character. -/
  | unexpectedEnd
  deriving DecidableEq, Repr

/-- A decoding fault: the bytes from `start` up to `stop` (exclusive) cannot be read, the
first of them being `first`. -/
structure Utf8Fault where
  /-- The position of the first byte that cannot be read. -/
  start : Nat
  /-- The position after the last byte of the fault. -/
  stop : Nat
  /-- The first byte of the fault. -/
  first : UInt8
  /-- Why the bytes cannot be read. -/
  problem : Utf8Problem
  deriving Repr

/-- The reason of a problem, as a decoder states it. -/
def Utf8Problem.reason : Utf8Problem → String
  | .invalidStart => "invalid start byte"
  | .invalidContinuation => "invalid continuation byte"
  | .unexpectedEnd => "unexpected end of data"

/-- The text of a decoding fault. -/
def Utf8Fault.message (f : Utf8Fault) : String :=
  let hex := Nat.toDigits 16 f.first.toNat
  let hex := String.ofList (List.replicate (2 - hex.length) '0' ++ hex)
  if f.stop = f.start + 1 then
    "'utf-8' codec can't decode byte 0x" ++ hex ++ " in position " ++ toString f.start ++
      ": " ++ f.problem.reason
  else
    "'utf-8' codec can't decode bytes in position " ++ toString f.start ++ "-" ++
      toString (f.stop - 1) ++ ": " ++ f.problem.reason

/-- Whether `b` is a continuation byte. -/
def isContinuation (b : UInt8) : Bool := 0x80 ≤ b.toNat && b.toNat < 0xC0

/-- The value of a continuation byte. -/
def contValue (b : UInt8) : Nat := b.toNat % 64

/-- Whether a second byte `b` is allowed after the start byte `s`: a continuation byte, and
not one that makes an overlong form, a surrogate or a code point past U+10FFFF. -/
def secondOk (s b : UInt8) : Bool :=
  isContinuation b &&
    (if s.toNat = 0xE0 then 0xA0 ≤ b.toNat
     else if s.toNat = 0xED then b.toNat < 0xA0
     else if s.toNat = 0xF0 then 0x90 ≤ b.toNat
     else if s.toNat = 0xF4 then b.toNat < 0x90
     else true)

/-- Decode the bytes `bs`, the first of which is at position `pos`; the characters decoded
before are `acc`, last first. -/
def decodeFrom (pos : Nat) (acc : List Char) : List UInt8 → Except Utf8Fault (List Char)
  | [] => .ok acc.reverse
  | s :: rest =>
    let n := s.toNat
    let fault (len : Nat) (p : Utf8Problem) : Except Utf8Fault (List Char) :=
      .error ⟨pos, pos + len, s, p⟩
    let left := rest.length + 1
    if n < 0x80 then decodeFrom (pos + 1) (Char.ofNat n :: acc) rest
    else if n < 0xC2 then fault 1 .invalidStart
    else if n < 0xE0 then
      match rest with
      | [] => fault left .unexpectedEnd
      | b :: rest' =>
        if isContinuation b then
          decodeFrom (pos + 2) (Char.ofNat ((n % 32) * 64 + contValue b) :: acc) rest'
        else fault 1 .invalidContinuation
    else if n < 0xF0 then
      match rest with
      | [] => fault left .unexpectedEnd
      | [b] => if secondOk s b then fault left .unexpectedEnd else fault 1 .invalidContinuation
      | b :: c :: rest' =>
        if !secondOk s b then fault 1 .invalidContinuation
        else if !isContinuation c then fault 2 .invalidContinuation
        else
          decodeFrom (pos + 3)
            (Char.ofNat ((n % 16) * 4096 + contValue b * 64 + contValue c) :: acc) rest'
    else if n < 0xF5 then
      match rest with
      | [] => fault left .unexpectedEnd
      | [b] => if secondOk s b then fault left .unexpectedEnd else fault 1 .invalidContinuation
      | [b, c] =>
        if !secondOk s b then fault 1 .invalidContinuation
        else if !isContinuation c then fault 2 .invalidContinuation
        else fault left .unexpectedEnd
      | b :: c :: d :: rest' =>
        if !secondOk s b then fault 1 .invalidContinuation
        else if !isContinuation c then fault 2 .invalidContinuation
        else if !isContinuation d then fault 3 .invalidContinuation
        else
          decodeFrom (pos + 4)
            (Char.ofNat ((n % 8) * 262144 + contValue b * 4096 + contValue c * 64 +
              contValue d) :: acc) rest'
    else fault 1 .invalidStart

/-- The first character of UTF-8 bytes that do not start with a fault, as its code point and
the number of bytes it takes; or the fault at their start, as the number of bytes it covers
and its problem. -/
def utf8Next : List UInt8 → Except (Nat × Utf8Problem) (Nat × Nat)
  | [] => .error (0, .unexpectedEnd)
  | s :: rest =>
    let n := s.toNat
    let left := rest.length + 1
    if n < 0x80 then .ok (n, 1)
    else if n < 0xC2 then .error (1, .invalidStart)
    else if n < 0xE0 then
      match rest with
      | [] => .error (left, .unexpectedEnd)
      | b :: _ =>
        if isContinuation b then .ok ((n % 32) * 64 + contValue b, 2)
        else .error (1, .invalidContinuation)
    else if n < 0xF0 then
      match rest with
      | [] => .error (left, .unexpectedEnd)
      | [b] => if secondOk s b then .error (left, .unexpectedEnd) else .error (1, .invalidContinuation)
      | b :: c :: _ =>
        if !secondOk s b then .error (1, .invalidContinuation)
        else if !isContinuation c then .error (2, .invalidContinuation)
        else .ok ((n % 16) * 4096 + contValue b * 64 + contValue c, 3)
    else if n < 0xF5 then
      match rest with
      | [] => .error (left, .unexpectedEnd)
      | [b] => if secondOk s b then .error (left, .unexpectedEnd) else .error (1, .invalidContinuation)
      | [b, c] =>
        if !secondOk s b then .error (1, .invalidContinuation)
        else if !isContinuation c then .error (2, .invalidContinuation)
        else .error (left, .unexpectedEnd)
      | b :: c :: d :: _ =>
        if !secondOk s b then .error (1, .invalidContinuation)
        else if !isContinuation c then .error (2, .invalidContinuation)
        else if !isContinuation d then .error (3, .invalidContinuation)
        else .ok ((n % 8) * 262144 + contValue b * 4096 + contValue c * 64 + contValue d, 4)
    else .error (1, .invalidStart)

/-- The characters of UTF-8 bytes, or the first fault. -/
def decodeUtf8 (bs : List UInt8) : Except Utf8Fault (List Char) := decodeFrom 0 [] bs

/-- Line ends made uniform: a carriage return, alone or before a line feed, becomes a line
feed. -/
def uniformNewlines : List Char → List Char
  | [] => []
  | '\r' :: '\n' :: rest => '\n' :: uniformNewlines rest
  | '\r' :: rest => '\n' :: uniformNewlines rest
  | c :: rest => c :: uniformNewlines rest

end StubDoctest.Text
