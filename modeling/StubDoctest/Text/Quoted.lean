import StubDoctest.Text.Printable
import StubDoctest.Text.CodePoint

/-!
# Quoted text

The quoted form of a text, as a reader of source code would type it back: single quotes,
unless the text holds a single quote and no double quote; a backslash before the quote in
use and before a backslash; `\t`, `\n` and `\r` for tab, line feed and carriage return;
`\xhh` for the other control characters below U+0020 and for U+007F; printable characters as
themselves; and `\xhh`, `\uhhhh` or `\Uhhhhhhhh` (lower-case hexadecimal, the shortest of the
three that fits) for any other character.
-/

namespace StubDoctest.Text

/-- The lower-case hexadecimal digits of `n`, padded with zeros to `width`. -/
def hexPadded (width n : Nat) : String :=
  let ds := Nat.toDigits 16 n
  String.ofList (List.replicate (width - ds.length) '0' ++ ds)

/-- The quote character used for the quoted form of `cs`. -/
def quoteFor (cs : List Char) : Char :=
  if cs.contains '\'' && !cs.contains '"' then '"' else '\''

/-- The escaped form of one character inside a text quoted with `q`. -/
def escapeChar (q : Char) (c : Char) : List Char :=
  let n := codeOf c
  if c = q ∨ c = '\\' then ['\\', c]
  else if c = '\t' then ['\\', 't']
  else if c = '\n' then ['\\', 'n']
  else if c = '\r' then ['\\', 'r']
  else if n < 0x20 ∨ n = 0x7f then ('\\' :: 'x' :: (hexPadded 2 n).toList)
  else if n < 0x7f then [c]
  else if isPrintable c then [c]
  else if n ≤ 0xff then ('\\' :: 'x' :: (hexPadded 2 n).toList)
  else if n ≤ 0xffff then ('\\' :: 'u' :: (hexPadded 4 n).toList)
  else ('\\' :: 'U' :: (hexPadded 8 n).toList)

/-- The quoted form of the characters `cs`. -/
def quoteChars (cs : List Char) : List Char :=
  let q := quoteFor cs
  q :: (cs.flatMap (escapeChar q) ++ [q])

/-- The quoted form of `s`. -/
def quote (s : String) : String := String.ofList (quoteChars s.toList)

end StubDoctest.Text
