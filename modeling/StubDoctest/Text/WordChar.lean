import StubDoctest.Text.Table

/-!
# Word characters

A word character is a letter, a digit or a number character of the Unicode standard
(version 14), or the underscore. These are the characters a word-character class matches in a
pattern over text, such as the start of the message line after a traceback header.
-/

namespace StubDoctest.Text

/-- The ranges of code points of word characters. -/
def wordTable : RangeTable := RangeTable.decode (
  "30 9 7 19 4 0 1 19 2f 0 7 1 1 0 3 1 1 2 1 16 1 1e 1 1c9 4 b e 4 7 0 1 0 81 4 1 1 2 3 1 0 " ++
  "6 0 1 2 1 0 1 13 1 52 1 8a 8 a5 1 25 2 0 6 28 47 1a 4 3 2d 2a 15 9 4 1 1 62 1 0 f 1 7 e " ++
  "2 0 10 0 1 1d 1d 58 b 0 e 2a 9 1 4 0 5 15 4 0 9 0 3 0 17 18 7 a 5 17 1 5 11 29 3a 35 3 0 " ++
  "12 0 7 9 4 9 1 f 4 7 2 1 2 15 1 6 1 0 3 3 3 0 10 0 d 1 1 2 4 b 2 5 2 0 8 5 4 1 2 15 1 6 " ++
  "1 1 1 1 1 1 1f 3 1 0 7 9 2 2 10 8 1 2 1 15 1 6 1 1 1 4 3 0 12 0 f 1 4 9 9 0 b 7 2 1 2 15 " ++
  "1 6 1 1 1 4 3 0 1e 1 1 2 4 9 1 6 b 0 1 5 3 2 1 3 3 1 1 0 1 1 3 1 3 2 3 b 16 0 15 c 12 7 " ++
  "1 2 1 16 1 f 3 0 1a 2 2 0 2 1 4 9 8 6 1 0 4 7 1 2 1 16 1 9 1 4 3 0 1f 1 1 1 4 9 1 1 11 8 " ++
  "1 2 1 28 2 0 10 0 5 2 1 9 4 12 1 5 5 11 3 17 1 8 1 0 2 6 1f 9 11 2f 1 1 c 6 9 9 27 1 1 0 " ++
  "1 4 1 17 1 0 1 9 1 1 9 0 2 4 1 0 9 9 2 3 20 0 1f 13 c 7 1 23 1b 4 73 2a 14 a 6 5 4 3 3 0 " ++
  "3 1 7 2 4 c c 0 1 9 6 25 1 0 5 0 2 2a 1 14c 1 3 2 6 1 0 1 3 2 28 1 3 2 20 1 3 2 6 1 0 1 " ++
  "3 2 e 1 38 1 3 2 42 e 13 3 f 10 55 2 5 3 26b 2 10 1 19 5 4a 3 a 7 11 d 12 e 11 e c 1 2 f " ++
  "33 23 0 4 0 3 9 6 9 16 9 6 58 7 4 2 21 1 0 5 45 a 1e 27 27 2 4 b 2b 4 19 6 a 25 16 9 34 " ++
  "2b 9 6 9 d 0 5d 2e 11 7 3 9 29 1d d 37 1a 23 1c 9 3 30 2 8 7 2a 2 2 29 3 1 5 1 1 3 0 5 " ++
  "bf 40 115 2 5 2 25 2 5 2 7 1 0 1 0 1 0 1 1e 2 34 1 6 1 0 3 2 1 6 3 3 2 5 4 c 5 2 1 6 73 " ++
  "1 2 5 5 a 6 c 65 0 4 0 2 9 1 0 3 4 6 0 1 0 1 0 1 3 1 a 2 3 5 4 4 0 1 39 2d6 3b 4e 15 276 " ++
  "1d 46c e4 6 3 3 1 9 0 2 25 1 0 5 0 2 37 7 0 10 16 9 6 1 6 1 6 1 6 1 6 1 6 1 6 1 6 50 0 " ++
  "1d5 2 19 8 7 4 2 4 4 55 6 2 1 59 1 3 5 2a 1 5d 3 3 a 1f 30 f 20 9 1e 7 1 e 20 9 27 e 140 " ++
  "19bf 40 568c 43 2d 2 10c 3 1b 14 2e 10 1e 2 4f 27 8 2 66 2 3f 5 1 1 0 1 4 18 f 1 2 1 3 1 " ++
  "16 d 5 a 33 e 31 1c 9 18 5 3 0 1 1 1 25 a 16 19 1c 7 2e 1c a 6 4 1 18 1 28 17 2 1 7 4 9 " ++
  "6 16 3 0 3 31 1 0 3 1 2 4 2 0 1 0 18 2 2 a 7 2 c 5 2 5 2 5 9 6 1 6 1 2a 1 d 6 72 d 9 6 " ++
  "2ba3 c 16 4 30 2104 16d 2 69 26 6 c 4 5 0 1 9 1 c 1 4 1 0 1 1 1 1 1 6b 21 16a 12 3f 2 35 " ++
  "28 b 74 4 1 86 13 9 7 19 6 19 b 58 3 5 2 5 2 5 2 2 23 b 1 19 1 12 1 1 1 e 2 d 22 7a c 2c " ++
  "c 38 11 1 f4 1c 3 30 10 1a 4 23 9 1d 5 25 a 1d 2 23 4 7 1 4 2a 9d 2 9 6 23 4 23 4 27 8 " ++
  "33 c a 1 e 1 6 1 1 1 a 1 e 1 6 1 1 43 136 9 15 a 7 18 5 1 29 1 8 45 5 2 0 1 2b 1 1 3 0 2 " ++
  "16 2 1e 2 25 8 8 30 12 1 1 5 20 4 19 46 37 4 13 2 2e f 3 1 2 1 1c a 8 17 1e 1 1f 20 7 1 " ++
  "1b 6 4 10 35 a 15 2 1a 5 19 17 6 50 48 37 32 d 32 7 29 c 9 126 1e 1 29 6 1 4e 27 8 15 b " ++
  "3 1b 11 2e 1b 14 16 c 34 1a 1d 1 1 2 0 d 2c 20 18 7 9 9 23 f 9 4 0 2 0 8 22 3 0 c 2f e 3 " ++
  "b a 1 0 4 13 b 11 1 18 54 6 1 0 1 3 1 e 1 9 7 2e 11 9 b 7 2 1 2 15 1 6 1 1 1 4 3 0 12 0 " ++
  "c 4 9e 34 12 3 5 9 5 2 1e 2f 14 1 1 0 8 9 a6 2e 29 3 24 2f 14 0 b 9 26 2a d 0 7 9 36 1a " ++
  "15 b 4 6 b9 2b 74 52 c 7 2 0 2 7 1 1 1 17 f 0 1 0 e 9 46 7 2 26 10 0 1 0 1c 0 a 27 7 0 " ++
  "15 0 b 2d 13 0 12 48 107 8 1 24 11 0 f 1c 5 1d 70 6 1 1 1 25 15 0 9 9 6 5 1 1 1 1f e 0 7 " ++
  "9 136 12 bd 0 f 14 2b 399 66 6e 11 c3 a4c 60 f 42e fd1 246 21b9 238 7 1e 1 9 6 4e 1 9 6 " ++
  "1d 12 2f 10 3 c 9 1 6 1 14 5 12 2b0 56 69 4a 5 0 42 c 40 1 1 0 1c 17f7 8 4d5 2a 8 22e7 3 " ++
  "1 6 1 1 1 122 2d 2 11 3 8 18b 904 6a 5 c 3 8 7 9 1646 13 6c 18 87 54 1 46 1 1 2 0 2 1 2 " ++
  "3 1 b 1 0 1 6 1 40 1 3 2 7 1 6 1 1b 1 3 1 4 1 0 3 6 1 153 2 18 1 18 1 1e 1 18 1 1e 1 18 " ++
  "1 1e 1 18 1 1e 1 18 1 7 2 31 700 1e 1e1 2c a 6 2 9 4 0 141 1d 12 2b 4 9 4e6 6 1 3 1 1 1 " ++
  "e 1 c4 2 8 30 43 7 0 4 9 317 3a 1 2 1 3 4c 2c 1 e c2 3 1 1a 1 1 1 0 2 0 1 9 1 3 1 0 1 0 " ++
  "6 0 4 0 1 0 1 0 1 2 1 1 1 0 2 0 1 0 1 0 1 0 1 0 1 1 1 0 2 3 1 6 1 3 1 3 1 0 1 9 1 10 5 2 " ++
  "1 4 1 10 244 c ae3 9 406 a6df 20 1038 7 dd 2 1681 e 1d30 c1f 21d 5e2 134a")

/-- Whether `c` is a letter, digit, number character or underscore. -/
def isWordChar (c : Char) : Bool := wordTable.has c

end StubDoctest.Text
