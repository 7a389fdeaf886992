import StubDoctest.Text.Case
import StubDoctest.Text.Blank

/-!
# Regular expressions: patterns as trees

A pattern is parsed into a `Node` tree with its flags already applied. Each literal and set
knows whether case is ignored and whether its classes are ASCII's or Unicode's; each `^`,
`$` and `.` knows whether MULTILINE or DOTALL holds where it stands. A scoped flag such as
`(?i:...)` therefore leaves no node of its own in the tree.

Ignoring case compares characters by their simple lower case. Under Unicode rules it also
joins the few characters that lower-case apart yet denote one letter (`s` and `ſ`, `µ` and
`μ`, the Greek symbol variants, ...), so that `(?i)s` matches `ſ`.

The width of a node, the least and the most characters it can match, decides whether a
lookbehind is allowed: only a body of one fixed width can be matched backwards from a position.
-/

namespace StubDoctest.Regex

open StubDoctest.Text

/-- The flag bits of a pattern. -/
def flagTemplate : Nat := 1
/-- IGNORECASE: letters match regardless of case. -/
def flagIgnoreCase : Nat := 2
/-- LOCALE: classes follow the locale (bytes patterns only). -/
def flagLocale : Nat := 4
/-- MULTILINE: `^` and `$` also match at line boundaries. -/
def flagMultiline : Nat := 8
/-- DOTALL: `.` also matches a newline. -/
def flagDotAll : Nat := 16
/-- UNICODE: classes are Unicode's (the default for text patterns). -/
def flagUnicode : Nat := 32
/-- VERBOSE: blanks and comments in the pattern are skipped. -/
def flagVerbose : Nat := 64
/-- DEBUG: the compiled pattern is printed. -/
def flagDebug : Nat := 128
/-- ASCII: classes are ASCII's. -/
def flagAscii : Nat := 256

/-- Whether the flag bit `f` is set in `flags`. -/
def hasFlag (flags f : Nat) : Bool := flags &&& f != 0

/-- How characters compare where a node stands. -/
structure CharRules where
  /-- Whether case is ignored. -/
  ignoreCase : Bool
  /-- Whether classes and case are ASCII's rather than Unicode's. -/
  ascii : Bool
  deriving DecidableEq, Repr, Inhabited

/-- A class of characters an escape names: `\d`, `\s` or `\w`. -/
inductive Category where
  | digit
  | space
  | word
  deriving DecidableEq, Repr, Inhabited

/-- One member of a bracketed set. -/
inductive SetItem where
  /-- One character, by code point. -/
  | char (c : Nat)
  /-- The characters from `lo` to `hi`. -/
  | range (lo hi : Nat)
  /-- A class, or with `negated` its complement (`\D`, `\S`, `\W`). -/
  | category (c : Category) (negated : Bool)
  deriving DecidableEq, Repr, Inhabited

/-- A condition on a position that consumes nothing. -/
inductive Anchor where
  /-- The start of the subject: `\A`, and `^` without MULTILINE. -/
  | start
  /-- The start of the subject or of a line: `^` with MULTILINE. -/
  | lineStart
  /-- The end of the subject, or just before a newline that ends it: `$` without MULTILINE. -/
  | finalEnd
  /-- The end of the subject or of a line: `$` with MULTILINE. -/
  | lineEnd
  /-- The very end of the subject: `\Z`. -/
  | textEnd
  /-- A word boundary `\b`, or with `negated` a place that is not one (`\B`). -/
  | boundary (ascii negated : Bool)
  deriving DecidableEq, Repr, Inhabited

/-- How a repetition chooses its count. -/
inductive Greed where
  /-- As many as possible, giving back on failure. -/
  | greedy
  /-- As few as possible, taking more on failure. -/
  | lazy
  /-- As many as possible, never giving back. -/
  | possessive
  deriving DecidableEq, Repr, Inhabited

/-- A parsed pattern. -/
inductive Node where
  /-- One character, by code point. -/
  | char (c : Nat) (rules : CharRules)
  /-- A bracketed set, or with `negated` its complement. -/
  | set (items : List SetItem) (negated : Bool) (rules : CharRules)
  /-- Any character; a newline only with `dotAll`. -/
  | any (dotAll : Bool)
  /-- A condition on the position. -/
  | anchor (a : Anchor)
  /-- The nodes one after another. -/
  | seq (items : List Node)
  /-- The first of the branches that lets the rest match. -/
  | alt (branches : List Node)
  /-- A capturing group. -/
  | group (index : Nat) (body : Node)
  /-- The body from `min` to `max` times (`none`: without bound). -/
  | repeated (body : Node) (min : Nat) (max : Option Nat) (greed : Greed)
  /-- The text a group captured, again. -/
  | backref (index : Nat) (rules : CharRules)
  /-- A lookahead: the body matches here (with `negated`: does not), consuming nothing. -/
  | ahead (negated : Bool) (body : Node)
  /-- A lookbehind: the body, of `width` characters, matches just before here. -/
  | behind (negated : Bool) (width : Nat) (body : Node)
  /-- The body's first match, never revisited. -/
  | atomic (body : Node)
  /-- `yes` if the group has captured, else `no`. -/
  | cond (index : Nat) (yes no : Node)
  deriving Repr, Inhabited

/-- The largest width a node is given; an unbounded repetition reaches it. -/
def maxWidth : Nat := Nat.pow 2 64

/-- The sum of two widths, capped at `maxWidth`. -/
def addWidth (a b : Nat × Nat) : Nat × Nat :=
  (min (a.1 + b.1) maxWidth, min (a.2 + b.2) maxWidth)

mutual
/-- The least and the most characters a node can match; `groupWidth` gives the widths of the
groups a backreference can name. -/
def Node.width (groupWidth : Nat → Nat × Nat) : Node → Nat × Nat
  | .char .. | .set .. | .any _ => (1, 1)
  | .anchor _ | .ahead .. | .behind .. => (0, 0)
  | .seq items => seqWidth groupWidth items
  | .alt branches => altWidth groupWidth branches
  | .group _ body | .atomic body => body.width groupWidth
  | .repeated body lo hi _ =>
    let w := body.width groupWidth
    (min (w.1 * lo) maxWidth,
      match hi with
      | none => if w.2 = 0 then 0 else maxWidth
      | some n => min (w.2 * n) maxWidth)
  | .backref i _ => groupWidth i
  | .cond _ yes no =>
    let a := yes.width groupWidth
    let b := no.width groupWidth
    (min a.1 b.1, max a.2 b.2)
/-- The width of nodes one after another. -/
def seqWidth (groupWidth : Nat → Nat × Nat) : List Node → Nat × Nat
  | [] => (0, 0)
  | n :: rest => addWidth (n.width groupWidth) (seqWidth groupWidth rest)
/-- The width of a choice among branches. -/
def altWidth (groupWidth : Nat → Nat × Nat) : List Node → Nat × Nat
  | [] => (maxWidth, 0)
  | n :: rest =>
    let a := n.width groupWidth
    let b := altWidth groupWidth rest
    (min a.1 b.1, max a.2 b.2)
end

/-- The lower case of a character under ASCII or Unicode rules, one character for one. -/
def lowerOf (ascii : Bool) (c : Nat) : Nat :=
  if ascii then (if 65 ≤ c ∧ c ≤ 90 then c + 32 else c)
  else match lowerChars (Char.ofNat c) with
    | d :: _ => d.toNat
    | [] => c

/-- The upper case of a character under ASCII or Unicode rules; a character whose upper case
is several characters is kept. -/
def upperOf (ascii : Bool) (c : Nat) : Nat :=
  if ascii then (if 97 ≤ c ∧ c ≤ 122 then c - 32 else c)
  else match upperChars (Char.ofNat c) with
    | [d] => d.toNat
    | _ => c

/-- Whether a character has a case: its lower or its upper case differs from it. Case is
ignored only for the literals and sets that hold such a character. -/
def isCasedFor (ascii : Bool) (c : Nat) : Bool :=
  lowerOf ascii c != c || upperOf ascii c != c

/-- Classes of lower-case characters that denote one letter though they are not one another's
lower case. -/
def caseFixes : List (List Nat) :=
  [[105, 305], [115, 383], [181, 956], [837, 953, 8126], [912, 8147], [944, 8163], [946, 976],
    [949, 1013], [952, 977], [954, 1008], [960, 982], [961, 1009], [962, 963], [966, 981],
    [1074, 7296], [1076, 7297], [1086, 7298], [1089, 7299], [1090, 7300, 7301], [1098, 7302],
    [1123, 7303], [7304, 42571], [7777, 7835], [64261, 64262]]

/-- The lower-case characters that match as the same letter as the lower-case `c`, `c` among
them. -/
def sameLetters (ascii : Bool) (c : Nat) : List Nat :=
  if ascii then [c] else (caseFixes.find? (·.contains c)).getD [c]

/-- Whether a character is in a class. -/
def inCategory (ascii : Bool) (cat : Category) (c : Nat) : Bool :=
  match cat with
  | .digit => if ascii then 48 ≤ c && c ≤ 57 else isDecimalChar (Char.ofNat c)
  | .space => if ascii then c == 32 || (9 ≤ c && c ≤ 13) else isBlank (Char.ofNat c)
  | .word =>
    if ascii then (48 ≤ c && c ≤ 57) || (65 ≤ c && c ≤ 90) || (97 ≤ c && c ≤ 122) || c == 95
    else c == 95 || isAlphaChar (Char.ofNat c) || isNumericChar (Char.ofNat c)

/-- Whether a set member holds a character, case kept. -/
def SetItem.holds (ascii : Bool) : SetItem → Nat → Bool
  | .char d, c => c == d
  | .range lo hi, c => lo ≤ c && c ≤ hi
  | .category cat negated, c => inCategory ascii cat c != negated

/-- Whether a character matches the character `d`. -/
def charMatches (rules : CharRules) (d c : Nat) : Bool :=
  if !rules.ignoreCase then c == d
  else (sameLetters rules.ascii (lowerOf rules.ascii d)).contains (lowerOf rules.ascii c)

/-- Whether a set member holds a character, case ignored: some member of the set lower-cases to
a letter the same as the character's lower case. -/
def SetItem.holdsFolded (ascii : Bool) (it : SetItem) (c : Nat) : Bool :=
  let l := lowerOf ascii c
  match it with
  | .category cat negated => inCategory ascii cat l != negated
  | _ =>
    let letters := sameLetters ascii l
    let candidates := c :: letters ++ letters.map (upperOf ascii)
    candidates.any fun d => it.holds ascii d && letters.contains (lowerOf ascii d)

/-- Whether a character is in a bracketed set. -/
def setMatches (items : List SetItem) (negated : Bool) (rules : CharRules) (c : Nat) : Bool :=
  let inside := if rules.ignoreCase then items.any (·.holdsFolded rules.ascii c)
    else items.any (·.holds rules.ascii c)
  inside != negated

end StubDoctest.Regex
