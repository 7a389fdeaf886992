import StubDoctest.Regex.Syntax
import StubDoctest.Text.Quoted
import StubDoctest.Text.IdentChar
import StubDoctest.Text.CharName

/-!
# Regular expressions: reading a pattern

A pattern is read token by token, a token being one character or a backslash with the
character after it, into a `Node` tree. The reader keeps the state the tree depends on: the
flags set so far, the groups opened (with the width of each closed one), the group names, the
group numbers a conditional named before defining them, and whether it is inside a lookbehind.

Every refusal is a `Fault` carrying the message and the position in the pattern the reader had
reached, less the length of the offending text, so that it points at the text's start. The
checks come in the order a reader meets them; three come after the whole pattern is read:
flags that cannot go together, a `)` with no `(`, and a conditional naming a group that never
comes. Last, a lookbehind whose body has no single width is refused, the first one from the
left.

Scoped flags are applied as nodes are made. Global flags `(?i)` may only open the pattern, so
every node made after them sees them too.
-/

namespace StubDoctest.Regex

open StubDoctest.Text

/-- Why a pattern does not compile. -/
inductive Fault where
  /-- A malformed pattern: the message, and the position it points at (if any). -/
  | malformed (msg : String) (pos : Option Nat)
  /-- A repetition count too large to represent. -/
  | overflow (msg : String)
  /-- Flags that cannot go together, or not with this kind of pattern. -/
  | flags (msg : String)
  deriving Repr, Inhabited

/-- A token of a pattern: a character, or a backslash and the character after it. -/
inductive Tok where
  | plain (c : Char)
  | escaped (c : Char)
  deriving DecidableEq, Repr, Inhabited

/-- The text of a token. -/
def Tok.text : Tok → String
  | .plain c => c.toString
  | .escaped c => "\\" ++ c.toString

/-- The number of characters of a token. -/
def Tok.length : Tok → Nat
  | .plain _ => 1
  | .escaped _ => 2

/-- What a parse keeps besides the tree. -/
structure ParseState where
  /-- The pattern's characters (a bytes pattern's bytes read as Latin-1). -/
  src : Array Char
  /-- Whether the pattern is text rather than bytes. -/
  text : Bool
  /-- Where the next token starts. -/
  pos : Nat
  /-- The global flags. -/
  flags : Nat
  /-- The group names, in the order they were defined, with their numbers. -/
  names : List (String × Nat)
  /-- For each group number, the group's width once it is closed; number 0 is the pattern. -/
  widths : Array (Option (Nat × Nat))
  /-- Inside a lookbehind: the number of groups opened before it. -/
  behindGroups : Option Nat
  /-- The group numbers conditionals named, with where each was first named. -/
  refPositions : List (Nat × Nat)
  /-- Lookbehinds without a single width: where each starts, and the message. -/
  behindFaults : List (Nat × String)

/-- A parse over a pattern. -/
abbrev Parser := StateT ParseState (Except Fault)

/-- The largest repetition count plus one. -/
def maxRepeat : Nat := 4294967295

/-- The largest group number plus one. -/
def maxGroups : Nat := 1073741823

/-- A message as a bytes pattern reports it: characters past ASCII as escapes. -/
def asciiEscaped (msg : String) : String :=
  String.join (msg.toList.map fun c =>
    if c.toNat < 128 then c.toString
    else if c.toNat < 256 then "\\x" ++ hexPadded 2 c.toNat
    else if c.toNat < 65536 then "\\u" ++ hexPadded 4 c.toNat
    else "\\U" ++ hexPadded 8 c.toNat)

/-- Refuse the pattern, pointing `offset` characters before the reader's position. -/
def fail {α : Type} (msg : String) (offset : Nat) : Parser α := do
  let st ← get
  throw (.malformed (if st.text then msg else asciiEscaped msg) (some (st.pos - offset)))

/-- The token starting at `i`, if any. -/
def tokAt (src : Array Char) (i : Nat) : Option Tok :=
  match src[i]? with
  | none => none
  | some '\\' => (src[i + 1]?).map Tok.escaped
  | some c => some (.plain c)

/-- Move the reader to `i`. A backslash ending the pattern is refused as soon as it would be
the next token. -/
def seekTo (i : Nat) : Parser Unit := do
  let st ← get
  if st.src[i]? == some '\\' && i + 1 == st.src.size then
    throw (.malformed "bad escape (end of pattern)" (some i))
  set { st with pos := i }

/-- The next token, not taken. -/
def peek : Parser (Option Tok) := do
  let st ← get
  return tokAt st.src st.pos

/-- Take the next token, if any. -/
def advance : Parser Unit := do
  let st ← get
  match tokAt st.src st.pos with
  | some t => seekTo (st.pos + t.length)
  | none => pure ()

/-- Take and return the next token. -/
def nextTok : Parser (Option Tok) := do
  let t ← peek
  advance
  return t

/-- Take the next token if it is the plain character `c`. -/
def accept (c : Char) : Parser Bool := do
  if (← peek) == some (.plain c) then
    advance
    return true
  return false

/-- The reader's position. -/
def tell : Parser Nat := return (← get).pos

/-- Take up to `n` plain characters that satisfy `ok`. -/
def takeWhile (ok : Char → Bool) : Nat → Parser String
  | 0 => return ""
  | n + 1 => do
    match ← peek with
    | some (.plain c) =>
      if ok c then
        advance
        return c.toString ++ (← takeWhile ok n)
      else return ""
    | _ => return ""

/-- Take tokens up to the plain character `term`, which is taken too; `what` names the text
in the message when it is missing. -/
def takeUntil (term : Char) (what : String) : Parser String := do
  let rec go : Nat → String → Parser String
    | 0, acc => return acc
    | n + 1, acc => do
      let t ← nextTok
      match t with
      | none =>
        if acc.isEmpty then fail ("missing " ++ what) 0
        else fail ("missing " ++ term.toString ++ ", unterminated name") acc.length
      | some tok =>
        if tok == .plain term then
          if acc.isEmpty then fail ("missing " ++ what) 1 else return acc
        else go n (acc ++ tok.text)
  go ((← get).src.size + 1) ""

/-- Whether a text is an identifier. -/
def isIdentifierText (s : String) : Bool :=
  match s.toList with
  | c :: rest => (isIdentStart c || c = '_') && rest.all isIdentContinue
  | [] => false

/-- Refuse a group name that is not an identifier. -/
def checkGroupName (name : String) (offset : Nat) : Parser Unit := do
  if !isIdentifierText name then
    fail ("bad character in group name " ++ quote name) (name.length + offset)

/-- The number of groups opened so far, the pattern itself counted. -/
def groupCount : Parser Nat := return (← get).widths.size

/-- Whether group `gid` exists and is closed. -/
def groupClosed (gid : Nat) : Parser Bool := do
  match (← get).widths[gid]? with
  | some (some _) => return true
  | _ => return false

/-- Refuse, inside a lookbehind, a reference to a group that is open or defined in it. -/
def checkBehindGroup (gid : Nat) : Parser Unit := do
  match (← get).behindGroups with
  | none => pure ()
  | some n =>
    if !(← groupClosed gid) then fail "cannot refer to an open group" 0
    if gid ≥ n then fail "cannot refer to group defined in the same lookbehind subpattern" 0

/-- The width of group `gid`, as a backreference to it needs. -/
def groupWidthIn (st : ParseState) (gid : Nat) : Nat × Nat :=
  match st.widths[gid]? with
  | some (some w) => w
  | _ => (0, 0)

/-- The flags of the type of characters: ASCII, LOCALE and UNICODE. -/
def typeFlags : Nat := flagAscii ||| flagLocale ||| flagUnicode

/-- The bits of `x` with those of `bits` cleared. -/
def clearBits (x bits : Nat) : Nat := x - (x &&& bits)

/-- Flags with a scoped group's flags added and removed; adding a type flag replaces the
type. -/
def combineFlags (flags : Nat) (change : Nat × Nat) : Nat :=
  let base := if change.1 &&& typeFlags != 0 then clearBits flags typeFlags else flags
  clearBits (base ||| change.1) change.2

/-- The flags in force where the reader is, inside the scoped groups `scope`. -/
def flagsHere (scope : List (Nat × Nat)) : Parser Nat := do
  return scope.foldl combineFlags (← get).flags

/-- How characters compare under the flags `f`. -/
def rulesFor (text : Bool) (f : Nat) : CharRules :=
  { ignoreCase := hasFlag f flagIgnoreCase, ascii := !text || hasFlag f flagAscii }

/-- A literal character where the reader is; case is ignored only for a cased character. -/
def literalNode (scope : List (Nat × Nat)) (c : Nat) : Parser Node := do
  let r := rulesFor (← get).text (← flagsHere scope)
  return .char c { r with ignoreCase := r.ignoreCase && isCasedFor r.ascii c }

/-- Whether a range of characters holds a cased one; a long range is taken to. -/
def rangeHasCased (ascii : Bool) (lo hi : Nat) : Bool :=
  if hi + 1 - lo > 3000 then true
  else (List.range (hi + 1 - lo)).any fun i => isCasedFor ascii (lo + i)

/-- A bracketed set where the reader is; case is ignored only for a set with a cased
character. -/
def setNode (scope : List (Nat × Nat)) (items : List SetItem) (negated : Bool) : Parser Node := do
  let r := rulesFor (← get).text (← flagsHere scope)
  let cased := items.any fun
    | .char c => isCasedFor r.ascii c
    | .range lo hi => rangeHasCased r.ascii lo hi
    | .category .. => false
  return .set items negated { r with ignoreCase := r.ignoreCase && cased }

/-- The value of hexadecimal digits. -/
def hexValue (s : String) : Nat :=
  s.foldl (fun n c =>
    n * 16 + (if c.isDigit then c.toNat - 48 else if 'a' ≤ c ∧ c ≤ 'f' then c.toNat - 87
      else c.toNat - 55)) 0

/-- The value of octal digits. -/
def octValue (s : String) : Nat := s.foldl (fun n c => n * 8 + (c.toNat - 48)) 0

/-- Whether a character is a hexadecimal digit. -/
def isHexChar (c : Char) : Bool := c.isDigit || ('a' ≤ c ∧ c ≤ 'f') || ('A' ≤ c ∧ c ≤ 'F')

/-- Whether a character is an octal digit. -/
def isOctChar (c : Char) : Bool := '0' ≤ c ∧ c ≤ '7'

/-- The characters that stand for themselves after a backslash in any pattern. -/
def simpleEscape? (c : Char) : Option Nat :=
  match c with
  | 'a' => some 7
  | 'f' => some 12
  | 'n' => some 10
  | 'r' => some 13
  | 't' => some 9
  | 'v' => some 11
  | '\\' => some 92
  | _ => none

/-- The class a backslash and `c` name, if any. -/
def categoryEscape? (c : Char) : Option (Category × Bool) :=
  match c with
  | 'd' => some (.digit, false)
  | 'D' => some (.digit, true)
  | 's' => some (.space, false)
  | 'S' => some (.space, true)
  | 'w' => some (.word, false)
  | 'W' => some (.word, true)
  | _ => none

/-- A code-point escape `\x`, `\u`, `\U` or `\N` after its letter has been taken: the
character, or `none` for a letter that is not one of these (or not in this kind of
pattern). -/
def codeEscape (c : Char) : Parser (Option Nat) := do
  let text := (← get).text
  let digits (n : Nat) : Parser Nat := do
    let ds ← takeWhile isHexChar n
    let esc := "\\" ++ c.toString ++ ds
    if ds.length != n then fail ("incomplete escape " ++ esc) esc.length
    return hexValue ds
  match c with
  | 'x' => return some (← digits 2)
  | 'u' => if text then return some (← digits 4) else return none
  | 'U' =>
    if text then
      let ds ← takeWhile isHexChar 8
      let esc := "\\U" ++ ds
      if ds.length != 8 then fail ("incomplete escape " ++ esc) esc.length
      let v := hexValue ds
      if v > 0x10FFFF then fail ("bad escape " ++ esc) esc.length
      return some v
    else return none
  | 'N' =>
    if text then
      if !(← accept '{') then fail "missing \x7b" 0
      let name ← takeUntil '}' "character name"
      match charOfName? name with
      | some ch => return some ch.toNat
      | none => fail ("undefined character name " ++ quote name) (name.length + 4)
    else return none
  | _ => return none

/-- What an escape inside a set stands for. -/
inductive ClassCode where
  | lit (c : Nat)
  | cat (c : Category) (negated : Bool)

/-- An escape inside a set, its two characters taken. -/
def classEscape (c : Char) : Parser ClassCode := do
  if c == 'b' then return .lit 8
  if let some v := simpleEscape? c then return .lit v
  if let some (cat, neg) := categoryEscape? c then return .cat cat neg
  if let some v ← codeEscape c then return .lit v
  if isOctChar c then
    let more ← takeWhile isOctChar 2
    let esc := "\\" ++ c.toString ++ more
    let v := octValue (c.toString ++ more)
    if v > 0o377 then fail ("octal escape value " ++ esc ++ " outside of range 0-0o377") esc.length
    return .lit v
  if c.isDigit || c.isAlpha then fail ("bad escape \\" ++ c.toString) 2
  return .lit c.toNat

/-- A bracketed set, its `[` taken at `here`. -/
def parseSet (scope : List (Nat × Nat)) (here : Nat) : Parser Node := do
  let negated ← accept '^'
  let rec go : Nat → Array SetItem → Parser (Array SetItem)
    | 0, acc => return acc
    | n + 1, acc => do
      let this ← nextTok
      match this with
      | none => fail "unterminated character set" ((← tell) - here)
      | some t =>
        if t == .plain ']' && !acc.isEmpty then return acc
        let code1 ← match t with
          | .escaped c => classEscape c
          | .plain c => pure (ClassCode.lit c.toNat)
        if ← accept '-' then
          let that ← nextTok
          match that with
          | none => fail "unterminated character set" ((← tell) - here)
          | some u =>
            if u == .plain ']' then
              let first := match code1 with
                | .lit v => SetItem.char v
                | .cat c neg => SetItem.category c neg
              return acc.push first |>.push (.char 45)
            let code2 ← match u with
              | .escaped c => classEscape c
              | .plain c => pure (ClassCode.lit c.toNat)
            match code1, code2 with
            | .lit lo, .lit hi =>
              if hi < lo then
                fail ("bad character range " ++ t.text ++ "-" ++ u.text)
                  (t.length + 1 + u.length)
              go n (acc.push (.range lo hi))
            | _, _ =>
              fail ("bad character range " ++ t.text ++ "-" ++ u.text) (t.length + 1 + u.length)
        else
          let item := match code1 with
            | .lit v => SetItem.char v
            | .cat c neg => SetItem.category c neg
          go n (acc.push item)
  let items ← go ((← get).src.size + 1) #[]
  match items.toList with
  | [.char c] => if negated then setNode scope [.char c] true else literalNode scope c
  | l => setNode scope l negated

/-- What a parsed item is, as far as a repetition after it cares. -/
inductive PieceKind where
  | plain
  | anchor
  | repetition
  deriving DecidableEq

/-- A parsed item of a sequence. -/
structure Piece where
  node : Node
  kind : PieceKind

/-- The node of a sequence of items. -/
def seqOf (pieces : Array Piece) : Node :=
  match pieces.toList with
  | [p] => p.node
  | ps => .seq (ps.map (·.node))

/-- A decimal count of a repetition, refused when too large. -/
def repeatCount (digits : String) : Parser Nat := do
  let n := digits.foldl (fun n c => n * 10 + (c.toNat - 48)) 0
  if n ≥ maxRepeat then throw (.overflow "the repetition number is too large")
  return n

/-- The bounds of a repetition whose character `c` has been taken at `here - 1`; `none`
when a `{` does not open bounds and stands for itself (the reader is then back after it). -/
def parseBounds (c : Char) (here : Nat) : Parser (Option (Nat × Option Nat)) := do
  match c with
  | '?' => return some (0, some 1)
  | '*' => return some (0, none)
  | '+' => return some (1, none)
  | _ =>
    if (← peek) == some (.plain '}') then return none
    let size := (← get).src.size
    let lo ← takeWhile Char.isDigit size
    let hi ← if ← accept ',' then takeWhile Char.isDigit size else pure lo
    if !(← accept '}') then
      seekTo here
      return none
    let min ← if lo.isEmpty then pure 0 else repeatCount lo
    if hi.isEmpty then return some (min, none)
    let max ← repeatCount hi
    if max < min then fail "min repeat greater than max repeat" ((← tell) - here)
    return some (min, some max)

/-- The single-letter inline flags and their bits. -/
def inlineFlag? (c : Char) : Option Nat :=
  match c with
  | 'i' => some flagIgnoreCase
  | 'L' => some flagLocale
  | 'm' => some flagMultiline
  | 's' => some flagDotAll
  | 'x' => some flagVerbose
  | 'a' => some flagAscii
  | 't' => some flagTemplate
  | 'u' => some flagUnicode
  | _ => none

/-- The flag bit of a token that is an inline flag letter. -/
def tokFlag? : Option Tok → Option Nat
  | some (.plain c) => inlineFlag? c
  | _ => none

/-- Whether a token is a letter. -/
def tokIsAlpha : Tok → Bool
  | .plain c => c.isAlpha || (c.toNat > 127 && isAlphaChar c)
  | .escaped _ => false

/-- The flags after `(?`, the first letter `c` taken: `none` for global flags (which are then
set), or the flags a scoped group adds and removes. -/
def parseFlags (c : Char) : Parser (Option (Nat × Nat)) := do
  let text := (← get).text
  let size := (← get).src.size
  let rec adds : Nat → Nat → Char → Parser (Nat × Tok)
    | 0, acc, _ => return (acc, .plain ')')
    | n + 1, acc, ch => do
      let flag := (inlineFlag? ch).getD 0
      if text && ch == 'L' then
        fail "bad inline flags: cannot use 'L' flag with a str pattern" 0
      if !text && ch == 'u' then
        fail "bad inline flags: cannot use 'u' flag with a bytes pattern" 0
      let acc := acc ||| flag
      if flag &&& typeFlags != 0 && acc &&& typeFlags != flag then
        fail "bad inline flags: flags 'a', 'u' and 'L' are incompatible" 0
      match ← nextTok with
      | none => fail "missing -, : or )" 0
      | some t =>
        if t == .plain ')' || t == .plain '-' || t == .plain ':' then return (acc, t)
        match tokFlag? (some t), t with
        | some _, .plain ch' => adds n acc ch'
        | _, _ => fail (if tokIsAlpha t then "unknown flag" else "missing -, : or )") t.length
  let (add, stop) ← if c == '-' then pure (0, Tok.plain '-') else adds size 0 c
  if stop == .plain ')' then
    modify fun st => { st with flags := st.flags ||| add }
    return none
  if add &&& (flagDebug ||| flagTemplate) != 0 then
    fail "bad inline flags: cannot turn on global flag" 1
  let mut del := 0
  if stop == .plain '-' then
    let rec dels : Nat → Nat → Option Tok → Parser Nat
      | 0, acc, _ => return acc
      | n + 1, acc, t => do
        match t with
        | none => fail (if acc == 0 then "missing flag" else "missing :") 0
        | some tok =>
          if acc != 0 && tok == .plain ':' then return acc
          match tokFlag? (some tok) with
          | none =>
            fail (if tokIsAlpha tok then "unknown flag" else if acc == 0 then "missing flag"
              else "missing :") tok.length
          | some flag =>
            if flag &&& typeFlags != 0 then
              fail "bad inline flags: cannot turn off flags 'a', 'u' and 'L'" 0
            dels n (acc ||| flag) (← nextTok)
    del ← dels size 0 (← nextTok)
  if del &&& (flagDebug ||| flagTemplate) != 0 then
    fail "bad inline flags: cannot turn off global flag" 1
  if add &&& del != 0 then
    fail "bad inline flags: flag turned on and off" 1
  return some (add, del)

/-- The value of a group number as an integer literal reads it: blanks around it, a sign, and
underscores between digits allowed; `none` when it is not one. -/
def intLiteral? (s : String) : Option Int :=
  let cs := (s.toList.dropWhile isBlank).reverse.dropWhile isBlank |>.reverse
  let (neg, body) := match cs with
    | '-' :: rest => (true, rest)
    | '+' :: rest => (false, rest)
    | rest => (false, rest)
  let digitOk (c : Char) := isDecimalChar c
  let rec valid : List Char → Bool → Bool
    | [], afterDigit => afterDigit
    | '_' :: rest, afterDigit => afterDigit && valid rest false
    | c :: rest, _ => digitOk c && valid rest true
  if !valid body false then none
  else
    let n := body.foldl (fun n c => if c == '_' then n else n * 10 + decimalValue c) 0
    some (if neg then -(n : Int) else n)

/-- Open a capturing group, naming it if `name` is given. -/
def openGroup (name : Option String) : Parser Nat := do
  let st ← get
  let gid := st.widths.size
  match name with
  | some n =>
    if let some (_, old) := st.names.find? (·.1 == n) then
      fail ("redefinition of group name " ++ quote n ++ " as group " ++ toString gid ++
        "; was group " ++ toString old) (n.length + 1)
    set { st with widths := st.widths.push none, names := st.names ++ [(n, gid)] }
  | none => set { st with widths := st.widths.push none }
  return gid

/-- Close group `gid`, recording its body's width. -/
def closeGroup (gid : Nat) (body : Node) : Parser Unit := do
  let st ← get
  let w := body.width (groupWidthIn st)
  set { st with widths := st.widths.set! gid (some w) }

/-- A backslash escape outside a set, its two characters taken. -/
def escapeItem (scope : List (Nat × Nat)) (c : Char) : Parser Piece := do
  let ascii := !(← get).text || hasFlag (← flagsHere scope) flagAscii
  match c with
  | 'A' => return ⟨.anchor .start, .anchor⟩
  | 'Z' => return ⟨.anchor .textEnd, .anchor⟩
  | 'b' => return ⟨.anchor (.boundary ascii false), .anchor⟩
  | 'B' => return ⟨.anchor (.boundary ascii true), .anchor⟩
  | _ =>
  if let some (cat, neg) := categoryEscape? c then
    return ⟨← setNode scope [.category cat neg] false, .plain⟩
  if let some v := simpleEscape? c then return ⟨← literalNode scope v, .plain⟩
  if let some v ← codeEscape c then return ⟨← literalNode scope v, .plain⟩
  if c == '0' then
    let more ← takeWhile isOctChar 2
    return ⟨← literalNode scope (octValue more), .plain⟩
  if c.isDigit then
    let mut esc := c.toString
    match ← peek with
    | some (.plain d) =>
      if d.isDigit then
        advance
        esc := esc.push d
        if isOctChar c && isOctChar d then
          match ← peek with
          | some (.plain e) =>
            if isOctChar e then
              advance
              let v := octValue (esc.push e)
              if v > 0o377 then
                fail ("octal escape value \\" ++ esc.push e ++ " outside of range 0-0o377")
                  (esc.length + 2)
              return ⟨← literalNode scope v, .plain⟩
          | _ => pure ()
    | _ => pure ()
    let group := esc.foldl (fun n ch => n * 10 + (ch.toNat - 48)) 0
    if group < (← groupCount) then
      if !(← groupClosed group) then fail "cannot refer to an open group" (esc.length + 1)
      checkBehindGroup group
      let r := rulesFor (← get).text (← flagsHere scope)
      return ⟨.backref group r, .plain⟩
    fail ("invalid group reference " ++ toString group) esc.length
  if c.isAlpha then fail ("bad escape \\" ++ c.toString) 2
  return ⟨← literalNode scope c.toNat, .plain⟩

/-- Replace the last item by its repetition, refusing an item that cannot be repeated;
`at` is where the repetition's character stands. -/
def repeatLast (pieces : Array Piece) (at_ : Nat) (min : Nat) (max : Option Nat) :
    Parser (Array Piece) := do
  match pieces.back? with
  | none => throw (.malformed "nothing to repeat" (some at_))
  | some p =>
    if p.kind == .anchor then throw (.malformed "nothing to repeat" (some at_))
    if p.kind == .repetition then throw (.malformed "multiple repeat" (some at_))
    let greed ← if ← accept '?' then pure Greed.lazy
      else if ← accept '+' then pure Greed.possessive else pure Greed.greedy
    let node := Node.repeated p.node min max greed
    let node := if greed == .possessive then Node.atomic node else node
    return pieces.pop.push ⟨node, .repetition⟩

/-- Skip a comment of a verbose pattern, up to and with the next newline. -/
def skipComment : Nat → Parser Unit
  | 0 => pure ()
  | n + 1 => do
    match ← nextTok with
    | none => pure ()
    | some t => if t == .plain '\n' then pure () else skipComment n

/-- Skip a comment group `(?#...)` opened at `start`, up to and with its `)`. -/
def skipCommentGroup (start : Nat) : Nat → Parser Unit
  | 0 => pure ()
  | n + 1 => do
    if (← peek).isNone then
      fail "missing ), unterminated comment" ((← tell) - start)
    if (← nextTok) == some (.plain ')') then pure () else skipCommentGroup start n

/-- Record a lookbehind starting at `start` whose body has width `w`, if it cannot be matched
backwards. -/
def noteBehind (start : Nat) (w : Nat × Nat) : Parser Unit := do
  if w.1 > maxRepeat then
    modify fun st => { st with behindFaults := st.behindFaults ++ [(start, "looks too much behind")] }
  else if w.1 != w.2 then
    modify fun st => { st with
      behindFaults := st.behindFaults ++ [(start, "look-behind requires fixed-width pattern")] }

/-- Whether a token is a blank that a verbose pattern skips. -/
def isVerboseBlank : Tok → Bool
  | .plain c => c == ' ' || c == '\t' || c == '\n' || c == '\r' || c.toNat == 11 || c.toNat == 12
  | .escaped _ => false

/-- The out-of-fuel refusal; fuel is given for every token, so it is never reached. -/
def tooDeep {α : Type} : Parser α := throw (.malformed "pattern too deeply nested" none)

mutual
/-- An alternation `a|b|c`, up to a `)` or the end; `top` for the whole pattern. -/
def parseAlt : Nat → Bool → Bool → List (Nat × Nat) → Parser Node
  | 0, _, _, _ => tooDeep
  | fuel + 1, verbose, top, scope => do
    let first ← parseSeq fuel verbose top scope
    parseBranches fuel verbose top scope #[first]

/-- The branches after the first of an alternation. -/
def parseBranches : Nat → Bool → Bool → List (Nat × Nat) → Array Node → Parser Node
  | 0, _, _, _, _ => tooDeep
  | fuel + 1, verbose, top, scope, items => do
    if !(← accept '|') then
      return (match items.toList with
        | [n] => n
        | l => .alt l)
    let globalFlags := (← get).flags
    let verbose := if top then hasFlag globalFlags flagVerbose else verbose
    let item ← parseSeq fuel verbose false scope
    parseBranches fuel verbose top scope (items.push item)

/-- A sequence of items, up to a `|`, a `)` or the end; `first` when global flags may still
come. -/
def parseSeq : Nat → Bool → Bool → List (Nat × Nat) → Parser Node
  | 0, _, _, _ => tooDeep
  | fuel + 1, verbose, first, scope => do
    return seqOf (← parseItems fuel verbose first scope #[])

/-- The items of a sequence, those read so far in `acc`. -/
def parseItems : Nat → Bool → Bool → List (Nat × Nat) → Array Piece → Parser (Array Piece)
  | 0, _, _, _, _ => tooDeep
  | fuel + 1, verbose, first, scope, acc => do
    match ← peek with
    | none => return acc
    | some t =>
      if t == .plain '|' || t == .plain ')' then return acc
      advance
      if verbose && isVerboseBlank t then
        return ← parseItems fuel verbose first scope acc
      if verbose && t == .plain '#' then
        skipComment (← get).src.size
        return ← parseItems fuel verbose first scope acc
      match t with
      | .escaped c =>
        let p ← escapeItem scope c
        parseItems fuel verbose first scope (acc.push p)
      | .plain c =>
        if c == '[' then
          let n ← parseSet scope ((← tell) - 1)
          parseItems fuel verbose first scope (acc.push ⟨n, .plain⟩)
        else if c == '*' || c == '+' || c == '?' || c == '{' then
          let here ← tell
          match ← parseBounds c here with
          | none =>
            let n ← literalNode scope c.toNat
            parseItems fuel verbose first scope (acc.push ⟨n, .plain⟩)
          | some (lo, hi) =>
            let acc ← repeatLast acc (here - 1) lo hi
            parseItems fuel verbose first scope acc
        else if c == '.' then
          let f ← flagsHere scope
          parseItems fuel verbose first scope (acc.push ⟨.any (hasFlag f flagDotAll), .plain⟩)
        else if c == '^' then
          let f ← flagsHere scope
          let a := if hasFlag f flagMultiline then Anchor.lineStart else Anchor.start
          parseItems fuel verbose first scope (acc.push ⟨.anchor a, .anchor⟩)
        else if c == '$' then
          let f ← flagsHere scope
          let a := if hasFlag f flagMultiline then Anchor.lineEnd else Anchor.finalEnd
          parseItems fuel verbose first scope (acc.push ⟨.anchor a, .anchor⟩)
        else if c == '(' then
          match ← parseGroup fuel verbose first scope acc ((← tell) - 1) with
          | (some p, verbose') => parseItems fuel verbose' first scope (acc.push p)
          | (none, verbose') => parseItems fuel verbose' first scope acc
        else
          let n ← literalNode scope c.toNat
          parseItems fuel verbose first scope (acc.push ⟨n, .plain⟩)

/-- A parenthesized construct opened at `start`, its `(` taken: the item it makes (none for
a comment or global flags), and the verbosity after it. -/
def parseGroup : Nat → Bool → Bool → List (Nat × Nat) → Array Piece → Nat →
    Parser (Option Piece × Bool)
  | 0, _, _, _, _, _ => tooDeep
  | fuel + 1, verbose, first, scope, acc, start => do
    let closeOrFail : Parser Unit := do
      if !(← accept ')') then fail "missing ), unterminated subpattern" ((← tell) - start)
    if !(← accept '?') then
      let gid ← openGroup none
      let p ← parseAlt fuel verbose false scope
      closeOrFail
      closeGroup gid p
      return (some ⟨.group gid p, .plain⟩, verbose)
    let some c ← nextTok | fail "unexpected end of pattern" 0
    match c with
    | .plain 'P' =>
      if ← accept '<' then
        let name ← takeUntil '>' "group name"
        checkGroupName name 1
        let gid ← openGroup (some name)
        let p ← parseAlt fuel verbose false scope
        closeOrFail
        closeGroup gid p
        return (some ⟨.group gid p, .plain⟩, verbose)
      else if ← accept '=' then
        let name ← takeUntil ')' "group name"
        checkGroupName name 1
        match (← get).names.find? (·.1 == name) with
        | none => fail ("unknown group name " ++ quote name) (name.length + 1)
        | some (_, gid) =>
          if !(← groupClosed gid) then fail "cannot refer to an open group" (name.length + 1)
          checkBehindGroup gid
          let r := rulesFor (← get).text (← flagsHere scope)
          return (some ⟨.backref gid r, .plain⟩, verbose)
      else
        let some d ← nextTok | fail "unexpected end of pattern" 0
        fail ("unknown extension ?P" ++ d.text) (d.length + 2)
    | .plain ':' =>
      let p ← parseAlt fuel verbose false scope
      closeOrFail
      return (some ⟨p, .plain⟩, verbose)
    | .plain '#' =>
      skipCommentGroup start ((← get).src.size + 1)
      return (none, verbose)
    | .plain '=' | .plain '!' | .plain '<' =>
      let (behind, negated) ← if c == .plain '<' then do
          let some d ← nextTok | fail "unexpected end of pattern" 0
          if d != .plain '=' && d != .plain '!' then
            fail ("unknown extension ?<" ++ d.text) (d.length + 2)
          pure (true, d == .plain '!')
        else pure (false, c == .plain '!')
      let saved := (← get).behindGroups
      if behind && saved.isNone then
        let n ← groupCount
        modify fun st => { st with behindGroups := some n }
      let p ← parseAlt fuel verbose false scope
      if behind && saved.isNone then
        modify fun st => { st with behindGroups := none }
      closeOrFail
      if behind then
        let w := p.width (groupWidthIn (← get))
        noteBehind start w
        return (some ⟨.behind negated w.1 p, .plain⟩, verbose)
      return (some ⟨.ahead negated p, .plain⟩, verbose)
    | .plain '(' =>
      let name ← takeUntil ')' "group name"
      let gid ← if isIdentifierText name then
          match (← get).names.find? (·.1 == name) with
          | none => fail ("unknown group name " ++ quote name) (name.length + 1)
          | some (_, g) => pure g
        else
          match intLiteral? name with
          | none => fail ("bad character in group name " ++ quote name) (name.length + 1)
          | some v =>
            if v < 0 then fail ("bad character in group name " ++ quote name) (name.length + 1)
            let g := v.toNat
            if g == 0 then fail "bad group number" (name.length + 1)
            if g ≥ maxGroups then
              fail ("invalid group reference " ++ toString g) (name.length + 1)
            let here ← tell
            modify fun st => if st.refPositions.any (·.1 == g) then st
              else { st with refPositions := st.refPositions ++ [(g, here - name.length - 1)] }
            pure g
      checkBehindGroup gid
      let yes ← parseSeq fuel verbose false scope
      let no ← if ← accept '|' then do
          let n ← parseSeq fuel verbose false scope
          if (← peek) == some (.plain '|') then
            fail "conditional backref with more than two branches" 0
          pure n
        else pure (Node.seq [])
      closeOrFail
      return (some ⟨.cond gid yes no, .plain⟩, verbose)
    | .plain '>' =>
      let p ← parseAlt fuel verbose false scope
      closeOrFail
      return (some ⟨.atomic p, .plain⟩, verbose)
    | .plain ch =>
      if ch != '-' && (inlineFlag? ch).isNone then
        fail ("unknown extension ?" ++ c.text) (c.length + 1)
      match ← parseFlags ch with
      | none =>
        if !first || !acc.isEmpty then
          fail "global flags not at the start of the expression" ((← tell) - start)
        return (none, hasFlag (← get).flags flagVerbose)
      | some (add, del) =>
        let inner := (verbose || hasFlag add flagVerbose) && !hasFlag del flagVerbose
        let p ← parseAlt fuel inner false (scope ++ [(add, del)])
        closeOrFail
        return (some ⟨p, .plain⟩, verbose)
    | .escaped _ => fail ("unknown extension ?" ++ c.text) (c.length + 1)
end

/-- A compiled pattern: its tree and what a match reports besides spans. -/
structure Compiled where
  /-- The tree. -/
  root : Node
  /-- The number of capturing groups. -/
  groups : Nat
  /-- The group names, in the order they were defined, with their numbers. -/
  names : List (String × Nat)
  /-- The flags: those given, those set inline, and UNICODE for a text pattern without ASCII. -/
  flags : Nat

/-- Refuse flags that cannot go together or not with this kind of pattern, and add UNICODE to a
text pattern without ASCII. -/
def settleFlags (text : Bool) (flags : Nat) : Except Fault Nat :=
  if text then
    if hasFlag flags flagLocale then .error (.flags "cannot use LOCALE flag with a str pattern")
    else if !hasFlag flags flagAscii then .ok (flags ||| flagUnicode)
    else if hasFlag flags flagUnicode then .error (.flags "ASCII and UNICODE flags are incompatible")
    else .ok flags
  else
    if hasFlag flags flagUnicode then .error (.flags "cannot use UNICODE flag with a bytes pattern")
    else if hasFlag flags flagLocale && hasFlag flags flagAscii then
      .error (.flags "ASCII and LOCALE flags are incompatible")
    else .ok flags

/-- The whole parse: the tree, then the checks made once the pattern has been read. -/
def parseAll : Parser (Node × Nat) := do
  let st ← get
  let root ← parseAlt (4 * st.src.size + 8) (hasFlag st.flags flagVerbose) true []
  let st ← get
  let flags ← match settleFlags st.text st.flags with
    | .ok f => pure f
    | .error e => throw e
  if (← peek).isSome then fail "unbalanced parenthesis" 0
  let st ← get
  for (g, pos) in st.refPositions do
    if g ≥ st.widths.size then
      throw (.malformed ("invalid group reference " ++ toString g) (some pos))
  match st.behindFaults.foldl (fun best f =>
      match best with
      | some b => if f.1 < b.1 then some f else some b
      | none => some f) none with
  | some (_, msg) => throw (.malformed msg none)
  | none => pure ()
  return (root, flags)

/-- Compile a pattern, given as its characters (a bytes pattern's bytes as Latin-1), whether
it is text, and the flags given with it. -/
def compile (src : Array Char) (text : Bool) (flags : Nat) : Except Fault Compiled := do
  let st0 : ParseState :=
    { src, text, pos := 0, flags, names := [], widths := #[some (0, 0)], behindGroups := none,
      refPositions := [], behindFaults := [] }
  let ((root, fl), st) ← (do seekTo 0; parseAll).run st0
  return { root, groups := st.widths.size - 1, names := st.names, flags := fl }

end StubDoctest.Regex
