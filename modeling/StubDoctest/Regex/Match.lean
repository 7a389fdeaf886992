import StubDoctest.Regex.Parse

/-!
# Regular expressions: matching

A backtracking matcher. What is left to match is a list of frames: nodes still to match,
groups to close, repetitions to continue, and the checks a whole match must pass. A step
takes the first frame; where there is a choice (a branch, one more repetition or one fewer),
the preferred way is tried first with the rest of the list, and the other only when that
fails. Captures are values, so a failed way leaves no trace.

A repetition counts its rounds and remembers where its last optional round began: a round
that consumed nothing is not followed by another, which keeps `(a*)*` from looping while
still letting its last round capture the empty text at the end.

The subject ends at the end position given, and a lookbehind may look before the start
position. The anchors follow that: `^` holds at the real start, `$` at the end position or
before a newline that ends there.

Every step spends one unit of fuel; a search that runs out finds nothing.
-/

namespace StubDoctest.Regex

/-- The text a pattern is matched against. -/
structure Subject where
  /-- The characters (a bytes subject's bytes as Latin-1). -/
  chars : Array Char
  /-- Where the subject ends for the matcher: the end position, at most the length. -/
  stop : Nat

/-- The groups captured so far, and the group that closed last. -/
structure Captures where
  /-- For each group number, the span it captured; number 0 is not used. -/
  spans : Array (Option (Nat × Nat))
  /-- The group that closed last. -/
  last : Option Nat
  deriving Repr, Inhabited

/-- Work left to do in a match. -/
inductive Frame where
  /-- Match a node. -/
  | node (n : Node)
  /-- Close group `index`, opened at `start`. -/
  | close (index start : Nat)
  /-- Continue a repetition after `count` rounds; `last` is where its last optional round
  began. -/
  | again (body : Node) (min : Nat) (max : Option Nat) (greed : Greed) (count : Nat)
      (last : Option Nat)
  /-- Fail at `pos`: a match that must not be empty where it starts. -/
  | notAt (pos : Nat)
  /-- Fail before the end: a match that must reach the end. -/
  | atEnd

/-- The code point at `pos`, if it is before the subject's end. -/
def Subject.at? (s : Subject) (pos : Nat) : Option Nat :=
  if pos < s.stop then (s.chars[pos]?).map Char.toNat else none

/-- Whether the character before `pos` and the one at it differ in being word characters;
on an empty subject there is no boundary and no non-boundary. -/
def boundaryHolds (s : Subject) (ascii negated : Bool) (pos : Nat) : Bool :=
  if s.stop == 0 then false
  else
    let before := if pos > 0 then
        match s.chars[pos - 1]? with
        | some c => inCategory ascii .word c.toNat
        | none => false
      else false
    let here := match s.at? pos with
      | some c => inCategory ascii .word c
      | none => false
    (before != here) != negated

/-- Whether an anchor holds at `pos`. -/
def anchorHolds (s : Subject) (a : Anchor) (pos : Nat) : Bool :=
  match a with
  | .start => pos == 0
  | .lineStart => pos == 0 || (s.chars[pos - 1]?).map Char.toNat == some 10
  | .finalEnd => pos == s.stop || (pos + 1 == s.stop && s.at? pos == some 10)
  | .lineEnd => pos == s.stop || s.at? pos == some 10
  | .textEnd => pos == s.stop
  | .boundary ascii negated => boundaryHolds s ascii negated pos

/-- Whether the text from `a` to `b` occurs again at `pos`, case ignored under `rules`. -/
def repeatsAt (s : Subject) (rules : CharRules) (a b pos : Nat) : Bool :=
  pos + (b - a) ≤ s.stop &&
    (List.range (b - a)).all fun i =>
      match s.chars[a + i]?, s.chars[pos + i]? with
      | some x, some y =>
        if rules.ignoreCase then lowerOf rules.ascii x.toNat == lowerOf rules.ascii y.toNat
        else x == y
      | _, _ => false

/-- Run the frames `k` from `pos`: the end of the first way through them, with the captures
then. -/
def step (s : Subject) : Nat → List Frame → Nat → Captures → Option (Nat × Captures)
  | 0, _, _, _ => none
  | _ + 1, [], pos, caps => some (pos, caps)
  | fuel + 1, f :: k, pos, caps =>
    match f with
    | .node n =>
      match n with
      | .char c rules =>
        match s.at? pos with
        | some d => if charMatches rules c d then step s fuel k (pos + 1) caps else none
        | none => none
      | .set items negated rules =>
        match s.at? pos with
        | some d =>
          if setMatches items negated rules d then step s fuel k (pos + 1) caps else none
        | none => none
      | .any dotAll =>
        match s.at? pos with
        | some d => if dotAll || d != 10 then step s fuel k (pos + 1) caps else none
        | none => none
      | .anchor a => if anchorHolds s a pos then step s fuel k pos caps else none
      | .seq items => step s fuel (items.map Frame.node ++ k) pos caps
      | .alt branches => branches.findSome? fun b => step s fuel (.node b :: k) pos caps
      | .group i body => step s fuel (.node body :: .close i pos :: k) pos caps
      | .repeated body lo hi greed => step s fuel (.again body lo hi greed 0 none :: k) pos caps
      | .backref i rules =>
        match caps.spans[i]? with
        | some (some (a, b)) =>
          if repeatsAt s rules a b pos then step s fuel k (pos + (b - a)) caps else none
        | _ => none
      | .ahead negated body =>
        match step s fuel [.node body] pos caps with
        | some (_, inner) => if negated then none else step s fuel k pos inner
        | none => if negated then step s fuel k pos caps else none
      | .behind negated w body =>
        if pos < w then (if negated then step s fuel k pos caps else none)
        else
          match step s fuel [.node body] (pos - w) caps with
          | some (_, inner) => if negated then none else step s fuel k pos inner
          | none => if negated then step s fuel k pos caps else none
      | .atomic body =>
        match step s fuel [.node body] pos caps with
        | some (p, inner) => step s fuel k p inner
        | none => none
      | .cond i yes no =>
        match caps.spans[i]? with
        | some (some _) => step s fuel (.node yes :: k) pos caps
        | _ => step s fuel (.node no :: k) pos caps
    | .close i start =>
      step s fuel k pos { spans := caps.spans.set! i (some (start, pos)), last := some i }
    | .again body lo hi greed count last =>
      if count < lo then
        step s fuel (.node body :: .again body lo hi greed (count + 1) last :: k) pos caps
      else
        let more := hi.all (count < ·) && last != some pos
        match greed with
        | .lazy =>
          match step s fuel k pos caps with
          | some r => some r
          | none =>
            if more then
              step s fuel (.node body :: .again body lo hi greed (count + 1) (some pos) :: k) pos
                caps
            else none
        | _ =>
          let further := if more then
              step s fuel (.node body :: .again body lo hi greed (count + 1) (some pos) :: k) pos
                caps
            else none
          match further with
          | some r => some r
          | none => step s fuel k pos caps
    | .notAt p => if pos == p then none else step s fuel k pos caps
    | .atEnd => if pos == s.stop then step s fuel k pos caps else none

/-- How a pattern is applied. -/
inductive Mode where
  /-- At the start position only. -/
  | anchored
  /-- At the start position or any later one. -/
  | search
  /-- At the start position, reaching the end. -/
  | whole
  deriving DecidableEq, Repr, Inhabited

/-- A match: where it starts and ends, and the captures. -/
structure Found where
  /-- Where the match starts. -/
  start : Nat
  /-- Where the match ends. -/
  stop : Nat
  /-- The groups it captured. -/
  caps : Captures
  deriving Repr, Inhabited

/-- The fuel of one attempt at one position. -/
def attemptFuel : Nat := 4194304

/-- An attempt at `start`; `emptyBanned` refuses an empty match there. -/
def attempt (c : Compiled) (s : Subject) (mode : Mode) (emptyBanned : Bool) (start : Nat) :
    Option Found :=
  let bottom := (if emptyBanned then [Frame.notAt start] else []) ++
    (if mode == .whole then [Frame.atEnd] else [])
  let caps : Captures := { spans := Array.replicate (c.groups + 1) none, last := none }
  (step s attemptFuel (.node c.root :: bottom) start caps).map fun (e, caps) =>
    { start, stop := e, caps }

/-- Try the positions from `start` on, the first `n` of them. -/
def searchFrom (c : Compiled) (s : Subject) (emptyBanned : Bool) : Nat → Nat → Option Found
  | 0, _ => none
  | n + 1, start =>
    match attempt c s .search emptyBanned start with
    | some m => some m
    | none => if start < s.stop then searchFrom c s false n (start + 1) else none

/-- The first match from `pos` in the given mode; `emptyBanned` refuses an empty match at
`pos`. A search from past the end finds nothing. -/
def findAt (c : Compiled) (s : Subject) (mode : Mode) (pos : Nat) (emptyBanned : Bool) :
    Option Found :=
  match mode with
  | .search => if pos > s.stop then none else searchFrom c s emptyBanned (s.stop - pos + 1) pos
  | _ => attempt c s mode emptyBanned pos

/-- The successive matches from `pos`, at most `n` of them. After an empty match the next may
not be empty where it starts. -/
def scanFrom (c : Compiled) (s : Subject) : Nat → Nat → Bool → List Found
  | 0, _, _ => []
  | n + 1, pos, emptyBanned =>
    match findAt c s .search pos emptyBanned with
    | none => []
    | some m => m :: scanFrom c s n m.stop (m.stop == m.start)

/-- The successive matches from `pos`, at most `limit` (all when 0). There are never more than
twice the characters left plus one: an empty match is followed by one that ends further. -/
def scan (c : Compiled) (s : Subject) (pos limit : Nat) : List Found :=
  let bound := 2 * (s.stop - pos) + 3
  scanFrom c s (if limit == 0 then bound else min limit bound) pos false

end StubDoctest.Regex
