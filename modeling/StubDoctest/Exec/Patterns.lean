import StubDoctest.Exec.Bind
import StubDoctest.Regex.Match

/-!
# Regular expressions for programs

The primitives the `re` module is written on: compiling a pattern, finding one match, and
finding the successive matches of a scan. Patterns and subjects are text or bytes; bytes are
read as Latin-1 characters, so that one engine serves both, and a text pattern refuses a bytes
subject and the other way round.

A compiled pattern is not kept: each primitive compiles the pattern again from its text and
the flags it was given, which the `re` module had compiled once to report its faults.

A match is reported as a tuple: where it starts and ends, the group that closed last (or
`None`), and the span of each group, `(-1, -1)` for a group that captured nothing.
-/

namespace StubDoctest.Exec

open StubDoctest.Regex

/-- The characters of a pattern or subject, and whether it is text; `none` for a value that is
neither text nor bytes. -/
def regexChars? (v : Value) : Eval (Option (Array Char × Bool)) := do
  let ofBytes := fun (bs : List UInt8) => (bs.map fun b => Char.ofNat b.toNat).toArray
  match v with
  | .str s => return some (s.toList.toArray, true)
  | _ =>
    if let some bs ← bytesLike? v then return some (ofBytes bs, false)
    match ← dataOf? v with
    | some (.str s) => return some (s.toList.toArray, true)
    | some d =>
      match ← bytesLike? d with
      | some bs => return some (ofBytes bs, false)
      | none => return none
    | none => return none

/-- Flags as the engine reads them: a negative number by its low 32 bits. -/
def flagBits (h : Hooks) (v : Value) : Eval Nat := do
  let n ← intArg h v
  return if n < 0 then (n % 4294967296).toNat else n.toNat

/-- Compile a pattern given with its flags, turning faults of range and of flags into the
errors a program sees. -/
def compileArgs (h : Hooks) (pattern flags : Value) :
    Eval (Except (String × Option Nat) Compiled) := do
  let some (chars, text) ← regexChars? pattern
    | throwExc "TypeError" "first argument must be string or compiled pattern"
  match compile chars text (← flagBits h flags) with
  | .ok c => return .ok c
  | .error (.malformed msg pos) => return .error (msg, pos)
  | .error (.overflow msg) => throwExc "OverflowError" msg
  | .error (.flags msg) => throwExc "ValueError" msg

/-- A compiled pattern that compiled before. -/
def recompile (h : Hooks) (pattern flags : Value) : Eval Compiled := do
  match ← compileArgs h pattern flags with
  | .ok c => return c
  | .error (msg, _) => throwExc "RuntimeError" msg

/-- The subject of a match, refused when its kind is not the pattern's. -/
def subjectOf (text : Bool) (v : Value) : Eval (Array Char) := do
  match ← regexChars? v with
  | some (chars, t) =>
    if t == text then return chars
    else if text then throwExc "TypeError" "cannot use a string pattern on a bytes-like object"
    else throwExc "TypeError" "cannot use a bytes pattern on a string-like object"
  | none =>
    throwExc "TypeError" ("expected string or bytes-like object, got '" ++ (← typeName v) ++ "'")

/-- A position argument held between 0 and the length. -/
def clampPosition (h : Hooks) (v : Value) (len : Nat) : Eval Nat := do
  let n ← intArg h v
  return if n < 0 then 0 else min n.toNat len

/-- A match as the `re` module receives it. -/
def foundValue (groups : Nat) (m : Found) : Value :=
  let span := fun (i : Nat) =>
    match m.caps.spans[i]? with
    | some (some (a, b)) => Value.tuple [.int a, .int b]
    | _ => Value.tuple [.int (-1), .int (-1)]
  .tuple [.int m.start, .int m.stop, (match m.caps.last with
      | some i => .int i
      | none => .none),
    .tuple ((List.range groups).map fun i => span (i + 1))]

/-- The subject, its bounds and the compiled pattern of a search's arguments. -/
def searchArgs (h : Hooks) (pattern flags string pos endpos : Value) :
    Eval (Compiled × Subject × Nat) := do
  let c ← recompile h pattern flags
  let kind ← regexChars? pattern
  let text := match kind with
    | some (_, t) => t
    | none => true
  let chars ← subjectOf text string
  let stop ← clampPosition h endpos chars.size
  let start ← clampPosition h pos chars.size
  return (c, { chars, stop }, start)

/-- Call a primitive of the `re` module by its name. -/
def callRegex (h : Hooks) (name : String) (args : List Value) : Eval Value := do
  match name, args with
  | "_parse", [pattern, flags] =>
    match ← compileArgs h pattern flags with
    | .ok c =>
      let names ← allocRef (.list (c.names.map fun (n, i) => Value.tuple [.str n, .int i]).toArray)
      return .tuple [.int c.flags, .int c.groups, names]
    | .error (msg, pos) =>
      return .tuple [.none, .str msg, (match pos with
        | some p => .int p
        | none => .none)]
  | "_search", [pattern, flags, string, pos, endpos, mode] =>
    let (c, s, start) ← searchArgs h pattern flags string pos endpos
    let m ← intArg h mode
    let mode := match m with
      | 0 => Mode.anchored
      | 1 => Mode.search
      | _ => Mode.whole
    match findAt c s mode start false with
    | some m => return foundValue c.groups m
    | none => return .none
  | "_scan", [pattern, flags, string, pos, endpos, limit] =>
    let (c, s, start) ← searchArgs h pattern flags string pos endpos
    let n ← intArg h limit
    let found := if n < 0 then [] else scan c s start n.toNat
    allocRef (.list (found.map (foundValue c.groups)).toArray)
  | _, _ => throwExc "TypeError" ("re." ++ name ++ "() got unexpected arguments")

end StubDoctest.Exec
