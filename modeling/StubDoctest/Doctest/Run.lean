import StubDoctest.Exec.Eval
import StubDoctest.Doctest.Check
import StubDoctest.Source.Parser.Stmt
import StubDoctest.Source.Check

/-!
# Running the examples of a block

The examples of one block share one fresh, empty module scope. Each example's source is
compiled as one statement typed at the prompt and run there; what it prints is its output.
An example passes when it raised nothing and its output agrees with the expected output, or
when it raised an exception, expected one, and the last line of the traceback — the
exception's class name, then `: ` and its text when that is not empty — agrees with the
expected message (or, with `IGNORE_EXCEPTION_DETAIL`, their names agree). An example switched
off by `SKIP` is not run; after a failure, an example with `FAIL_FAST` stops the block.

The block has failed when an example failed; the report then lists, by line, every example
that expects an exception, whatever became of it. An interrupt (`KeyboardInterrupt`) is not
caught: it ends the block, and whatever runs the block, at once.

Blocks run one after another in one process, each on the machine the one before left. What a
block's examples did to the process stays: the objects they changed, the modules they imported,
the recursion and digit limits they set. The runner adds one trace of its own: after a run, `_`
names `None` (the runner resets it so), while before the first run of the process it names
nothing. It empties the block's globals, and what the examples made and nothing older can reach
is freed.
-/

namespace StubDoctest.Doctest

open StubDoctest.Exec
open StubDoctest.Check

/-- The fuel a block's examples run with. -/
def runFuel : Nat := 400000

/-- The flags in effect for an example: its directives over none. -/
def exampleFlags (ex : Example) : Flags := ex.options.entries

/-- The last line of the traceback of an exception: the last line of its last note when it
has notes, else its class name with its text; for a syntax error the text is its message, or
a placeholder when that is empty. -/
def exceptionLine (fuel : Nat) (e : Value) : Eval String := do
  let h : Hooks := ⟨callValue fuel, importNamed fuel⟩
  let c ← typeOf e
  let name ← exceptionTypeName c
  let attrs ← match e with
    | .ref a => do
      match ← getObj a with
      | .inst _ attrs _ => pure attrs
      | _ => pure #[]
    | _ => pure #[]
  let safe (v : Value) (what : String) : Eval String :=
    tryCatch (strOf h showFuel v) fun _ => pure ("<" ++ what ++ " str() failed>")
  let head ← if (← excFamily c) == .syntaxError then do
      let msg ← match (← exceptionField? c attrs "msg").getD .none with
        | .none => pure ""
        | m => safe m "exception"
      let msg := if msg.isEmpty then "<no detail available>" else msg
      let suffix ← match (← exceptionField? c attrs "lineno").getD .none,
          (← exceptionField? c attrs "filename").getD .none with
        | .none, .none => pure ""
        | .none, f => pure (" (" ++ (← safe f "filename") ++ ")")
        | _, _ => pure ""
      pure (name ++ ": " ++ msg ++ suffix ++ "\n")
    else do
      let text ← safe e "exception"
      pure ((if text.isEmpty then name else name ++ ": " ++ text) ++ "\n")
  match lookupPairs attrs "__notes__" with
  | none | some .none => return head
  | some notes =>
    let items ← match notes with
      | .str s => pure (some (s.toList.map fun (ch : Char) => Value.str ch.toString))
      | _ => sequenceItems notes
    match items with
    | some items =>
      let lines ← items.foldlM (fun acc n => do
        let t ← safe n "note"
        return acc ++ (t.splitOn "\n").map (· ++ "\n")) []
      return lines.getLastD head
    | none => tryCatch (reprOf h showFuel [] notes) fun _ => pure "<__notes__ repr() failed>"

/-- What running an example gave: its output and, if it raised, the last line of the
traceback; or, when it raised an interrupt, the interrupt's class name and text, which end the
run. -/
def runExample (fuel : Nat) (globals : Nat) (ex : Example) :
    Eval (Except (String × String) (String × Option String)) := do
  modify fun m => { m with out := "", depth := 0, yields := [], handling := [] }
  match StubDoctest.Source.parseSingle ex.source.toList with
  | .error f => return .ok ("", some (f.kind.className ++ ": " ++ f.message ++ "\n"))
  | .ok stmts =>
    match StubDoctest.Source.compileFault stmts with
    | some msg => return .ok ("", some ("SyntaxError: " ++ msg ++ "\n"))
    | none =>
      let fr : Frame := { kind := .module, locals := globals, globals := globals, interactive := true }
      let r ← observe (execBlock fuel fr stmts)
      let got := (← get).out
      match r with
      | .ok _ => return .ok (got, none)
      | .error (.raised e) =>
        if ← excIs e "KeyboardInterrupt" then
          let h : Hooks := ⟨callValue fuel, importNamed fuel⟩
          let name ← exceptionTypeName (← typeOf e)
          return .error (name, ← tryCatch (strOf h showFuel e) fun _ => pure "")
        return .ok (got, some (← exceptionLine fuel e))
      | .error .exhausted => return .ok (got, some "RecursionError: maximum recursion depth exceeded\n")

/-- Whether an example's outcome agrees with what it expects. -/
def exampleAgrees (flags : Flags) (ex : Example) (got : String) (exc : Option String) : Bool :=
  match exc with
  | none => outputMatches flags ex.want got
  | some msg =>
    match ex.excMsg with
    | none => false
    | some want =>
      outputMatches flags want msg ||
        (isOn flags .ignoreExceptionDetail &&
          outputMatches flags (stripDetails want) (stripDetails msg))

/-- The number of failed examples of a block, or the class name and text of an interrupt that
ended it. -/
def countFailures (fuel : Nat) (examples : List Example) : Eval (Except (String × String) Nat) := do
  let globals ← newModuleScope
  let mut failures := 0
  for ex in examples do
    let flags := exampleFlags ex
    if isOn flags .skip then continue
    match ← runExample fuel globals ex with
    | .error msg => return .error msg
    | .ok (got, exc) =>
      if !exampleAgrees flags ex got exc then failures := failures + 1
    if failures > 0 && isOn flags .failFast then break
  return .ok failures

/-- Where a block runs, which fixes how many frames lie below the code of its examples. -/
inductive Host where
  /-- Called by a program of its own, a few frames deep. -/
  | direct
  /-- As an item of a test session, under the session's hooks. -/
  | session
  deriving DecidableEq, Repr

/-- The frames below the calls an example makes, the example's own frame included. -/
def Host.frames : Host → Nat
  | .direct => 7
  | .session => 36

/-- The machine a block starts on. It is fresh but for `_`: every finished run leaves `_` bound
to `None`, so only a block that runs first in its process finds it unbound. -/
def startMachine (host : Host) (first : Bool) : Machine :=
  { baseDepth := host.frames, shown := if first then none else some .none }

/-- The number of failed examples of a block, run on the machine it starts on, or the class name
and text of an interrupt that ended it. -/
def failuresOf (host : Host) (first : Bool) (examples : List Example) :
    Except (String × String) Nat :=
  match ((countFailures runFuel examples).run).run (startMachine host first) with
  | (.ok r, _) => r
  | (.error _, _) => .ok 0

/-- The report of a failed block: the count, then each example that expects an exception. -/
def failureReport (examples : List Example) (failures : Nat) : String :=
  let lines := (examples.filter (·.excMsg.isSome)).map fun ex =>
    "Line " ++ toString ex.line ++ ": " ++ Text.trim ex.source
  "Doctest failed: " ++ toString failures ++ " failures\n" ++ "\n".intercalate lines

/-- How running a block ended. -/
inductive Outcome where
  /-- Every example agreed with what it expects. -/
  | passed
  /-- Some example did not; the report. -/
  | failed (report : String)
  /-- An example raised an interrupt, which stops the block and whatever runs it; its class
  name and text. -/
  | interrupted (cls message : String)
  deriving Inhabited, DecidableEq

/-- The outcome of a block from the runner's count of its failures, or from the interrupt that
ended it. -/
def Outcome.ofFailures (b : Block) : Except (String × String) Nat → Outcome
  | .error (cls, msg) => .interrupted cls msg
  | .ok 0 => .passed
  | .ok n => .failed (failureReport b.examples n)

/-- The outcome of running a block, first in its process (`_` unbound) or after another block
(`_` bound to `None`). -/
def runBlockFrom (host : Host) (first : Bool) (b : Block) : Outcome :=
  match failuresOf host first b.examples with
  | .error (cls, msg) => .interrupted cls msg
  | .ok 0 => .passed
  | .ok n => .failed (failureReport b.examples n)

/-- The outcome of running a block first in a fresh process. -/
def runBlock (host : Host) (b : Block) : Outcome := runBlockFrom host true b

/-- What a block's run leaves to its process, `m` being the machine the block started on and
`m'` the machine its examples left. The heap, the modules and the two limits are as the examples
left them; the runner empties the block's globals (the second object the run makes, after the
dictionary of builtins they hold) and binds `_` to `None`; the rest is the process's own. When
the examples wrote no older object and imported no module, nothing the process holds reaches
what they made, and all of it is freed. -/
def leaveProcess (m m' : Machine) : Machine :=
  let heap :=
    if !m'.wroteOld && m'.modules.length == m.modules.length then m.heap
    else m'.heap.setIfInBounds (m.heap.size + 1) (.scope #[])
  { m with heap := heap, modules := m'.modules, recursionLimit := m'.recursionLimit,
           intDigitLimit := m'.intDigitLimit, shown := some .none }

/-- Run a block on the machine of its process: the block's outcome, and the machine its run
leaves to the process. -/
def runBlockOn (m : Machine) (b : Block) : Outcome × Machine :=
  match ((countFailures runFuel b.examples).run).run
      { m with blockBase := m.heap.size, wroteOld := false } with
  | (.ok r, m') => (Outcome.ofFailures b r, leaveProcess m m')
  | (.error _, m') => (.passed, leaveProcess m m')

/-- Run blocks one after another in one process, from the machine `m`: the outcome of each. -/
def runBlocksOn (m : Machine) : List Block → List Outcome
  | [] => []
  | b :: bs => (runBlockOn m b).1 :: runBlocksOn (runBlockOn m b).2 bs

end StubDoctest.Doctest
