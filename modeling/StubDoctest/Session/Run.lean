import StubDoctest.Session.Keyword
import StubDoctest.Session.Ignore
import StubDoctest.Session.Options
import StubDoctest.Stub.Collect
import StubDoctest.Example.Parse
import StubDoctest.Doctest.Run

/-!
# A test session over stub files

The plugin's part of a session is which files it collects (`isStub`, under `--stubs`), what it
collects from a file's bytes (`collectFile`: the docstrings with examples as test items named
`file::Name`, or a collection error reported as `Class: message` when a docstring's examples or
the file itself cannot be read) and how an item runs (a block of examples, run on the machine of
the session's process and leaving its effects there).

Around these, the test runner's session loop (`collectAndRun`) follows the runner's documented
behaviour, so that whole sessions can be run: a session is given files by name and command-line
options. With `--stubs`, every file whose suffix is `.pyi` in any case is collected, in order of
name (the directory listing is sorted, stably).

When nothing failed to collect (or `--continue-on-collection-errors` is given), the items
selected by `-k`, `-m` and `--deselect` are run in order, each a block of examples. A file that
failed to collect counts as a failure; after as many failures as `--maxfail` allows (one with
`-x`) the session stops, also between two files; an interrupt raised by an example stops it
at once. `--collect-only` runs nothing. The exit status is 2 after a collection error or an
interrupt, 5 when no item was selected, 1 when something failed, 0 otherwise, and 4 for options
the session does not know or expressions it cannot read.
-/

namespace StubDoctest.Session

/-- The suffix of a file name: from its last dot, when that dot is neither first nor last. -/
def suffixOf (name : String) : String :=
  let cs := name.toList
  match (List.range cs.length).reverse.find? (fun i => cs[i]? == some '.') with
  | some i => if 0 < i && i + 1 < cs.length then String.ofList (cs.drop i) else ""
  | none => ""

/-- The stem of a file name: the name without its suffix. -/
def stemOf (name : String) : String :=
  let s := suffixOf name
  String.ofList (name.toList.take (name.length - s.length))

/-- The last part of a path: what follows its last `/`. -/
def baseName (path : String) : String := String.ofList ((path.toList.splitOn '/').getLastD [])

/-- Whether a file is collected as a stub. -/
def isStub (path : String) : Bool := Text.lower (suffixOf (baseName path)) == ".pyi"

/-- An item: its node id, its name and its block of examples. -/
structure Item where
  /-- `file::Name`. -/
  nodeid : String
  /-- The name of the docstring's definition. -/
  name : String
  /-- The examples. -/
  block : Block

/-- What collecting a file gave. -/
structure ModuleReport where
  /-- The file's node id: its path. -/
  nodeid : String
  /-- The collection error, if any. -/
  error : Option String
  /-- The items collected. -/
  items : List Item

/-- What running an item gave. -/
structure CallReport where
  /-- The item's node id. -/
  nodeid : String
  /-- The failure's message, if it failed. -/
  failure : Option String

/-- What a session gave. -/
structure Report where
  /-- The exit status. -/
  exit : Nat
  /-- One report per file collected. -/
  modules : List ModuleReport
  /-- One report per item run. -/
  results : List CallReport

/-- The items of the entries of a file, in order: each entry's docstring read as a block of
examples, an item for each block that has examples; or the fault of the first entry whose
docstring cannot be read. -/
def itemsOf (path : String) : List Stub.Entry → Except String (List Item)
  | [] => .ok []
  | e :: rest =>
    match Block.ofDocstring e.name path (some e.line) e.docstring with
    | .error f => .error ("ValueError: " ++ f.message)
    | .ok b => do
      let more ← itemsOf path rest
      if b.examples.isEmpty then return more
      else return { nodeid := path ++ "::" ++ e.name, name := e.name, block := b } :: more

/-- The report of a file, from the entries read from it or the fault that stopped the reading. -/
def reportOf (path : String) (read : Except Stub.ReadFault (List Stub.Entry)) : ModuleReport :=
  match read with
  | .error f =>
    let cls := match f with
      | .undecodable _ => "UnicodeDecodeError"
      | .nullCharacter => "ValueError"
    { nodeid := path, error := some (cls ++ ": " ++ f.message), items := [] }
  | .ok entries =>
    match itemsOf path entries with
    | .ok items => { nodeid := path, error := none, items := items }
    | .error m => { nodeid := path, error := some m, items := [] }

/-- The items of a stub file, from its bytes, or its collection error. -/
def collectFile (path : String) (bytes : List UInt8) : ModuleReport :=
  reportOf path (Stub.entriesOfBytes (stemOf (baseName path)) bytes)

/-- Whether a session with `failed` failures stops: it has failed as often as `maxfail`
allows. A negative bound stops it at the first failure. -/
def stopsAt (maxfail : Int) (failed : Nat) : Bool :=
  maxfail != 0 && failed > 0 && (failed : Int) ≥ maxfail

/-- Without a bound a session never stops early. -/
theorem stopsAt_zero (failed : Nat) : stopsAt 0 failed = false := by
  simp [stopsAt]

/-- Before any failure a session never stops. -/
theorem stopsAt_no_failure (maxfail : Int) : stopsAt maxfail 0 = false := by
  simp [stopsAt]

/-- Collect files in order, and whether the session stopped before the last of them because
too many had failed to collect. -/
def collectFiles (maxfail : Int) (files : List (String × List UInt8)) :
    List ModuleReport × Bool :=
  let rec go (failed : Nat) (files : List (String × List UInt8)) : List ModuleReport × Bool :=
    match files with
    | [] => ([], false)
    | (path, bytes) :: rest =>
      if stopsAt maxfail failed then ([], true)
      else
        let m := collectFile path bytes
        let (more, stopped) := go (if m.error.isSome then failed + 1 else failed) rest
        (m :: more, stopped)
  go 0 files

/-- The failure a session reports for an item's outcome: none when it passed, the report's text
when it failed; an interrupt gives no report, since it ends the session. -/
def callFailure : Doctest.Outcome → Option (Option String)
  | .passed => some none
  | .failed m => some (some ("Failed: " ++ Text.trimRight m))
  | .interrupted _ _ => none

/-- Run items in order until the session stops, `failed` failures having been counted before
the first: a report for each item run, and whether an interrupt ended the run. The items run in
the session's one process, each on the machine the one before left. -/
def runItems (maxfail : Int) (failed : Nat) (items : List Item) : List CallReport × Bool :=
  let rec go (m : Exec.Machine) (failed : Nat) (items : List Item) : List CallReport × Bool :=
    match items with
    | [] => ([], false)
    | it :: rest =>
      let (outcome, m') := Doctest.runBlockOn m it.block
      match callFailure outcome with
      | none => ([], true)
      | some failure =>
        let report : CallReport := { nodeid := it.nodeid, failure := failure }
        let failed := if failure.isSome then failed + 1 else failed
        if stopsAt maxfail failed then ([report], false)
        else
          let (more, interrupted) := go m' failed rest
          (report :: more, interrupted)
  go (Doctest.startMachine .session true) failed items

/-- The selection of the keyword expression: every item when it is blank. -/
def keywordSelection (k : String) : Option (List String → Bool) :=
  let k := Text.trimLeft k
  if k.isEmpty then some fun _ => true
  else (parseKeyExpr k).map fun e names => e.selects names

/-- The selection of the marker expression: every item when it is empty. Items carry no
markers, so a word is never among them. -/
def markSelection (m : String) : Option (List String → Bool) :=
  if m.isEmpty then some fun _ => true
  else (parseKeyExpr m).map fun e _ => e.selects []

/-- Collect the files, given by name and bytes, and run the selected items under options read
without fault. -/
def collectAndRun (o : Options) (files : List (String × List UInt8)) : Report :=
  let sorted := files.mergeSort fun x y => decide (x.1 ≤ y.1)
  let stubs := if o.stubs then sorted.filter (fun f => isStub f.1 && !isIgnored o.ignore o.ignoreGlob f.1)
    else []
  let (modules, stopped) := collectFiles o.maxfail stubs
  let errors := (modules.filter (·.error.isSome)).length
  if stopped then { exit := 1, modules := modules, results := [] }
  else
    match keywordSelection o.keyword, markSelection o.marks with
    | some byKey, some byMark =>
      if errors > 0 && !o.continueOnErrors then
        { exit := 2, modules := modules, results := [] }
      else
        let items := modules.flatMap fun m => m.items.filter fun it =>
          let names := [it.name, baseName m.nodeid]
          byKey names && byMark names && !o.deselect.any (·.isPrefixOf it.nodeid)
        let (results, interrupted) :=
          if o.collectOnly then ([], false) else runItems o.maxfail errors items
        let exit :=
          if interrupted then 2
          else if errors > 0 || results.any (·.failure.isSome) then 1
          else if items.isEmpty then 5 else 0
        { exit := exit, modules := modules, results := results }
    | _, _ => { exit := 4, modules := modules, results := [] }

/-- A session with the given arguments over files given by name and text, each file holding its
text in UTF-8. -/
def runSession (files : List (String × String)) (args : List String) : Report :=
  match parseOptions args with
  | none => { exit := 4, modules := [], results := [] }
  | some o =>
    if o.informOnly then { exit := 0, modules := [], results := [] }
    else collectAndRun o (files.map fun f => (f.1, f.2.toUTF8.toList))

end StubDoctest.Session
