import StubDoctest.Exec.Convert

/-!
# The options of a session

A session is started with a list of arguments, read the way a command line is read: an
argument starting with `-` names an option. Short options may be run together (`-xs`), and a
short option that takes a value may hold it (`-kadd`, `-k=add`); a long one holds it after
`=` (`--maxfail=2`) or takes the next argument. The next argument is a value unless it looks
like an option itself: it starts with `-` and is not a negative number and has no blank, or it
starts with a known short option.

The options read are `--stubs`, `-x` (`--exitfirst`, which is `--maxfail=1`), `--maxfail`,
`-k` (the keyword expression), `-m` (the marker expression), `--deselect` (a node id prefix,
as often as wanted), `--ignore` and `--ignore-glob` (a path or a pattern of paths left out of
collection, as often as wanted), `--collect-only` (`--co`), `--continue-on-collection-errors`, and
`--version`, which ends the session before it collects. Options of capture,
warnings, plugins and strictness are accepted and change nothing here. The session reports
through no terminal, so options of verbosity and report style are unknown to it. Anything
unknown is a usage error, and so is an argument that is not an option: it would name a path
to collect.
-/

namespace StubDoctest.Session

/-- The options of a session. -/
structure Options where
  /-- Whether stub files are collected. -/
  stubs : Bool := false
  /-- The keyword expression selecting items; blank for every item. -/
  keyword : String := ""
  /-- The marker expression selecting items; empty for every item. -/
  marks : String := ""
  /-- Node id prefixes of items left out. -/
  deselect : List String := []
  /-- Paths left out of collection. -/
  ignore : List String := []
  /-- Shell patterns of paths left out of collection. -/
  ignoreGlob : List String := []
  /-- How many failures stop the session; zero for none. -/
  maxfail : Int := 0
  /-- Whether items are only collected. -/
  collectOnly : Bool := false
  /-- Whether items run although a file failed to collect. -/
  continueOnErrors : Bool := false
  /-- Whether the session only tells its version, collecting nothing. -/
  informOnly : Bool := false
  deriving Inhabited, DecidableEq

/-- The short options a command line knows. -/
def knownShort : List Char := ['h', 'V', 'p', 'k', 'm', 'x', 'c', 'o', 's', 'W']

/-- Short options without a value that change nothing here. -/
def quietShort : List Char := ['s']

/-- Short options with a value. -/
def valuedShort : List Char := ['k', 'm', 'p', 'c', 'o', 'W']

/-- Long options without a value that change nothing here. -/
def quietLong : List String :=
  ["--strict-markers", "--strict-config", "--strict", "--keep-duplicates", "--noconftest",
    "--collect-in-virtualenv", "--pyargs", "--runxfail", "--setup-show", "--trace-config",
    "--traceconfig", "--debug"]

/-- Long options with a value: those read here and those that change nothing here. -/
def valuedLong : List String :=
  ["--maxfail", "--deselect", "--capture", "--pythonwarnings", "--override-ini", "--config-file",
    "--rootdir", "--basetemp", "--confcutdir", "--import-mode", "--durations", "--durations-min",
    "--assert", "--ignore", "--ignore-glob"]

/-- Long options without a value. -/
def flagLong : List String :=
  ["--stubs", "--exitfirst", "--collect-only", "--collectonly", "--co",
    "--continue-on-collection-errors", "--version"] ++ quietLong

/-- Whether the characters are a negative number, such as `-3` or `-.5`. -/
def isNegativeNumber (cs : List Char) : Bool :=
  match cs with
  | '-' :: rest =>
    let digits := fun (xs : List Char) => xs.all Char.isDigit
    match rest.splitOn '.' with
    | [whole] => !whole.isEmpty && digits whole
    | [whole, frac] => digits whole && !frac.isEmpty && digits frac
    | _ => false
  | _ => false

/-- The pieces of an argument between its `=` signs. -/
def splitAtEquals (a : String) : List String := (a.toList.splitOn '=').map String.ofList

/-- Whether an argument reads as an option rather than as a value. -/
def looksLikeOption (a : String) : Bool :=
  match a.toList with
  | '-' :: '-' :: _ =>
    let name := (splitAtEquals a).headD a
    flagLong.contains name || valuedLong.contains name || !a.toList.contains ' '
  | '-' :: c :: _ =>
    knownShort.contains c || (!isNegativeNumber a.toList && !a.toList.contains ' ')
  | _ => false

/-- The option with a value, given the value. -/
def setValue (o : Options) (opt : String) (v : String) : Option Options :=
  if opt == "-k" then some { o with keyword := v }
  else if opt == "-m" then some { o with marks := v }
  else if opt == "--deselect" then some { o with deselect := o.deselect ++ [v] }
  else if opt == "--ignore" then some { o with ignore := o.ignore ++ [v] }
  else if opt == "--ignore-glob" then some { o with ignoreGlob := o.ignoreGlob ++ [v] }
  else if opt == "--maxfail" then (Exec.parseIntText v 10).map fun n => { o with maxfail := n }
  else if valuedLong.contains opt || opt.length == 2 then some o
  else none

/-- The value of an option from the next argument, if there is one that is not an option. -/
def nextValue (o : Options) (opt : String) (rest : List String) : Option (Options × List String) :=
  match rest with
  | v :: more => if looksLikeOption v then none else (setValue o opt v).map (·, more)
  | [] => none

/-- Read a run of short options, `cs` after the leading `-`. -/
def shortOptions (o : Options) (cs : List Char) (rest : List String) :
    Option (Options × List String) :=
  match cs with
  | [] => some (o, rest)
  | c :: more =>
    let opt := String.ofList ['-', c]
    if c = 'x' then shortOptions { o with maxfail := 1 } more rest
    else if c = 'V' then shortOptions { o with informOnly := true } more rest
    else if quietShort.contains c then shortOptions o more rest
    else if valuedShort.contains c then
      if more.isEmpty then nextValue o opt rest
      else (setValue o opt (String.ofList more)).map (·, rest)
    else none

/-- A long option without a value. -/
def setFlag (o : Options) (name : String) : Options :=
  if name == "--stubs" then { o with stubs := true }
  else if name == "--exitfirst" then { o with maxfail := 1 }
  else if name == "--collect-only" || name == "--collectonly" || name == "--co" then
    { o with collectOnly := true }
  else if name == "--continue-on-collection-errors" then { o with continueOnErrors := true }
  else if name == "--version" then { o with informOnly := true }
  else o

/-- Read one argument and, for an option that takes one, its value. -/
def readOption (o : Options) (a : String) (rest : List String) : Option (Options × List String) :=
  match a.toList with
  | '-' :: '-' :: _ =>
    match splitAtEquals a with
    | [name] =>
      if flagLong.contains name then some (setFlag o name, rest)
      else if valuedLong.contains name then nextValue o name rest
      else none
    | name :: _ =>
      if valuedLong.contains name then
        (setValue o name (String.ofList (a.toList.drop (name.length + 1)))).map (·, rest)
      else none
    | [] => none
  | '-' :: c :: more =>
    match more with
    | '=' :: v =>
      if valuedShort.contains c then
        (setValue o (String.ofList ['-', c]) (String.ofList v)).map (·, rest)
      else shortOptions o (c :: more) rest
    | _ => shortOptions o (c :: more) rest
  | _ => none

/-- The options of an argument list, or `none` for a usage error. -/
def parseOptions (args : List String) : Option Options :=
  let rec go (fuel : Nat) (o : Options) (args : List String) : Option Options :=
    match fuel with
    | 0 => some o
    | fuel + 1 =>
      match args with
      | [] => some o
      | a :: rest => do
        let (o, more) ← readOption o a rest
        go fuel o more
  go (args.length + 1) {} args

/-- No arguments give the default options: nothing is collected. -/
theorem parseOptions_nil : parseOptions [] = some {} := rfl

end StubDoctest.Session
