import StubDoctest.Exec.Kind
import StubDoctest.Text.CodePoint

/-!
# Exceptions and their fields

An exception keeps the arguments it was made with and, for a few families of classes, fields
read off them. An `OSError` has an error number, an error text and up to two file names; made
from the class itself with an error number that has a class of its own (2 is a missing file,
13 a refused permission, …) it is an instance of that class, and once a file name is given it
keeps only the first two arguments. A `SyntaxError` has a message and the place of the fault;
a `StopIteration` its value; a `SystemExit` its exit code; an `ImportError` a message and the
module's name and path; the Unicode errors the codec, the object, the stretch and the reason.

A field that was never set reads as the constructor would have set it from the arguments, so
an exception raised by the runtime with its arguments alone has its fields too.

The plain form of an exception comes from its family: `[Errno 2] text: 'name'` for an
`OSError` with a file name, the message with the file's base name and line for a
`SyntaxError`, the codec's complaint for a Unicode error, the display form of the key for a
`KeyError`; otherwise nothing for no argument, the plain form of a single argument, or the
display form of the tuple of arguments.
-/

namespace StubDoctest.Exec

/-- The class an `OSError` with an error number becomes. -/
def osErrorClass? : Int → Option String
  | 1 | 13 => some "PermissionError"
  | 2 => some "FileNotFoundError"
  | 3 => some "ProcessLookupError"
  | 4 => some "InterruptedError"
  | 10 => some "ChildProcessError"
  | 11 | 114 | 115 => some "BlockingIOError"
  | 17 => some "FileExistsError"
  | 20 => some "NotADirectoryError"
  | 21 => some "IsADirectoryError"
  | 32 | 108 => some "BrokenPipeError"
  | 103 => some "ConnectionAbortedError"
  | 104 => some "ConnectionResetError"
  | 110 => some "TimeoutError"
  | 111 => some "ConnectionRefusedError"
  | _ => none

/-- The families of exception classes that keep fields of their own. -/
inductive ExcFamily where
  | osError
  | syntaxError
  | stopIteration
  | systemExit
  | importError
  | unicodeDecode
  | unicodeEncode
  | keyError
  | attributeError
  | nameError
  | plain
  deriving DecidableEq, Repr

/-- The family of an exception class: that of its nearest ancestor with fields. -/
def excFamily (c : ClassRef) : Eval ExcFamily := do
  let mro ← classMro c
  let has (n : String) : Bool := mro.contains (.builtin n)
  return if has "UnicodeDecodeError" then .unicodeDecode
    else if has "UnicodeEncodeError" then .unicodeEncode
    else if has "OSError" then .osError
    else if has "SyntaxError" then .syntaxError
    else if has "StopIteration" then .stopIteration
    else if has "SystemExit" then .systemExit
    else if has "ImportError" then .importError
    else if has "KeyError" then .keyError
    else if has "AttributeError" then .attributeError
    else if has "NameError" then .nameError
    else .plain

/-- The names of the fields of a family. -/
def ExcFamily.fieldNames : ExcFamily → List String
  | .osError => ["errno", "strerror", "filename", "filename2"]
  | .syntaxError => ["msg", "filename", "lineno", "offset", "text", "end_lineno", "end_offset",
      "print_file_and_line"]
  | .stopIteration => ["value"]
  | .systemExit => ["code"]
  | .importError => ["msg", "name", "path"]
  | .unicodeDecode | .unicodeEncode => ["encoding", "object", "start", "end", "reason"]
  | .attributeError => ["name", "obj"]
  | .nameError => ["name"]
  | .keyError | .plain => []

/-- The `i`-th argument, or `None`. -/
def argOr (args : List Value) (i : Nat) : Value := args[i]?.getD .none

/-- The items of a tuple or list. -/
def sequenceItems (v : Value) : Eval (Option (List Value)) := do
  match v with
  | .tuple xs => return some xs
  | .ref a =>
    match ← getObj a with
    | .list xs => return some xs.toList
    | _ => return none
  | _ => return none

/-- The fields of a family as its constructor sets them from the arguments and keywords. -/
def familyFields (fam : ExcFamily) (args : List Value) (kw : List (String × Value)) :
    Eval (List (String × Value)) := do
  let kwOr (k : String) : Value := ((kw.find? (·.1 == k)).map (·.2)).getD .none
  match fam with
  | .osError =>
    if 2 ≤ args.length && args.length ≤ 5 then
      return [("errno", argOr args 0), ("strerror", argOr args 1), ("filename", argOr args 2),
        ("filename2", argOr args 4)]
    else return [("errno", .none), ("strerror", .none), ("filename", .none), ("filename2", .none)]
  | .syntaxError =>
    let base := [("msg", argOr args 0), ("print_file_and_line", .none)]
    let place ← match args with
      | [_, info] =>
        match ← sequenceItems info with
        | some items =>
          if items.length < 4 then
            throwExc "TypeError" ("function takes at least 4 arguments (" ++
              toString items.length ++ " given)")
          if items.length > 6 then
            throwExc "TypeError" ("function takes at most 6 arguments (" ++
              toString items.length ++ " given)")
          pure (["filename", "lineno", "offset", "text", "end_lineno", "end_offset"].zip
            (items ++ List.replicate (6 - items.length) Value.none))
        | none => throwExc "TypeError" ("'" ++ (← typeName info) ++ "' object is not iterable")
      | _ => pure (["filename", "lineno", "offset", "text", "end_lineno", "end_offset"].map
          (·, Value.none))
    return base ++ place
  | .stopIteration => return [("value", argOr args 0)]
  | .systemExit =>
    return [("code", match args with
      | [] => .none
      | [x] => x
      | xs => .tuple xs)]
  | .importError =>
    return [("msg", if args.length == 1 then argOr args 0 else .none), ("name", kwOr "name"),
      ("path", kwOr "path")]
  | .unicodeDecode | .unicodeEncode =>
    return [("encoding", argOr args 0), ("object", argOr args 1), ("start", argOr args 2),
      ("end", argOr args 3), ("reason", argOr args 4)]
  | .attributeError => return [("name", kwOr "name"), ("obj", kwOr "obj")]
  | .nameError => return [("name", kwOr "name")]
  | .keyError | .plain => return []

/-- A field of an exception: as set, or as its constructor would set it from its arguments. -/
def exceptionField? (c : ClassRef) (attrs : Array (String × Value)) (name : String) :
    Eval (Option Value) := do
  match lookupPairs attrs name with
  | some v => return some v
  | none =>
    let fam ← excFamily c
    if !fam.fieldNames.contains name then return none
    let fields ← tryCatch (familyFields fam (excArgs attrs) []) fun _ => pure []
    return ((fields.find? (·.1 == name)).map (·.2)).orElse fun _ => some .none
where
  excArgs (attrs : Array (String × Value)) : List Value :=
    match lookupPairs attrs "args" with
    | some (.tuple items) => items
    | _ => []

/-- The keywords an exception class takes. -/
def ExcFamily.keywords : ExcFamily → List String
  | .importError => ["name", "path"]
  | .attributeError => ["name", "obj"]
  | .nameError => ["name"]
  | _ => []

/-- A new exception of a class from the arguments and keywords of a call. -/
def makeException (c : ClassRef) (args : List Value) (kw : List (String × Value)) :
    Eval Value := do
  let fam ← excFamily c
  let name ← className c
  if let some (k, _) := kw.find? (fun p => !fam.keywords.contains p.1) then
    if fam.keywords.isEmpty then throwExc "TypeError" (name ++ "() takes no keyword arguments")
    else throwExc "TypeError" ("'" ++ k ++ "' is an invalid keyword argument for " ++ name ++ "()")
  match fam with
  | .unicodeDecode | .unicodeEncode =>
    if args.length != 5 then
      throwExc "TypeError" ("function takes exactly 5 arguments (" ++ toString args.length ++
        " given)")
  | _ => pure ()
  let c := match c, fam, args with
    | .builtin "OSError", .osError, .int n :: _ :: rest =>
      if rest.length ≤ 3 then
        match osErrorClass? n with
        | some sub => ClassRef.builtin sub
        | none => c
      else c
    | _, _, _ => c
  let fields ← familyFields fam args kw
  let kept := match fam, args with
    | .osError, _ :: _ :: f :: _ =>
      if args.length ≤ 5 then
        match f with
        | .none => args
        | _ => args.take 2
      else args
    | _, _ => args
  allocRef (.inst c (#[("args", .tuple kept)] ++ fields.toArray) none)

/-- The last part of a path. -/
def baseName (s : String) : String := ((s.splitOn "/").getLast?).getD s

/-- The hexadecimal digits of a number, lower case, padded with zeros to a width. -/
def hexWidth (width n : Nat) : String :=
  let ds := Nat.toDigits 16 n
  String.ofList (List.replicate (width - ds.length) '0' ++ ds)

/-- The plain form of an exception of class `c` with attributes `attrs`, given the plain and
display forms of values. -/
def exceptionText (str repr : Value → Eval String) (c : ClassRef)
    (attrs : Array (String × Value)) : Eval String := do
  let args := match lookupPairs attrs "args" with
    | some (.tuple items) => items
    | _ => []
  let plain : Eval String := do
    match args with
    | [] => return ""
    | [x] => str x
    | xs => repr (.tuple xs)
  let field (n : String) : Eval Value := do return (← exceptionField? c attrs n).getD .none
  match ← excFamily c with
  | .osError =>
    let errno ← field "errno"
    let strerror ← field "strerror"
    let filename ← field "filename"
    let filename2 ← field "filename2"
    let head : Eval String := do
      return "[Errno " ++ (← str errno) ++ "] " ++ (← str strerror)
    match filename, filename2 with
    | .none, _ =>
      match errno, strerror with
      | .none, _ | _, .none => plain
      | _, _ => head
    | f, .none => return (← head) ++ ": " ++ (← repr f)
    | f, g => return (← head) ++ ": " ++ (← repr f) ++ " -> " ++ (← repr g)
  | .syntaxError =>
    let msg ← str (← field "msg")
    let file := match ← field "filename" with
      | .str s => some (baseName s)
      | _ => none
    let line := match ← field "lineno" with
      | .int n => some n
      | _ => none
    match file, line with
    | none, none => return msg
    | some f, some n => return msg ++ " (" ++ f ++ ", line " ++ toString n ++ ")"
    | some f, none => return msg ++ " (" ++ f ++ ")"
    | none, some n => return msg ++ " (line " ++ toString n ++ ")"
  | .unicodeDecode =>
    match ← field "encoding", ← field "object", ← field "start", ← field "end",
        ← field "reason" with
    | .str enc, .bytes bs, .int s, .int e, .str why =>
      if s.toNat < bs.length && e = s + 1 then
        return "'" ++ enc ++ "' codec can't decode byte 0x" ++
          hexWidth 2 ((bs[s.toNat]?.getD 0).toNat) ++ " in position " ++ toString s ++ ": " ++ why
      else
        return "'" ++ enc ++ "' codec can't decode bytes in position " ++ toString s ++ "-" ++
          toString (e - 1) ++ ": " ++ why
    | _, _, _, _, _ => return ""
  | .unicodeEncode =>
    match ← field "encoding", ← field "object", ← field "start", ← field "end",
        ← field "reason" with
    | .str enc, .str obj, .int s, .int e, .str why =>
      let cs := obj.toList
      if s.toNat < cs.length && e = s + 1 then
        let n := Text.codeOf (cs[s.toNat]?.getD ' ')
        let shown := if n ≤ 0xff then "\\x" ++ hexWidth 2 n
          else if n ≤ 0xffff then "\\u" ++ hexWidth 4 n else "\\U" ++ hexWidth 8 n
        return "'" ++ enc ++ "' codec can't encode character '" ++ shown ++ "' in position " ++
          toString s ++ ": " ++ why
      else
        return "'" ++ enc ++ "' codec can't encode characters in position " ++ toString s ++
          "-" ++ toString (e - 1) ++ ": " ++ why
    | _, _, _, _, _ => return ""
  | .importError =>
    match ← field "msg" with
    | .str m => return m
    | _ => plain
  | .keyError =>
    match args with
    | [x] => repr x
    | _ => plain
  | _ => plain

end StubDoctest.Exec
