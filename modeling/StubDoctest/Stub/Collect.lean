import StubDoctest.Doc.Clean
import StubDoctest.Source.Parser.Stmt
import StubDoctest.Text.Utf8

/-!
# Docstrings of a stub file

The docstrings that hold examples are found in the syntax tree of a stub: the module's own
docstring first, under the name of the file's stem at line 1, then the definitions in source
order. Only a `def` or `class` that stands directly in the module body or directly in the body
of a visited class is visited (an `async def` is not, nor a definition inside any other
statement); names of members are joined to their class's name with dots. A docstring is the
first statement of a body when that statement is a plain string constant; it is kept, cleaned,
when it is not empty and contains a prompt `>>>`.

A file that does not parse holds no docstrings. Undecodable bytes and null characters are
faults of their own.
-/

namespace StubDoctest.Stub

open StubDoctest.Source

/-- A docstring found in a stub: the dotted name of its owner, the cleaned text and the line
of the owner's keyword. -/
structure Entry where
  /-- The dotted name of the module, class or function. -/
  name : String
  /-- The cleaned docstring. -/
  docstring : String
  /-- The line of the `def` or `class` keyword, 1 for the module. -/
  line : Nat
  deriving Inhabited

/-- The cleaned docstring of a body, if its first statement is a plain string constant. -/
def docstringOf : List Stmt → Option String
  | .expr (.lit (.str s)) :: _ => some (Docstring.clean s)
  | _ => none

/-- The prompt that starts an example. -/
def prompt : List Char := ">>>".toList

/-- Whether a cleaned docstring is kept: not empty and with a prompt somewhere in it. The infix
test is the core's, named so that no other instance in scope stands in for it. -/
def holdsExamples (doc : String) : Bool :=
  !doc.isEmpty && @decide (prompt <:+: doc.toList) (List.instDecidableIsInfixOfDecidableEq _ _)

/-- The entry for a body's docstring, if it is kept. -/
def entryOf (name : String) (body : List Stmt) (line : Nat) : List Entry :=
  match docstringOf body with
  | some d => if holdsExamples d then [⟨name, d, line⟩] else []
  | none => []

/-- The name of a definition under the prefix `pre`: the prefix followed by the definition's
own name, or the own name alone when there is no prefix. -/
def fullName (pre name : String) : String :=
  if pre.isEmpty then name else pre ++ name

/-- The case of an empty prefix names a definition as the prefix does in every other case. -/
theorem fullName_eq (pre name : String) : fullName pre name = pre ++ name := by
  unfold fullName
  split
  · next h => rw [String.isEmpty_iff.1 h, String.empty_append]
  · rfl

mutual

/-- The entries of a definition and, for a class, of its members; `pre` is the dotted name of
the enclosing classes with a trailing dot, or empty. -/
def defEntries (pre : String) : Stmt → List Entry
  | .funcDef false name _ _ _ body line => entryOf (fullName pre name) body line
  | .classDef name _ _ body line =>
    entryOf (fullName pre name) body line ++ bodyEntries (fullName pre name ++ ".") body
  | _ => []

/-- The entries of the definitions of a body. -/
def bodyEntries (pre : String) : List Stmt → List Entry
  | [] => []
  | s :: rest => defEntries pre s ++ bodyEntries pre rest

end

/-- The entries of a module whose file has the stem `stem`. -/
def moduleEntries (stem : String) (body : List Stmt) : List Entry :=
  entryOf stem body 1 ++ bodyEntries "" body

/-- Why a stub's bytes could not be read. -/
inductive ReadFault where
  /-- The bytes are not UTF-8. -/
  | undecodable (f : Text.Utf8Fault)
  /-- The text holds a null character. -/
  | nullCharacter
  deriving Inhabited

/-- The message of a read fault. -/
def ReadFault.message : ReadFault → String
  | .undecodable f => f.message
  | .nullCharacter => "source code string cannot contain null bytes"

/-- The module body of a stub's text, after universal newlines. A text that does not parse is
read as an empty module, which holds no docstrings. -/
def readBody (text : List Char) : Except ReadFault (List Stmt) :=
  let cs := Text.uniformNewlines text
  if cs.contains '\x00' then .error .nullCharacter
  else
    match parseModule cs with
    | .ok body => .ok body
    | .error _ => .ok []

/-- The entries of a stub's text, after universal newlines; none when it does not parse. -/
def entriesOfText (stem : String) (text : List Char) : Except ReadFault (List Entry) :=
  (readBody text).map (moduleEntries stem)

/-- The module body of a stub's bytes, read as UTF-8 with universal newlines. -/
def readBytes (bytes : List UInt8) : Except ReadFault (List Stmt) :=
  match Text.decodeUtf8 bytes with
  | .ok cs => readBody cs
  | .error f => .error (.undecodable f)

/-- The entries of a stub's bytes, read as UTF-8. -/
def entriesOfBytes (stem : String) (bytes : List UInt8) : Except ReadFault (List Entry) :=
  (readBytes bytes).map (moduleEntries stem)

end StubDoctest.Stub
