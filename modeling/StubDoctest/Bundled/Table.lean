import StubDoctest.Bundled.Abc
import StubDoctest.Bundled.Collections
import StubDoctest.Bundled.CollectionsAbc
import StubDoctest.Bundled.Contextlib
import StubDoctest.Bundled.Copy
import StubDoctest.Bundled.Dataclasses
import StubDoctest.Bundled.Functools
import StubDoctest.Bundled.Future
import StubDoctest.Bundled.Itertools
import StubDoctest.Bundled.Keyword
import StubDoctest.Bundled.Operator
import StubDoctest.Bundled.Re
import StubDoctest.Bundled.Sys
import StubDoctest.Bundled.Types
import StubDoctest.Bundled.Typing

/-!
# Bundled modules

Modules of the standard library that ship as source with the runner: importing one runs its
source in a namespace of its own, as a program's module would run, once per session.
-/

namespace StubDoctest.Bundled

/-- The source of a bundled module by its dotted name. -/
def source? : String → Option String
  | "abc" => some abc
  | "collections" => some collections
  | "collections.abc" => some collectionsAbc
  | "contextlib" => some contextlib
  | "copy" => some copy
  | "dataclasses" => some dataclasses
  | "functools" => some functools
  | "__future__" => some future
  | "itertools" => some itertools
  | "keyword" => some keyword
  | "operator" => some operator
  | "re" => some re
  | "sys" => some sys
  | "types" => some types
  | "typing" => some typing
  | _ => none

/-- Whether a bundled module holds others under its name. -/
def isPackage (name : String) : Bool := (["collections"] : List String).contains name

end StubDoctest.Bundled
