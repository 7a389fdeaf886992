import StubDoctest.Proofs.Walk
import StubDoctest.Proofs.PromptFree
import StubDoctest.Session.Run

/-!
# Collection with and without the prompt filter

The walk keeps a docstring only when it is not empty and holds a prompt. Keeping every
docstring instead gives the same collection: the walk visits the same definitions either way,
so the filtered entries are the unfiltered ones with some dropped, and every dropped docstring
is read as a block without examples, which makes no item and no fault.

Main statement: `collectFile_eq_collectFileUnfiltered`.
-/

set_option autoImplicit false

namespace StubDoctest.Stub

open StubDoctest.Source

/-- The entry of a body's docstring, whatever its text. -/
def docOf (name : String) (body : List Stmt) (line : Nat) : List Entry :=
  match docstringOf body with
  | some d => [⟨name, d, line⟩]
  | none => []

mutual

/-- The entries of a definition and, for a class, of its members, when the walk keeps every
docstring. -/
def defDocs (pre : String) : Stmt → List Entry
  | .funcDef false name _ _ _ body line => docOf (pre ++ name) body line
  | .classDef name _ _ body line =>
    docOf (pre ++ name) body line ++ bodyDocs (pre ++ name ++ ".") body
  | _ => []

/-- The entries of the definitions of a body, when the walk keeps every docstring. -/
def bodyDocs (pre : String) : List Stmt → List Entry
  | [] => []
  | s :: rest => defDocs pre s ++ bodyDocs pre rest

end

/-- The entries of a module when the walk keeps every docstring. -/
def moduleDocs (stem : String) (body : List Stmt) : List Entry :=
  docOf stem body 1 ++ bodyDocs "" body

theorem defDocs_eq (pre : String) (s : Stmt) :
    defDocs pre s = match visit s with
      | .skip => []
      | .func name body line => docOf (pre ++ name) body line
      | .cls name body line =>
        docOf (pre ++ name) body line ++ bodyDocs (pre ++ name ++ ".") body := by
  cases s with
  | funcDef isAsync => cases isAsync <;> rfl
  | _ => rfl

theorem entryOf_eq_filter (name : String) (body : List Stmt) (line : Nat) :
    entryOf name body line = (docOf name body line).filter (holdsExamples ·.docstring) := by
  unfold entryOf docOf
  cases docstringOf body with
  | none => rfl
  | some d => by_cases hd : holdsExamples d <;> simp [hd]

/-- The walk keeps, in order, exactly the docstrings of the unfiltered walk that hold examples:
deciding to keep an entry never changes which definitions are visited. -/
theorem bodyEntries_eq_filter (pre : String) (body : List Stmt) :
    bodyEntries pre body = (bodyDocs pre body).filter (holdsExamples ·.docstring) := by
  induction body using body_induction generalizing pre with
  | nil => rfl
  | cons s rest hbody hrest =>
    rw [bodyEntries, bodyDocs, List.filter_append, hrest, defEntries_eq, defDocs_eq]
    congr 1
    cases hv : visit s with
    | skip => rfl
    | func name b line => exact entryOf_eq_filter _ _ _
    | cls name b line =>
      dsimp only
      rw [List.filter_append, entryOf_eq_filter, hbody name b line hv]

theorem moduleEntries_eq_filter (stem : String) (body : List Stmt) :
    moduleEntries stem body = (moduleDocs stem body).filter (holdsExamples ·.docstring) := by
  rw [moduleEntries, moduleDocs, List.filter_append, entryOf_eq_filter, bodyEntries_eq_filter]

end StubDoctest.Stub

namespace StubDoctest.Session

/-- Dropping entries whose docstrings read as blocks without examples changes neither the items
of a file nor its first fault. -/
theorem itemsOf_filter (path : String) (keep : Stub.Entry → Bool) :
    ∀ es : List Stub.Entry,
      (∀ e ∈ es, keep e = false →
        ∃ b, Block.ofDocstring e.name path (some e.line) e.docstring = .ok b ∧ b.examples = []) →
      itemsOf path (es.filter keep) = itemsOf path es
  | [], _ => rfl
  | e :: rest, h => by
    have ih := itemsOf_filter path keep rest fun e' he' => h e' (List.mem_cons_of_mem _ he')
    by_cases hk : keep e
    · rw [List.filter_cons_of_pos hk]
      simp only [itemsOf, ih]
    · obtain ⟨b, hb, hex⟩ := h e (List.mem_cons_self ..) (by simpa using hk)
      rw [List.filter_cons_of_neg hk, ih]
      simp [itemsOf, hb, hex]

/-- Collection without the prompt filter: the walk keeps every docstring, prompt or not, and
each is read as a block. -/
def collectFileUnfiltered (path : String) (bytes : List UInt8) : ModuleReport :=
  reportOf path ((Stub.readBytes bytes).map (Stub.moduleDocs (stemOf (baseName path))))

/-- The prompt filter of the walk changes nothing a file's collection reports: the same items
with the same blocks in the same order, and the same collection error. -/
theorem collectFile_eq_collectFileUnfiltered (path : String) (bytes : List UInt8) :
    collectFile path bytes = collectFileUnfiltered path bytes := by
  unfold collectFile collectFileUnfiltered Stub.entriesOfBytes
  cases Stub.readBytes bytes with
  | error f => rfl
  | ok body =>
    simp only [Except.map, reportOf]
    rw [Stub.moduleEntries_eq_filter, itemsOf_filter]
    intro e _ he
    exact ⟨_, Reader.ofDocstring_of_promptFree (Reader.promptFree_of_holdsExamples_eq_false he),
      rfl⟩

end StubDoctest.Session
