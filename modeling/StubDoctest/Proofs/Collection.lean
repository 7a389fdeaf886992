import Mathlib.Data.List.Forall2
import StubDoctest.Session.Run

/-!
# Collecting a stub file: every item, or the first fault

Collecting a file reads the docstrings the walk found as blocks of examples, in the walk's
order. Either every docstring is read, and the file's items are, in that order, the entries
whose block has examples, each named after its entry and holding that entry's own block (two
entries of one name give two items, each with its own block); or some docstring cannot be read,
and the file reports the fault of the first such entry, however many entries come before or
after it, with no item at all. Bytes that cannot be read (they are not UTF-8, or their text
holds a null character) report that fault instead, also with no item.

`Collected` states the two outcomes as rules. Main statement:
`collectFile_items_or_first_fault`.
-/

set_option autoImplicit false

namespace StubDoctest.Session

/-! ## The two outcomes -/

/-- The block an entry's docstring is read as, under the entry's name and line in `path`. -/
def entryBlock (path : String) (e : Stub.Entry) : Except ParseFault Block :=
  Block.ofDocstring e.name path (some e.line) e.docstring

/-- The item of an entry with the block its docstring was read as. -/
def entryItem (path : String) (e : Stub.Entry) (b : Block) : Item :=
  { nodeid := path ++ "::" ++ e.name, name := e.name, block := b }

/-- The items of entries paired with their blocks: one for each block with examples, in order. -/
def itemsOfBlocks (path : String) (pairs : List (Stub.Entry × Block)) : List Item :=
  (pairs.filter fun p => !p.2.examples.isEmpty).map fun p => entryItem path p.1 p.2

/-- Whether every entry of a list is read as a block. -/
def AllRead (path : String) (entries : List Stub.Entry) : Prop :=
  ∀ e ∈ entries, ∃ b, entryBlock path e = .ok b

/-- What collecting the entries of the file `path` reports. -/
inductive Collected (path : String) (entries : List Stub.Entry) : ModuleReport → Prop
  /-- Every entry is read, as `blocks`: the items are those of the blocks with examples, each
  with its own entry's block. -/
  | read (blocks : List Block) :
      List.Forall₂ (fun e b => entryBlock path e = .ok b) entries blocks →
      Collected path entries
        { nodeid := path, error := none, items := itemsOfBlocks path (entries.zip blocks) }
  /-- The entry `e` is the first that cannot be read: the file reports its fault, and nothing
  else. -/
  | firstFault (pre : List Stub.Entry) (e : Stub.Entry) (post : List Stub.Entry)
      (f : ParseFault) :
      entries = pre ++ e :: post → AllRead path pre → entryBlock path e = .error f →
      Collected path entries
        { nodeid := path, error := some ("ValueError: " ++ f.message), items := [] }

/-! ## Reading the entries one by one -/

theorem allRead_of_forall₂ {path : String} {entries : List Stub.Entry} {blocks : List Block}
    (h : List.Forall₂ (fun e b => entryBlock path e = .ok b) entries blocks) :
    AllRead path entries := by
  induction h with
  | nil => exact List.forall_mem_nil _
  | cons hb _ ih => exact List.forall_mem_cons.2 ⟨⟨_, hb⟩, ih⟩

/-- Entries that are all read give, in order, an item for each block with examples. -/
theorem itemsOf_of_forall₂ (path : String) {entries : List Stub.Entry} {blocks : List Block}
    (h : List.Forall₂ (fun e b => entryBlock path e = .ok b) entries blocks) :
    itemsOf path entries = .ok (itemsOfBlocks path (entries.zip blocks)) := by
  induction h with
  | nil => rfl
  | @cons e b rest bs hb _ ih =>
    simp only [entryBlock] at hb
    cases hex : b.examples.isEmpty with
    | true =>
      simp [itemsOf, hb, ih, hex, itemsOfBlocks]
    | false =>
      simp [itemsOf, hb, ih, hex, itemsOfBlocks, entryItem]

/-- The first entry that cannot be read decides the fault, whatever follows it. -/
theorem itemsOf_of_firstFault (path : String) {e : Stub.Entry} {f : ParseFault}
    (post : List Stub.Entry) (he : entryBlock path e = .error f) :
    ∀ pre : List Stub.Entry, AllRead path pre →
      itemsOf path (pre ++ e :: post) = .error ("ValueError: " ++ f.message)
  | [], _ => by
    simp only [entryBlock] at he
    simp [itemsOf, he]
  | e' :: pre, hpre => by
    obtain ⟨⟨b, hb⟩, hpre⟩ := List.forall_mem_cons.1 hpre
    have ih := itemsOf_of_firstFault path post he pre hpre
    simp only [entryBlock] at hb
    simp [itemsOf, hb, ih, bind, Except.bind]

/-- Entries are all read, or there is a first one that is not, every earlier one being read. -/
theorem forall₂_or_firstFault (path : String) :
    ∀ entries : List Stub.Entry,
      (∃ blocks, List.Forall₂ (fun e b => entryBlock path e = .ok b) entries blocks) ∨
        ∃ pre e post f, entries = pre ++ e :: post ∧ AllRead path pre ∧
          entryBlock path e = .error f
  | [] => .inl ⟨[], .nil⟩
  | e :: rest => by
    cases he : entryBlock path e with
    | error f => exact .inr ⟨[], e, rest, f, rfl, List.forall_mem_nil _, he⟩
    | ok b =>
      rcases forall₂_or_firstFault path rest with
        ⟨blocks, hblocks⟩ | ⟨pre, e', post, f, rfl, hpre, hf⟩
      · exact .inl ⟨b :: blocks, .cons he hblocks⟩
      · exact .inr ⟨e :: pre, e', post, f, rfl, List.forall_mem_cons.2 ⟨⟨b, he⟩, hpre⟩, hf⟩

/-- The report of a file whose entries were read from its text follows one of the two rules. -/
theorem reportOf_ok_collected (path : String) (entries : List Stub.Entry) :
    Collected path entries (reportOf path (.ok entries)) := by
  rcases forall₂_or_firstFault path entries with
    ⟨blocks, hblocks⟩ | ⟨pre, e, post, f, rfl, hpre, hf⟩
  · simp only [reportOf, itemsOf_of_forall₂ path hblocks]
    exact .read blocks hblocks
  · simp only [reportOf, itemsOf_of_firstFault path post hf pre hpre]
    exact .firstFault pre e post f rfl hpre hf

/-- A collection reports no fault exactly when every entry is read. -/
theorem Collected.error_eq_none_iff {path : String} {entries : List Stub.Entry}
    {m : ModuleReport} (h : Collected path entries m) :
    m.error = none ↔ AllRead path entries := by
  cases h with
  | read blocks hblocks => exact iff_of_true rfl (allRead_of_forall₂ hblocks)
  | firstFault pre e post f hsplit _ hf =>
    refine iff_of_false (by simp) fun hall => ?_
    obtain ⟨b, hb⟩ := hall e (by simp [hsplit])
    rw [hf] at hb
    cases hb

/-! ## Faults of the text -/

/-- The class of the exception a text that cannot be read raises. -/
def readFaultClass : Stub.ReadFault → String
  | .undecodable _ => "UnicodeDecodeError"
  | .nullCharacter => "ValueError"

theorem reportOf_error (path : String) (f : Stub.ReadFault) :
    reportOf path (.error f) =
      { nodeid := path, error := some (readFaultClass f ++ ": " ++ f.message), items := [] } := by
  cases f <;> rfl

/-! ## Collecting a file -/

/-- Collecting a stub file reports the fault of bytes that cannot be read, with no item.
Otherwise it follows the rules of `Collected` for the entries the walk found: every docstring
read, and an item for each entry whose block has examples, bound to that entry's own block; or
the fault of the first entry that cannot be read, with no item. It reports no fault exactly when
every entry is read. -/
theorem collectFile_items_or_first_fault (path : String) (bytes : List UInt8) :
    match Stub.readBytes bytes with
    | .error f =>
      collectFile path bytes =
        { nodeid := path, error := some (readFaultClass f ++ ": " ++ f.message), items := [] }
    | .ok body =>
      Collected path (Stub.moduleEntries (stemOf (baseName path)) body) (collectFile path bytes) ∧
        ((collectFile path bytes).error = none ↔
          AllRead path (Stub.moduleEntries (stemOf (baseName path)) body)) := by
  unfold collectFile Stub.entriesOfBytes
  cases Stub.readBytes bytes with
  | error f => exact reportOf_error path f
  | ok body =>
    have h := reportOf_ok_collected path (Stub.moduleEntries (stemOf (baseName path)) body)
    exact ⟨h, h.error_eq_none_iff⟩

end StubDoctest.Session
