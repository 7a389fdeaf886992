import StubDoctest.Proofs.Walk

/-!
# Names under a prefix

The walk names a definition after the classes that enclose it: a class passes its members its
own name and a dot as their prefix, and a definition with no prefix is named by its own name
alone (`fullName`). Main statement: walking a definition under any prefix lists the entries it
lists under no prefix, each with the prefix put before its name, docstring and line unchanged;
and each of those names is the prefix followed by the names along the definition's path,
joined by dots (`defEntries_prefix_law`).

The special case of the empty prefix is `fullName_eq`. The induction runs over the bodies the
walk enters with the prefix generalised: under `p ++ pre` a body lists its entries under `pre`
with `p` put before their names (`bodyEntries_append_prefix`), each class's members under the
class's prefix, which gains `p` too.
-/

set_option autoImplicit false

namespace StubDoctest.Stub

open StubDoctest.Source

/-- An entry with `p` put before its name; its docstring and line are unchanged. -/
def Entry.prefixed (p : String) (e : Entry) : Entry := { e with name := p ++ e.name }

theorem entryOf_append (p name : String) (body : List Stmt) (line : Nat) :
    entryOf (p ++ name) body line = (entryOf name body line).map (Entry.prefixed p) := by
  unfold entryOf
  cases docstringOf body with
  | none => rfl
  | some d => by_cases hd : holdsExamples d <;> simp [hd, Entry.prefixed]

/-- One statement under a longer prefix: its own entry takes `p`, and so do a class's members
when they do so in the class's body. -/
theorem defEntries_append_prefix {p : String} {s : Stmt}
    (hbody : ∀ name body line, visit s = .cls name body line →
      ∀ pre, bodyEntries (p ++ pre) body = (bodyEntries pre body).map (Entry.prefixed p))
    (pre : String) :
    defEntries (p ++ pre) s = (defEntries pre s).map (Entry.prefixed p) := by
  rw [defEntries_eq, defEntries_eq]
  cases hv : visit s with
  | skip => rfl
  | func name b line => simp only [String.append_assoc, entryOf_append]
  | cls name b line =>
    -- the members' prefix `pre ++ name ++ "."` gains `p` with the class's own name
    simp only [List.map_append, String.append_assoc, entryOf_append]
    rw [hbody name b line hv]

/-- A body under `p ++ pre` lists its entries under `pre` with `p` put before their names. -/
theorem bodyEntries_append_prefix (p : String) (body : List Stmt) :
    ∀ pre, bodyEntries (p ++ pre) body = (bodyEntries pre body).map (Entry.prefixed p) := by
  induction body using body_induction with
  | nil => intro pre; rfl
  | cons s rest hbody hrest =>
    intro pre
    rw [bodyEntries, bodyEntries, List.map_append, hrest, defEntries_append_prefix hbody]

/-- Walking a definition under a prefix lists the entries of the walk under no prefix, in the
same order, each with the prefix put before its name and with its docstring and line unchanged.
Each name is the prefix followed by the names along the path to its definition, joined by
dots: a class's own name, then those of the classes within it, then the definition's. -/
theorem defEntries_prefix_law (p : String) (s : Stmt) :
    defEntries p s = (defEntries "" s).map (Entry.prefixed p) ∧
      defEntries p s = (bodyPaths [s]).flatMap (pathEntries p [s]) := by
  have hone : ∀ pre, bodyEntries pre [s] = defEntries pre s := fun pre => by
    simp [bodyEntries]
  constructor
  · have h := bodyEntries_append_prefix p [s] ""
    rwa [String.append_empty, hone, hone] at h
  · rw [← hone, bodyEntries_eq_flatMap]

example :
    (defEntries "x." (.classDef "A" [] [] [.expr (.lit (.str ">>> A")), .classDef "B" [] []
      [.funcDef false "f" default none [] [.expr (.lit (.str ">>> 1"))] 3] 2] 1)).map (·.name) =
      ["x.A", "x.A.B.f"] := by
  decide +kernel

end StubDoctest.Stub
