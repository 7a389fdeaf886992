import Mathlib.Data.List.Basic
import StubDoctest.Stub.Collect

/-!
# The walk over definitions as an enumeration of paths

A definition the walk visits is named by its index path: the index of a plain `def` or a
`class` in the module body, then, while the node reached is a class, the index of a plain `def`
or `class` directly in that class's body. `follow` reads a path; `bodyPaths` enumerates every
path that leads somewhere, in lexicographic order, so that a class comes before everything
nested in it and siblings come in body order.

Main statement: the docstrings a module yields are the module's own, then one entry per path
in that order, for the paths whose definition has a kept docstring
(`moduleEntries_eq_paths_in_order`). Whether a class's own docstring is kept has no bearing
on its members: the entry of a path and the paths below it are separate items of the
enumeration.

All proofs go through one induction over the bodies the walk enters (`body_induction`),
phrased through `visit`, the walk's view of a statement.
-/

set_option autoImplicit false

namespace StubDoctest.Stub

open StubDoctest.Source

/-! ## The walk's view of a statement -/

/-- What the walk sees of a statement: a plain `def` or a `class` with its name, body and line,
or nothing. -/
inductive Visit where
  /-- Any other statement, an `async def` included. -/
  | skip
  /-- A plain `def`. -/
  | func (name : String) (body : List Stmt) (line : Nat)
  /-- A `class`, whose body the walk enters. -/
  | cls (name : String) (body : List Stmt) (line : Nat)

/-- The walk's view of a statement. -/
def visit : Stmt → Visit
  | .funcDef false name _ _ _ body line => .func name body line
  | .classDef name _ _ body line => .cls name body line
  | _ => .skip

theorem sizeOf_lt_of_visit_eq_cls {s : Stmt} {name : String} {body : List Stmt} {line : Nat}
    (h : visit s = .cls name body line) : sizeOf body < sizeOf s := by
  unfold visit at h
  split at h
  · cases h
  · cases h
    simp only [Stmt.classDef.sizeOf_spec]
    omega
  · cases h

/-- Induction over the bodies the walk enters: a property of bodies holds of every body when it
holds of the empty one and passes to `s :: rest` from `rest` and, when `s` is a class, from the
class's body. -/
theorem body_induction {motive : List Stmt → Prop} (nil : motive [])
    (cons : ∀ s rest, (∀ name body line, visit s = .cls name body line → motive body) →
      motive rest → motive (s :: rest)) :
    ∀ body, motive body
  | [] => nil
  | s :: rest =>
    cons s rest
      (fun name body line h =>
        have : sizeOf body < sizeOf s := sizeOf_lt_of_visit_eq_cls h
        body_induction nil cons body)
      (body_induction nil cons rest)
termination_by body => sizeOf body

theorem defEntries_eq (pre : String) (s : Stmt) :
    defEntries pre s = match visit s with
      | .skip => []
      | .func name body line => entryOf (pre ++ name) body line
      | .cls name body line =>
        entryOf (pre ++ name) body line ++ bodyEntries (pre ++ name ++ ".") body := by
  cases s with
  | funcDef isAsync => cases isAsync <;> simp only [defEntries, visit, fullName_eq]
  | classDef => simp only [defEntries, visit, fullName_eq]
  | _ => rfl

/-! ## Following a path -/

/-- The definition an index path leads to in a body: the names of the definitions along the
path, and the body and line of the last. The first index picks a plain `def` or a `class` of
the body; every later one picks such a definition directly in the body of the class picked
before it. -/
def follow : List Stmt → List Nat → Option (List String × List Stmt × Nat)
  | _, [] => none
  | body, i :: q =>
    match body[i]?.map visit, q with
    | some (.func name b line), [] => some ([name], b, line)
    | some (.cls name b line), [] => some ([name], b, line)
    | some (.cls name b _), _ :: _ => (follow b q).map fun (ns, r) => (name :: ns, r)
    | _, _ => none

/-- The rest `q` of a path followed from the statement its first index picked. -/
def enter (v : Visit) (q : List Nat) : Option (List String × List Stmt × Nat) :=
  match v, q with
  | .func name b line, [] => some ([name], b, line)
  | .cls name b line, [] => some ([name], b, line)
  | .cls name b _, _ :: _ => (follow b q).map fun (ns, r) => (name :: ns, r)
  | _, _ => none

theorem follow_cons (body : List Stmt) (i : Nat) (q : List Nat) :
    follow body (i :: q) = (body[i]?.map visit).bind (enter · q) := by
  unfold follow
  cases body[i]? with
  | none => rfl
  | some s =>
    simp only [Option.map_some, Option.bind_some]
    cases visit s <;> cases q <;> rfl

@[simp] theorem follow_nil (body : List Stmt) : follow body [] = none := rfl

@[simp] theorem follow_nil_body (p : List Nat) : follow [] p = none := by
  cases p with
  | nil => rfl
  | cons i q => simp [follow_cons]

theorem enter_skip (q : List Nat) : enter .skip q = none := by
  cases q <;> rfl

theorem enter_cls_cons {name : String} {body : List Stmt} {line i : Nat} {q : List Nat} :
    enter (.cls name body line) (i :: q) =
      (follow body (i :: q)).map fun (ns, r) => (name :: ns, r) := rfl

theorem names_ne_nil_of_enter {v : Visit} {q : List Nat} {names : List String}
    {r : List Stmt × Nat} (h : enter v q = some (names, r)) : names ≠ [] := by
  unfold enter at h
  split at h
  · cases h; simp
  · cases h; simp
  · obtain ⟨⟨ns, r'⟩, -, heq⟩ := Option.map_eq_some_iff.1 h
    cases heq; simp
  · cases h

/-- Every definition a path leads to is named by at least one name. -/
theorem names_ne_nil_of_follow {body : List Stmt} {p : List Nat} {names : List String}
    {r : List Stmt × Nat} (h : follow body p = some (names, r)) : names ≠ [] := by
  cases p with
  | nil => cases h
  | cons i q =>
    rw [follow_cons] at h
    obtain ⟨v, -, hv⟩ := Option.bind_eq_some_iff.1 h
    exact names_ne_nil_of_enter hv

/-! ## Paths of a body after its first statement

The paths of `s :: rest` that start past `s` are those of `rest` with their first index moved
on by one. -/

/-- A path with its first index moved on by one. -/
def shiftHead : List Nat → List Nat
  | [] => []
  | i :: q => (i + 1) :: q

theorem follow_cons_zero (s : Stmt) (rest : List Stmt) (q : List Nat) :
    follow (s :: rest) (0 :: q) = enter (visit s) q := by
  simp [follow_cons]

theorem follow_cons_shiftHead (s : Stmt) (rest : List Stmt) (p : List Nat) :
    follow (s :: rest) (shiftHead p) = follow rest p := by
  cases p with
  | nil => rfl
  | cons i q => simp [shiftHead, follow_cons]

theorem mem_map_shiftHead_nil {l : List (List Nat)} : [] ∈ l.map shiftHead ↔ [] ∈ l := by
  constructor
  · intro h
    obtain ⟨a, ha, hs⟩ := List.mem_map.1 h
    cases a with
    | nil => exact ha
    | cons i q => cases hs
  · intro h
    exact List.mem_map.2 ⟨[], h, rfl⟩

theorem zero_cons_not_mem_map_shiftHead {l : List (List Nat)} {q : List Nat} :
    0 :: q ∉ l.map shiftHead := by
  intro h
  obtain ⟨a, -, hs⟩ := List.mem_map.1 h
  cases a with
  | nil => cases hs
  | cons i q => simp [shiftHead] at hs

theorem succ_cons_mem_map_shiftHead {l : List (List Nat)} {i : Nat} {q : List Nat} :
    (i + 1) :: q ∈ l.map shiftHead ↔ i :: q ∈ l := by
  constructor
  · intro h
    obtain ⟨a, ha, hs⟩ := List.mem_map.1 h
    cases a with
    | nil => cases hs
    | cons j r =>
      simp only [shiftHead, List.cons.injEq, Nat.add_right_cancel_iff] at hs
      obtain ⟨rfl, rfl⟩ := hs
      exact ha
  · intro h
    exact List.mem_map.2 ⟨i :: q, h, rfl⟩

theorem shiftHead_lt_shiftHead {a b : List Nat} (h : a < b) : shiftHead a < shiftHead b := by
  cases a with
  | nil =>
    cases b with
    | nil => exact absurd h (List.not_lt_nil _)
    | cons j r => exact List.nil_lt_cons _ _
  | cons i q =>
    cases b with
    | nil => exact absurd h (List.not_lt_nil _)
    | cons j r =>
      simp only [shiftHead, List.cons_lt_cons_iff] at h ⊢
      rcases h with h | ⟨rfl, h⟩
      · exact .inl (by omega)
      · exact .inr ⟨rfl, h⟩

/-! ## The enumeration -/

mutual

/-- The paths that lead somewhere from a statement, less its own index: the empty path for a
plain `def` or a `class`, then, for a class, the paths of its body. -/
def stmtPaths : Stmt → List (List Nat)
  | .funcDef false .. => [[]]
  | .classDef _ _ _ body _ => [] :: bodyPaths body
  | _ => []

/-- The paths that lead somewhere in a body, in lexicographic order. -/
def bodyPaths : List Stmt → List (List Nat)
  | [] => []
  | s :: rest => (stmtPaths s).map (0 :: ·) ++ (bodyPaths rest).map shiftHead

end

theorem stmtPaths_eq (s : Stmt) :
    stmtPaths s = match visit s with
      | .skip => []
      | .func .. => [[]]
      | .cls _ body _ => [] :: bodyPaths body := by
  cases s with
  | funcDef isAsync => cases isAsync <;> rfl
  | _ => rfl

/-- A path is enumerated exactly when it leads somewhere. -/
theorem mem_bodyPaths (body : List Stmt) :
    ∀ p, p ∈ bodyPaths body ↔ (follow body p).isSome := by
  induction body using body_induction with
  | nil => simp [bodyPaths]
  | cons s rest hbody hrest =>
    have hstmt : ∀ q, q ∈ stmtPaths s ↔ (enter (visit s) q).isSome := by
      intro q
      rw [stmtPaths_eq]
      cases hv : visit s with
      | skip => simp [enter_skip]
      | func name b line => cases q <;> simp [enter]
      | cls name b line =>
        cases q with
        | nil => simp [enter]
        | cons i q => simp [enter_cls_cons, hbody name b line hv]
    intro p
    simp only [bodyPaths, List.mem_append]
    -- A path into `s :: rest` starts at `s` (index 0) or past it (a successor index).
    rcases p with _ | ⟨_ | i, q⟩
    · simp [mem_map_shiftHead_nil, hrest]
    · simp [zero_cons_not_mem_map_shiftHead, follow_cons_zero, hstmt]
    · have hshift := follow_cons_shiftHead s rest (i :: q)
      simp only [shiftHead] at hshift
      simp [succ_cons_mem_map_shiftHead, hshift, hrest]

theorem ne_nil_of_mem_bodyPaths {body : List Stmt} {p : List Nat} (h : p ∈ bodyPaths body) :
    p ≠ [] := by
  rintro rfl
  simp [mem_bodyPaths] at h

/-- The enumeration lists paths in strictly increasing lexicographic order, so each at most
once. -/
theorem bodyPaths_pairwise (body : List Stmt) : (bodyPaths body).Pairwise (· < ·) := by
  induction body using body_induction with
  | nil => simp [bodyPaths]
  | cons s rest hbody hrest =>
    have hstmt : (stmtPaths s).Pairwise (· < ·) := by
      rw [stmtPaths_eq]
      cases hv : visit s with
      | skip => simp
      | func name b line => simp
      | cls name b line =>
        -- The class itself, the empty path, comes before every path into its body.
        refine List.pairwise_cons.2 ⟨fun q hq => ?_, hbody name b line hv⟩
        obtain ⟨i, r, rfl⟩ := List.exists_cons_of_ne_nil (ne_nil_of_mem_bodyPaths hq)
        exact List.nil_lt_cons _ _
    simp only [bodyPaths, List.pairwise_append, List.pairwise_map, List.mem_map]
    refine ⟨hstmt.imp fun h => List.cons_lt_cons_iff.2 (.inr ⟨rfl, h⟩),
      hrest.imp shiftHead_lt_shiftHead, ?_⟩
    rintro _ ⟨q, -, rfl⟩ _ ⟨p, hp, rfl⟩
    obtain ⟨i, r, rfl⟩ := List.exists_cons_of_ne_nil (ne_nil_of_mem_bodyPaths hp)
    exact List.cons_lt_cons_iff.2 (.inl (Nat.succ_pos i))

example :
    bodyPaths [.classDef "A" [] [] [.pass, .funcDef false "m" default none [] [] 3] 1,
      .funcDef true "g" default none [] [] 5, .classDef "B" [] [] [] 7] =
      [[0], [0, 1], [2]] := by
  rfl

/-! ## Entries along the enumeration -/

/-- The entries a path contributes, its dotted name put after the prefix `pre`: the names along
the path joined by dots, with the docstring and line of the definition it leads to, when that
docstring is kept. -/
def pathEntries (pre : String) (body : List Stmt) (p : List Nat) : List Entry :=
  match follow body p with
  | some (names, b, line) => entryOf (pre ++ ".".intercalate names) b line
  | none => []

theorem pathEntries_cons_shiftHead (pre : String) (s : Stmt) (rest : List Stmt) (p : List Nat) :
    pathEntries pre (s :: rest) (shiftHead p) = pathEntries pre rest p := by
  simp only [pathEntries, follow_cons_shiftHead]

/-- A path into a class's body names its definition after the class's name and a dot. -/
theorem pathEntries_cls (pre name : String) (body : List Stmt) (line : Nat) {q : List Nat}
    (hq : q ≠ []) :
    (match enter (.cls name body line) q with
      | some (names, b, l) => entryOf (pre ++ ".".intercalate names) b l
      | none => []) = pathEntries (pre ++ name ++ ".") body q := by
  obtain ⟨i, r, rfl⟩ := List.exists_cons_of_ne_nil hq
  rw [enter_cls_cons, pathEntries]
  cases hf : follow body (i :: r) with
  | none => rfl
  | some res =>
    obtain ⟨ns, b, l⟩ := res
    simp only [Option.map_some]
    rw [String.intercalate_cons_of_ne_nil (names_ne_nil_of_follow hf)]
    simp only [String.append_assoc]

/-- The walk under a prefix lists, in the order of the enumeration, the entries of every path. -/
theorem bodyEntries_eq_flatMap (pre : String) (body : List Stmt) :
    bodyEntries pre body = (bodyPaths body).flatMap (pathEntries pre body) := by
  induction body using body_induction generalizing pre with
  | nil => simp [bodyEntries, bodyPaths]
  | cons s rest hbody hrest =>
    have hstmt : defEntries pre s =
        (stmtPaths s).flatMap fun q => pathEntries pre (s :: rest) (0 :: q) := by
      simp only [pathEntries, follow_cons_zero]
      rw [defEntries_eq, stmtPaths_eq]
      cases hv : visit s with
      | skip => simp
      | func name b line => simp [enter]
      | cls name b line =>
        simp only [List.flatMap_cons, enter, String.intercalate_singleton]
        congr 1
        rw [hbody name b line hv]
        refine List.flatMap_congr fun q hq => ?_
        exact (pathEntries_cls pre name b line (ne_nil_of_mem_bodyPaths hq)).symm
    rw [bodyEntries, bodyPaths, List.flatMap_append, hstmt, hrest]
    simp only [List.flatMap_map, pathEntries_cons_shiftHead]

/-- The docstrings of a module are its own, then, in lexicographic order of the paths that lead
somewhere, each path at most once, the entry of every path whose definition keeps its
docstring: named by the names along the path joined by dots, at the line of the definition. -/
theorem moduleEntries_eq_paths_in_order (stem : String) (body : List Stmt) :
    ∃ paths : List (List Nat), paths.Pairwise (· < ·) ∧
      (∀ p, p ∈ paths ↔ (follow body p).isSome) ∧
      moduleEntries stem body = entryOf stem body 1 ++ paths.flatMap (pathEntries "" body) := by
  refine ⟨bodyPaths body, bodyPaths_pairwise body, mem_bodyPaths body, ?_⟩
  rw [moduleEntries, bodyEntries_eq_flatMap]

end StubDoctest.Stub
