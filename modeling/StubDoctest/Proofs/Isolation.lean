import StubDoctest.Doctest.Run

/-!
# Blocks run one after another in one process

The items of a session run in one process, each block on the machine the one before left. What a
block's examples did to the process stays for the blocks after it. The runner itself carries
nothing else from one block to the next: every block gets fresh globals, which the runner empties
after the run, and a fresh count of failures; after every run it binds `_` to `None`, while
before the first run of the process `_` names nothing.

A block whose examples change nothing of the process outside their own globals (`Confined`: they
write no object older than the block, import no module and set neither limit) therefore leaves
the process as it found it, `_` apart (`runBlockOn_snd_of_confined`). Main statement: when every
block of a run is confined, each block, in any order and with any repeats, has the outcome it has
run by itself: first in a fresh process for the first block, right after another block for every
later one (`runBlocksOn_each_as_by_itself`). The two starts differ: an example that shows `_`
fails first in its process and passes after any other block
(`underscore_example_passes_only_after_another_block`).
-/

set_option autoImplicit false

namespace StubDoctest.Doctest

open StubDoctest.Exec

/-! ## One block -/

/-- The machine a block's examples start on: the process's, with the block starting at the top
of the heap and no write to an older object noted yet. -/
def blockStart (m : Machine) : Machine := { m with blockBase := m.heap.size, wroteOld := false }

/-- The machine a block's examples leave, run from the machine `m` of the process, before the
runner empties the globals and binds `_`. -/
def examplesMachine (m : Machine) (b : Block) : Machine :=
  (((countFailures runFuel b.examples).run).run (blockStart m)).2

/-- Whether the examples of a block, run from `m` and leaving `m'`, changed nothing of the process
outside the block's own globals: they wrote no object older than the block, imported no module
and left both limits as they were. `_`, which the runner resets after every run, is the
runner's. -/
def Confined (m m' : Machine) : Prop :=
  m'.wroteOld = false ∧ m'.modules = m.modules ∧ m'.recursionLimit = m.recursionLimit ∧
    m'.intDigitLimit = m.intDigitLimit

instance (m m' : Machine) : Decidable (Confined m m') :=
  inferInstanceAs (Decidable (_ ∧ _ ∧ _ ∧ _))

/-- The machine a block's run leaves to its process is what the runner makes of the machine its
examples left. -/
theorem runBlockOn_snd (m : Machine) (b : Block) :
    (runBlockOn m b).2 = leaveProcess m (examplesMachine m b) := by
  unfold runBlockOn examplesMachine blockStart
  rcases ((countFailures runFuel b.examples).run).run
    { m with blockBase := m.heap.size, wroteOld := false } with ⟨r | r, m'⟩ <;> rfl

/-- Examples that changed nothing outside their globals leave the process as it was, but for
`_`: nothing older reaches what they made, so all of it is freed. -/
theorem leaveProcess_of_confined {m m' : Machine} (h : Confined m m') :
    leaveProcess m m' = { m with shown := some .none } := by
  obtain ⟨hwrote, hmodules, hrec, hdigits⟩ := h
  have hfreed : (!m'.wroteOld && m'.modules.length == m.modules.length) = true := by
    simp [hwrote, hmodules]
  unfold leaveProcess
  rw [if_pos hfreed, hmodules, hrec, hdigits]

/-- The step of a run: a confined block leaves its process as it found it, `_` apart. -/
theorem runBlockOn_snd_of_confined {m : Machine} {b : Block}
    (h : Confined m (examplesMachine m b)) : (runBlockOn m b).2 = { m with shown := some .none } :=
  (runBlockOn_snd m b).trans (leaveProcess_of_confined h)

/-- On the machine of a fresh process, first or after another block, a block's run has the
outcome it has by itself. -/
theorem runBlockOn_startMachine_fst (host : Host) (first : Bool) (b : Block) :
    (runBlockOn (startMachine host first) b).1 = runBlockFrom host first b := by
  unfold runBlockOn runBlockFrom failuresOf
  -- a fresh process holds no object, so the block starts at the bottom of the heap
  have hstart : { startMachine host first with
      blockBase := (startMachine host first).heap.size, wroteOld := false } =
      startMachine host first := rfl
  rw [hstart]
  rcases ((countFailures runFuel b.examples).run).run (startMachine host first) with
    ⟨r | r, m'⟩ <;> rfl

/-- After a run, the runner has bound `_` to `None`: the machine of a fresh process becomes the
one a block meets after another block. -/
theorem startMachine_shown_none (host : Host) (first : Bool) :
    { startMachine host first with shown := some .none } = startMachine host false := rfl

/-! ## A run of blocks -/

/-- Every block of a run from `m` changes nothing of the process outside its own globals. -/
def ConfinedRun (m : Machine) : List Block → Prop
  | [] => True
  | b :: bs => Confined m (examplesMachine m b) ∧ ConfinedRun (runBlockOn m b).2 bs

instance decidableConfinedRun : ∀ (m : Machine) (bs : List Block), Decidable (ConfinedRun m bs)
  | _, [] => isTrue trivial
  | m, b :: bs =>
    haveI := decidableConfinedRun (runBlockOn m b).2 bs
    inferInstanceAs (Decidable (_ ∧ _))

/-- A confined run from a fresh process: every block after the first meets the machine a block
meets after another block, since each one before it left the process as it found it. -/
theorem runBlocksOn_startMachine (host : Host) :
    ∀ (first : Bool) (bs : List Block), ConfinedRun (startMachine host first) bs →
      runBlocksOn (startMachine host first) bs =
        bs.mapIdx fun i b => runBlockFrom host (first && i == 0) b
  | _, [], _ => rfl
  | first, b :: bs, ⟨hb, hbs⟩ => by
    have hnext : (runBlockOn (startMachine host first) b).2 = startMachine host false :=
      (runBlockOn_snd_of_confined hb).trans (startMachine_shown_none host first)
    rw [hnext] at hbs
    rw [runBlocksOn, runBlockOn_startMachine_fst, hnext,
      runBlocksOn_startMachine host false bs hbs, List.mapIdx_cons]
    simp

/-- Blocks run one after another in one process, in any order and with any repeats, when none
of them changes anything of the process outside its own globals, each have the outcome they
have run by themselves: the first as the first block of a fresh process, where `_` names nothing,
and every later one as a block run right after another, where `_` names `None`. -/
theorem runBlocksOn_each_as_by_itself (host : Host) (bs : List Block)
    (h : ConfinedRun (startMachine host true) bs) :
    runBlocksOn (startMachine host true) bs =
      bs.mapIdx fun i b => runBlockFrom host (i == 0) b := by
  simpa using runBlocksOn_startMachine host true bs h

/-- The block of `>>> 1` showing `1`. -/
def showsOne : Block where
  name := "a"
  file := "a.pyi"
  line := some 1
  docstring := ">>> 1\n1\n"
  examples := [{ source := "1\n", want := "1\n", excMsg := none, line := 0, indent := 0,
                 options := {} }]

/-- The block of `>>> print(_)` showing `None`. -/
def printsUnderscore : Block where
  name := "b"
  file := "b.pyi"
  line := some 1
  docstring := ">>> print(_)\nNone\n"
  examples := [{ source := "print(_)\n", want := "None\n", excMsg := none, line := 0,
                 indent := 0, options := {} }]

/-- A run of the two blocks, the first again and the second again, is confined, so each block
has the outcome it has by itself. -/
theorem showsOne_printsUnderscore_each_as_by_itself :
    ConfinedRun (startMachine .session true)
        [showsOne, printsUnderscore, showsOne, printsUnderscore] ∧
      runBlocksOn (startMachine .session true)
          [showsOne, printsUnderscore, showsOne, printsUnderscore] =
        [showsOne, printsUnderscore, showsOne, printsUnderscore].mapIdx
          fun i b => runBlockFrom .session (i == 0) b :=
  have h : ConfinedRun (startMachine .session true)
      [showsOne, printsUnderscore, showsOne, printsUnderscore] := by
    decide +kernel
  ⟨h, runBlocksOn_each_as_by_itself .session _ h⟩

/-- An example that shows `_` has one outcome by itself and another after a block that changes
nothing outside its globals: run alone it fails, as `_` names nothing yet; run after `>>> 1` it
passes, as the runner has bound `_` to `None`. -/
theorem underscore_example_passes_only_after_another_block :
    ConfinedRun (startMachine .session true) [showsOne, printsUnderscore] ∧
      runBlocksOn (startMachine .session true) [showsOne, printsUnderscore] =
        [.passed, .passed] ∧
      runBlocksOn (startMachine .session true) [printsUnderscore] =
        [.failed "Doctest failed: 1 failures\n"] := by
  decide +kernel

end StubDoctest.Doctest
