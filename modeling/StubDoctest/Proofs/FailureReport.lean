import StubDoctest.Doctest.Run
import StubDoctest.Example.Parse

/-!
# What a block's failure report counts and lists

A block's run tries its examples in order, all on one machine and in one scope of globals: an
example switched off by `SKIP` is not tried, and once some example has failed, the first
example tried with `FAIL_FAST` is the last one tried. `trials` lists, for the examples tried,
whether each agreed with what it expects; an interrupt ends the run instead. The runner's count
of failures is the number of examples tried that did not agree (`countFailures_eq_trials`).

So a block passes exactly when every example it tries agrees; otherwise its report gives that
count, then a line for each example that expects an exception, whether that example failed or
not (`runBlockFrom_eq_of_trials`). The lines do not follow the failures: a block whose one
example fails without expecting an exception reports no line at all
(`failureReport_omits_failing_example`).
-/

set_option autoImplicit false

namespace StubDoctest.Doctest

open StubDoctest.Exec
open StubDoctest.Check

/-! ## The runner's loop, one example at a time -/

/-- One step of the runner's loop on the example `ex`, with `n` failures counted before it: a
skipped example changes nothing; an interrupt ends the loop; otherwise the count grows when the
example disagrees, and the loop stops when the count is not zero and `ex` has `FAIL_FAST`. -/
def tallyStep (fuel g : Nat) (ex : Example) (n : Nat) :
    Eval (ForInStep (Option (Except (String × String) Nat) × Nat)) :=
  if isOn (exampleFlags ex) .skip = true then pure (.yield (none, n))
  else do
    let stopOrGo (n : Nat) : Eval (ForInStep (Option (Except (String × String) Nat) × Nat)) :=
      if (decide (n > 0) && isOn (exampleFlags ex) .failFast) = true then pure (.done (none, n))
      else pure (.yield (none, n))
    match ← runExample fuel g ex with
    | .error msg => pure (.done (some (.error msg), n))
    | .ok (got, exc) =>
      if (!exampleAgrees (exampleFlags ex) ex got exc) = true then stopOrGo (n + 1)
      else stopOrGo n

/-- What the loop's last state gives: the interrupt that ended it, or the count. -/
def tallyResult (s : Option (Except (String × String) Nat) × Nat) :
    Eval (Except (String × String) Nat) :=
  match s.1 with
  | some r => pure r
  | none => pure (.ok s.2)

/-- The runner counts failures with one `tallyStep` per example, on a fresh scope. -/
theorem countFailures_eq (fuel : Nat) (examples : List Example) :
    countFailures fuel examples = (do
      let g ← newModuleScope
      let s ← forIn examples (none, 0) fun ex s => tallyStep fuel g ex s.2
      tallyResult s) := by
  unfold countFailures
  refine bind_congr fun g => ?_
  dsimp only
  -- the loops agree step for step; what remains is reading the last state
  congr 1
  funext s
  rcases s with ⟨_ | r, n⟩ <;> rfl

/-- The count after a verdict: one more for a disagreeing example. -/
def countAfter (ok : Bool) (n : Nat) : Nat := if ok then n else n + 1

theorem countAfter_pos_iff (ok : Bool) (n : Nat) :
    decide (countAfter ok n > 0) = (decide (n > 0) || !ok) := by
  cases ok <;> simp [countAfter]

theorem count_false_cons (ok : Bool) (n : Nat) (vs : List Bool) :
    n + (ok :: vs).count false = countAfter ok n + vs.count false := by
  cases ok with
  | false =>
    simp [countAfter]
    omega
  | true => simp [countAfter]

/-- Where a tried example leaves the loop, `n` failures having been counted before it: ended by
an interrupt, stopped by `FAIL_FAST` after a failure, or going on, with the new count. -/
def stepAfter (ex : Example) (n : Nat) :
    Except (String × String) (String × Option String) →
      ForInStep (Option (Except (String × String) Nat) × Nat)
  | .error msg => .done (some (.error msg), n)
  | .ok (got, exc) =>
    let n := countAfter (exampleAgrees (exampleFlags ex) ex got exc) n
    if (decide (n > 0) && isOn (exampleFlags ex) .failFast) = true then .done (none, n)
    else .yield (none, n)

theorem tallyStep_of_skip {ex : Example} (h : isOn (exampleFlags ex) .skip = true)
    (fuel g n : Nat) : tallyStep fuel g ex n = pure (.yield (none, n)) := by
  rw [tallyStep, if_pos h]

theorem tallyStep_of_not_skip {ex : Example} (h : ¬ isOn (exampleFlags ex) .skip = true)
    (fuel g n : Nat) :
    tallyStep fuel g ex n = runExample fuel g ex >>= fun r => pure (stepAfter ex n r) := by
  rw [tallyStep, if_neg h]
  dsimp only
  refine bind_congr fun r => ?_
  rcases r with msg | ⟨got, exc⟩
  · rfl
  · dsimp only [stepAfter, countAfter]
    cases exampleAgrees (exampleFlags ex) ex got exc <;> simp [apply_ite pure]

/-! ## The examples tried and their verdicts -/

/-- Whether each example tried agreed with what it expects, in order, when the examples run on
the globals `g` and `failed` says whether an example failed before them: an example with `SKIP`
is not tried, and once some example has failed, one with `FAIL_FAST` is the last tried. An
interrupt ends the run with its class name and text. -/
def trials (fuel g : Nat) (failed : Bool) :
    List Example → Eval (Except (String × String) (List Bool))
  | [] => pure (.ok [])
  | ex :: rest =>
    if isOn (exampleFlags ex) .skip = true then trials fuel g failed rest
    else do
      match ← runExample fuel g ex with
      | .error msg => pure (.error msg)
      | .ok (got, exc) =>
        let ok := exampleAgrees (exampleFlags ex) ex got exc
        if ((failed || !ok) && isOn (exampleFlags ex) .failFast) = true then pure (.ok [ok])
        else do
          let r ← trials fuel g (failed || !ok) rest
          pure (r.map (ok :: ·))

theorem trials_of_skip {ex : Example} (h : isOn (exampleFlags ex) .skip = true)
    (fuel g : Nat) (failed : Bool) (rest : List Example) :
    trials fuel g failed (ex :: rest) = trials fuel g failed rest := by
  rw [trials, if_pos h]

theorem trials_of_not_skip {ex : Example} (h : ¬ isOn (exampleFlags ex) .skip = true)
    (fuel g : Nat) (failed : Bool) (rest : List Example) :
    trials fuel g failed (ex :: rest) = runExample fuel g ex >>= fun
      | .error msg => pure (.error msg)
      | .ok (got, exc) =>
        let ok := exampleAgrees (exampleFlags ex) ex got exc
        if ((failed || !ok) && isOn (exampleFlags ex) .failFast) = true then pure (.ok [ok])
        else trials fuel g (failed || !ok) rest >>= fun r => pure (r.map (ok :: ·)) := by
  rw [trials, if_neg h]

theorem map_cons_count (ok : Bool) (n : Nat) (r : Except (String × String) (List Bool)) :
    (r.map (ok :: ·)).map (fun vs => n + vs.count false) =
      r.map (fun vs => countAfter ok n + vs.count false) := by
  rcases r with msg | vs
  · rfl
  · simp only [Except.map, count_false_cons]

/-- The loop from `n` failures counted gives `n` plus the number of examples tried that
disagree, or the interrupt that ended it. The loop's state carries a count, `trials` the
verdicts: a step grows the count exactly when it adds a disagreeing verdict. -/
theorem forIn_tallyStep (fuel g : Nat) :
    ∀ (examples : List Example) (n : Nat),
      (forIn examples (none, n) (fun ex s => tallyStep fuel g ex s.2) >>= tallyResult) =
        (trials fuel g (decide (n > 0)) examples >>= fun r =>
          pure (r.map fun vs => n + vs.count false))
  | [], n => by
    simp only [List.forIn_nil, pure_bind, tallyResult, trials, Except.map, List.count_nil,
      Nat.add_zero]
  | ex :: rest, n => by
    rw [List.forIn_cons, bind_assoc]
    by_cases hskip : isOn (exampleFlags ex) .skip = true
    · rw [tallyStep_of_skip hskip, trials_of_skip hskip, pure_bind]
      exact forIn_tallyStep fuel g rest n
    · rw [tallyStep_of_not_skip hskip, trials_of_not_skip hskip, bind_assoc, bind_assoc]
      -- both sides run `ex` first; what follows agrees for each outcome of that run
      refine bind_congr fun r => ?_
      rw [pure_bind]
      rcases r with msg | ⟨got, exc⟩
      · simp only [stepAfter, pure_bind, tallyResult, Except.map]
      · simp only [stepAfter]
        rw [← countAfter_pos_iff]
        generalize exampleAgrees (exampleFlags ex) ex got exc = ok
        by_cases hstop : (decide (countAfter ok n > 0) && isOn (exampleFlags ex) .failFast) = true
        · -- a failure has been counted and `ex` has `FAIL_FAST`: it is the last example tried
          rw [if_pos hstop, if_pos hstop, pure_bind]
          simp only [pure_bind, tallyResult, Except.map, count_false_cons ok n [],
            List.count_nil, Nat.add_zero]
        · rw [if_neg hstop, if_neg hstop]
          dsimp only
          rw [forIn_tallyStep fuel g rest (countAfter ok n), bind_assoc]
          simp only [pure_bind, map_cons_count]

/-- The runner's count of failures is the number of examples tried that disagree. -/
theorem countFailures_eq_trials (fuel : Nat) (examples : List Example) :
    countFailures fuel examples = (do
      let g ← newModuleScope
      let r ← trials fuel g false examples
      pure (r.map (·.count false))) := by
  rw [countFailures_eq]
  refine bind_congr fun g => ?_
  have h := forIn_tallyStep fuel g examples 0
  simp only [Nat.lt_irrefl, decide_false, Nat.zero_add] at h
  exact h

/-- What a computation whose last step returns a value gives when run: that value, or the
signal that stopped it, with the machine it left. -/
theorem run_bind_pure {α β : Type} (x : Eval α) (f : α → β) (s : Machine) :
    (x >>= fun a => pure (f a)).run.run s =
      match x.run.run s with
      | (.ok a, s') => (.ok (f a), s')
      | (.error e, s') => (.error e, s') := by
  simp only [ExceptT.run_bind, StateT.run_bind]
  rcases (ExceptT.run x).run s with ⟨_ | _, s'⟩ <;> rfl

/-! ## The outcome of a block -/

/-- The verdicts of the examples tried when a block's examples run on the machine the block
starts on, or the interrupt that ended the run. -/
def trialsOf (host : Host) (first : Bool) (examples : List Example) :
    Except (String × String) (List Bool) :=
  match ((newModuleScope >>= fun g => trials runFuel g false examples).run).run
      (startMachine host first) with
  | (.ok r, _) => r
  | (.error _, _) => .ok []

/-- The failures of a block are its disagreeing verdicts, counted. -/
theorem failuresOf_eq_trialsOf (host : Host) (first : Bool) (examples : List Example) :
    failuresOf host first examples = (trialsOf host first examples).map (·.count false) := by
  unfold failuresOf trialsOf
  rw [countFailures_eq_trials, ← bind_assoc, run_bind_pure]
  rcases ((newModuleScope >>= fun g => trials runFuel g false examples).run).run
    (startMachine host first) with ⟨_ | r, s⟩
  · rfl
  · rfl

/-- A block passes exactly when every example it tries agrees with what it expects. Otherwise
its report gives the number of examples tried that disagree, then a line `Line k: source` for
each example that expects an exception, in order, whether that example failed or not. An
interrupt ends the block with the interrupt. -/
theorem runBlockFrom_eq_of_trials (host : Host) (first : Bool) (b : Block) :
    match trialsOf host first b.examples with
    | .error (cls, msg) => runBlockFrom host first b = .interrupted cls msg
    | .ok verdicts =>
      (false ∉ verdicts → runBlockFrom host first b = .passed) ∧
      (false ∈ verdicts → runBlockFrom host first b =
        .failed ("Doctest failed: " ++ toString (verdicts.count false) ++ " failures\n" ++
          "\n".intercalate ((b.examples.filter (·.excMsg.isSome)).map fun ex =>
            "Line " ++ toString ex.line ++ ": " ++ Text.trim ex.source))) := by
  unfold runBlockFrom
  rw [failuresOf_eq_trialsOf]
  rcases trialsOf host first b.examples with ⟨cls, msg⟩ | verdicts
  · rfl
  · refine ⟨fun hpass => ?_, fun hfail => ?_⟩
    · have hzero : verdicts.count false = 0 := List.count_eq_zero.2 hpass
      simp only [Except.map, hzero]
    · obtain ⟨k, hk⟩ :=
        Nat.exists_eq_succ_of_ne_zero (Nat.pos_iff_ne_zero.1 (List.count_pos_iff.2 hfail))
      simp only [Except.map]
      rw [hk]
      rfl

/-- A block whose one example, at line 0, shows `1` where `2` is expected fails with a count of
one, and its report lists no line: the failing example expects no exception. -/
theorem failureReport_omits_failing_example :
    ((Block.ofDocstring "f" "mod.pyi" (some 1) ">>> 1\n2\n").toOption.map fun b =>
      (b.examples.map (·.line), match runBlock .direct b with
        | .failed report => some report
        | _ => none)) =
      some ([0], some "Doctest failed: 1 failures\n") := by
  decide +kernel

end StubDoctest.Doctest
