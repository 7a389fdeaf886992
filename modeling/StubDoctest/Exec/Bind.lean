import StubDoctest.Exec.Builtins

/-!
# Binding arguments to parameters

A call's positional arguments fill the positional parameters in order; extra ones go to the
`*args` collector, or are refused. Keyword arguments fill the parameters of their names (not
the positional-only ones), or go to the `**kwargs` collector, or are refused; a parameter
filled twice is refused. Parameters left unfilled take their defaults; those without one are
reported missing, all of them in one message.

The messages name the function by its qualified name, as the runtime does.
-/

namespace StubDoctest.Exec

open StubDoctest.Source

/-- The name of a parameter. -/
def paramName : Param → String
  | .mk n _ _ => n

/-- Names quoted and listed: `'a'`, `'a' and 'b'`, `'a', 'b', and 'c'`. -/
def listNames (ns : List String) : String :=
  let q := ns.map fun n => "'" ++ n ++ "'"
  match q with
  | [] => ""
  | [a] => a
  | [a, b] => a ++ " and " ++ b
  | _ => ", ".intercalate q.dropLast ++ ", and " ++ q.getLast!

/-- The message of too many positional arguments. -/
def tooManyPositional (qual : String) (nPos nDefaults given kwonlyGiven : Nat) : String :=
  let (sig, plural) :=
    if nDefaults > 0 then ("from " ++ toString (nPos - nDefaults) ++ " to " ++ toString nPos, true)
    else (toString nPos, nPos != 1)
  let kwSig := if kwonlyGiven > 0 then
      " positional argument" ++ (if given != 1 then "s" else "") ++ " (and " ++ toString kwonlyGiven ++
        " keyword-only argument" ++ (if kwonlyGiven != 1 then "s" else "") ++ ")"
    else ""
  qual ++ "() takes " ++ sig ++ " positional argument" ++ (if plural then "s" else "") ++ " but " ++
    toString given ++ kwSig ++ " " ++ (if given == 1 && kwonlyGiven == 0 then "was" else "were") ++ " given"

/-- The message of missing arguments of a kind. -/
def missingArguments (qual : String) (kind : String) (names : List String) : String :=
  qual ++ "() missing " ++ toString names.length ++ " required " ++ kind ++ " argument" ++
    (if names.length = 1 then "" else "s") ++ ": " ++ listNames names

/-- The bindings of a call's arguments to a function's parameters, or the fault's message. -/
def bindArguments (fn : Function) (args : List Value) (kw : List (String × Value)) :
    Eval (Array (String × Value)) := do
  let .mk posOnly regular varArgs kwOnly varKw := fn.params
  let positional := (posOnly ++ regular).map paramName
  let nPos := positional.length
  let fault {α : Type} (m : String) : Eval α := throwExc "TypeError" m
  let mut bound : Array (String × Option Value) := (positional ++ kwOnly.map paramName).toArray.map (·, none)
  -- Positional arguments in order.
  for (v, i) in args.zip (List.range args.length) do
    if i < nPos then bound := bound.setIfInBounds i (bound[i]!.1, some v)
  let extra := args.drop nPos
  let mut kwargs : Array (Value × Value) := #[]
  let mut posOnlyAsKw : List String := []
  let posOnlyNames := posOnly.map paramName
  for (k, v) in kw do
    match (bound.toList.zip (List.range bound.size)).find? (fun ((n, _), i) =>
        n == k && !(i < posOnlyNames.length)) with
    | some ((_, prev), i) =>
      if prev.isSome then fault (fn.qualname ++ "() got multiple values for argument '" ++ k ++ "'")
      bound := bound.setIfInBounds i (k, some v)
    | none =>
      if varKw.isSome then kwargs := kwargs.push (.str k, v)
      else if posOnlyNames.contains k then posOnlyAsKw := posOnlyAsKw ++ [k]
      else fault (fn.qualname ++ "() got an unexpected keyword argument '" ++ k ++ "'")
  if !posOnlyAsKw.isEmpty then
    fault (fn.qualname ++ "() got some positional-only arguments passed as keyword arguments: '" ++
      ", ".intercalate posOnlyAsKw ++ "'")
  if !extra.isEmpty && varArgs.isNone then
    let kwonlyGiven := ((bound.toList.drop nPos).filter (·.2.isSome)).length
    fault (tooManyPositional fn.qualname nPos fn.defaults.length args.length kwonlyGiven)
  -- Defaults of the positional parameters are the last ones.
  let firstDefault := nPos - fn.defaults.length
  let mut missing : List String := []
  for i in [0:nPos] do
    if bound[i]!.2.isNone then
      if i ≥ firstDefault then
        bound := bound.setIfInBounds i (bound[i]!.1, fn.defaults[i - firstDefault]?)
      else missing := missing ++ [bound[i]!.1]
  if !missing.isEmpty then fault (missingArguments fn.qualname "positional" missing)
  let mut missingKw : List String := []
  for i in [nPos:bound.size] do
    let (n, v) := bound[i]!
    if v.isNone then
      match fn.kwDefaults.find? (·.1 == n) with
      | some (_, d) => bound := bound.setIfInBounds i (n, some d)
      | none => missingKw := missingKw ++ [n]
  if !missingKw.isEmpty then fault (missingArguments fn.qualname "keyword-only" missingKw)
  let mut out : Array (String × Value) := bound.filterMap fun (n, v) => v.map (n, ·)
  if let some p := varArgs then out := out.push (paramName p, .tuple extra)
  if let some p := varKw then
    let d ← allocRef (.dict kwargs)
    out := out.push (paramName p, d)
  return out

end StubDoctest.Exec
