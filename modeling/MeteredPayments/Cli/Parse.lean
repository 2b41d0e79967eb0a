import MeteredPayments.Cli.Options

/-!
# Reading the command line

Arguments are read left to right, each option's value checked when the next option starts; an
option given twice is refused except the accepted signers. Missing options then take their
environment variables, and a misspelt option is answered with the closest known one.
-/

namespace MeteredPayments.Cli

/-- The name the program is known by. -/
def programName : String := "sidecar_server"

/-- The required options, as messages show them. -/
def requiredDisplays : List String :=
  (options.filter (·.required)).map (·.display)

/-- The usage line of the help. -/
def helpUsage : String := programName ++ " [OPTIONS] " ++ " ".intercalate requiredDisplays

/-- The usage line of an error, naming the options used so far after the required ones. -/
def usageAfter (used : List String) : String :=
  if used.isEmpty then helpUsage
  else
    let names := used.foldl (fun names name => if names.contains name then names else names ++ [name])
      requiredDisplays
    programName ++ " " ++ " ".intercalate names

/-- Why the command line is refused. -/
inductive CliError where
  /-- An argument that is no option. -/
  | unknownArgument (argument : String) (suggestion : Option String) (usage : String)
  /-- A value that is no value of its option. -/
  | invalidValue (value option reason : String)
  /-- An option without a value. -/
  | emptyValue (option : String)
  /-- An option given twice. -/
  | multipleUse (option : String)
  /-- A value given to a flag. -/
  | unexpectedValue (value option : String) (usage : String)
  /-- Required options left without a value. -/
  | missingRequired (missing : List String) (usage : String)
deriving DecidableEq, Repr

namespace CliError

/-- The text printed for the error. -/
def render (error : CliError) : String :=
  let usage := fun (line : String) => s!"\n\nUsage: {line}"
  let body := match error with
    | .unknownArgument argument suggestion line =>
      s!"unexpected argument '{argument}' found" ++
        (match suggestion with
          | some name => s!"\n\n  tip: a similar argument exists: '{name}'"
          | none => "") ++ usage line
    | .invalidValue value option reason => s!"invalid value '{value}' for '{option}': {reason}"
    | .emptyValue option => s!"a value is required for '{option}' but none was supplied"
    | .multipleUse option => s!"the argument '{option}' cannot be used multiple times" ++ usage helpUsage
    | .unexpectedValue value option line =>
      s!"unexpected value '{value}' for '{option}' found; no more were expected" ++ usage line
    | .missingRequired missing line =>
      "the following required arguments were not provided:" ++
        String.join (missing.map ("\n  " ++ ·)) ++ usage line
  s!"error: {body}\n\nFor more information, try '--help'.\n"

end CliError

/-- The Jaro similarity of two words as a fraction `(numerator, denominator)`; zero is
`(0, 1)`. -/
def jaro (left right : List Char) : Nat × Nat :=
  if left.isEmpty && right.isEmpty then (1, 1)
  else if left.isEmpty || right.isEmpty then (0, 1)
  else
    let range := max left.length right.length / 2 - 1
    let (leftFlags, rightFlags) := left.zipIdx.foldl
      (fun (flags : List Bool × Array Bool) (character, i) =>
        let low := i - range
        let high := min right.length (i + range + 1)
        let found := (List.range high).find? fun j =>
          low ≤ j && right[j]? = some character && !(flags.2.getD j true)
        match found with
        | some j => (flags.1 ++ [true], flags.2.setIfInBounds j true)
        | none => (flags.1 ++ [false], flags.2))
      ([], Array.replicate right.length false)
    let leftMatched := (left.zip leftFlags).filterMap fun (c, flag) => if flag then some c else none
    let rightMatched :=
      (right.zip rightFlags.toList).filterMap fun (c, flag) => if flag then some c else none
    let matchCount := leftMatched.length
    if matchCount = 0 then (0, 1)
    else
      let transpositions := ((leftMatched.zip rightMatched).filter fun (x, y) => x ≠ y).length / 2
      (matchCount * right.length * matchCount + matchCount * left.length * matchCount +
          (matchCount - transpositions) * left.length * right.length,
        3 * left.length * right.length * matchCount)

/-- Whether one fraction is above another. -/
def fractionAbove (left right : Nat × Nat) : Bool := left.1 * right.2 > right.1 * left.2

/-- The long names, in the order they are looked up. -/
def longNames : List String := options.map (·.long) ++ ["help", "version"]

/-- The known long name closest to `name`, if one is similar enough: the most similar above
0.7, the last of equals. -/
def closestLong (name : String) : Option String :=
  let scored := longNames.map fun long => (jaro name.toList long.toList, long)
  let similar := scored.filter fun (score, _) => fractionAbove score (7, 10)
  similar.foldl (fun best (score, long) =>
    match best with
    | some (bestScore, _) => if fractionAbove bestScore score then best else some (score, long)
    | none => some (score, long)) none |>.map (·.2)

/-- An option that has taken values. -/
structure Matched where
  /-- The option. -/
  spec : OptionSpec
  /-- Its values. -/
  values : List OptionValue
deriving DecidableEq

/-- The reading of the command line so far. -/
structure ParseState where
  /-- The options with values, in the order they were first given. -/
  matched : List Matched
  /-- The option waiting for its value check, with its value once read. -/
  pending : Option (OptionSpec × List String)
  /-- Whether `--` was read. -/
  trailing : Bool

/-- What reading the command line stops at before running. -/
inductive Stop where
  /-- The help was asked for. -/
  | help
  /-- The version was asked for. -/
  | version
  /-- The command line is refused. -/
  | refused (error : CliError)
deriving DecidableEq, Repr

namespace ParseState

/-- Nothing read yet. -/
def initial : ParseState := ⟨[], none, false⟩

/-- The options used so far, as messages show them. -/
def used (state : ParseState) : List String := state.matched.map (·.spec.display)

/-- Whether an option has values. -/
def has (state : ParseState) (spec : OptionSpec) : Bool := state.matched.any (·.spec = spec)

/-- Gives an option the raw values `raws`: checks that there is a value when the values come
from the command line, that the option was not given before unless it adds up, and each value. -/
def commit (state : ParseState) (spec : OptionSpec) (raws : List String) (fromCommandLine : Bool) :
    Except CliError ParseState := do
  if fromCommandLine && raws.isEmpty then throw (.emptyValue spec.display)
  if spec.kind ≠ .bindings && state.has spec then throw (.multipleUse spec.display)
  let values ← raws.flatMapM fun raw =>
    match parseValue spec.kind raw with
    | .ok values => pure values
    | .error (.invalid value reason) => throw (.invalidValue value spec.display reason)
    | .error .empty => throw (.emptyValue spec.display)
  if state.has spec then
    pure { state with matched := state.matched.map fun entry =>
      if entry.spec = spec then { entry with values := entry.values ++ values } else entry }
  else pure { state with matched := state.matched ++ [⟨spec, values⟩] }

/-- The options used when reading stops at an unknown option, after a last look at the option
waiting for its value check, whose refusal is not reported: without a value it is not used; given
a second time it is dropped, as the repeat is refused; otherwise it counts as used, whether or not
its value passes. -/
def usedAtUnknown (state : ParseState) : List String :=
  match state.pending with
  | some (spec, _ :: _) =>
    if !state.has spec then state.used ++ [spec.display]
    else if spec.kind = .bindings then state.used
    else (state.matched.filter (·.spec ≠ spec)).map (·.spec.display)
  | _ => state.used

/-- Checks the option waiting for its value check. -/
def resolve (state : ParseState) : Except CliError ParseState :=
  match state.pending with
  | none => .ok state
  | some (spec, raws) => commit { state with pending := none } spec raws true

/-- Stops at a flag, after checking the option waiting for its value. -/
def stopAt (state : ParseState) (flag : Stop) : Except Stop ParseState :=
  match state.resolve with
  | .ok _ => .error flag
  | .error error => .error (.refused error)

/-- Lifts a refusal. -/
def refuse {α : Type} (result : Except CliError α) : Except Stop α := result.mapError .refused

/-- Reads the rest of the arguments. -/
def read : List String → ParseState → Except Stop ParseState
  | [], state => refuse state.resolve
  | token :: rest, state =>
    if state.trailing then .error (.refused (.unknownArgument token none helpUsage))
    else if token = "--" then read rest { state with trailing := true }
    else if token.startsWith "--" then
      let body := (token.drop 2).toString
      let (name, attached) := match body.splitOn "=" with
        | [name] => (name, none)
        | name :: values => (name, some ("=".intercalate values))
        | [] => (body, none)
      if name = "help" || name = "version" then
        match attached with
        | some value =>
          .error (.refused (.unexpectedValue value ("--" ++ name) (usageAfter (state.used ++ ["--" ++ name]))))
        | none => state.stopAt (if name = "help" then .help else .version)
      else
        match options.find? (·.long = name) with
        | some spec =>
          match attached with
          | some value => do
            let state ← refuse state.resolve
            let state ← refuse (state.commit spec [value] true)
            read rest state
          | none => do
            let state ← refuse state.resolve
            read rest { state with pending := some (spec, []) }
        | none =>
          let suggestion := closestLong name
          let started := state.usedAtUnknown
          let used := match suggestion with
            | some long =>
              match options.find? (·.long = long) with
              | some spec => started ++ [spec.display]
              | none => started ++ ["--" ++ long]
            | none => started
          .error (.refused (.unknownArgument ("--" ++ name) (suggestion.map ("--" ++ ·))
            (usageAfter used)))
    else if token.startsWith "-" && token.length > 1 then
      match token.toList with
      | _ :: 'h' :: _ => state.stopAt .help
      | _ :: 'V' :: _ => state.stopAt .version
      | _ :: flag :: _ => .error (.refused (.unknownArgument ("-" ++ flag.toString) none helpUsage))
      | _ => .error (.refused (.unknownArgument token none helpUsage))
    else
      match state.pending with
      | some (spec, []) => read rest { state with pending := some (spec, [token]) }
      | _ => .error (.refused (.unknownArgument token none helpUsage))

/-- Fills the options still missing from their environment variables, in the order of the
options. -/
def fromEnvironment (environment : List (String × String)) (state : ParseState) :
    Except CliError ParseState :=
  options.foldlM (fun state spec =>
    if state.has spec then pure state
    else
      match environment.lookup spec.env with
      | some value => state.commit spec [value] false
      | none => pure state) state

/-- Checks that every required option has a value. -/
def checkRequired (state : ParseState) : Except CliError ParseState :=
  let missing := (options.filter fun spec => spec.required && !state.has spec).map (·.display)
  if missing.isEmpty then .ok state else .error (.missingRequired missing (usageAfter state.used))

end ParseState

/-- Reads a command line in an environment: the options with their values, or where reading
stopped. -/
def readArguments (arguments : List String) (environment : List (String × String)) :
    Except Stop (List Matched) := do
  let state ← ParseState.read arguments ParseState.initial
  let state ← ParseState.refuse (state.fromEnvironment environment)
  let state ← ParseState.refuse state.checkRequired
  pure state.matched

end MeteredPayments.Cli
