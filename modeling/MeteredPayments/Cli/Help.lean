import MeteredPayments.Cli.Parse

/-!
# Help and version

The help lists every option on its own line, its help sentence on the next, followed by its
environment variable with the value it has now and its default. The version is the program's
name and version.
-/

namespace MeteredPayments.Cli

/-- What the program is. -/
def about : String :=
  "A JSON-RPC service that validates Horizon RAV payments for a provider streaming metered data."

/-- The program's version. -/
def version : String := "0.1.0"

/-- The text of the version flag. -/
def versionText : String := s!"{programName} {version}\n"

/-- The notes after an option's help: its environment variable and its default. -/
def optionNotes (environment : List (String × String)) (spec : OptionSpec) : String :=
  let current := (environment.lookup spec.env).getD ""
  let env := s!"[env: {spec.env}={current}]"
  match spec.default with
  | some value => env ++ s!" [default: {value}]"
  | none => env

/-- The two lines of an option in the help. -/
def optionLines (environment : List (String × String)) (spec : OptionSpec) : String :=
  s!"      {spec.display}\n          {spec.help} {optionNotes environment spec}\n"

/-- The text of the help flag, in an environment. -/
def helpText (environment : List (String × String)) : String :=
  s!"{about}\n\nUsage: {helpUsage}\n\nOptions:\n" ++
    String.join (options.map (optionLines environment)) ++
    "  -h, --help\n          Print help\n  -V, --version\n          Print version\n"

end MeteredPayments.Cli
