import MeteredPayments.Cli.Startup
import MeteredPayments.Session.Serials

/-!
# The program

The command-line program: it starts the service as `Cli.run` decides, then answers JSON-RPC bodies
read one per line from standard input, sweeping ended sessions after each answer. It has no
network client, so escrow balances are never known.
-/

open MeteredPayments

/-- The text of a failure to read a file, as the system reports it. -/
def fileErrorText : IO.Error → String
  | .noFileOrDirectory _ code _ => s!"No such file or directory (os error {code})"
  | .permissionDenied _ code _ => s!"Permission denied (os error {code})"
  | error => toString error

/-- The environment variables of the options that are set. -/
def optionEnvironment : IO (List (String × String)) :=
  Cli.options.filterMapM fun spec => do
    pure ((← IO.getEnv spec.env).map fun value => (spec.env, value))

/-- The text of the pricing file the arguments name, or why it cannot be read. -/
def pricingFileText (arguments : List String) (environment : List (String × String)) :
    IO (Except String String) := do
  match Cli.readArguments arguments environment with
  | .ok matched =>
    match (Cli.Settings.ofMatched matched).pricingConfig with
    | some path =>
      try pure (.ok (← IO.FS.readFile path))
      catch error => pure (.error (fileErrorText error))
    | none => pure (.error "")
  | .error _ => pure (.error "")

/-- Answers the JSON-RPC bodies of standard input, one per line. -/
partial def serveLines (running : Cli.Running) (stdin stdout : IO.FS.Stream)
    (service : Server.Service) : IO Unit := do
  let line ← stdin.getLine
  if line.isEmpty then return
  let body := String.ofList (line.toList.reverse.dropWhile (fun c => c = '\n' ∨ c = '\r')).reverse
  let (response, service) := service.post (fun _ => .unknown) running.settings.limits body
  if !response.body.isEmpty then
    stdout.putStrLn response.body
    stdout.flush
  serveLines running stdin stdout (service.sweep running.settings.sessionRetentionSecs)

/-- Runs the program. -/
def main (arguments : List String) : IO UInt32 := do
  let environment ← optionEnvironment
  let pricingText ← pricingFileText arguments environment
  match Cli.run arguments environment (fun _ => pricingText) IdSource.serials with
  | .exit code stdout stderr =>
    IO.print stdout
    IO.eprint stderr
    pure code.toUInt32
  | .serve running =>
    serveLines running (← IO.getStdin) (← IO.getStdout) running.service
    pure 0
