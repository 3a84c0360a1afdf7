import TableGateway.Console.Run

/-!
# The program

Reads the configuration file and the variables that a command line needs, and prints what
`Console.run` makes of them: the result on standard output, or the text of a failure on standard
error with exit code 1.
-/

open TableGateway.Console

/-- The number that the system gives to a failure to open or read a file. It can arrive negated,
modulo 2 ^ 32, so the smaller of the two is it. -/
def systemCode? : IO.Error → Option UInt32
  | .noFileOrDirectory _ code _ | .inappropriateType _ code _ | .invalidArgument _ code _ =>
    some (min code (0 - code))
  | _ => none

/-- The text of a file, or why it cannot be read. -/
def readConfigFile (path : String) : IO (Except ReadError String) := do
  try
    let bytes ← IO.FS.readBinFile path
    return (String.fromUTF8? bytes).elim (.error .notText) .ok
  catch e =>
    return .error (((systemCode? e).bind ReadError.ofCode?).getD (.other (toString e)))

/-- The variables that the text of a configuration file refers to and that are set. -/
def readVariables (text : String) : IO (List (String × String)) := do
  match TableGateway.Configuration.ofDocument? text with
  | none => return []
  | some c =>
    let values ← (referredVariables c).mapM fun name => return (← IO.getEnv name).map (name, ·)
    return values.filterMap id

def main (args : List String) : IO UInt32 := do
  let path? := (Command.parse args).toOption.bind Command.configFile?
  let contents ← match path? with
    | some path => readConfigFile path
    | none => pure (.error .notFound)
  let values ← match contents with
    | .ok text => readVariables text
    | .error _ => pure []
  match run (fun name => values.lookup name) (fun _ => contents) args with
  | .ok text =>
    IO.print text
    return 0
  | .error failure =>
    IO.eprintln failure.message
    return 1
