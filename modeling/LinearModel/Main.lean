import LinearModel.Command.Run
import LinearModel.Log.Filter

/-!
# Command line program

Carries out the run of a command: reads the arguments and the environment, performs the effects of
the run, and writes its log and its fault to the error stream.
-/

namespace LinearModel.CommandLine

def usage : String :=
  "Usage: COMMAND [OPTIONS], where COMMAND is simple-mip, assignment or knapsack"

/-- The environment variable that chooses the lines of the log. -/
def filterName : String := "RUST_LOG"

def fileFault : IO.Error → FileFault
  | .alreadyExists _ number text | .otherError number text | .resourceBusy number text
  | .resourceVanished number text | .unsupportedOperation number text
  | .hardwareFault number text | .unsatisfiedConstraints number text
  | .illegalOperation number text | .protocolError number text | .timeExpired number text
  | .interrupted _ number text | .noFileOrDirectory _ number text
  | .invalidArgument _ number text | .permissionDenied _ number text
  | .resourceExhausted _ number text | .inappropriateType _ number text
  | .noSuchThing _ number text => .system text number.toNat
  | .unexpectedEof => .other "unexpected end of file"
  | .userError text => .other text

def send (stream : IO.FS.Stream) (text : String) : IO Unit := do
  stream.putStr text
  stream.flush

/-- A file that was just made is empty, so that its text can be appended. -/
def act : Effect → IO Unit
  | .print text => do send (← IO.getStdout) text
  | .create path => discard (IO.FS.Handle.mk path .write)
  | .write path text => do send (.ofHandle (← IO.FS.Handle.mk path .append)) text

def perform (e : Effect) : IO (Except FileFault Unit) := do
  try
    act e
    return .ok ()
  catch fault => return .error (fileFault fault)

def world : IO (World IO) := do
  let env := match ← IO.getEnv Backend.envName with
    | some value => EnvValue.text value
    | none => .unset
  return { env, perform }

end LinearModel.CommandLine

open LinearModel in
def main (args : List String) : IO UInt32 := do
  match Command.ofArguments args with
  | .error fault =>
    let stream ← if fault.exitCode = 0 then IO.getStdout else IO.getStderr
    stream.putStrLn CommandLine.usage
    return fault.exitCode.toUInt32
  | .ok command =>
    let run ← command.run (← CommandLine.world)
    let filter := Filter.ofSetting (← IO.getEnv CommandLine.filterName)
    for line in filter.lines run.log do
      IO.eprintln line
    IO.eprint run.transcript.stderr
    return run.transcript.code.toUInt32
