import LinearModel.Backend
import LinearModel.Command.Arguments
import LinearModel.Demo.Problems

/-!
# Running a command

A command is carried out in stages: its own arguments are checked, the model is built and
configured, the backend is chosen, the model is solved, and last the report is written, to the file
that was asked for or to the standard output. The first stage that fails ends the run, so the file
is touched only when there is something to write into it.
-/

namespace LinearModel

inductive FileFault where
  /-- Refused by the operating system, which numbers its reasons. -/
  | system (text : String) (number : Nat)
  | other (text : String)

def FileFault.message : FileFault → String
  | system text number => s!"{text} (os error {number})"
  | other text => text

inductive RunFault where
  | sizeZero
  | negativeCapacity
  | timeLimit (seconds : Float) (cause : Duration.Fault)
  | model (error : Error)
  | createReport (path : String) (cause : FileFault)
  | writeReport (cause : FileFault)

namespace RunFault

def chain : RunFault → String × Option String
  | sizeZero => ("assignment size must be positive", none)
  | negativeCapacity => ("capacity must not be negative", none)
  | timeLimit seconds cause =>
    (s!"invalid time limit {Text.plainFloat seconds}", some cause.message)
  | model error => (error.message, none)
  | createReport path cause => (s!"cannot create report {path}", some cause.message)
  | writeReport cause => (cause.message, none)

def message (f : RunFault) : String :=
  match f.chain with
  | (text, none) => text
  | (text, some cause) => s!"{text}: {cause}"

def display (f : RunFault) : String :=
  match f.chain with
  | (text, none) => s!"Error: {text}\n"
  | (text, some cause) => s!"Error: {text}\n\nCaused by:\n    {cause}\n"

end RunFault

inductive Effect where
  | print (text : String)
  /-- Makes a file, or empties one. -/
  | create (path : String)
  | write (path text : String)
deriving DecidableEq

namespace Effect

def fault (cause : FileFault) : Effect → RunFault
  | create path => .createReport path cause
  | print _ | write _ _ => .writeReport cause

/-- The effects that were performed, up to the first one that fails. -/
def performAll {m : Type → Type} [Monad m] (perform : Effect → m (Except FileFault Unit)) :
    List Effect → m (List Effect × Option RunFault)
  | [] => pure ([], none)
  | e :: es => do
    match ← perform e with
    | .error cause => return ([], some (e.fault cause))
    | .ok () =>
      let (performed, fault) ← performAll perform es
      return (e :: performed, fault)

end Effect

/-- What a run depends on beside its arguments: to solve and to act on files and streams is all that
it asks of the world. -/
structure World (m : Type → Type) [Pure m] where
  env : EnvValue
  solve : Backend → Model Float → m (Except Error (Solution Float) × Log) :=
    fun backend model => pure (backend.optimize model)
  perform : Effect → m (Except FileFault Unit)

structure Run where
  log : Log := []
  effects : List Effect := []
  fault : Option RunFault := none

def Command.reserve : Command → Except Halt Unit
  | .assignment size _ _ => (Model.empty : Model Float).reserve size size
  | .simpleMip _ | .knapsack _ _ => .ok ()

namespace SolveOptions

def configure (o : SolveOptions) (model : Model Float) : Except RunFault (Model Float) := do
  let m := model.showLog o.showLog
  let m ← match o.timeLimit with
    | none => pure m
    | some seconds =>
      match Duration.ofSeconds seconds with
      | .ok limit => pure (m.setTimeLimit limit)
      | .error cause => throw (.timeLimit seconds cause)
  match o.scaling with
  | none => return m
  | some preset => return m.setScaling preset.mode

def chosenEvent (b : Backend) : Event where
  level := .info
  target := "lpmodel::demo"
  message := "using solver backend"
  fields := [b.backendField]

variable {m : Type → Type} [Monad m]

/-- Configures the model, chooses the backend and solves, in that order. -/
def solve (o : SolveOptions) (w : World m) (model : Model Float) :
    m (Except RunFault (Solution Float) × Log) :=
  match o.configure model with
  | .error fault => pure (.error fault, [])
  | .ok model =>
    match Backend.choose o.solver w.env with
    | .error fault => pure (.error (.model fault.toError), [])
    | .ok backend => do
      let (result, log) ← w.solve backend model
      return (result.mapError .model, chosenEvent backend :: log)

def report (o : SolveOptions) (w : World m) (p : Demo.Problem Float) :
    m (Except RunFault (Report Float) × Log) := do
  let (result, log) ← o.solve w p.model
  return (result.bind fun s => (p.report s).mapError .model, log)

def delivery (o : SolveOptions) (text : String) : List Effect :=
  match o.reportPath with
  | none => [.print text]
  | some path => [.create path, .write path text]

end SolveOptions

namespace Command

def problem : Command → Except RunFault (Demo.Problem Float)
  | simpleMip _ => .ok Demo.simpleMip
  | assignment size feasibility _ =>
    if size = 0 then .error .sizeZero
    else (Demo.assignment size feasibility).mapError .model
  | knapsack capacity _ => (Demo.knapsack capacity).mapError .model

def check : Command → Option RunFault
  | knapsack capacity _ => if capacity < 0.0 then some .negativeCapacity else none
  | _ => none

variable {m : Type → Type} [Monad m]

/-- The report of a command, which no capacity is too small for. -/
def report (c : Command) (w : World m) : m (Except RunFault (Report Float) × Log) :=
  match c.problem with
  | .error fault => pure (.error fault, [])
  | .ok p => c.options.report w p

def runWith (table : Report.TableWriter) (c : Command) (w : World m) : m Run :=
  match c.check with
  | some fault => pure { fault := some fault }
  | none => do
    match ← c.report w with
    | (.error fault, log) => return { log, fault := some fault }
    | (.ok report, log) =>
      let text := report.textWith table
      let (effects, fault) ← Effect.performAll w.perform (c.options.delivery text)
      return { log, effects, fault }

def run (c : Command) (w : World m) : m Run :=
  c.runWith Text.Table.text w

end Command

structure Transcript where
  stdout : String := ""
  stderr : String := ""
  code : Nat := 0

def Run.transcript (r : Run) : Transcript where
  stdout := String.join <| r.effects.map fun
    | .print text => text
    | _ => ""
  stderr := (r.fault.map RunFault.display).getD ""
  code := if r.fault.isSome then 1 else 0

end LinearModel
