import LinearModel.Scaling
import LinearModel.Text.Number

/-!
# Command line arguments

A command line is a command and its options. An option takes its value from the same argument,
behind an equals sign or right behind a single letter, or from the next argument, unless that starts
with a minus sign. A value in an argument of its own is looked at only when the next known option or
the end is reached, so that an argument that nothing can be made of is reported first.
-/

namespace LinearModel

inductive Preset where
  | none
  | equilibrated
  | geometric
  | arithmetic
  | dynamic
  | curtisReid
deriving DecidableEq

namespace Preset

def mode : Preset → ScaleMode
  | none => .none
  | equilibrated => .equilibratedModel
  | geometric => .geometricModel
  | arithmetic => .arithmeticModel
  | dynamic => .dynamicModel
  | curtisReid => .curtisReidModel

def name : Preset → String
  | none => "None"
  | equilibrated => "Equilibrated"
  | geometric => "Geometric"
  | arithmetic => "Arithmetic"
  | dynamic => "Dynamic"
  | curtisReid => "CurtisReid"

def ofText? : String → Option Preset
  | "none" => some none
  | "equilibrated" => some equilibrated
  | "geometric" => some geometric
  | "arithmetic" => some arithmetic
  | "dynamic" => some dynamic
  | "curtis-reid" => some curtisReid
  | _ => Option.none

end Preset

structure SolveOptions where
  solver : Option String := none
  showLog : Bool := false
  timeLimit : Option Float := none
  scaling : Option Preset := none
  reportPath : Option String := none

inductive Command where
  | simpleMip (options : SolveOptions)
  | assignment (size : Nat) (feasibility : Bool) (options : SolveOptions)
  | knapsack (capacity : Float) (options : SolveOptions)

namespace Command

def options : Command → SolveOptions
  | simpleMip options | assignment _ _ options | knapsack _ options => options

end Command

inductive UsageFault where
  | unknownArgument
  | invalidSubcommand
  /-- A value is missing, empty or none of those allowed. -/
  | invalidValue
  /-- A value is no number. -/
  | valueValidation
  /-- An option is given twice. -/
  | argumentConflict
  /-- An option that takes no value has one. -/
  | tooManyValues
  | help
  | helpOnMissing
deriving DecidableEq

namespace UsageFault

def name : UsageFault → String
  | unknownArgument => "UnknownArgument"
  | invalidSubcommand => "InvalidSubcommand"
  | invalidValue => "InvalidValue"
  | valueValidation => "ValueValidation"
  | argumentConflict => "ArgumentConflict"
  | tooManyValues => "TooManyValues"
  | help => "DisplayHelp"
  | helpOnMissing => "DisplayHelpOnMissingArgumentOrSubcommand"

def exitCode : UsageFault → Nat
  | help => 0
  | _ => 2

end UsageFault

namespace Arguments

inductive Word where
  /-- Two minus signs: no options follow. -/
  | escape
  | long (name : String) (value : Option String)
  | short (letter : Char) (value : Option String)
  | plain (text : String)

def splitValue (s : List Char) : String × Option String :=
  match s.span (· ≠ '=') with
  | (name, []) => (.ofList name, none)
  | (name, _ :: value) => (.ofList name, some (.ofList value))

def attachedValue : List Char → Option String
  | [] => none
  | '=' :: value => some (.ofList value)
  | value => some (.ofList value)

def Word.ofText (s : String) : Word :=
  match s.toList with
  | ['-', '-'] => .escape
  | '-' :: '-' :: rest =>
    let (name, value) := splitValue rest
    .long name value
  | '-' :: letter :: rest => .short letter (attachedValue rest)
  | _ => .plain s

inductive Name where
  | simpleMip
  | assignment
  | knapsack
deriving DecidableEq

def Name.ofText? : String → Option Name
  | "simple-mip" => some simpleMip
  | "assignment" => some assignment
  | "knapsack" => some knapsack
  | _ => none

inductive Valued where
  | solver
  | timeLimit
  | scaling
  | report
  | size
  | capacity
deriving DecidableEq

inductive Flag where
  | showLog
  | feasibility
deriving DecidableEq

inductive Key where
  | valued (v : Valued)
  | flag (f : Flag)
  | help

def Key.ofLong? (command : Name) : String → Option Key
  | "solver" => some (valued .solver)
  | "show-log" => some (flag .showLog)
  | "time-limit" => some (valued .timeLimit)
  | "scaling" => some (valued .scaling)
  | "report" => some (valued .report)
  | "help" => some help
  | "size" => if command = .assignment then some (valued .size) else none
  | "feasibility" => if command = .assignment then some (flag .feasibility) else none
  | "capacity" => if command = .knapsack then some (valued .capacity) else none
  | _ => none

def Key.ofShort? (command : Name) : Char → Option Key
  | 't' => some (valued .timeLimit)
  | 'r' => some (valued .report)
  | 'h' => some help
  | 'n' => if command = .assignment then some (valued .size) else none
  | 'c' => if command = .knapsack then some (valued .capacity) else none
  | _ => none

/-- The options read so far, and the option whose value is not looked at yet. -/
structure State where
  options : SolveOptions := {}
  size : Option Nat := none
  feasibility : Bool := false
  capacity : Option Float := none
  waiting : Option (Valued × Option String) := none

namespace State

def isGiven (s : State) : Valued → Bool
  | .solver => s.options.solver.isSome
  | .timeLimit => s.options.timeLimit.isSome
  | .scaling => s.options.scaling.isSome
  | .report => s.options.reportPath.isSome
  | .size => s.size.isSome
  | .capacity => s.capacity.isSome

/-- The second of two values is refused before it is read. -/
def set (s : State) (v : Valued) (text : String) : Except UsageFault State :=
  if s.isGiven v then .error .argumentConflict
  else
    let number {α : Type} (value : Option α) (store : α → State) : Except UsageFault State :=
      match value with
      | some x => .ok (store x)
      | none => .error .valueValidation
    match v with
    | .solver => .ok { s with options := { s.options with solver := some text } }
    | .timeLimit => number (Text.readFloat? text) fun x =>
      { s with options := { s.options with timeLimit := some x } }
    | .scaling =>
      match Preset.ofText? text with
      | some preset => .ok { s with options := { s.options with scaling := some preset } }
      | none => .error .invalidValue
    | .report =>
      if text = "" then .error .invalidValue
      else .ok { s with options := { s.options with reportPath := some text } }
    | .size => number (Text.readNat? text) fun n => { s with size := some n }
    | .capacity => number (Text.readFloat? text) fun x => { s with capacity := some x }

def settle (s : State) : Except UsageFault State :=
  match s.waiting with
  | none => .ok s
  | some (_, none) => .error .invalidValue
  | some (v, some text) => { s with waiting := none }.set v text

def raise (s : State) : Flag → Except UsageFault State
  | .showLog =>
    if s.options.showLog then .error .argumentConflict
    else .ok { s with options := { s.options with showLog := true } }
  | .feasibility =>
    if s.feasibility then .error .argumentConflict else .ok { s with feasibility := true }

def take (s : State) (key : Key) (value : Option String) : Except UsageFault State :=
  match key, value with
  | .flag _, some _ | .help, some _ => .error .tooManyValues
  | .flag f, none => do (← s.settle).raise f
  | .help, none => do
    let _ ← s.settle
    throw .help
  | .valued v, some text => do (← s.settle).set v text
  | .valued v, none => do return { (← s.settle) with waiting := some (v, none) }

/-- A single letter for help needs nothing behind it, whatever stands there. -/
def takeShort (s : State) (key : Key) (value : Option String) : Except UsageFault State :=
  match key with
  | .help => s.take key none
  | _ => s.take key value

/-- An argument without a minus sign is the value that an option waits for, or nothing. -/
def feed (s : State) (text : String) : Except UsageFault State :=
  match s.waiting with
  | some (v, none) => .ok { s with waiting := some (v, some text) }
  | _ => .error .unknownArgument

def read (command : Name) : State → List String → Except UsageFault State
  | s, [] => s.settle
  | s, arg :: args =>
    match Word.ofText arg with
    | .escape => if args.isEmpty then s.settle else .error .unknownArgument
    | .long name value =>
      match Key.ofLong? command name with
      | none => .error .unknownArgument
      | some key => do read command (← s.take key value) args
    | .short letter value =>
      match Key.ofShort? command letter with
      | none => .error .unknownArgument
      | some key => do read command (← s.takeShort key value) args
    | .plain text => do read command (← s.feed text) args

def command (s : State) : Name → Command
  | .simpleMip => .simpleMip s.options
  | .assignment => .assignment (s.size.getD 4) s.feasibility s.options
  | .knapsack => .knapsack (s.capacity.getD 50.0) s.options

end State

def readHelp : List String → UsageFault
  | [] => .help
  | [name] => if (Name.ofText? name).isSome || name = "help" then .help else .invalidSubcommand
  | _ => .invalidSubcommand

def readEscaped : List String → UsageFault
  | [] => .helpOnMissing
  | name :: _ =>
    if (Name.ofText? name).isSome || name = "help" then .unknownArgument else .invalidSubcommand

end Arguments

open Arguments in
def Command.ofArguments : List String → Except UsageFault Command
  | [] => .error .helpOnMissing
  | first :: args =>
    match Name.ofText? first with
    | some name => do return (← State.read name {} args).command name
    | none =>
      if first = "help" then .error (readHelp args)
      else
        match Word.ofText first with
        | .escape => .error (readEscaped args)
        | .long "help" none => .error .help
        | .long "help" (some _) => .error .tooManyValues
        | .short 'h' _ => .error .help
        | .long _ _ | .short _ _ => .error .unknownArgument
        | .plain _ => .error .invalidSubcommand

end LinearModel
