import LinearModel.Proofs.Assignment
import LinearModel.Proofs.Options

/-!
# The stages of a run

A command goes through six stages: its own argument, the time limit, the backend, solving, making
the report file and writing the report. Its fault is that of the first stage that fails. Nothing is
asked of the world before the fourth stage, and only a solver is asked in it, so that files and
streams are as they were unless there is a report.
-/

namespace LinearModel

/-! ## What stands outside of a run -/

/-- The state of the solvers, what was printed, and the texts of the files by their paths. -/
structure Outside (S : Type) where
  solver : S
  stdout : String
  files : String → Option String

namespace Effect

variable {S : Type}

def act : Effect → Outside S → Outside S
  | print text, s => { s with stdout := s.stdout ++ text }
  | create path, s => { s with files := Function.update s.files path (some "") }
  | write path text, s =>
    { s with files := Function.update s.files path (some ((s.files path).getD "" ++ text)) }

/-- What comes through of an effect that is refused after `n` characters. -/
def cut (n : Nat) : Effect → Option Effect
  | print text => some (print (String.ofList (text.toList.take n)))
  | create _ => none
  | write path text => some (write path (String.ofList (text.toList.take n)))

end Effect

/-- An environment, a writer of tables, a solver for each backend, and the effects that are refused,
with how much comes through of each. -/
structure Surroundings (S : Type) where
  env : EnvValue
  table : Report.TableWriter
  solver : Backend → Solver Float S
  refuse : Effect → Outside S → Option (FileFault × Nat)

/-- A model that is ready for its solver, and the report on its solution. -/
structure Task where
  backend : Backend
  model : Model Float
  report : Solution Float → Except Error (Report Float)

namespace Surroundings

variable {S : Type} (w : Surroundings S)

def perform (e : Effect) : StateM (Outside S) (Except FileFault Unit) := fun s =>
  match w.refuse e s with
  | none => (.ok (), e.act s)
  | some (cause, n) => (.error cause, (e.cut n).elim s (·.act s))

def outcome (t : Task) (s : Outside S) : Outcome Float S :=
  (w.solver t.backend).run t.model s.solver

def solved (t : Task) (s : Outside S) : Outside S :=
  { s with solver := (w.outcome t s).state }

def reported (t : Task) (s : Outside S) : Except Error (Report Float) :=
  (w.outcome t s).result.bind t.report

def solve (backend : Backend) (model : Model Float) :
    StateM (Outside S) (Except Error (Solution Float) × Log) := fun s =>
  let o := (w.solver backend).run model s.solver
  ((o.result, o.log), { s with solver := o.state })

def text (report : Report Float) : String :=
  report.textWith w.table

def world : World (StateM (Outside S)) where
  env := w.env
  solve := w.solve
  perform := w.perform

end Surroundings

/-! ## The faults of the stages -/

namespace SolveOptions

def limitFault (o : SolveOptions) : Option RunFault := do
  let seconds ← o.timeLimit
  match Duration.ofSeconds seconds with
  | .ok _ => none
  | .error cause => some (.timeLimit seconds cause)

def backendFault (o : SolveOptions) (env : EnvValue) : Option RunFault :=
  match Backend.choose o.solver env with
  | .ok _ => none
  | .error fault => some (.model fault.toError)

end SolveOptions

namespace Command

def argumentFault : Command → Option RunFault
  | simpleMip _ => none
  | assignment size _ _ => if size = 0 then some .sizeZero else none
  | knapsack capacity _ => if capacity < 0.0 then some .negativeCapacity else none

def earlyStages (c : Command) (env : EnvValue) : List (Option RunFault) :=
  [c.argumentFault, c.options.limitFault, c.options.backendFault env]

def task (c : Command) (env : EnvValue) : Except RunFault Task := do
  let p ← c.problem
  let model ← c.options.configure p.model
  let backend ← (Backend.choose c.options.solver env).mapError (.model ·.toError)
  return ⟨backend, model, p.report⟩

end Command

namespace Task

variable {S : Type}

/-- No flat form, no solver, no solution, or a solution without a value that is reported. -/
def solveFault (t : Task) (w : Surroundings S) (s : Outside S) : Option RunFault :=
  match w.reported t s with
  | .ok _ => none
  | .error e => some (.model e)

def createFault (t : Task) (o : SolveOptions) (w : Surroundings S) (s : Outside S) :
    Option RunFault := do
  let path ← o.reportPath
  let (cause, _) ← w.refuse (.create path) (w.solved t s)
  return .createReport path cause

/-- A report goes to the standard output, or into the file that was just made. -/
def writeFault (t : Task) (o : SolveOptions) (w : Surroundings S) (s : Outside S) :
    Option RunFault := do
  let report ← (w.reported t s).toOption
  let (cause, _) ← match o.reportPath with
    | none => w.refuse (.print (w.text report)) (w.solved t s)
    | some path =>
      w.refuse (.write path (w.text report)) ((Effect.create path).act (w.solved t s))
  return .writeReport cause

end Task

/-- What goes wrong in each of the six stages, the later ones as far as they can be reached. -/
def Command.stages {S : Type} (c : Command) (w : Surroundings S) (s : Outside S) :
    List (Option RunFault) :=
  c.earlyStages w.env ++
    match c.task w.env with
    | .ok t => [t.solveFault w s, t.createFault c.options w s, t.writeFault c.options w s]
    | .error _ => []

/-! ## The first stages -/

theorem SolveOptions.configure_of_limitFault {o : SolveOptions} {fault : RunFault}
    (h : o.limitFault = some fault) (model : Model Float) : o.configure model = .error fault := by
  unfold limitFault at h
  cases hlimit : o.timeLimit with
  | none =>
    rw [hlimit] at h
    cases h
  | some seconds =>
    rw [hlimit] at h
    cases hseconds : Duration.ofSeconds seconds with
    | ok d => simp [hseconds] at h
    | error cause =>
      simp only [hseconds, Option.bind_eq_bind, Option.bind_some, Option.some.injEq] at h
      rw [configure_of_refused hlimit hseconds, h]

theorem SolveOptions.exists_configure {o : SolveOptions} (h : o.limitFault = none)
    (model : Model Float) : ∃ configured, o.configure model = .ok configured := by
  unfold limitFault at h
  cases hlimit : o.timeLimit with
  | none =>
    obtain ⟨settings, hsettings, -⟩ := configure_of_unlimited hlimit model
    exact ⟨_, hsettings⟩
  | some seconds =>
    rw [hlimit] at h
    cases hseconds : Duration.ofSeconds seconds with
    | ok d =>
      obtain ⟨settings, hsettings, -⟩ := configure_of_limit hlimit hseconds model
      exact ⟨_, hsettings⟩
    | error cause => simp [hseconds] at h

theorem SolveOptions.choose_of_backendFault {o : SolveOptions} {env : EnvValue} {fault : RunFault}
    (h : o.backendFault env = some fault) :
    ∃ cause, Backend.choose o.solver env = .error cause ∧ .model cause.toError = fault := by
  unfold backendFault at h
  cases hchoose : Backend.choose o.solver env with
  | ok backend =>
    rw [hchoose] at h
    cases h
  | error cause =>
    rw [hchoose] at h
    exact ⟨cause, rfl, Option.some.inj h⟩

theorem SolveOptions.exists_choose {o : SolveOptions} {env : EnvValue}
    (h : o.backendFault env = none) : ∃ backend, Backend.choose o.solver env = .ok backend := by
  unfold backendFault at h
  cases hchoose : Backend.choose o.solver env with
  | ok backend => exact ⟨backend, rfl⟩
  | error cause =>
    rw [hchoose] at h
    cases h

namespace Command

theorem exists_knapsack (capacity : Float) : ∃ p, Demo.knapsack capacity = .ok p :=
  ⟨_, rfl⟩

/-- No model of a command fails to be built but that of size zero. -/
theorem exists_problem {c : Command} (h : c.argumentFault = none) :
    c.check = none ∧ ∃ p, c.problem = .ok p := by
  cases c with
  | simpleMip o => exact ⟨rfl, _, rfl⟩
  | assignment size feasibility o =>
    have hsize : size ≠ 0 := by
      rintro rfl
      cases h
    refine ⟨rfl, ?_⟩
    rw [problem, if_neg hsize, Demo.assignment_eq Demo.unitLaws_float]
    exact ⟨_, rfl⟩
  | knapsack capacity o =>
    obtain ⟨p, hp⟩ := exists_knapsack capacity
    refine ⟨h, ?_⟩
    rw [problem, hp]
    exact ⟨_, rfl⟩

theorem task_eq_ok {c : Command} {env : EnvValue} {t : Task} :
    c.task env = .ok t ↔ ∃ p, c.problem = .ok p ∧ p.report = t.report ∧
      c.options.configure p.model = .ok t.model ∧
      Backend.choose c.options.solver env = .ok t.backend := by
  simp only [task, bind_eq_ok, pure_eq_ok, mapError_eq_ok]
  constructor
  · rintro ⟨p, hp, model, hmodel, backend, hbackend, rfl⟩
    exact ⟨p, hp, rfl, hmodel, hbackend⟩
  · rintro ⟨p, hp, hreport, hmodel, hbackend⟩
    refine ⟨p, hp, t.model, hmodel, t.backend, hbackend, ?_⟩
    rw [hreport]

variable {m : Type → Type} [Monad m] [LawfulMonad m]

theorem runWith_of_argumentFault {c : Command} {fault : RunFault}
    (h : c.argumentFault = some fault) (table : Report.TableWriter) (w : World m) :
    c.runWith table w = pure { fault := some fault } := by
  cases c with
  | simpleMip o => cases h
  | assignment size feasibility o =>
    by_cases hsize : size = 0
    · rw [argumentFault, if_pos hsize] at h
      simp [runWith, check, report, problem, hsize, ← Option.some.inj h]
    · rw [argumentFault, if_neg hsize] at h
      cases h
  | knapsack capacity o =>
    have hcheck : (knapsack capacity o).check = some fault := h
    rw [runWith, hcheck]

theorem runWith_of_task {c : Command} {w : World m} {t : Task} (hargument : c.argumentFault = none)
    (ht : c.task w.env = .ok t) (table : Report.TableWriter) :
    c.runWith table w = do
      let (result, log) ← w.solve t.backend t.model
      let log := SolveOptions.chosenEvent t.backend :: log
      match result.bind t.report with
      | .error e => return { log, fault := some (.model e) }
      | .ok report =>
        let text := report.textWith table
        let (effects, fault) ← Effect.performAll w.perform (c.options.delivery text)
        return { log, effects, fault } := by
  obtain ⟨hcheck, -⟩ := exists_problem hargument
  obtain ⟨p, hp, hreport, hmodel, hbackend⟩ := task_eq_ok.mp ht
  have hmapped (result : Except Error (Solution Float)) :
      ((result.mapError RunFault.model).bind fun s => (p.report s).mapError .model) =
        (result.bind t.report).mapError .model := by
    rw [← hreport]
    cases result <;> rfl
  simp only [runWith, hcheck, report, hp, SolveOptions.report,
    SolveOptions.solve_of_chosen hmodel hbackend, bind_assoc, pure_bind, hmapped]
  refine bind_congr fun x => ?_
  cases x.1.bind t.report <;> rfl

theorem runWith_of_early {c : Command} {w : World m} {fault : RunFault}
    (h : (c.earlyStages w.env).findSome? id = some fault) (table : Report.TableWriter) :
    c.runWith table w = pure { fault := some fault } := by
  cases hargument : c.argumentFault with
  | some first =>
    rw [earlyStages, List.findSome?_cons, hargument] at h
    rw [runWith_of_argumentFault hargument, Option.some.inj h]
  | none =>
    obtain ⟨hcheck, p, hp⟩ := exists_problem hargument
    cases hlimit : c.options.limitFault with
    | some first =>
      simp only [earlyStages, List.findSome?_cons, hargument, hlimit, id] at h
      have hrefused := SolveOptions.configure_of_limitFault hlimit p.model
      simp [runWith, hcheck, report, hp, SolveOptions.report,
        SolveOptions.solve_of_refused hrefused, Except.bind, ← Option.some.inj h]
    | none =>
      obtain ⟨model, hmodel⟩ := SolveOptions.exists_configure hlimit p.model
      simp only [earlyStages, List.findSome?_cons, hargument, hlimit, id] at h
      cases hbackend : c.options.backendFault w.env with
      | none => simp [hbackend] at h
      | some first =>
        obtain ⟨cause, hcause, rfl⟩ := SolveOptions.choose_of_backendFault hbackend
        simp only [hbackend] at h
        simp [runWith, hcheck, report, hp, SolveOptions.report,
          SolveOptions.solve_of_unchosen hmodel hcause, Except.bind, ← Option.some.inj h]

theorem exists_task {c : Command} {env : EnvValue}
    (h : (c.earlyStages env).findSome? id = none) :
    c.argumentFault = none ∧ ∃ t, c.task env = .ok t := by
  obtain ⟨hargument, hlimit, hbackend⟩ : c.argumentFault = none ∧ c.options.limitFault = none ∧
      c.options.backendFault env = none := by
    simpa [earlyStages] using h
  obtain ⟨-, p, hp⟩ := exists_problem hargument
  obtain ⟨model, hmodel⟩ := SolveOptions.exists_configure hlimit p.model
  obtain ⟨backend, hchoose⟩ := SolveOptions.exists_choose hbackend
  exact ⟨hargument, ⟨backend, model, p.report⟩, task_eq_ok.mpr ⟨p, hp, rfl, hmodel, hchoose⟩⟩

end Command

/-! ## From the solver on -/

def Command.runIn {S : Type} (c : Command) (w : Surroundings S) (s : Outside S) : Run × Outside S :=
  (c.runWith w.table w.world).run s

/-- A text in the file that was asked for, or else behind what was printed before. -/
def SolveOptions.received {S : Type} (o : SolveOptions) (text : String) (s : Outside S) :
    Outside S :=
  match o.reportPath with
  | none => { s with stdout := s.stdout ++ text }
  | some path => { s with files := Function.update s.files path (some text) }

section Outside

variable {S : Type} {w : Surroundings S} {s : Outside S} {c : Command} {t : Task}

theorem Surroundings.perform_of_taken {e : Effect} (h : w.refuse e s = none) :
    w.perform e s = (.ok (), e.act s) := by
  rw [perform, h]

theorem Surroundings.perform_of_refused {e : Effect} {cause : FileFault} {n : Nat}
    (h : w.refuse e s = some (cause, n)) :
    w.perform e s = (.error cause, (e.cut n).elim s (·.act s)) := by
  rw [perform, h]

theorem Effect.performAll_of_taken {e : Effect} (h : w.refuse e s = none) (es : List Effect) :
    Effect.performAll w.perform (e :: es) s =
      let rest := Effect.performAll w.perform es (e.act s)
      ((e :: rest.1.1, rest.1.2), rest.2) := by
  rw [performAll]
  simp only [bind, StateT.bind, Surroundings.perform_of_taken h]
  rfl

theorem Effect.performAll_of_refused {e : Effect} {cause : FileFault} {n : Nat}
    (h : w.refuse e s = some (cause, n)) (es : List Effect) :
    Effect.performAll w.perform (e :: es) s =
      (([], some (e.fault cause)), (e.cut n).elim s (·.act s)) := by
  rw [performAll]
  simp only [bind, StateT.bind, Surroundings.perform_of_refused h]
  rfl

/-- From the solver on, a run is what the solver answers and then what becomes of the report. -/
theorem Command.runIn_of_task (hargument : c.argumentFault = none) (ht : c.task w.env = .ok t) :
    ((c.runIn w s).1.fault, (c.runIn w s).2) =
      match w.reported t s with
      | .error e => (some (.model e), w.solved t s)
      | .ok report =>
        let delivered :=
          Effect.performAll w.perform (c.options.delivery (w.text report)) (w.solved t s)
        (delivered.1.2, delivered.2) := by
  have hrun : c.runIn w s = c.runWith w.table w.world s := rfl
  have hsolve : w.world.solve t.backend t.model s =
      (((w.outcome t s).result, (w.outcome t s).log), w.solved t s) := rfl
  have hreported : (w.outcome t s).result.bind t.report = w.reported t s := rfl
  rw [hrun, runWith_of_task hargument ht w.table]
  simp only [bind, StateT.bind, hsolve, hreported]
  cases w.reported t s <;> rfl

theorem Task.deliver_print {o : SolveOptions} (hpath : o.reportPath = none) {report : Report Float}
    (hreported : w.reported t s = .ok report) :
    let delivered := Effect.performAll w.perform (o.delivery (w.text report)) (w.solved t s)
    delivered.1.2 = [t.createFault o w s, t.writeFault o w s].findSome? id ∧
    (delivered.1.2 = none → delivered.2 = o.received (w.text report) (w.solved t s)) := by
  simp only [SolveOptions.delivery, createFault, writeFault, SolveOptions.received, hpath,
    hreported]
  cases hprint : w.refuse (.print (w.text report)) (w.solved t s) with
  | none =>
    rw [Effect.performAll_of_taken hprint]
    simp only [Except.toOption, Option.bind_eq_bind, Option.bind_none, Option.bind_some, hprint]
    exact ⟨rfl, fun _ => rfl⟩
  | some refusal =>
    rw [Effect.performAll_of_refused hprint]
    simp only [Except.toOption, Option.bind_eq_bind, Option.bind_none, Option.bind_some, hprint]
    exact ⟨rfl, fun h => by cases h⟩

/-- The file is made, which empties it, before it is written. -/
theorem Task.deliver_file {o : SolveOptions} {path : String} (hpath : o.reportPath = some path)
    {report : Report Float} (hreported : w.reported t s = .ok report) :
    let delivered := Effect.performAll w.perform (o.delivery (w.text report)) (w.solved t s)
    delivered.1.2 = [t.createFault o w s, t.writeFault o w s].findSome? id ∧
    (delivered.1.2 = none → delivered.2 = o.received (w.text report) (w.solved t s)) := by
  simp only [SolveOptions.delivery, createFault, writeFault, SolveOptions.received, hpath,
    hreported]
  cases hcreate : w.refuse (.create path) (w.solved t s) with
  | some refusal =>
    rw [Effect.performAll_of_refused hcreate]
    simp only [Option.bind_eq_bind, Option.bind_some, hcreate]
    exact ⟨rfl, fun h => by cases h⟩
  | none =>
    simp only [Effect.performAll_of_taken hcreate, Option.bind_eq_bind, Option.bind_some, hcreate]
    cases hwrite :
        w.refuse (.write path (w.text report)) ((Effect.create path).act (w.solved t s)) with
    | some refusal =>
      rw [Effect.performAll_of_refused hwrite]
      simp only [Except.toOption, Option.bind_some, hwrite]
      exact ⟨rfl, fun h => by cases h⟩
    | none =>
      rw [Effect.performAll_of_taken hwrite]
      simp only [Except.toOption, Option.bind_some, hwrite]
      refine ⟨rfl, fun _ => ?_⟩
      simp [Effect.performAll, Effect.act, pure, StateT.pure]

theorem Task.deliver (t : Task) (o : SolveOptions) {report : Report Float}
    (hreported : w.reported t s = .ok report) :
    let delivered := Effect.performAll w.perform (o.delivery (w.text report)) (w.solved t s)
    delivered.1.2 = [t.createFault o w s, t.writeFault o w s].findSome? id ∧
    (delivered.1.2 = none → delivered.2 = o.received (w.text report) (w.solved t s)) := by
  cases hpath : o.reportPath with
  | none => exact deliver_print hpath hreported
  | some path => exact deliver_file hpath hreported

theorem Command.stages_of_task (ht : c.task w.env = .ok t) :
    c.stages w s = c.earlyStages w.env ++
      [t.solveFault w s, t.createFault c.options w s, t.writeFault c.options w s] := by
  rw [stages, ht]

theorem Command.runIn_of_early {fault : RunFault}
    (h : (c.earlyStages w.env).findSome? id = some fault) :
    c.runIn w s = ({ fault := some fault }, s) := by
  rw [runIn, runWith_of_early h w.table]
  rfl

theorem Command.take_stages : (c.stages w s).take 3 = c.earlyStages w.env := by
  rw [stages, List.take_append_of_le_length (Nat.le_refl 3)]
  rfl

theorem Command.runIn_of_unsolved (hargument : c.argumentFault = none)
    (ht : c.task w.env = .ok t) {e : Error} (he : w.reported t s = .error e) :
    (c.runIn w s).1.fault = some (.model e) ∧ (c.runIn w s).2 = w.solved t s := by
  have hrun := runIn_of_task (s := s) hargument ht
  rw [he] at hrun
  exact Prod.mk.inj hrun

theorem Command.runIn_of_solved (hargument : c.argumentFault = none) (ht : c.task w.env = .ok t)
    {report : Report Float} (hreported : w.reported t s = .ok report) :
    (c.runIn w s).1.fault =
      [t.createFault c.options w s, t.writeFault c.options w s].findSome? id ∧
    ((c.runIn w s).1.fault = none →
      (c.runIn w s).2 = c.options.received (w.text report) (w.solved t s)) := by
  have hrun := runIn_of_task (s := s) hargument ht
  rw [hreported] at hrun
  obtain ⟨hfault, hafter⟩ := Prod.mk.inj hrun
  obtain ⟨hfirst, hreceived⟩ := t.deliver c.options hreported
  rw [hfault, hafter]
  exact ⟨hfirst, hreceived⟩

end Outside

end LinearModel
