import Mathlib.Data.List.Infix
import LinearModel.Proofs.Arrays
import LinearModel.Proofs.Runs
import LinearModel.Boundary.Journal

/-!
# The journal of successive runs

Whatever models recording solvers run one after another on one journal, after every run the journal
holds one segment of calls for each run that got an instance, and everything made was released. A
run that is refused leaves the journal as it was.
-/

namespace LinearModel

variable {R : Type}

namespace Journal

def Holds (j : Journal R) (instances results : Int) : Prop :=
  j.liveInstances = instances ∧ j.liveResults = results

def NonNegative (j : Journal R) : Prop :=
  0 ≤ j.liveInstances ∧ 0 ≤ j.liveResults

namespace Holds

variable {j : Journal R} {a b : Int}

theorem nonNegative (h : j.Holds a b) (ha : 0 ≤ a) (hb : 0 ≤ b) : j.NonNegative := by
  obtain ⟨rfl, rfl⟩ := h
  exact ⟨ha, hb⟩

theorem addInstance (h : j.Holds a b) : j.addInstance.Holds (a + 1) b :=
  ⟨congrArg (· + 1) h.1, h.2⟩

theorem addResult (h : j.Holds a b) : j.addResult.Holds a (b + 1) :=
  ⟨h.1, congrArg (· + 1) h.2⟩

theorem dropResult (h : j.Holds a b) : j.dropResult.Holds a (b - 1) :=
  ⟨h.1, congrArg (· - 1) h.2⟩

theorem dropInstance (h : j.Holds a b) : j.dropInstance.Holds (a - 1) b :=
  ⟨congrArg (· - 1) h.1, h.2⟩

end Holds

theorem foldl_record (j : Journal R) (calls : List (Call R)) :
    calls.foldl record j = { j with calls := j.calls ++ calls } := by
  induction calls generalizing j with
  | nil => simp
  | cons c calls ih => simp [ih, record]

end Journal

namespace Script

variable [Scalar R]

/-- The run gets an instance: the model can be flattened, and there is a response. -/
def accepts (s : Script R) (m : Model R) : Bool :=
  m.flatten.isOk && s.response.isSome

def segment (s : Script R) (m : Model R) : List (Call R) :=
  if s.accepts m then m.calls ++ [.optimize] else []

def verdict (s : Script R) (m : Model R) : Except Error (Solution R) :=
  match m.flatten, s.response with
  | .error fault, _ => .error fault.toError
  | .ok _, none => .error (.backend s.refusal)
  | .ok _, some r =>
    if r.code ≠ 0 then .error (.optimize ⟨r.code, r.message⟩)
    else .ok ⟨r.values, r.objective, r.optimal, r.gap⟩

def journalOf (runs : List (Script R × Model R)) : Journal R where
  calls := runs.flatMap fun (s, m) => s.segment m
  created := runs.countP fun (s, m) => s.accepts m
  liveInstances := 0
  liveResults := 0

theorem run_result (s : Script R) (m : Model R) (j : Journal R) :
    (s.solver.run m j).result = s.verdict m := by
  unfold Solver.run verdict
  cases m.flatten with
  | error fault => rfl
  | ok flat =>
    simp only [solver, create]
    cases hresponse : s.response with
    | none => rfl
    | some r =>
      simp only [answer, hresponse, Option.getD_some, RawResult.toSolution, Failure.noError]
      by_cases hcode : r.code = 0
      · rw [if_pos hcode, if_neg (not_not.mpr hcode)]
      · rw [if_neg hcode, if_pos hcode]

theorem run_state (s : Script R) (m : Model R) (j : Journal R) :
    (s.solver.run m j).state =
      { j with
        calls := j.calls ++ s.segment m
        created := j.created + if s.accepts m then 1 else 0 } := by
  unfold Solver.run segment accepts
  cases hflat : m.flatten with
  | error fault => simp [Except.isOk, Except.toBool]
  | ok flat =>
    obtain ⟨-, rfl⟩ := Model.flatten_eq_ok_iff.mp hflat
    simp only [solver, create]
    cases s.response with
    | none => simp
    | some r =>
      rw [m.calls_arrays]
      simp [Except.isOk, Except.toBool, Journal.foldl_record, Journal.addInstance,
        Journal.addResult, Journal.record, Journal.dropResult, Journal.dropInstance]

theorem run_journalOf (s : Script R) (m : Model R) (past : List (Script R × Model R)) :
    (s.solver.run m (journalOf past)).state = journalOf (past ++ [(s, m)]) := by
  rw [run_state, journalOf, journalOf, List.flatMap_append, List.countP_append]
  simp [List.countP_cons]

theorem runs_state (past runs : List (Script R × Model R)) :
    (Solver.runs (runs.map fun (s, m) => (s.solver, m)) (journalOf past)).map (·.state) =
      runs.inits.tail.map fun later => journalOf (past ++ later) := by
  induction runs generalizing past with
  | nil => rfl
  | cons run runs ih =>
    obtain ⟨s, m⟩ := run
    -- Every later prefix starts with this run.
    have htail : runs.inits = [] :: runs.inits.tail := by cases runs <;> rfl
    rw [List.map_cons, Solver.runs, List.map_cons, run_journalOf, ih, List.inits_cons,
      List.tail_cons, List.map_map, htail]
    simp [Function.comp_def]

theorem runs_result (runs : List (Script R × Model R)) (j : Journal R) :
    (Solver.runs (runs.map fun (s, m) => (s.solver, m)) j).map (·.result) =
      runs.map fun (s, m) => s.verdict m := by
  induction runs generalizing j with
  | nil => rfl
  | cons run runs ih =>
    obtain ⟨s, m⟩ := run
    rw [List.map_cons, Solver.runs, List.map_cons, run_result, ih, List.map_cons]

/-- Between its calls a run holds one instance, after the answer also a result, and in the end
nothing. -/
theorem traced_run_nonNegative (s : Script R) (m : Model R) {state : Journal R × List (Journal R)}
    (hstate : state.1.Holds 0 0) (hpast : ∀ j ∈ state.2, j.NonNegative) :
    (s.solver.traced.run m state).state.1.Holds 0 0 ∧
    ∀ j ∈ (s.solver.traced.run m state).state.2, j.NonNegative := by
  unfold Solver.run
  cases m.flatten with
  | error fault => exact ⟨hstate, hpast⟩
  | ok flat =>
    have hcreate : s.solver.traced.create state =
        (s.create state.1).map (Solver.traced.enter state) := rfl
    simp only [hcreate, create]
    cases s.response with
    | none => exact ⟨hstate, hpast⟩
    | some r =>
      let made := Solver.traced.enter state state.1.addInstance
      let called := (flat.calls m.settings).foldl s.solver.traced.call made
      have hmade : made.1.Holds 1 0 := hstate.addInstance
      have hopen (j : Journal R) (hj : j.Holds 1 0) : j.NonNegative :=
        hj.nonNegative (by omega) le_rfl
      obtain ⟨hcalled, htrace⟩ := s.solver.forall_mem_foldl_traced_call hopen (fun _ _ hj => hj)
        (flat.calls m.settings) made hmade (Solver.forall_mem_enter hpast (hopen _ hmade))
      have hanswered : called.1.addResult.Holds 1 1 := hcalled.addResult
      have hreleased : called.1.addResult.dropResult.Holds 1 0 := hanswered.dropResult
      have hdone : called.1.addResult.dropResult.dropInstance.Holds 0 0 := hreleased.dropInstance
      refine ⟨hdone, ?_⟩
      apply Solver.forall_mem_enter
      · apply Solver.forall_mem_enter
        · apply Solver.forall_mem_enter htrace
          exact hanswered.nonNegative (by omega) (by omega)
        · exact hopen _ hreleased
      · exact hdone.nonNegative le_rfl le_rfl

theorem traced_runs_nonNegative (runs : List (Script R × Model R))
    {state : Journal R × List (Journal R)} (hstate : state.1.Holds 0 0)
    (hpast : ∀ j ∈ state.2, j.NonNegative) :
    ∀ o ∈ Solver.runs (runs.map fun (s, m) => (s.solver.traced, m)) state,
      ∀ j ∈ o.state.2, j.NonNegative := by
  induction runs generalizing state with
  | nil => simp [Solver.runs]
  | cons run runs ih =>
    obtain ⟨s, m⟩ := run
    obtain ⟨hnext, htrace⟩ := traced_run_nonNegative s m hstate hpast
    rw [List.map_cons, Solver.runs]
    exact List.forall_mem_cons.mpr ⟨htrace, ih hnext htrace⟩

/-- Over successive runs on one journal, whatever each of them solves and answers: the journal after
every run, every result, and the live counts at every moment of the same runs when traced. -/
theorem runs_keep_journal (runs : List (Script R × Model R)) :
    let outcomes := Solver.runs (runs.map fun (s, m) => (s.solver, m)) .empty
    let traced := Solver.runs (runs.map fun (s, m) => (s.solver.traced, m)) (.empty, [])
    outcomes.map (·.state) = runs.inits.tail.map journalOf ∧
    outcomes.map (·.result) = runs.map (fun (s, m) => s.verdict m) ∧
    traced.map (fun o => (o.result, o.log, o.state.1)) =
      outcomes.map (fun o => (o.result, o.log, o.state)) ∧
    ∀ o ∈ traced, ∀ j ∈ o.state.2, 0 ≤ j.liveInstances ∧ 0 ≤ j.liveResults := by
  intro outcomes traced
  have htraced := Solver.traced_runs (runs.map fun (s, m) => (s.solver, m)) (.empty, [])
  rw [List.map_map] at htraced
  refine ⟨?_, runs_result runs .empty, htraced, ?_⟩
  · exact runs_state [] runs
  · exact traced_runs_nonNegative runs ⟨rfl, rfl⟩ (List.forall_mem_nil _)

end Script

end LinearModel
