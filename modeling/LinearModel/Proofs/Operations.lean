import Mathlib.Data.List.Infix
import LinearModel.Proofs.Built
import LinearModel.Boundary.Solver

/-!
# Sequences of operations

Operations on a model, in any order and number. Each answers, and changes one part of the model at
most: variables, constraints and their numbers are only ever added, so whatever an answer named is
still there after all later operations.
-/

namespace LinearModel

/-- An operation with all that it is given. Flattening and solving only look at the model, whatever
state the solver is in. -/
inductive Operation (R : Type) : Type 1 where
  | addVar (lower upper : R) (kind : VarKind)
  | addBinaryVar
  | addVarVector (num : Nat) (lower upper : R) (kind : VarKind)
  | addBinaryVarVector (num : Nat)
  | addVarMatrix (rows cols : Nat) (lower upper : R) (kind : VarKind)
  | addBinaryVarMatrix (rows cols : Nat)
  | addConstraint (c : Constraint R)
  | setObjective (expr : Expr R) (sense : Direction)
  | showLog (value : Bool)
  | setTimeLimit (limit : Duration)
  | setScaling (mode : ScaleMode)
  | flatten
  | solve {S : Type} (solver : Solver R S) (state : S)

inductive Answer (R : Type) where
  | done
  | var (v : Var R)
  | vector (vars : List (Var R))
  | matrix (rows : List (List (Var R)))
  | constraint (id : ConstraintId)
  | flat (result : Except ModelFault (FlatModel R))
  | solved (result : Except Error (Solution R))

def Answer.cells {R : Type} : Answer R → List (List (Var R))
  | var v => [[v]]
  | vector vars => [vars]
  | matrix rows => rows
  | _ => []

/-- A matrix of variables that share bounds and kind. -/
structure Request (R : Type) where
  rows : Nat
  cols : Nat
  lower : R
  upper : R
  kind : VarKind

variable {R : Type}

/-- The cells are numbered from `n` row after row and have the bounds asked for unless they are
binary. -/
structure Request.Filled (q : Request R) (n : Nat) (cells : List (List (Var R))) : Prop where
  rows : cells.length = q.rows
  cols : ∀ row ∈ cells, row.length = q.cols
  cell : ∀ r c, r < q.rows → c < q.cols → ∃ v, (cells[r]?.bind (·[c]?)) = some v ∧
    v.id = n + r * q.cols + c ∧ v.kind = q.kind ∧
    (q.kind ≠ .binary → v.lower = q.lower ∧ v.upper = q.upper)

namespace Model

variable [Scalar R]

theorem addVarMatrix_fst (m : Model R) (rows cols : Nat) (lower upper : R) (kind : VarKind) :
    (m.addVarMatrix rows cols lower upper kind).1 =
      (List.range rows).map fun r => makeVars (m.vars.length + r * cols) cols lower upper kind := by
  induction rows generalizing m with
  | zero => rfl
  | succ rows ih =>
    have hstep : (m.addVarMatrix (rows + 1) cols lower upper kind).1 =
        makeVars m.vars.length cols lower upper kind ::
          ((m.addVarVector cols lower upper kind).2.addVarMatrix rows cols lower upper kind).1 :=
      rfl
    have hlen : (m.addVarVector cols lower upper kind).2.vars.length = m.vars.length + cols := by
      simp [addVarVector_snd, makeVars]
    have hstart (r : Nat) : m.vars.length + cols + r * cols = m.vars.length + (r + 1) * cols := by
      ring
    rw [hstep, ih, hlen, List.range_succ_eq_map, List.map_cons, List.map_map]
    simp only [hstart, Function.comp_def, Nat.succ_eq_add_one, Nat.zero_mul, Nat.add_zero]

theorem getElem_makeVars {start num i id : Nat} (hid : start + i = id) (lower upper : R)
    (kind : VarKind) (h : i < (makeVars start num lower upper kind).length) :
    (makeVars start num lower upper kind)[i] = makeVar id lower upper kind := by
  simp [makeVars, hid]

/-- Every variable was made in its place. -/
def Made (m : Model R) : Prop :=
  ∀ (i : Nat) (h : i < m.vars.length), ∃ lower upper kind, m.vars[i] = makeVar i lower upper kind

theorem made_empty : (empty : Model R).Made :=
  fun i h => absurd h (Nat.not_lt_zero i)

end Model

namespace Request

variable [Scalar R]

def fill (q : Request R) (n : Nat) : List (List (Var R)) :=
  (List.range q.rows).map fun r =>
    Model.makeVars (n + r * q.cols) q.cols q.lower q.upper q.kind

theorem filled_fill (q : Request R) (n : Nat) : q.Filled n (q.fill n) where
  rows := by simp [fill]
  cols := by simp [fill, Model.makeVars]
  cell := by
    intro r c hr hc
    refine ⟨Model.makeVar (n + r * q.cols + c) q.lower q.upper q.kind, ?_, ?_, ?_⟩
    · simp [fill, Model.makeVars, hr, hc]
    · exact Model.makeVar_id _ _ _ _
    · cases q.kind with
      | continuous | integer => exact ⟨rfl, fun _ => ⟨rfl, rfl⟩⟩
      | binary => exact ⟨rfl, fun h => absurd rfl h⟩

theorem flatten_fill (q : Request R) (n : Nat) :
    (q.fill n).flatten = Model.makeVars n (q.rows * q.cols) q.lower q.upper q.kind := by
  obtain ⟨rows, cols, lower, upper, kind⟩ := q
  simp only [fill]
  induction rows with
  | zero => simp [Model.makeVars]
  | succ rows ih =>
    rw [List.range_succ, List.map_append, List.flatten_append, ih, Nat.succ_mul,
      ← Model.makeVars_append]
    simp

end Request

namespace Operation

def constraint? : Operation R → Option (Constraint R)
  | addConstraint c => some c
  | _ => none

def objective? : Operation R → Option (Objective R)
  | setObjective expr sense => some ⟨expr, sense⟩
  | _ => none

def configure (s : Settings) : Operation R → Settings
  | showLog value => { s with showLog := value }
  | setTimeLimit limit => { s with timeLimit := limit }
  | setScaling mode => { s with scaling := some mode }
  | _ => s

variable [Scalar R]

/-- The variables asked for: a single one is a matrix of one cell, a vector one of one row. -/
def request? : Operation R → Option (Request R)
  | addVar lower upper kind => some ⟨1, 1, lower, upper, kind⟩
  | addBinaryVar => some ⟨1, 1, 0, 1, .binary⟩
  | addVarVector num lower upper kind => some ⟨1, num, lower, upper, kind⟩
  | addBinaryVarVector num => some ⟨1, num, 0, 1, .binary⟩
  | addVarMatrix rows cols lower upper kind => some ⟨rows, cols, lower, upper, kind⟩
  | addBinaryVarMatrix rows cols => some ⟨rows, cols, 0, 1, .binary⟩
  | _ => none

def perform (m : Model R) : Operation R → Answer R × Model R
  | addVar lower upper kind => (m.addVar lower upper kind).map .var id
  | addBinaryVar => m.addBinaryVar.map .var id
  | addVarVector num lower upper kind => (m.addVarVector num lower upper kind).map .vector id
  | addBinaryVarVector num => (m.addBinaryVarVector num).map .vector id
  | addVarMatrix rows cols lower upper kind =>
    (m.addVarMatrix rows cols lower upper kind).map .matrix id
  | addBinaryVarMatrix rows cols => (m.addBinaryVarMatrix rows cols).map .matrix id
  | addConstraint c => (m.addConstraint c).map .constraint id
  | setObjective expr sense => (.done, m.setObjective expr sense)
  | showLog value => (.done, m.showLog value)
  | setTimeLimit limit => (.done, m.setTimeLimit limit)
  | setScaling mode => (.done, m.setScaling mode)
  | flatten => (.flat m.flatten, m)
  | solve solver state => (.solved (solver.run m state).result, m)

/-- What an operation does to a model `m` with an answer, and what it leaves alone. -/
structure Effect (m : Model R) (op : Operation R) (answer : Answer R) (next : Model R) :
    Prop where
  cells : answer.cells = op.request?.elim [] (·.fill m.vars.length)
  vars : next.vars = m.vars ++ answer.cells.flatten
  constraints : next.constraints = m.constraints ++ op.constraint?.toList
  objective : next.objective = op.objective?.or m.objective
  settings : next.settings = op.configure m.settings

theorem effect_of_request {m next : Model R} {op : Operation R} {q : Request R} {answer : Answer R}
    (hrequest : op.request? = some q) (hconstraint : op.constraint? = none)
    (hobjective : op.objective? = none) (hsettings : op.configure m.settings = m.settings)
    (hcells : answer.cells = q.fill m.vars.length)
    (hnext : next = (m.addVarVector (q.rows * q.cols) q.lower q.upper q.kind).2) :
    op.Effect m answer next := by
  subst hnext
  rw [Model.addVarVector_snd]
  constructor
  · rw [hcells, hrequest, Option.elim_some]
  · rw [hcells, Request.flatten_fill]
  · rw [hconstraint, Option.toList_none, List.append_nil]
  · rw [hobjective, Option.none_or]
  · rw [hsettings]

theorem perform_effect (m : Model R) (op : Operation R) :
    op.Effect m (op.perform m).1 (op.perform m).2 := by
  have hrow (num : Nat) (lower upper : R) (kind : VarKind) :
      [Model.makeVars m.vars.length num lower upper kind] =
        Request.fill ⟨1, num, lower, upper, kind⟩ m.vars.length := by
    simp [Request.fill]
  have hnext (num : Nat) (lower upper : R) (kind : VarKind) :
      (m.addVarVector num lower upper kind).2 =
        (m.addVarVector (1 * num) lower upper kind).2 := by
    rw [Nat.one_mul]
  cases op with
  | addVar lower upper kind =>
    exact effect_of_request rfl rfl rfl rfl (hrow 1 lower upper kind) (hnext 1 lower upper kind)
  | addBinaryVar =>
    exact effect_of_request rfl rfl rfl rfl (hrow 1 0 1 .binary) (hnext 1 0 1 .binary)
  | addVarVector num lower upper kind =>
    exact effect_of_request rfl rfl rfl rfl (hrow num lower upper kind) (hnext num lower upper kind)
  | addBinaryVarVector num =>
    exact effect_of_request rfl rfl rfl rfl (hrow num 0 1 .binary) (hnext num 0 1 .binary)
  | addVarMatrix rows cols lower upper kind =>
    exact effect_of_request rfl rfl rfl rfl (m.addVarMatrix_fst rows cols lower upper kind)
      (m.addVarMatrix_snd rows cols lower upper kind)
  | addBinaryVarMatrix rows cols =>
    exact effect_of_request rfl rfl rfl rfl (m.addVarMatrix_fst rows cols 0 1 .binary)
      (m.addVarMatrix_snd rows cols 0 1 .binary)
  | addConstraint c => exact ⟨rfl, (List.append_nil _).symm, rfl, rfl, rfl⟩
  | setObjective _ _ | showLog _ | setTimeLimit _ | setScaling _ | flatten | solve _ _ =>
    exact ⟨rfl, (List.append_nil _).symm, (List.append_nil _).symm, rfl, rfl⟩

end Operation

namespace Model

variable [Scalar R]

def after (m : Model R) (ops : List (Operation R)) : Model R :=
  ops.foldl (fun m op => (op.perform m).2) m

theorem after_append (m : Model R) (before later : List (Operation R)) :
    m.after (before ++ later) = (m.after before).after later :=
  List.foldl_append

theorem Made.perform {m : Model R} (hm : m.Made) (op : Operation R) : (op.perform m).2.Made := by
  have heffect := op.perform_effect m
  have hvars := heffect.vars
  rw [heffect.cells] at hvars
  cases hrequest : op.request? with
  | none =>
    rw [hrequest, Option.elim_none, List.flatten_nil, List.append_nil] at hvars
    simpa only [Made, hvars] using hm
  | some q =>
    rw [hrequest, Option.elim_some, Request.flatten_fill] at hvars
    intro i hi
    simp only [hvars] at hi ⊢
    by_cases hold : i < m.vars.length
    · rw [List.getElem_append_left hold]
      exact hm i hold
    · -- what comes after the old variables is the matrix laid out as one row
      rw [List.getElem_append_right (Nat.le_of_not_lt hold)]
      exact ⟨q.lower, q.upper, q.kind, getElem_makeVars (by omega) _ _ _ _⟩

theorem Made.after {m : Model R} (hm : m.Made) (ops : List (Operation R)) : (m.after ops).Made := by
  induction ops generalizing m with
  | nil => exact hm
  | cons op ops ih => exact ih (hm.perform op)

theorem vars_prefix_after (m : Model R) (ops : List (Operation R)) :
    m.vars <+: (m.after ops).vars := by
  induction ops generalizing m with
  | nil => exact List.prefix_refl _
  | cons op ops ih =>
    have hstep : m.vars <+: (op.perform m).2.vars := ⟨_, (op.perform_effect m).vars.symm⟩
    exact hstep.trans (ih (op.perform m).2)

theorem constraints_after (m : Model R) (ops : List (Operation R)) :
    (m.after ops).constraints = m.constraints ++ ops.filterMap Operation.constraint? := by
  induction ops generalizing m with
  | nil => exact (List.append_nil _).symm
  | cons op ops ih =>
    have hafter : (m.after (op :: ops)).constraints = _ := ih (op.perform m).2
    rw [hafter, (op.perform_effect m).constraints, List.append_assoc, List.filterMap_cons]
    cases op.constraint? <;> rfl

theorem objective_after (m : Model R) (ops : List (Operation R)) :
    (m.after ops).objective = (ops.filterMap Operation.objective?).getLast?.or m.objective := by
  induction ops generalizing m with
  | nil => rfl
  | cons op ops ih =>
    have hafter : (m.after (op :: ops)).objective = _ := ih (op.perform m).2
    rw [hafter, (op.perform_effect m).objective, ← Option.or_assoc, List.filterMap_cons]
    cases op.objective? with
    | none => simp
    | some o => simp [List.getLast?_cons]

theorem Made.id_getElem {m : Model R} (hm : m.Made) {i : Nat} (h : i < m.vars.length) :
    m.vars[i].id = i := by
  obtain ⟨lower, upper, kind, heq⟩ := hm i h
  rw [heq, makeVar_id]

theorem Made.getElem?_id {m : Model R} (hm : m.Made) {v : Var R} (hv : v ∈ m.vars) :
    m.vars[v.id]? = some v := by
  obtain ⟨i, hi, rfl⟩ := List.mem_iff_getElem.mp hv
  rw [hm.id_getElem hi, List.getElem?_eq_getElem hi]

theorem Made.bounds_of_binary {m : Model R} (hm : m.Made) {v : Var R} (hv : v ∈ m.vars)
    (hkind : v.kind = .binary) : v.lower = 0 ∧ v.upper = 1 := by
  obtain ⟨i, hi, rfl⟩ := List.mem_iff_getElem.mp hv
  obtain ⟨lower, upper, kind, heq⟩ := hm i hi
  rw [heq] at hkind ⊢
  cases kind with
  | continuous | integer => cases hkind
  | binary => exact ⟨rfl, rfl⟩

/-- What was there after some operations is still there after all of them. -/
theorem operations_keep_store (ops : List (Operation R)) :
    (∀ (i : Nat) (h : i < (empty.after ops).vars.length), (empty.after ops).vars[i].id = i) ∧
    (∀ v ∈ (empty.after ops).vars, v.kind = .binary → v.lower = 0 ∧ v.upper = 1) ∧
    (empty.after ops).objective = (ops.filterMap Operation.objective?).getLast? ∧
    ∀ (before later : List (Operation R)) (op : Operation R), ops = before ++ op :: later →
      let m := empty.after before
      let answer := (op.perform m).1
      op.Effect m answer (op.perform m).2 ∧
      (∀ q, op.request? = some q → q.Filled m.vars.length answer.cells) ∧
      (∀ v ∈ answer.cells.flatten, (empty.after ops).vars[v.id]? = some v) ∧
      ∀ c, op.constraint? = some c → ∃ id, answer = .constraint id ∧
        id.index = (before.filterMap Operation.constraint?).length ∧
        (empty.after ops).constraint? id = some c := by
  have hmade := made_empty.after ops
  refine ⟨fun i h => hmade.id_getElem h, fun v hv => hmade.bounds_of_binary hv, ?_, ?_⟩
  · rw [objective_after]
    exact Option.or_none
  · rintro before later op rfl
    have heffect := op.perform_effect (empty.after before)
    have hfinal : empty.after (before ++ op :: later) =
        (op.perform (empty.after before)).2.after later :=
      after_append empty before (op :: later)
    rw [hfinal]
    refine ⟨heffect, fun q hq => ?_, fun v hv => ?_, fun c hc => ?_⟩
    · rw [heffect.cells, hq]
      exact q.filled_fill _
    · -- the variable is in the store right after `op`, and that store is a prefix of the last one
      have hnext := (made_empty.after before).perform op
      have hmem : v ∈ (op.perform (empty.after before)).2.vars := by
        rw [heffect.vars]
        exact List.mem_append_right _ hv
      obtain ⟨new, hnew⟩ := vars_prefix_after (op.perform (empty.after before)).2 later
      obtain ⟨hid, _⟩ := List.getElem?_eq_some_iff.mp (hnext.getElem?_id hmem)
      rw [← hnew, List.getElem?_append_left hid]
      exact hnext.getElem?_id hmem
    · have hbefore : (empty.after before).constraints =
          before.filterMap Operation.constraint? := constraints_after empty before
      obtain rfl : op = .addConstraint c := by cases op <;> cases hc; rfl
      refine ⟨_, rfl, congrArg List.length hbefore, ?_⟩
      simp only [constraint?]
      rw [constraints_after, heffect.constraints, List.append_assoc,
        List.getElem?_append_right (Nat.le_refl _), Nat.sub_self]
      rfl

/-- Cell `(1, 0)` of a matrix that was made after one variable, looked up after more operations. -/
theorem operations_keep_store_sample :
    let before : List (Operation Float) := [.addVar (-1) 4 .integer]
    let later : List (Operation Float) := [.flatten, .addVarVector 2 0 1 .continuous]
    let cell : Var Float := ⟨3, 0, 1, .binary⟩
    cell ∈ ((Operation.addBinaryVarMatrix 2 2).perform (empty.after before)).1.cells.flatten ∧
      (empty.after (before ++ .addBinaryVarMatrix 2 2 :: later)).vars[3]? = some cell := by
  intro before later cell
  have hcell :
      cell ∈ ((Operation.addBinaryVarMatrix 2 2).perform (empty.after before)).1.cells.flatten :=
    List.mem_iff_getElem?.mpr ⟨2, rfl⟩
  obtain ⟨-, -, -, hsteps⟩ :=
    operations_keep_store (before ++ .addBinaryVarMatrix 2 2 :: later)
  obtain ⟨-, -, hhandles, -⟩ := hsteps before later (.addBinaryVarMatrix 2 2) rfl
  exact ⟨hcell, hhandles cell hcell⟩

end Model

end LinearModel
