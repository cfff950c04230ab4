import LinearModel.Proofs.BuiltIn
import LinearModel.Proofs.ExactLoading

/-!
# Column numbers in range

A column number is checked when a call brings it, against the columns that there are by then. Columns
are never taken away and a call that is turned away stores no number, so whatever calls are made, all
numbers that are stored are below the number of columns when the problem is solved.
-/

namespace LinearModel

variable {R : Type}

namespace SparseRow

theorem among_terms {row : SparseRow R} {n : Nat} (h : ∀ i ∈ row.indices, i < n) :
    row.terms.Among {i | i < n} :=
  fun _ ht => h _ (List.of_mem_zip ht).1

end SparseRow

namespace Pending

variable [Scalar R] {p q : Pending R}

theorem nonzero_reduceTerms (lhs rhs : Terms R) : (reduceTerms lhs rhs).Nonzero := by
  intro t ht
  have hkept := (List.mem_filter.mp ht).2
  exact Bool.eq_false_of_not_eq_true' hkept

/-- Rows are in order, and no number that is stored is beyond the columns. -/
structure InRange (p : Pending R) : Prop where
  ascending : ∀ r ∈ p.rows, r.terms.Ascending
  nonzero : ∀ r ∈ p.rows, r.terms.Nonzero
  rows : ∀ r ∈ p.rows, r.terms.Among {i | i < p.numVars}
  objective : ∀ o ∈ p.objective, o.terms.Among {i | i < p.numVars}

theorem inRange_empty : (empty : Pending R).InRange := by
  constructor <;> intro _ h <;> cases h

namespace InRange

/-- Columns can only be added. -/
theorem of_columns (hp : p.InRange) (hcolumns : p.numVars ≤ q.numVars) (hrows : q.rows = p.rows)
    (hobjective : q.objective = p.objective) : q.InRange := by
  constructor
  · rw [hrows]
    exact hp.ascending
  · rw [hrows]
    exact hp.nonzero
  · rw [hrows]
    exact fun r hr t ht => Nat.lt_of_lt_of_le (hp.rows r hr t ht) hcolumns
  · rw [hobjective]
    exact fun o ho t ht => Nat.lt_of_lt_of_le (hp.objective o ho t ht) hcolumns

theorem fail (hp : p.InRange) (fault : CallFault) : (p.fail fault).InRange :=
  hp.of_columns (Nat.le_refl _) rfl rfl

theorem addVars (hp : p.InRange) (lower upper : List R) (kinds : List UInt8) :
    (p.addVars lower upper kinds).InRange := by
  unfold Pending.addVars
  split
  · exact hp.fail _
  · rcases columnsOf (lower.zip (upper.zip kinds)) with ⟨columns, bad⟩
    have hmore : InRange { p with columns := p.columns ++ columns } := by
      refine hp.of_columns ?_ rfl rfl
      simp [numVars]
    cases bad with
    | none => exact hmore
    | some tag => exact hmore.fail _

theorem addConstraint (hp : p.InRange) (lhs rhs : SparseRow R) (sense : UInt8) :
    (p.addConstraint lhs rhs sense).InRange := by
  unfold Pending.addConstraint
  split
  · exact hp.fail _
  · rename_i s hs
    dsimp only
    split
    · exact hp.fail _
    · rename_i hnone
      obtain ⟨hlhs, hrhs⟩ := Option.or_eq_none_iff.mp hnone
      have hamong : (reduceTerms lhs.terms rhs.terms).Among {i | i < p.numVars} :=
        (SparseRow.among_terms (rowFault?_eq_none_iff.mp hlhs)).reduceTerms
          (SparseRow.among_terms (rowFault?_eq_none_iff.mp hrhs))
      have hascending := Terms.ascending_reduceTerms lhs.terms rhs.terms
      have hnonzero := nonzero_reduceTerms lhs.terms rhs.terms
      constructor
      · exact List.forall_mem_append.mpr ⟨hp.ascending, List.forall_mem_singleton.mpr hascending⟩
      · exact List.forall_mem_append.mpr ⟨hp.nonzero, List.forall_mem_singleton.mpr hnonzero⟩
      · exact List.forall_mem_append.mpr ⟨hp.rows, List.forall_mem_singleton.mpr hamong⟩
      · exact hp.objective

theorem setObjective (hp : p.InRange) (row : SparseRow R) (sense : Int) :
    (p.setObjective row sense).InRange := by
  unfold Pending.setObjective
  split
  · exact hp.fail _
  · split
    · exact hp.fail _
    · rename_i hnone
      refine ⟨hp.ascending, hp.nonzero, hp.rows, fun o ho => ?_⟩
      obtain rfl : _ = o := Option.some.inj ho
      exact SparseRow.among_terms (rowFault?_eq_none_iff.mp hnone)

theorem call (hp : p.InRange) (c : Call R) : (p.call c).InRange := by
  cases c with
  | addVars lower upper kinds => exact hp.addVars lower upper kinds
  | addConstraint lhs rhs sense => exact hp.addConstraint lhs rhs sense
  | setObjective row sense => exact hp.setObjective row sense
  | showLog _ | timeLimit _ | scaling _ => exact hp.of_columns (Nat.le_refl _) rfl rfl
  | optimize => exact hp

theorem run (hp : p.InRange) (calls : List (Call R)) : (p.run calls).InRange := by
  induction calls generalizing p with
  | nil => exact hp
  | cons c calls ih => exact ih (hp.call c)

end InRange

end Pending

theorem PendingObjective.evaluate?_eq_ok [Scalar R] {o : PendingObjective R} {values : List R}
    (h : o.terms.Among {i | i < values.length}) : o.evaluate? values = .ok (o.evaluate values) := by
  unfold evaluate?
  rw [List.find?_eq_none.mpr]
  intro t ht
  have hlt : t.1 < values.length := h t ht
  simpa using hlt

theorem Pending.InRange.evaluate?_eq_ok [Scalar R] {p : Pending R} (hp : p.InRange)
    {values : List R} (hvalues : values.length = p.numVars) :
    p.evaluate? values = .ok (p.evaluate values) := by
  unfold Pending.evaluate? Pending.evaluate
  cases hobjective : p.objective with
  | none => rfl
  | some o =>
    have hamong := hp.objective o hobjective
    rw [← hvalues] at hamong
    exact PendingObjective.evaluate?_eq_ok hamong

theorem Optimizer.length_addAll {V P : Type} (opt : Optimizer V P) (pool : P)
    (definitions : List Definition) :
    (opt.addAll pool definitions).1.length = definitions.length := by
  induction definitions generalizing pool with
  | nil => rfl
  | cons d ds ih => exact congrArg Nat.succ (ih _)

namespace Engine

variable {V P : Type} {opt : Optimizer V P} {p : Pending Float}

/-! ## What the engine reads -/

theorem exists_linear {cols : List V} {ts : Terms Float} (h : ts.Among {i | i < cols.length}) :
    ∃ sum, linear cols ts = .ok sum := by
  refine exists_mapM fun t ht => exists_bind_pure.mpr ?_
  have hlt : t.1 < cols.length := h t ht
  refine ⟨cols[t.1], ?_⟩
  rw [column, List.getElem?_eq_getElem hlt]

theorem exists_problem {cols : List V} (pool : P) (hp : p.InRange)
    (hcols : cols.length = p.numVars) :
    ∃ prob, problem cols pool p = .ok prob ∧ prob.pool = pool := by
  have hobjective : ((p.objective.map PendingObjective.terms).getD []).Among
      {i | i < cols.length} := by
    rw [hcols]
    cases h : p.objective with
    | none => exact List.forall_mem_nil _
    | some o => exact hp.objective o h
  have hrow : ∀ r ∈ p.rows, ∃ res, restriction cols r = .ok res := by
    intro r hr
    have hamong := hp.rows r hr
    rw [← hcols] at hamong
    exact exists_bind_pure.mpr (exists_linear hamong)
  obtain ⟨sum, hsum⟩ := exists_linear hobjective
  obtain ⟨restrictions, hrestrictions⟩ := exists_mapM hrow
  refine ⟨_, bind_bind_pure_eq_ok.mpr ⟨sum, hsum, restrictions, hrestrictions, rfl⟩, rfl⟩

theorem length_columnVariables (opt : Optimizer V P) (p : Pending Float) :
    (columnVariables opt p).1.length = p.numVars := by
  rw [columnVariables, Optimizer.make, Optimizer.length_addAll, List.length_map, Pending.numVars]

theorem solve?_of_solved {prob : Optimizer.Problem V P} {value : V → Except Halt Float}
    {values : List Float} (hp : p.InRange)
    (hprob : problem (columnVariables opt p).1 (columnVariables opt p).2 p = .ok prob)
    (hsolve : opt.solve prob = .ok value)
    (hvalues : (columnVariables opt p).1.mapM value = .ok values) :
    solve? opt p =
      .ok (.best values (p.evaluate values), warnings p ++ [foundEvent (p.evaluate values)]) := by
  have hlength : values.length = p.numVars :=
    (length_mapM hvalues).trans (length_columnVariables opt p)
  refine bind_eq_ok.mpr ⟨prob, hprob, ?_⟩
  rw [hsolve]
  exact bind_eq_ok.mpr
    ⟨values, hvalues, bind_pure_eq_ok.mpr ⟨_, hp.evaluate?_eq_ok hlength, rfl⟩⟩

theorem solve?_of_fault {prob : Optimizer.Problem V P} {fault : Optimizer.Fault}
    (hprob : problem (columnVariables opt p).1 (columnVariables opt p).2 p = .ok prob)
    (hsolve : opt.solve prob = .error fault) :
    solve? opt p =
      .ok (.failed (failure fault) p.numVars, warnings p ++ [failedEvent fault]) := by
  refine bind_eq_ok.mpr ⟨prob, hprob, ?_⟩
  rw [hsolve]
  rfl

/-- The optimizer is asked, and there is either a value for each column or a fault. -/
theorem solve_cases (hopt : opt.HasValues) (hp : p.InRange) :
    ∃ prob, problem (columnVariables opt p).1 (columnVariables opt p).2 p = .ok prob ∧
      solve? opt p = .ok (solve opt p) ∧
      ((∃ value values, opt.solve prob = .ok value ∧
        (columnVariables opt p).1.mapM value = .ok values ∧
        (solve opt p).1 = .best values (p.evaluate values)) ∨
      ∃ fault, opt.solve prob = .error fault ∧
        (solve opt p).1 = .failed (failure fault) p.numVars) := by
  obtain ⟨prob, hprob, hpool⟩ :=
    exists_problem (columnVariables opt p).2 hp (length_columnVariables opt p)
  refine ⟨prob, hprob, ?_⟩
  unfold solve
  cases hsolve : opt.solve prob with
  | ok value =>
    obtain ⟨values, hvalues⟩ :=
      exists_mapM (hopt.value_made (p.columns.map definition) prob value hpool hsolve)
    rw [solve?_of_solved hp hprob hsolve hvalues]
    exact ⟨rfl, .inl ⟨value, values, rfl, hvalues, rfl⟩⟩
  | error fault =>
    rw [solve?_of_fault hprob hsolve]
    exact ⟨rfl, .inr ⟨fault, rfl, rfl⟩⟩

/-- On success the values are those of the solution, column by column. -/
theorem exists_values_solve (hopt : opt.HasValues) (hp : p.InRange) :
    ∃ prob, problem (columnVariables opt p).1 (columnVariables opt p).2 p = .ok prob ∧
      ∀ value, opt.solve prob = .ok value →
        (columnVariables opt p).1.mapM value = .ok (solve opt p).1.values := by
  obtain ⟨prob, hprob, -, hcases⟩ := solve_cases hopt hp
  refine ⟨prob, hprob, fun value hvalue => ?_⟩
  rcases hcases with ⟨_, values, hsolve, hvalues, hbest⟩ | ⟨fault, hsolve, -⟩
  · obtain rfl := Except.ok.inj (hsolve.symm.trans hvalue)
    rw [hvalues, hbest]
    rfl
  · rw [hsolve] at hvalue
    cases hvalue

theorem length_values_solve (hopt : opt.HasValues) (hp : p.InRange) :
    (solve opt p).1.values.length = p.numVars := by
  obtain ⟨_, -, -, ⟨_, values, -, hvalues, h⟩ | ⟨fault, -, h⟩⟩ := solve_cases hopt hp
  · rw [h]
    exact (length_mapM hvalues).trans (length_columnVariables opt p)
  · rw [h]
    exact List.length_replicate

/-- A problem with a malformed call is not solved, and its result has the zeros of a failure. -/
theorem length_values_optimize (hopt : opt.HasValues) (hp : p.InRange) :
    ((backend opt).optimize p).1.values.length = p.numVars := by
  change (Solver.answer (solve opt) p).1.values.length = p.numVars
  unfold Solver.answer
  cases p.failure with
  | some failure => exact List.length_replicate
  | none => exact length_values_solve hopt hp

/-- A failure never has the code of success. -/
theorem solve_toSolution (hopt : opt.HasValues) (hp : p.InRange) {s : Solution Float}
    (h : (solve opt p).1.toSolution = .ok s) :
    s.values.length = p.numVars ∧ s.objective = p.evaluate s.values := by
  obtain ⟨hcode, rfl⟩ := RawResult.toSolution_eq_ok.mp h
  refine ⟨length_values_solve hopt hp, ?_⟩
  obtain ⟨_, -, -, ⟨_, values, -, -, hbest⟩ | ⟨⟨kind, text⟩, -, hfailed⟩⟩ := solve_cases hopt hp
  · rw [hbest]
    rfl
  · rw [hfailed] at hcode
    cases kind <;> cases hcode

theorem run_result (hopt : opt.HasValues) {m : Model Float} (hm : m.Built) {state : Pending Float}
    {s : Solution Float} (h : ((backend opt).run m state).result = .ok s) :
    let p := Pending.empty.run m.calls
    m.Loaded p ∧ s.values.length = p.numVars ∧ s.objective = p.evaluate s.values := by
  have hclosed : m.Closed := by
    cases hflat : m.flatten with
    | error fault =>
      rw [Solver.run, hflat] at h
      cases h
    | ok flat => exact (Model.flatten_eq_ok_iff.mp hflat).1
  have hscoped : m.Scoped := hm.scoped hclosed
  have hresult : ((backend opt).run m state).result =
      (solve opt (Pending.empty.run m.calls)).1.toSolution :=
    Solver.run_buffered_result hclosed hscoped name (solve opt) state
  rw [hresult] at h
  exact ⟨hscoped.loaded, solve_toSolution hopt (Pending.inRange_empty.run m.calls) h⟩

/-- Whatever calls are made, rows are in order and all numbers in them and in the objective are those
of columns, each of which has its variable. So an optimizer with values for its variables is all it
takes for a run of the engine not to be halted, and for every result to have a value for each column,
on success that of its variable in the optimizer's solution. A solution of a model has the value of
each variable, and its objective is that of the model at these values. -/
theorem runs_in_range (hopt : opt.HasValues) :
    (∀ calls : List (Call Float),
      let p := Pending.empty.run calls
      let values := ((backend opt).optimize p).1.values
      (∀ r ∈ p.rows, r.terms.ids.Pairwise (· < ·) ∧
        ∀ i c, (i, c) ∈ r.terms → (c == 0) = false ∧ i < p.numVars) ∧
      (∀ o ∈ p.objective, (∀ i c, (i, c) ∈ o.terms → i < p.numVars) ∧
        o.evaluate? values = .ok (o.evaluate values)) ∧
      (columnVariables opt p).1.length = p.numVars ∧ solve? opt p = .ok (solve opt p) ∧
      (∃ prob, problem (columnVariables opt p).1 (columnVariables opt p).2 p = .ok prob ∧
        ∀ value, opt.solve prob = .ok value →
          (columnVariables opt p).1.mapM value = .ok (solve opt p).1.values) ∧
      values.length = p.numVars) ∧
    ∀ m : Model Float, m.Built → ∀ state s, ((backend opt).run m state).result = .ok s →
      s.values.length = m.vars.length ∧
      (∀ v ∈ m.vars, ∃ x, s.value v = .ok x) ∧
      s.objective = match m.objective with
        | some o => (PendingObjective.ofObjective o).evaluate s.values
        | none => 0 := by
  constructor
  · intro calls p values
    have hp : p.InRange := Pending.inRange_empty.run calls
    have hvalues : values.length = p.numVars := length_values_optimize hopt hp
    obtain ⟨_, -, hrun, -⟩ := solve_cases hopt hp
    refine ⟨fun r hr => ⟨?_, fun i c hmem => ⟨?_, ?_⟩⟩, fun o ho => ⟨fun i c hmem => ?_, ?_⟩,
      length_columnVariables opt p, hrun, exists_values_solve hopt hp, hvalues⟩
    · exact List.pairwise_map.mpr (hp.ascending r hr)
    · exact hp.nonzero r hr (i, c) hmem
    · exact hp.rows r hr (i, c) hmem
    · exact hp.objective o ho (i, c) hmem
    · have hamong := hp.objective o ho
      rw [← hvalues] at hamong
      exact PendingObjective.evaluate?_eq_ok hamong
  · intro m hm state s h
    obtain ⟨hloaded, hlength, hobjective⟩ := run_result hopt hm h
    have hnum : s.values.length = m.vars.length := by
      rw [hlength, Pending.numVars, hloaded.columns, List.length_map]
    refine ⟨hnum, fun v hv => ?_, ?_⟩
    · obtain ⟨i, hi, rfl⟩ := List.mem_iff_getElem.mp hv
      have hid : m.vars[i].id = i := hm.sound.numbered.id_getElem hi
      have hlt : i < s.values.length := by omega
      refine ⟨s.values[i], ?_⟩
      rw [Solution.value, hid, List.getElem?_eq_getElem hlt]
    · rw [hobjective, Pending.evaluate, hloaded.objective]
      cases m.objective <;> rfl

namespace Sample

/-- The most of `5 x + 2 y + 1` where `x + y + 1` is at most `4`, for `x` up to `4` and `y` up to
`1`. -/
def model : Model Float :=
  let (x, m) := Model.empty.addVar 0 4 .continuous
  let (y, m) := m.addVar 0 1 .continuous
  let (_, m) := m.addConstraint
    ⟨((Expr.ofVar x).plus (.ofVar y)).plus (.new 1), .lessEqual, .new 4⟩
  m.setObjective ((((Expr.ofVar x).scale 5).plus ((Expr.ofVar y).scale 2)).plus (.new 1)) .maximize

theorem model_built : model.Built := by
  let m : Model Float := Model.empty
  have hx := Expr.Built.ofVar (m.addVar 0 4 .continuous).1
  have hy := Expr.Built.ofVar ((m.addVar 0 4 .continuous).2.addVar 0 1 .continuous).1
  have hvars := ((Model.Built.empty : m.Built).addVar 0 4 .continuous).addVar 0 1 .continuous
  have hlhs := (hx.plus hy).plus (.new 1)
  have hobjective := ((hx.scale 5).plus (hy.scale 2)).plus (.new 1)
  exact (hvars.addConstraint ⟨_, .lessEqual, _⟩ hlhs (.new 4)).setObjective hobjective .maximize

theorem runs_in_range_sample : BuiltIn.optimizer.HasValues ∧
    ∃ s, (solver.run model .empty).result = .ok s ∧
      s.values = [3, 0] ∧ s.objective = 16 ∧ ∀ v ∈ model.vars, ∃ x, s.value v = .ok x := by
  have hrun : (solver.run model .empty).result.toOption.map
      (fun s => (s.values, s.objective)) = some ([3, 0], 16) := by
    decide +kernel
  cases hresult : (solver.run model .empty).result with
  | error e =>
    rw [hresult] at hrun
    cases hrun
  | ok s =>
    rw [hresult] at hrun
    obtain ⟨hvalues, hobjective⟩ := Prod.mk.inj (Option.some.inj hrun)
    obtain ⟨-, hvars, -⟩ :=
      (runs_in_range BuiltIn.optimizer_hasValues).2 model model_built .empty s hresult
    exact ⟨BuiltIn.optimizer_hasValues, s, rfl, hvalues, hobjective, hvars⟩

end Sample

end Engine

end LinearModel
