import LinearModel.Proofs.Terms
import LinearModel.Expr.Builders
import LinearModel.Model

/-!
# What can be built

An expression is built by steps that every operator and every builder is made of; a model is built
by its operations, with such expressions in its constraints and its objective. The terms of built
expressions ascend, and the variables of built models are numbered from zero without gaps.
-/

namespace LinearModel

variable {R : Type} [Scalar R]

namespace Expr

inductive Built : Expr R → Prop
  | new (c : R) : Built (new c)
  | addTerm {e : Expr R} (he : Built e) (c : R) (v : Var R) : Built (e.addTerm c v)
  | plus {e f : Expr R} (he : Built e) (hf : Built f) : Built (e.plus f)
  | scale {e : Expr R} (he : Built e) (k : R) : Built (e.scale k)

namespace Built

theorem ascending {e : Expr R} (he : e.Built) : e.terms.Ascending := by
  induction he with
  | new c => exact Terms.ascending_nil
  | addTerm _ c v ih => exact ih.add v.id c
  | @plus e f _ _ ihe _ => exact ihe.merge f.terms
  | scale _ k ih => exact ih.scale k

theorem ofVar (v : Var R) : (Expr.ofVar v).Built :=
  (new 0).addTerm 1 v

theorem minus {e f : Expr R} (he : e.Built) (hf : f.Built) : (e.minus f).Built :=
  he.plus (hf.scale (-1))

theorem foldl_plus {es : List (Expr R)} (hes : ∀ e ∈ es, e.Built) {start : Expr R}
    (hstart : start.Built) : (es.foldl Expr.plus start).Built := by
  induction es generalizing start with
  | nil => exact hstart
  | cons e es ih =>
    exact ih (fun f hf => hes f (List.mem_cons_of_mem _ hf))
      (hstart.plus (hes e List.mem_cons_self))

theorem sum {es : List (Expr R)} (hes : ∀ e ∈ es, e.Built) : (Expr.sum es).Built :=
  foldl_plus hes (new 0)

theorem sumVars (vars : List (Var R)) : (Expr.sumVars vars).Built := by
  apply sum
  intro e he
  obtain ⟨v, _, rfl⟩ := List.mem_map.mp he
  exact ofVar v

theorem foldl_addTerm (pairs : List (Var R × R)) {start : Expr R} (hstart : start.Built) :
    (pairs.foldl (fun e (v, c) => e.addTerm c v) start).Built := by
  induction pairs generalizing start with
  | nil => exact hstart
  | cons p pairs ih => exact ih (hstart.addTerm p.2 p.1)

end Built

end Expr

namespace Model

omit [Scalar R] in
/-- Every variable has its place in the list as its number. -/
def Numbered (m : Model R) : Prop :=
  m.vars.map Var.id = List.range m.vars.length

omit [Scalar R] in
theorem Numbered.id_getElem {m : Model R} (hm : m.Numbered) {i : Nat} (hi : i < m.vars.length) :
    m.vars[i].id = i := by
  have hget : (m.vars.map Var.id)[i]? = (List.range m.vars.length)[i]? := congrArg (·[i]?) hm
  simpa [hi] using hget

@[simp] theorem makeVar_id (id : Nat) (lower upper : R) (kind : VarKind) :
    (makeVar id lower upper kind).id = id := by
  cases kind <;> rfl

theorem map_id_makeVars (start num : Nat) (lower upper : R) (kind : VarKind) :
    (makeVars start num lower upper kind).map Var.id = List.range' start num := by
  simp [makeVars, Function.comp_def]

theorem makeVars_append (start a b : Nat) (lower upper : R) (kind : VarKind) :
    makeVars start a lower upper kind ++ makeVars (start + a) b lower upper kind =
      makeVars start (a + b) lower upper kind := by
  simp only [makeVars, ← List.map_append, List.range'_append_1]

theorem addVarVector_snd (m : Model R) (num : Nat) (lower upper : R) (kind : VarKind) :
    (m.addVarVector num lower upper kind).2 =
      { m with vars := m.vars ++ makeVars m.vars.length num lower upper kind } :=
  rfl

/-- A matrix adds as many variables as it has cells, row after row. -/
theorem addVarMatrix_snd (m : Model R) (rows cols : Nat) (lower upper : R) (kind : VarKind) :
    (m.addVarMatrix rows cols lower upper kind).2 =
      (m.addVarVector (rows * cols) lower upper kind).2 := by
  induction rows generalizing m with
  | zero => simp [addVarMatrix, addVarVector, makeVars]
  | succ rows ih =>
    have hstep : (m.addVarMatrix (rows + 1) cols lower upper kind).2 =
        ((m.addVarVector cols lower upper kind).2.addVarMatrix rows cols lower upper kind).2 := rfl
    have hlen : (m.vars ++ makeVars m.vars.length cols lower upper kind).length =
        m.vars.length + cols := by
      simp [makeVars]
    have hcount : (rows + 1) * cols = cols + rows * cols := by ring
    rw [hstep, ih]
    simp only [addVarVector_snd, hlen, List.append_assoc, makeVars_append, hcount]

theorem Numbered.addVarVector {m : Model R} (hm : m.Numbered) (num : Nat) (lower upper : R)
    (kind : VarKind) : (m.addVarVector num lower upper kind).2.Numbered := by
  have hlen : (makeVars m.vars.length num lower upper kind).length = num := by simp [makeVars]
  simp only [Numbered, addVarVector_snd, List.map_append, List.length_append, hlen,
    map_id_makeVars]
  rw [show m.vars.map Var.id = List.range m.vars.length from hm, List.range_add,
    List.range'_eq_map_range]

inductive Built : Model R → Prop
  | empty : Built empty
  | addVar {m : Model R} (hm : Built m) (lower upper : R) (kind : VarKind) :
      Built (m.addVar lower upper kind).2
  | addVarVector {m : Model R} (hm : Built m) (num : Nat) (lower upper : R) (kind : VarKind) :
      Built (m.addVarVector num lower upper kind).2
  | addVarMatrix {m : Model R} (hm : Built m) (rows cols : Nat) (lower upper : R)
      (kind : VarKind) : Built (m.addVarMatrix rows cols lower upper kind).2
  | addConstraint {m : Model R} (hm : Built m) (c : Constraint R) (hlhs : c.lhs.Built)
      (hrhs : c.rhs.Built) : Built (m.addConstraint c).2
  | setObjective {m : Model R} (hm : Built m) {e : Expr R} (he : e.Built) (sense : Direction) :
      Built (m.setObjective e sense)
  | showLog {m : Model R} (hm : Built m) (value : Bool) : Built (m.showLog value)
  | setTimeLimit {m : Model R} (hm : Built m) (limit : Duration) : Built (m.setTimeLimit limit)
  | setScaling {m : Model R} (hm : Built m) (mode : ScaleMode) : Built (m.setScaling mode)

/-- What every operation keeps. -/
structure Sound (m : Model R) : Prop where
  numbered : m.Numbered
  constraints : ∀ c ∈ m.constraints, c.lhs.Built ∧ c.rhs.Built
  objective : ∀ o ∈ m.objective, o.expr.Built

theorem Built.sound {m : Model R} (hm : m.Built) : m.Sound := by
  induction hm with
  | empty => exact ⟨rfl, by simp [Model.empty], by simp [Model.empty]⟩
  | addVar _ lower upper kind ih =>
    exact ⟨ih.numbered.addVarVector 1 lower upper kind, ih.constraints, ih.objective⟩
  | addVarVector _ num lower upper kind ih =>
    exact ⟨ih.numbered.addVarVector num lower upper kind, ih.constraints, ih.objective⟩
  | addVarMatrix _ rows cols lower upper kind ih =>
    rw [addVarMatrix_snd]
    exact ⟨ih.numbered.addVarVector (rows * cols) lower upper kind, ih.constraints, ih.objective⟩
  | addConstraint _ c hlhs hrhs ih =>
    refine ⟨ih.numbered, fun d hd => ?_, ih.objective⟩
    rcases List.mem_append.mp hd with hmem | hmem
    · exact ih.constraints d hmem
    · rw [List.mem_singleton.mp hmem]
      exact ⟨hlhs, hrhs⟩
  | setObjective _ he sense ih =>
    refine ⟨ih.numbered, ih.constraints, fun o ho => ?_⟩
    obtain rfl : _ = o := Option.some.inj ho
    exact he
  | showLog _ _ ih => exact ⟨ih.numbered, ih.constraints, ih.objective⟩
  | setTimeLimit _ _ ih => exact ⟨ih.numbered, ih.constraints, ih.objective⟩
  | setScaling _ _ ih => exact ⟨ih.numbered, ih.constraints, ih.objective⟩

end Model

end LinearModel
