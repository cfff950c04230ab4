import LinearModel.Proofs.Arrays
import LinearModel.Proofs.Calls

/-!
# Models over other scalars

Reading every scalar of a model otherwise, such as a float as the exact number that it stands for.
Flattening computes nothing, so it makes no difference whether a model is read before it becomes
calls or the calls are read afterwards.
-/

namespace LinearModel

variable {R S : Type} (f : R → S)

def Var.map (v : Var R) : Var S :=
  ⟨v.id, f v.lower, f v.upper, v.kind⟩

def Expr.map (e : Expr R) : Expr S :=
  ⟨e.terms.mapCoeffs f, f e.constant⟩

def Constraint.map (c : Constraint R) : Constraint S :=
  ⟨c.lhs.map f, c.sense, c.rhs.map f⟩

def Objective.map (o : Objective R) : Objective S :=
  ⟨o.expr.map f, o.sense⟩

def Model.map (m : Model R) : Model S where
  vars := m.vars.map (Var.map f)
  constraints := m.constraints.map (Constraint.map f)
  objective := m.objective.map (Objective.map f)
  settings := m.settings

def SparseRow.map (row : SparseRow R) : SparseRow S :=
  ⟨row.coeffs.map f, row.indices, f row.constant⟩

def Call.map : Call R → Call S
  | showLog value => showLog value
  | timeLimit seconds => timeLimit seconds
  | scaling mode => scaling mode
  | addVars lower upper kinds => addVars (lower.map f) (upper.map f) kinds
  | addConstraint lhs rhs sense => addConstraint (lhs.map f) (rhs.map f) sense
  | setObjective row sense => setObjective (row.map f) sense
  | optimize => optimize

namespace Terms

theorem get?_mapCoeffs (id : Nat) (ts : Terms R) :
    (ts.mapCoeffs f).get? id = (ts.get? id).map f := by
  induction ts with
  | nil => rfl
  | cons t ts ih =>
    obtain ⟨i, c⟩ := t
    change (if i = id then some (f c) else get? id (mapCoeffs f ts)) = _
    rw [get?, ih]
    split_ifs <;> rfl

theorem put_mapCoeffs (id : Nat) (c : R) (ts : Terms R) :
    (ts.mapCoeffs f).put id (f c) = (ts.put id c).mapCoeffs f := by
  induction ts with
  | nil => rfl
  | cons t ts ih =>
    obtain ⟨i, d⟩ := t
    change put id (f c) ((i, f d) :: mapCoeffs f ts) = _
    rw [put, put, ih]
    split_ifs <;> rfl

end Terms

theorem Expr.maxId?_map (e : Expr R) : (e.map f).maxId? = e.maxId? := by
  simp [maxId?, Expr.map, Terms.mapCoeffs, Function.comp_def]

theorem Expr.Below.map {n : Nat} {e : Expr R} (he : e.Below n) : (e.map f).Below n := by
  intro t ht
  obtain ⟨u, hu, rfl⟩ := List.mem_map.mp ht
  exact he u hu

theorem SparseRow.ofExpr_map (e : Expr R) : ofExpr (e.map f) = (ofExpr e).map f := by
  simp [ofExpr, SparseRow.map, Expr.map, Terms.mapCoeffs, Function.comp_def]

namespace Model

theorem Numbered.map {m : Model R} (hm : m.Numbered) : (m.map f).Numbered := by
  simpa [Numbered, Model.map, Function.comp_def, Var.map] using hm

theorem Closed.map {m : Model R} (hm : m.Closed) : (m.map f).Closed where
  nonempty := by simpa [Model.map] using hm.nonempty
  constraints := by
    intro c hc
    obtain ⟨d, hd, rfl⟩ := List.mem_map.mp hc
    simpa [Expr.Within, Constraint.map, Expr.maxId?_map, Model.map] using hm.constraints d hd
  objective := by
    intro o ho
    obtain ⟨d, hd, rfl⟩ := Option.map_eq_some_iff.mp ho
    simpa [Expr.Within, Objective.map, Expr.maxId?_map, Model.map] using hm.objective d hd

theorem openingCalls_map (m : Model R) :
    (m.map f).openingCalls = m.openingCalls.map (Call.map f) := by
  simp [openingCalls, Model.map, Call.map, Var.map, Function.comp_def]

theorem laterCalls_map (m : Model R) :
    (m.map f).laterCalls = m.laterCalls.map (Call.map f) := by
  have hconstraint (c : Constraint R) :
      Call.ofConstraint (c.map f) = (Call.ofConstraint c).map f := by
    simp [Call.ofConstraint, Constraint.map, Call.map, SparseRow.ofExpr_map]
  have hobjective (o : Objective R) : Call.ofObjective (o.map f) = (Call.ofObjective o).map f := by
    simp [Call.ofObjective, Objective.map, Call.map, SparseRow.ofExpr_map]
  have hsettings (s : Settings) : s.laterCalls = (s.laterCalls).map (Call.map f) := by
    simp only [Settings.laterCalls, List.map_append]
    cases s.scaling <;> split_ifs <;> rfl
  rw [laterCalls, laterCalls, List.map_append, List.map_append, ← hsettings]
  cases hobj : m.objective <;>
    simp [Model.map, hobj, hconstraint, hobjective, Function.comp_def]

theorem calls_map (m : Model R) : (m.map f).calls = m.calls.map (Call.map f) := by
  rw [calls, openingCalls_map, laterCalls_map, calls, List.map_append]

end Model

end LinearModel
