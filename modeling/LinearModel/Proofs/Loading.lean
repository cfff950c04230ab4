import LinearModel.Proofs.Reduction

/-!
# Loading a model

None of the calls that a scoped model makes is malformed: its arrays are of one length, its tags
have meanings, and every row names columns that are there. The pending problem then has a column for
every variable, a row for every constraint and the objective of the model.
-/

namespace LinearModel

variable {R : Type}

def Column.ofVar (v : Var R) : Column R :=
  ⟨v.lower, v.upper, v.kind⟩

def PendingObjective.ofObjective (o : Objective R) : PendingObjective R :=
  ⟨o.expr.terms, o.expr.constant, o.sense⟩

namespace Model

/-- All that is named is among the variables. -/
structure Scoped (m : Model R) : Prop where
  constraints : ∀ c ∈ m.constraints, c.lhs.Below m.vars.length ∧ c.rhs.Below m.vars.length
  objective : ∀ o ∈ m.objective, o.expr.Below m.vars.length

theorem Scoped.map {S : Type} {m : Model R} (hm : m.Scoped) (f : R → S) : (m.map f).Scoped where
  constraints := by
    intro c hc
    obtain ⟨d, hd, rfl⟩ := List.mem_map.mp hc
    have hlen : (m.map f).vars.length = m.vars.length := by simp [Model.map]
    rw [hlen]
    exact ⟨(hm.constraints d hd).1.map f, (hm.constraints d hd).2.map f⟩
  objective := by
    intro o ho
    obtain ⟨d, hd, rfl⟩ := Option.map_eq_some_iff.mp ho
    have hlen : (m.map f).vars.length = m.vars.length := by simp [Model.map]
    rw [hlen]
    exact (hm.objective d hd).map f

theorem Built.scoped [Scalar R] {m : Model R} (hm : m.Built) (hclosed : m.Closed) : m.Scoped where
  constraints := by
    intro c hc
    have hbuilt := hm.sound.constraints c hc
    have hwithin := hclosed.constraints c hc
    exact ⟨(Expr.within_iff_below hbuilt.1.ascending).mp hwithin.1,
      (Expr.within_iff_below hbuilt.2.ascending).mp hwithin.2⟩
  objective := by
    intro o ho
    exact (Expr.within_iff_below (hm.sound.objective o ho).ascending).mp (hclosed.objective o ho)

end Model

theorem Settings.mem_laterCalls {s : Settings} {c : Call R} (hc : c ∈ s.laterCalls) :
    (∃ seconds, c = .timeLimit seconds) ∨ ∃ mode, c = .scaling mode := by
  rcases List.mem_append.mp hc with hlimit | hscaling
  · split_ifs at hlimit
    · cases hlimit
    · exact Or.inl ⟨_, List.mem_singleton.mp hlimit⟩
  · obtain ⟨mode, _, rfl⟩ := List.mem_map.mp hscaling
    exact Or.inr ⟨mode, rfl⟩

theorem Expr.Below.indices {n : Nat} {e : Expr R} (he : e.Below n) :
    ∀ i ∈ (SparseRow.ofExpr e).indices, i < n := by
  intro i hi
  obtain ⟨t, ht, rfl⟩ := List.mem_map.mp hi
  exact he t ht

namespace Pending

variable [Scalar R]

theorem accepts_append {p : Pending R} {calls more : List (Call R)} :
    p.Accepts (calls ++ more) ↔ p.Accepts calls ∧ (p.run calls).Accepts more := by
  induction calls generalizing p with
  | nil => simp [Accepts, run]
  | cons c calls ih =>
    simp only [List.cons_append, Accepts, ih, and_assoc]
    rfl

/-- Calls without columns all meet the columns that there are at first. -/
theorem accepts_of_forall {p : Pending R} {calls : List (Call R)}
    (h : ∀ c ∈ calls, c.columns = [] ∧ ¬c.Malformed p.numVars) : p.Accepts calls := by
  induction calls generalizing p with
  | nil => trivial
  | cons c calls ih =>
    obtain ⟨hcolumns, hc⟩ := h c List.mem_cons_self
    have hnum : (p.call c).numVars = p.numVars := by
      simp [numVars, (call_extends hc).columns, hcolumns]
    refine ⟨hc, ih fun d hd => ?_⟩
    rw [hnum]
    exact h d (List.mem_cons_of_mem _ hd)

end Pending

namespace Model

theorem Scoped.laterCalls {m : Model R} (hm : m.Scoped) :
    ∀ c ∈ m.laterCalls, c.columns = [] ∧ ¬c.Malformed m.vars.length := by
  intro c hc
  rcases List.mem_append.mp hc with hc | hc
  · rcases List.mem_append.mp hc with hc | hc
    · obtain ⟨d, hd, rfl⟩ := List.mem_map.mp hc
      have hbelow := hm.constraints d hd
      refine ⟨rfl, ?_⟩
      simp only [Call.ofConstraint, Call.Malformed, Sense.ofTag?_tag, reduceCtorEq, false_or,
        not_or, not_exists, not_and, Nat.not_le]
      exact ⟨hbelow.1.indices, hbelow.2.indices⟩
    · obtain ⟨o, ho, rfl⟩ := List.mem_map.mp hc
      have hbelow := hm.objective o (Option.mem_toList.mp ho)
      refine ⟨rfl, ?_⟩
      simp only [Call.ofObjective, Call.Malformed, Direction.ofTag?_tag, reduceCtorEq, false_or,
        not_exists, not_and, Nat.not_le]
      exact hbelow.indices
  · obtain ⟨seconds, rfl⟩ | ⟨mode, rfl⟩ := Settings.mem_laterCalls hc
    · exact ⟨rfl, id⟩
    · exact ⟨rfl, id⟩

theorem columns_openingCalls (m : Model R) :
    m.openingCalls.flatMap Call.columns = m.vars.map .ofVar := by
  have hvars : ∀ vars : List (Var R), Call.columns (.addVars (vars.map (·.lower))
      (vars.map (·.upper)) (vars.map (·.kind.tag))) = vars.map .ofVar := by
    intro vars
    induction vars with
    | nil => rfl
    | cons v vars ih =>
      simp only [Call.columns] at ih
      simp [Call.columns, ih, Column.ofVar]
  simp only [openingCalls, List.flatMap_cons, hvars, List.flatMap_nil, List.append_nil]
  rfl

theorem objective_laterCalls (m : Model R) :
    m.laterCalls.filterMap Call.objective? = (m.objective.map .ofObjective).toList := by
  have hconstraints : (m.constraints.map Call.ofConstraint).filterMap Call.objective? = [] := by
    rw [List.filterMap_map]
    exact List.filterMap_eq_nil_iff.mpr fun _ _ => rfl
  have hsettings : m.settings.laterCalls.filterMap (Call.objective? (R := R)) = [] := by
    apply List.filterMap_eq_nil_iff.mpr
    intro c hc
    obtain ⟨_, rfl⟩ | ⟨_, rfl⟩ := Settings.mem_laterCalls hc <;> rfl
  rw [laterCalls, List.filterMap_append, List.filterMap_append, hconstraints, hsettings]
  cases m.objective with
  | none => rfl
  | some o =>
    simp [Call.ofObjective, Call.objective?, PendingObjective.ofObjective]
    rfl

variable [Scalar R]

theorem rows_laterCalls (m : Model R) :
    m.laterCalls.filterMap Call.row? = m.constraints.map .ofConstraint := by
  have hconstraints : (m.constraints.map Call.ofConstraint).filterMap Call.row? =
      m.constraints.map .ofConstraint := by
    rw [List.filterMap_map, ← List.filterMap_eq_map]
    congr 1
    funext c
    simp [Call.row?, Call.ofConstraint, ReducedRow.ofConstraint]
  have hobjective : (m.objective.toList.map Call.ofObjective).filterMap Call.row? = [] := by
    rw [List.filterMap_map]
    exact List.filterMap_eq_nil_iff.mpr fun _ _ => rfl
  have hsettings : m.settings.laterCalls.filterMap (Call.row? (R := R)) = [] := by
    apply List.filterMap_eq_nil_iff.mpr
    intro c hc
    obtain ⟨_, rfl⟩ | ⟨_, rfl⟩ := Settings.mem_laterCalls hc <;> rfl
  rw [laterCalls, List.filterMap_append, List.filterMap_append, hconstraints, hobjective,
    hsettings, List.append_nil, List.append_nil]

theorem opening_accepted (m : Model R) : Pending.empty.Accepts m.openingCalls := by
  have hvars : ¬(Call.addVars (m.vars.map (·.lower)) (m.vars.map (·.upper))
      (m.vars.map (·.kind.tag))).Malformed 0 := by
    simp [Call.Malformed]
  exact ⟨id, hvars, trivial⟩

theorem Scoped.accepts {m : Model R} (hm : m.Scoped) : Pending.empty.Accepts m.calls := by
  have hopening := opening_accepted m
  have hnum : (Pending.empty.run m.openingCalls).numVars = m.vars.length := by
    rw [Pending.numVars, hopening.run_extends.columns, columns_openingCalls]
    simp [Pending.empty]
  refine Pending.accepts_append.mpr ⟨hopening, Pending.accepts_of_forall ?_⟩
  rw [hnum]
  exact hm.laterCalls

/-- What a model makes of an empty pending problem. -/
structure Loaded (m : Model R) (p : Pending R) : Prop where
  columns : p.columns = m.vars.map .ofVar
  rows : p.rows = m.constraints.map .ofConstraint
  objective : p.objective = m.objective.map .ofObjective
  fault : p.fault = none

theorem Scoped.loaded {m : Model R} (hm : m.Scoped) : m.Loaded (Pending.empty.run m.calls) := by
  have hrun := hm.accepts.run_extends
  have hcolumns : m.laterCalls.flatMap Call.columns = [] :=
    List.flatMap_eq_nil_iff.mpr fun c hc => (hm.laterCalls c hc).1
  constructor
  · rw [hrun.columns, calls, List.flatMap_append, columns_openingCalls, hcolumns]
    simp [Pending.empty]
  · rw [hrun.rows, calls, List.filterMap_append, rows_laterCalls]
    rfl
  · rw [hrun.objective, calls, List.filterMap_append, objective_laterCalls]
    cases m.objective <;> rfl
  · exact hrun.fault

end Model

end LinearModel
