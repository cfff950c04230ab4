import LinearModel.Proofs.Loading
import LinearModel.Boundary.Solver

/-!
# The meaning of a loaded model

A model and the pending problem that its calls make have the same feasible points and the same
objective, read exactly. So a backend that solves pending problems solves models.
-/

namespace LinearModel

/-- The values of the first `n` variables. -/
def Point.values (x : Point) (n : Nat) : List Exact :=
  (List.range n).map x.exact

theorem Point.getD_values (x : Point) {n id : Nat} (h : id < n) :
    (x.values n).getD id 0 = .finite (x id) := by
  simp [Point.values, Point.exact, h]

namespace PendingObjective

/-- The sum of products over values that are all there. -/
theorem foldl_products (x : Point) {n : Nat} {ts : Terms Rat} (h : ∀ t ∈ ts, t.1 < n) (a : Rat) :
    (ts.mapCoeffs Exact.finite).foldl (fun sum (id, c) => sum + c * (x.values n).getD id 0)
      (.finite a) = .finite (a + ts.value x) := by
  induction ts generalizing a with
  | nil => simp [Terms.mapCoeffs]
  | cons t ts ih =>
    obtain ⟨i, c⟩ := t
    have hi : (x.values n).getD i 0 = .finite (x i) := x.getD_values (h _ List.mem_cons_self)
    change (Terms.mapCoeffs Exact.finite ts).foldl _
      (.finite a + .finite c * (x.values n).getD i 0) = _
    rw [hi, Exact.finite_mul, Exact.finite_add, ih fun u hu => h u (List.mem_cons_of_mem _ hu),
      Terms.value_cons]
    ring_nf

theorem evaluate?_ofObjective {o : Objective Exact} {n : Nat} (hfinite : o.expr.Finite)
    (hbelow : o.expr.Below n) (x : Point) :
    (ofObjective o).evaluate? (x.values n) = .ok (o.expr.value x.exact) := by
  have hlen : (x.values n).length = n := by simp [Point.values]
  have hfind :
      (ofObjective o).terms.find? (fun t => decide ((x.values n).length ≤ t.1)) = none := by
    rw [List.find?_eq_none]
    intro t ht
    have hlt : t.1 < n := hbelow t ht
    simpa [hlen] using hlt
  obtain ⟨⟨terms, constant⟩, sense⟩ := o
  obtain ⟨⟨ts, q⟩, hr⟩ := hfinite.exists_map_finite
  obtain ⟨rfl, rfl⟩ : ts.mapCoeffs Exact.finite = terms ∧ Exact.finite q = constant :=
    ⟨congrArg Expr.terms hr, congrArg Expr.constant hr⟩
  have hts : ∀ t ∈ ts, t.1 < n := fun t ht => hbelow _ (List.mem_map_of_mem ht)
  have hsum := foldl_products x hts 0
  rw [evaluate?, hfind]
  change Except.ok
    (List.foldl _ (.finite (-0)) (Terms.mapCoeffs Exact.finite ts) + Exact.finite q) = _
  rw [neg_zero, hsum, Exact.finite_add, zero_add]
  exact congrArg Except.ok (Expr.value_map_finite ⟨ts, q⟩ x).symm

theorem evaluate_eq_of_evaluate? {R : Type} [Scalar R] {o : PendingObjective R} {values : List R}
    {a : R} (h : o.evaluate? values = .ok a) : o.evaluate values = a := by
  unfold evaluate? at h
  split at h
  · cases h
  · exact Except.ok.inj h

end PendingObjective

namespace Model

/-- The objective of a model; zero where there is none. -/
def objectiveAt (m : Model Exact) (x : Point) : Exact :=
  match m.objective with
  | some o => o.expr.value x.exact
  | none => 0

namespace Loaded

variable {m : Model Exact} {p : Pending Exact}

theorem feasible_iff (hp : m.Loaded p) (hnumbered : m.Numbered) (hfinite : m.Finite) (x : Point) :
    p.Feasible x ↔ m.Feasible x := by
  have hrow (c : Constraint Exact) (hc : c ∈ m.constraints) :
      c.sense.Holds ((ReducedRow.ofConstraint c).terms.value x.exact)
        (ReducedRow.ofConstraint c).rhs ↔
      c.sense.Holds (c.lhs.value x.exact) (c.rhs.value x.exact) :=
    ReducedRow.holds_ofConstraint (hfinite.constraints c hc).1 (hfinite.constraints c hc).2 x
  -- Columns go by their places and variables by their numbers, which `Numbered` makes the same.
  have hlen : p.columns.length = m.vars.length := by rw [hp.columns, List.length_map]
  have hcolumn (i : Nat) (hi : i < m.vars.length) :
      p.columns[i] = Column.ofVar m.vars[i] := by
    simp [hp.columns]
  constructor
  · rintro ⟨hcolumns, hrows⟩
    refine ⟨fun v hv => ?_, fun c hc => ?_⟩
    · obtain ⟨i, hi, rfl⟩ := List.getElem_of_mem hv
      have h := hcolumns i (hlen ▸ hi)
      rw [hcolumn i hi] at h
      rwa [hnumbered.id_getElem hi]
    · have hmem : ReducedRow.ofConstraint c ∈ p.rows := hp.rows ▸ List.mem_map_of_mem hc
      exact (hrow c hc).mp (hrows _ hmem)
  · rintro ⟨hvars, hconstraints⟩
    refine ⟨fun i hi => ?_, fun r hr => ?_⟩
    · have hi' : i < m.vars.length := hlen ▸ hi
      have h := hvars m.vars[i] (List.getElem_mem hi')
      rw [hnumbered.id_getElem hi'] at h
      rwa [hcolumn i hi']
    · rw [hp.rows] at hr
      obtain ⟨c, hc, rfl⟩ := List.mem_map.mp hr
      exact (hrow c hc).mpr (hconstraints c hc)

theorem evaluate? (hp : m.Loaded p) (hscoped : m.Scoped) (hfinite : m.Finite) (x : Point) :
    p.objective.map (fun o => (o.sense, o.evaluate? (x.values m.vars.length))) =
      m.objective.map fun o => (o.sense, .ok (o.expr.value x.exact)) := by
  rw [hp.objective, Option.map_map]
  apply Option.map_congr
  intro o ho
  exact congrArg (o.sense, ·)
    (PendingObjective.evaluate?_ofObjective (hfinite.objective o ho) (hscoped.objective o ho) x)

theorem objectiveAt_eq (hp : m.Loaded p) (hscoped : m.Scoped) (hfinite : m.Finite) (x : Point) :
    p.objectiveAt x = m.objectiveAt x := by
  have hnum : p.numVars = m.vars.length := by rw [Pending.numVars, hp.columns, List.length_map]
  cases hobj : m.objective with
  | none => simp [Pending.objectiveAt, Pending.evaluate, objectiveAt, hp.objective, hobj]
  | some o =>
    have heval := PendingObjective.evaluate?_ofObjective (hfinite.objective o hobj)
      (hscoped.objective o hobj) x
    simp only [Pending.objectiveAt, Pending.evaluate, objectiveAt, hp.objective, hobj, hnum,
      Option.map_some]
    exact PendingObjective.evaluate_eq_of_evaluate? heval

theorem optimal_iff (hp : m.Loaded p) (hnumbered : m.Numbered) (hscoped : m.Scoped)
    (hfinite : m.Finite) (x : Point) : p.Optimal x ↔ m.Optimal x := by
  have hfeasible := hp.feasible_iff hnumbered hfinite
  have hvalue (o : Objective Exact) (ho : o ∈ m.objective) (y : Point) :
      p.objectiveAt y = o.expr.value y.exact := by
    rw [hp.objectiveAt_eq hscoped hfinite, objectiveAt, Option.mem_def.mp ho]
  constructor
  · rintro ⟨hx, hbest⟩
    refine ⟨(hfeasible x).mp hx, fun o ho y hy => ?_⟩
    have hmem : PendingObjective.ofObjective o ∈ p.objective := by
      rw [hp.objective, Option.mem_def.mp ho]
      rfl
    have hworse := hbest _ hmem y ((hfeasible y).mpr hy)
    rwa [hvalue o ho, hvalue o ho] at hworse
  · rintro ⟨hx, hbest⟩
    refine ⟨(hfeasible x).mpr hx, fun o ho y hy => ?_⟩
    rw [hp.objective] at ho
    obtain ⟨d, hd, rfl⟩ := Option.map_eq_some_iff.mp ho
    rw [hvalue d hd, hvalue d hd]
    exact hbest d hd y ((hfeasible y).mp hy)

end Loaded

end Model

/-- A success on a problem without faults is an optimal point with its objective; a failure says
nothing. -/
def Solves (solve : Pending Exact → RawResult Exact × Log) : Prop :=
  ∀ p, p.failure = none → (solve p).1.code = Failure.noError →
    ∃ x : Point, p.Optimal x ∧ (solve p).1.values = x.values p.numVars ∧
      (solve p).1.objective = p.objectiveAt x

theorem Solver.run_buffered_result {R : Type} [Scalar R] {m : Model R} (hclosed : m.Closed)
    (hscoped : m.Scoped) (name : String) (solve : Pending R → RawResult R × Log)
    (state : Pending R) :
    ((buffered name solve).run m state).result =
      (solve (Pending.empty.run m.calls)).1.toSolution := by
  have hflat : m.flatten = .ok m.arrays := Model.flatten_eq_ok_iff.mpr ⟨hclosed, rfl⟩
  have hfault : (Pending.empty.run m.calls).failure = none := by
    rw [Pending.failure, hscoped.loaded.fault]
    rfl
  simp only [run, hflat, buffered, m.calls_arrays]
  change (answer solve (Pending.empty.run m.calls)).1.toSolution = _
  rw [answer, hfault]

theorem RawResult.toSolution_eq_ok {R : Type} {r : RawResult R} {s : Solution R} :
    r.toSolution = .ok s ↔
      r.code = Failure.noError ∧ s = ⟨r.values, r.objective, r.optimal, r.gap⟩ := by
  unfold toSolution
  split_ifs with hcode
  · simp [hcode, eq_comm]
  · simp [hcode]

/-- A model that can be flattened means, read exactly, what its calls make of an empty pending
problem: the same points are feasible, the objective has the same sense and the same value with its
constant, and what an exact backend answers is optimal for the model. -/
theorem Model.flatten_preserves_meaning {R : Type} [Scalar R] (read : R → Exact) {m : Model R}
    {flat : FlatModel R} (hm : m.Built) (hfinite : (m.map read).Finite)
    (hflat : m.flatten = .ok flat) :
    let exact := m.map read
    let p := Pending.empty.run ((flat.calls m.settings).map (Call.map read))
    (∀ x, p.Feasible x ↔ exact.Feasible x) ∧
    (∀ x : Point, p.objective.map (fun o => (o.sense, o.evaluate? (x.values m.vars.length))) =
      exact.objective.map fun o => (o.sense, .ok (o.expr.value x.exact))) ∧
    ∀ name solve, Solves solve →
      let result := ((Solver.buffered name solve).run exact .empty).result
      ((∃ s, result = .ok s) ↔ (solve p).1.code = Failure.noError) ∧
      ∀ s, result = .ok s → ∃ x : Point, s.values = x.values m.vars.length ∧ exact.Optimal x ∧
        s.objective = exact.objectiveAt x := by
  intro exact p
  obtain ⟨hclosed, rfl⟩ := flatten_eq_ok_iff.mp hflat
  have hnumbered : exact.Numbered := hm.sound.numbered.map read
  have hscoped : exact.Scoped := (hm.scoped hclosed).map read
  have hlen : exact.vars.length = m.vars.length := List.length_map _
  have hcalls : p = Pending.empty.run exact.calls := by
    rw [calls_map, ← calls_arrays]
  have hloaded : exact.Loaded p := hcalls ▸ hscoped.loaded
  have hevaluate := hloaded.evaluate? hscoped hfinite
  rw [hlen] at hevaluate
  refine ⟨hloaded.feasible_iff hnumbered hfinite, hevaluate, ?_⟩
  intro name solve hsolve result
  have hresult : result = (solve p).1.toSolution := by
    rw [hcalls]
    exact Solver.run_buffered_result (hclosed.map read) hscoped name solve .empty
  simp only [hresult, RawResult.toSolution_eq_ok]
  refine ⟨⟨fun ⟨_, hcode, _⟩ => hcode, fun hcode => ⟨_, hcode, rfl⟩⟩, ?_⟩
  rintro s ⟨hcode, rfl⟩
  have hfault : p.failure = none := by rw [Pending.failure, hloaded.fault]; rfl
  obtain ⟨x, hoptimal, hvalues, hobjective⟩ := hsolve p hfault hcode
  have hnum : p.numVars = m.vars.length := by
    rw [Pending.numVars, hloaded.columns, List.length_map, hlen]
  refine ⟨x, ?_, (hloaded.optimal_iff hnumbered hscoped hfinite x).mp hoptimal, ?_⟩
  · rw [← hnum]
    exact hvalues
  · exact hobjective.trans (hloaded.objectiveAt_eq hscoped hfinite x)

namespace Sample

/-- The most of `5 x + 2 y + 1` where `2 x + y + 1` is at most `x + y + 4`, for `x` without an upper
bound and a binary `y`. -/
def model : Model Float :=
  let (x, m) := Model.empty.addVar 0 (1 / 0) .continuous
  let (y, m) := m.addBinaryVar
  let lhs := (((Expr.ofVar x).scale 2).plus (.ofVar y)).plus (.new 1)
  let rhs := ((Expr.ofVar x).plus (.ofVar y)).plus (.new 4)
  let (_, m) := m.addConstraint ⟨lhs, .lessEqual, rhs⟩
  m.setObjective ((((Expr.ofVar x).scale 5).plus ((Expr.ofVar y).scale 2)).plus (.new 1)) .maximize

theorem model_built : model.Built := by
  let m : Model Float := Model.empty
  have hx := Expr.Built.ofVar (m.addVar 0 (1 / 0) .continuous).1
  have hy := Expr.Built.ofVar (m.addVar 0 (1 / 0) .continuous).2.addBinaryVar.1
  have hvars := ((Model.Built.empty : m.Built).addVar 0 (1 / 0) .continuous).addVar 0 1 .binary
  have hlhs := ((hx.scale 2).plus hy).plus (.new 1)
  have hrhs := (hx.plus hy).plus (.new 4)
  have hobjective := ((hx.scale 5).plus (hy.scale 2)).plus (.new 1)
  exact (hvars.addConstraint ⟨_, .lessEqual, _⟩ hlhs hrhs).setObjective hobjective .maximize

def best : Point :=
  fun id => if id = 0 then 3 else 1

/-- What the calls of the model make. -/
def Known (p : Pending Exact) : Prop :=
  p.columns = [⟨.finite 0, .posInf, .continuous⟩, ⟨.finite 0, .finite 1, .binary⟩] ∧
  p.rows = [⟨[(0, .finite 1)], .lessEqual, .finite 3⟩] ∧
  p.objective = some ⟨[(0, .finite 5), (1, .finite 2)], .finite 1, .maximize⟩

instance (p : Pending Exact) : Decidable (Known p) :=
  inferInstanceAs (Decidable (_ ∧ _ ∧ _))

def solve (p : Pending Exact) : RawResult Exact × Log :=
  if Known p then (.best [.finite 3, .finite 1] (.finite 18), [])
  else (.failed ⟨Code.unknownError, "unknown problem"⟩ p.numVars, [])

namespace Known

variable {p : Pending Exact}

theorem objectiveAt_eq (hp : Known p) (y : Point) :
    p.objectiveAt y = .finite (5 * y 0 + 2 * y 1 + 1) := by
  obtain ⟨hcolumns, -, hobjective⟩ := hp
  simp [Pending.objectiveAt, Pending.evaluate, Pending.numVars, PendingObjective.evaluate,
    hcolumns, hobjective, Point.exact, List.range_succ]

theorem feasible_best (hp : Known p) : p.Feasible best := by
  obtain ⟨hcolumns, hrows, -⟩ := hp
  refine ⟨fun i hi => ?_, ?_⟩
  · have hcases : i = 0 ∨ i = 1 := by
      simp only [hcolumns, List.length_cons, List.length_nil] at hi
      omega
    simp only [hcolumns]
    rcases hcases with rfl | rfl
    · change VarKind.continuous.Admits (.finite 0) .posInf 3
      exact ⟨by simp, .inl rfl, by decide⟩
    · change VarKind.binary.Admits (.finite 0) (.finite 1) 1
      exact ⟨by simp, by simp, by decide⟩
  · simp [hrows, Sense.Holds, Terms.value, Point.exact, best]

theorem optimal_best (hp : Known p) : p.Optimal best := by
  refine ⟨hp.feasible_best, fun o ho y hy => ?_⟩
  obtain ⟨hcolumns, hrows, hobjective⟩ := id hp
  rw [hobjective] at ho
  obtain rfl := Option.mem_some_iff.mp ho
  have hrow : y 0 ≤ 3 := by
    simpa [hrows, Sense.Holds, Terms.value, Point.exact] using hy.rows
  have hcolumn : y 1 ≤ 1 := by
    have hadmits : VarKind.binary.Admits (.finite 0) (.finite 1) (y 1) := by
      simpa [hcolumns] using hy.columns 1
    exact (Exact.atMost_finite _ _).mp hadmits.le_upper
  have hworse : 5 * y 0 + 2 * y 1 + 1 ≤ 5 * best 0 + 2 * best 1 + 1 := by
    norm_num [best]
    linarith
  simpa [Direction.Better, hp.objectiveAt_eq] using hworse

end Known

theorem solves : Solves solve := by
  intro p _ hcode
  unfold solve at hcode ⊢
  split_ifs at hcode ⊢ with hp
  · refine ⟨best, hp.optimal_best, ?_, ?_⟩
    · simp [RawResult.best, Point.values, Pending.numVars, Point.exact, best, hp.1,
        List.range_succ]
    · rw [hp.objectiveAt_eq]
      norm_num [RawResult.best, best]
  · simp [RawResult.failed, Code.unknownError, Failure.noError] at hcode

theorem flatten_preserves_meaning_sample :
    model.Built ∧ (model.map Exact.ofFloat).Finite ∧ model.flatten = .ok model.arrays ∧
    Solves solve ∧
    ∃ s, ((Solver.buffered "sample" solve).run (model.map Exact.ofFloat) .empty).result = .ok s ∧
      ∃ x : Point, s.values = x.values 2 ∧ (model.map Exact.ofFloat).Optimal x ∧
        s.objective = (model.map Exact.ofFloat).objectiveAt x := by
  have hflat : model.flatten = .ok model.arrays :=
    Model.flatten_eq_ok_iff.mpr ⟨by decide +kernel, rfl⟩
  have hfinite : (model.map Exact.ofFloat).Finite := by decide +kernel
  obtain ⟨-, -, hsolver⟩ := Model.flatten_preserves_meaning Exact.ofFloat model_built hfinite hflat
  obtain ⟨hanswered, hmeaning⟩ := hsolver "sample" solve solves
  obtain ⟨s, hs⟩ := hanswered.mpr (by decide +kernel)
  exact ⟨model_built, hfinite, hflat, solves, s, hs, hmeaning s hs⟩

end Sample

end LinearModel
