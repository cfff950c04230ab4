import LinearModel.Demo.Problems
import LinearModel.Proofs.Operations
import LinearModel.Proofs.Products
import LinearModel.Proofs.Rebuild

/-!
# The model of the assignment problem

The cells of a square are numbered row by row. So the terms of every row, of every column and of the
costs come in ascending order, and each of them is the first of its variable. The model has a flat
form, for it names no variables but its own.
-/

namespace LinearModel

variable {R : Type} [Scalar R]

/-- What is added for the first time stays as it is. -/
structure UnitLaws (R : Type) [Scalar R] : Prop where
  zero_add : ZeroNeutral R
  zero_add_zero : (0 + 0 : R) = 0
  one_ne_zero : ((1 : R) == 0) = false
  ofNat_ne_zero : ∀ k, 0 < k → ((Scalar.ofNat k : R) == 0) = false

namespace Expr

/-- Terms that come in ascending order are put one behind the other. -/
theorem foldl_addTerm_of_ascending (hzero : ZeroNeutral R) {pairs : List (Var R × R)} {e : Expr R}
    (hascending : Terms.Ascending (e.terms ++ pairs.map fun p => (p.1.id, p.2)))
    (hpairs : ∀ p ∈ pairs, (p.2 == 0) = false) :
    pairs.foldl (fun e (v, c) => e.addTerm c v) e =
      ⟨e.terms ++ pairs.map fun p => (p.1.id, p.2), e.constant⟩ := by
  induction pairs generalizing e with
  | nil => simp
  | cons p pairs ih =>
    obtain ⟨v, c⟩ := p
    obtain ⟨hc, hpairs⟩ := List.forall_mem_cons.mp hpairs
    rw [List.map_cons] at hascending ⊢
    have hbefore : ∀ t ∈ e.terms, t.1 < v.id := fun t ht =>
      (List.pairwise_append.mp hascending).2.2 t ht _ List.mem_cons_self
    have hstep : e.addTerm c v = ⟨e.terms ++ [(v.id, c)], e.constant⟩ := by
      rw [addTerm, Terms.add_of_forall_lt hzero hbefore hc]
    rw [List.append_cons] at hascending ⊢
    refine (congrArg (List.foldl _ · pairs) hstep).trans ?_
    exact ih hascending hpairs

theorem foldl_addTerm_new (hzero : ZeroNeutral R) (k : R) {pairs : List (Var R × R)}
    (hascending : pairs.Pairwise fun p q => p.1.id < q.1.id)
    (hpairs : ∀ p ∈ pairs, (p.2 == 0) = false) :
    pairs.foldl (fun e (v, c) => e.addTerm c v) (new k) =
      ⟨pairs.map fun p => (p.1.id, p.2), k⟩ :=
  foldl_addTerm_of_ascending hzero (List.pairwise_map.mpr hascending) hpairs

theorem foldl_plus_ofVar (hlaws : UnitLaws R) (vars : List (Var R)) {e : Expr R}
    (he : e.constant = 0) : (vars.map ofVar).foldl plus e =
      (vars.map fun v => (v, (1 : R))).foldl (fun e (v, c) => e.addTerm c v) e := by
  induction vars generalizing e with
  | nil => rfl
  | cons v vars ih =>
    have hstep : e.plus (ofVar v) = e.addTerm 1 v := by
      rw [ofVar_eq hlaws.zero_add hlaws.one_ne_zero, plus, he, hlaws.zero_add_zero, ← he]
      rfl
    rw [List.map_cons, List.map_cons, List.foldl_cons, List.foldl_cons, hstep]
    exact ih he

theorem sumVars_of_ascending (hlaws : UnitLaws R) {vars : List (Var R)}
    (h : vars.Pairwise fun v w => v.id < w.id) :
    sumVars vars = ⟨vars.map fun v => (v.id, 1), 0⟩ := by
  have hones : ∀ p ∈ vars.map fun v => (v, (1 : R)), (p.2 == 0) = false :=
    List.forall_mem_map.mpr fun _ _ => hlaws.one_ne_zero
  rw [sumVars, sum, foldl_plus_ofVar hlaws vars rfl,
    foldl_addTerm_new hlaws.zero_add 0 (List.pairwise_map.mpr h) hones, List.map_map]
  rfl

end Expr

namespace Demo

variable {n : Nat}

/-- The variable in row `i` and column `j`. -/
def cell (n i j : Nat) : Var R :=
  ⟨i * n + j, 0, 1, .binary⟩

def cells (n : Nat) : List (List (Var R)) :=
  (List.range n).map fun i => (List.range n).map (cell n i)

/-- The sum of `n` variables with these numbers. -/
def unitSum (n : Nat) (number : Nat → Nat) : Expr R :=
  ⟨(List.range n).map fun k => (number k, 1), 0⟩

def rowSum (n k : Nat) : Expr R :=
  unitSum n fun j => k * n + j

def columnSum (n k : Nat) : Expr R :=
  unitSum n fun i => i * n + k

/-- The places of a square, row by row. -/
def places (n : Nat) : List (Fin n × Fin n) :=
  (List.finRange n).flatMap fun i => (List.finRange n).map fun j => (i, j)

def costs (n : Nat) : Expr R :=
  ⟨(places n).map fun (i, j) => (i * n + j, Scalar.ofNat (assignmentCost n i j)), 0⟩

/-- A binary for every cell; row `k` and then column `k` sum up to one. -/
def square (n : Nat) (feasibility : Bool) : Model R where
  vars := (List.range (n * n)).map fun id => ⟨id, 0, 1, .binary⟩
  constraints := (List.range n).flatMap fun k =>
    [⟨rowSum n k, .equal, .new 1⟩, ⟨columnSum n k, .equal, .new 1⟩]
  objective := if feasibility then none else some ⟨costs n, .minimize⟩

theorem addBinaryVarMatrix_empty (n : Nat) : (Model.empty : Model R).addBinaryVarMatrix n n =
    (cells n, { vars := (List.range (n * n)).map fun id => ⟨id, 0, 1, .binary⟩ }) := by
  have hrow (i : Nat) :
      Model.makeVars (i * n) n (0 : R) 1 .binary = (List.range n).map (cell n i) := by
    rw [Model.makeVars, List.range'_eq_map_range, List.map_map]
    rfl
  have hfirst : ((Model.empty : Model R).addBinaryVarMatrix n n).1 = cells n := by
    rw [Model.addBinaryVarMatrix, Model.addVarMatrix_fst]
    simp only [Model.empty, List.length_nil, Nat.zero_add, hrow]
    rfl
  have hsecond : ((Model.empty : Model R).addBinaryVarMatrix n n).2 =
      { vars := (List.range (n * n)).map fun id => ⟨id, 0, 1, .binary⟩ } := by
    rw [Model.addBinaryVarMatrix, Model.addVarMatrix_snd, Model.addVarVector_snd, Model.makeVars,
      List.range_eq_range']
    rfl
  exact Prod.ext hfirst hsecond

theorem column_lt (hn : 0 < n) (k : Nat) {i i' : Nat} (hlt : i < i') : i * n + k < i' * n + k :=
  Nat.add_lt_add_right (Nat.mul_lt_mul_of_pos_right hlt hn) k

theorem sumVars_binaries (hlaws : UnitLaws R) {number : Nat → Nat}
    (h : ∀ {i j}, i < j → number i < number j) :
    Expr.sumVars ((List.range n).map fun k => (⟨number k, 0, 1, .binary⟩ : Var R)) =
      unitSum n number := by
  have hascending : ((List.range n).map fun k => (⟨number k, 0, 1, .binary⟩ : Var R)).Pairwise
      fun v w => v.id < w.id := List.pairwise_map.mpr (List.pairwise_lt_range.imp h)
  rw [Expr.sumVars_of_ascending hlaws hascending, List.map_map]
  rfl

theorem sumRow_cells (hlaws : UnitLaws R) {k : Nat} (hk : k < n) :
    Expr.sumRow (cells n) k = .ok (rowSum n k : Expr R) := by
  have hrow : (cells n).getD k [] = (List.range n).map (cell (R := R) n k) := by
    simp [cells, hk]
  refine Expr.sumRow_eq_ok.mpr ⟨by simpa [cells] using hk, ?_⟩
  rw [hrow]
  exact sumVars_binaries hlaws fun hlt => Nat.add_lt_add_left hlt _

theorem sumCol_cells (hlaws : UnitLaws R) {k : Nat} (hk : k < n) :
    Expr.sumCol (cells n) k = .ok (columnSum n k : Expr R) := by
  have hn : 0 < n := Nat.zero_lt_of_lt hk
  have hcolumn : (cells n).filterMap (·[k]?) = (List.range n).map fun i => cell (R := R) n i k := by
    rw [cells, List.filterMap_map]
    apply List.filterMap_eq_map_iff_forall_eq_some.mpr
    intro i _
    simp [hk]
  refine Expr.sumCol_eq_ok.mpr ⟨⟨?_, ?_⟩, ?_⟩
  · simpa [cells] using Nat.ne_of_gt hn
  · simp [cells, hk]
  · rw [hcolumn]
    exact sumVars_binaries hlaws fun hlt => column_lt hn k hlt

theorem pickOnce_cells (hlaws : UnitLaws R) (n : Nat) :
    pickOnce n (cells n) = .ok (square (R := R) n true).constraints := by
  have hpair (k : Nat) (hk : k ∈ List.range n) : (do
      let row ← Expr.sumRow (cells n) k
      let column ← Expr.sumCol (cells n) k
      return [⟨row, .equal, .new 1⟩, ⟨column, .equal, .new 1⟩] :
        Except Error (List (Constraint R))) =
      .ok [⟨rowSum n k, .equal, .new 1⟩, ⟨columnSum n k, .equal, .new 1⟩] := by
    have hk' : k < n := List.mem_range.mp hk
    rw [sumRow_cells hlaws hk', sumCol_cells hlaws hk']
    rfl
  rw [pickOnce, mapM_of_forall hpair]
  rfl

omit [Scalar R] in
theorem foldl_addConstraint (m : Model R) (cs : List (Constraint R)) :
    cs.foldl (fun m c => (m.addConstraint c).2) m =
      { m with constraints := m.constraints ++ cs } := by
  induction cs generalizing m with
  | nil => simp
  | cons c cs ih =>
    rw [List.foldl_cons, ih, Model.addConstraint, List.append_assoc]
    rfl

theorem addressed_cells (n : Nat) : addressed (cells n) =
    (places n).map fun (i, j) => ((i : Nat), (j : Nat), (cell n i j : Var R)) := by
  have hzip {α : Type} (f : Nat → α) :
      ((List.range n).map f).zipIdx = (List.finRange n).map fun i : Fin n => (f i, (i : Nat)) := by
    apply List.ext_getElem
    · simp
    · simp
  rw [addressed, cells, hzip]
  simp only [hzip, List.flatMap_map, List.map_map, places, List.map_flatMap, Function.comp_def]

/-- Cells that come later have larger numbers. -/
theorem ascending_places (n : Nat) :
    (places n).Pairwise fun p q => (p.1 * n + p.2 : Nat) < q.1 * n + q.2 := by
  refine List.pairwise_flatMap.mpr ⟨fun i _ => ?_, ?_⟩
  · exact List.pairwise_map.mpr
      ((List.pairwise_lt_finRange n).imp fun hlt => Nat.add_lt_add_left hlt _)
  · refine (List.pairwise_lt_finRange n).imp fun {i i'} hlt => ?_
    rintro p hp q hq
    obtain ⟨j, -, rfl⟩ := List.mem_map.mp hp
    obtain ⟨j', -, rfl⟩ := List.mem_map.mp hq
    have hrow : ((i : Nat) + 1) * n ≤ i' * n := Nat.mul_le_mul_right n hlt
    rw [Nat.succ_mul] at hrow
    change (i : Nat) * n + j < i' * n + j'
    omega

theorem totalCost_cells (hlaws : UnitLaws R) (n : Nat) :
    totalCost n (cells n) = (costs n : Expr R) := by
  have hfold : totalCost n (cells n) =
      ((places n).map fun (i, j) =>
        ((cell n i j : Var R), (Scalar.ofNat (assignmentCost n i j) : R))).foldl
          (fun e (v, c) => e.addTerm c v) (.new 0) := by
    rw [totalCost, addressed_cells, List.foldl_map, List.foldl_map]
  rw [hfold, Expr.foldl_addTerm_new hlaws.zero_add 0 (List.pairwise_map.mpr (ascending_places n)),
    List.map_map]
  · rfl
  · exact List.forall_mem_map.mpr fun _ _ => hlaws.ofNat_ne_zero _ (Nat.succ_pos _)

theorem assignmentModel_eq (hlaws : UnitLaws R) (n : Nat) (feasibility : Bool) :
    assignmentModel n feasibility = .ok (cells n, (square n feasibility : Model R)) := by
  unfold assignmentModel
  simp only [addBinaryVarMatrix_empty, pickOnce_cells hlaws, totalCost_cells hlaws]
  refine congrArg (fun m => Except.ok (cells n, m)) ?_
  rw [foldl_addConstraint]
  cases feasibility <;> rfl

/-! ## What the model consists of -/

theorem assignmentCost_bounds {n : Nat} (hn : 0 < n) (i j : Nat) :
    1 ≤ assignmentCost n i j ∧ assignmentCost n i j ≤ n :=
  ⟨Nat.le_add_left 1 _, Nat.mod_lt _ hn⟩

theorem termCount_costs (n : Nat) : (costs n : Expr R).termCount = n * n := by
  simp [Expr.termCount, costs, places]

/-- Of pairs laid out one behind the other, the first are at the even places. -/
theorem getElem?_flatMap_pair {α : Type} (f g : Nat → α) {n k : Nat} (hk : k < n) :
    ((List.range n).flatMap fun k => [f k, g k])[2 * k]? = some (f k) ∧
      ((List.range n).flatMap fun k => [f k, g k])[2 * k + 1]? = some (g k) := by
  induction n with
  | zero => exact absurd hk (Nat.not_lt_zero k)
  | succ n ih =>
    have hlen : ((List.range n).flatMap fun k => [f k, g k]).length = 2 * n := by
      simp [Nat.mul_comm]
    rw [List.range_succ, List.flatMap_append]
    by_cases hlast : k = n
    · subst hlast
      rw [List.getElem?_append_right (by omega), List.getElem?_append_right (by omega), hlen]
      simp
    · obtain ⟨hf, hg⟩ := ih (by omega)
      rw [List.getElem?_append_left (by omega), List.getElem?_append_left (by omega)]
      exact ⟨hf, hg⟩

/-! ## Its variables are its own -/

theorem number_lt (i j : Fin n) : (i * n + j : Nat) < n * n := by
  have hrow : ((i : Nat) + 1) * n ≤ n * n := Nat.mul_le_mul_right n i.isLt
  rw [Nat.succ_mul] at hrow
  omega

theorem mem_constraints {feasibility : Bool} {c : Constraint R} :
    c ∈ (square n feasibility : Model R).constraints ↔
      ∃ k < n, c = ⟨rowSum n k, .equal, .new 1⟩ ∨ c = ⟨columnSum n k, .equal, .new 1⟩ := by
  simp [square]

theorem unitSum_below {number : Nat → Nat} {l : Nat} (h : ∀ k < n, number k < l) :
    (unitSum n number : Expr R).Below l :=
  List.forall_mem_map.mpr fun k hk => h k (List.mem_range.mp hk)

theorem unitSum_ascending {number : Nat → Nat} (h : ∀ {i j}, i < j → number i < number j) :
    (unitSum n number : Expr R).terms.Ascending :=
  List.pairwise_map.mpr (List.pairwise_lt_range.imp h)

theorem mem_objective {feasibility : Bool} {o : Objective R}
    (ho : o ∈ (square n feasibility : Model R).objective) : o = ⟨costs n, .minimize⟩ := by
  cases feasibility with
  | true => cases ho
  | false => exact (Option.some.inj ho).symm

theorem square_scoped (n : Nat) (feasibility : Bool) :
    (square n feasibility : Model R).Scoped where
  constraints := by
    intro c hc
    have hlen : (square n feasibility : Model R).vars.length = n * n := by simp [square]
    have hnumber {i j : Nat} (hi : i < n) (hj : j < n) : i * n + j < n * n :=
      number_lt ⟨i, hi⟩ ⟨j, hj⟩
    rw [hlen]
    obtain ⟨k, hk, rfl | rfl⟩ := mem_constraints.mp hc
    · exact ⟨unitSum_below fun j hj => hnumber hk hj, List.forall_mem_nil _⟩
    · exact ⟨unitSum_below fun i hi => hnumber hi hk, List.forall_mem_nil _⟩
  objective := by
    intro o ho
    have hlen : (square n feasibility : Model R).vars.length = n * n := by simp [square]
    rw [mem_objective ho, hlen]
    exact List.forall_mem_map.mpr fun p _ => number_lt p.1 p.2

theorem square_closed (hn : 0 < n) (feasibility : Bool) :
    (square n feasibility : Model R).Closed where
  nonempty := by
    have hsquare : n * n ≠ 0 := Nat.mul_ne_zero (Nat.ne_of_gt hn) (Nat.ne_of_gt hn)
    simpa [square] using hsquare
  constraints := by
    intro c hc
    obtain ⟨hlhs, hrhs⟩ := (square_scoped n feasibility).constraints c hc
    have hascending : c.lhs.terms.Ascending ∧ c.rhs.terms.Ascending := by
      obtain ⟨k, hk, rfl | rfl⟩ := mem_constraints.mp hc
      · exact ⟨unitSum_ascending fun hlt => Nat.add_lt_add_left hlt _, Terms.ascending_nil⟩
      · exact ⟨unitSum_ascending fun hlt => column_lt hn k hlt, Terms.ascending_nil⟩
    exact ⟨(Expr.within_iff_below hascending.1).mpr hlhs,
      (Expr.within_iff_below hascending.2).mpr hrhs⟩
  objective := by
    intro o ho
    have hbelow := (square_scoped n feasibility).objective o ho
    have hascending : o.expr.terms.Ascending := by
      rw [mem_objective ho]
      exact List.pairwise_map.mpr (ascending_places n)
    exact (Expr.within_iff_below hascending).mpr hbelow

end Demo

end LinearModel
