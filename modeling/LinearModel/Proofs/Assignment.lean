import Mathlib.Algebra.BigOperators.Fin
import LinearModel.Proofs.AssignmentModel
import LinearModel.Proofs.Exact

/-!
# Assignments are permutations

Where every row and every column of a square sums up to one and all cells are zero or one, the ones
pick a column for each row and a row for each column, each choice undoing the other.
-/

namespace LinearModel

/-! ## Ones in a square -/

theorem exists_pick {n : Nat} {f : Fin n → Rat} (h : ∀ j, f j = 0 ∨ f j = 1)
    (hsum : ∑ j, f j = 1) : ∃ k, ∀ j, f j = 1 ↔ j = k := by
  have hones : (Finset.univ.filter fun j => f j = 1).card = 1 := by
    have hf : ∀ j ∈ Finset.univ, f j = if f j = 1 then 1 else 0 := by
      intro j _
      rcases h j with hj | hj <;> simp [hj]
    rw [Finset.sum_congr rfl hf, Finset.sum_boole] at hsum
    exact_mod_cast hsum
  obtain ⟨k, hk⟩ := Finset.card_eq_one.mp hones
  refine ⟨k, fun j => ?_⟩
  have hmem : j ∈ Finset.univ.filter (fun j => f j = 1) ↔ j ∈ ({k} : Finset (Fin n)) := by
    rw [hk]
  simpa using hmem

theorem exists_perm {n : Nat} {x : Fin n → Fin n → Rat} (h : ∀ i j, x i j = 0 ∨ x i j = 1)
    (hrows : ∀ i, ∑ j, x i j = 1) (hcolumns : ∀ j, ∑ i, x i j = 1) :
    ∃ σ : Equiv.Perm (Fin n), ∀ i j, x i j = if j = σ i then 1 else 0 := by
  choose s hs using fun i => exists_pick (h i) (hrows i)
  choose t ht using fun j => exists_pick (fun i => h i j) (hcolumns j)
  have hst (i j : Fin n) : j = s i ↔ i = t j := (hs i j).symm.trans (ht j i)
  refine ⟨⟨s, t, fun i => ((hst i (s i)).mp rfl).symm, fun j => ((hst (t j) j).mpr rfl).symm⟩,
    fun i j => ?_⟩
  split_ifs with hj
  · exact (hs i j).mpr hj
  · exact (h i j).resolve_right (mt (hs i j).mp hj)

namespace Demo

variable {R : Type} [Scalar R] {n : Nat} {x : Point}

/-- The ones of the point are where the permutation takes each row. -/
def Picks (x : Point) (σ : Equiv.Perm (Fin n)) : Prop :=
  ∀ i j : Fin n, x (i * n + j) = if j = σ i then 1 else 0

theorem filterMap_places {α : Type} (σ : Equiv.Perm (Fin n)) (f : Fin n → Fin n → α) :
    (places n).filterMap (fun p => if p.2 = σ p.1 then some (f p.1 p.2) else none) =
      List.ofFn fun i => f i (σ i) := by
  have hrow (i : Fin n) : ((List.finRange n).map fun j => (i, j)).filterMap
      (fun p => if p.2 = σ p.1 then some (f p.1 p.2) else none) = [f i (σ i)] := by
    have hfilter : (List.finRange n).filter (· == σ i) = [σ i] := by
      rw [List.filter_beq, List.count_finRange]
      rfl
    have hpick : ((List.finRange n).filter (· == σ i)).map (f i) = [f i (σ i)] := by
      rw [hfilter, List.map_singleton]
    rw [List.filterMap_map, ← hpick, ← List.filterMap_eq_map, ← List.filterMap_eq_filter,
      List.filterMap_filterMap]
    apply List.filterMap_congr
    intro j _
    by_cases hj : j = σ i <;> simp [Option.guard, hj]
  rw [places, List.filterMap_flatMap]
  simp only [hrow, List.ofFn_eq_map]
  exact List.flatMap_pure_eq_map (fun i => f i (σ i)) (List.finRange n)

theorem sum_places (σ : Equiv.Perm (Fin n)) (c : Fin n → Fin n → Nat) :
    ((places n).map fun p => if p.2 = σ p.1 then c p.1 p.2 else 0).sum = ∑ i, c i (σ i) := by
  rw [places, List.map_flatMap, List.flatMap, List.sum_flatten, List.map_map, ← List.ofFn_eq_map,
    List.sum_ofFn]
  refine Finset.sum_congr rfl fun i _ => ?_
  rw [Function.comp_apply, List.map_map, ← List.ofFn_eq_map, List.sum_ofFn]
  simp

/-! ## What a feasible point is -/

/-- Zero and one are read as such, and no value that is read as zero counts as set. -/
structure ReadLaws (R : Type) [Scalar R] (read : R → Exact) : Prop where
  read_zero : read 0 = .finite 0
  read_one : read 1 = .finite 1
  eq_one : ∀ a, read a = .finite 1 → a = 1
  less_zero : ∀ a, read a = .finite 0 → Scalar.less 0.01 a = false
  less_one : Scalar.less (0.01 : R) 1 = true

variable {read : R → Exact}

theorem eq_zero_or_one {feasibility : Bool} (hread : ReadLaws R read)
    (hx : ((square n feasibility : Model R).map read).Feasible x) {id : Nat} (hid : id < n * n) :
    x id = 0 ∨ x id = 1 := by
  have hmem : (⟨id, read 0, read 1, .binary⟩ : Var Exact) ∈
      ((square n feasibility : Model R).map read).vars := by
    simp only [Model.map, square, List.mem_map, List.mem_range]
    exact ⟨_, ⟨id, hid, rfl⟩, rfl⟩
  obtain ⟨hlower, hupper, hwhole⟩ := hx.vars _ hmem
  rw [hread.read_zero, Exact.atMost_finite] at hlower
  rw [hread.read_one, Exact.atMost_finite] at hupper
  have hnum : ((x id).num : Rat) = x id := (Rat.den_eq_one_iff _).mp (hwhole rfl)
  rw [← hnum] at hlower hupper ⊢
  have hlow : 0 ≤ (x id).num := by exact_mod_cast hlower
  have hhigh : (x id).num ≤ 1 := by exact_mod_cast hupper
  have hcases : (x id).num = 0 ∨ (x id).num = 1 := by omega
  exact_mod_cast hcases

theorem value_unitSum (n : Nat) (number : Nat → Nat) (x : Point) :
    (unitSum n number : Expr Rat).value x = ∑ j : Fin n, x (number j) := by
  have hterms : (((List.range n).map fun j => (number j, (1 : Rat))).map
      fun (id, c) => c * x id) = (List.range n).map fun j => x (number j) := by
    simp
  have hrange : ((List.range n).map fun j => x (number j)).sum =
      ∑ j ∈ Finset.range n, x (number j) := rfl
  rw [Expr.value, Terms.value, unitSum, hterms, hrange, Finset.sum_range, add_zero]

theorem holds_unitSum (hread : ReadLaws R read) (number : Nat → Nat) :
    Sense.equal.Holds (((unitSum n number : Expr R).map read).value x.exact)
      (((Expr.new 1 : Expr R).map read).value x.exact) ↔ ∑ j : Fin n, x (number j) = 1 := by
  have hlhs : (unitSum n number : Expr R).map read = (unitSum n number : Expr Rat).map .finite := by
    simp [Expr.map, unitSum, Terms.mapCoeffs, hread.read_zero, hread.read_one]
  have hrhs : (Expr.new 1 : Expr R).map read = (Expr.new 1 : Expr Rat).map .finite := by
    simp [Expr.map, Expr.new, Terms.mapCoeffs, hread.read_one]
  rw [hlhs, hrhs, Expr.value_map_finite, Expr.value_map_finite, value_unitSum, Expr.value_new]
  change (∑ j : Fin n, x (number j) == 1) = true ↔ _
  exact beq_iff_eq

theorem exists_picks {feasibility : Bool} (hread : ReadLaws R read)
    (hx : ((square n feasibility : Model R).map read).Feasible x) :
    ∃ σ : Equiv.Perm (Fin n), Picks x σ := by
  have hholds (c : Constraint R) (hc : c ∈ (square n feasibility : Model R).constraints) :=
    hx.constraints (c.map read) (List.mem_map_of_mem hc)
  refine exists_perm (x := fun i j => x (i * n + j)) (fun i j => ?_) (fun i => ?_) fun j => ?_
  · exact eq_zero_or_one hread hx (number_lt i j)
  · exact (holds_unitSum hread _).mp
      (hholds ⟨rowSum n i, .equal, .new 1⟩ (mem_constraints.mpr ⟨i, i.isLt, .inl rfl⟩))
  · exact (holds_unitSum hread _).mp
      (hholds ⟨columnSum n j, .equal, .new 1⟩ (mem_constraints.mpr ⟨j, j.isLt, .inr rfl⟩))

theorem Picks.admits (hread : ReadLaws R read) {σ : Equiv.Perm (Fin n)} (hσ : Picks x σ)
    {id : Nat} (hid : id < n * n) : VarKind.binary.Admits (read 0) (read 1) (x id) := by
  have hn : 0 < n := Nat.pos_of_ne_zero fun hzero => by simp [hzero] at hid
  have hsplit : id / n * n + id % n = id := Nat.div_add_mod' id n
  have hvalue := hσ ⟨id / n, Nat.div_lt_of_lt_mul hid⟩ ⟨id % n, Nat.mod_lt id hn⟩
  rw [hsplit] at hvalue
  rw [hread.read_zero, hread.read_one, hvalue]
  split_ifs
  · exact ⟨by simp, by simp, fun _ => rfl⟩
  · exact ⟨by simp, by simp, fun _ => rfl⟩

theorem feasible_iff_picks {feasibility : Bool} (hread : ReadLaws R read) :
    ((square n feasibility : Model R).map read).Feasible x ↔
      ∃ σ : Equiv.Perm (Fin n), Picks x σ := by
  refine ⟨exists_picks hread, ?_⟩
  rintro ⟨σ, hσ⟩
  constructor
  · intro v hv
    obtain ⟨w, hw, rfl⟩ := List.mem_map.mp hv
    obtain ⟨id, hid, rfl⟩ := List.mem_map.mp hw
    exact hσ.admits hread (List.mem_range.mp hid)
  · intro c hc
    obtain ⟨d, hd, rfl⟩ := List.mem_map.mp hc
    obtain ⟨k, hk, rfl | rfl⟩ := mem_constraints.mp hd
    · refine (holds_unitSum hread _).mpr ?_
      have hrow (j : Fin n) : x (k * n + j) = if j = σ ⟨k, hk⟩ then 1 else 0 := hσ ⟨k, hk⟩ j
      simp [hrow]
    · refine (holds_unitSum hread _).mpr ?_
      have hcolumn (i : Fin n) : x (i * n + k) = if i = σ.symm ⟨k, hk⟩ then 1 else 0 := by
        simpa only [Equiv.eq_symm_apply, eq_comm] using hσ i ⟨k, hk⟩
      simp [hcolumn]

/-! ## What is reported -/

section Report

variable {s : Solution R} {σ : Equiv.Perm (Fin n)}

omit [Scalar R] in
theorem exists_value {values : List R} (hvalues : values.map read = x.values (n * n))
    (i j : Fin n) :
    ∃ a, values[(i * n + j : Nat)]? = some a ∧ read a = .finite (x (i * n + j)) := by
  have hget : (values.map read)[(i * n + j : Nat)]? = some (.finite (x (i * n + j))) := by
    rw [hvalues]
    simp [Point.values, Point.exact, number_lt]
  rw [List.getElem?_map] at hget
  exact Option.map_eq_some_iff.mp hget

theorem value_cell (hvalues : s.values.map read = x.values (n * n)) (i j : Fin n) :
    ∃ a, s.value (cell n i j) = .ok a ∧ read a = .finite (x (i * n + j)) := by
  obtain ⟨a, ha, hread⟩ := exists_value hvalues i j
  refine ⟨a, ?_, hread⟩
  rw [Solution.value, cell, ha]

theorem isOne_cell (hread : ReadLaws R read) (hvalues : s.values.map read = x.values (n * n))
    (hσ : Picks x σ) (i j : Fin n) : s.isOne (cell n i j) = .ok (decide (j = σ i)) := by
  obtain ⟨a, hvalue, ha⟩ := value_cell hvalues i j
  have hkind : (cell n i j : Var R).kind.isIntegral = true := rfl
  have hless : Scalar.less (0.01 : R) a = decide (j = σ i) := by
    rw [hσ i j] at ha
    by_cases hj : j = σ i
    · rw [if_pos hj] at ha
      rw [hread.eq_one a ha, hread.less_one, decide_eq_true hj]
    · rw [if_neg hj] at ha
      rw [hread.less_zero a ha, decide_eq_false hj]
  rw [Solution.isOne, if_pos hkind, hvalue]
  exact congrArg Except.ok hless

theorem value_picked (hread : ReadLaws R read) (hvalues : s.values.map read = x.values (n * n))
    (hσ : Picks x σ) (i : Fin n) : s.value (cell n i (σ i)) = .ok 1 := by
  obtain ⟨a, hvalue, ha⟩ := value_cell hvalues i (σ i)
  rw [hσ, if_pos rfl] at ha
  rw [hvalue, hread.eq_one a ha]

theorem picked_cells (hread : ReadLaws R read) (hvalues : s.values.map read = x.values (n * n))
    (hσ : Picks x σ) : picked s (cells n) =
      .ok (List.ofFn fun i => (s!"row {(i : Nat)} -> col {(σ i : Nat)}", cell n i (σ i))) := by
  rw [picked, addressed_cells, ← filterMap_places σ fun i j =>
    (s!"row {(i : Nat)} -> col {(j : Nat)}", (cell n i j : Var R))]
  apply filterMapM_of_forall
  rintro ⟨i, j⟩ -
  simp only [isOne_cell hread hvalues hσ]
  by_cases hj : j = σ i
  · rw [decide_eq_true hj, if_pos hj]
    rfl
  · rw [decide_eq_false hj, if_neg hj]
    rfl

theorem report_picked (hread : ReadLaws R read) (hvalues : s.values.map read = x.values (n * n))
    (hσ : Picks x σ) (title : String) : (do Report.ofSolution title s (← picked s (cells n))) =
      .ok ⟨title, List.ofFn fun i => (s!"row {(i : Nat)} -> col {(σ i : Nat)}", 1), s.objective,
        s.optimal⟩ := by
  have hlookup : ∀ p ∈ List.ofFn fun i =>
      (s!"row {(i : Nat)} -> col {(σ i : Nat)}", (cell n i (σ i) : Var R)),
        (do return (p.1, ← s.value p.2)) = (.ok (p.1, 1) : Except Error (String × R)) := by
    intro p hp
    obtain ⟨i, rfl⟩ := List.mem_ofFn.mp hp
    rw [value_picked hread hvalues hσ]
    rfl
  rw [picked_cells hread hvalues hσ]
  change Report.ofSolution title s _ = _
  rw [Report.ofSolution, mapM_of_forall hlookup, List.map_ofFn]
  rfl

end Report

/-! ## What it costs -/

/-- Whole numbers that fit are added and multiplied exactly, up to the sign of a zero. -/
structure SumLaws (R : Type) [Scalar R] (read : R → Exact) (Fits : Nat → Prop) : Prop where
  mono : ∀ {k l}, k ≤ l → Fits l → Fits k
  neg_zero : (-0 == (Scalar.ofNat 0 : R)) = true
  mul_one : ∀ k, Fits k → ((Scalar.ofNat k : R) * 1 == Scalar.ofNat k) = true
  mul_zero : ∀ k a, Fits k → read a = .finite 0 →
    ((Scalar.ofNat k : R) * a == Scalar.ofNat 0) = true
  add : ∀ k l a b, Fits (k + l) → (a == (Scalar.ofNat k : R)) = true →
    (b == (Scalar.ofNat l : R)) = true → (a + b == (Scalar.ofNat (k + l) : R)) = true
  add_zero : ∀ k a, (a == (Scalar.ofNat k : R)) = true → a + 0 = Scalar.ofNat k

variable {Fits : Nat → Prop}

theorem foldl_costs {α : Type} (hread : ReadLaws R read) (hsum : SumLaws R read Fits)
    (value : Nat → R) (number : α → Nat) {cost : α → Nat} {pick : α → Prop} [DecidablePred pick]
    {as : List α} (hvalue : ∀ a ∈ as, read (value (number a)) = .finite (if pick a then 1 else 0))
    (hcost : ∀ a ∈ as, Fits (cost a)) {k : Nat} {total : R}
    (htotal : (total == (Scalar.ofNat k : R)) = true)
    (hfits : Fits (k + (as.map fun a => if pick a then cost a else 0).sum)) :
    ((as.map fun a => (number a, (Scalar.ofNat (cost a) : R))).foldl
      (fun sum (id, c) => sum + c * value id) total ==
        (Scalar.ofNat (k + (as.map fun a => if pick a then cost a else 0).sum) : R)) = true := by
  induction as generalizing k total with
  | nil => exact htotal
  | cons a as ih =>
    obtain ⟨hvalue, hvalues⟩ := List.forall_mem_cons.mp hvalue
    obtain ⟨hcost, hcosts⟩ := List.forall_mem_cons.mp hcost
    have hproduct : ((Scalar.ofNat (cost a) : R) * value (number a) ==
        (Scalar.ofNat (if pick a then cost a else 0) : R)) = true := by
      by_cases hpick : pick a
      · rw [if_pos hpick] at hvalue ⊢
        rw [hread.eq_one _ hvalue]
        exact hsum.mul_one _ hcost
      · rw [if_neg hpick] at hvalue ⊢
        exact hsum.mul_zero _ _ hcost hvalue
    simp only [List.map_cons, List.sum_cons, ← Nat.add_assoc] at hfits ⊢
    exact ih hvalues hcosts
      (hsum.add _ _ _ _ (hsum.mono (Nat.le_add_right _ _) hfits) htotal hproduct) hfits

theorem sum_costs_le (hn : 0 < n) (σ : Fin n → Fin n) :
    ∑ i : Fin n, assignmentCost n i (σ i) ≤ n * n := by
  have h := Finset.sum_le_card_nsmul Finset.univ (fun i : Fin n => assignmentCost n i (σ i)) n
    fun i _ => (assignmentCost_bounds hn i (σ i)).2
  rwa [Finset.card_univ, Fintype.card_fin, smul_eq_mul] at h

/-- The objective starts at minus zero, and its constant takes the sign away if that is left. -/
theorem evaluate_costs (hn : 0 < n) (hread : ReadLaws R read) (hsum : SumLaws R read Fits)
    (hfits : Fits (n * n)) {values : List R} (hvalues : values.map read = x.values (n * n))
    {σ : Equiv.Perm (Fin n)} (hσ : Picks x σ) :
    (PendingObjective.ofObjective ⟨costs n, .minimize⟩).evaluate values =
      Scalar.ofNat (∑ i : Fin n, assignmentCost n i (σ i)) := by
  have htotal := sum_places σ fun i j => assignmentCost n i j
  have hvalue : ∀ p ∈ places n, read (values.getD (p.1 * n + p.2) 0) =
      .finite (if p.2 = σ p.1 then 1 else 0) := by
    intro p _
    obtain ⟨a, ha, hread⟩ := exists_value hvalues p.1 p.2
    rw [List.getD_eq_getElem?_getD, ha, Option.getD_some, hread, hσ]
  have hcost : ∀ p ∈ places n, Fits (assignmentCost n p.1 p.2) := by
    intro p _
    have hle : n ≤ n * n := Nat.le_mul_of_pos_left n hn
    exact hsum.mono ((assignmentCost_bounds hn p.1 p.2).2.trans hle) hfits
  have hfold := foldl_costs hread hsum (values.getD · 0) (fun p => p.1 * n + p.2) hvalue hcost
    hsum.neg_zero
    (by rw [htotal, Nat.zero_add]; exact hsum.mono (sum_costs_le hn σ) hfits)
  rw [htotal, Nat.zero_add] at hfold
  exact hsum.add_zero _ _ hfold

/-! ## The problem as a whole -/

/-- The model that is asked for, and the report on any solution that is read as a feasible point and
whose objective is the one that the model's calls evaluate to. -/
structure Problem.Assigns (p : Problem R) (read : R → Exact) (Fits : Nat → Prop) (n : Nat)
    (feasibility : Bool) : Prop where
  vars : p.model.vars = (List.range (n * n)).map fun id => ⟨id, 0, 1, .binary⟩
  length_constraints : p.model.constraints.length = 2 * n
  row : ∀ k < n, p.model.constraints[2 * k]? = some ⟨rowSum n k, .equal, .new 1⟩
  column : ∀ k < n, p.model.constraints[2 * k + 1]? = some ⟨columnSum n k, .equal, .new 1⟩
  objective : p.model.objective = if feasibility then none else some ⟨costs n, .minimize⟩
  flatten : p.model.flatten = .ok p.model.arrays
  report : ∀ (settings : Settings) (s : Solution R) (x : Point),
    s.values.map read = x.values (n * n) → (p.model.map read).Feasible x →
    s.objective = (Pending.empty.run (p.model.arrays.calls settings)).evaluate s.values →
    ∃ σ : Equiv.Perm (Fin n),
      p.report s = .ok ⟨s!"Assignment {n}x{n}",
        List.ofFn fun i => (s!"row {(i : Nat)} -> col {(σ i : Nat)}", 1), s.objective, s.optimal⟩ ∧
      (Fits (n * n) → s.objective =
        if feasibility then 0 else Scalar.ofNat (∑ i : Fin n, assignmentCost n i (σ i)))

def assigned (n : Nat) (feasibility : Bool) : Problem R where
  model := square n feasibility
  report := fun s => do Report.ofSolution s!"Assignment {n}x{n}" s (← picked s (cells n))

theorem assignment_eq (hlaws : UnitLaws R) (n : Nat) (feasibility : Bool) :
    assignment n feasibility = .ok (assigned n feasibility : Problem R) := by
  rw [assignment, assignmentModel_eq hlaws]
  rfl

theorem assigns (hread : ReadLaws R read) (hsum : SumLaws R read Fits) (hn : 0 < n)
    (feasibility : Bool) :
    (assigned n feasibility : Problem R).Assigns read Fits n feasibility where
  vars := rfl
  length_constraints := by simp [assigned, square, Nat.mul_comm]
  row k hk := (getElem?_flatMap_pair _ _ hk).1
  column k hk := (getElem?_flatMap_pair _ _ hk).2
  objective := rfl
  flatten := Model.flatten_eq_ok_iff.mpr ⟨square_closed hn feasibility, rfl⟩
  report := by
    intro settings s x hvalues hfeasible hobjective
    obtain ⟨σ, hσ⟩ := (feasible_iff_picks hread).mp hfeasible
    refine ⟨σ, report_picked hread hvalues hσ _, fun hfits => ?_⟩
    have hcalls : (square n feasibility : Model R).arrays.calls settings =
        ({ square n feasibility with settings } : Model R).calls :=
      Model.calls_arrays { square n feasibility with settings }
    have hscoped : ({ square n feasibility with settings } : Model R).Scoped :=
      ⟨(square_scoped n feasibility).constraints, (square_scoped n feasibility).objective⟩
    rw [hobjective, assigned, hcalls, Pending.evaluate, hscoped.loaded.objective]
    cases feasibility with
    | true => rfl
    | false => exact evaluate_costs hn hread hsum hfits hvalues hσ

/-! ## Over floats and over exact numbers -/

theorem unitLaws_float : UnitLaws Float where
  zero_add := zeroNeutral_float
  zero_add_zero := by decide +kernel
  one_ne_zero := by decide +kernel
  ofNat_ne_zero _ := Double.ofNat_ne_zero

theorem readLaws_float : ReadLaws Float Exact.ofFloat where
  read_zero := by decide +kernel
  read_one := by decide +kernel
  eq_one a ha := Double.eq_of_ofFloat_eq one_ne_zero ha (by decide +kernel)
  less_zero a ha := by
    obtain ⟨s, hs⟩ := (Double.beq_zero_iff a).mp (Double.beq_zero_of_ofFloat ha)
    rw [← Double.ofUnpacked_unpacked a, hs]
    cases s <;> decide +kernel
  less_one := by decide +kernel

theorem sumLaws_float : SumLaws Float Exact.ofFloat (· ≤ 2 ^ 53) where
  mono := Nat.le_trans
  neg_zero := by decide +kernel
  mul_one k hk := by
    have hmul : (Float.ofNat k) * 1 = Float.ofNat k := Double.mul_one _
    have hbeq := Double.beq_refl (Double.isFinite_ofNat hk)
    exact (congrArg (· == Float.ofNat k) hmul).trans hbeq
  mul_zero k a hk ha := by
    have hbeq := Double.mul_of_zero (Double.beq_zero_of_ofFloat ha) (Double.isFinite_ofNat hk)
    rw [Double.mul_comm] at hbeq
    exact hbeq
  add _ _ _ _ := Double.add_beq_ofNat
  add_zero _ _ := Double.add_zero_of_beq_ofNat

theorem unitLaws_exact : UnitLaws Exact where
  zero_add c _ := by
    cases c with
    | finite q => exact congrArg Exact.finite (zero_add q)
    | undefined | negInf | posInf => rfl
  zero_add_zero := congrArg Exact.finite (add_zero 0)
  one_ne_zero := rfl
  ofNat_ne_zero k hk := by
    have hne : (k : Rat) ≠ 0 := Nat.cast_ne_zero.mpr (Nat.ne_of_gt hk)
    have hbeq : ((k : Rat) == 0) = false := beq_eq_false_iff_ne.mpr hne
    exact hbeq

theorem readLaws_exact : ReadLaws Exact id where
  read_zero := rfl
  read_one := rfl
  eq_one _ ha := ha
  less_zero a ha := by
    obtain rfl : a = .finite 0 := ha
    decide
  less_one := by decide

theorem sumLaws_exact : SumLaws Exact id fun _ => True where
  mono _ _ := trivial
  neg_zero := by decide
  mul_one k _ := by
    change (Exact.finite k * .finite 1 == .finite k) = true
    simp
  mul_zero k a _ ha := by
    obtain rfl : a = .finite 0 := ha
    change (Exact.finite k * .finite 0 == .finite 0) = true
    simp
  add k l a b _ ha hb := by
    rw [Exact.eq_of_beq_finite ha, Exact.eq_of_beq_finite hb]
    change (Exact.finite k + .finite l == .finite (k + l : Nat)) = true
    simp
  add_zero k a ha := by
    rw [Exact.eq_of_beq_finite ha]
    exact congrArg Exact.finite (add_zero (k : Rat))

/-- The report names a permutation, and the objective is what it costs. Over floats that is so as
long as the costs cannot pass `2 ^ 53`, from where on sums are rounded; over exact numbers it always
is. -/
theorem assignment_reports_permutation {n : Nat} (hn : 0 < n) (feasibility : Bool) :
    (∀ i j, 1 ≤ assignmentCost n i j ∧ assignmentCost n i j ≤ n) ∧
    (costs n : Expr Float).termCount = n * n ∧
    (∃ p : Problem Float, assignment n feasibility = .ok p ∧
      p.Assigns Exact.ofFloat (· ≤ 2 ^ 53) n feasibility) ∧
    ∃ p : Problem Exact, assignment n feasibility = .ok p ∧
      p.Assigns id (fun _ => True) n feasibility :=
  ⟨assignmentCost_bounds hn, termCount_costs n,
    ⟨_, assignment_eq unitLaws_float n feasibility,
      assigns readLaws_float sumLaws_float hn feasibility⟩,
    ⟨_, assignment_eq unitLaws_exact n feasibility,
      assigns readLaws_exact sumLaws_exact hn feasibility⟩⟩

theorem assignment_reports_permutation_sample :
    let x : Point := fun id => if id = 1 ∨ id = 2 then 1 else 0
    let s : Solution Float := ⟨[-0, 1, 1, 0], 4, true, 0⟩
    0 < 2 ∧ ∃ p : Problem Float, assignment 2 false = .ok p ∧
      s.values.map Exact.ofFloat = x.values (2 * 2) ∧ (p.model.map Exact.ofFloat).Feasible x ∧
      s.objective = (Pending.empty.run (p.model.arrays.calls {})).evaluate s.values ∧
      ∃ σ : Equiv.Perm (Fin 2),
        p.report s = .ok ⟨"Assignment 2x2",
          List.ofFn fun i => (s!"row {(i : Nat)} -> col {(σ i : Nat)}", 1), 4, true⟩ ∧
        s.objective = Scalar.ofNat (∑ i : Fin 2, assignmentCost 2 i (σ i)) := by
  intro x s
  obtain ⟨-, -, ⟨p, hp, hassigns⟩, -⟩ :=
    assignment_reports_permutation (n := 2) (by decide) false
  obtain rfl : assigned 2 false = p :=
    Except.ok.inj ((assignment_eq unitLaws_float 2 false).symm.trans hp)
  have hvalues : s.values.map Exact.ofFloat = x.values (2 * 2) := by decide +kernel
  have hpicks : ∀ i j : Fin 2, x (i * 2 + j) = if j = Equiv.swap 0 1 i then 1 else 0 := by
    decide +kernel
  have hfeasible : ((assigned 2 false : Problem Float).model.map Exact.ofFloat).Feasible x :=
    (feasible_iff_picks readLaws_float).mpr ⟨_, hpicks⟩
  have hobjective : s.objective =
      (Pending.empty.run ((assigned 2 false).model.arrays.calls {})).evaluate s.values := by
    decide +kernel
  obtain ⟨σ, hreport, htotal⟩ := hassigns.report {} s x hvalues hfeasible hobjective
  exact ⟨by decide, _, hp, hvalues, hfeasible, hobjective, σ, hreport, htotal (by decide)⟩

end Demo

end LinearModel
