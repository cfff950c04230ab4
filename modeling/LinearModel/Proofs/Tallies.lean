import Mathlib.Algebra.BigOperators.Fin
import Mathlib.LinearAlgebra.Matrix.Defs
import LinearModel.Proofs.Coefficients
import LinearModel.Proofs.Values
import LinearModel.Proofs.Wholes

/-!
# Sums of variables as tallies

A sum of variables counts them: each has the number of its places as its coefficient, up to the
number from which one more makes no difference. So a sum does not depend on the order, sums of sums
are sums of everything, and the rows and the columns of a rectangle have the same total.
-/

namespace LinearModel

/-- Whole numbers add exactly up to the bound, where counting by ones stops, and none but zero
compares equal to it. -/
structure CountingLaws (R : Type) [Scalar R] (bound : Nat) : Prop where
  pos : 0 < bound
  zero : (Scalar.ofNat 0 : R) = 0
  one : (Scalar.ofNat 1 : R) = 1
  add : ∀ a b, a + b ≤ bound → (Scalar.ofNat a + Scalar.ofNat b : R) = Scalar.ofNat (a + b)
  full : (Scalar.ofNat bound + 1 : R) = Scalar.ofNat bound
  ne_zero : ∀ n, 0 < n → ((Scalar.ofNat n : R) == 0) = false

theorem countingLaws_float : CountingLaws Float (2 ^ 53) where
  pos := by decide
  zero := by decide +kernel
  one := by decide +kernel
  add _ _ h := Double.ofNat_add h
  full := by decide +kernel
  ne_zero _ h := Double.ofNat_ne_zero h

namespace Expr

variable {R : Type} [Scalar R] {bound : Nat} {c d : Nat → Nat} {e f : Expr R}

def counted (n : Nat) : Option R :=
  if n = 0 then none else some (Scalar.ofNat n)

/-- The coefficient of every variable is its number of places. -/
structure Tally (count : Nat → Nat) (e : Expr R) : Prop where
  ascending : e.terms.Ascending
  get? : ∀ i, e.terms.get? i = counted (count i)
  constant : e.constant = 0

namespace Tally

theorem eq (he : e.Tally c) (hf : f.Tally c) : e = f := by
  have hterms : e.terms = f.terms :=
    he.ascending.ext hf.ascending fun i => (he.get? i).trans (hf.get? i).symm
  have hconstant : e.constant = f.constant := he.constant.trans hf.constant.symm
  obtain ⟨_, _⟩ := e
  obtain ⟨_, _⟩ := f
  exact congrArg₂ Expr.mk hterms hconstant

theorem new : (new (0 : R)).Tally fun _ => 0 :=
  ⟨Terms.ascending_nil, fun _ => rfl, rfl⟩

theorem zero_add_zero (hlaws : CountingLaws R bound) : (0 + 0 : R) = 0 := by
  have h := hlaws.add 0 0 (Nat.zero_le bound)
  rwa [hlaws.zero] at h

theorem ofVar (hlaws : CountingLaws R bound) (v : Var R) :
    (Expr.ofVar v).Tally fun i => if i = v.id then 1 else 0 where
  ascending := Built.ascending (.ofVar v)
  get? i := by
    have hone : (0 + 1 : R) = Scalar.ofNat 1 := by
      rw [← hlaws.zero, ← hlaws.one]
      exact hlaws.add 0 1 hlaws.pos
    have hget := Terms.ascending_nil.get?_add v.id (1 : R) i
    rw [Expr.ofVar, Expr.addTerm]
    refine hget.trans ?_
    split_ifs
    · exact (congrArg Terms.kept hone).trans (Terms.kept_of_ne (hlaws.ne_zero 1 Nat.one_pos))
    · rfl
  constant := rfl

theorem getD_counted (hlaws : CountingLaws R bound) (n : Nat) :
    ((counted n).getD 0 : R) = Scalar.ofNat n := by
  by_cases hn : n = 0
  · subst hn
    exact hlaws.zero.symm
  · simp [counted, hn]

theorem kept_ofNat (hlaws : CountingLaws R bound) {n : Nat} (hn : 0 < n) :
    Terms.kept (Scalar.ofNat n : R) = counted n := by
  rw [Terms.kept_of_ne (hlaws.ne_zero n hn), counted, if_neg (Nat.ne_of_gt hn)]

theorem plus (hlaws : CountingLaws R bound) (he : e.Tally c) (hf : f.Tally d)
    (hle : ∀ i, c i + d i ≤ bound) : (e.plus f).Tally fun i => c i + d i where
  ascending := he.ascending.merge f.terms
  get? i := by
    rw [Expr.plus, he.ascending.get?_merge hf.ascending, he.get?, hf.get?]
    by_cases hd : d i = 0
    · rw [hd]
      rfl
    · rw [counted, if_neg hd, Option.elim_some, getD_counted hlaws, hlaws.add _ _ (hle i),
        kept_ofNat hlaws (by omega)]
  constant := by
    rw [Expr.plus, he.constant, hf.constant]
    exact zero_add_zero hlaws

theorem plus_ofVar (hlaws : CountingLaws R bound) (he : e.Tally c) (hle : ∀ i, c i ≤ bound)
    (v : Var R) :
    (e.plus (Expr.ofVar v)).Tally fun i => min (c i + if i = v.id then 1 else 0) bound where
  ascending := he.ascending.merge _
  get? i := by
    have hv := ofVar hlaws v
    have hi := hle i
    rw [Expr.plus, he.ascending.get?_merge hv.ascending, he.get?, hv.get?]
    by_cases hid : i = v.id
    · have hone : (counted 1 : Option R) = some 1 := congrArg some hlaws.one
      rw [if_pos hid, hone, Option.elim_some, getD_counted hlaws]
      by_cases hroom : c i < bound
      · have hmin : min (c i + 1) bound = c i + 1 := by omega
        rw [← hlaws.one, hlaws.add _ _ hroom, kept_ofNat hlaws (by omega), hmin]
      · have hlast : c i = bound := by omega
        have hmin : min (c i + 1) bound = bound := by omega
        rw [hmin, hlast, hlaws.full, kept_ofNat hlaws hlaws.pos]
    · rw [if_neg hid, Nat.add_zero, Nat.min_eq_left hi]
      rfl
  constant := by
    rw [Expr.plus, he.constant]
    exact zero_add_zero hlaws

end Tally

omit [Scalar R] in
def places (vars : List (Var R)) (i : Nat) : Nat :=
  vars.countP fun v => v.id == i

omit [Scalar R] in
theorem places_cons (v : Var R) (vars : List (Var R)) (i : Nat) :
    places (v :: vars) i = (if i = v.id then 1 else 0) + places vars i := by
  simp only [places, List.countP_cons, beq_iff_eq, eq_comm (a := v.id)]
  omega

namespace Tally

theorem foldl_plus_ofVar (hlaws : CountingLaws R bound) (he : e.Tally c) (hle : ∀ i, c i ≤ bound)
    (vars : List (Var R)) :
    ((vars.map Expr.ofVar).foldl Expr.plus e).Tally
      fun i => min (c i + places vars i) bound := by
  induction vars generalizing e c with
  | nil =>
    have hcount : (fun i => min (c i + places ([] : List (Var R)) i) bound) = c := by
      funext i
      exact Nat.min_eq_left (hle i)
    rw [hcount]
    exact he
  | cons v vars ih =>
    have hstep := ih (he.plus_ofVar hlaws hle v) fun i => Nat.min_le_right _ _
    have hcount : (fun i => min (min (c i + if i = v.id then 1 else 0) bound + places vars i)
        bound) = fun i => min (c i + places (v :: vars) i) bound := by
      funext i
      rw [places_cons]
      omega
    rw [hcount] at hstep
    exact hstep

theorem sumVars (hlaws : CountingLaws R bound) (vars : List (Var R)) :
    (Expr.sumVars vars).Tally fun i => min (places vars i) bound := by
  have h := new.foldl_plus_ofVar hlaws (fun _ => Nat.zero_le bound) vars
  simp only [Nat.zero_add] at h
  exact h

theorem foldl_plus_sumVars (hlaws : CountingLaws R bound) {lists : List (List (Var R))}
    (he : e.Tally c) (hle : ∀ i, c i + places lists.flatten i ≤ bound) :
    ((lists.map Expr.sumVars).foldl Expr.plus e).Tally
      fun i => c i + places lists.flatten i := by
  induction lists generalizing e c with
  | nil => exact he
  | cons vars lists ih =>
    have hsplit (i : Nat) : places (vars :: lists).flatten i =
        places vars i + places lists.flatten i := List.countP_append
    simp only [hsplit, ← Nat.add_assoc] at hle ⊢
    have hexact : (fun i => min (places vars i) bound) = places vars := by
      funext i
      have hi := hle i
      omega
    have hvars := sumVars hlaws vars
    rw [hexact] at hvars
    exact ih (he.plus hlaws hvars fun i => Nat.le_of_add_right_le (hle i)) hle

end Tally

theorem sumVars_congr (hlaws : CountingLaws R bound) {vars vars' : List (Var R)}
    (h : ∀ i, places vars i = places vars' i) : sumVars vars = sumVars vars' := by
  have htally := Tally.sumVars hlaws vars
  simp only [h] at htally
  exact htally.eq (Tally.sumVars hlaws vars')

theorem sum_map_sumVars (hlaws : CountingLaws R bound) {lists : List (List (Var R))}
    (hle : ∀ i, places lists.flatten i ≤ bound) :
    sum (lists.map sumVars) = sumVars lists.flatten := by
  have hle' : ∀ i, 0 + places lists.flatten i ≤ bound := fun i =>
    (Nat.zero_add _).trans_le (hle i)
  have hsum := Tally.new.foldl_plus_sumVars hlaws hle'
  have hall := Tally.sumVars hlaws lists.flatten
  simp only [Nat.zero_add] at hsum
  simp only [Nat.min_eq_left (hle _)] at hall
  exact hsum.eq hall

/-! ## Rows and columns -/

theorem sumRow_eq (rows : List (List (Var R))) (i : Nat) : sumRow rows i =
    if h : i < rows.length then .ok (sumVars rows[i])
    else .error (.indexOutOfRange .row i rows.length) := by
  unfold sumRow
  split_ifs with h
  · rw [List.getElem?_eq_getElem h]
  · rw [List.getElem?_eq_none (Nat.le_of_not_lt h)]

omit [Scalar R] in
/-- A column breaks off at the first row that is too short. -/
theorem columnCells_eq (rows : List (List (Var R))) (j : Nat) : columnCells rows j =
    (rows.find? fun cells => cells.length ≤ j).elim (.ok (rows.filterMap (·[j]?)))
      fun cells => .error (.indexOutOfRange .column j cells.length) := by
  unfold columnCells
  induction rows with
  | nil => rfl
  | cons cells rows ih =>
    rw [List.mapM_cons, List.find?_cons, List.filterMap_cons]
    by_cases hj : j < cells.length
    · have hcell : cells[j]? = some cells[j] := List.getElem?_eq_getElem hj
      have hlong : decide (cells.length ≤ j) = false := decide_eq_false (Nat.not_le.mpr hj)
      rw [hcell, hlong, ih]
      cases rows.find? fun cells => cells.length ≤ j <;> rfl
    · have hcell : cells[j]? = none := List.getElem?_eq_none (Nat.le_of_not_lt hj)
      have hshort : decide (cells.length ≤ j) = true := decide_eq_true (Nat.le_of_not_lt hj)
      rw [hcell, hshort]
      rfl

theorem sumCol_eq {rows : List (List (Var R))} (hrows : rows ≠ []) (j : Nat) : sumCol rows j =
    (rows.find? fun cells => cells.length ≤ j).elim (.ok (sumVars (rows.filterMap (·[j]?))))
      fun cells => .error (.indexOutOfRange .column j cells.length) := by
  rw [sumCol, if_neg (mt List.isEmpty_iff.mp hrows), columnCells_eq]
  cases rows.find? fun cells => cells.length ≤ j <;> rfl

/-! ## Rectangles -/

variable {h w : Nat}

omit [Scalar R] in
def grid (M : Matrix (Fin h) (Fin w) (Var R)) : List (List (Var R)) :=
  List.ofFn fun i => List.ofFn (M i)

theorem sumRow_grid (M : Matrix (Fin h) (Fin w) (Var R)) (i : Fin h) :
    sumRow (grid M) i = .ok (sumVars (List.ofFn (M i))) := by
  have hi : (i : Nat) < (grid M).length := by simp [grid]
  rw [sumRow_eq, dif_pos hi]
  simp [grid]

theorem sumCol_grid (hh : 0 < h) (M : Matrix (Fin h) (Fin w) (Var R)) (j : Fin w) :
    sumCol (grid M) j = .ok (sumVars (List.ofFn fun i => M i j)) := by
  have hcells : (grid M).filterMap (·[(j : Nat)]?) = List.ofFn fun i => M i j := by
    rw [grid, List.ofFn_eq_map, List.filterMap_map, List.ofFn_eq_map]
    apply List.filterMap_eq_map_iff_forall_eq_some.mpr
    intro i _
    simp
  have hne : grid M ≠ [] := by
    apply List.ne_nil_of_length_pos
    simpa [grid] using hh
  refine sumCol_eq_ok.mpr ⟨⟨hne, fun cells hcells => ?_⟩, congrArg sumVars hcells⟩
  obtain ⟨i, rfl⟩ := List.mem_ofFn.mp hcells
  simp

omit [Scalar R] in
theorem places_ofFn (f : Fin w → Var R) (k : Nat) :
    places (List.ofFn f) k = ∑ j, if k = (f j).id then 1 else 0 := by
  induction w with
  | zero => rfl
  | succ w ih => rw [List.ofFn_succ, places_cons, ih, Fin.sum_univ_succ]

omit [Scalar R] in
theorem places_flatten_grid (M : Matrix (Fin h) (Fin w) (Var R)) (k : Nat) :
    places (grid M).flatten k = ∑ i, ∑ j, if k = (M i j).id then 1 else 0 := by
  rw [places, List.countP_flatten, grid, List.map_ofFn, List.sum_ofFn]
  exact Finset.sum_congr rfl fun i _ => places_ofFn (M i) k

omit [Scalar R] in
theorem places_flatten_transpose (M : Matrix (Fin h) (Fin w) (Var R)) (k : Nat) :
    places (grid M.transpose).flatten k = places (grid M).flatten k := by
  rw [places_flatten_grid, places_flatten_grid]
  exact Finset.sum_comm

theorem map_sumVars_grid (M : Matrix (Fin h) (Fin w) (Var R)) :
    (grid M).map sumVars = (List.finRange h).map fun i => sumVars (List.ofFn (M i)) := by
  rw [grid, List.map_ofFn, List.ofFn_eq_map]
  rfl

theorem sum_rows_eq_sum_columns (hlaws : CountingLaws R bound) (M : Matrix (Fin h) (Fin w) (Var R))
    (hle : ∀ k, places (grid M).flatten k ≤ bound) :
    sum ((List.finRange h).map fun i => sumVars (List.ofFn (M i))) =
      sum ((List.finRange w).map fun j => sumVars (List.ofFn fun i => M i j)) := by
  have hle' : ∀ k, places (grid M.transpose).flatten k ≤ bound := by
    intro k
    rw [places_flatten_transpose]
    exact hle k
  calc sum ((List.finRange h).map fun i => sumVars (List.ofFn (M i)))
      = sumVars (grid M).flatten := by rw [← map_sumVars_grid, sum_map_sumVars hlaws hle]
    _ = sumVars (grid M.transpose).flatten :=
      sumVars_congr hlaws fun k => (places_flatten_transpose M k).symm
    _ = sum ((List.finRange w).map fun j => sumVars (List.ofFn fun i => M i j)) := by
      rw [← sum_map_sumVars hlaws hle', map_sumVars_grid]
      rfl

/-! ## Over floats -/

/-- Constant zero, and the number of its places as the coefficient of every variable; what has no
place has no term. -/
structure Counts (vars : List (Var Float)) (e : Expr Float) : Prop where
  constant : e.constant = 0
  coefficient : ∀ v, vars.count v ≤ 2 ^ 53 → e.coefficient v = Float.ofNat (vars.count v) ∧
    Exact.ofFloat (e.coefficient v) = .finite (vars.count v)
  mem_ids : ∀ i, i ∈ e.terms.ids ↔ ∃ v ∈ vars, v.id = i

theorem counts_sumVars (vars : List (Var Float)) : (sumVars vars).Counts vars := by
  have htally := Tally.sumVars countingLaws_float vars
  refine ⟨htally.constant, fun v hv => ?_, fun i => ?_⟩
  · have hplaces : places vars v.id = vars.count v := rfl
    have hcoefficient : (sumVars vars).coefficient v = Float.ofNat (vars.count v) := by
      rw [Expr.coefficient, htally.get?, Tally.getD_counted countingLaws_float, hplaces,
        Nat.min_eq_left hv]
      rfl
    rw [hcoefficient]
    exact ⟨rfl, Double.ofFloat_ofNat hv⟩
  · have hpos : 0 < places vars i ↔ ∃ v ∈ vars, v.id = i := by
      rw [places, List.countP_pos_iff]
      simp only [beq_iff_eq]
    rw [htally.ascending.mem_ids, htally.get?, ← hpos]
    by_cases hzero : places vars i = 0
    · simp [counted, hzero]
    · have hne : min (places vars i) (2 ^ 53) ≠ 0 := by omega
      rw [counted, if_neg hne]
      exact iff_of_true (Option.some_ne_none _) (Nat.pos_of_ne_zero hzero)

/-- A row is there or not; a column is there when all of its cells are, and the first row without
one is reported. Both count their cells as a sum of variables does. Where all rows are equally long,
rows are the columns of the transposed rectangle, and all rows together are all columns together. -/
theorem rows_and_columns (rows : List (List (Var Float))) (i : Nat) :
    (sumRow rows i = if h : i < rows.length then .ok (sumVars rows[i])
      else .error (.indexOutOfRange .row i rows.length)) ∧
    (sumCol rows i = if rows = [] then .error (.indexOutOfRange .column i 0)
      else (rows.find? fun cells => cells.length ≤ i).elim
        (.ok (sumVars (rows.filterMap (·[i]?))))
        fun cells => .error (.indexOutOfRange .column i cells.length)) ∧
    ((∃ e, sumCol rows i = .ok e) ↔ rows ≠ [] ∧ ∀ cells ∈ rows, i < cells.length) ∧
    (∀ vars : List (Var Float), (sumVars vars).Counts vars) ∧
    ∀ (h w : Nat) (M : Matrix (Fin h) (Fin w) (Var Float)), 0 < h → 0 < w →
      (∀ r : Fin h, ∃ e, sumRow (grid M) r = .ok e ∧ sumCol (grid M.transpose) r = .ok e) ∧
      ((∀ v, (grid M).flatten.count v ≤ 2 ^ 53) → ∃ rowSums columnSums,
        (List.finRange h).mapM (fun r : Fin h => sumRow (grid M) r) = .ok rowSums ∧
        (List.finRange w).mapM (fun c : Fin w => sumCol (grid M) c) = .ok columnSums ∧
        sum rowSums = sum columnSums) := by
  refine ⟨sumRow_eq rows i, ?_, ?_, counts_sumVars, fun h w M hh hw => ⟨fun r => ?_, fun hle => ?_⟩⟩
  · split_ifs with hrows
    · rw [hrows]
      rfl
    · exact sumCol_eq hrows i
  · simp only [sumCol_eq_ok, exists_and_left, exists_eq', and_true]
  · exact ⟨_, sumRow_grid M r, sumCol_grid hw M.transpose r⟩
  · have hplaces (k : Nat) : places (grid M).flatten k ≤ 2 ^ 53 := hle ⟨k, 0, 0, .continuous⟩
    refine ⟨_, _, ?_, ?_, sum_rows_eq_sum_columns countingLaws_float M hplaces⟩
    · rw [funext (sumRow_grid M)]
      exact List.mapM_pure
    · rw [funext (sumCol_grid hh M)]
      exact List.mapM_pure

theorem rows_and_columns_sample :
    let u : Var Float := ⟨0, 0, 1, .continuous⟩
    let v : Var Float := ⟨1, 0, 1, .binary⟩
    let rows := [[u, v, u], [v], []]
    let M : Matrix (Fin 2) (Fin 2) (Var Float) := !![u, v; v, v]
    sumRow rows 0 = .ok (sumVars [u, v, u]) ∧
    sumRow rows 3 = .error (.indexOutOfRange .row 3 3) ∧
    sumCol rows 1 = .error (.indexOutOfRange .column 1 1) ∧
    (sumVars [u, v, u]).coefficient u = Float.ofNat 2 ∧
    (∀ w, (grid M).flatten.count w ≤ 2 ^ 53) ∧
    ∃ rowSums columnSums,
      (List.finRange 2).mapM (fun r : Fin 2 => sumRow (grid M) r) = .ok rowSums ∧
      (List.finRange 2).mapM (fun c : Fin 2 => sumCol (grid M) c) = .ok columnSums ∧
      sum rowSums = sum columnSums := by
  intro u v rows M
  obtain ⟨hrow, -, -, hcounts, -⟩ := rows_and_columns rows 0
  obtain ⟨-, hcolumn, -, -, hrectangles⟩ := rows_and_columns rows 1
  obtain ⟨hnone, -⟩ := rows_and_columns rows 3
  have hle (w : Var Float) : (grid M).flatten.count w ≤ 2 ^ 53 :=
    List.count_le_length.trans (by decide)
  refine ⟨hrow, hnone, hcolumn, ?_, hle, ?_⟩
  · exact ((hcounts [u, v, u]).coefficient u (by decide)).1
  · exact (hrectangles 2 2 M (by decide) (by decide)).2 hle

end Expr

end LinearModel
