import LinearModel.Proofs.Built
import LinearModel.Proofs.Outcome

/-!
# The values of expressions

What every step and every builder adds to the value of an expression over the rationals, and when
the builders that can fail succeed.
-/

namespace LinearModel.Expr

section Value

variable (x : Nat → Rat) {e f : Expr Rat}

theorem value_new (c : Rat) : (Expr.new c).value x = c := by
  rw [value, new, Terms.value_nil, zero_add]

theorem value_addTerm (he : e.Built) (c : Rat) (v : Var Rat) :
    (e.addTerm c v).value x = e.value x + c * x v.id := by
  rw [value, addTerm, Terms.value_add x he.ascending, value]
  ring

theorem value_ofVar (v : Var Rat) : (ofVar v).value x = x v.id := by
  rw [ofVar, value_addTerm x (.new 0), value_new]
  ring

theorem value_plus (he : e.Built) : (e.plus f).value x = e.value x + f.value x := by
  simp only [value, plus, Terms.value_merge x he.ascending]
  ring

theorem value_scale (k : Rat) : (e.scale k).value x = e.value x * k := by
  simp only [value, scale, Terms.value_scale]
  ring

theorem value_minus (he : e.Built) : (e.minus f).value x = e.value x - f.value x := by
  rw [minus, value_plus x he, value_scale]
  ring

theorem value_foldl_plus (he : e.Built) {es : List (Expr Rat)} (hes : ∀ f ∈ es, f.Built) :
    (es.foldl plus e).value x = e.value x + (es.map (·.value x)).sum := by
  induction es generalizing e with
  | nil => simp
  | cons f es ih =>
    obtain ⟨hf, hes⟩ := List.forall_mem_cons.mp hes
    rw [List.foldl_cons, ih (he.plus hf) hes, value_plus x he, List.map_cons, List.sum_cons]
    ring

theorem value_sum {es : List (Expr Rat)} (hes : ∀ f ∈ es, f.Built) :
    (sum es).value x = (es.map (·.value x)).sum := by
  rw [sum, value_foldl_plus x (.new 0) hes, value_new, zero_add]

theorem value_sumVars (vars : List (Var Rat)) :
    (sumVars vars).value x = (vars.map fun v => x v.id).sum := by
  have hvars : ∀ f ∈ vars.map ofVar, f.Built := by
    intro f hf
    obtain ⟨v, -, rfl⟩ := List.mem_map.mp hf
    exact .ofVar v
  rw [sumVars, value_sum x hvars, List.map_map]
  simp only [Function.comp_def, value_ofVar]

theorem value_foldl_addTerm (he : e.Built) (pairs : List (Var Rat × Rat)) :
    (pairs.foldl (fun e (v, c) => e.addTerm c v) e).value x =
      e.value x + (pairs.map fun (v, c) => c * x v.id).sum := by
  induction pairs generalizing e with
  | nil => simp
  | cons p pairs ih =>
    rw [List.foldl_cons, ih (he.addTerm p.2 p.1), value_addTerm x he, List.map_cons, List.sum_cons]
    ring

end Value

variable {R : Type}

theorem columnCells_eq_ok {rows : List (List (Var R))} {j : Nat} {vars : List (Var R)} :
    columnCells rows j = .ok vars ↔
      (∀ cells ∈ rows, j < cells.length) ∧ rows.filterMap (·[j]?) = vars := by
  unfold columnCells
  induction rows generalizing vars with
  | nil => simp [pure_eq_ok]
  | cons cells rows ih =>
    rw [List.mapM_cons]
    by_cases hj : j < cells.length
    · have hcell : cells[j]? = some cells[j] := List.getElem?_eq_getElem hj
      simp only [hcell, bind_eq_ok, pure_eq_ok, ih, List.forall_mem_cons, List.filterMap_cons]
      constructor
      · rintro ⟨_, hv, _, ⟨hrows, rfl⟩, rfl⟩
        cases hv
        exact ⟨⟨hj, hrows⟩, rfl⟩
      · rintro ⟨⟨-, hrows⟩, rfl⟩
        exact ⟨_, rfl, _, ⟨hrows, rfl⟩, rfl⟩
    · simp [bind_eq_ok, hj]

variable [Scalar R]

theorem sumRow_eq_ok {rows : List (List (Var R))} {i : Nat} {e : Expr R} :
    sumRow rows i = .ok e ↔ i < rows.length ∧ sumVars (rows.getD i []) = e := by
  unfold sumRow
  by_cases hi : i < rows.length
  · simp [hi]
  · simp [hi]

theorem sumCol_eq_ok {rows : List (List (Var R))} {j : Nat} {e : Expr R} :
    sumCol rows j = .ok e ↔
      (rows ≠ [] ∧ ∀ cells ∈ rows, j < cells.length) ∧ sumVars (rows.filterMap (·[j]?)) = e := by
  unfold sumCol
  by_cases hrows : rows = []
  · simp [hrows]
  · have hne : rows.isEmpty = false := by simpa using hrows
    simp only [hne, Bool.false_eq_true, if_false, map_eq_ok, columnCells_eq_ok]
    constructor
    · rintro ⟨_, ⟨hcells, rfl⟩, he⟩
      exact ⟨⟨hrows, hcells⟩, he⟩
    · rintro ⟨⟨-, hcells⟩, he⟩
      exact ⟨_, ⟨hcells, rfl⟩, he⟩

theorem dot_eq_ok {vars : List (Var R)} {coeffs : List R} {e : Expr R} :
    dot vars coeffs = .ok e ↔ vars.length = coeffs.length ∧
      (vars.zip coeffs).foldl (fun e (v, c) => e.addTerm c v) (new 0) = e := by
  unfold dot
  by_cases hlen : vars.length = coeffs.length
  · simp [hlen]
  · simp [hlen]

end LinearModel.Expr
