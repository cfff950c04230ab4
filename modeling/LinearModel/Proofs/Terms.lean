import Mathlib.Algebra.Order.Ring.Rat
import Mathlib.Tactic.LinearCombination
import Mathlib.Tactic.Ring
import LinearModel.Expr.Terms

/-!
# Terms in ascending order

Whatever the scalars, every operation on terms keeps their variable numbers strictly ascending. Over
the rationals the value at a point is additive: `value_add` and `value_merge` add values,
`value_scale` multiplies them, and the terms dropped on the way are worth nothing.
-/

namespace LinearModel.Terms

variable {R : Type}

def Ascending (ts : Terms R) : Prop :=
  ts.Pairwise fun t u => t.1 < u.1

@[simp] theorem ascending_nil : Ascending ([] : Terms R) :=
  List.Pairwise.nil

@[simp] theorem ascending_cons {t : Nat × R} {ts : Terms R} :
    Ascending (t :: ts) ↔ (∀ u ∈ ts, t.1 < u.1) ∧ Ascending ts :=
  List.pairwise_cons

/-- The same variables with other coefficients. -/
def mapCoeffs {S : Type} (f : R → S) (ts : Terms R) : Terms S :=
  List.map (fun (id, c) => (id, f c)) ts

theorem mem_put {id : Nat} {c : R} {t : Nat × R} {ts : Terms R} (h : t ∈ ts.put id c) :
    t = (id, c) ∨ t ∈ ts := by
  induction ts with
  | nil => simpa [put] using h
  | cons u us ih =>
    obtain ⟨i, d⟩ := u
    rw [put] at h
    split_ifs at h with hlt heq
    · simpa using h
    · rcases List.mem_cons.mp h with rfl | hmem
      · exact Or.inl rfl
      · exact Or.inr (List.mem_cons_of_mem _ hmem)
    · rcases List.mem_cons.mp h with rfl | hmem
      · exact Or.inr List.mem_cons_self
      · exact (ih hmem).imp_right (List.mem_cons_of_mem _)

theorem drop_sublist (id : Nat) (ts : Terms R) : (ts.drop id).Sublist ts := by
  induction ts with
  | nil => exact List.Sublist.refl _
  | cons u us ih =>
    obtain ⟨i, d⟩ := u
    rw [drop]
    split_ifs
    · exact List.sublist_cons_self _ _
    · exact ih.cons_cons _

theorem get?_eq_none {id : Nat} {ts : Terms R} (h : ∀ t ∈ ts, t.1 ≠ id) : ts.get? id = none := by
  induction ts with
  | nil => rfl
  | cons u us ih =>
    obtain ⟨i, d⟩ := u
    have hi : i ≠ id := h _ List.mem_cons_self
    rw [get?, if_neg hi]
    exact ih fun t ht => h t (List.mem_cons_of_mem _ ht)

namespace Ascending

theorem put {ts : Terms R} (h : ts.Ascending) (id : Nat) (c : R) : (ts.put id c).Ascending := by
  induction ts with
  | nil => simp [Terms.put]
  | cons u us ih =>
    obtain ⟨i, d⟩ := u
    obtain ⟨hlow, hus⟩ := ascending_cons.mp h
    rw [Terms.put]
    split_ifs with hlt heq
    · refine ascending_cons.mpr ⟨fun t ht => ?_, h⟩
      rcases List.mem_cons.mp ht with rfl | hmem
      · exact hlt
      · exact hlt.trans (hlow t hmem)
    · subst heq
      exact ascending_cons.mpr ⟨hlow, hus⟩
    · refine ascending_cons.mpr ⟨fun t ht => ?_, ih hus⟩
      rcases mem_put ht with rfl | hmem
      · change i < id
        omega
      · exact hlow t hmem

theorem drop {ts : Terms R} (h : ts.Ascending) (id : Nat) : (ts.drop id).Ascending :=
  List.Pairwise.sublist (drop_sublist id ts) h

theorem filter {ts : Terms R} (h : ts.Ascending) (p : Nat × R → Bool) :
    Ascending (List.filter p ts) :=
  List.Pairwise.sublist List.filter_sublist h

theorem mapCoeffs {S : Type} {ts : Terms R} (h : ts.Ascending) (f : R → S) :
    (ts.mapCoeffs f).Ascending :=
  List.Pairwise.map _ (fun _ _ hlt => hlt) h

end Ascending

variable [Scalar R]

theorem Ascending.add {ts : Terms R} (h : ts.Ascending) (id : Nat) (c : R) :
    (ts.add id c).Ascending := by
  simp only [Terms.add]
  split
  · exact h.drop id
  · exact h.put id _

theorem Ascending.merge {ts : Terms R} (h : ts.Ascending) (us : Terms R) :
    (ts.merge us).Ascending := by
  induction us generalizing ts with
  | nil => exact h
  | cons u us ih => exact ih (h.add u.1 u.2)

theorem Ascending.scale {ts : Terms R} (h : ts.Ascending) (k : R) : (ts.scale k).Ascending :=
  (h.mapCoeffs (· * k)).filter _

/-! ## Values over the rationals -/

section Value

variable (x : Nat → Rat)

@[simp] theorem value_nil : Terms.value ([] : Terms Rat) x = 0 :=
  rfl

@[simp] theorem value_cons (i : Nat) (c : Rat) (ts : Terms Rat) :
    Terms.value ((i, c) :: ts) x = c * x i + Terms.value ts x := by
  simp only [Terms.value, List.map_cons, List.sum_cons]

theorem value_drop (id : Nat) (ts : Terms Rat) :
    (ts.drop id).value x = ts.value x - (ts.get? id).getD 0 * x id := by
  induction ts with
  | nil => simp [drop, get?]
  | cons u us ih =>
    obtain ⟨i, d⟩ := u
    simp only [drop, get?]
    split_ifs with heq
    · subst heq
      simp
    · rw [value_cons, value_cons, ih]
      ring

/-- A coefficient that is set takes the place of the one that there was. Of terms out of order the
old coefficient could stay behind the new one. -/
theorem value_put {ts : Terms Rat} (h : ts.Ascending) (id : Nat) (c : Rat) :
    (ts.put id c).value x = ts.value x + (c - (ts.get? id).getD 0) * x id := by
  induction ts with
  | nil => simp [put, get?]
  | cons u us ih =>
    obtain ⟨i, d⟩ := u
    obtain ⟨hlow, hus⟩ := ascending_cons.mp h
    rw [put]
    split_ifs with hlt heq
    · have hnone : Terms.get? id ((i, d) :: us) = none := by
        apply get?_eq_none
        intro t ht
        rcases List.mem_cons.mp ht with rfl | hmem
        · exact Nat.ne_of_gt hlt
        · exact Nat.ne_of_gt (hlt.trans (hlow t hmem))
      rw [hnone, value_cons]
      simp only [Option.getD_none]
      ring
    · subst heq
      rw [get?, if_pos rfl, value_cons, value_cons]
      simp only [Option.getD_some]
      ring
    · rw [value_cons, value_cons, ih hus, get?, if_neg (Ne.symm heq)]
      ring

theorem value_add {ts : Terms Rat} (h : ts.Ascending) (id : Nat) (c : Rat) :
    (ts.add id c).value x = ts.value x + c * x id := by
  simp only [add]
  split
  · rename_i hzero
    have hsum : (ts.get? id).getD 0 + c = 0 := beq_iff_eq.mp hzero
    rw [value_drop]
    linear_combination x id * -hsum
  · rw [value_put x h]
    ring

theorem value_merge {ts : Terms Rat} (h : ts.Ascending) (us : Terms Rat) :
    (ts.merge us).value x = ts.value x + us.value x := by
  induction us generalizing ts with
  | nil => simp [merge]
  | cons u us ih =>
    obtain ⟨i, c⟩ := u
    have hstep : ts.merge ((i, c) :: us) = (ts.add i c).merge us := rfl
    rw [hstep, ih (h.add i c), value_add x h, value_cons]
    ring

theorem value_filter_nonzero (ts : Terms Rat) :
    Terms.value (List.filter (fun t : Nat × Rat => !(t.2 == 0)) ts) x = ts.value x := by
  induction ts with
  | nil => rfl
  | cons u us ih =>
    obtain ⟨i, c⟩ := u
    by_cases hc : c = 0
    · subst hc
      simpa using ih
    · rw [List.filter_cons_of_pos (by simpa using hc), value_cons, value_cons, ih]

theorem value_scale (k : Rat) (ts : Terms Rat) : (ts.scale k).value x = ts.value x * k := by
  rw [scale, value_filter_nonzero]
  induction ts with
  | nil => simp
  | cons u us ih =>
    obtain ⟨i, c⟩ := u
    rw [List.map_cons, value_cons, value_cons, ih]
    change c * k * x i + _ = _
    ring

end Value

end LinearModel.Terms
