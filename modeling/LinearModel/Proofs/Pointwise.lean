import Mathlib.Data.Set.Card
import LinearModel.Proofs.Arrays
import LinearModel.Proofs.Coefficients
import LinearModel.Proofs.Doubles

/-!
# Expressions coefficient by coefficient

A built expression has a term exactly for each variable whose coefficient does not compare equal to
zero. So expressions are equal where all their coefficients and their constants are, and what is
counted or looked up by terms is counted or looked up by coefficients.
-/

namespace LinearModel

/-- Zero compares equal to itself, and to others as they do to it. -/
structure ZeroComparable (R : Type) [Scalar R] : Prop where
  refl : ((0 : R) == 0) = true
  comm : ∀ c : R, (0 == c) = (c == 0)

theorem zeroComparable_float : ZeroComparable Float where
  refl := Double.beq_refl rfl
  comm c := Double.beq_comm 0 c

namespace Terms

variable {R : Type} [Scalar R] {ts us : Terms R}

theorem coefficient_cons (i : Nat) (c : R) (ts : Terms R) (j : Nat) :
    coefficient ((i, c) :: ts) j = if i = j then c else ts.coefficient j := by
  rw [coefficient, get?_cons]
  split_ifs <;> rfl

theorem coefficient_of_lt {j : Nat} (h : ∀ t ∈ ts, j < t.1) : ts.coefficient j = 0 :=
  coefficient_of_none (get?_eq_none_of_lt h)

theorem Ascending.mem_ids_iff_coefficient (hzero : ZeroComparable R) (h : ts.Ascending)
    (hnonzero : ts.Nonzero) {j : Nat} : j ∈ ts.ids ↔ (ts.coefficient j == 0) = false := by
  rw [h.mem_ids]
  cases hget : ts.get? j with
  | none =>
    rw [coefficient_of_none hget, hzero.refl]
    exact iff_of_false (fun hne => hne rfl) Bool.noConfusion
  | some c =>
    rw [coefficient_of_some hget]
    exact iff_of_true (Option.some_ne_none c) (hnonzero.of_get? h hget)

theorem coefficient_head_ne (hzero : ZeroComparable R) (ts : Terms R) {i : Nat} {c : R}
    (hc : (c == 0) = false) (hus : ∀ u ∈ us, i < u.1) :
    ¬(coefficient ((i, c) :: ts) i == us.coefficient i) = true ∧
      ¬(us.coefficient i == coefficient ((i, c) :: ts) i) = true := by
  rw [coefficient_cons, if_pos rfl, coefficient_of_lt hus, hzero.comm, hc]
  exact ⟨Bool.false_ne_true, Bool.false_ne_true⟩

theorem beq_cons {i j : Nat} {c d : R} : Terms.beq ((i, c) :: ts) ((j, d) :: us) = true ↔
    i = j ∧ (c == d) = true ∧ Terms.beq ts us = true := by
  simp [Terms.beq, and_assoc]

theorem coefficients_beq_cons (hzero : ZeroComparable R) {i : Nat} {c d : R}
    (hts : ∀ t ∈ ts, i < t.1) (hus : ∀ u ∈ us, i < u.1) :
    (∀ j, (coefficient ((i, c) :: ts) j == coefficient ((i, d) :: us) j) = true) ↔
      (c == d) = true ∧ ∀ j, (ts.coefficient j == us.coefficient j) = true := by
  simp only [coefficient_cons]
  constructor
  · intro h
    refine ⟨by simpa using h i, fun j => ?_⟩
    by_cases hj : i = j
    · subst hj
      rw [coefficient_of_lt hts, coefficient_of_lt hus]
      exact hzero.refl
    · simpa [hj] using h j
  · rintro ⟨hheads, htails⟩ j
    split_ifs
    · exact hheads
    · exact htails j

/-- Two lists of terms in order are gone through together: where their heads are of different
variables, the smaller of these has no term in the other list. -/
theorem beq_iff_coefficient (hzero : ZeroComparable R) (hts : ts.Ascending) (hus : us.Ascending)
    (hts' : ts.Nonzero) (hus' : us.Nonzero) :
    Terms.beq ts us = true ↔ ∀ j, (ts.coefficient j == us.coefficient j) = true := by
  induction ts generalizing us with
  | nil =>
    cases us with
    | nil => exact iff_of_true rfl fun _ => hzero.refl
    | cons u us =>
      obtain ⟨hd, -⟩ := List.forall_mem_cons.mp hus'
      have hne := coefficient_head_ne hzero us hd (List.forall_mem_nil fun t : Nat × R => u.1 < t.1)
      exact iff_of_false Bool.false_ne_true fun h => hne.2 (h u.1)
  | cons t ts ih =>
    obtain ⟨i, c⟩ := t
    obtain ⟨hc, htail⟩ := List.forall_mem_cons.mp hts'
    obtain ⟨hlow, hascending⟩ := ascending_cons.mp hts
    cases us with
    | nil =>
      have hne := coefficient_head_ne hzero ts hc (List.forall_mem_nil fun u : Nat × R => i < u.1)
      exact iff_of_false Bool.false_ne_true fun h => hne.1 (h i)
    | cons u us =>
      obtain ⟨j, d⟩ := u
      obtain ⟨hd, htail'⟩ := List.forall_mem_cons.mp hus'
      obtain ⟨hlow', hascending'⟩ := ascending_cons.mp hus
      rw [beq_cons]
      rcases Nat.lt_trichotomy i j with hlt | rfl | hgt
      · have hbelow : ∀ u ∈ (j, d) :: us, i < u.1 :=
          List.forall_mem_cons.mpr ⟨hlt, fun u hu => hlt.trans (hlow' u hu)⟩
        have hne := coefficient_head_ne hzero ts hc hbelow
        exact iff_of_false (fun h => Nat.ne_of_lt hlt h.1) fun h => hne.1 (h i)
      · rw [coefficients_beq_cons hzero hlow hlow', ih hascending hascending' htail htail']
        exact and_iff_right rfl
      · have hbelow : ∀ t ∈ (i, c) :: ts, j < t.1 :=
          List.forall_mem_cons.mpr ⟨hgt, fun t ht => hgt.trans (hlow t ht)⟩
        have hne := coefficient_head_ne hzero us hd hbelow
        exact iff_of_false (fun h => Nat.ne_of_gt hgt h.1) fun h => hne.2 (h j)

omit [Scalar R] in
theorem Ascending.getLast?_eq_some_iff (h : ts.Ascending) {i : Nat} :
    ts.getLast?.map Prod.fst = some i ↔ IsGreatest {j | j ∈ ts.ids} i := by
  rcases List.eq_nil_or_concat ts with rfl | ⟨before, last, rfl⟩
  · simp [IsGreatest, ids]
  · have hgreatest : IsGreatest {j | j ∈ ids (before.concat last)} last.1 := by
      refine ⟨by simp [ids], ?_⟩
      rintro j hj
      obtain ⟨t, ht, rfl⟩ := List.mem_map.mp hj
      rw [List.concat_eq_append] at h ht
      rcases List.mem_append.mp ht with hmem | hmem
      · exact Nat.le_of_lt ((List.pairwise_append.mp h).2.2 t hmem last List.mem_cons_self)
      · rw [List.mem_singleton.mp hmem]
    simp only [List.concat_eq_append, List.getLast?_concat, Option.map_some, Option.some.injEq]
      at hgreatest ⊢
    exact ⟨fun hi => hi ▸ hgreatest, hgreatest.unique⟩

end Terms

namespace Expr

variable {R : Type} [Scalar R] {e : Expr R}

def support (e : Expr R) : Set Nat :=
  Var.id '' {v | (e.coefficient v == 0) = false}

theorem Built.support_eq (hzero : ZeroComparable R) (he : e.Built) :
    e.support = {i | i ∈ e.terms.ids} := by
  ext i
  have hmem := he.ascending.mem_ids_iff_coefficient hzero he.nonzero (j := i)
  constructor
  · rintro ⟨v, hv, rfl⟩
    exact hmem.mpr hv
  · intro hi
    exact ⟨⟨i, 0, 0, .continuous⟩, hmem.mp hi, rfl⟩

theorem Built.encard_support (hzero : ZeroComparable R) (he : e.Built) :
    e.support.encard = e.termCount := by
  have hnodup : e.terms.ids.Nodup :=
    (List.pairwise_map.mpr he.ascending).imp fun hlt => Nat.ne_of_lt hlt
  have hcoe : e.support = ↑e.terms.ids.toFinset := by
    rw [he.support_eq hzero]
    ext i
    simp
  rw [hcoe, Set.encard_coe_eq_coe_finsetCard, List.toFinset_card_of_nodup hnodup, termCount,
    Terms.ids, List.length_map]

theorem Built.support_eq_empty (hzero : ZeroComparable R) (he : e.Built) :
    e.support = ∅ ↔ e.terms = [] := by
  rw [he.support_eq hzero, Set.eq_empty_iff_forall_notMem]
  exact List.eq_nil_iff_forall_not_mem.symm.trans List.map_eq_nil_iff

theorem Built.maxId?_eq_some_iff (he : e.Built) {i : Nat} :
    e.maxId? = some i ↔ IsGreatest {j | j ∈ e.terms.ids} i :=
  he.ascending.getLast?_eq_some_iff

omit [Scalar R] in
theorem below_iff_ids {n : Nat} : e.Below n ↔ ∀ i ∈ e.terms.ids, i < n :=
  (List.forall_mem_map (P := (· < n))).symm

theorem Built.exists_flattenExpr_iff (hzero : ZeroComparable R) (he : e.Built) {n : Nat}
    {place : Place} : (∃ row, flattenExpr n place e = .ok row) ↔ ∀ i ∈ e.support, i < n := by
  simp only [flattenExpr_eq_ok, exists_and_left, exists_eq', and_true, he.support_eq hzero]
  exact (within_iff_below he.ascending).trans below_iff_ids

theorem Built.beq_iff (hzero : ZeroComparable R) {e f : Expr R} (he : e.Built) (hf : f.Built) :
    (e == f) = true ↔ (e.constant == f.constant) = true ∧
      ∀ v, (e.coefficient v == f.coefficient v) = true := by
  have hterms := Terms.beq_iff_coefficient hzero he.ascending hf.ascending he.nonzero hf.nonzero
  have hsplit : (e == f) = true ↔
      Terms.beq e.terms f.terms = true ∧ (e.constant == f.constant) = true :=
    Bool.and_eq_true_iff
  rw [hsplit, hterms, and_comm]
  exact and_congr_right fun _ => ⟨fun h v => h v.id, fun h i => h ⟨i, 0, 0, .continuous⟩⟩

/-- Equality of built expressions is equality of constants and of all coefficients, as floats: with
an undefined value anywhere there is none. Terms are counted, and the largest variable and those
beyond a limit are found, by the coefficients that do not compare equal to zero. -/
theorem beq_coefficientwise {a b : Expr Float} (ha : a.Built) (hb : b.Built) :
    ((a == b) = true ↔ (a.constant == b.constant) = true ∧
      ∀ v, (a.coefficient v == b.coefficient v) = true) ∧
    (a.constant.isNaN = true ∨ (∃ v, (a.coefficient v).isNaN = true) →
      (a == b) = false ∧ (b == a) = false) ∧
    a.support.encard = a.termCount ∧
    (a.isConstant = true ↔ a.support = ∅) ∧
    (∀ i, a.maxId? = some i ↔ IsGreatest a.support i) ∧
    (a.maxId? = none ↔ a.support = ∅) ∧
    ∀ n place, (∃ row, flattenExpr n place a = .ok row) ↔ ∀ i ∈ a.support, i < n := by
  have hzero := zeroComparable_float
  refine ⟨ha.beq_iff hzero hb, fun hnan => ?_, ha.encard_support hzero, ?_, fun i => ?_, ?_,
    fun n place => ha.exists_flattenExpr_iff hzero⟩
  · rw [Bool.eq_false_iff, Bool.eq_false_iff, ne_eq, ne_eq, ha.beq_iff hzero hb,
      hb.beq_iff hzero ha]
    rcases hnan with hconstant | ⟨v, hv⟩
    · rw [Double.beq_comm b.constant, Double.beq_of_isNaN hconstant]
      exact ⟨fun h => Bool.false_ne_true h.1, fun h => Bool.false_ne_true h.1⟩
    · have hne := Double.beq_of_isNaN hv (b.coefficient v)
      have hne' := (Double.beq_comm (b.coefficient v) (a.coefficient v)).trans hne
      exact ⟨fun h => ne_true_of_eq_false hne (h.2 v), fun h => ne_true_of_eq_false hne' (h.2 v)⟩
  · rw [ha.support_eq_empty hzero, isConstant, List.isEmpty_iff]
  · rw [ha.maxId?_eq_some_iff, ha.support_eq hzero]
  · rw [ha.support_eq_empty hzero, maxId?, Option.map_eq_none_iff, List.getLast?_eq_none_iff]

theorem beq_coefficientwise_sample :
    let u : Var Float := ⟨0, 0, 1, .continuous⟩
    let w : Var Float := ⟨2, 0, 1, .continuous⟩
    let a := ((new 0).addTerm 2 u).addTerm (1 / 0) w
    let b := ((new (-0)).addTerm (1 / 0) w).addTerm 2 u
    let c := (new 0).addTerm (0 / 0) u
    (a.Built ∧ b.Built ∧ c.Built ∧ (c.coefficient u).isNaN = true) ∧
    (∀ v, (a.coefficient v == b.coefficient v) = true) ∧
    a.support.encard = 2 ∧ IsGreatest a.support 2 ∧
    (∀ i ∈ a.support, i < 3) ∧ (c == c) = false := by
  intro u w a b c
  have ha : a.Built := ((Built.new 0).addTerm 2 u).addTerm (1 / 0) w
  have hb : b.Built := ((Built.new (-0)).addTerm (1 / 0) w).addTerm 2 u
  have hc : c.Built := (Built.new 0).addTerm (0 / 0) u
  have hnan : (c.coefficient u).isNaN = true := by decide +kernel
  obtain ⟨hbeq, -, hcount, -, hlast, -, hrow⟩ := beq_coefficientwise ha hb
  obtain ⟨-, hundefined, -⟩ := beq_coefficientwise hc hc
  refine ⟨⟨ha, hb, hc, hnan⟩, (hbeq.mp (by decide +kernel)).2, ?_, ?_, ?_,
    (hundefined (.inr ⟨u, hnan⟩)).1⟩
  · have hterms : a.termCount = 2 := by decide +kernel
    rw [hcount, hterms]
    rfl
  · exact (hlast 2).mp (by decide +kernel)
  · exact (hrow 3 .objective).mp ⟨_, flattenExpr_eq_ok.mpr ⟨by decide +kernel, rfl⟩⟩

end Expr

end LinearModel
