import Mathlib.Data.Set.Defs
import LinearModel.Proofs.Formula
import LinearModel.Boundary.Row

/-!
# Canonical expressions

Whatever the scalars, no operation on terms leaves a coefficient that compares equal to zero, and
none brings in a variable that its operands do not have. So what is built from a formula is
canonical, its variables are among those of the formula, and its row lists the same terms.
-/

namespace LinearModel

variable {R : Type} {s : Set Nat}

namespace Terms

variable {ts us : Terms R}

def ids (ts : Terms R) : List Nat :=
  ts.map Prod.fst

/-- All variables have their numbers in `s`. -/
def Among (s : Set Nat) (ts : Terms R) : Prop :=
  ∀ t ∈ ts, t.1 ∈ s

variable [Scalar R]

/-- No coefficient compares equal to zero. -/
def Nonzero (ts : Terms R) : Prop :=
  ∀ t ∈ ts, (t.2 == 0) = false

theorem mem_add {id : Nat} {c : R} {t : Nat × R} (h : t ∈ ts.add id c) :
    t.1 = id ∧ (t.2 == 0) = false ∨ t ∈ ts := by
  simp only [add] at h
  split at h
  · exact .inr ((drop_sublist id ts).subset h)
  · rename_i hsum
    rcases mem_put h with rfl | hmem
    · exact .inl ⟨rfl, Bool.eq_false_of_not_eq_true hsum⟩
    · exact .inr hmem

theorem mem_scale {k : R} {t : Nat × R} (h : t ∈ ts.scale k) :
    (t.2 == 0) = false ∧ ∃ u ∈ ts, u.1 = t.1 := by
  obtain ⟨hmem, hkept⟩ := List.mem_filter.mp h
  obtain ⟨u, hu, rfl⟩ := List.mem_map.mp hmem
  exact ⟨Bool.eq_false_of_not_eq_true' hkept, u, hu, rfl⟩

theorem Nonzero.add (h : ts.Nonzero) (id : Nat) (c : R) : (ts.add id c).Nonzero := by
  intro t ht
  rcases mem_add ht with ⟨-, hc⟩ | hmem
  · exact hc
  · exact h t hmem

theorem Nonzero.merge (h : ts.Nonzero) (us : Terms R) : (ts.merge us).Nonzero := by
  induction us generalizing ts with
  | nil => exact h
  | cons u us ih => exact ih (h.add u.1 u.2)

/-- A product can compare equal to zero though neither factor does. -/
theorem nonzero_scale (k : R) (ts : Terms R) : (ts.scale k).Nonzero :=
  fun _ ht => (mem_scale ht).1

namespace Among

theorem add (h : ts.Among s) {id : Nat} (hid : id ∈ s) (c : R) : (ts.add id c).Among s := by
  intro t ht
  rcases mem_add ht with ⟨rfl, -⟩ | hmem
  · exact hid
  · exact h t hmem

theorem merge (h : ts.Among s) (hus : us.Among s) : (ts.merge us).Among s := by
  induction us generalizing ts with
  | nil => exact h
  | cons u us ih =>
    obtain ⟨hu, hus⟩ := List.forall_mem_cons.mp hus
    exact ih (h.add hu u.2) hus

theorem scale (h : ts.Among s) (k : R) : (ts.scale k).Among s := by
  intro t ht
  obtain ⟨-, u, hu, hid⟩ := mem_scale ht
  rw [← hid]
  exact h u hu

end Among

end Terms

variable [Scalar R]

theorem Expr.Built.nonzero {e : Expr R} (he : e.Built) : e.terms.Nonzero := by
  induction he with
  | new c => exact List.forall_mem_nil _
  | addTerm _ c v ih => exact ih.add v.id c
  | @plus e f _ _ ihe _ => exact ihe.merge f.terms
  | @scale e _ k _ => exact Terms.nonzero_scale k e.terms

namespace Expr

omit [Scalar R] in
def Among (s : Set Nat) (e : Expr R) : Prop :=
  e.terms.Among s

namespace Among

variable {e f : Expr R}

omit [Scalar R] in
theorem new (c : R) : (Expr.new c).Among s :=
  List.forall_mem_nil _

theorem addTerm (he : e.Among s) (c : R) {v : Var R} (hv : v.id ∈ s) : (e.addTerm c v).Among s :=
  Terms.Among.add he hv c

theorem plus (he : e.Among s) (hf : f.Among s) : (e.plus f).Among s :=
  Terms.Among.merge he hf

theorem scale (he : e.Among s) (k : R) : (e.scale k).Among s :=
  Terms.Among.scale he k

theorem ofVar {v : Var R} (hv : v.id ∈ s) : (Expr.ofVar v).Among s :=
  (new 0).addTerm 1 hv

theorem minus (he : e.Among s) (hf : f.Among s) : (e.minus f).Among s :=
  he.plus (hf.scale (-1))

theorem foldl_plus {es : List (Expr R)} (hes : ∀ f ∈ es, f.Among s) (he : e.Among s) :
    (es.foldl Expr.plus e).Among s := by
  induction es generalizing e with
  | nil => exact he
  | cons f es ih =>
    obtain ⟨hf, hes⟩ := List.forall_mem_cons.mp hes
    exact ih hes (he.plus hf)

theorem sum {es : List (Expr R)} (hes : ∀ e ∈ es, e.Among s) : (Expr.sum es).Among s :=
  foldl_plus hes (new 0)

theorem sumVars {vars : List (Var R)} (hvars : ∀ v ∈ vars, v.id ∈ s) :
    (Expr.sumVars vars).Among s :=
  sum (List.forall_mem_map.mpr fun v hv => ofVar (hvars v hv))

theorem foldl_addTerm {pairs : List (Var R × R)} (hpairs : ∀ p ∈ pairs, p.1.id ∈ s)
    (he : e.Among s) : (pairs.foldl (fun e (v, c) => e.addTerm c v) e).Among s := by
  induction pairs generalizing e with
  | nil => exact he
  | cons p pairs ih =>
    obtain ⟨hp, hpairs⟩ := List.forall_mem_cons.mp hpairs
    exact ih hpairs (he.addTerm p.2 hp)

end Among

end Expr

namespace Operand

omit [Scalar R] in
/-- The numbers of the variables in it. -/
def names : Operand R → List Nat
  | scalar _ => []
  | var v => [v.id]
  | expr e => e.terms.ids

def Among (s : Set Nat) (a : Operand R) : Prop :=
  a.toExpr.Among s

namespace Among

variable {a b c : Operand R}

theorem of_names (h : ∀ i ∈ a.names, i ∈ s) : a.Among s := by
  cases a with
  | scalar k => exact .new k
  | var v => exact .ofVar (h v.id List.mem_cons_self)
  | expr e => exact fun t ht => h t.1 (List.mem_map_of_mem ht)

theorem add (ha : a.Among s) (hb : b.Among s) : (a.add b).Among s := by
  obtain ⟨k, l, rfl, rfl⟩ | h | h := add_cases a b
  · exact .new (k + l)
  · rw [h]
    exact hb.plus ha
  · rw [h]
    exact ha.plus hb

theorem sub (ha : a.Among s) (hb : b.Among s) : (a.sub b).Among s := by
  obtain ⟨k, l, rfl, rfl⟩ | h := sub_cases a b
  · exact .new (k - l)
  · rw [h]
    exact ha.minus hb

theorem mul? (ha : a.Among s) (hb : b.Among s) (h : a.mul? b = some c) : c.Among s := by
  obtain ⟨k, l, -, -, rfl⟩ | ⟨k, -, rfl⟩ | ⟨k, -, rfl⟩ := mul?_cases h
  · exact .new (k * l)
  · exact hb.scale k
  · exact ha.scale k

theorem neg (ha : a.Among s) : a.neg.Among s := by
  obtain ⟨k, rfl⟩ | h := neg_cases a
  · exact .new (-k)
  · rw [h]
    exact ha.scale (-1)

end Among

end Operand

namespace Formula

mutual

/-- The numbers of the variables that a formula puts together. -/
def names : Formula R → List Nat
  | operand a => a.names
  | convert a | neg a | scale a _ => names a
  | add a b | sub a b | mul a b | plus a b | minus a b => names a ++ names b
  | addTerm a _ v => v.id :: names a
  | sum items => namesAll items
  | sumVars vars | dot vars _ => vars.map Var.id
  | sumRow rows i => (rows.getD i []).map Var.id
  | sumCol rows j => (rows.filterMap (·[j]?)).map Var.id

def namesAll : List (Formula R) → List Nat
  | [] => []
  | item :: items => names item ++ namesAll items

end

mutual

theorem among_build : ∀ {t : Formula R} {a : Operand R}, (∀ i ∈ t.names, i ∈ s) →
    t.build = .ok a → a.Among s
  | operand _, _, ht, h => by cases h; exact .of_names ht
  | convert t, _, ht, h => by
    obtain ⟨a, ha, rfl⟩ := bind_pure_eq_ok.mp h
    have hamong : a.Among s := among_build (t := t) ht ha
    exact hamong
  | add t u, _, ht, h => by
    obtain ⟨a, ha, b, hb, rfl⟩ := bind_bind_pure_eq_ok.mp h
    obtain ⟨ht, hu⟩ := List.forall_mem_append.mp ht
    exact (among_build ht ha).add (among_build hu hb)
  | sub t u, _, ht, h => by
    obtain ⟨a, ha, b, hb, rfl⟩ := bind_bind_pure_eq_ok.mp h
    obtain ⟨ht, hu⟩ := List.forall_mem_append.mp ht
    exact (among_build ht ha).sub (among_build hu hb)
  | mul t u, _, ht, h => by
    obtain ⟨a, ha, b, hb, hc⟩ := build_mul_eq_ok.mp h
    obtain ⟨ht, hu⟩ := List.forall_mem_append.mp ht
    exact (among_build ht ha).mul? (among_build hu hb) hc
  | neg t, _, ht, h => by
    obtain ⟨a, ha, rfl⟩ := bind_pure_eq_ok.mp h
    exact (among_build (t := t) ht ha).neg
  | addTerm t c v, _, ht, h => by
    obtain ⟨a, ha, rfl⟩ := bind_pure_eq_ok.mp h
    obtain ⟨hv, ht⟩ := List.forall_mem_cons.mp ht
    exact Expr.Among.addTerm (among_build ht ha) c hv
  | plus t u, _, ht, h => by
    obtain ⟨a, ha, b, hb, rfl⟩ := bind_bind_pure_eq_ok.mp h
    obtain ⟨ht, hu⟩ := List.forall_mem_append.mp ht
    exact Expr.Among.plus (among_build ht ha) (among_build hu hb)
  | minus t u, _, ht, h => by
    obtain ⟨a, ha, b, hb, rfl⟩ := bind_bind_pure_eq_ok.mp h
    obtain ⟨ht, hu⟩ := List.forall_mem_append.mp ht
    exact Expr.Among.minus (among_build ht ha) (among_build hu hb)
  | scale t k, _, ht, h => by
    obtain ⟨a, ha, rfl⟩ := bind_pure_eq_ok.mp h
    exact Expr.Among.scale (among_build (t := t) ht ha) k
  | sum items, _, ht, h => by
    obtain ⟨as, has, rfl⟩ := bind_pure_eq_ok.mp h
    exact Expr.Among.sum (List.forall_mem_map.mpr (among_buildAll ht has))
  | sumVars vars, _, ht, h => by cases h; exact Expr.Among.sumVars (List.forall_mem_map.mp ht)
  | sumRow rows i, _, ht, h => by
    obtain ⟨e, he, rfl⟩ := liftExpr_eq_ok.mp h
    obtain ⟨-, rfl⟩ := Expr.sumRow_eq_ok.mp he
    exact Expr.Among.sumVars (List.forall_mem_map.mp ht)
  | sumCol rows j, _, ht, h => by
    obtain ⟨e, he, rfl⟩ := liftExpr_eq_ok.mp h
    obtain ⟨-, rfl⟩ := Expr.sumCol_eq_ok.mp he
    exact Expr.Among.sumVars (List.forall_mem_map.mp ht)
  | dot vars coeffs, _, ht, h => by
    obtain ⟨e, he, rfl⟩ := liftExpr_eq_ok.mp h
    obtain ⟨-, rfl⟩ := Expr.dot_eq_ok.mp he
    have hvars := List.forall_mem_map.mp ht
    exact Expr.Among.foldl_addTerm (fun p hp => hvars p.1 (List.of_mem_zip hp).1) (.new 0)

theorem among_buildAll : ∀ {ts : List (Formula R)} {as : List (Operand R)},
    (∀ i ∈ namesAll ts, i ∈ s) → buildAll ts = .ok as → ∀ a ∈ as, a.Among s
  | [], _, _, h => by cases h; exact List.forall_mem_nil _
  | t :: ts, _, hts, h => by
    obtain ⟨a, ha, as, has, rfl⟩ := bind_bind_pure_eq_ok.mp h
    obtain ⟨ht, hts⟩ := List.forall_mem_append.mp hts
    exact List.forall_mem_cons.mpr ⟨among_build ht ha, among_buildAll hts has⟩

end

/-- What a formula of built expressions builds has terms in ascending order, none of them with a
coefficient that compares equal to zero and all of them of variables in the formula. Its row has as
many column numbers as coefficients, which side by side are the terms. -/
theorem build_canonical {t : Formula R} (ht : t.FromBuilt) {a : Operand R} (h : t.build = .ok a) :
    let e := a.toExpr
    let row := SparseRow.ofExpr e
    e.terms.ids.Pairwise (· < ·) ∧
    (∀ i c, (i, c) ∈ e.terms → (c == 0) = false ∧ i ∈ t.names) ∧
    row.indices.length = row.coeffs.length ∧
    row.indices.zip row.coeffs = e.terms ∧
    row.constant = e.constant := by
  intro e row
  have hbuilt : e.Built := built_build ht h
  have hamong : e.Among {i | i ∈ t.names} := among_build (fun _ hi => hi) h
  refine ⟨List.pairwise_map.mpr hbuilt.ascending, fun i c hmem => ⟨?_, ?_⟩, ?_, ?_, rfl⟩
  · exact hbuilt.nonzero (i, c) hmem
  · exact hamong (i, c) hmem
  · exact (List.length_map _).trans (List.length_map _).symm
  · exact SparseRow.terms_ofExpr e

/-- `u * 1e-200 * 1e-200 + inf * v + (w + nan w) + (u - u) + (-0) w`. -/
def roundedSample : Formula Float :=
  let u : Var Float := ⟨0, 0, 1, .continuous⟩
  let v : Var Float := ⟨1, 0, 1, .continuous⟩
  let w : Var Float := ⟨2, 0, 1, .binary⟩
  .sum [.scale (.scale (.operand (.var u)) 1e-200) 1e-200,
    .mul (.operand (.scalar (1 / 0))) (.operand (.var v)),
    .addTerm (.operand (.var w)) (0 / 0) w,
    .sub (.operand (.var u)) (.operand (.var u)),
    .addTerm (.operand (.scalar 0)) (-0) w]

/-- The underflow and the difference are dropped; infinity and the undefined value stay. -/
theorem build_canonical_rounded : roundedSample.FromBuilt ∧ ∃ a, roundedSample.build = .ok a ∧
    a.toExpr.terms = [(1, 1 / 0), (2, 0 / 0)] ∧
    a.toExpr.terms.ids.Pairwise (· < ·) ∧
    (∀ i c, (i, c) ∈ a.toExpr.terms → (c == 0) = false ∧ i ∈ roundedSample.names) := by
  have hvar (v : Var Float) : FromBuilt (.operand (.var v)) := .ofVar v
  have hscalar (k : Float) : FromBuilt (.operand (.scalar k)) := .new k
  have hsample : roundedSample.FromBuilt :=
    ⟨hvar _, ⟨hscalar _, hvar _⟩, hvar _, ⟨hvar _, hvar _⟩, hscalar _, trivial⟩
  obtain ⟨a, ha⟩ : ∃ a, roundedSample.build = .ok a := ⟨_, rfl⟩
  obtain ⟨hascending, hterms, -⟩ := build_canonical hsample ha
  refine ⟨hsample, a, ha, ?_, hascending, hterms⟩
  cases ha
  decide +kernel

end Formula

end LinearModel
