import LinearModel.Proofs.Values
import LinearModel.Expr.Formula

/-!
# The meaning of a formula

A formula is defined if no builder in it fails and every product in it has a scalar factor. A
defined formula is built, no other is, and over the rationals what is built has the value of the
formula at every point.
-/

namespace LinearModel

variable {R : Type} [Scalar R]

namespace Operand

omit [Scalar R] in
def isScalar : Operand R → Bool
  | scalar _ => true
  | _ => false

def Built (a : Operand R) : Prop :=
  a.toExpr.Built

section Step

variable {a b c : Operand R}

theorem add_cases (a b : Operand R) : (∃ k l, a = scalar k ∧ b = scalar l) ∨
    a.add b = expr (b.toExpr.plus a.toExpr) ∨ a.add b = expr (a.toExpr.plus b.toExpr) := by
  cases a with
  | scalar k =>
    cases b with
    | scalar l => exact .inl ⟨k, l, rfl, rfl⟩
    | var v => exact .inr (.inl rfl)
    | expr e => exact .inr (.inl rfl)
  | var v => exact .inr (.inr rfl)
  | expr e => exact .inr (.inr rfl)

theorem sub_cases (a b : Operand R) :
    (∃ k l, a = scalar k ∧ b = scalar l) ∨ a.sub b = expr (a.toExpr.minus b.toExpr) := by
  cases a with
  | scalar k =>
    cases b with
    | scalar l => exact .inl ⟨k, l, rfl, rfl⟩
    | var v => exact .inr rfl
    | expr e => exact .inr rfl
  | var v => exact .inr rfl
  | expr e => exact .inr rfl

theorem mul?_cases (h : a.mul? b = some c) :
    (∃ k l, a = scalar k ∧ b = scalar l ∧ c = scalar (k * l)) ∨
    (∃ k, a = scalar k ∧ c = expr (b.toExpr.scale k)) ∨
    ∃ k, b = scalar k ∧ c = expr (a.toExpr.scale k) := by
  cases a with
  | scalar k =>
    cases b with
    | scalar l => cases h; exact .inl ⟨k, l, rfl, rfl, rfl⟩
    | var v => cases h; exact .inr (.inl ⟨k, rfl, rfl⟩)
    | expr e => cases h; exact .inr (.inl ⟨k, rfl, rfl⟩)
  | var v =>
    cases b with
    | scalar l => cases h; exact .inr (.inr ⟨l, rfl, rfl⟩)
    | var w => cases h
    | expr f => cases h
  | expr e =>
    cases b with
    | scalar l => cases h; exact .inr (.inr ⟨l, rfl, rfl⟩)
    | var w => cases h
    | expr f => cases h

theorem neg_cases (a : Operand R) : (∃ k, a = scalar k) ∨ a.neg = expr (a.toExpr.scale (-1)) := by
  cases a with
  | scalar k => exact .inl ⟨k, rfl⟩
  | var v => exact .inr rfl
  | expr e => exact .inr rfl

theorem exists_mul? : (∃ c, a.mul? b = some c) ↔ a.isScalar ∨ b.isScalar := by
  cases a <;> cases b <;> simp [mul?, isScalar]

theorem isScalar_add : (a.add b).isScalar = (a.isScalar && b.isScalar) := by
  cases a <;> cases b <;> rfl

theorem isScalar_sub : (a.sub b).isScalar = (a.isScalar && b.isScalar) := by
  cases a <;> cases b <;> rfl

theorem isScalar_mul? (h : a.mul? b = some c) : c.isScalar = (a.isScalar && b.isScalar) := by
  cases a <;> cases b <;> cases h <;> rfl

theorem isScalar_neg : a.neg.isScalar = a.isScalar := by
  cases a <;> rfl

theorem Built.scalar (k : R) : (Operand.scalar k).Built :=
  .new k

theorem Built.add (ha : a.Built) (hb : b.Built) : (a.add b).Built := by
  obtain ⟨k, l, rfl, rfl⟩ | h | h := add_cases a b
  · exact .scalar (k + l)
  · rw [h]
    exact hb.plus ha
  · rw [h]
    exact ha.plus hb

theorem Built.sub (ha : a.Built) (hb : b.Built) : (a.sub b).Built := by
  obtain ⟨k, l, rfl, rfl⟩ | h := sub_cases a b
  · exact .scalar (k - l)
  · rw [h]
    exact ha.minus hb

theorem Built.mul? (ha : a.Built) (hb : b.Built) (h : a.mul? b = some c) : c.Built := by
  obtain ⟨k, l, -, -, rfl⟩ | ⟨k, -, rfl⟩ | ⟨k, -, rfl⟩ := mul?_cases h
  · exact .scalar (k * l)
  · exact hb.scale k
  · exact ha.scale k

theorem Built.neg (ha : a.Built) : a.neg.Built := by
  obtain ⟨k, rfl⟩ | h := neg_cases a
  · exact .scalar (-k)
  · rw [h]
    exact ha.scale (-1)

end Step

section Value

variable (x : Nat → Rat) {a b c : Operand Rat}

@[simp] theorem value_scalar (k : Rat) : (scalar k).value x = k :=
  rfl

@[simp] theorem value_expr (e : Expr Rat) : (expr e).value x = e.value x :=
  rfl

theorem value_toExpr (a : Operand Rat) : a.toExpr.value x = a.value x := by
  cases a with
  | scalar k => exact Expr.value_new x k
  | var v => exact Expr.value_ofVar x v
  | expr e => rfl

theorem value_add (ha : a.Built) (hb : b.Built) : (a.add b).value x = a.value x + b.value x := by
  obtain ⟨k, l, rfl, rfl⟩ | h | h := add_cases a b
  · rfl
  · rw [h, value_expr, Expr.value_plus x hb, value_toExpr, value_toExpr, add_comm]
  · rw [h, value_expr, Expr.value_plus x ha, value_toExpr, value_toExpr]

theorem value_sub (ha : a.Built) : (a.sub b).value x = a.value x - b.value x := by
  obtain ⟨k, l, rfl, rfl⟩ | h := sub_cases a b
  · rfl
  · rw [h, value_expr, Expr.value_minus x ha, value_toExpr, value_toExpr]

theorem value_mul? (h : a.mul? b = some c) : c.value x = a.value x * b.value x := by
  obtain ⟨k, l, rfl, rfl, rfl⟩ | ⟨k, rfl, rfl⟩ | ⟨k, rfl, rfl⟩ := mul?_cases h
  · rfl
  · rw [value_scalar, value_expr, Expr.value_scale, value_toExpr, mul_comm]
  · rw [value_scalar, value_expr, Expr.value_scale, value_toExpr]

theorem value_neg : a.neg.value x = -a.value x := by
  obtain ⟨k, rfl⟩ | h := neg_cases a
  · rfl
  · rw [h, value_expr, Expr.value_scale, value_toExpr, mul_neg_one]

end Value

end Operand

namespace Formula

omit [Scalar R] in
/-- Whether it is built of nothing but arithmetic between scalars. -/
def isScalar : Formula R → Bool
  | operand a => a.isScalar
  | add a b | sub a b | mul a b => a.isScalar && b.isScalar
  | neg a => a.isScalar
  | _ => false

mutual

/-- No builder fails and every product has a scalar factor. -/
def Defined : Formula R → Prop
  | operand _ | sumVars _ => True
  | convert a | neg a | addTerm a _ _ | scale a _ => Defined a
  | add a b | sub a b | plus a b | minus a b => Defined a ∧ Defined b
  | mul a b => Defined a ∧ Defined b ∧ (a.isScalar ∨ b.isScalar)
  | sum items => AllDefined items
  | sumRow rows i => i < rows.length
  | sumCol rows j => rows ≠ [] ∧ ∀ cells ∈ rows, j < cells.length
  | dot vars coeffs => vars.length = coeffs.length

def AllDefined : List (Formula R) → Prop
  | [] => True
  | item :: items => Defined item ∧ AllDefined items

end

mutual

/-- Every expression it starts from was built before. -/
def FromBuilt : Formula R → Prop
  | operand a => a.Built
  | convert a | neg a | addTerm a _ _ | scale a _ => FromBuilt a
  | add a b | sub a b | mul a b | plus a b | minus a b => FromBuilt a ∧ FromBuilt b
  | sum items => AllFromBuilt items
  | sumVars _ | sumRow _ _ | sumCol _ _ | dot _ _ => True

def AllFromBuilt : List (Formula R) → Prop
  | [] => True
  | item :: items => FromBuilt item ∧ AllFromBuilt items

end

omit [Scalar R] in
theorem liftExpr_eq_ok {r : Except Error (Expr R)} {a : Operand R} :
    liftExpr r = .ok a ↔ ∃ e, r = .ok e ∧ .expr e = a := by
  cases r with
  | ok e => simp [liftExpr]
  | error error => simp [liftExpr]

theorem build_mul_eq_ok {t u : Formula R} {c : Operand R} :
    (mul t u).build = .ok c ↔
      ∃ a, t.build = .ok a ∧ ∃ b, u.build = .ok b ∧ a.mul? b = some c := by
  simp only [build, bind_eq_ok]
  refine exists_congr fun a => and_congr_right fun _ => exists_congr fun b =>
    and_congr_right fun _ => ?_
  cases a.mul? b with
  | none => exact ⟨fun h => (by cases h), fun h => (by cases h)⟩
  | some d => simp [pure_eq_ok]

theorem isScalar_build : ∀ {t : Formula R} {a : Operand R}, t.build = .ok a →
    a.isScalar = t.isScalar
  | operand _, _, h => by cases h; rfl
  | add t u, _, h => by
    obtain ⟨a, ha, b, hb, rfl⟩ := bind_bind_pure_eq_ok.mp h
    rw [Operand.isScalar_add, isScalar_build ha, isScalar_build hb, isScalar]
  | sub t u, _, h => by
    obtain ⟨a, ha, b, hb, rfl⟩ := bind_bind_pure_eq_ok.mp h
    rw [Operand.isScalar_sub, isScalar_build ha, isScalar_build hb, isScalar]
  | mul t u, _, h => by
    obtain ⟨a, ha, b, hb, hc⟩ := build_mul_eq_ok.mp h
    rw [Operand.isScalar_mul? hc, isScalar_build ha, isScalar_build hb, isScalar]
  | neg t, _, h => by
    obtain ⟨a, ha, rfl⟩ := bind_pure_eq_ok.mp h
    rw [Operand.isScalar_neg, isScalar_build ha, isScalar]
  | convert _, _, h | addTerm _ _ _, _, h | scale _ _, _, h => by
    obtain ⟨_, -, rfl⟩ := bind_pure_eq_ok.mp h
    rfl
  | plus _ _, _, h | minus _ _, _, h => by
    obtain ⟨_, -, _, -, rfl⟩ := bind_bind_pure_eq_ok.mp h
    rfl
  | sum _, _, h => by
    obtain ⟨_, -, rfl⟩ := bind_pure_eq_ok.mp h
    rfl
  | sumVars _, _, h => by cases h; rfl
  | sumRow _ _, _, h | sumCol _ _, _, h | dot _ _, _, h => by
    obtain ⟨_, -, rfl⟩ := liftExpr_eq_ok.mp h
    rfl

mutual

theorem exists_build : ∀ t : Formula R, (∃ a, t.build = .ok a) ↔ t.Defined
  | operand a => by simp [build, Defined]
  | sumVars vars => by simp [build, Defined]
  | convert t | neg t | addTerm t _ _ | scale t _ => by
    simp only [build, Defined, ← exists_build t]
    exact exists_bind_pure
  | add t u | sub t u | plus t u | minus t u => by
    simp only [build, Defined, ← exists_build t, ← exists_build u]
    exact exists_bind_bind_pure
  | mul t u => by
    rw [Defined, ← exists_build t, ← exists_build u]
    simp only [build_mul_eq_ok]
    -- Which factors are scalars is known before they are built.
    constructor
    · rintro ⟨c, a, ha, b, hb, hc⟩
      have hscalar := Operand.exists_mul?.mp ⟨c, hc⟩
      rw [isScalar_build ha, isScalar_build hb] at hscalar
      exact ⟨⟨a, ha⟩, ⟨b, hb⟩, hscalar⟩
    · rintro ⟨⟨a, ha⟩, ⟨b, hb⟩, hscalar⟩
      rw [← isScalar_build ha, ← isScalar_build hb] at hscalar
      obtain ⟨c, hc⟩ := Operand.exists_mul?.mpr hscalar
      exact ⟨c, a, ha, b, hb, hc⟩
  | sum items => by
    simp only [build, Defined, ← exists_buildAll items]
    exact exists_bind_pure
  | sumRow rows i => by simp [build, Defined, liftExpr_eq_ok, Expr.sumRow_eq_ok]
  | sumCol rows j => by simp [build, Defined, liftExpr_eq_ok, Expr.sumCol_eq_ok]
  | dot vars coeffs => by simp [build, Defined, liftExpr_eq_ok, Expr.dot_eq_ok]

theorem exists_buildAll : ∀ ts : List (Formula R), (∃ as, buildAll ts = .ok as) ↔ AllDefined ts
  | [] => by simp [buildAll, AllDefined]
  | t :: ts => by
    simp only [buildAll, AllDefined, ← exists_build t, ← exists_buildAll ts]
    exact exists_bind_bind_pure

end

mutual

theorem built_build : ∀ {t : Formula R} {a : Operand R}, t.FromBuilt → t.build = .ok a → a.Built
  | operand _, _, ht, h => by cases h; exact ht
  | convert t, _, ht, h => by
    obtain ⟨a, ha, rfl⟩ := bind_pure_eq_ok.mp h
    have hbuilt : a.Built := built_build (t := t) ht ha
    exact hbuilt
  | add t u, _, ht, h => by
    obtain ⟨a, ha, b, hb, rfl⟩ := bind_bind_pure_eq_ok.mp h
    exact (built_build ht.1 ha).add (built_build ht.2 hb)
  | sub t u, _, ht, h => by
    obtain ⟨a, ha, b, hb, rfl⟩ := bind_bind_pure_eq_ok.mp h
    exact (built_build ht.1 ha).sub (built_build ht.2 hb)
  | mul t u, _, ht, h => by
    obtain ⟨a, ha, b, hb, hc⟩ := build_mul_eq_ok.mp h
    exact (built_build ht.1 ha).mul? (built_build ht.2 hb) hc
  | neg t, _, ht, h => by
    obtain ⟨a, ha, rfl⟩ := bind_pure_eq_ok.mp h
    exact (built_build (t := t) ht ha).neg
  | addTerm t c v, _, ht, h => by
    obtain ⟨a, ha, rfl⟩ := bind_pure_eq_ok.mp h
    exact Expr.Built.addTerm (built_build (t := t) ht ha) c v
  | plus t u, _, ht, h => by
    obtain ⟨a, ha, b, hb, rfl⟩ := bind_bind_pure_eq_ok.mp h
    exact Expr.Built.plus (built_build ht.1 ha) (built_build ht.2 hb)
  | minus t u, _, ht, h => by
    obtain ⟨a, ha, b, hb, rfl⟩ := bind_bind_pure_eq_ok.mp h
    exact Expr.Built.minus (built_build ht.1 ha) (built_build ht.2 hb)
  | scale t k, _, ht, h => by
    obtain ⟨a, ha, rfl⟩ := bind_pure_eq_ok.mp h
    exact Expr.Built.scale (built_build (t := t) ht ha) k
  | sum items, _, ht, h => by
    obtain ⟨as, has, rfl⟩ := bind_pure_eq_ok.mp h
    exact Expr.Built.sum (List.forall_mem_map.mpr (built_buildAll ht has))
  | sumVars vars, _, _, h => by cases h; exact Expr.Built.sumVars vars
  | sumRow rows i, _, _, h => by
    obtain ⟨e, he, rfl⟩ := liftExpr_eq_ok.mp h
    obtain ⟨-, rfl⟩ := Expr.sumRow_eq_ok.mp he
    exact Expr.Built.sumVars _
  | sumCol rows j, _, _, h => by
    obtain ⟨e, he, rfl⟩ := liftExpr_eq_ok.mp h
    obtain ⟨-, rfl⟩ := Expr.sumCol_eq_ok.mp he
    exact Expr.Built.sumVars _
  | dot vars coeffs, _, _, h => by
    obtain ⟨e, he, rfl⟩ := liftExpr_eq_ok.mp h
    obtain ⟨-, rfl⟩ := Expr.dot_eq_ok.mp he
    exact Expr.Built.foldl_addTerm _ (.new 0)

theorem built_buildAll : ∀ {ts : List (Formula R)} {as : List (Operand R)}, AllFromBuilt ts →
    buildAll ts = .ok as → ∀ a ∈ as, a.Built
  | [], _, _, h => by cases h; exact List.forall_mem_nil _
  | t :: ts, _, hts, h => by
    obtain ⟨a, ha, as, has, rfl⟩ := bind_bind_pure_eq_ok.mp h
    exact List.forall_mem_cons.mpr ⟨built_build hts.1 ha, built_buildAll hts.2 has⟩

end

section Value

variable (x : Nat → Rat)

mutual

theorem value_build : ∀ {t : Formula Rat} {a : Operand Rat}, t.FromBuilt → t.build = .ok a →
    a.value x = t.value x
  | operand _, _, _, h => by cases h; rfl
  | convert t, _, ht, h => by
    obtain ⟨a, ha, rfl⟩ := bind_pure_eq_ok.mp h
    rw [Operand.value_expr, Operand.value_toExpr, value_build (t := t) ht ha, value]
  | add t u, _, ht, h => by
    obtain ⟨a, ha, b, hb, rfl⟩ := bind_bind_pure_eq_ok.mp h
    rw [Operand.value_add x (built_build ht.1 ha) (built_build ht.2 hb), value_build ht.1 ha,
      value_build ht.2 hb, value]
  | sub t u, _, ht, h => by
    obtain ⟨a, ha, b, hb, rfl⟩ := bind_bind_pure_eq_ok.mp h
    rw [Operand.value_sub x (built_build ht.1 ha), value_build ht.1 ha, value_build ht.2 hb, value]
  | mul t u, _, ht, h => by
    obtain ⟨a, ha, b, hb, hc⟩ := build_mul_eq_ok.mp h
    rw [Operand.value_mul? x hc, value_build ht.1 ha, value_build ht.2 hb, value]
  | neg t, _, ht, h => by
    obtain ⟨a, ha, rfl⟩ := bind_pure_eq_ok.mp h
    rw [Operand.value_neg, value_build (t := t) ht ha, value]
  | addTerm t c v, _, ht, h => by
    obtain ⟨a, ha, rfl⟩ := bind_pure_eq_ok.mp h
    rw [Operand.value_expr, Expr.value_addTerm x (built_build (t := t) ht ha), Operand.value_toExpr,
      value_build (t := t) ht ha, value]
  | plus t u, _, ht, h => by
    obtain ⟨a, ha, b, hb, rfl⟩ := bind_bind_pure_eq_ok.mp h
    rw [Operand.value_expr, Expr.value_plus x (built_build ht.1 ha), Operand.value_toExpr,
      Operand.value_toExpr, value_build ht.1 ha, value_build ht.2 hb, value]
  | minus t u, _, ht, h => by
    obtain ⟨a, ha, b, hb, rfl⟩ := bind_bind_pure_eq_ok.mp h
    rw [Operand.value_expr, Expr.value_minus x (built_build ht.1 ha), Operand.value_toExpr,
      Operand.value_toExpr, value_build ht.1 ha, value_build ht.2 hb, value]
  | scale t k, _, ht, h => by
    obtain ⟨a, ha, rfl⟩ := bind_pure_eq_ok.mp h
    rw [Operand.value_expr, Expr.value_scale, Operand.value_toExpr, value_build (t := t) ht ha,
      value]
  | sum items, _, ht, h => by
    obtain ⟨as, has, rfl⟩ := bind_pure_eq_ok.mp h
    have hbuilt : ∀ e ∈ as.map Operand.toExpr, e.Built :=
      List.forall_mem_map.mpr (built_buildAll ht has)
    rw [Operand.value_expr, Expr.value_sum x hbuilt, List.map_map]
    simp only [Function.comp_def, Operand.value_toExpr]
    rw [value_buildAll ht has, value]
  | sumVars vars, _, _, h => by cases h; exact Expr.value_sumVars x vars
  | sumRow rows i, _, _, h => by
    obtain ⟨e, he, rfl⟩ := liftExpr_eq_ok.mp h
    obtain ⟨-, rfl⟩ := Expr.sumRow_eq_ok.mp he
    rw [Operand.value_expr, Expr.value_sumVars, value]
  | sumCol rows j, _, _, h => by
    obtain ⟨e, he, rfl⟩ := liftExpr_eq_ok.mp h
    obtain ⟨-, rfl⟩ := Expr.sumCol_eq_ok.mp he
    rw [Operand.value_expr, Expr.value_sumVars, value, List.map_filterMap]
  | dot vars coeffs, _, _, h => by
    obtain ⟨e, he, rfl⟩ := liftExpr_eq_ok.mp h
    obtain ⟨-, rfl⟩ := Expr.dot_eq_ok.mp he
    rw [Operand.value_expr, Expr.value_foldl_addTerm x (.new 0), Expr.value_new, zero_add, value]

theorem value_buildAll : ∀ {ts : List (Formula Rat)} {as : List (Operand Rat)}, AllFromBuilt ts →
    buildAll ts = .ok as → (as.map (Operand.value x)).sum = valueAll x ts
  | [], _, _, h => by cases h; rfl
  | t :: ts, _, hts, h => by
    obtain ⟨a, ha, as, has, rfl⟩ := bind_bind_pure_eq_ok.mp h
    rw [List.map_cons, List.sum_cons, value_build hts.1 ha, value_buildAll hts.2 has, valueAll]

end

end Value

/-- A formula over the rationals is built exactly if it is defined, and then into an expression with
the value of the formula at every point. -/
theorem build_computes_value {t : Formula Rat} (ht : t.FromBuilt) :
    ((∃ a, t.build = .ok a) ↔ t.Defined) ∧
    ∀ a, t.build = .ok a → a.toExpr.Built ∧ ∀ x, a.toExpr.value x = t.value x := by
  refine ⟨exists_build t, fun a ha => ⟨built_build ht ha, fun x => ?_⟩⟩
  rw [Operand.value_toExpr, value_build x ht ha]

/-- `2 * (u - 3) - sum [u, e += dot [v] [4]]` where `e` was built as `u + v`. -/
def sample : Formula Rat :=
  let u : Var Rat := ⟨0, 0, 1, .continuous⟩
  let v : Var Rat := ⟨1, 0, 1, .binary⟩
  let e := (Expr.ofVar u).plus (.ofVar v)
  .sub (.mul (.operand (.scalar 2)) (.sub (.operand (.var u)) (.operand (.scalar 3))))
    (.sum [.operand (.var u), .plus (.operand (.expr e)) (.dot [v] [4])])

theorem build_computes_value_sample : sample.FromBuilt ∧
    ∃ a, sample.build = .ok a ∧ a.toExpr.Built ∧ ∀ x, a.toExpr.value x = -5 * x 1 - 6 := by
  have hfactor : FromBuilt (.operand (.scalar (2 : Rat))) := .new 2
  have hvar (v : Var Rat) : FromBuilt (.operand (.var v)) := .ofVar v
  have hexpr (u v : Var Rat) : FromBuilt (.operand (.expr ((Expr.ofVar u).plus (.ofVar v)))) :=
    (Expr.Built.ofVar u).plus (.ofVar v)
  have hsample : sample.FromBuilt :=
    ⟨⟨hfactor, hvar _, .new 3⟩, hvar _, ⟨hexpr _ _, trivial⟩, trivial⟩
  have hdefined : sample.Defined :=
    ⟨⟨trivial, ⟨trivial, trivial⟩, .inl rfl⟩, trivial, ⟨trivial, rfl⟩, trivial⟩
  obtain ⟨hbuilds, hvalue⟩ := build_computes_value hsample
  obtain ⟨a, ha⟩ := hbuilds.mpr hdefined
  refine ⟨hsample, a, ha, (hvalue a ha).1, fun x => ?_⟩
  rw [(hvalue a ha).2]
  simp only [sample, value, valueAll, Operand.value, Expr.value_plus x (.ofVar _),
    Expr.value_ofVar, List.zip_cons_cons, List.zip_nil_right, List.map_cons, List.map_nil,
    List.sum_cons, List.sum_nil]
  ring

end Formula

end LinearModel
