import LinearModel.Proofs.Canonical
import LinearModel.Proofs.Doubles
import LinearModel.Proofs.ExactLoading
import LinearModel.Proofs.Operations

/-!
# Rebuilding a model from its arrays

Nothing but the settings is lost when a model is flattened: its variables, constraints and objective
can be made again from the arrays alone, through the same operations. Terms are added to an
expression in ascending order, so each finds no coefficient before it, and zero plus a coefficient
that does not compare equal to zero has to be that coefficient.
-/

namespace LinearModel

variable {R : Type}

namespace Terms

variable {ts : Terms R} {id : Nat}

theorem put_of_forall_lt (h : ∀ t ∈ ts, t.1 < id) (c : R) : ts.put id c = ts ++ [(id, c)] := by
  induction ts with
  | nil => rfl
  | cons u us ih =>
    obtain ⟨hu, hus⟩ := List.forall_mem_cons.mp h
    have hlt : ¬ id < u.1 := by omega
    have hne : id ≠ u.1 := by omega
    rw [put, if_neg hlt, if_neg hne, ih hus]
    rfl

variable [Scalar R]

theorem add_of_forall_lt (hzero : ZeroNeutral R) (h : ∀ t ∈ ts, t.1 < id) {c : R}
    (hc : (c == 0) = false) : ts.add id c = ts ++ [(id, c)] := by
  have hnone : ts.get? id = none := get?_eq_none fun t ht => Nat.ne_of_lt (h t ht)
  have hsum : (ts.get? id).getD 0 + c = c := by rw [hnone, Option.getD_none, hzero c hc]
  simp only [add, hsum, hc, Bool.false_eq_true, if_false]
  exact put_of_forall_lt h c

end Terms

variable [Scalar R]

/-! ## From arrays to a model -/

/-- Adds a term for the variable with this number, if there is one. -/
def Expr.addTermOf? (vars : List (Var R)) (e : Expr R) (t : Nat × R) : Option (Expr R) :=
  vars[t.1]?.map fun v => e.addTerm t.2 v

def SparseRow.rebuild? (vars : List (Var R)) (row : SparseRow R) : Option (Expr R) :=
  row.terms.foldlM (Expr.addTermOf? vars) (.new row.constant)

def FlatConstraint.rebuild? (vars : List (Var R)) (c : FlatConstraint R) :
    Option (Constraint R) := do
  let lhs ← c.lhs.rebuild? vars
  let sense ← Sense.ofTag? c.sense
  let rhs ← c.rhs.rebuild? vars
  return ⟨lhs, sense, rhs⟩

def FlatObjective.rebuild? (vars : List (Var R)) (o : FlatObjective R) :
    Option (Objective R) := do
  let expr ← o.row.rebuild? vars
  let sense ← Direction.ofTag? o.sense
  return ⟨expr, sense⟩

namespace FlatModel

def addColumn? (flat : FlatModel R) (m : Model R) (i : Nat) : Option (Model R) := do
  let lower ← flat.lower[i]?
  let upper ← flat.upper[i]?
  let tag ← flat.kinds[i]?
  let kind ← VarKind.ofTag? tag
  return (m.addVar lower upper kind).2

def addRow? (m : Model R) (c : FlatConstraint R) : Option (Model R) :=
  (c.rebuild? m.vars).map fun c => (m.addConstraint c).2

def addObjective? (m : Model R) (o : FlatObjective R) : Option (Model R) :=
  (o.rebuild? m.vars).map fun o => m.setObjective o.expr o.sense

/-- A new model from nothing but the arrays. There is none if a tag has no meaning or a row names a
variable that is not there. -/
def rebuild? (flat : FlatModel R) : Option (Model R) := do
  let m ← (List.range flat.numVars).foldlM flat.addColumn? Model.empty
  let m ← flat.constraints.foldlM addRow? m
  flat.objective.toList.foldlM addObjective? m

end FlatModel

/-! ## From a model to arrays and back -/

theorem foldlM_addTermOf? (hzero : ZeroNeutral R) {vars : List (Var R)} {done rest : Terms R}
    {k : R} (hascending : (done ++ rest).Ascending) (hnonzero : rest.Nonzero)
    (hvars : ∀ t ∈ rest, ∃ v, vars[t.1]? = some v ∧ v.id = t.1) :
    rest.foldlM (Expr.addTermOf? vars) ⟨done, k⟩ = some ⟨done ++ rest, k⟩ := by
  induction rest generalizing done with
  | nil => rw [List.append_nil]; rfl
  | cons t rest ih =>
    obtain ⟨hc, hnonzero⟩ := List.forall_mem_cons.mp hnonzero
    obtain ⟨⟨v, hget, hid⟩, hvars⟩ := List.forall_mem_cons.mp hvars
    have hbefore : ∀ u ∈ done, u.1 < t.1 := fun u hu =>
      (List.pairwise_append.mp hascending).2.2 u hu t List.mem_cons_self
    have hstep : Expr.addTermOf? vars ⟨done, k⟩ t = some ⟨done ++ [t], k⟩ := by
      simp only [Expr.addTermOf?, hget, Option.map_some, Expr.addTerm, hid,
        Terms.add_of_forall_lt hzero hbefore hc]
    have hsplit : done ++ t :: rest = done ++ [t] ++ rest := List.append_cons done t rest
    rw [hsplit] at hascending ⊢
    rw [List.foldlM_cons, hstep]
    exact ih hascending hnonzero hvars

namespace Model

variable {m : Model R}

theorem Made.rebuild?_ofExpr (hm : m.Made) (hzero : ZeroNeutral R) {e : Expr R} (he : e.Built)
    (hbelow : e.Below m.vars.length) : (SparseRow.ofExpr e).rebuild? m.vars = some e := by
  rw [SparseRow.rebuild?, SparseRow.terms_ofExpr]
  exact foldlM_addTermOf? hzero he.ascending he.nonzero fun t ht =>
    ⟨_, List.getElem?_eq_getElem (hbelow t ht), hm.id_getElem (hbelow t ht)⟩

theorem Made.rebuild?_ofConstraint (hm : m.Made) (hzero : ZeroNeutral R) {c : Constraint R}
    (hlhs : c.lhs.Built) (hrhs : c.rhs.Built) (hbelow : c.lhs.Below m.vars.length)
    (hbelow' : c.rhs.Below m.vars.length) :
    (FlatConstraint.ofConstraint c).rebuild? m.vars = some c := by
  simp only [FlatConstraint.rebuild?, FlatConstraint.ofConstraint,
    hm.rebuild?_ofExpr hzero hlhs hbelow, hm.rebuild?_ofExpr hzero hrhs hbelow', Sense.ofTag?_tag]
  rfl

theorem Made.rebuild?_ofObjective (hm : m.Made) (hzero : ZeroNeutral R) {o : Objective R}
    (he : o.expr.Built) (hbelow : o.expr.Below m.vars.length) :
    (FlatObjective.ofObjective o).rebuild? m.vars = some o := by
  simp only [FlatObjective.rebuild?, FlatObjective.ofObjective, hm.rebuild?_ofExpr hzero he hbelow,
    Direction.ofTag?_tag]
  rfl

theorem makeVar_of_eq {i : Nat} {lower upper : R} {kind : VarKind} {v : Var R}
    (h : v = makeVar i lower upper kind) : makeVar i v.lower v.upper v.kind = v := by
  subst h
  cases kind <;> rfl

theorem Made.addColumn?_arrays (hm : m.Made) {i : Nat} (hi : i < m.vars.length) :
    m.arrays.addColumn? { vars := m.vars.take i } i = some { vars := m.vars.take (i + 1) } := by
  have hlower : m.arrays.lower[i]? = some m.vars[i].lower := by simp [arrays, hi]
  have hupper : m.arrays.upper[i]? = some m.vars[i].upper := by simp [arrays, hi]
  have hkind : m.arrays.kinds[i]? = some m.vars[i].kind.tag := by simp [arrays, hi]
  have hlen : (m.vars.take i).length = i := List.length_take_of_le (Nat.le_of_lt hi)
  obtain ⟨lower, upper, kind, hvar⟩ := hm i hi
  simp only [FlatModel.addColumn?, hlower, hupper, hkind, Option.bind_eq_bind, Option.bind_some,
    VarKind.ofTag?_tag, addVar, hlen, makeVar_of_eq hvar, List.take_append_getElem]
  rfl

theorem Made.foldlM_addColumn? (hm : m.Made) {n : Nat} (hn : n ≤ m.vars.length) :
    (List.range n).foldlM m.arrays.addColumn? empty = some { vars := m.vars.take n } := by
  induction n with
  | zero => rfl
  | succ n ih =>
    rw [List.range_succ, List.foldlM_append, ih (Nat.le_of_succ_le hn)]
    simp only [List.foldlM_cons, Option.bind_eq_bind, Option.bind_some, hm.addColumn?_arrays hn,
      List.foldlM_nil]
    rfl

theorem foldlM_addRow? {cs : List (Constraint R)}
    (h : ∀ c ∈ cs, (FlatConstraint.ofConstraint c).rebuild? m.vars = some c) :
    (cs.map FlatConstraint.ofConstraint).foldlM FlatModel.addRow? m =
      some { m with constraints := m.constraints ++ cs } := by
  induction cs generalizing m with
  | nil => rw [List.append_nil]; rfl
  | cons c cs ih =>
    obtain ⟨hc, hcs⟩ := List.forall_mem_cons.mp h
    have hstep : FlatModel.addRow? m (.ofConstraint c) = some (m.addConstraint c).2 := by
      rw [FlatModel.addRow?, hc, Option.map_some]
    rw [List.map_cons, List.foldlM_cons, hstep, List.append_cons]
    exact ih hcs

/-- Each operation that makes variables makes them in their places. -/
theorem Built.made (hm : m.Built) : m.Made := by
  induction hm with
  | empty => exact made_empty
  | addVar _ lower upper kind ih => exact ih.perform (.addVar lower upper kind)
  | addVarVector _ num lower upper kind ih => exact ih.perform (.addVarVector num lower upper kind)
  | addVarMatrix _ rows cols lower upper kind ih =>
    exact ih.perform (.addVarMatrix rows cols lower upper kind)
  | addConstraint _ c _ _ ih => exact ih
  | setObjective _ _ _ ih | showLog _ _ ih | setTimeLimit _ _ ih | setScaling _ _ ih => exact ih

theorem Built.rebuild?_arrays (hm : m.Built) (hzero : ZeroNeutral R) (hclosed : m.Closed) :
    m.arrays.rebuild? = some { m with settings := {} } := by
  have hsound := hm.sound
  have hmade := hm.made
  have hbelow {e : Expr R} (he : e.Built) (hwithin : e.Within m.vars.length) :
      e.Below m.vars.length :=
    (Expr.within_iff_below he.ascending).mp hwithin
  have hcolumns : (List.range m.arrays.numVars).foldlM m.arrays.addColumn? Model.empty =
      some { vars := m.vars } := by
    have hnum : m.arrays.numVars = m.vars.length := List.length_map _
    rw [hnum, hmade.foldlM_addColumn? (Nat.le_refl _), List.take_length]
  have hrows : m.arrays.constraints.foldlM FlatModel.addRow? { vars := m.vars } =
      some { vars := m.vars, constraints := m.constraints } := by
    apply foldlM_addRow?
    intro c hc
    obtain ⟨hlhs, hrhs⟩ := hsound.constraints c hc
    obtain ⟨hl, hr⟩ := hclosed.constraints c hc
    exact hmade.rebuild?_ofConstraint hzero hlhs hrhs (hbelow hlhs hl) (hbelow hrhs hr)
  rw [FlatModel.rebuild?, hcolumns, Option.bind_eq_bind, Option.bind_some, hrows,
    Option.bind_some]
  cases hobjective : m.objective with
  | none => rw [arrays, hobjective]; rfl
  | some o =>
    have ho := hsound.objective o hobjective
    have hback := hmade.rebuild?_ofObjective hzero ho (hbelow ho (hclosed.objective o hobjective))
    have hlast : FlatModel.addObjective?
        { vars := m.vars, constraints := m.constraints } (.ofObjective o) =
        some { vars := m.vars, constraints := m.constraints, objective := some o } := by
      rw [FlatModel.addObjective?, hback]
      rfl
    rw [arrays, hobjective, Option.map_some, Option.toList_some, List.foldlM_cons, hlast]
    rfl

/-- The arrays of a model give back all of it but the settings, so models with the same arrays
differ in nothing else. -/
theorem flatten_lossless {m : Model Float} {flat : FlatModel Float} (hm : m.Built)
    (hflat : m.flatten = .ok flat) :
    ∃ r, flat.rebuild? = some r ∧ r.flatten = .ok flat ∧ r.vars = m.vars ∧
      r.constraints = m.constraints ∧ r.objective = m.objective ∧
      ∀ m' : Model Float, m'.Built → m'.flatten = .ok flat →
        m'.vars = m.vars ∧ m'.constraints = m.constraints ∧ m'.objective = m.objective := by
  obtain ⟨hclosed, rfl⟩ := flatten_eq_ok_iff.mp hflat
  have hrebuild := hm.rebuild?_arrays zeroNeutral_float hclosed
  refine ⟨_, hrebuild, ?_, rfl, rfl, rfl, fun m' hm' hflat' => ?_⟩
  · exact flatten_eq_ok_iff.mpr
      ⟨⟨hclosed.nonempty, hclosed.constraints, hclosed.objective⟩, rfl⟩
  · -- both models are rebuilt from the same arrays
    obtain ⟨hclosed', harrays⟩ := flatten_eq_ok_iff.mp hflat'
    have hrebuild' := hm'.rebuild?_arrays zeroNeutral_float hclosed'
    rw [harrays, hrebuild] at hrebuild'
    obtain ⟨hvars, hconstraints, hobjective, -⟩ := Model.mk.inj (Option.some.inj hrebuild')
    exact ⟨hvars.symm, hconstraints.symm, hobjective.symm⟩

end Model

theorem Sample.flatten_lossless_sample :
    model.Built ∧ model.flatten = .ok model.arrays ∧
    ∃ r, model.arrays.rebuild? = some r ∧ r.flatten = .ok model.arrays ∧
      r.objective = model.objective := by
  obtain ⟨r, hrebuild, hagain, -, -, hobjective, -⟩ :=
    Model.flatten_lossless model_built flatten_model
  exact ⟨model_built, flatten_model, r, hrebuild, hagain, hobjective⟩

end LinearModel
