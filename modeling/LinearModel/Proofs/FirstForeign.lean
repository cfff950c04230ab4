import LinearModel.Proofs.Loading
import LinearModel.Proofs.Pointwise

/-!
# The first foreign variable

A model without variables is refused for that alone. Any other is refused exactly if one of its
expressions names a variable that it does not have, and what is reported is the first place where
one does, with the largest variable named there. A model that is not refused is written out as it
stands.
-/

namespace LinearModel

variable {R : Type}

/-! ## Places -/

namespace Model

/-- The sides of constraints numbered from `start`, the left one of each before the right one. -/
def sides (start : Nat) (cs : List (Constraint R)) : List (Place × Expr R) :=
  (cs.zipIdx start).flatMap fun (c, i) => [(.constraint i, c.lhs), (.constraint i, c.rhs)]

def places (m : Model R) : List (Place × Expr R) :=
  sides 0 m.constraints ++ m.objective.toList.map fun o => (.objective, o.expr)

/-- The first place with a variable that is not the model's, and the largest variable there. -/
def FirstForeign (m : Model R) (place : Place) (id : Nat) : Prop :=
  ∃ before e after, m.places = before ++ (place, e) :: after ∧
    (∀ p ∈ before, p.2.Below m.vars.length) ∧
    IsGreatest {i | i ∈ e.terms.ids} id ∧ m.vars.length ≤ id

theorem sides_cons (start : Nat) (c : Constraint R) (cs : List (Constraint R)) :
    sides start (c :: cs) =
      (.constraint start, c.lhs) :: (.constraint start, c.rhs) :: sides (start + 1) cs := by
  simp [sides]

theorem mem_sides {start : Nat} {cs : List (Constraint R)} {p : Place × Expr R}
    (hp : p ∈ sides start cs) : ∃ c ∈ cs, p.2 = c.lhs ∨ p.2 = c.rhs := by
  obtain ⟨⟨c, i⟩, hc, hmem⟩ := List.mem_flatMap.mp hp
  refine ⟨c, List.fst_mem_of_mem_zipIdx hc, ?_⟩
  rcases List.mem_pair.mp hmem with rfl | rfl
  · exact .inl rfl
  · exact .inr rfl

theorem Built.places [Scalar R] {m : Model R} (hm : m.Built) : ∀ p ∈ m.places, p.2.Built := by
  intro p hp
  rcases List.mem_append.mp hp with hside | hobjective
  · obtain ⟨c, hc, heq | heq⟩ := mem_sides hside
    · rw [heq]
      exact (hm.sound.constraints c hc).1
    · rw [heq]
      exact (hm.sound.constraints c hc).2
  · obtain ⟨o, ho, rfl⟩ := List.mem_map.mp hobjective
    exact hm.sound.objective o (Option.mem_toList.mp ho)

end Model

/-! ## Checks in order -/

def foreign? (n : Nat) (p : Place × Expr R) : Option ModelFault :=
  p.2.maxId?.bind fun id => if n ≤ id then some (.foreignVariable p.1 id n) else none

theorem foreign?_eq_some_iff [Scalar R] {n : Nat} {place : Place} {e : Expr R} (he : e.Built)
    {fault : ModelFault} : foreign? n (place, e) = some fault ↔
      ∃ id, IsGreatest {i | i ∈ e.terms.ids} id ∧ n ≤ id ∧
        fault = .foreignVariable place id n := by
  simp only [foreign?, Option.bind_eq_some_iff, he.maxId?_eq_some_iff]
  refine exists_congr fun id => and_congr_right fun _ => ?_
  split_ifs with hid
  · simp [hid, eq_comm]
  · simp [hid]

theorem foreign?_eq_none_iff [Scalar R] {n : Nat} {place : Place} {e : Expr R} (he : e.Built) :
    foreign? n (place, e) = none ↔ e.Below n := by
  rw [← Expr.within_iff_below he.ascending, foreign?, Option.bind_eq_none_iff, Expr.Within]
  refine forall_congr' fun id => imp_congr_right fun _ => ?_
  split_ifs with hid
  · simp [hid]
  · simp [Nat.lt_of_not_le hid]

theorem flattenExpr_eq (n : Nat) (place : Place) (e : Expr R) :
    flattenExpr n place e = (foreign? n (place, e)).elim (.ok (.ofExpr e)) .error := by
  rw [flattenExpr, foreign?]
  cases e.maxId? with
  | none => rfl
  | some id => by_cases hid : n ≤ id <;> simp [hid]

theorem elim_findSome? {ε α β : Type} (f : α → Option ε) (a : α) (as : List α)
    (x : Except ε β) :
    ((a :: as).findSome? f).elim x .error = (f a).elim ((as.findSome? f).elim x .error) .error := by
  rw [List.findSome?_cons]
  cases f a <;> rfl

theorem flattenConstraints_eq (n start : Nat) (cs : List (Constraint R)) :
    flattenConstraints n start cs =
      ((Model.sides start cs).findSome? (foreign? n)).elim (.ok (cs.map .ofConstraint)) .error := by
  induction cs generalizing start with
  | nil => rfl
  | cons c cs ih =>
    simp only [flattenConstraints, flattenExpr_eq, ih, elim_bind, Model.sides_cons, elim_findSome?]
    rfl

theorem flattenObjective_eq (n : Nat) (o : Option (Objective R)) :
    o.mapM (flattenObjective n) =
      ((o.toList.map fun o => (Place.objective, o.expr)).findSome? (foreign? n)).elim
        (.ok (o.map .ofObjective)) .error := by
  cases o with
  | none => rfl
  | some o =>
    rw [Option.mapM_some, flattenObjective, flattenExpr_eq, Option.toList_some, List.map_cons,
      elim_findSome?]
    cases foreign? n (.objective, o.expr) <;> rfl

namespace Model

variable {m : Model R}

theorem flatten_eq (hm : m.vars ≠ []) : m.flatten =
    (m.places.findSome? (foreign? m.vars.length)).elim (.ok m.arrays) .error := by
  have hne : ¬m.vars.isEmpty = true := fun hempty => hm (List.isEmpty_iff.mp hempty)
  rw [flatten, if_neg hne, places, List.findSome?_append]
  simp only [flattenConstraints_eq, flattenObjective_eq, elim_bind]
  cases (sides 0 m.constraints).findSome? (foreign? m.vars.length) <;> rfl

theorem flatten_eq_error_iff_findSome? (hm : m.vars ≠ []) {fault : ModelFault} :
    m.flatten = .error fault ↔ m.places.findSome? (foreign? m.vars.length) = some fault := by
  rw [flatten_eq hm]
  cases m.places.findSome? (foreign? m.vars.length) <;> simp

theorem Built.flatten_eq_error_iff [Scalar R] (hm : m.Built) (hne : m.vars ≠ [])
    {fault : ModelFault} : m.flatten = .error fault ↔
      ∃ place id, m.FirstForeign place id ∧ fault = .foreignVariable place id m.vars.length := by
  have hplaces := hm.places
  rw [flatten_eq_error_iff_findSome? hne, List.findSome?_eq_some_iff]
  constructor
  · rintro ⟨before, ⟨place, e⟩, after, hsplit, hfault, hbefore⟩
    rw [hsplit] at hplaces
    have he : e.Built := hplaces (place, e) (by simp)
    obtain ⟨id, hgreatest, hid, rfl⟩ := (foreign?_eq_some_iff he).mp hfault
    refine ⟨place, id, ⟨before, e, after, hsplit, fun p hp => ?_, hgreatest, hid⟩, rfl⟩
    exact (foreign?_eq_none_iff (hplaces p (by simp [hp]))).mp (hbefore p hp)
  · rintro ⟨place, id, ⟨before, e, after, hsplit, hbefore, hgreatest, hid⟩, rfl⟩
    rw [hsplit] at hplaces
    have he : e.Built := hplaces (place, e) (by simp)
    refine ⟨before, (place, e), after, hsplit, ?_, fun p hp => ?_⟩
    · exact (foreign?_eq_some_iff he).mpr ⟨id, hgreatest, hid, rfl⟩
    · exact (foreign?_eq_none_iff (hplaces p (by simp [hp]))).mpr (hbefore p hp)

theorem Built.exists_flatten_error_iff [Scalar R] (hm : m.Built) (hne : m.vars ≠ []) :
    (∃ fault, m.flatten = .error fault) ↔
      ∃ p ∈ m.places, ∃ i ∈ p.2.terms.ids, m.vars.length ≤ i := by
  have hnone : m.places.findSome? (foreign? m.vars.length) = none ↔
      ∀ p ∈ m.places, ∀ i ∈ p.2.terms.ids, i < m.vars.length := by
    rw [List.findSome?_eq_none_iff]
    refine forall₂_congr fun p hp => ?_
    rw [← Expr.below_iff_ids]
    exact foreign?_eq_none_iff (hm.places p hp)
  simp only [flatten_eq_error_iff_findSome? hne]
  rw [← Option.ne_none_iff_exists', ne_eq, hnone]
  push Not
  rfl

end Model

/-! ## What is written out -/

/-- The row of an expression over `n` variables: its terms in their order and its constant. -/
structure SparseRow.Faithful [Scalar R] (n : Nat) (e : Expr R) (row : SparseRow R) : Prop where
  terms : row.terms = e.terms
  constant : row.constant = e.constant
  aligned : row.indices.length = row.coeffs.length
  ascending : row.indices.Pairwise (· < ·)
  below : ∀ i ∈ row.indices, i < n
  nonzero : ∀ c ∈ row.coeffs, (c == 0) = false

theorem Expr.Built.faithful [Scalar R] {n : Nat} {e : Expr R} (he : e.Built) (hbelow : e.Below n) :
    (SparseRow.ofExpr e).Faithful n e where
  terms := SparseRow.terms_ofExpr e
  constant := rfl
  aligned := (List.length_map _).trans (List.length_map _).symm
  ascending := List.pairwise_map.mpr he.ascending
  below := Expr.below_iff_ids.mp hbelow
  nonzero := List.forall_mem_map.mpr he.nonzero

/-- The arrays hold what the model holds, each variable at its number. -/
structure FlatModel.Faithful [Scalar R] (m : Model R) (flat : FlatModel R) : Prop where
  numVars : flat.numVars = m.vars.length
  lengths : flat.lower.length = m.vars.length ∧ flat.upper.length = m.vars.length ∧
    flat.kinds.length = m.vars.length
  columns : ∀ (i : Nat) (hi : i < m.vars.length), m.vars[i].id = i ∧
    flat.lower[i]? = some m.vars[i].lower ∧ flat.upper[i]? = some m.vars[i].upper ∧
    flat.kinds[i]? = some m.vars[i].kind.tag
  constraints : List.Forall₂ (fun c f => f.lhs.Faithful m.vars.length c.lhs ∧
    f.rhs.Faithful m.vars.length c.rhs ∧ f.sense = c.sense.tag) m.constraints flat.constraints
  objective : Option.Rel (fun o f => f.row.Faithful m.vars.length o.expr ∧
    f.sense = o.sense.tag) m.objective flat.objective

namespace Model

variable [Scalar R] {m : Model R}

theorem Built.arrays_faithful (hm : m.Built) (hclosed : m.Closed) : m.arrays.Faithful m where
  numVars := List.length_map _
  lengths := ⟨List.length_map _, List.length_map _, List.length_map _⟩
  columns i hi := by simp [arrays, hi, hm.sound.numbered.id_getElem hi]
  constraints := by
    rw [arrays, List.forall₂_map_right_iff, List.forall₂_same]
    intro c hc
    obtain ⟨hlhs, hrhs⟩ := hm.sound.constraints c hc
    obtain ⟨hbelow, hbelow'⟩ := (hm.scoped hclosed).constraints c hc
    exact ⟨hlhs.faithful hbelow, hrhs.faithful hbelow', rfl⟩
  objective := by
    rw [arrays]
    cases hobjective : m.objective with
    | none => exact .none
    | some o =>
      have hbelow := (hm.scoped hclosed).objective o hobjective
      exact .some ⟨(hm.sound.objective o hobjective).faithful hbelow, rfl⟩

/-- Flattening refuses a model without variables for that alone, and any other exactly if a place in
it names a variable that it does not have. What it reports is the first such place and the largest
variable there. Of a model that it accepts it gives the arrays. -/
theorem flatten_first_foreign (hm : m.Built) :
    let n := m.vars.length
    ((∃ fault, m.flatten = .error fault) ↔
      n = 0 ∨ ∃ p ∈ m.places, ∃ i ∈ p.2.terms.ids, n ≤ i) ∧
    (n = 0 → m.flatten = .error .noVariables) ∧
    (n ≠ 0 → ∀ fault, m.flatten = .error fault ↔
      ∃ place id, m.FirstForeign place id ∧ fault = .foreignVariable place id n) ∧
    (ModelFault.noVariables.toError = .invalidModel "no variables in model" ∧
      (∀ i id, (ModelFault.foreignVariable (.constraint i) id n).toError = .invalidModel
        s!"constraint {i} references variable {id} but the model has {n} variables") ∧
      ∀ id, (ModelFault.foreignVariable .objective id n).toError = .invalidModel
        s!"objective references variable {id} but the model has {n} variables") ∧
    ∀ flat, m.flatten = .ok flat → flat.Faithful m := by
  intro n
  have hrefused : n = 0 → m.flatten = .error .noVariables := by
    intro hn
    rw [flatten, if_pos (List.isEmpty_iff_length_eq_zero.mpr hn)]
  refine ⟨?_, hrefused, fun hn fault => ?_, ⟨rfl, fun _ _ => rfl, fun _ => rfl⟩, fun flat hflat => ?_⟩
  · by_cases hn : n = 0
    · exact iff_of_true ⟨_, hrefused hn⟩ (.inl hn)
    · rw [hm.exists_flatten_error_iff (List.ne_nil_of_length_pos (Nat.pos_of_ne_zero hn))]
      exact (or_iff_right hn).symm
  · exact hm.flatten_eq_error_iff (List.ne_nil_of_length_pos (Nat.pos_of_ne_zero hn))
  · obtain ⟨hclosed, rfl⟩ := flatten_eq_ok_iff.mp hflat
    exact hm.arrays_faithful hclosed

/-- `x0 <= nan x3 + 5 x7 + 1` and `x9 == 1` with the objective `x8`, in a model of two variables. -/
def foreignSample : Model Float :=
  let x (id : Nat) : Var Float := ⟨id, 0, 1, .continuous⟩
  let rhs := ((Expr.new 1).addTerm (0 / 0) (x 3)).addTerm 5 (x 7)
  let m := (empty.addVarVector 2 0 1 .continuous).2
  let m := (m.addConstraint ⟨.ofVar (x 0), .lessEqual, rhs⟩).2
  let m := (m.addConstraint ⟨.ofVar (x 9), .equal, .new 1⟩).2
  m.setObjective (.ofVar (x 8)) .maximize

theorem flatten_first_foreign_sample :
    let binary := (empty.addVar (1 / 0 : Float) 0 .binary).2
    (foreignSample.Built ∧ binary.Built) ∧
    foreignSample.flatten = .error (.foreignVariable (.constraint 0) 7 2) ∧
    (empty : Model Float).flatten = .error .noVariables ∧
    ∃ flat, binary.flatten = .ok flat ∧ flat.lower[0]? = some 0 ∧ flat.upper[0]? = some 1 ∧
      flat.kinds[0]? = some VarKind.binary.tag := by
  intro binary
  let x (id : Nat) : Var Float := ⟨id, 0, 1, .continuous⟩
  let rhs := ((Expr.new 1).addTerm (0 / 0) (x 3)).addTerm 5 (x 7)
  have hrhs : rhs.Built := ((Expr.Built.new 1).addTerm (0 / 0) (x 3)).addTerm 5 (x 7)
  have hsample : foreignSample.Built :=
    (((Built.empty.addVarVector 2 0 1 .continuous).addConstraint _ (.ofVar (x 0)) hrhs)
      |>.addConstraint _ (.ofVar (x 9)) (.new 1)).setObjective (.ofVar (x 8)) .maximize
  have hbinary : binary.Built := Built.empty.addVar (1 / 0) 0 .binary
  have hfirst : foreignSample.FirstForeign (.constraint 0) 7 := by
    have hbefore : (Expr.ofVar (x 0)).Below 2 := Expr.below_iff_ids.mpr (by decide +kernel)
    have hids : rhs.terms.ids = [3, 7] := by decide +kernel
    refine ⟨[(.constraint 0, .ofVar (x 0))], rhs, _, rfl, ?_, ?_, by decide⟩
    · exact List.forall_mem_singleton.mpr hbefore
    · rw [hids]
      refine ⟨by simp, fun i hi => ?_⟩
      have hcases : i = 3 ∨ i = 7 := by simpa using hi
      omega
  obtain ⟨-, -, hreported, -⟩ := flatten_first_foreign hsample
  obtain ⟨-, hrefused, -⟩ := flatten_first_foreign (Built.empty (R := Float))
  obtain ⟨-, -, -, -, haccepted⟩ := flatten_first_foreign hbinary
  have hflat : binary.flatten = .ok binary.arrays :=
    flatten_eq_ok_iff.mpr ⟨by decide +kernel, rfl⟩
  obtain ⟨-, hlower, hupper, hkind⟩ := (haccepted _ hflat).columns 0 Nat.one_pos
  refine ⟨⟨hsample, hbinary⟩, ?_, hrefused rfl, _, hflat, hlower, hupper, hkind⟩
  exact (hreported (by decide) _).mpr ⟨_, _, hfirst, rfl⟩

end Model

end LinearModel
