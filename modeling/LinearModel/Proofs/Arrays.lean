import LinearModel.Proofs.Built
import LinearModel.Proofs.Outcome
import LinearModel.Boundary.FlatModel

/-!
# The arrays of a model

Flattening succeeds exactly on closed models, which have variables and name no others, and then
gives the arrays of the model: nothing is computed on the way, whatever the scalars.
-/

namespace LinearModel

variable {R : Type}

namespace Expr

/-- The last variable number is below `n`. -/
def Within (n : Nat) (e : Expr R) : Prop :=
  ∀ id ∈ e.maxId?, id < n

def Below (n : Nat) (e : Expr R) : Prop :=
  ∀ t ∈ e.terms, t.1 < n

instance (n : Nat) (e : Expr R) : Decidable (e.Within n) :=
  inferInstanceAs (Decidable (∀ id ∈ e.maxId?, id < n))

theorem within_iff_below {n : Nat} {e : Expr R} (he : e.terms.Ascending) :
    e.Within n ↔ e.Below n := by
  rcases List.eq_nil_or_concat e.terms with hnil | ⟨ts, last, hts⟩
  · simp [Within, Below, maxId?, hnil]
  · have hlast : e.maxId? = some last.1 := by simp [maxId?, hts]
    constructor
    · intro hw t ht
      have hbound : last.1 < n := hw _ hlast
      rw [hts, List.concat_eq_append] at he ht
      rcases List.mem_append.mp ht with hmem | hmem
      · have hlt := (List.pairwise_append.mp he).2.2 t hmem last (List.mem_singleton_self last)
        omega
      · rwa [List.mem_singleton.mp hmem]
    · intro hb id hid
      obtain rfl : last.1 = id := Option.some.inj (hlast.symm.trans hid)
      exact hb last (by simp [hts])

end Expr

def FlatConstraint.ofConstraint (c : Constraint R) : FlatConstraint R :=
  ⟨.ofExpr c.lhs, .ofExpr c.rhs, c.sense.tag⟩

def FlatObjective.ofObjective (o : Objective R) : FlatObjective R :=
  ⟨.ofExpr o.expr, o.sense.tag⟩

def Call.ofConstraint (c : Constraint R) : Call R :=
  .addConstraint (.ofExpr c.lhs) (.ofExpr c.rhs) c.sense.tag

def Call.ofObjective (o : Objective R) : Call R :=
  .setObjective (.ofExpr o.expr) o.sense.tag

/-- A limit and a scaling mode, each only if it is set. -/
def Settings.laterCalls (s : Settings) : List (Call R) :=
  (if s.timeLimit = .zero then [] else [.timeLimit s.timeLimit.seconds]) ++
    s.scaling.toList.map .scaling

namespace Model

/-- There are variables, and all that is named is among them. -/
structure Closed (m : Model R) : Prop where
  nonempty : m.vars ≠ []
  constraints : ∀ c ∈ m.constraints, c.lhs.Within m.vars.length ∧ c.rhs.Within m.vars.length
  objective : ∀ o ∈ m.objective, o.expr.Within m.vars.length

instance (m : Model R) : Decidable m.Closed :=
  decidable_of_iff
    (m.vars ≠ [] ∧
      (∀ c ∈ m.constraints, c.lhs.Within m.vars.length ∧ c.rhs.Within m.vars.length) ∧
      ∀ o ∈ m.objective, o.expr.Within m.vars.length)
    ⟨fun ⟨hvars, hconstraints, hobjective⟩ => ⟨hvars, hconstraints, hobjective⟩,
      fun ⟨hvars, hconstraints, hobjective⟩ => ⟨hvars, hconstraints, hobjective⟩⟩

def arrays (m : Model R) : FlatModel R where
  lower := m.vars.map (·.lower)
  upper := m.vars.map (·.upper)
  kinds := m.vars.map (·.kind.tag)
  constraints := m.constraints.map .ofConstraint
  objective := m.objective.map .ofObjective

def openingCalls (m : Model R) : List (Call R) :=
  [.showLog m.settings.showLog,
    .addVars (m.vars.map (·.lower)) (m.vars.map (·.upper)) (m.vars.map (·.kind.tag))]

def laterCalls (m : Model R) : List (Call R) :=
  m.constraints.map .ofConstraint ++ m.objective.toList.map .ofObjective ++ m.settings.laterCalls

def calls (m : Model R) : List (Call R) :=
  m.openingCalls ++ m.laterCalls

theorem calls_arrays (m : Model R) : m.arrays.calls m.settings = m.calls := by
  cases hobj : m.objective <;>
    simp [FlatModel.calls, arrays, calls, openingCalls, laterCalls, hobj, Function.comp_def,
      FlatConstraint.ofConstraint, FlatObjective.ofObjective, Call.ofConstraint,
      Call.ofObjective, Settings.laterCalls]

end Model

theorem flattenExpr_eq_ok {n : Nat} {place : Place} {e : Expr R} {row : SparseRow R} :
    flattenExpr n place e = .ok row ↔ e.Within n ∧ .ofExpr e = row := by
  unfold flattenExpr
  split
  · rename_i id hid
    split_ifs with hle
    · simp [Expr.Within, hid, hle]
    · simp [Expr.Within, hid, Nat.lt_of_not_le hle]
  · rename_i hnone
    simp [Expr.Within, hnone]

theorem flattenConstraints_eq_ok {n start : Nat} {cs : List (Constraint R)}
    {flat : List (FlatConstraint R)} :
    flattenConstraints n start cs = .ok flat ↔
      (∀ c ∈ cs, c.lhs.Within n ∧ c.rhs.Within n) ∧ cs.map .ofConstraint = flat := by
  induction cs generalizing start flat with
  | nil => simp [flattenConstraints]
  | cons c cs ih =>
    simp only [flattenConstraints, bind_eq_ok, flattenExpr_eq_ok, ih, pure_eq_ok,
      List.forall_mem_cons, List.map_cons]
    constructor
    · rintro ⟨_, ⟨hl, rfl⟩, _, ⟨hr, rfl⟩, _, ⟨hcs, rfl⟩, rfl⟩
      exact ⟨⟨⟨hl, hr⟩, hcs⟩, rfl⟩
    · rintro ⟨⟨⟨hl, hr⟩, hcs⟩, rfl⟩
      exact ⟨_, ⟨hl, rfl⟩, _, ⟨hr, rfl⟩, _, ⟨hcs, rfl⟩, rfl⟩

theorem flattenObjective_eq_ok {n : Nat} {o : Option (Objective R)}
    {flat : Option (FlatObjective R)} :
    o.mapM (flattenObjective n) = .ok flat ↔
      (∀ obj ∈ o, obj.expr.Within n) ∧ o.map .ofObjective = flat := by
  cases o with
  | none =>
    have hmap : (none : Option (Objective R)).mapM (flattenObjective n) = .ok none := rfl
    simp [hmap]
  | some obj =>
    have hmap : (some obj).mapM (flattenObjective n) =
        (flattenExpr n .objective obj.expr).map fun row => some ⟨row, obj.sense.tag⟩ := by
      rw [Option.mapM_some, flattenObjective]
      cases flattenExpr n .objective obj.expr <;> rfl
    simp only [hmap, map_eq_ok, flattenExpr_eq_ok, Option.mem_def, Option.some.injEq,
      forall_eq', Option.map_some]
    constructor
    · rintro ⟨_, ⟨hobj, rfl⟩, rfl⟩
      exact ⟨hobj, rfl⟩
    · rintro ⟨hobj, rfl⟩
      exact ⟨_, ⟨hobj, rfl⟩, rfl⟩

/-- Flattening accepts the closed models and reads off their arrays. -/
theorem Model.flatten_eq_ok_iff {m : Model R} {flat : FlatModel R} :
    m.flatten = .ok flat ↔ m.Closed ∧ m.arrays = flat := by
  unfold Model.flatten
  split_ifs with hempty
  · have hnil : m.vars = [] := List.isEmpty_iff.mp hempty
    exact ⟨fun h => (by cases h), fun h => absurd hnil h.1.nonempty⟩
  · have hne : m.vars ≠ [] := fun hnil => hempty (List.isEmpty_iff.mpr hnil)
    simp only [bind_eq_ok, flattenConstraints_eq_ok, flattenObjective_eq_ok, pure_eq_ok]
    constructor
    · rintro ⟨_, ⟨hcs, rfl⟩, _, ⟨hobj, rfl⟩, rfl⟩
      exact ⟨⟨hne, hcs, hobj⟩, rfl⟩
    · rintro ⟨hm, rfl⟩
      exact ⟨_, ⟨hm.constraints, rfl⟩, _, ⟨hm.objective, rfl⟩, rfl⟩

end LinearModel
