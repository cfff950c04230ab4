import LinearModel.Proofs.Coefficients

/-!
# Cells

The coefficient of one variable as a cell of its own, which is empty or holds a coefficient. However
many changes are made to an expression, each cell and the constant go through the touches that
concern them alone, so changes that touch different cells may be made in either order.
-/

namespace LinearModel

variable {R : Type}

inductive Change (R : Type) where
  | addTerm (c : R) (v : Var R)
  | plus (other : Operand R)
  | scale (k : R)

inductive Touch (R : Type) where
  | add (c : R)
  | mul (k : R)

variable [Scalar R]

namespace Change

def touch? (i : Nat) : Change R → Option (Touch R)
  | addTerm c v => if i = v.id then some (.add c) else none
  | plus other => (other.toExpr.terms.get? i).map .add
  | scale k => some (.mul k)

def constantTouch? : Change R → Option (Touch R)
  | addTerm _ _ => none
  | plus other => some (.add other.toExpr.constant)
  | scale k => some (.mul k)

def Built : Change R → Prop
  | plus other => other.Built
  | addTerm _ _ | scale _ => True

end Change

namespace Touch

def number (x : R) : Touch R → R
  | add c => x + c
  | mul k => x * k

/-- An empty cell counts as zero in a sum and stays empty in a product; what comes to zero empties
the cell. -/
def cell (old : Option R) : Touch R → Option R
  | add c => Terms.kept (old.getD 0 + c)
  | mul k => old.bind fun c => Terms.kept (c * k)

/-- The touches that find something to act on: an empty cell is not multiplied. -/
def felt : Option R → List (Touch R) → List (Touch R)
  | _, [] => []
  | none, mul _ :: ts => felt none ts
  | old, t :: ts => t :: felt (t.cell old) ts

theorem foldl_felt (old : Option R) (ts : List (Touch R)) :
    (felt old ts).foldl cell old = ts.foldl cell old := by
  induction ts generalizing old with
  | nil => cases old <;> rfl
  | cons t ts ih =>
    cases t with
    | add c =>
      have hstep : felt old (add c :: ts) = add c :: felt ((add c).cell old) ts := by
        cases old <;> rfl
      rw [hstep, List.foldl_cons, List.foldl_cons, ih]
    | mul k =>
      cases old with
      | none => exact ih none
      | some c => exact ih ((mul k).cell (some c))

end Touch

namespace Expr

def change (e : Expr R) : Change R → Expr R
  | .addTerm c v => e.addTerm c v
  | .plus other => e.plus other.toExpr
  | .scale k => e.scale k

/-- The cell of variable `i` after changes, from its touches alone. -/
def cellAfter (e : Expr R) (changes : List (Change R)) (i : Nat) : Option R :=
  (changes.filterMap (Change.touch? i)).foldl Touch.cell (e.terms.get? i)

def constantAfter (e : Expr R) (changes : List (Change R)) : R :=
  (changes.filterMap Change.constantTouch?).foldl Touch.number e.constant

variable {e : Expr R} {c : Change R}

theorem Built.change (he : e.Built) (hc : c.Built) : (e.change c).Built := by
  cases c with
  | addTerm c v => exact he.addTerm c v
  | plus other => exact he.plus hc
  | scale k => exact he.scale k

theorem Built.foldl_change (he : e.Built) {changes : List (Change R)}
    (hchanges : ∀ c ∈ changes, c.Built) : (changes.foldl Expr.change e).Built := by
  induction changes generalizing e with
  | nil => exact he
  | cons c changes ih =>
    obtain ⟨hc, hchanges⟩ := List.forall_mem_cons.mp hchanges
    exact ih (he.change hc) hchanges

/-- A change reaches one cell by one touch at most, whatever else it does. -/
theorem get?_change (he : e.Built) (hc : c.Built) (i : Nat) :
    (e.change c).terms.get? i =
      (c.touch? i).elim (e.terms.get? i) (Touch.cell (e.terms.get? i)) := by
  cases c with
  | addTerm c v =>
    have hget : (e.addTerm c v).terms.get? i = _ := he.ascending.get?_add v.id c i
    rw [change, hget, Change.touch?]
    split_ifs <;> rfl
  | plus other =>
    have hget : (e.plus other.toExpr).terms.get? i = _ :=
      he.ascending.get?_merge (Expr.Built.ascending hc) i
    rw [change, hget, Change.touch?]
    cases other.toExpr.terms.get? i <;> rfl
  | scale k => exact he.ascending.get?_scale k i

theorem constant_change (e : Expr R) (c : Change R) :
    (e.change c).constant = c.constantTouch?.elim e.constant (Touch.number e.constant) := by
  cases c <;> rfl

theorem get?_foldl_change (he : e.Built) {changes : List (Change R)}
    (hchanges : ∀ c ∈ changes, c.Built) (i : Nat) :
    (changes.foldl change e).terms.get? i = e.cellAfter changes i := by
  induction changes generalizing e with
  | nil => rfl
  | cons c changes ih =>
    obtain ⟨hc, hchanges⟩ := List.forall_mem_cons.mp hchanges
    rw [List.foldl_cons, ih (he.change hc) hchanges, cellAfter, cellAfter, get?_change he hc,
      List.filterMap_cons]
    cases c.touch? i <;> rfl

theorem constant_foldl_change (e : Expr R) (changes : List (Change R)) :
    (changes.foldl change e).constant = e.constantAfter changes := by
  induction changes generalizing e with
  | nil => rfl
  | cons c changes ih =>
    rw [List.foldl_cons, ih, constantAfter, constantAfter, constant_change, List.filterMap_cons]
    cases c.constantTouch? <;> rfl

/-- Variables do not interfere: after any changes the term of a variable is what its touches alone
make of its cell, and the constant what its own make of it. So changes by which every cell and the
constant feel the same touches in the same order make the same expression. -/
theorem change_cell_by_cell (he : e.Built) {changes : List (Change R)}
    (hchanges : ∀ c ∈ changes, c.Built) :
    let result := changes.foldl change e
    (∀ i k, (i, k) ∈ result.terms ↔ e.cellAfter changes i = some k) ∧
    (∀ v, result.coefficient v = (e.cellAfter changes v.id).getD 0) ∧
    result.constant = e.constantAfter changes ∧
    ∀ others : List (Change R), (∀ c ∈ others, c.Built) →
      (∀ i, Touch.felt (e.terms.get? i) (others.filterMap (Change.touch? i)) =
        Touch.felt (e.terms.get? i) (changes.filterMap (Change.touch? i))) →
      others.filterMap Change.constantTouch? = changes.filterMap Change.constantTouch? →
      others.foldl change e = result := by
  intro result
  have hascending : result.terms.Ascending := (he.foldl_change hchanges).ascending
  have hget (i : Nat) : result.terms.get? i = e.cellAfter changes i :=
    get?_foldl_change he hchanges i
  refine ⟨fun i k => ?_, fun v => ?_, constant_foldl_change e changes,
    fun others hothers htouches hconstant => ?_⟩
  · rw [← hget, hascending.get?_eq_some]
  · rw [coefficient, hget]
  · -- what a cell does not feel makes no difference to it
    have hterms : (others.foldl change e).terms = result.terms := by
      refine (he.foldl_change hothers).ascending.ext hascending fun i => ?_
      rw [hget, get?_foldl_change he hothers, cellAfter, ← Touch.foldl_felt, htouches,
        Touch.foldl_felt, cellAfter]
    have hconstants : (others.foldl change e).constant = result.constant := by
      rw [constant_foldl_change, constantAfter, hconstant, ← constantAfter,
        ← constant_foldl_change]
    exact congrArg₂ Expr.mk hterms hconstants

theorem change_cell_by_cell_sample :
    let u : Var Float := ⟨0, 0, 1, .continuous⟩
    let v : Var Float := ⟨1, 0, 1, .continuous⟩
    let w : Var Float := ⟨2, 0, 1, .continuous⟩
    let e := (new 2).addTerm 3 u
    let f := ((new 1).addTerm (-3) u).addTerm (1 / 0) w
    let rest : List (Change Float) := [.scale 1e-200, .scale 1e-200, .addTerm 0.2 u]
    let changes := .addTerm 0.1 v :: .plus (.expr f) :: rest
    let others := .plus (.expr f) :: .addTerm 0.1 v :: rest
    (e.Built ∧ (∀ c ∈ changes, c.Built) ∧ ∀ c ∈ others, c.Built) ∧
    (0, 0.2) ∈ (changes.foldl change e).terms ∧
    (∀ k, (1, k) ∉ (changes.foldl change e).terms) ∧
    (2, 1 / 0) ∈ (changes.foldl change e).terms ∧
    others.foldl change e = changes.foldl change e := by
  intro u v w e f rest changes others
  have he : e.Built := (Built.new 2).addTerm 3 u
  have hf : f.Built := ((Built.new 1).addTerm (-3) u).addTerm (1 / 0) w
  have hrest : ∀ c ∈ rest, c.Built := by simp [rest, Change.Built]
  have hchanges : ∀ c ∈ changes, c.Built :=
    List.forall_mem_cons.mpr ⟨trivial, List.forall_mem_cons.mpr ⟨hf, hrest⟩⟩
  have hothers : ∀ c ∈ others, c.Built :=
    List.forall_mem_cons.mpr ⟨hf, List.forall_mem_cons.mpr ⟨trivial, hrest⟩⟩
  have htouches (i : Nat) : others.filterMap (Change.touch? i) =
      changes.filterMap (Change.touch? i) := by
    by_cases hi : i = 1
    · have hget : f.terms.get? i = none := by
        subst hi
        decide +kernel
      have hnone : Change.touch? i (.plus (.expr f)) = none := Option.map_eq_none_iff.mpr hget
      simp only [others, changes, List.filterMap_cons, hnone]
    · have hnone : Change.touch? i (.addTerm 0.1 v) = none := if_neg hi
      simp only [others, changes, List.filterMap_cons, hnone]
  obtain ⟨hterms, -, -, hsame⟩ := change_cell_by_cell he hchanges
  refine ⟨⟨he, hchanges, hothers⟩, ?_, fun k hk => ?_, ?_, ?_⟩
  · exact (hterms 0 0.2).mpr (by decide +kernel)
  · have hempty : e.cellAfter changes 1 = none := by decide +kernel
    rw [hterms, hempty] at hk
    cases hk
  · exact (hterms 2 (1 / 0)).mpr (by decide +kernel)
  · exact hsame others hothers (fun i => congrArg _ (htouches i)) rfl

end Expr

end LinearModel
