import Mathlib.Order.Bounds.Basic
import LinearModel.Proofs.Built
import LinearModel.Proofs.Calls
import LinearModel.Boundary.Solver

/-!
# The first fault

A pending problem has a fault exactly if one of its calls was malformed when it was made. The fault
is then that of the first such call, whatever was called afterwards.
-/

namespace LinearModel

variable {R : Type}

namespace SparseRow

variable [Scalar R]

def Built (row : SparseRow R) : Prop :=
  ∃ e : Expr R, e.Built ∧ ofExpr e = row

theorem Built.indices_ascending {row : SparseRow R} (hrow : row.Built) :
    row.indices.Pairwise (· < ·) := by
  obtain ⟨e, he, rfl⟩ := hrow
  exact List.pairwise_map.mpr he.ascending

/-- In a row with ascending column numbers the first that is not below `n` is the least. -/
theorem Built.firstBeyond?_eq_some {row : SparseRow R} (hrow : row.Built) {n i : Nat} :
    row.firstBeyond? n = some i ↔ IsLeast {j | j ∈ row.indices ∧ n ≤ j} i := by
  have hsorted := hrow.indices_ascending
  rw [firstBeyond?, List.find?_eq_some_iff_append]
  constructor
  · rintro ⟨hi, before, after, hindices, hbefore⟩
    have hmem : i ∈ row.indices := by simp [hindices]
    -- What stands before `i` is below `n`, and what stands after it is greater.
    refine ⟨⟨hmem, by simpa using hi⟩, ?_⟩
    rintro j ⟨hj, hnj⟩
    rw [hindices] at hsorted hj
    rcases List.mem_append.mp hj with hj | hj
    · have hlt : ¬n ≤ j := by simpa using hbefore j hj
      omega
    · rcases List.mem_cons.mp hj with rfl | hj
      · exact le_rfl
      · have hcons := (List.pairwise_append.mp hsorted).2.1
        exact ((List.pairwise_cons.mp hcons).1 j hj).le
  · rintro ⟨⟨hi, hn⟩, hleast⟩
    obtain ⟨before, after, hindices⟩ := List.append_of_mem hi
    refine ⟨by simpa using hn, before, after, hindices, fun j hj => ?_⟩
    have hlt : j < i := by
      rw [hindices] at hsorted
      exact (List.pairwise_append.mp hsorted).2.2 j hj i List.mem_cons_self
    have hmem : j ∈ row.indices := by simp [hindices, hj]
    by_cases hnj : n ≤ j
    · have hle : i ≤ j := hleast ⟨hmem, hnj⟩
      omega
    · simpa using hnj

theorem Built.exists_isLeast {row : SparseRow R} (hrow : row.Built) {n : Nat}
    (h : ∃ i ∈ row.indices, n ≤ i) : ∃ i, IsLeast {j | j ∈ row.indices ∧ n ≤ j} i := by
  have hne : row.firstBeyond? n ≠ none := by
    intro hnone
    obtain ⟨i, hi, hn⟩ := h
    have hlt := firstBeyond?_eq_none_iff.mp hnone i hi
    omega
  obtain ⟨i, hi⟩ := Option.ne_none_iff_exists'.mp hne
  exact ⟨i, hrow.firstBeyond?_eq_some.mp hi⟩

end SparseRow

namespace Call

def isConstraint : Call R → Bool
  | addConstraint .. => true
  | _ => false

def RowsBuilt [Scalar R] : Call R → Prop
  | addConstraint lhs rhs _ => lhs.Built ∧ rhs.Built
  | setObjective row _ => row.Built
  | _ => True

/-- What is to be said of a malformed call beside so many columns and after so many constraints. -/
inductive Reports (columns constraints : Nat) : Call R → CallFault → Prop
  | misaligned {lower upper : List R} {kinds : List UInt8}
      (h : lower.length ≠ upper.length ∨ lower.length ≠ kinds.length) :
      Reports columns constraints (addVars lower upper kinds)
        (.misaligned lower.length upper.length kinds.length)
  | kindTag {lower upper : List R} {kinds : List UInt8} {tag : UInt8}
      (hupper : lower.length = upper.length) (hkinds : lower.length = kinds.length)
      (htag : kinds.find? (fun tag => (VarKind.ofTag? tag).isNone) = some tag) :
      Reports columns constraints (addVars lower upper kinds) (.kindTag tag)
  | senseTag {lhs rhs : SparseRow R} {sense : UInt8} (hsense : Sense.ofTag? sense = none) :
      Reports columns constraints (addConstraint lhs rhs sense) (.senseTag sense)
  | lhs {lhs rhs : SparseRow R} {sense : UInt8} {i : Nat} (hsense : Sense.ofTag? sense ≠ none)
      (hi : IsLeast {j | j ∈ lhs.indices ∧ columns ≤ j} i) :
      Reports columns constraints (addConstraint lhs rhs sense)
        (.beyondColumns (.constraint constraints) i columns)
  | rhs {lhs rhs : SparseRow R} {sense : UInt8} {i : Nat} (hsense : Sense.ofTag? sense ≠ none)
      (hlhs : ∀ j ∈ lhs.indices, j < columns)
      (hi : IsLeast {j | j ∈ rhs.indices ∧ columns ≤ j} i) :
      Reports columns constraints (addConstraint lhs rhs sense)
        (.beyondColumns (.constraint constraints) i columns)
  | directionTag {row : SparseRow R} {sense : Int} (hsense : Direction.ofTag? sense = none) :
      Reports columns constraints (setObjective row sense) (.directionTag sense)
  | objective {row : SparseRow R} {sense : Int} {i : Nat} (hsense : Direction.ofTag? sense ≠ none)
      (hi : IsLeast {j | j ∈ row.indices ∧ columns ≤ j} i) :
      Reports columns constraints (setObjective row sense) (.beyondColumns .objective i columns)

variable [Scalar R]

theorem Malformed.exists_reports {n : Nat} {c : Call R} (hc : c.Malformed n) (hrows : c.RowsBuilt)
    (constraints : Nat) : ∃ fault, c.Reports n constraints fault := by
  cases c with
  | addVars lower upper kinds =>
    by_cases haligned : lower.length ≠ upper.length ∨ lower.length ≠ kinds.length
    · exact ⟨_, .misaligned haligned⟩
    · obtain ⟨hupper, hkinds⟩ := not_or.mp haligned
      obtain ⟨tag, htag, hnone⟩ := (hc.resolve_left hupper).resolve_left hkinds
      have hfound : (kinds.find? fun tag => (VarKind.ofTag? tag).isNone).isSome :=
        List.find?_isSome.mpr ⟨tag, htag, by simp [hnone]⟩
      obtain ⟨first, hfirst⟩ := Option.isSome_iff_exists.mp hfound
      exact ⟨_, .kindTag (not_not.mp hupper) (not_not.mp hkinds) hfirst⟩
  | addConstraint lhs rhs sense =>
    by_cases hsense : Sense.ofTag? sense = none
    · exact ⟨_, .senseTag hsense⟩
    · by_cases hlhs : ∃ i ∈ lhs.indices, n ≤ i
      · obtain ⟨i, hi⟩ := hrows.1.exists_isLeast hlhs
        exact ⟨_, .lhs hsense hi⟩
      · have hrhs := (hc.resolve_left hsense).resolve_left hlhs
        obtain ⟨i, hi⟩ := hrows.2.exists_isLeast hrhs
        simp only [not_exists, not_and, Nat.not_le] at hlhs
        exact ⟨_, .rhs hsense hlhs hi⟩
  | setObjective row sense =>
    by_cases hsense : Direction.ofTag? sense = none
    · exact ⟨_, .directionTag hsense⟩
    · obtain ⟨i, hi⟩ := SparseRow.Built.exists_isLeast hrows (hc.resolve_left hsense)
      exact ⟨_, .objective hsense hi⟩
  | showLog _ | timeLimit _ | scaling _ | optimize => exact hc.elim

theorem length_filterMap_row? {n : Nat} {c : Call R} (hc : ¬c.Malformed n) :
    ([c].filterMap row?).length = [c].countP isConstraint := by
  cases c with
  | addConstraint lhs rhs sense =>
    obtain ⟨s, hs⟩ := Option.ne_none_iff_exists'.mp (not_or.mp hc).1
    simp [row?, hs, isConstraint]
  | addVars _ _ _ | setObjective _ _ | showLog _ | timeLimit _ | scaling _ | optimize => rfl

end Call

namespace Pending

theorem columnsOf_snd (items : List (R × R × UInt8)) :
    (columnsOf items).2 =
      (items.map fun item => item.2.2).find? fun tag => (VarKind.ofTag? tag).isNone := by
  induction items with
  | nil => rfl
  | cons item items ih =>
    obtain ⟨lower, upper, tag⟩ := item
    rw [columnsOf]
    cases htag : VarKind.ofTag? tag with
    | none => simp [htag]
    | some kind => simp [htag, ih]

theorem columnsOf_snd_zip {lower upper : List R} {kinds : List UInt8}
    (hupper : lower.length = upper.length) (hkinds : lower.length = kinds.length) :
    (columnsOf (lower.zip (upper.zip kinds))).2 =
      kinds.find? fun tag => (VarKind.ofTag? tag).isNone := by
  have hzip : lower.length ≥ (upper.zip kinds).length := by simp; omega
  have htags : (lower.zip (upper.zip kinds)).map (fun item => item.2.2) = kinds :=
    calc (lower.zip (upper.zip kinds)).map (fun item => item.2.2)
        = ((lower.zip (upper.zip kinds)).map Prod.snd).map Prod.snd := by
          rw [List.map_map]
          rfl
      _ = (upper.zip kinds).map Prod.snd := by rw [List.map_snd_zip hzip]
      _ = kinds := List.map_snd_zip (by omega)
  rw [columnsOf_snd, htags]

theorem rowFault?_eq_some [Scalar R] {p : Pending R} {place : Place} {row : SparseRow R} {i : Nat}
    (hrow : row.Built) (hi : IsLeast {j | j ∈ row.indices ∧ p.numVars ≤ j} i) :
    p.rowFault? place row = some (.beyondColumns place i p.numVars) := by
  rw [rowFault?, hrow.firstBeyond?_eq_some.mpr hi]
  rfl

variable [Scalar R]

theorem fault_call_of_reports {p : Pending R} {c : Call R} {fault : CallFault}
    (hrows : c.RowsBuilt) (h : c.Reports p.numVars p.rows.length fault) :
    (p.call c).fault = p.fault.or (some fault) := by
  cases h with
  | misaligned haligned => simp only [call, addVars, if_pos haligned, fail]
  | @kindTag lower upper kinds tag hupper hkinds htag =>
    have haligned : ¬(lower.length ≠ upper.length ∨ lower.length ≠ kinds.length) := by omega
    simp only [call, addVars, if_neg haligned, columnsOf_snd_zip hupper hkinds, htag, fail]
  | senseTag hsense => simp only [call, addConstraint, hsense, fail]
  | lhs hsense hi =>
    obtain ⟨s, hs⟩ := Option.ne_none_iff_exists'.mp hsense
    simp only [call, addConstraint, hs, rowFault?_eq_some hrows.1 hi, Option.some_or, fail]
  | rhs hsense hlhs hi =>
    obtain ⟨s, hs⟩ := Option.ne_none_iff_exists'.mp hsense
    simp only [call, addConstraint, hs, rowFault?_eq_none_iff.mpr hlhs,
      rowFault?_eq_some hrows.2 hi, Option.none_or, fail]
  | directionTag hsense => simp only [call, setObjective, hsense, fail]
  | objective hsense hi =>
    obtain ⟨s, hs⟩ := Option.ne_none_iff_exists'.mp hsense
    simp only [call, setObjective, hs, rowFault?_eq_some hrows hi, fail]

theorem exists_fault_call (p : Pending R) (c : Call R) :
    ∃ later, (p.call c).fault = p.fault.or later := by
  have hkept : ∃ later, p.fault = p.fault.or later := ⟨none, Option.or_none.symm⟩
  have hfail (f : CallFault) : ∃ later, p.fault.or (some f) = p.fault.or later := ⟨_, rfl⟩
  cases c with
  | showLog _ | timeLimit _ | scaling _ | optimize => exact hkept
  | addVars lower upper kinds =>
    simp only [call, addVars]
    split
    · exact hfail _
    · split
      · exact hkept
      · exact hfail _
  | addConstraint lhs rhs sense =>
    simp only [call, addConstraint]
    split
    · exact hfail _
    · split
      · exact hfail _
      · exact hkept
  | setObjective row sense =>
    simp only [call, setObjective]
    split
    · exact hfail _
    · split
      · exact hfail _
      · exact hkept

theorem exists_fault_run (p : Pending R) (calls : List (Call R)) :
    ∃ later, (p.run calls).fault = p.fault.or later := by
  induction calls generalizing p with
  | nil => exact ⟨none, Option.or_none.symm⟩
  | cons c calls ih =>
    obtain ⟨first, hfirst⟩ := p.exists_fault_call c
    obtain ⟨later, hlater⟩ := ih (p.call c)
    refine ⟨first.or later, ?_⟩
    rw [← Option.or_assoc, ← hfirst]
    exact hlater

theorem fault_run_of_some {p : Pending R} {fault : CallFault} (h : p.fault = some fault)
    (calls : List (Call R)) : (p.run calls).fault = some fault := by
  obtain ⟨later, hlater⟩ := p.exists_fault_run calls
  rw [hlater, h, Option.some_or]

theorem exists_malformed {p : Pending R} {calls : List (Call R)} (h : ¬p.Accepts calls) :
    ∃ before c after, calls = before ++ c :: after ∧ p.Accepts before ∧
      c.Malformed (p.run before).numVars := by
  induction calls generalizing p with
  | nil => exact absurd trivial h
  | cons c calls ih =>
    by_cases hc : c.Malformed p.numVars
    · exact ⟨[], c, calls, rfl, trivial, hc⟩
    · obtain ⟨before, d, after, rfl, hbefore, hd⟩ := ih fun hcalls => h ⟨hc, hcalls⟩
      exact ⟨c :: before, d, after, rfl, ⟨hc, hbefore⟩, hd⟩

/-- The rows are as many as the constraints so far, so their count is the number of the next. -/
theorem Accepts.length_rows {p : Pending R} {calls : List (Call R)} (h : p.Accepts calls) :
    (p.run calls).rows.length = p.rows.length + calls.countP Call.isConstraint := by
  induction calls generalizing p with
  | nil => rfl
  | cons c calls ih =>
    have hcall := congrArg List.length (call_extends h.1).rows
    have hrun : (p.run (c :: calls)).rows.length =
        (p.call c).rows.length + calls.countP Call.isConstraint := ih h.2
    have hsplit : (c :: calls).countP Call.isConstraint =
        [c].countP Call.isConstraint + calls.countP Call.isConstraint :=
      @List.countP_append _ Call.isConstraint [c] calls
    rw [List.length_append, Call.length_filterMap_row? h.1] at hcall
    omega

theorem fault_run_of_reports {before after : List (Call R)} {c : Call R} {fault : CallFault}
    (hbefore : empty.Accepts before) (hrows : c.RowsBuilt)
    (hc : c.Reports (empty.run before).numVars (before.countP Call.isConstraint) fault) :
    (empty.run (before ++ c :: after)).fault = some fault := by
  have hlen : (empty.run before).rows.length = before.countP Call.isConstraint := by
    rw [hbefore.length_rows]
    exact Nat.zero_add _
  rw [← hlen] at hc
  have hcall := fault_call_of_reports hrows hc
  rw [hbefore.run_extends.fault] at hcall
  rw [run_append]
  exact fault_run_of_some hcall after

/-- No fault is without a call that is malformed, and it is that of the first. -/
theorem exists_first_malformed {calls : List (Call R)} (hrows : ∀ c ∈ calls, c.RowsBuilt)
    (h : ¬empty.Accepts calls) :
    ∃ before c after, calls = before ++ c :: after ∧ empty.Accepts before ∧
      c.Malformed (empty.run before).numVars ∧
      (∃ fault, c.Reports (empty.run before).numVars (before.countP Call.isConstraint) fault) ∧
      ∀ fault, c.Reports (empty.run before).numVars (before.countP Call.isConstraint) fault →
        (empty.run calls).fault = some fault := by
  obtain ⟨before, c, after, rfl, hbefore, hc⟩ := exists_malformed h
  have hbuilt : c.RowsBuilt := hrows c (by simp)
  exact ⟨before, c, after, rfl, hbefore, hc, hc.exists_reports hbuilt _,
    fun fault hfault => fault_run_of_reports hbefore hbuilt hfault⟩

theorem failure_eq_none_iff {calls : List (Call R)} (hrows : ∀ c ∈ calls, c.RowsBuilt) :
    (empty.run calls).failure = none ↔ empty.Accepts calls := by
  rw [failure, Option.map_eq_none_iff]
  constructor
  · intro hnone
    by_contra hcalls
    obtain ⟨before, c, after, -, -, -, ⟨fault, hfault⟩, hall⟩ := exists_first_malformed hrows hcalls
    have hsome := hall fault hfault
    rw [hnone] at hsome
    cases hsome
  · intro hcalls
    exact hcalls.run_extends.fault

/-- Of calls with built rows: no failure means that none was malformed, and then the problem is all
that was called; any failure is that of the first malformed call, for good, and is what a buffered
solver answers without solving. -/
theorem first_fault_wins {calls : List (Call R)} (hrows : ∀ c ∈ calls, c.RowsBuilt) :
    let p := empty.run calls
    (p.failure = none ↔ empty.Accepts calls) ∧
    (p.failure = none →
      p.columns = calls.flatMap Call.columns ∧
      p.rows = calls.filterMap Call.row? ∧
      p.rows.length = calls.countP Call.isConstraint ∧
      p.objective = (calls.filterMap Call.objective?).getLast?) ∧
    (∀ failure, p.failure = some failure →
      (∃ before c after, calls = before ++ c :: after ∧ empty.Accepts before ∧
        let columns := (empty.run before).numVars
        let constraints := before.countP Call.isConstraint
        c.Malformed columns ∧ (∃ fault, c.Reports columns constraints fault) ∧
        ∀ fault, c.Reports columns constraints fault →
          failure = ⟨Code.unknownError, fault.message⟩) ∧
      ∀ more, (p.run more).failure = some failure) ∧
    ∀ name solve, (Solver.buffered name solve).optimize p =
      match p.failure with
      | some failure =>
        ({ code := failure.code, message := failure.message, objective := 0, optimal := false
           gap := 0, values := List.replicate p.numVars 0 }, [], p)
      | none => ((solve p).1, (solve p).2, p) := by
  intro p
  have hnone : p.failure = none ↔ empty.Accepts calls := failure_eq_none_iff hrows
  refine ⟨hnone, fun hp => ?_, fun failure hp => ⟨?_, fun more => ?_⟩, fun name solve => ?_⟩
  · have hcalls := hnone.mp hp
    have hrun := hcalls.run_extends
    refine ⟨hrun.columns, hrun.rows, ?_, ?_⟩
    · rw [hcalls.length_rows]
      exact Nat.zero_add _
    · rw [hrun.objective]
      exact Option.or_none
  · have hcalls : ¬empty.Accepts calls := by
      intro hcalls
      rw [hnone.mpr hcalls] at hp
      cases hp
    obtain ⟨before, c, after, hsplit, hbefore, hc, hreported, hall⟩ :=
      exists_first_malformed hrows hcalls
    refine ⟨before, c, after, hsplit, hbefore, hc, hreported, fun fault hfault => ?_⟩
    have hfirst : p.failure = some fault.toFailure := by
      rw [Pending.failure, hall fault hfault]
      rfl
    exact Option.some.inj (hp.symm.trans hfirst)
  · obtain ⟨fault, hfault, rfl⟩ := Option.map_eq_some_iff.mp hp
    rw [Pending.failure, fault_run_of_some hfault more]
    rfl
  · change ((Solver.answer solve p).1, (Solver.answer solve p).2, p) = _
    rw [Solver.answer]
    cases p.failure <;> rfl

/-- The third call names column 2 on its right side and the fourth is misaligned. -/
def sampleCalls : List (Call Rat) :=
  let term (id : Nat) : Expr Rat := .ofVar ⟨id, 0, 1, .continuous⟩
  [.addVars [0, 0] [1, 1] [VarKind.continuous.tag, VarKind.binary.tag],
    .addConstraint (.ofExpr ((term 0).plus (term 1))) (.ofExpr (.new 3)) Sense.lessEqual.tag,
    .addConstraint (.ofExpr (term 0)) (.ofExpr ((term 5).plus (term 2))) Sense.equal.tag,
    .addVars [0] [] []]

theorem first_fault_wins_sample :
    let p := empty.run sampleCalls
    let failure : Failure := ⟨Code.unknownError,
      "constraint 1 references variable 2 but only 2 variables were added"⟩
    (∀ c ∈ sampleCalls, c.RowsBuilt) ∧ p.failure = some failure ∧
    ∀ more, (p.run more).failure = some failure := by
  intro p failure
  have hterm (id : Nat) : (Expr.ofVar (⟨id, 0, 1, .continuous⟩ : Var Rat)).Built := .ofVar _
  have hrows : ∀ c ∈ sampleCalls, c.RowsBuilt := by
    simp only [sampleCalls, List.forall_mem_cons, List.not_mem_nil, false_implies, implies_true]
    exact ⟨trivial, ⟨⟨_, (hterm 0).plus (hterm 1), rfl⟩, ⟨_, .new 3, rfl⟩⟩,
      ⟨⟨_, hterm 0, rfl⟩, ⟨_, (hterm 5).plus (hterm 2), rfl⟩⟩, trivial, trivial⟩
  have hfault : p.fault = some (.beyondColumns (.constraint 1) 2 2) := by decide +kernel
  have hmessage : CallFault.message (.beyondColumns (.constraint 1) 2 2) = failure.message := by
    decide +kernel
  have hfailure : p.failure = some failure := by
    rw [Pending.failure, hfault]
    exact congrArg (fun message => some (Failure.mk Code.unknownError message)) hmessage
  obtain ⟨-, -, hfirst, -⟩ := first_fault_wins hrows
  exact ⟨hrows, hfailure, (hfirst failure hfailure).2⟩

end Pending

end LinearModel
