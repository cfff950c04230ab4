import LinearModel.Proofs.FirstFault

/-!
# Malformed calls

A malformed call leaves a pending problem as it was but for the fault that it records. The one
exception is a bad kind tag that is not the first of its call: the columns before it stay.
-/

namespace LinearModel

variable {R : Type}

namespace Call

def isKindTag (tag : UInt8) : Bool :=
  (VarKind.ofTag? tag).isSome

theorem isKindTag_of_some {tag : UInt8} {kind : VarKind} (h : VarKind.ofTag? tag = some kind) :
    isKindTag tag = true := by
  rw [isKindTag, h]
  rfl

theorem isKindTag_of_none {tag : UInt8} (h : VarKind.ofTag? tag = none) :
    isKindTag tag = false := by
  rw [isKindTag, h]
  rfl

/-- What a malformed call brings all the same: of aligned arrays, the columns before the first tag
that stands for no kind. -/
def strayColumns : Call R → List (Column R)
  | addVars lower upper kinds =>
    if lower.length = upper.length ∧ lower.length = kinds.length then
      columns (addVars lower upper (kinds.takeWhile isKindTag))
    else []
  | _ => []

/-- Aligned arrays with a tag for a kind in front and one for none behind it. -/
inductive BreaksOff : Call R → Prop
  | addVars {lower upper : List R} {tag : UInt8} {kinds : List UInt8}
      (hupper : lower.length = upper.length) (hkinds : lower.length = (tag :: kinds).length)
      (htag : isKindTag tag = true) (hbad : ∃ bad ∈ kinds, VarKind.ofTag? bad = none) :
      BreaksOff (addVars lower upper (tag :: kinds))

theorem columns_addVars_cons (a b : R) (lower upper : List R) {tag : UInt8} {kind : VarKind}
    (hkind : VarKind.ofTag? tag = some kind) (kinds : List UInt8) :
    columns (addVars (a :: lower) (b :: upper) (tag :: kinds)) =
      ⟨a, b, kind⟩ :: columns (addVars lower upper kinds) := by
  simp [columns, hkind]

theorem columns_takeWhile_eq_nil_iff {lower upper : List R} {kinds : List UInt8}
    (hupper : lower.length = upper.length) (hkinds : lower.length = kinds.length)
    (hbad : ∃ bad ∈ kinds, VarKind.ofTag? bad = none) :
    columns (addVars lower upper (kinds.takeWhile isKindTag)) = [] ↔
      ¬(addVars lower upper kinds).BreaksOff := by
  obtain ⟨bad, hmem, hnone⟩ := hbad
  cases kinds with
  | nil => cases hmem
  | cons tag kinds =>
    cases htag : VarKind.ofTag? tag with
    | none =>
      have hfirst := isKindTag_of_none htag
      refine iff_of_true (by simp [hfirst, columns]) ?_
      rintro ⟨-, -, hgood, -⟩
      rw [hfirst] at hgood
      cases hgood
    | some kind =>
      have hfirst := isKindTag_of_some htag
      have hlater : bad ∈ kinds := by
        refine (List.mem_cons.mp hmem).resolve_left ?_
        rintro rfl
        rw [htag] at hnone
        cases hnone
      obtain ⟨a, lower, rfl⟩ := List.exists_cons_of_length_eq_add_one hkinds
      obtain ⟨b, upper, rfl⟩ := List.exists_cons_of_length_eq_add_one (hupper.symm.trans hkinds)
      rw [List.takeWhile_cons_of_pos hfirst, columns_addVars_cons a b lower upper htag]
      refine iff_of_false (List.cons_ne_nil _ _) (not_not.mpr ?_)
      exact .addVars hupper hkinds hfirst ⟨bad, hlater, hnone⟩

theorem strayColumns_eq_nil_iff {n : Nat} {c : Call R} (hc : c.Malformed n) :
    c.strayColumns = [] ↔ ¬c.BreaksOff := by
  cases c with
  | addVars lower upper kinds =>
    by_cases haligned : lower.length = upper.length ∧ lower.length = kinds.length
    · obtain ⟨hupper, hkinds⟩ := haligned
      have hbad := (hc.resolve_left (not_not.mpr hupper)).resolve_left (not_not.mpr hkinds)
      rw [strayColumns, if_pos ⟨hupper, hkinds⟩]
      exact columns_takeWhile_eq_nil_iff hupper hkinds hbad
    · rw [strayColumns, if_neg haligned]
      refine iff_of_true rfl ?_
      rintro ⟨hupper, hkinds, -, -⟩
      exact haligned ⟨hupper, hkinds⟩
  | addConstraint _ _ _ | setObjective _ _ =>
    refine iff_of_true rfl ?_
    rintro ⟨⟩
  | showLog _ | timeLimit _ | scaling _ | optimize => exact hc.elim

end Call

namespace Pending

theorem columnsOf_fst (lower upper : List R) (kinds : List UInt8) :
    (columnsOf (lower.zip (upper.zip kinds))).1 =
      Call.columns (.addVars lower upper (kinds.takeWhile Call.isKindTag)) := by
  induction kinds generalizing lower upper with
  | nil => simp [columnsOf, Call.columns]
  | cons tag kinds ih =>
    cases lower with
    | nil => simp [columnsOf, Call.columns]
    | cons a lower =>
      cases upper with
      | nil => simp [columnsOf, Call.columns]
      | cons b upper =>
        rw [List.zip_cons_cons, List.zip_cons_cons, columnsOf]
        cases htag : VarKind.ofTag? tag with
        | none =>
          simp [Call.isKindTag_of_none htag, Call.columns]
        | some kind =>
          rw [List.takeWhile_cons_of_pos (Call.isKindTag_of_some htag),
            Call.columns_addVars_cons a b lower upper htag, ← ih]

theorem addVars_of_malformed {p : Pending R} {lower upper : List R} {kinds : List UInt8}
    (hc : (Call.addVars lower upper kinds).Malformed p.numVars) :
    ∃ fault, p.addVars lower upper kinds =
      { p with
        columns := p.columns ++ (Call.addVars lower upper kinds).strayColumns
        fault := p.fault.or (some fault) } := by
  by_cases haligned : lower.length = upper.length ∧ lower.length = kinds.length
  · obtain ⟨hupper, hkinds⟩ := haligned
    obtain ⟨bad, hmem, hbad⟩ := (hc.resolve_left (not_not.mpr hupper)).resolve_left
      (not_not.mpr hkinds)
    have hfound : (kinds.find? fun tag => (VarKind.ofTag? tag).isNone).isSome :=
      List.find?_isSome.mpr ⟨bad, hmem, by simp [hbad]⟩
    obtain ⟨first, hfirst⟩ := Option.isSome_iff_exists.mp hfound
    have hok : ¬(lower.length ≠ upper.length ∨ lower.length ≠ kinds.length) := by omega
    refine ⟨.kindTag first, ?_⟩
    rw [Call.strayColumns, if_pos ⟨hupper, hkinds⟩, ← columnsOf_fst]
    simp only [addVars, if_neg hok, columnsOf_snd_zip hupper hkinds, hfirst, fail]
  · refine ⟨.misaligned lower.length upper.length kinds.length, ?_⟩
    rw [addVars, if_pos (by omega), Call.strayColumns, if_neg haligned, List.append_nil, fail]

theorem setObjective_of_malformed {p : Pending R} {row : SparseRow R} {sense : Int}
    (hc : (Call.setObjective row sense).Malformed p.numVars) :
    ∃ fault, p.setObjective row sense = p.fail fault := by
  unfold setObjective
  cases hsense : Direction.ofTag? sense with
  | none => exact ⟨_, rfl⟩
  | some s =>
    obtain ⟨i, hi, hn⟩ := hc.resolve_left (by rw [hsense]; exact Option.some_ne_none s)
    have hfault : p.rowFault? .objective row ≠ none := by
      rw [ne_eq, rowFault?_eq_none_iff]
      exact fun hrow => absurd (hrow i hi) (Nat.not_lt.mpr hn)
    obtain ⟨fault, hfault⟩ := Option.ne_none_iff_exists'.mp hfault
    exact ⟨fault, by simp only [hfault]⟩

variable [Scalar R]

/-- The rows are looked at before anything is added. -/
theorem addConstraint_of_malformed {p : Pending R} {lhs rhs : SparseRow R} {sense : UInt8}
    (hc : (Call.addConstraint lhs rhs sense).Malformed p.numVars) :
    ∃ fault, p.addConstraint lhs rhs sense = p.fail fault := by
  unfold addConstraint
  cases hsense : Sense.ofTag? sense with
  | none => exact ⟨_, rfl⟩
  | some s =>
    have hrows := hc.resolve_left (by rw [hsense]; exact Option.some_ne_none s)
    have hfault : (p.rowFault? (.constraint p.rows.length) lhs).or
        (p.rowFault? (.constraint p.rows.length) rhs) ≠ none := by
      rw [ne_eq, Option.or_eq_none_iff, rowFault?_eq_none_iff, rowFault?_eq_none_iff]
      rintro ⟨hlhs, hrhs⟩
      rcases hrows with ⟨i, hi, hn⟩ | ⟨i, hi, hn⟩
      · exact absurd (hlhs i hi) (Nat.not_lt.mpr hn)
      · exact absurd (hrhs i hi) (Nat.not_lt.mpr hn)
    obtain ⟨fault, hfault⟩ := Option.ne_none_iff_exists'.mp hfault
    exact ⟨fault, by simp only [hfault]⟩

theorem call_of_malformed {p : Pending R} {c : Call R} (hc : c.Malformed p.numVars) :
    ∃ fault, p.call c =
      { p with columns := p.columns ++ c.strayColumns, fault := p.fault.or (some fault) } := by
  have hfail (fault : CallFault) :
      p.fail fault = { p with columns := p.columns ++ [], fault := p.fault.or (some fault) } := by
    rw [fail, List.append_nil]
  cases c with
  | addVars lower upper kinds => exact addVars_of_malformed hc
  | addConstraint lhs rhs sense =>
    obtain ⟨fault, hfault⟩ := addConstraint_of_malformed hc
    exact ⟨fault, hfault.trans (hfail fault)⟩
  | setObjective row sense =>
    obtain ⟨fault, hfault⟩ := setObjective_of_malformed hc
    exact ⟨fault, hfault.trans (hfail fault)⟩
  | showLog _ | timeLimit _ | scaling _ | optimize => exact hc.elim

/-- A malformed call records a fault unless there was one before, and changes nothing else, unless
it is one that breaks off behind columns that it has already added. -/
theorem malformed_keeps_problem {p : Pending R} {c : Call R} (hc : c.Malformed p.numVars) :
    let q := p.call c
    q.rows = p.rows ∧ q.objective = p.objective ∧ q.showLog = p.showLog ∧
    q.timeLimit = p.timeLimit ∧ q.scaling = p.scaling ∧
    (∃ fault, q.fault = p.fault.or (some fault)) ∧
    q.columns = p.columns ++ c.strayColumns ∧
    (q.columns = p.columns ↔ ¬c.BreaksOff) := by
  intro q
  obtain ⟨fault, hfault⟩ := call_of_malformed hc
  have hq : q = { p with
      columns := p.columns ++ c.strayColumns, fault := p.fault.or (some fault) } := hfault
  rw [hq]
  refine ⟨rfl, rfl, rfl, rfl, rfl, ⟨fault, rfl⟩, rfl, ?_⟩
  rw [← Call.strayColumns_eq_nil_iff hc]
  exact List.append_right_eq_self

theorem malformed_keeps_problem_sample :
    let p := empty.run sampleCalls
    let c : Call Rat :=
      .addVars [0, 0, 0] [1, 2, 3] [VarKind.continuous.tag, VarKind.integer.tag, 0]
    c.Malformed p.numVars ∧ (p.call c).rows = p.rows ∧ (p.call c).objective = p.objective ∧
    (p.call c).columns = p.columns ++ [⟨0, 1, .continuous⟩, ⟨0, 2, .integer⟩] ∧
    (p.call c).columns ≠ p.columns := by
  intro p c
  have hc : c.Malformed p.numVars := .inr (.inr ⟨0, by decide, rfl⟩)
  have hbreaks : c.BreaksOff := .addVars rfl rfl (by decide) ⟨0, by decide, rfl⟩
  obtain ⟨hrows, hobjective, -, -, -, -, hcolumns, hkept⟩ := malformed_keeps_problem hc
  exact ⟨hc, hrows, hobjective, hcolumns, fun hsame => hkept.mp hsame hbreaks⟩

/-- The first of two columns stays where the second has a tag that stands for no kind. -/
theorem not_every_refusal_whole :
    ¬∀ (calls : List (Call Float)) (c : Call Float), c.Malformed (empty.run calls).numVars →
      ((empty.run calls).call c).columns = (empty.run calls).columns := by
  intro hwhole
  let c : Call Float := .addVars [0, 0] [1, 1] [VarKind.continuous.tag, 88]
  have hc : c.Malformed (empty.run ([] : List (Call Float))).numVars :=
    .inr (.inr ⟨88, by decide, rfl⟩)
  have hlength := congrArg List.length (hwhole [] c hc)
  cases hlength

end Pending

end LinearModel
