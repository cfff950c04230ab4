import Mathlib.Data.List.Basic
import LinearModel.Scaling

/-!
# Combined scaling options

Options or-ed into a mode make one mask, whose bits are those of the mode and of the options. It is
the same in any order and with any of them repeated, and it contains a mode exactly if it has its
bits. The base algorithm stays as it was unless user weights are among the options: their bits
include the three lowest, so any algorithm becomes the last one.
-/

namespace LinearModel.ScaleMode

/-! ## Options -/

def weightings : List ScaleMode := [linear, quadratic, logarithmic, userWeight]

def flags : List ScaleMode :=
  [powerOfTwo, equilibrate, integers, dynamicUpdate, rowsOnly, columnsOnly]

def options : List ScaleMode := weightings ++ flags

def combine (m : ScaleMode) (fs : List ScaleMode) : ScaleMode :=
  fs.foldl (· ||| ·) m

variable {a b m f g : ScaleMode} {fs : List ScaleMode} {i : Nat}

theorem combine_cons : m.combine (f :: fs) = (m ||| f).combine fs := rfl

/-! ## Bits -/

def HasBit (m : ScaleMode) (i : Nat) : Prop := m.bits.getLsbD i

instance (m : ScaleMode) (i : Nat) : Decidable (m.HasBit i) :=
  inferInstanceAs (Decidable (m.bits.getLsbD i = true))

theorem ext_hasBit (h : ∀ i, a.HasBit i ↔ b.HasBit i) : a = b := by
  have hbits : a.bits = b.bits := BitVec.eq_of_getLsbD_eq fun i _ => Bool.eq_iff_iff.mpr (h i)
  exact congrArg mk hbits

theorem hasBit_or : (a ||| b).HasBit i ↔ a.HasBit i ∨ b.HasBit i := by
  have hor : (a ||| b).bits = a.bits ||| b.bits := rfl
  rw [HasBit, hor, BitVec.getLsbD_or, Bool.or_eq_true]
  rfl

theorem contains_iff : m.contains g ↔ ∀ i, g.HasBit i → m.HasBit i := by
  rw [contains, beq_iff_eq]
  constructor
  · intro h i hi
    rw [HasBit, ← h, BitVec.getLsbD_and, Bool.and_eq_true] at hi
    exact hi.1
  · intro h
    refine BitVec.eq_of_getLsbD_eq fun i _ => ?_
    rw [BitVec.getLsbD_and]
    exact Bool.and_eq_right_iff_imp.mpr (h i)

theorem hasBit_combine : (m.combine fs).HasBit i ↔ ∃ f ∈ m :: fs, f.HasBit i := by
  induction fs generalizing m with
  | nil => simp [combine]
  | cons f fs ih =>
    rw [combine_cons, ih]
    simp only [List.exists_mem_cons_iff, hasBit_or, or_assoc]

theorem contains_combine :
    (m.combine fs).contains g ↔ ∀ i, g.HasBit i → m.HasBit i ∨ ∃ f ∈ fs, f.HasBit i := by
  simp only [contains_iff, hasBit_combine, List.exists_mem_cons_iff]

/-- Nothing but the set of all that is or-ed together counts. -/
theorem combine_congr {first : ScaleMode} {rest : List ScaleMode}
    (h : ∀ f, f ∈ first :: rest ↔ f ∈ m :: fs) : first.combine rest = m.combine fs := by
  refine ext_hasBit fun i => ?_
  rw [hasBit_combine, hasBit_combine]
  exact exists_congr fun f => and_congr_left' (h f)

/-! ## The base algorithm -/

theorem hasBit_algorithm : m.algorithm.HasBit i ↔ m.HasBit i ∧ curtisReid.HasBit i := by
  rw [HasBit, algorithm, BitVec.getLsbD_and, Bool.and_eq_true]
  rfl

theorem algorithm_or : (a ||| b).algorithm = a.algorithm ||| b.algorithm :=
  congrArg mk BitVec.and_or_distrib_right

theorem algorithm_or_curtisReid : m.algorithm ||| curtisReid = curtisReid := by
  refine ext_hasBit fun i => ?_
  rw [hasBit_or, hasBit_algorithm]
  exact or_iff_right_of_imp And.right

/-- Of all options, user weights alone have bits of a base algorithm: all three. -/
theorem algorithm_of_option (hf : f ∈ options) :
    f.algorithm = if f = userWeight then curtisReid else none := by
  revert f
  decide

theorem algorithm_or_option (hf : f ∈ options) :
    (m ||| f).algorithm = if f = userWeight then curtisReid else m.algorithm := by
  rw [algorithm_or, algorithm_of_option hf]
  split_ifs
  · exact algorithm_or_curtisReid
  · exact congrArg mk BitVec.or_zero

theorem algorithm_combine (hfs : ∀ f ∈ fs, f ∈ options) :
    (m.combine fs).algorithm = if userWeight ∈ fs then curtisReid else m.algorithm := by
  -- the mode changes with every option, and stays the last algorithm once it has become that
  induction fs generalizing m with
  | nil => rfl
  | cons f fs ih =>
    obtain ⟨hf, hfs⟩ := List.forall_mem_cons.mp hfs
    rw [combine_cons, ih hfs, algorithm_or_option hf]
    by_cases hrest : userWeight ∈ fs
    · rw [if_pos hrest, if_pos (List.mem_cons_of_mem f hrest)]
    · simp only [hrest, List.mem_cons, or_false, eq_comm, if_false]

/-! ## Combining -/

/-- Options or-ed into any mode make a mask that is the same in every order, whatever stands first
and however often it is repeated. It contains the options and all that the mode contains, and more
only where each bit is one of the mode or of an option. The base algorithm is kept by all options but
user weights, which make it the last one. -/
theorem combine_joins_options (m : ScaleMode) {fs : List ScaleMode} (hfs : ∀ f ∈ fs, f ∈ options) :
    (∀ (first : ScaleMode) (rest : List ScaleMode), (∀ f, f ∈ first :: rest ↔ f ∈ m :: fs) →
      first.combine rest = m.combine fs) ∧
    (∀ f ∈ fs, (m.combine fs).contains f) ∧
    (∀ g, m.contains g → (m.combine fs).contains g) ∧
    (∀ g, (m.combine fs).contains g ↔ ∀ i, g.HasBit i → m.HasBit i ∨ ∃ f ∈ fs, f.HasBit i) ∧
    (m.combine fs).algorithm = if userWeight ∈ fs then curtisReid else m.algorithm := by
  refine ⟨fun first rest => combine_congr, fun f hf => ?_, fun g hg => ?_,
    fun g => contains_combine, algorithm_combine hfs⟩
  · exact contains_combine.mpr fun i hi => .inr ⟨f, hf, hi⟩
  · exact contains_combine.mpr fun i hi => .inl (contains_iff.mp hg i hi)

/-- A negative mask of geometric scaling, with a weighting that is given twice. -/
theorem combine_joins_options_sample :
    let m := ofInt (-124)
    let fs := [logarithmic, powerOfTwo, logarithmic]
    (∀ f ∈ fs, f ∈ options) ∧
    powerOfTwo.combine [logarithmic, m] = m.combine fs ∧
    (m.combine fs).contains logarithmic ∧ (m.combine fs).contains geometricModel ∧
    ¬(m.combine fs).contains equilibrate ∧ (m.combine fs).algorithm = geometric := by
  intro m fs
  have hfs : ∀ f ∈ fs, f ∈ options := by decide
  obtain ⟨hsame, hoptions, hkept, hbits, halgorithm⟩ := combine_joins_options m hfs
  have hmembers : ∀ f, f ∈ [powerOfTwo, logarithmic, m] ↔ f ∈ m :: fs := by
    simp only [fs, List.mem_cons, List.not_mem_nil, or_false]
    tauto
  have hmissing : ¬(m.HasBit 6 ∨ ∃ f ∈ fs, f.HasBit 6) := by decide
  exact ⟨hfs, hsame _ _ hmembers, hoptions _ List.mem_cons_self, hkept _ (by decide),
    fun hcontains => hmissing ((hbits equilibrate).mp hcontains 6 (by decide)),
    halgorithm.trans (by decide)⟩

/-- With user weights, geometric scaling reads as the last algorithm. -/
theorem not_every_algorithm_kept :
    ¬∀ (m : ScaleMode) (fs : List ScaleMode), (∀ f ∈ fs, f ∈ options) →
      (m.combine fs).algorithm = m.algorithm := by
  intro hkept
  have hgeometric := hkept geometricModel [userWeight] (by decide)
  exact absurd hgeometric (by decide)

end LinearModel.ScaleMode
