import Mathlib

/-!
# Rounding

How the logical model of floats rounds to 53 bits. A finite float that is unpacked has a sign, a
mantissa and an exponent; the exponent is the one that the format asks for, so floats of equal value
have equal forms. What has such a form already is not rounded, and rounding always gives one.
-/

namespace LinearModel.Double

open Float.Model (Format UnpackedFloat totalExponent)
open Float.Model.UnpackedFloat

/-! ## Canonical forms -/

theorem targetExponent_eq (m : Nat) (e : Int) :
    Format.binary64.targetExponent (totalExponent m e) = max (m.log2 + e - 52) (-1074) := by
  have hmin : Format.binary64.minExponent = -1074 := rfl
  have hbits : (Format.binary64.mantissaBits : Int) = 53 := rfl
  rw [Format.targetExponent, hmin, hbits, totalExponent]
  omega

/-- The exponent is the least with which the mantissa has no more bits than fit. -/
def Canonical : UnpackedFloat → Prop
  | .finite _ m e _ => Format.binary64.targetExponent (totalExponent m e) = e
  | _ => True

theorem canonical_finite {s : Sign} {m : Nat} {e : Int} {hm : 0 < m} :
    Canonical (.finite s m e hm) ↔
      -1074 ≤ e ∧ m.log2 ≤ 52 ∧ (m.log2 = 52 ∨ e = -1074) := by
  rw [Canonical, targetExponent_eq]
  omega

theorem Canonical.neg {u : UnpackedFloat} (h : Canonical u) : Canonical u.neg := by
  cases u <;> exact h

/-- The leading bit of a normal mantissa is not stored. -/
theorem toNat_one_append (v : BitVec 52) : (1#1 ++ v).toNat = 2 ^ 52 + v.toNat := by
  rw [BitVec.toNat_append, ← Nat.shiftLeft_add_eq_or_of_lt v.isLt]
  rfl

theorem log2_one_append (v : BitVec 52) : (1#1 ++ v).toNat.log2 = 52 := by
  have hv : v.toNat < 2 ^ 52 := v.isLt
  rw [toNat_one_append, Nat.log2_eq_iff (by omega)]
  omega

theorem canonical_unpack (b : BitVec Format.binary64.numBits) :
    Canonical (unpack .binary64 b) := by
  have hbias : (Format.binary64.exponentBias + Format.binary64.mantissaBitsWithoutImplicit : Int) =
      1075 := rfl
  unfold unpack
  extract_lets mantissa exponent e signVec sign
  have he : e = exponent.toNat - 1075 := rfl
  split_ifs with hinf hnone hsub hzero
  · trivial
  · trivial
  · trivial
  · have hpos : mantissa.toNat ≠ 0 := fun h => hzero (BitVec.eq_of_toNat_eq h)
    have hlog : mantissa.toNat.log2 < 52 := (Nat.log2_lt hpos).mpr mantissa.isLt
    have hexp : exponent.toNat = 0 := congrArg BitVec.toNat hsub
    refine canonical_finite.mpr ?_
    omega
  · have hlog := log2_one_append mantissa
    have hexp : exponent.toNat ≠ 0 := fun h => hsub (BitVec.eq_of_toNat_eq h)
    refine canonical_finite.mpr ?_
    omega

/-! ## Rounding -/

theorem shiftRight_succ (em : ExtendedMantissa) (n : Nat) :
    em >>> (n + 1) = (em >>> n).shiftRightOne :=
  rfl

theorem mantissa_shiftRight (em : ExtendedMantissa) (n : Nat) :
    (em >>> n).mantissa = em.mantissa / 2 ^ n := by
  induction n with
  | zero => exact (Nat.div_one _).symm
  | succ n ih =>
    have hhalf : (em >>> (n + 1)).mantissa = (em >>> n).mantissa / 2 := rfl
    rw [hhalf, ih, Nat.div_div_eq_div_mul, Nat.pow_succ]

theorem shiftRight_exact (m n : Nat) :
    (⟨m * 2 ^ n, false, false⟩ : ExtendedMantissa) >>> n = ⟨m, false, false⟩ := by
  induction n generalizing m with
  | zero => rw [Nat.pow_zero, Nat.mul_one]; rfl
  | succ n ih =>
    have hdouble : m * 2 ^ (n + 1) = m * 2 * 2 ^ n := by ring
    rw [shiftRight_succ, hdouble, ih]
    simp [ExtendedMantissa.shiftRightOne]

theorem log2_mul_two_pow {m : Nat} (hm : 0 < m) (n : Nat) : (m * 2 ^ n).log2 = m.log2 + n := by
  induction n with
  | zero => rw [Nat.pow_zero, Nat.mul_one]; rfl
  | succ n ih =>
    have hdouble : m * 2 ^ (n + 1) = 2 * (m * 2 ^ n) := by ring
    have hne : m * 2 ^ n ≠ 0 := by positivity
    rw [hdouble, Nat.log2_two_mul hne, ih]
    rfl

variable {s : Sign} {m : Nat} {e : Int}

theorem shiftToTargetExponent_exact {hm : 0 < m} (h : Canonical (.finite s m e hm)) (n : Nat) :
    shiftToTargetExponent .binary64 (m * 2 ^ n) (e - n) .exact = (⟨m, false, false⟩, e) := by
  have htarget : Format.binary64.targetExponent (totalExponent (m * 2 ^ n) (e - n)) = e := by
    rw [Canonical, targetExponent_eq] at h
    rw [targetExponent_eq, log2_mul_two_pow hm]
    omega
  have hshift : (e - (e - n)).toNat = n := by omega
  rw [shiftToTargetExponent, htarget, shiftToExponent, hshift]
  rw [ExtendedMantissa.ofMantissaAndAccuracy, shiftRight_exact, Int.sub_add_cancel]

theorem roundWithAccuracy_exact {hm : 0 < m} (h : Canonical (.finite s m e hm)) (n : Nat) :
    roundWithAccuracy .binary64 s (m * 2 ^ n) (e - n) .exact = .finite s m e hm := by
  have hfirst := shiftToTargetExponent_exact h n
  have hsecond : shiftToTargetExponent .binary64 m e .exact = (⟨m, false, false⟩, e) := by
    simpa using shiftToTargetExponent_exact h 0
  have hround : ExtendedMantissa.roundedMantissa ⟨m, false, false⟩ = m := rfl
  simp only [roundWithAccuracy, hfirst, hround, hsecond, dif_neg (Nat.ne_of_gt hm)]

theorem roundedMantissa_cases (em : ExtendedMantissa) :
    em.roundedMantissa = em.mantissa ∨ em.roundedMantissa = em.mantissa + 1 := by
  obtain ⟨m, roundBit, stickyBit⟩ := em
  cases roundBit <;> cases stickyBit
  · exact .inl rfl
  · exact .inl rfl
  · have heven : ExtendedMantissa.roundedMantissa ⟨m, true, false⟩ = m + m % 2 := rfl
    have hhalf := Nat.mod_two_eq_zero_or_one m
    rcases hhalf with hzero | hone
    · rw [heven, hzero]
      exact .inl rfl
    · rw [heven, hone]
      exact .inr rfl
  · exact .inr rfl

/-- A mantissa that rounding has carried to one bit too many ends in a zero. -/
theorem exists_canonical_of_le (s : Sign) {t : Int} (ht : -1074 ≤ t) (hlow : 2 ^ 52 ≤ m)
    (hhigh : m ≤ 2 ^ 53) :
    ∃ m' hm', ∃ n : Nat, m = m' * 2 ^ n ∧ Canonical (.finite s m' (t + n) hm') := by
  by_cases hcarry : m = 2 ^ 53
  · have hcanonical : Canonical (.finite s (2 ^ 52) (t + 1) (by decide)) := by
      rw [canonical_finite, Nat.log2_two_pow]
      omega
    exact ⟨2 ^ 52, by decide, 1, hcarry, hcanonical⟩
  · have hlog : m.log2 = 52 := (Nat.log2_eq_iff (by omega)).mpr ⟨hlow, by omega⟩
    have hcanonical : Canonical (.finite s m (t + 0) (by omega)) := by
      rw [canonical_finite]
      omega
    exact ⟨m, by omega, 0, (Nat.mul_one m).symm, hcanonical⟩

theorem round_of_target_le (s : Sign) (hm : 0 < m)
    (h : Format.binary64.targetExponent (totalExponent m e) ≤ e) :
    ∃ m' e' hm', UnpackedFloat.round .binary64 s m e = .finite s m' e' hm' ∧
      Canonical (.finite s m' e' hm') := by
  have htarget := targetExponent_eq m e
  set t := Format.binary64.targetExponent (totalExponent m e) with ht
  have hpos : 0 < m * 2 ^ (e - t).toNat := by positivity
  have hcanonical : Canonical (.finite s (m * 2 ^ (e - t).toNat) t hpos) := by
    rw [Canonical, targetExponent_eq, log2_mul_two_pow hm]
    omega
  have hexact := roundWithAccuracy_exact hcanonical 0
  have hexp : e - ((e - t).toNat : Int) = t - (0 : Nat) := by omega
  refine ⟨_, _, hpos, ?_, hcanonical⟩
  rw [UnpackedFloat.round, ← ht]
  simp only [decreaseExponent, Nat.shiftLeft_eq]
  rw [hexp]
  simpa using hexact

theorem div_two_pow_bounds (hm : 0 < m) (hlog : 52 ≤ m.log2) :
    2 ^ 52 ≤ m / 2 ^ (m.log2 - 52) ∧ m / 2 ^ (m.log2 - 52) < 2 ^ 53 := by
  have hlow : 2 ^ (52 + (m.log2 - 52)) ≤ m := by
    rw [Nat.add_sub_of_le hlog]
    exact Nat.log2_self_le (Nat.ne_of_gt hm)
  have hhigh : m < 2 ^ (53 + (m.log2 - 52)) := by
    have hnext : 53 + (m.log2 - 52) = m.log2 + 1 := by omega
    rw [hnext]
    exact Nat.lt_log2_self
  rw [Nat.le_div_iff_mul_le (by positivity), Nat.div_lt_iff_lt_mul (by positivity),
    ← Nat.pow_add, ← Nat.pow_add]
  exact ⟨hlow, hhigh⟩

/-- A mantissa with bits to spare is cut, rounded and, if that carries, cut once more. -/
theorem roundWithAccuracy_canonical (s : Sign) (hm : 0 < m) (hlog : 52 ≤ m.log2) (he : -1074 ≤ e)
    (accuracy : Accuracy) :
    ∃ m' e' hm', roundWithAccuracy .binary64 s m e accuracy = .finite s m' e' hm' ∧
      Canonical (.finite s m' e' hm') := by
  have htarget := targetExponent_eq m e
  set t := Format.binary64.targetExponent (totalExponent m e) with ht
  set em := ExtendedMantissa.ofMantissaAndAccuracy m accuracy >>> (t - e).toNat with hem
  have hfirst : shiftToTargetExponent .binary64 m e accuracy = (em, t) := by
    have hexp : e + ((t - e).toNat : Int) = t := by omega
    rw [shiftToTargetExponent, ← ht, shiftToExponent, hexp]
  have hmantissa : em.mantissa = m / 2 ^ (m.log2 - 52) := by
    have hshift : (t - e).toNat = m.log2 - 52 := by omega
    have hkept : (ExtendedMantissa.ofMantissaAndAccuracy m accuracy).mantissa = m := by
      unfold ExtendedMantissa.ofMantissaAndAccuracy
      split <;> rfl
    rw [hem, mantissa_shiftRight, hshift, hkept]
  have hbounds := div_two_pow_bounds hm hlog
  have hrounded := roundedMantissa_cases em
  obtain ⟨m', hm', n, heq, hcanonical⟩ := exists_canonical_of_le (m := em.roundedMantissa) s
    (t := t) (by omega) (by omega) (by omega)
  have hsecond : shiftToTargetExponent .binary64 em.roundedMantissa t .exact =
      (⟨m', false, false⟩, t + n) := by
    have hexact := shiftToTargetExponent_exact hcanonical n
    rwa [Int.add_sub_cancel, ← heq] at hexact
  refine ⟨m', t + n, hm', ?_, hcanonical⟩
  simp [roundWithAccuracy, hfirst, hsecond, Nat.ne_of_gt hm']

theorem round_eq_roundWithAccuracy (s : Sign)
    (h : e ≤ Format.binary64.targetExponent (totalExponent m e)) :
    UnpackedFloat.round .binary64 s m e = roundWithAccuracy .binary64 s m e .exact := by
  have hnone : (e - Format.binary64.targetExponent (totalExponent m e)).toNat = 0 := by omega
  simp only [UnpackedFloat.round, decreaseExponent, hnone, Nat.shiftLeft_zero, Int.natCast_zero,
    Int.sub_zero]

theorem round_of_lt_target (s : Sign) (hm : 0 < m) (he : -1074 ≤ e)
    (h : e < Format.binary64.targetExponent (totalExponent m e)) :
    ∃ m' e' hm', UnpackedFloat.round .binary64 s m e = .finite s m' e' hm' ∧
      Canonical (.finite s m' e' hm') := by
  have hlog : 52 ≤ m.log2 := by
    rw [targetExponent_eq] at h
    omega
  rw [round_eq_roundWithAccuracy s h.le]
  exact roundWithAccuracy_canonical s hm hlog he .exact

/-- Rounding takes no multiple of the least positive float to zero. -/
theorem round_canonical (s : Sign) (hm : 0 < m) (he : -1074 ≤ e) :
    ∃ m' e' hm', UnpackedFloat.round .binary64 s m e = .finite s m' e' hm' ∧
      Canonical (.finite s m' e' hm') := by
  by_cases hfits : Format.binary64.targetExponent (totalExponent m e) ≤ e
  · exact round_of_target_le s hm hfits
  · exact round_of_lt_target s hm he (Int.not_le.mp hfits)

end LinearModel.Double
