import LinearModel.Exact
import LinearModel.Proofs.Doubles

/-!
# Whole numbers as doubles

Up to `2 ^ 53` every whole number is a double. Sums that stay there are exact, and no whole number
but zero compares equal to it. One is neutral in products, and a zero of either sign in sums with
what is not a zero. Read exactly, different doubles are different numbers, but for the two zeros.
-/

namespace LinearModel

namespace Double

open Float.Model (Format UnpackedFloat totalExponent)
open Float.Model.UnpackedFloat

/-! ## Products with one, sums with a zero -/

theorem unpacked_one : unpacked 1 = .finite .positive (2 ^ 52) (-52) (by decide) := by
  rfl

theorem mul_one (x : Float) : x * 1 = x := by
  have hmul : mul .binary64 (unpacked x) (unpacked 1) = unpacked x := by
    have hcanonical := canonical_unpacked x
    rw [unpacked_one]
    cases hx : unpacked x with
    | infinity s => cases s <;> rfl
    | notANumber => rfl
    | zero s => cases s <;> rfl
    | finite s m e hm =>
      rw [hx] at hcanonical
      have hsign : s * .positive = s := by cases s <;> rfl
      rw [mul, hsign]
      exact roundWithAccuracy_exact hcanonical 52
  calc x * 1 = ofUnpacked (mul .binary64 (unpacked x) (unpacked 1)) := rfl
    _ = x := by rw [hmul, ofUnpacked_unpacked]

theorem mul_swap (spec : Format) (u v : UnpackedFloat) : mul spec v u = mul spec u v := by
  have hsign (s t : Sign) : t * s = s * t := by cases s <;> cases t <;> rfl
  cases u <;> cases v <;> simp only [mul, hsign, Nat.mul_comm, Int.add_comm]

theorem mul_comm (x y : Float) : x * y = y * x :=
  congrArg ofUnpacked (mul_swap .binary64 (unpacked y) (unpacked x))

theorem one_mul (x : Float) : 1 * x = x := by
  rw [mul_comm, mul_one]

theorem unpacked_ofUnpacked_zero (s : Sign) : unpacked (ofUnpacked (.zero s)) = .zero s :=
  unpack_packedZero

variable {x y : Float}

theorem mul_of_zero (hx : (x == 0) = true) (hy : y.isFinite = true) : (x * y == 0) = true := by
  obtain ⟨t, ht⟩ := (beq_zero_iff x).mp hx
  have hfinite : (unpacked y).isFinite = true := hy
  have hmul : x * y = ofUnpacked (mul .binary64 (unpacked x) (unpacked y)) := rfl
  rw [beq_zero_iff, hmul, ht]
  cases hunpacked : unpacked y with
  | infinity | notANumber => rw [hunpacked] at hfinite; cases hfinite
  | zero s | finite s => exact ⟨t * s, unpacked_ofUnpacked_zero (t * s)⟩

theorem add_of_zero (hx : (x == 0) = false) (hy : (y == 0) = true) : x + y = x := by
  obtain ⟨s, hs⟩ := (beq_zero_iff y).mp hy
  have hadd : add .binary64 (unpacked x) (unpacked y) = unpacked x := by
    rw [hs]
    cases hunpacked : unpacked x with
    | zero t =>
      rw [(beq_zero_iff x).mpr ⟨t, hunpacked⟩] at hx
      cases hx
    | notANumber | infinity | finite => rfl
  calc x + y = ofUnpacked (add .binary64 (unpacked x) (unpacked y)) := rfl
    _ = x := by rw [hadd, ofUnpacked_unpacked]

theorem zero_add_of_zero (hy : (y == 0) = true) : 0 + y = 0 := by
  obtain ⟨s, hs⟩ := (beq_zero_iff y).mp hy
  rw [← ofUnpacked_unpacked y, hs]
  cases s <;> decide +kernel

/-- The sign of the zero that is added is lost. -/
theorem zero_add_zero_mul (hx : x.isFinite = true) : 0 + 0 * x = 0 :=
  zero_add_of_zero (mul_of_zero (beq_refl rfl) hx)

/-! ## Rounding what fits -/

variable {s : Sign} {m : Nat} {e : Int}

theorem round_of_scaled_eq {hm : 0 < m} (h : Canonical (.finite s m e hm)) {k : Nat} {t b : Int}
    (hlow : b ≤ t) (hlow' : b ≤ e) (heq : k * 2 ^ (t - b).toNat = m * 2 ^ (e - b).toNat) :
    UnpackedFloat.round .binary64 s k t = .finite s m e hm := by
  rcases Int.le_total t e with hle | hle
  · have hk : k = m * 2 ^ (e - t).toNat := by
      have hsplit : (e - b).toNat = (e - t).toNat + (t - b).toNat := by omega
      rw [hsplit, Nat.pow_add, ← Nat.mul_assoc] at heq
      exact Nat.eq_of_mul_eq_mul_right (by positivity) heq
    have htarget : Format.binary64.targetExponent (totalExponent k t) = e := by
      rw [Canonical, targetExponent_eq] at h
      rw [hk, targetExponent_eq, log2_mul_two_pow hm]
      omega
    have hnone : (t - e).toNat = 0 := by omega
    have hshift : e - ((e - t).toNat : Int) = t := by omega
    have hexact := roundWithAccuracy_exact h (e - t).toNat
    rw [← hk, hshift] at hexact
    rw [UnpackedFloat.round, htarget]
    simpa only [decreaseExponent, hnone, Nat.shiftLeft_zero, Int.natCast_zero, Int.sub_zero]
      using hexact
  · have hmantissa : m = k * 2 ^ (t - e).toNat := by
      have hsplit : (t - b).toNat = (t - e).toNat + (e - b).toNat := by omega
      rw [hsplit, Nat.pow_add, ← Nat.mul_assoc] at heq
      exact (Nat.eq_of_mul_eq_mul_right (by positivity) heq).symm
    have hk : 0 < k := by
      apply Nat.pos_of_ne_zero
      rintro rfl
      omega
    have htarget : Format.binary64.targetExponent (totalExponent k t) = e := by
      rw [Canonical, targetExponent_eq, hmantissa, log2_mul_two_pow hk] at h
      rw [targetExponent_eq]
      omega
    have hshift : t - ((t - e).toNat : Int) = e := by omega
    have hexact := roundWithAccuracy_exact h 0
    rw [UnpackedFloat.round, htarget]
    simp only [decreaseExponent, Nat.shiftLeft_eq, ← hmantissa, hshift]
    simpa using hexact

/-! ## Whole numbers -/

theorem ofNat_of_lt {n : Nat} (hn : 0 < n) (hlt : n < 2 ^ 53) :
    Float.ofNat n = ofUnpacked (UnpackedFloat.round .binary64 .positive n 0) := by
  have hfast : Float.ofNat n = n.toUInt64.toFloat * 1 := by
    unfold Float.ofNat
    simp only [OfScientific.ofScientific]
    rw [Float.ofScientific, dif_pos ⟨hlt, by decide⟩]
    rfl
  have hword : n.toUInt64.toNat = n := Nat.mod_eq_of_lt (by omega)
  have hmodel : n.toUInt64.toFloat =
      ofUnpacked (UnpackedFloat.normalize .binary64 n.toUInt64.toNat 0 .positive) := rfl
  rw [hfast, mul_one, hmodel, hword, normalize_of_pos .binary64 (Int.natCast_pos.mpr hn),
    Int.toNat_natCast]

theorem ofNat_of_le {n : Nat} (hle : 2 ^ 53 ≤ n) :
    Float.ofNat n = ofUnpacked (UnpackedFloat.round .binary64 .positive (n * 2 ^ 53) (-53)) := by
  have hslow : Float.ofNat n = ofUnpacked (UnpackedFloat.ofScientific .binary64 n 0) := by
    unfold Float.ofNat
    simp only [OfScientific.ofScientific]
    rw [Float.ofScientific, dif_neg fun h => Nat.not_lt.mpr hle h.1]
    rfl
  have hn : 0 < n := by omega
  have hlog : 53 ≤ n.log2 := (Nat.le_log2 (Nat.ne_of_gt hn)).mpr hle
  have htarget : -53 ≤ Format.binary64.targetExponent (totalExponent (n * 2 ^ 53) (-53)) := by
    rw [targetExponent_eq, log2_mul_two_pow hn]
    omega
  have hbits : Format.binary64.mantissaBits = 53 := rfl
  have hsign : Sign.positive * .positive = .positive := rfl
  have hlow : ¬(0 : Int) < -((2 : Int) ^ 11 + n.log2) := by omega
  rw [hslow, round_eq_roundWithAccuracy .positive htarget, UnpackedFloat.ofScientific,
    dif_neg (Nat.ne_of_gt hn), if_neg (by decide), if_neg hlow, if_pos le_rfl]
  simp [hbits, mul, hsign, Nat.shiftLeft_eq]

theorem ofNat_eq_of_scaled {n : Nat} (hn : 0 < n) {hm : 0 < m}
    (h : Canonical (.finite .positive m e hm)) (he : -53 ≤ e)
    (heq : n * 2 ^ 53 = m * 2 ^ (e + 53).toNat) :
    Float.ofNat n = ofUnpacked (.finite .positive m e hm) := by
  by_cases hlt : n < 2 ^ 53
  · rw [ofNat_of_lt hn hlt, round_of_scaled_eq h (by decide) he heq]
  · rw [ofNat_of_le (by omega), round_of_scaled_eq h (by decide) he (by simpa using heq)]

/-- However large the number is; what is packed may then be an infinity. -/
theorem exists_ofNat_eq {n : Nat} (hn : 0 < n) : ∃ m e hm,
    Float.ofNat n = ofUnpacked (.finite .positive m e hm) ∧
    Canonical (.finite .positive m e hm) := by
  by_cases hlt : n < 2 ^ 53
  · obtain ⟨m, e, hm, hround, hcanonical⟩ := round_canonical .positive hn (e := 0) (by decide)
    exact ⟨m, e, hm, by rw [ofNat_of_lt hn hlt, hround], hcanonical⟩
  · have hpos : 0 < n * 2 ^ 53 := by positivity
    obtain ⟨m, e, hm, hround, hcanonical⟩ := round_canonical .positive hpos (e := -53) (by decide)
    exact ⟨m, e, hm, by rw [ofNat_of_le (by omega), hround], hcanonical⟩

theorem ofNat_ne_zero {n : Nat} (hn : 0 < n) : (Float.ofNat n == 0) = false := by
  obtain ⟨m, e, hm, heq, hcanonical⟩ := exists_ofNat_eq hn
  rw [Bool.eq_false_iff, ne_eq, beq_zero_iff, heq, unpacked_ofUnpacked]
  rintro ⟨s, hs⟩
  exact unpack_pack_ne_zero hcanonical s hs

/-- Mantissa and exponent of a whole number. -/
structure IsWhole (n m : Nat) (e : Int) (hm : 0 < m) : Prop where
  canonical : Canonical (.finite .positive m e hm)
  low : -53 ≤ e
  high : e ≤ 1
  value : n * 2 ^ 53 = m * 2 ^ (e + 53).toNat

theorem exists_isWhole {n : Nat} (hn : 0 < n) (hle : n ≤ 2 ^ 53) : ∃ m e hm, IsWhole n m e hm := by
  by_cases hlast : n = 2 ^ 53
  · have hcanonical : Canonical (.finite .positive (2 ^ 52) 1 (by decide)) := by
      rw [canonical_finite, Nat.log2_two_pow]
      omega
    exact ⟨2 ^ 52, 1, by decide, hcanonical, by decide, by decide, by rw [hlast]; decide⟩
  · have hlog : n.log2 < 53 := (Nat.log2_lt (Nat.ne_of_gt hn)).mpr (by omega)
    have hpos : 0 < n * 2 ^ (52 - n.log2) := by positivity
    refine ⟨n * 2 ^ (52 - n.log2), n.log2 - 52, hpos, ?_, by omega, by omega, ?_⟩
    · rw [canonical_finite, log2_mul_two_pow hn]
      omega
    · have hexp : 52 - n.log2 + ((n.log2 : Int) - 52 + 53).toNat = 53 := by omega
      rw [Nat.mul_assoc, ← Nat.pow_add, hexp]

namespace IsWhole

variable {n k : Nat} {hm : 0 < m} {m' : Nat} {e' : Int} {hm' : 0 < m'}

theorem ofNat_eq (h : IsWhole n m e hm) (hn : 0 < n) :
    Float.ofNat n = ofUnpacked (.finite .positive m e hm) :=
  ofNat_eq_of_scaled hn h.canonical h.low h.value

theorem unpacked_ofNat (h : IsWhole n m e hm) (hn : 0 < n) :
    unpacked (Float.ofNat n) = .finite .positive m e hm := by
  have hhigh : e ≤ 971 := h.high.trans (by decide)
  rw [h.ofNat_eq hn, unpacked_ofUnpacked, unpack_pack_of_le h.canonical hhigh]

theorem value_zpow (h : IsWhole n m e hm) : (m : Rat) * 2 ^ e = n := by
  have hlow := h.low
  have hexp : e = ((e + 53).toNat : Int) - (53 : Nat) := by omega
  have hcast : (n : Rat) * 2 ^ 53 = m * 2 ^ (e + 53).toNat := by exact_mod_cast h.value
  rw [hexp, zpow_sub₀ two_ne_zero, zpow_natCast, zpow_natCast, ← mul_div_assoc, ← hcast]
  exact mul_div_cancel_right₀ _ (by positivity)

theorem sum_scaled (h : IsWhole n m e hm) (h' : IsWhole k m' e' hm') :
    (n + k) * 2 ^ 53 =
      (m * 2 ^ (e - min e e').toNat + m' * 2 ^ (e' - min e e').toNat) *
        2 ^ (min e e' + 53).toNat := by
  have hlow := h.low
  have hlow' := h'.low
  have hexp : (e - min e e').toNat + (min e e' + 53).toNat = (e + 53).toNat := by omega
  have hexp' : (e' - min e e').toNat + (min e e' + 53).toNat = (e' + 53).toNat := by omega
  rw [Nat.add_mul, Nat.add_mul, h.value, h'.value, Nat.mul_assoc, Nat.mul_assoc, ← Nat.pow_add,
    ← Nat.pow_add, hexp, hexp']

/-- A sum that fits is not rounded. -/
theorem ofNat_add (h : IsWhole n m e hm) (h' : IsWhole k m' e' hm') (hn : 0 < n) (hk : 0 < k)
    (hle : n + k ≤ 2 ^ 53) : Float.ofNat n + Float.ofNat k = Float.ofNat (n + k) := by
  obtain ⟨m₀, e₀, hm₀, hsum⟩ := exists_isWhole (Nat.add_pos_left hn k) hle
  have hscaled := h.sum_scaled h'
  set low := min e e' with hlow
  set total := m * 2 ^ (e - low).toNat + m' * 2 ^ (e' - low).toNat with htotal
  have hpos : (0 : Int) < total := by positivity
  have hround : UnpackedFloat.round .binary64 .positive total low = .finite .positive m₀ e₀ hm₀ :=
    round_of_scaled_eq hsum.canonical (le_min h.low h'.low) hsum.low
      (hscaled.symm.trans hsum.value)
  have hmantissas : Sign.positive.apply (decreaseExponent m e low).1 +
      Sign.positive.apply (decreaseExponent m' e' low).1 = (total : Int) := by
    simp only [decreaseExponent, Nat.shiftLeft_eq, Sign.apply, htotal]
    push_cast
    rfl
  have hadd : add .binary64 (unpacked (Float.ofNat n)) (unpacked (Float.ofNat k)) =
      .finite .positive m₀ e₀ hm₀ := by
    rw [h.unpacked_ofNat hn, h'.unpacked_ofNat hk]
    simp only [add, ← hlow, hmantissas]
    rw [normalize_of_pos .binary64 hpos, Int.toNat_natCast, hround]
  calc Float.ofNat n + Float.ofNat k
      = ofUnpacked (add .binary64 (unpacked (Float.ofNat n)) (unpacked (Float.ofNat k))) := rfl
    _ = Float.ofNat (n + k) := by rw [hadd, hsum.ofNat_eq (Nat.add_pos_left hn k)]

end IsWhole

theorem ofFloat_ofNat {n : Nat} (hle : n ≤ 2 ^ 53) :
    Exact.ofFloat (Float.ofNat n) = .finite n := by
  rcases Nat.eq_zero_or_pos n with rfl | hn
  · decide +kernel
  · obtain ⟨m, e, hm, hwhole⟩ := exists_isWhole hn hle
    have hunpacked : (Float.ofNat n).toModel.unpack = .finite .positive m e hm :=
      hwhole.unpacked_ofNat hn
    rw [Exact.ofFloat, hunpacked, ← hwhole.value_zpow]
    rfl

theorem ofNat_add {a b : Nat} (h : a + b ≤ 2 ^ 53) :
    Float.ofNat a + Float.ofNat b = Float.ofNat (a + b) := by
  rcases Nat.eq_zero_or_pos a with rfl | ha
  · rcases Nat.eq_zero_or_pos b with rfl | hb
    · decide +kernel
    · rw [Nat.zero_add]
      exact zeroNeutral_float _ (ofNat_ne_zero hb)
  · rcases Nat.eq_zero_or_pos b with rfl | hb
    · exact add_of_zero (ofNat_ne_zero ha) (by decide +kernel)
    · obtain ⟨m, e, hm, hwhole⟩ := exists_isWhole ha (by omega)
      obtain ⟨m', e', hm', hwhole'⟩ := exists_isWhole hb (by omega)
      exact hwhole.ofNat_add hwhole' ha hb h

theorem isFinite_ofNat {n : Nat} (hle : n ≤ 2 ^ 53) : (Float.ofNat n).isFinite = true := by
  rcases Nat.eq_zero_or_pos n with rfl | hn
  · rfl
  · obtain ⟨m, e, hm, hwhole⟩ := exists_isWhole hn hle
    have hfinite : (unpacked (Float.ofNat n)).isFinite = true := by
      rw [hwhole.unpacked_ofNat hn]
      rfl
    exact hfinite

/-- Sums of what compares equal to whole numbers: there are two zeros. -/
theorem add_beq_ofNat {a b : Nat} (h : a + b ≤ 2 ^ 53) (hx : (x == Float.ofNat a) = true)
    (hy : (y == Float.ofNat b) = true) : (x + y == Float.ofNat (a + b)) = true := by
  have hnumber {z : Float} {n : Nat} (hn : 0 < n) (hz : (z == Float.ofNat n) = true) :
      z = Float.ofNat n := eq_of_beq hz (ofNat_ne_zero hn)
  rcases Nat.eq_zero_or_pos a with rfl | ha
  · rcases Nat.eq_zero_or_pos b with rfl | hb
    · obtain ⟨s, hs⟩ := (beq_zero_iff x).mp hx
      obtain ⟨t, ht⟩ := (beq_zero_iff y).mp hy
      rw [← ofUnpacked_unpacked x, ← ofUnpacked_unpacked y, hs, ht]
      cases s <;> cases t <;> decide +kernel
    · rw [Nat.zero_add] at h ⊢
      rw [hnumber hb hy, add_comm, add_of_zero (ofNat_ne_zero hb) hx]
      exact beq_refl (isFinite_ofNat h)
  · rcases Nat.eq_zero_or_pos b with rfl | hb
    · rw [Nat.add_zero] at h ⊢
      rw [hnumber ha hx, add_of_zero (ofNat_ne_zero ha) hy]
      exact beq_refl (isFinite_ofNat h)
    · rw [hnumber ha hx, hnumber hb hy, ofNat_add h]
      exact beq_refl (isFinite_ofNat h)

theorem add_zero_of_beq_ofNat {n : Nat} (hx : (x == Float.ofNat n) = true) :
    x + 0 = Float.ofNat n := by
  rcases Nat.eq_zero_or_pos n with rfl | hn
  · rw [add_comm, zero_add_of_zero hx]
    rfl
  · have hx' : x = Float.ofNat n := eq_of_beq hx (ofNat_ne_zero hn)
    rw [hx', add_of_zero (ofNat_ne_zero hn) (beq_refl rfl)]

/-! ## Floats read exactly -/

theorem exists_unpacked_of_ofFloat {q : Rat} (hx : Exact.ofFloat x = .finite q) :
    (q = 0 ∧ ∃ s, unpacked x = .zero s) ∨
      ∃ s m e hm, unpacked x = .finite s m e hm ∧ (s.apply m : Int) * (2 : Rat) ^ e = q := by
  cases hunpacked : unpacked x with
  | notANumber =>
    have hunpack : x.toModel.unpack = .notANumber := hunpacked
    rw [Exact.ofFloat, hunpack] at hx
    cases hx
  | infinity s =>
    have hunpack : x.toModel.unpack = .infinity s := hunpacked
    rw [Exact.ofFloat, hunpack] at hx
    cases s <;> cases hx
  | zero s =>
    have hunpack : x.toModel.unpack = .zero s := hunpacked
    rw [Exact.ofFloat, hunpack] at hx
    exact .inl ⟨(Exact.finite.inj hx).symm, s, rfl⟩
  | finite s m e hm =>
    have hunpack : x.toModel.unpack = .finite s m e hm := hunpacked
    rw [Exact.ofFloat, hunpack] at hx
    exact .inr ⟨s, m, e, hm, rfl, Exact.finite.inj hx⟩

theorem apply_ne_zero (s : Sign) (hm : 0 < m) : s.apply m ≠ 0 := by
  cases s <;> simp only [Sign.apply] <;> omega

theorem beq_zero_of_ofFloat (hx : Exact.ofFloat x = .finite 0) : (x == 0) = true := by
  obtain ⟨-, hzero⟩ | ⟨s, m, e, hm, -, hvalue⟩ := exists_unpacked_of_ofFloat hx
  · exact (beq_zero_iff x).mpr hzero
  · have hsign : ((s.apply m : Int) : Rat) ≠ 0 := Int.cast_ne_zero.mpr (apply_ne_zero s hm)
    exact absurd hvalue (mul_ne_zero hsign (zpow_ne_zero e two_ne_zero))

theorem scaled_mul_zpow (k : Int) {b : Int} (hb : b ≤ e) :
    ((k * 2 ^ (e - b).toNat : Int) : Rat) * 2 ^ b = k * 2 ^ e := by
  have hexp : ((e - b).toNat : Int) + b = e := by omega
  push_cast
  rw [mul_assoc, ← zpow_natCast, ← zpow_add₀ two_ne_zero, hexp]

/-- A number other than zero is read from one float only. -/
theorem eq_of_ofFloat_eq {q : Rat} (hq : q ≠ 0) (hx : Exact.ofFloat x = .finite q)
    (hy : Exact.ofFloat y = .finite q) : x = y := by
  obtain ⟨hzero, -⟩ | ⟨s, m, e, hm, hfinite, hvalue⟩ := exists_unpacked_of_ofFloat hx
  · exact absurd hzero hq
  obtain ⟨hzero, -⟩ | ⟨s', m', e', hm', hfinite', hvalue'⟩ := exists_unpacked_of_ofFloat hy
  · exact absurd hzero hq
  have hcanonical := canonical_unpacked x
  have hcanonical' := canonical_unpacked y
  rw [hfinite] at hcanonical
  rw [hfinite'] at hcanonical'
  have happly (s : Sign) (m k : Nat) : s.apply (m * 2 ^ k : Nat) = s.apply m * 2 ^ k := by
    cases s <;> simp [Sign.apply]
  have hscaled : s.apply m * 2 ^ (e - min e e').toNat =
      s'.apply m' * 2 ^ (e' - min e e').toNat := by
    have hpow : (2 : Rat) ^ min e e' ≠ 0 := zpow_ne_zero _ two_ne_zero
    have hcast := (scaled_mul_zpow (s.apply m) (min_le_left e e')).trans (hvalue.trans
      (hvalue'.symm.trans (scaled_mul_zpow (s'.apply m') (min_le_right e e')).symm))
    exact_mod_cast mul_right_cancel₀ hpow hcast
  apply unpacked_injective
  rw [hfinite, hfinite']
  apply eq_of_difference_eq_zero hcanonical hcanonical'
  simp only [decreaseExponent, Nat.shiftLeft_eq, happly]
  exact sub_eq_zero_of_eq hscaled

end Double

end LinearModel
