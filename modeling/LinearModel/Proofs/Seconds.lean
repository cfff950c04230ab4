import LinearModel.Duration
import LinearModel.Proofs.Wholes

/-!
# Durations in seconds

A number of seconds has a duration if it is not negative and below `2 ^ 64`, and then its duration
is the nearest one: no double is so close to the bound that it is rounded past it. A duration other
than zero has a positive number of seconds.
-/

namespace LinearModel

namespace Double

open Float.Model (Format UnpackedFloat totalExponent)
open Float.Model.UnpackedFloat

variable {x y : Float} {m : Nat} {e : Int}

/-! ## Positive floats -/

theorem pos_iff : 0 < x ↔ unpacked x = .infinity .positive ∨
    ∃ m e hm, unpacked x = .finite .positive m e hm := by
  have hlt : 0 < x ↔ (unpacked 0).lt (unpacked x) = true := decide_eq_true_iff
  rw [hlt, unpacked_zero]
  cases unpacked x with
  | notANumber | zero => exact iff_of_false Bool.false_ne_true (by simp)
  | infinity s =>
    cases s with
    | positive => exact iff_of_true rfl (.inl rfl)
    | negative => exact iff_of_false Bool.false_ne_true (by simp)
  | finite s m e hm =>
    cases s with
    | positive => exact iff_of_true rfl (.inr ⟨m, e, hm, rfl⟩)
    | negative => exact iff_of_false Bool.false_ne_true (by simp)

theorem beq_zero_of_pos (hx : 0 < x) : (x == 0) = false := by
  rw [Bool.eq_false_iff, ne_eq, beq_zero_iff]
  rintro ⟨s, hs⟩
  rcases pos_iff.mp hx with hx | ⟨m, e, hm, hx⟩ <;> rw [hx] at hs <;> cases hs

theorem ofUnpacked_pos {hm : 0 < m} (h : Canonical (.finite .positive m e hm)) :
    0 < ofUnpacked (.finite .positive m e hm) := by
  rw [pos_iff, unpacked_ofUnpacked]
  rcases unpack_pack h with heq | heq
  · exact .inr ⟨m, e, hm, heq⟩
  · exact .inl heq

theorem ofNat_pos {n : Nat} (hn : 0 < n) : 0 < Float.ofNat n := by
  obtain ⟨m, e, hm, heq, hcanonical⟩ := exists_ofNat_eq hn
  rw [heq]
  exact ofUnpacked_pos hcanonical

/-- A sum of positive floats may overflow, but to the positive infinity. -/
theorem add_pos (hx : 0 < x) (hy : 0 < y) : 0 < x + y := by
  have hadd : x + y = ofUnpacked (add .binary64 (unpacked x) (unpacked y)) := rfl
  have hinfinite : 0 < ofUnpacked (.infinity .positive) := by decide +kernel
  rcases pos_iff.mp hx with hx | ⟨m, e, hm, hx⟩ <;>
  rcases pos_iff.mp hy with hy | ⟨m', e', hm', hy⟩ <;> rw [hadd, hx, hy]
  · exact hinfinite
  · exact hinfinite
  · exact hinfinite
  · have hcanonical := canonical_unpacked x
    have hcanonical' := canonical_unpacked y
    rw [hx, canonical_finite] at hcanonical
    rw [hy, canonical_finite] at hcanonical'
    have hpos : 0 < m * 2 ^ (e - min e e').toNat + m' * 2 ^ (e' - min e e').toNat := by
      positivity
    obtain ⟨k, t, hk, hround, hsum⟩ :=
      round_canonical .positive hpos (e := min e e') (by omega)
    have hvalue : add .binary64 (.finite .positive m e hm) (.finite .positive m' e' hm') =
        .finite .positive k t hk := by
      simp only [add, decreaseExponent, Nat.shiftLeft_eq, Sign.apply]
      rw [← Nat.cast_add, normalize_of_pos .binary64 (by exact_mod_cast hpos), Int.toNat_natCast,
        hround]
    rw [hvalue]
    exact ofUnpacked_pos hsum

theorem divCore_normal {m' : Nat} {e' : Int} (hlog : m.log2 = 52) (hlog' : m'.log2 = 52)
    (he : -1020 ≤ e - e') :
    divCore .binary64 m e m' e' =
      (m * 2 ^ 53 / m', e - e' - 53, accuracyOfFraction (m * 2 ^ 53 % m') m') := by
  have htarget : Format.binary64.targetExponent (totalExponent m e - totalExponent m' e') =
      e - e' - 53 := by
    have hmin : Format.binary64.minExponent = -1074 := rfl
    have hbits : (Format.binary64.mantissaBits : Int) = 53 := rfl
    rw [Format.targetExponent, hmin, hbits, totalExponent, totalExponent]
    omega
  have hmin : min (e - e') (e - e' - 53) = e - e' - 53 := by omega
  have hshift : (e - e' - (e - e' - 53)).toNat = 53 := by omega
  simp only [divCore, htarget, hmin, hshift, Nat.shiftLeft_eq]

theorem div_pos {m' : Nat} {e' : Int} {hm : 0 < m} {hm' : 0 < m'} (hlog : m.log2 = 52)
    (hlog' : m'.log2 = 52) (he : -1020 ≤ e - e') :
    0 < ofUnpacked (div .binary64 (.finite .positive m e hm) (.finite .positive m' e' hm')) := by
  have hquotient : 2 ^ 52 ≤ m * 2 ^ 53 / m' := by
    have hlow : 2 ^ 52 ≤ m := hlog ▸ Nat.log2_self_le (Nat.ne_of_gt hm)
    have hhigh : m' < 2 ^ (52 + 1) := hlog' ▸ Nat.lt_log2_self
    rw [Nat.le_div_iff_mul_le hm']
    omega
  have hpos : 0 < m * 2 ^ 53 / m' := by omega
  have hbits : 52 ≤ (m * 2 ^ 53 / m').log2 := (Nat.le_log2 (Nat.ne_of_gt hpos)).mpr hquotient
  obtain ⟨k, t, hk, hround, hcanonical⟩ := roundWithAccuracy_canonical .positive hpos hbits
    (e := e - e' - 53) (by omega) (accuracyOfFraction (m * 2 ^ 53 % m') m')
  have hdiv : div .binary64 (.finite .positive m e hm) (.finite .positive m' e' hm') =
      .finite .positive k t hk := by
    simp only [div, divCore_normal hlog hlog' he]
    exact hround
  rw [hdiv]
  exact ofUnpacked_pos hcanonical

theorem unpacked_billion :
    unpacked 1000000000.0 = .finite .positive (1000000000 * 2 ^ 23) (-23) (by decide) := by
  rfl

theorem ofNat_div_billion_pos {n : Nat} (hn : 0 < n) (hle : n ≤ 2 ^ 53) :
    0 < Float.ofNat n / 1000000000.0 := by
  obtain ⟨m, e, hm, hwhole⟩ := exists_isWhole hn hle
  have hdiv : Float.ofNat n / 1000000000.0 =
      ofUnpacked (div .binary64 (unpacked (Float.ofNat n)) (unpacked 1000000000.0)) := rfl
  have hlow := hwhole.low
  obtain ⟨-, -, hform⟩ := canonical_finite.mp hwhole.canonical
  rw [hdiv, hwhole.unpacked_ofNat hn, unpacked_billion]
  exact div_pos (by omega) (by decide) (by omega)

/-- From `2 ^ 53` on every double is a whole number, so none comes closer to `2 ^ 64` than one. -/
theorem le_of_ofFloat_lt {q : Rat} (hx : Exact.ofFloat x = .finite q) (hlt : q < 2 ^ 64) :
    q ≤ 2 ^ 64 - 1 := by
  obtain ⟨rfl, -⟩ | ⟨s, m, e, hm, hunpacked, hvalue⟩ := exists_unpacked_of_ofFloat hx
  · norm_num
  have hcanonical := canonical_unpacked x
  rw [hunpacked, canonical_finite] at hcanonical
  rcases Int.le_total 0 e with he | he
  · obtain ⟨n, rfl⟩ := Int.eq_ofNat_of_zero_le he
    have hwhole : ((s.apply m * 2 ^ n : Int) : Rat) = q := by
      rw [← hvalue]
      push_cast
      rfl
    rw [← hwhole] at hlt ⊢
    have hint : s.apply m * 2 ^ n < 2 ^ 64 := by exact_mod_cast hlt
    have hle : s.apply m * 2 ^ n ≤ 2 ^ 64 - 1 := by omega
    exact_mod_cast hle
  · have hbits : m < 2 ^ 53 := (Nat.log2_lt (Nat.ne_of_gt hm)).mp (by omega)
    have happly : s.apply m ≤ m := by cases s <;> simp only [Sign.apply] <;> omega
    have hscale : (2 : Rat) ^ e ≤ 1 := zpow_le_one_of_nonpos₀ one_le_two he
    have hcast : ((s.apply m : Int) : Rat) ≤ m := by exact_mod_cast happly
    calc q = (s.apply m : Int) * (2 : Rat) ^ e := hvalue.symm
      _ ≤ m * (2 : Rat) ^ e := mul_le_mul_of_nonneg_right hcast (by positivity)
      _ ≤ m := mul_le_of_le_one_right (Nat.cast_nonneg m) hscale
      _ ≤ 2 ^ 53 := by exact_mod_cast hbits.le
      _ ≤ 2 ^ 64 - 1 := by norm_num

end Double

namespace Duration

/-! ## Nearest integers -/

theorem abs_roundHalfEven_sub_le (q : Rat) : |(roundHalfEven q : Rat) - q| ≤ 1 / 2 := by
  have hlow : (q.floor : Rat) ≤ q := Int.floor_le q
  have hhigh : q < q.floor + 1 := Int.lt_floor_add_one q
  rw [abs_le]
  simp only [roundHalfEven]
  split_ifs <;> push_cast <;> constructor <;> linarith

theorem abs_roundHalfEven_sub_le_abs (q : Rat) (k : Int) :
    |(roundHalfEven q : Rat) - q| ≤ |(k : Rat) - q| := by
  rcases eq_or_ne k (roundHalfEven q) with rfl | hne
  · exact le_rfl
  · -- Every other integer is at least one away from the rounded one.
    have hone : (1 : Rat) ≤ |(k : Rat) - roundHalfEven q| := by
      exact_mod_cast Int.one_le_abs (sub_ne_zero.mpr hne)
    have hround := abs_roundHalfEven_sub_le q
    have htriangle := abs_sub_le (k : Rat) q (roundHalfEven q)
    rw [abs_sub_comm q] at htriangle
    linarith

theorem roundHalfEven_nonneg {q : Rat} (hq : 0 ≤ q) : 0 ≤ roundHalfEven q := by
  have hround := abs_le.mp (abs_roundHalfEven_sub_le q)
  have hlow : (-1 : Rat) < roundHalfEven q := by linarith
  have hint : -1 < roundHalfEven q := by exact_mod_cast hlow
  omega

/-- One half goes to zero, which is even. -/
theorem roundHalfEven_eq_zero_iff {q : Rat} (hq : 0 ≤ q) : roundHalfEven q = 0 ↔ q ≤ 1 / 2 := by
  constructor
  · intro hzero
    have hround := abs_le.mp (abs_roundHalfEven_sub_le q)
    rw [hzero, Int.cast_zero] at hround
    linarith
  · intro hle
    have hfloor : q.floor = 0 := Int.floor_eq_zero_iff.mpr ⟨hq, by linarith⟩
    have hhalf : ¬1 / 2 < q - (0 : Int) := by
      rw [Int.cast_zero]
      linarith
    simp only [roundHalfEven, hfloor, if_neg hhalf]
    split_ifs <;> first | rfl | contradiction

/-! ## Durations of numbers of seconds -/

/-- No duration is nearer to that number of seconds. -/
def IsNearest (d : Duration) (q : Rat) : Prop :=
  ∀ k : Duration, |(d.nanoseconds : Rat) - q * 10 ^ 9| ≤ |(k.nanoseconds : Rat) - q * 10 ^ 9|

end Duration

def Exact.durationFault : Exact → Option Duration.Fault
  | undefined | posInf => some .tooBigOrUndefined
  | negInf => some .negative
  | finite q =>
    if q < 0 then some .negative
    else if q < 2 ^ 64 then none
    else some .tooBigOrUndefined

namespace Duration

variable {x : Float} {q : Rat}

theorem ofSeconds_of_nonneg (hx : Exact.ofFloat x = .finite q) (hq : 0 ≤ q) :
    ofSeconds x =
      if q < 2 ^ 64 then .ok ⟨(roundHalfEven (q * 1000000000)).toNat⟩
      else .error .tooBigOrUndefined := by
  have hround := abs_le.mp (abs_roundHalfEven_sub_le (q * 1000000000))
  have hnonneg := roundHalfEven_nonneg (q := q * 1000000000) (by positivity)
  have hbound : (roundHalfEven (q * 1000000000)).toNat < Nat.pow 2 64 * Nat.pow 10 9 ↔
      q < 2 ^ 64 := by
    have hcast : (roundHalfEven (q * 1000000000)).toNat < Nat.pow 2 64 * Nat.pow 10 9 ↔
        roundHalfEven (q * 1000000000) < 2 ^ 64 * 10 ^ 9 := by
      have hpow : Nat.pow 2 64 * Nat.pow 10 9 = 2 ^ 64 * 10 ^ 9 := rfl
      omega
    rw [hcast]
    constructor
    · intro hlt
      have hle : roundHalfEven (q * 1000000000) ≤ 2 ^ 64 * 10 ^ 9 - 1 := by omega
      have hrat : (roundHalfEven (q * 1000000000) : Rat) ≤ 2 ^ 64 * 10 ^ 9 - 1 := by
        exact_mod_cast hle
      linarith
    · intro hlt
      have hle := Double.le_of_ofFloat_lt hx hlt
      have hrat : (roundHalfEven (q * 1000000000) : Rat) < 2 ^ 64 * 10 ^ 9 := by linarith
      exact_mod_cast hrat
  simp only [ofSeconds, hx, if_neg (not_lt.mpr hq), hbound]

theorem ofSeconds_of_fault {cause : Fault} (h : (Exact.ofFloat x).durationFault = some cause) :
    ofSeconds x = .error cause := by
  cases hx : Exact.ofFloat x with
  | undefined | posInf | negInf =>
    rw [hx] at h
    simp only [ofSeconds, hx, ← Option.some.inj h]
  | finite q =>
    rw [hx, Exact.durationFault] at h
    by_cases hneg : q < 0
    · rw [if_pos hneg] at h
      simp only [ofSeconds, hx, if_pos hneg, ← Option.some.inj h]
    · rw [if_neg hneg] at h
      rw [ofSeconds_of_nonneg hx (not_lt.mp hneg)]
      split_ifs at h ⊢
      rw [Option.some.inj h]

theorem exists_ofSeconds (h : (Exact.ofFloat x).durationFault = none) :
    ∃ q d, Exact.ofFloat x = .finite q ∧ ofSeconds x = .ok d ∧ d.IsNearest q ∧
      (d = .zero ↔ q ≤ 1 / (2 * 10 ^ 9)) := by
  cases hx : Exact.ofFloat x with
  | undefined | posInf | negInf =>
    rw [hx] at h
    cases h
  | finite q =>
    rw [hx, Exact.durationFault] at h
    have hq : 0 ≤ q := by
      by_contra hneg
      rw [if_pos (not_le.mp hneg)] at h
      cases h
    have hlt : q < 2 ^ 64 := by
      by_contra hover
      rw [if_neg (not_lt.mpr hq), if_neg hover] at h
      cases h
    have hscaled : 0 ≤ q * 1000000000 := by positivity
    have hnonneg := roundHalfEven_nonneg hscaled
    have hcast : (((roundHalfEven (q * 1000000000)).toNat : Nat) : Rat) =
        roundHalfEven (q * 1000000000) := by exact_mod_cast Int.toNat_of_nonneg hnonneg
    have hok := ofSeconds_of_nonneg hx hq
    rw [if_pos hlt] at hok
    refine ⟨q, _, rfl, hok, ?_, ?_⟩
    · intro k
      have hpow : q * 10 ^ 9 = q * 1000000000 := by norm_num
      rw [hpow, hcast]
      exact_mod_cast abs_roundHalfEven_sub_le_abs (q * 1000000000) k.nanoseconds
    · have hzero : roundHalfEven (q * 1000000000) = 0 ↔ q ≤ 1 / (2 * 10 ^ 9) := by
        rw [roundHalfEven_eq_zero_iff hscaled, ← le_div_iff₀ (by norm_num)]
        norm_num
      rw [← hzero, zero, Duration.mk.injEq]
      omega

/-! ## Seconds of durations -/

theorem ne_zero_iff {d : Duration} :
    d ≠ .zero ↔ 0 < d.wholeSeconds ∨ 0 < d.subNanoseconds := by
  obtain ⟨n⟩ := d
  have hpow : Nat.pow 10 9 = 1000000000 := rfl
  simp only [zero, ne_eq, Duration.mk.injEq, wholeSeconds, subNanoseconds, hpow]
  omega

/-- A single nanosecond is not lost. -/
theorem seconds_pos {d : Duration} (hd : d ≠ .zero) : 0 < d.seconds := by
  have hsub : d.subNanoseconds < 1000000000 := Nat.mod_lt _ (by decide)
  have hrest (h : 0 < d.subNanoseconds) : 0 < Float.ofNat d.subNanoseconds / 1000000000.0 :=
    Double.ofNat_div_billion_pos h (by omega)
  rw [seconds]
  rcases Nat.eq_zero_or_pos d.subNanoseconds with hnone | hsome
  · have hzero : Float.ofNat 0 / 1000000000.0 = 0 := by decide +kernel
    have hwhole : 0 < d.wholeSeconds := by
      rcases ne_zero_iff.mp hd with hwhole | hrest
      · exact hwhole
      · omega
    rw [hnone, hzero, Double.add_of_zero (Double.ofNat_ne_zero hwhole) (Double.beq_refl rfl)]
    exact Double.ofNat_pos hwhole
  · rcases Nat.eq_zero_or_pos d.wholeSeconds with hwhole | hwhole
    · have hneutral : Float.ofNat 0 + Float.ofNat d.subNanoseconds / 1000000000.0 =
          Float.ofNat d.subNanoseconds / 1000000000.0 :=
        zeroNeutral_float _ (Double.beq_zero_of_pos (hrest hsome))
      rw [hwhole, hneutral]
      exact hrest hsome
    · exact Double.add_pos (Double.ofNat_pos hwhole) (hrest hsome)

end Duration

end LinearModel
