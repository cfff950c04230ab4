import LinearModel.Proofs.Rounding
import LinearModel.Scalar

/-!
# Doubles

Facts that hold for every pair of floats, infinities and undefined values included. They are read off
the unpacked forms of the floats.
-/

namespace LinearModel

/-- Zero is neutral on the left of all that does not compare equal to it. -/
def ZeroNeutral (R : Type) [Scalar R] : Prop :=
  ∀ c : R, (c == 0) = false → 0 + c = c

open Float.Model in
/-- Minus zero is left out because it would not be kept: zero plus minus zero is zero. -/
theorem zeroNeutral_float : ZeroNeutral Float := by
  intro c hc
  have hadd : UnpackedFloat.add .binary64 (.zero .positive) c.toModel.unpack =
      c.toModel.unpack := by
    cases hunpack : c.toModel.unpack with
    | zero sign =>
      have hbeq : c.toModel.unpack.beq (.zero .positive) = false := hc
      rw [hunpack] at hbeq
      cases hbeq
    | notANumber | infinity | finite => rfl
  calc 0 + c
      = ⟨pack (UnpackedFloat.add .binary64 (.zero .positive) c.toModel.unpack)⟩ := rfl
    _ = Float.ofBits c.toBits := by
      rw [hadd]
      rfl
    _ = c := Float.ofBits_toBits c

namespace Double

open Float.Model (Format UnpackedFloat totalExponent)
open Float.Model.UnpackedFloat

variable {s : Sign} {m : Nat} {e : Int}

/-! ## Signs -/

theorem add_neg_eq_sub (spec : Format) (u v : UnpackedFloat) :
    add spec u v.neg = sub spec u v := by
  have hflip : ∀ (s : Sign) (n : Int), (-s).apply n = -s.apply n := by
    rintro (_ | _) n
    · exact (Int.neg_neg n).symm
    · rfl
  cases u <;> cases v <;> simp only [UnpackedFloat.neg, add, sub, hflip, ← Int.sub_eq_add_neg]

theorem round_neg (spec : Format) (s : Sign) (m : Nat) (e : Int) :
    UnpackedFloat.round spec (-s) m e =
      (UnpackedFloat.round spec s m e).neg := by
  simp only [UnpackedFloat.round, roundWithAccuracy]
  split_ifs <;> rfl

theorem normalize_of_pos (spec : Format) {n : Int} (h : 0 < n) (e : Int) (s : Sign) :
    UnpackedFloat.normalize spec n e s = UnpackedFloat.round spec .positive n.toNat e := by
  rw [UnpackedFloat.normalize, Std.compare_eq_gt.mpr h]

theorem normalize_of_neg (spec : Format) {n : Int} (h : n < 0) (e : Int) (s : Sign) :
    UnpackedFloat.normalize spec n e s = UnpackedFloat.round spec .negative (-n).toNat e := by
  rw [UnpackedFloat.normalize, Std.compare_eq_lt.mpr h]

theorem normalize_canonical {n : Int} (hn : n ≠ 0) (he : -1074 ≤ e) (s : Sign) :
    ∃ s' m' e' hm', UnpackedFloat.normalize .binary64 n e s = .finite s' m' e' hm' ∧
      Canonical (.finite s' m' e' hm') := by
  rcases Int.lt_or_gt_of_ne hn with hneg | hpos
  · rw [normalize_of_neg .binary64 hneg]
    exact ⟨.negative, round_canonical .negative (by omega) he⟩
  · rw [normalize_of_pos .binary64 hpos]
    exact ⟨.positive, round_canonical .positive (by omega) he⟩

theorem normalize_neg (spec : Format) {n : Int} (h : n ≠ 0) (e : Int) (s : Sign) :
    UnpackedFloat.normalize spec (-n) e s = (UnpackedFloat.normalize spec n e s).neg := by
  rcases Int.lt_trichotomy n 0 with hneg | hzero | hpos
  · rw [normalize_of_neg spec hneg, normalize_of_pos spec (by omega)]
    exact round_neg spec .negative _ _
  · exact absurd hzero h
  · rw [normalize_of_pos spec hpos, normalize_of_neg spec (by omega), Int.neg_neg]
    exact round_neg spec .positive _ _

theorem add_swap (spec : Format) (u v : UnpackedFloat) : add spec v u = add spec u v := by
  cases u with
  | infinity s =>
    cases v with
    | infinity t => cases s <;> cases t <;> rfl
    | notANumber | zero | finite => rfl
  | notANumber => cases v <;> rfl
  | zero s =>
    cases v with
    | zero t => cases s <;> cases t <;> rfl
    | notANumber | infinity | finite => rfl
  | finite s m e hm =>
    cases v with
    | notANumber | infinity | zero => rfl
    | finite t m' e' hm' => simp only [add, Int.min_comm e' e, Int.add_comm]

/-- Rounding is symmetric, but a difference that is zero has the same sign either way. -/
theorem sub_swap (spec : Format) (u v : UnpackedFloat) :
    sub spec v u = (sub spec u v).neg ∨
      sub spec v u = .zero .positive ∧ sub spec u v = .zero .positive := by
  cases u with
  | infinity s =>
    cases v with
    | infinity t => cases s <;> cases t <;> exact .inl rfl
    | notANumber | zero | finite => exact .inl rfl
  | notANumber => cases v <;> exact .inl rfl
  | zero s =>
    cases v with
    | zero t => cases s <;> cases t <;> first | exact .inl rfl | exact .inr ⟨rfl, rfl⟩
    | infinity t => exact .inl (by cases t <;> rfl)
    | notANumber => exact .inl rfl
    | finite t => exact .inl (by cases t <;> rfl)
  | finite s m e hm =>
    cases v with
    | infinity t => exact .inl (by cases t <;> rfl)
    | notANumber | zero => exact .inl rfl
    | finite t m' e' hm' =>
      simp only [sub, Int.min_comm e' e]
      set l := s.apply (decreaseExponent m e (min e e')).1
      set r := t.apply (decreaseExponent m' e' (min e e')).1
      have hswap : r - l = -(l - r) := (Int.neg_sub l r).symm
      by_cases hzero : l - r = 0
      · rw [hswap, hzero]
        exact .inr ⟨rfl, rfl⟩
      · rw [hswap]
        exact .inl (normalize_neg spec hzero _ _)

/-- Of two canonical forms, the exponent of the larger mantissa is no larger. -/
theorem eq_of_scaled_eq {m m' : Nat} {e e' : Int} {s s' : Sign} {hm : 0 < m} {hm' : 0 < m'}
    (h : Canonical (.finite s m e hm)) (h' : Canonical (.finite s' m' e' hm')) (hle : e ≤ e')
    (heq : m = m' * 2 ^ (e' - e).toNat) : e = e' := by
  have hlog : m.log2 = m'.log2 + (e' - e).toNat := by rw [heq, log2_mul_two_pow hm']
  rw [canonical_finite] at h h'
  omega

/-- Different finite floats have a difference. -/
theorem eq_of_difference_eq_zero {m m' : Nat} {e e' : Int} {s s' : Sign} {hm : 0 < m}
    {hm' : 0 < m'} (h : Canonical (.finite s m e hm)) (h' : Canonical (.finite s' m' e' hm'))
    (heq : s.apply (decreaseExponent m e (min e e')).1 -
      s'.apply (decreaseExponent m' e' (min e e')).1 = 0) :
    UnpackedFloat.finite s m e hm = .finite s' m' e' hm' := by
  simp only [decreaseExponent, Nat.shiftLeft_eq] at heq
  have hpos : 0 < m * 2 ^ (e - min e e').toNat := by positivity
  have hpos' : 0 < m' * 2 ^ (e' - min e e').toNat := by positivity
  have hsign : s = s' := by
    cases s <;> cases s' <;> first | rfl | (simp only [Sign.apply] at heq; omega)
  subst hsign
  have hscaled : m * 2 ^ (e - min e e').toNat = m' * 2 ^ (e' - min e e').toNat := by
    cases s <;> simp only [Sign.apply] at heq <;> omega
  have hexp : e = e' := by
    rcases Int.le_total e e' with hle | hle
    · rw [Int.min_eq_left hle, Int.sub_self] at hscaled
      exact eq_of_scaled_eq h h' hle (by simpa using hscaled)
    · rw [Int.min_eq_right hle, Int.sub_self] at hscaled
      exact (eq_of_scaled_eq h' h hle (by simpa using hscaled.symm)).symm
  subst hexp
  have hmantissa : m = m' := by simpa using hscaled
  subst hmantissa
  rfl

/-! ## Packing -/

theorem unpack_packComponents (s : Sign) {exponent : BitVec 11} (mantissa : BitVec 52)
    (hlow : exponent ≠ 0#11) (hhigh : exponent ≠ -1#11) :
    unpack .binary64 (packComponents .binary64 s exponent mantissa) =
      .finite s (1#1 ++ mantissa).toNat (exponent.toNat - 1075)
        (by rw [toNat_one_append]; omega) := by
  simp only [unpack, unpackSign_packComponents, unpackExponent_packComponents,
    unpackMantissa_packComponents, Sign.ofBitVec_toBitVec, if_neg hlow, if_neg hhigh]
  rfl

theorem unpack_packComponents_zero (s : Sign) {mantissa : BitVec 52} (h : mantissa ≠ 0#52) :
    unpack .binary64 (packComponents .binary64 s 0#11 mantissa) =
      .finite s mantissa.toNat (-1074) (by simpa [BitVec.toNat_pos, BitVec.pos_iff_ne_zero]) := by
  have hne : (0#11 : BitVec 11) ≠ -1#11 := by decide
  simp only [unpack, unpackSign_packComponents, unpackExponent_packComponents,
    unpackMantissa_packComponents, Sign.ofBitVec_toBitVec, if_neg hne, dif_neg h]
  rfl

theorem unpack_packedInfinity (s : Sign) :
    unpack .binary64 (packedInfinity .binary64 s) = .infinity s := by
  simp [unpack, packedInfinity]

theorem unpack_normal (s : Sign) {hm : 0 < m} (hlog : m.log2 = 52) (hlow : -1074 ≤ e)
    (hhigh : e ≤ 971) :
    unpack .binary64 (packComponents .binary64 s (.ofNat 11 (e + 1075).toNat) (.ofNat 52 m)) =
      .finite s m e hm := by
  have hexp : (BitVec.ofNat 11 (e + 1075).toNat).toNat = (e + 1075).toNat := by
    rw [BitVec.toNat_ofNat]
    omega
  have hzero : BitVec.ofNat 11 (e + 1075).toNat ≠ 0#11 := by
    intro heq
    have hnat : (BitVec.ofNat 11 (e + 1075).toNat).toNat = 0 := congrArg BitVec.toNat heq
    omega
  have hmax : BitVec.ofNat 11 (e + 1075).toNat ≠ -1#11 := by
    intro heq
    have hnat : (BitVec.ofNat 11 (e + 1075).toNat).toNat = 2047 := congrArg BitVec.toNat heq
    omega
  have hmantissa : (1#1 ++ BitVec.ofNat 52 m).toNat = m := by
    have hbits := (Nat.log2_eq_iff (Nat.ne_of_gt hm)).mp hlog
    rw [toNat_one_append, BitVec.toNat_ofNat]
    omega
  have hback : ((BitVec.ofNat 11 (e + 1075).toNat).toNat : Int) - 1075 = e := by omega
  rw [unpack_packComponents s _ hzero hmax]
  simp only [hmantissa, hback]

theorem unpack_subnormal (s : Sign) {hm : 0 < m} (hlog : m.log2 < 52) :
    unpack .binary64 (packComponents .binary64 s 0#11 (.ofNat 52 m)) = .finite s m (-1074) hm := by
  have hsmall : m < 2 ^ 52 := (Nat.log2_lt (Nat.ne_of_gt hm)).mp hlog
  have hmantissa : (BitVec.ofNat 52 m).toNat = m := by
    rw [BitVec.toNat_ofNat]
    omega
  have hne : BitVec.ofNat 52 m ≠ 0#52 := by
    intro heq
    have hnat : (BitVec.ofNat 52 m).toNat = 0 := congrArg BitVec.toNat heq
    omega
  rw [unpack_packComponents_zero s hne]
  simp only [hmantissa]

theorem pack_finite (s : Sign) (m : Nat) (e : Int) (hm : 0 < m) :
    pack .binary64 (.finite s m e hm) =
      if 2 ^ 11 ≤ (e + 1075).toNat + 1 then packedInfinity .binary64 s
      else if m.log2 + 1 = 53 then
        packComponents .binary64 s (.ofNat 11 (e + 1075).toNat) (.ofNat 52 m)
      else packComponents .binary64 s 0#11 (.ofNat 52 m) := by
  have hbias : e + Format.binary64.exponentBias + Format.binary64.mantissaBitsWithoutImplicit =
      e + 1075 := by
    have hvalue : (Format.binary64.exponentBias : Int) = 1023 := rfl
    have hbits : (Format.binary64.mantissaBitsWithoutImplicit : Int) = 52 := rfl
    omega
  have hbits : Format.binary64.mantissaBits = 53 := rfl
  simp only [pack, hbias, hbits]

theorem unpack_pack_of_le {hm : 0 < m} (h : Canonical (.finite s m e hm)) (he : e ≤ 971) :
    unpack .binary64 (pack .binary64 (.finite s m e hm)) = .finite s m e hm := by
  obtain ⟨hlow, hfits, hform⟩ := canonical_finite.mp h
  have hroom : ¬2 ^ 11 ≤ (e + 1075).toNat + 1 := by omega
  rw [pack_finite, if_neg hroom]
  by_cases hnormal : m.log2 = 52
  · rw [if_pos (by omega)]
    exact unpack_normal s hnormal hlow he
  · obtain rfl : e = -1074 := by omega
    rw [if_neg (by omega)]
    exact unpack_subnormal s (by omega)

/-- What overflows is packed as an infinity, all else as what it is. -/
theorem unpack_pack {hm : 0 < m} (h : Canonical (.finite s m e hm)) :
    unpack .binary64 (pack .binary64 (.finite s m e hm)) = .finite s m e hm ∨
      unpack .binary64 (pack .binary64 (.finite s m e hm)) = .infinity s := by
  by_cases he : e ≤ 971
  · exact .inl (unpack_pack_of_le h he)
  · have hover : 2 ^ 11 ≤ (e + 1075).toNat + 1 := by omega
    rw [pack_finite, if_pos hover]
    exact .inr (unpack_packedInfinity s)

/-- A sign goes through packing and unpacking alone. -/
theorem unpack_packComponents_neg (s : Sign) (exponent : BitVec 11) (mantissa : BitVec 52) :
    unpack .binary64 (packComponents .binary64 (-s) exponent mantissa) =
      (unpack .binary64 (packComponents .binary64 s exponent mantissa)).neg := by
  simp only [unpack, unpackSign_packComponents, unpackExponent_packComponents,
    unpackMantissa_packComponents, Sign.ofBitVec_toBitVec]
  split_ifs <;> rfl

theorem unpack_pack_neg (u : UnpackedFloat) :
    unpack .binary64 (pack .binary64 u.neg) = (unpack .binary64 (pack .binary64 u)).neg := by
  cases u with
  | infinity s => exact unpack_packComponents_neg s _ _
  | notANumber => simp only [UnpackedFloat.neg, pack, unpack_packedNaN]
  | zero s => exact unpack_packComponents_neg s _ _
  | finite s m e hm =>
    simp only [UnpackedFloat.neg, pack]
    split_ifs <;> exact unpack_packComponents_neg s _ _

/-! ## Floats -/

def unpacked (x : Float) : UnpackedFloat :=
  x.toModel.unpack

def ofUnpacked (u : UnpackedFloat) : Float :=
  ⟨Float.Model.pack u⟩

theorem unpacked_ofUnpacked (u : UnpackedFloat) :
    unpacked (ofUnpacked u) = unpack .binary64 (pack .binary64 u) :=
  rfl

@[simp] theorem ofUnpacked_unpacked (x : Float) : ofUnpacked (unpacked x) = x :=
  Float.ofBits_toBits x

theorem canonical_unpacked (x : Float) : Canonical (unpacked x) :=
  canonical_unpack _

theorem unpacked_neg (x : Float) : unpacked (-x) = (unpacked x).neg := by
  have hpack : unpack .binary64 (pack .binary64 (unpacked x)) = unpacked x := by
    rw [← unpacked_ofUnpacked, ofUnpacked_unpacked]
  have hneg : unpacked (-x) = unpack .binary64 (pack .binary64 (unpacked x).neg) := rfl
  rw [hneg, unpack_pack_neg, hpack]

theorem mul_neg_one (x : Float) : x * -1 = -x := by
  have hone : unpacked (-1) = .finite .negative (2 ^ 52) (-52) (by decide) := by
    rfl
  have hmul : mul .binary64 (unpacked x) (unpacked (-1)) = (unpacked x).neg := by
    have hcanonical := (canonical_unpacked x).neg
    rw [hone]
    cases hx : unpacked x with
    | infinity s => cases s <;> rfl
    | notANumber => rfl
    | zero s => cases s <;> rfl
    | finite s m e hm =>
      rw [hx] at hcanonical
      have hsign : s * .negative = -s := by cases s <;> rfl
      have hexact := roundWithAccuracy_exact hcanonical 52
      rw [mul, hsign]
      exact hexact
  calc x * -1 = ofUnpacked (mul .binary64 (unpacked x) (unpacked (-1))) := rfl
    _ = -x := by rw [hmul]; rfl

theorem add_neg (x y : Float) : x + -y = x - y := by
  have hunpacked : add .binary64 (unpacked x) (unpacked (-y)) =
      sub .binary64 (unpacked x) (unpacked y) := by
    rw [unpacked_neg, add_neg_eq_sub]
  exact congrArg ofUnpacked hunpacked

theorem add_comm (x y : Float) : x + y = y + x :=
  congrArg ofUnpacked (add_swap .binary64 (unpacked y) (unpacked x))

theorem unpack_pack_ne_zero {hm : 0 < m} (h : Canonical (.finite s m e hm)) (s' : Sign) :
    unpack .binary64 (pack .binary64 (.finite s m e hm)) ≠ .zero s' := by
  rcases unpack_pack h with heq | heq <;> rw [heq] <;> exact UnpackedFloat.noConfusion

/-- A difference of finite floats underflows to zero only where there is none. -/
theorem unpack_pack_sub_eq_zero {u v : UnpackedFloat} (hu : Canonical u) (hv : Canonical v)
    (hfinite : u.isFinite = true) (hfinite' : v.isFinite = true) :
    (∃ s, unpack .binary64 (pack .binary64 (sub .binary64 u v)) = .zero s) ↔
      u = v ∨ (∃ s, u = .zero s) ∧ ∃ s, v = .zero s := by
  cases u with
  | infinity | notANumber => cases hfinite
  | zero s =>
    cases v with
    | infinity | notANumber => cases hfinite'
    | zero t =>
      refine iff_of_true ?_ (.inr ⟨⟨s, rfl⟩, t, rfl⟩)
      simp only [sub]
      split_ifs
      · exact ⟨s, unpack_packedZero⟩
      · exact ⟨.positive, unpack_packedZero⟩
    | finite t m e hm =>
      refine iff_of_false ?_ (by simp)
      rintro ⟨s', hs'⟩
      exact unpack_pack_ne_zero hv.neg s' hs'
  | finite s m e hm =>
    cases v with
    | infinity | notANumber => cases hfinite'
    | zero t =>
      refine iff_of_false ?_ (by simp)
      rintro ⟨s', hs'⟩
      exact unpack_pack_ne_zero hu s' hs'
    | finite t m' e' hm' =>
      simp only [sub]
      set l := s.apply (decreaseExponent m e (min e e')).1
      set r := t.apply (decreaseExponent m' e' (min e e')).1
      by_cases hzero : l - r = 0
      · refine iff_of_true ⟨.positive, ?_⟩ (.inl (eq_of_difference_eq_zero hu hv hzero))
        rw [hzero]
        exact unpack_packedZero
      · have hexp := (canonical_finite.mp hu).1
        have hexp' := (canonical_finite.mp hv).1
        obtain ⟨s', k, e₀, hk, hround, hcanonical⟩ :=
          normalize_canonical hzero (e := min e e') (by omega) .positive
        rw [hround]
        refine iff_of_false ?_ ?_
        · rintro ⟨s'', hs''⟩
          exact unpack_pack_ne_zero hcanonical s'' hs''
        · rintro (heq | ⟨⟨-, ⟨⟩⟩, -⟩)
          cases heq
          exact hzero (Int.sub_self l)

theorem beq_zero_iff (x : Float) : (x == 0) = true ↔ ∃ s, unpacked x = .zero s := by
  have hbeq : (x == 0) = (unpacked x).beq (.zero .positive) := rfl
  rw [hbeq]
  cases unpacked x with
  | infinity s => cases s <;> exact iff_of_false Bool.false_ne_true (by simp)
  | notANumber => exact iff_of_false Bool.false_ne_true (by simp)
  | zero s => exact iff_of_true rfl ⟨s, rfl⟩
  | finite s => cases s <;> exact iff_of_false Bool.false_ne_true (by simp)

theorem neg_beq_zero (x : Float) : (-x == 0) = (x == 0) := by
  rw [Bool.eq_iff_iff, beq_zero_iff, beq_zero_iff, unpacked_neg]
  cases unpacked x with
  | zero s => exact iff_of_true ⟨-s, rfl⟩ ⟨s, rfl⟩
  | infinity | notANumber | finite => exact iff_of_false (by simp [UnpackedFloat.neg]) (by simp)

theorem beq_iff (x y : Float) : (x == y) = true ↔
    unpacked x ≠ .notANumber ∧ unpacked y ≠ .notANumber ∧
      (unpacked x = unpacked y ∨ (∃ s, unpacked x = .zero s) ∧ ∃ s, unpacked y = .zero s) := by
  have hbeq : (x == y) = (unpacked x).beq (unpacked y) := rfl
  have hzeros : ∀ u v : UnpackedFloat, u = v ∨ (u = .zero .positive ∧ v = .zero .negative) ∨
      (u = .zero .negative ∧ v = .zero .positive) ↔
        u = v ∨ (∃ s, u = .zero s) ∧ ∃ s, v = .zero s := by
    intro u v
    constructor
    · rintro (heq | ⟨rfl, rfl⟩ | ⟨rfl, rfl⟩)
      · exact .inl heq
      · exact .inr ⟨⟨_, rfl⟩, _, rfl⟩
      · exact .inr ⟨⟨_, rfl⟩, _, rfl⟩
    · rintro (heq | ⟨⟨s, rfl⟩, t, rfl⟩)
      · exact .inl heq
      · cases s <;> cases t <;> simp
  rw [hbeq, beq_iff_ne_notANumber_and_eq, hzeros]

theorem unpacked_injective : Function.Injective unpacked :=
  Function.LeftInverse.injective ofUnpacked_unpacked

variable {x y : Float}

theorem eq_of_beq (h : (x == y) = true) (hne : (y == 0) = false) : x = y := by
  obtain ⟨-, -, heq | ⟨-, hzero⟩⟩ := (beq_iff x y).mp h
  · exact unpacked_injective heq
  · rw [(beq_zero_iff y).mpr hzero] at hne
    cases hne

theorem beq_comm (x y : Float) : (x == y) = (y == x) := by
  have hswap {x y : Float} (h : (x == y) = true) : (y == x) = true := by
    obtain ⟨hx, hy, heq | ⟨hzero, hzero'⟩⟩ := (beq_iff x y).mp h
    · exact (beq_iff y x).mpr ⟨hy, hx, .inl heq.symm⟩
    · exact (beq_iff y x).mpr ⟨hy, hx, .inr ⟨hzero', hzero⟩⟩
  exact Bool.eq_iff_iff.mpr ⟨hswap, hswap⟩

theorem unpacked_eq_notANumber_iff : unpacked x = .notANumber ↔ x.isNaN = true := by
  have hisNaN : x.isNaN = (unpacked x).isNaN := rfl
  rw [hisNaN]
  cases unpacked x with
  | notANumber => exact iff_of_true rfl rfl
  | infinity | zero | finite => exact iff_of_false UnpackedFloat.noConfusion Bool.false_ne_true

theorem beq_of_isNaN (hx : x.isNaN = true) (y : Float) : (x == y) = false := by
  apply Bool.eq_false_of_not_eq_true
  intro h
  obtain ⟨hnumber, -, -⟩ := (beq_iff x y).mp h
  exact hnumber (unpacked_eq_notANumber_iff.mpr hx)

theorem unpacked_ne_notANumber (hx : x.isFinite = true) : unpacked x ≠ .notANumber := by
  intro heq
  have hfinite : (unpacked x).isFinite = true := hx
  rw [heq] at hfinite
  cases hfinite

/-- Numbers compare equal if they are, or if both are zeros. -/
theorem beq_iff_eq_or_zeros (hx : x.isNaN = false) (hy : y.isNaN = false) :
    (x == y) = true ↔ x = y ∨ (x == 0) = true ∧ (y == 0) = true := by
  have hnumber {z : Float} (hz : z.isNaN = false) : unpacked z ≠ .notANumber :=
    mt unpacked_eq_notANumber_iff.mp (ne_true_of_eq_false hz)
  rw [beq_iff, and_iff_right (hnumber hx), and_iff_right (hnumber hy),
    unpacked_injective.eq_iff, beq_zero_iff, beq_zero_iff]

theorem unpacked_zero : unpacked 0 = .zero .positive :=
  rfl

theorem unpacked_neg_zero : unpacked (-0) = .zero .negative := by
  rw [unpacked_neg, unpacked_zero]
  rfl

theorem zero_ne_neg_zero : (0 : Float) ≠ -0 := by
  intro h
  have hsign := congrArg unpacked h
  rw [unpacked_zero, unpacked_neg_zero] at hsign
  cases hsign

theorem eq_zero_or_eq_neg_zero (hx : (x == 0) = true) : x = 0 ∨ x = -0 := by
  obtain ⟨s, hs⟩ := (beq_zero_iff x).mp hx
  cases s with
  | positive => exact .inl (unpacked_injective (hs.trans unpacked_zero.symm))
  | negative => exact .inr (unpacked_injective (hs.trans unpacked_neg_zero.symm))

theorem beq_refl (hx : x.isFinite = true) : (x == x) = true :=
  (beq_iff x x).mpr ⟨unpacked_ne_notANumber hx, unpacked_ne_notANumber hx, .inl rfl⟩

theorem sub_beq_zero (hx : x.isFinite = true) (hy : y.isFinite = true) :
    (x - y == 0) = (x == y) := by
  rw [Bool.eq_iff_iff, beq_zero_iff, beq_iff, and_iff_right (unpacked_ne_notANumber hx),
    and_iff_right (unpacked_ne_notANumber hy)]
  exact unpack_pack_sub_eq_zero (canonical_unpacked x) (canonical_unpacked y) hx hy

/-- The difference the other way round is the negative one, but for the sign of zero. -/
theorem sub_beq_neg_sub (x y : Float) :
    (x - y == -(y - x)) = true ∨ (x - y).isNaN = true ∧ (y - x).isNaN = true := by
  rcases sub_swap .binary64 (unpacked y) (unpacked x) with hneg | ⟨hzero, hzero'⟩
  · have heq : unpacked (x - y) = (unpacked (y - x)).neg := by
      have hpacked := unpack_pack_neg (sub .binary64 (unpacked y) (unpacked x))
      rwa [← hneg] at hpacked
    by_cases hnan : unpacked (y - x) = .notANumber
    · have hnan' : unpacked (x - y) = .notANumber := by rw [heq, hnan]; rfl
      exact .inr ⟨congrArg UnpackedFloat.isNaN hnan', congrArg UnpackedFloat.isNaN hnan⟩
    · have hnumber : (unpacked (y - x)).neg ≠ .notANumber := by
        cases hxy : unpacked (y - x) with
        | notANumber => exact absurd hxy hnan
        | infinity | zero | finite => exact UnpackedFloat.noConfusion
      rw [beq_iff, unpacked_neg, heq]
      exact .inl ⟨hnumber, hnumber, .inl rfl⟩
  · have hsub : x - y = ofUnpacked (.zero .positive) := congrArg ofUnpacked hzero
    have hsub' : y - x = ofUnpacked (.zero .positive) := congrArg ofUnpacked hzero'
    rw [hsub, hsub']
    exact .inl (by decide +kernel)

end Double

end LinearModel
