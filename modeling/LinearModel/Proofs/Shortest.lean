import LinearModel.Proofs.Rounding
import LinearModel.Text.Decimal

/-!
# Decimals that read back

Comparisons between decimals and floats, though carried out on naturals, compare the rational
numbers they stand for. The reals that round to different floats are apart, so a decimal reads back
as one float at most; and the decimal that is chosen for a float does read back as it.
-/

namespace LinearModel.Text

theorem pow_toNat {b : Rat} (hb : b ≠ 0) (k : Int) : b ^ k.toNat = b ^ k * b ^ (-k).toNat := by
  have hexp : (k.toNat : Int) = k + (-k).toNat := by omega
  rw [← zpow_natCast, ← zpow_natCast, ← zpow_add₀ hb, hexp]

namespace Decimal

def value (d : Decimal) : Rat :=
  d.digits * 10 ^ d.exponent

/-- Both sides are scaled to naturals by the same factor. -/
theorem cmpBinary_eq (d : Decimal) (m : Nat) (e : Int) :
    d.cmpBinary m e = compare d.value (m * 2 ^ e) := by
  set left := d.digits * 10 ^ d.exponent.toNat * 2 ^ (-e).toNat with hleft
  set right := m * 2 ^ e.toNat * 10 ^ (-d.exponent).toNat with hright
  set factor : Rat := 10 ^ (-d.exponent).toNat * 2 ^ (-e).toNat with hfactor
  have hpos : 0 < factor := by positivity
  have hleft' : (left : Rat) = d.value * factor := by
    rw [hleft, hfactor, value]
    push_cast
    rw [pow_toNat (by norm_num) d.exponent]
    ring
  have hright' : (right : Rat) = m * 2 ^ e * factor := by
    rw [hright, hfactor]
    push_cast
    rw [pow_toNat two_ne_zero e]
    ring
  have hcast : compare left right = compare (left : Rat) right := by
    rw [← cmp_eq_compare, ← cmp_eq_compare, Nat.strictMono_cast.cmp_map_eq]
  calc d.cmpBinary m e = compare left right := rfl
    _ = compare (d.value * factor) (m * 2 ^ e * factor) := by rw [hcast, hleft', hright']
    _ = compare d.value (m * 2 ^ e) := by
      rw [← cmp_eq_compare, ← cmp_eq_compare, cmp_mul_pos_right hpos]

theorem value_strip (d : Decimal) : d.strip.value = d.value := by
  induction d using strip.induct with
  | case1 d h ih =>
    have hdigits : d.digits = d.digits / 10 * 10 := by omega
    have hcast : (d.digits : Rat) = (d.digits / 10 : Nat) * 10 := by exact_mod_cast hdigits
    rw [strip, dif_pos h, ih, value, value, hcast, zpow_add₀ (by norm_num), zpow_one]
    ring
  | case2 d h => rw [strip, dif_neg h]

end Decimal

namespace Magnitude

def value (x : Magnitude) : Rat :=
  x.mantissa * 2 ^ x.exponent

/-- The mantissa has no more bits than fit, and fewer only at the least exponent. -/
structure Canonical (x : Magnitude) : Prop where
  pos : 0 < x.mantissa
  high : x.mantissa < 2 ^ 53
  least : -1074 ≤ x.exponent
  low : 2 ^ 52 ≤ x.mantissa ∨ x.exponent = -1074

def margin (x : Magnitude) : Nat :=
  if x.narrowBelow then 1 else 2

/-- The ends of the interval of reals that round to `x`. -/
def lowerEnd (x : Magnitude) : Rat :=
  (4 * x.mantissa - x.margin) * 2 ^ (x.exponent - 2)

def upperEnd (x : Magnitude) : Rat :=
  (4 * x.mantissa + 2) * 2 ^ (x.exponent - 2)

/-- An end of the interval belongs to it if the mantissa is even. -/
structure Rounds (x : Magnitude) (q : Rat) : Prop where
  lower : x.lowerEnd < q ∨ q = x.lowerEnd ∧ x.mantissa % 2 = 0
  upper : q < x.upperEnd ∨ q = x.upperEnd ∧ x.mantissa % 2 = 0

theorem margin_le (x : Magnitude) : 1 ≤ x.margin ∧ x.margin ≤ 2 := by
  rw [margin]
  split_ifs <;> omega

theorem readsBack_iff {x : Magnitude} (hx : 0 < x.mantissa) (d : Decimal) :
    x.readsBack d = true ↔ x.Rounds d.value := by
  have hmargin := x.margin_le
  have hlower : d.cmpBinary (4 * x.mantissa - if x.narrowBelow then 1 else 2) (x.exponent - 2) =
      compare d.value x.lowerEnd := by
    have hle : x.margin ≤ 4 * x.mantissa := by omega
    have hcast : ((4 * x.mantissa - x.margin : Nat) : Rat) = 4 * x.mantissa - x.margin := by
      rw [Nat.cast_sub hle, Nat.cast_mul]
      rfl
    rw [Decimal.cmpBinary_eq, lowerEnd, ← hcast]
    rfl
  have hupper : d.cmpBinary (4 * x.mantissa + 2) (x.exponent - 2) = compare d.value x.upperEnd := by
    rw [Decimal.cmpBinary_eq, upperEnd]
    push_cast
    rfl
  have hlower' (o : Ordering) (ho : o = compare d.value x.lowerEnd) :
      (o == .gt || x.mantissa % 2 == 0 && o == .eq) = true ↔
        x.lowerEnd < d.value ∨ d.value = x.lowerEnd ∧ x.mantissa % 2 = 0 := by
    simp [ho, compare_gt_iff_gt, and_comm]
  have hupper' (o : Ordering) (ho : o = compare d.value x.upperEnd) :
      (o == .lt || x.mantissa % 2 == 0 && o == .eq) = true ↔
        d.value < x.upperEnd ∨ d.value = x.upperEnd ∧ x.mantissa % 2 = 0 := by
    simp [ho, compare_lt_iff_lt, and_comm]
  rw [readsBack, Bool.and_eq_true, hlower' _ hlower, hupper' _ hupper]
  exact ⟨fun ⟨h, h'⟩ => ⟨h, h'⟩, fun ⟨h, h'⟩ => ⟨h, h'⟩⟩

variable {x y : Magnitude} {q : Rat}

theorem margin_of_narrow (hy : y.mantissa = 2 ^ 52) (hlow : -1074 < y.exponent) :
    y.margin = 1 := by
  have hnarrow : y.narrowBelow = true := by
    rw [narrowBelow, Bool.and_eq_true]
    exact ⟨beq_iff_eq.mpr hy, decide_eq_true hlow⟩
  rw [margin, if_pos hnarrow]

theorem lowerEnd_eq (hy : 0 < y.mantissa) {e : Int} (he : e ≤ y.exponent) :
    y.lowerEnd =
      ((4 * y.mantissa - y.margin) * 2 ^ (y.exponent - e).toNat : Nat) * 2 ^ (e - 2) := by
  have hmargin := y.margin_le
  have hle : y.margin ≤ 4 * y.mantissa := by omega
  have hexp : y.exponent - 2 = ((y.exponent - e).toNat : Int) + (e - 2) := by omega
  rw [lowerEnd, hexp, zpow_add₀ two_ne_zero, zpow_natCast]
  push_cast [Nat.cast_sub hle]
  ring

/-- The interval of the larger float begins where that of the smaller one ends, at the earliest; an
end that they share belongs to one of them at most. -/
theorem Canonical.ends_apart (hx : x.Canonical) (hy : y.Canonical)
    (hlt : x.exponent < y.exponent ∨ x.exponent = y.exponent ∧ x.mantissa < y.mantissa) :
    x.upperEnd < y.lowerEnd ∨
      x.upperEnd = y.lowerEnd ∧ ¬(x.mantissa % 2 = 0 ∧ y.mantissa % 2 = 0) := by
  have hmargin := y.margin_le
  have hhigh := hx.high
  set upper := 4 * x.mantissa + 2 with hupper
  set lower := (4 * y.mantissa - y.margin) * 2 ^ (y.exponent - x.exponent).toNat with hlower
  have hnumerators :
      upper < lower ∨ upper = lower ∧ ¬(x.mantissa % 2 = 0 ∧ y.mantissa % 2 = 0) := by
    rcases hlt with hexp | ⟨hexp, hmantissa⟩
    · -- a whole binade between them at least: the end below is twice what it is one exponent down
      have hleast := hx.least
      have hnormal : 2 ^ 52 ≤ y.mantissa := hy.low.resolve_right (by omega)
      have hbelow : 2 ^ 54 - 1 ≤ 4 * y.mantissa - y.margin := by
        by_cases hpower : y.mantissa = 2 ^ 52
        · rw [margin_of_narrow hpower (by omega)]
          omega
        · omega
      have htwo : 2 ^ 1 ≤ 2 ^ (y.exponent - x.exponent).toNat :=
        Nat.pow_le_pow_right (by decide) (by omega)
      have hle : (2 ^ 54 - 1) * 2 ^ 1 ≤ lower := Nat.mul_le_mul hbelow htwo
      omega
    · have hzero : (y.exponent - x.exponent).toNat = 0 := by omega
      rw [hzero, pow_zero, Nat.mul_one] at hlower
      omega
  have hexp : x.exponent ≤ y.exponent := by omega
  have hunit : (0 : Rat) < 2 ^ (x.exponent - 2) := by positivity
  have hupper' : x.upperEnd = (upper : Rat) * 2 ^ (x.exponent - 2) := by
    rw [upperEnd, hupper]
    push_cast
    rfl
  rw [hupper', lowerEnd_eq hy.pos hexp, ← hlower]
  rcases hnumerators with hnumerators | ⟨hnumerators, hodd⟩
  · exact .inl (mul_lt_mul_of_pos_right (by exact_mod_cast hnumerators) hunit)
  · exact .inr ⟨by rw [hnumerators], hodd⟩

theorem Canonical.not_rounds_of_lt (hx : x.Canonical) (hy : y.Canonical)
    (hlt : x.exponent < y.exponent ∨ x.exponent = y.exponent ∧ x.mantissa < y.mantissa)
    (h : x.Rounds q) (h' : y.Rounds q) : False := by
  rcases hx.ends_apart hy hlt with hapart | ⟨hshared, hodd⟩
  · rcases h.upper with hupper | ⟨hupper, -⟩ <;> rcases h'.lower with hlower | ⟨hlower, -⟩ <;>
      linarith
  · rcases h.upper with hupper | ⟨hupper, heven⟩
    · rcases h'.lower with hlower | ⟨hlower, -⟩ <;> linarith
    · rcases h'.lower with hlower | ⟨-, heven'⟩
      · linarith
      · exact hodd ⟨heven, heven'⟩

theorem Canonical.eq_of_rounds (hx : x.Canonical) (hy : y.Canonical) (h : x.Rounds q)
    (h' : y.Rounds q) : x = y := by
  obtain ⟨m, e⟩ := x
  obtain ⟨m', e'⟩ := y
  rcases lt_trichotomy e e' with hlt | rfl | hgt
  · exact (hx.not_rounds_of_lt hy (.inl hlt) h h').elim
  · rcases lt_trichotomy m m' with hlt | rfl | hgt
    · exact (hx.not_rounds_of_lt hy (.inr ⟨rfl, hlt⟩) h h').elim
    · rfl
    · exact (hy.not_rounds_of_lt hx (.inr ⟨rfl, hgt⟩) h' h).elim
  · exact (hy.not_rounds_of_lt hx (.inl hgt) h' h).elim

theorem value_eq (x : Magnitude) : x.value = 4 * x.mantissa * 2 ^ (x.exponent - 2) := by
  rw [value, zpow_sub₀ two_ne_zero]
  norm_num
  ring

theorem lowerEnd_pos (hx : 0 < x.mantissa) : 0 < x.lowerEnd := by
  have hmargin : (x.margin : Rat) ≤ 2 := by exact_mod_cast x.margin_le.2
  have hone : (1 : Rat) ≤ x.mantissa := by exact_mod_cast hx
  have hnumerator : (0 : Rat) < 4 * x.mantissa - x.margin := by linarith
  exact mul_pos hnumerator (by positivity)

theorem Rounds.pos (h : x.Rounds q) (hx : 0 < x.mantissa) : 0 < q := by
  have hpos := lowerEnd_pos hx
  rcases h.lower with hlower | ⟨hlower, -⟩ <;> linarith

theorem rounds_value (x : Magnitude) : x.Rounds x.value := by
  have hmargin : (1 : Rat) ≤ x.margin := by exact_mod_cast x.margin_le.1
  have hunit : (0 : Rat) < 2 ^ (x.exponent - 2) := by positivity
  rw [value_eq]
  exact ⟨.inl (mul_lt_mul_of_pos_right (by linarith) hunit),
    .inl (mul_lt_mul_of_pos_right (by linarith) hunit)⟩

theorem value_exactly (x : Magnitude) : x.exactly.value = x.value := by
  have hexp : min x.exponent 0 = -((-x.exponent).toNat : Int) := by omega
  have hten : (10 : Rat) ^ (-x.exponent).toNat =
      2 ^ (-x.exponent).toNat * 5 ^ (-x.exponent).toNat := by
    rw [← mul_pow]
    norm_num
  have hpos : (0 : Rat) < 2 ^ (-x.exponent).toNat * 5 ^ (-x.exponent).toNat := by positivity
  have hdigits : x.exactly.digits =
      x.mantissa * 2 ^ x.exponent.toNat * 5 ^ (-x.exponent).toNat := rfl
  have hexponent : x.exactly.exponent = min x.exponent 0 := rfl
  rw [Decimal.value, value, hdigits, hexponent, hexp, zpow_neg, zpow_natCast, hten]
  push_cast
  rw [pow_toNat two_ne_zero x.exponent, ← div_eq_mul_inv, div_eq_iff (ne_of_gt hpos)]
  ring

theorem readsBack_of_onGrid? {grid : Int} {d : Decimal} (h : x.onGrid? grid = some d) :
    x.readsBack d = true := by
  have hcases : (x.readsBack ⟨x.floorAt grid, grid⟩ = true ∧ ⟨x.floorAt grid, grid⟩ = d) ∨
      (x.readsBack ⟨x.floorAt grid + 1, grid⟩ = true ∧ ⟨x.floorAt grid + 1, grid⟩ = d) := by
    unfold onGrid? at h
    cases hlower : x.readsBack ⟨x.floorAt grid, grid⟩ with
    | false =>
      cases hupper : x.readsBack ⟨x.floorAt grid + 1, grid⟩ with
      | false => simp [hlower, hupper] at h
      | true => simpa [hlower, hupper] using h
    | true =>
      cases hupper : x.readsBack ⟨x.floorAt grid + 1, grid⟩ with
      | false => simpa [hlower, hupper] using h
      | true =>
        simp only [hlower, hupper] at h
        split_ifs at h
        · exact .inl ⟨rfl, Option.some.inj h⟩
        · exact .inr ⟨rfl, Option.some.inj h⟩
  obtain ⟨hback, rfl⟩ | ⟨hback, rfl⟩ := hcases
  · exact hback
  · exact hback

theorem rounds_shortest (hx : 0 < x.mantissa) : x.Rounds x.shortest.value := by
  rw [shortest, Decimal.value_strip]
  cases hfound : (List.range 17).findSome? fun (n : Nat) => x.onGrid? (x.scale - 1 - n) with
  | none =>
    rw [Option.getD_none, value_exactly]
    exact x.rounds_value
  | some d =>
    obtain ⟨n, -, hd⟩ := List.exists_of_findSome?_eq_some hfound
    exact (readsBack_iff hx d).mp (readsBack_of_onGrid? hd)

theorem Canonical.eq_of_value_shortest (hx : x.Canonical) (hy : y.Canonical)
    (h : x.shortest.value = y.shortest.value) : x = y := by
  have hrounds := rounds_shortest hx.pos
  rw [h] at hrounds
  exact hx.eq_of_rounds hy hrounds (rounds_shortest hy.pos)

end Magnitude

end LinearModel.Text
