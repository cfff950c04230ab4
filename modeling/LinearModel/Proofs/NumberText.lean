import LinearModel.Proofs.Doubles
import LinearModel.Proofs.Shortest
import LinearModel.Text.Number

/-!
# What the text of a number tells

A decimal written without an exponent is read back with its value. A float is written as a sign and
the decimal that was chosen for it, and no other float is rounded to from that decimal: so the text
tells which float it was.
-/

namespace LinearModel.Text

/-! ## Digits -/

def Digits (w : List Char) : Prop :=
  ∀ c ∈ w, c.isDigit = true

theorem Digits.append {w f : List Char} (hw : Digits w) (hf : Digits f) : Digits (w ++ f) :=
  List.forall_mem_append.mpr ⟨hw, hf⟩

theorem digits_replicate_zero (n : Nat) : Digits (List.replicate n '0') := by
  intro c hc
  rw [List.eq_of_mem_replicate hc]
  rfl

theorem digits_repr (n : Nat) : Digits n.repr.toList := by
  intro c hc
  rw [Nat.toList_repr] at hc
  exact Nat.isDigit_of_mem_toDigits (by decide) (by decide) hc

theorem digitsValue_eq (s : List Char) : digitsValue s = Nat.ofDigitChars 10 s 0 :=
  rfl

theorem digitsValue_repr (n : Nat) : digitsValue n.repr.toList = n := by
  rw [digitsValue_eq, Nat.toList_repr, Nat.ofDigitChars_ten_toDigits]

/-- Zeros in front do not count. -/
theorem digitsValue_replicate_append (n : Nat) (s : List Char) :
    digitsValue (List.replicate n '0' ++ s) = digitsValue s := by
  rw [digitsValue_eq, Nat.ofDigitChars_append, Nat.ofDigitChars_replicate_zero, Nat.mul_zero,
    digitsValue_eq]

theorem digitsValue_append_replicate (s : List Char) (n : Nat) :
    digitsValue (s ++ List.replicate n '0') = 10 ^ n * digitsValue s := by
  rw [digitsValue_eq, Nat.ofDigitChars_append, Nat.ofDigitChars_replicate_zero, digitsValue_eq]

theorem spanDigits_append {w s : List Char} (hw : Digits w)
    (hs : ∀ c ∈ s.head?, c.isDigit = false) : spanDigits (w ++ s) = (w, s) := by
  rw [spanDigits, List.span_eq_takeWhile_dropWhile, List.takeWhile_append_of_pos hw,
    List.dropWhile_append_of_pos hw]
  cases s with
  | nil => simp
  | cons c s =>
    have hc : c.isDigit = false := hs c rfl
    simp [hc]

theorem spanDigits_digits {w : List Char} (hw : Digits w) : spanDigits w = (w, []) := by
  have hspan := spanDigits_append (s := []) hw (by simp)
  rwa [List.append_nil] at hspan

/-! ## Decimals -/

/-- The text is of the number `v`: digits, or digits around a point. -/
inductive Spells (v : Rat) : List Char → Prop
  | whole {w : List Char} (hne : w ≠ []) (hw : Digits w) (hv : v = digitsValue w) : Spells v w
  | fraction {w f : List Char} (hne : w ≠ []) (hw : Digits w) (hf : Digits f)
      (hv : v = digitsValue (w ++ f) * 10 ^ (-f.length : Int)) : Spells v (w ++ '.' :: f)

namespace Spells

variable {v v' : Rat} {s : List Char}

theorem exists_readDecimal? (h : Spells v s) : ∃ d, readDecimal? s = some d ∧ d.value = v := by
  cases h with
  | whole hne hw hv =>
    refine ⟨⟨digitsValue s, 0⟩, ?_, ?_⟩
    · simp [readDecimal?, spanDigits_digits hw, readExponent?, hne]
    · rw [hv, Decimal.value, zpow_zero, mul_one]
  | @fraction w f hne hw hf hv =>
    have hspan : spanDigits (w ++ '.' :: f) = (w, '.' :: f) := spanDigits_append hw (by simp)
    refine ⟨⟨digitsValue (w ++ f), -f.length⟩, ?_, ?_⟩
    · simp [readDecimal?, hspan, spanDigits_digits hf, readExponent?, hne]
    · rw [hv, Decimal.value]

theorem unique (h : Spells v s) (h' : Spells v' s) : v = v' := by
  obtain ⟨d, hread, rfl⟩ := h.exists_readDecimal?
  obtain ⟨d', hread', rfl⟩ := h'.exists_readDecimal?
  rw [Option.some.inj (hread.symm.trans hread')]

theorem digit_or_point (h : Spells v s) {c : Char} (hc : c ∈ s) : c.isDigit = true ∨ c = '.' := by
  cases h with
  | whole hne hw hv => exact .inl (hw c hc)
  | fraction hne hw hf hv =>
    rcases List.mem_append.mp hc with hmem | hmem
    · exact .inl (hw c hmem)
    · rcases List.mem_cons.mp hmem with heq | hmem
      · exact .inr heq
      · exact .inl (hf c hmem)

end Spells

namespace Decimal

variable {d : Decimal}

theorem digits_text (d : Decimal) : Digits d.text.toList :=
  digits_repr d.digits

theorem digitsValue_text (d : Decimal) : digitsValue d.text.toList = d.digits :=
  digitsValue_repr d.digits

theorem point_eq (d : Decimal) : d.point = d.text.toList.length + d.exponent := by
  rw [point, String.length_toList]

theorem spells_point_before (h : d.point ≤ 0) : Spells d.value (d.positional "").toList := by
  have hpoint := d.point_eq
  set f := List.replicate (-d.point).toNat '0' ++ d.text.toList with hf
  have htext : (d.positional "").toList = List.replicate 1 '0' ++ '.' :: f := by
    simp only [positional, if_pos h, String.toList_append, zeros, String.toList_ofList, hf]
    rfl
  have hread : digitsValue (List.replicate 1 '0' ++ f) = d.digits := by
    rw [digitsValue_replicate_append, hf, digitsValue_replicate_append, digitsValue_text]
  have hlength : (-f.length : Int) = d.exponent := by
    rw [hf, List.length_append, List.length_replicate]
    omega
  rw [htext]
  apply Spells.fraction
  · exact List.cons_ne_nil _ _
  · exact digits_replicate_zero 1
  · exact (digits_replicate_zero _).append d.digits_text
  · rw [hread, hlength, value]

theorem spells_point_behind (hpos : 0 < d.point) (h : d.text.toList.length ≤ d.point.toNat) :
    Spells d.value (d.positional "").toList := by
  have hpoint := d.point_eq
  set n := d.point.toNat - d.text.toList.length with hn
  have htext : (d.positional "").toList = d.text.toList ++ List.replicate n '0' := by
    simp only [positional, if_neg (Int.not_le.mpr hpos), if_pos h, String.toList_append, zeros,
      String.toList_ofList, hn]
    exact List.append_nil _
  have hexponent : d.exponent = n := by omega
  rw [htext]
  apply Spells.whole
  · have hne : d.text.toList ≠ [] := by
      rw [text, Nat.toList_repr]
      exact Nat.toDigits_ne_nil
    exact List.append_ne_nil_of_left_ne_nil hne _
  · exact d.digits_text.append (digits_replicate_zero n)
  · rw [digitsValue_append_replicate, digitsValue_text, value, hexponent, zpow_natCast]
    push_cast
    ring

theorem spells_point_between (hpos : 0 < d.point) (h : d.point.toNat < d.text.toList.length) :
    Spells d.value (d.positional "").toList := by
  have hpoint := d.point_eq
  set w := d.text.toList.take d.point.toNat with hw
  set f := d.text.toList.drop d.point.toNat with hf
  have hsplit : w ++ f = d.text.toList := List.take_append_drop _ _
  have htext : (d.positional "").toList = w ++ '.' :: f := by
    simp only [positional, if_neg (Int.not_le.mpr hpos), if_neg (Nat.not_le.mpr h),
      String.toList_append, String.toList_ofList, hw, hf]
    exact List.append_assoc _ _ _
  have hlength : (-f.length : Int) = d.exponent := by
    rw [hf, List.length_drop]
    omega
  have hdigits : Digits (w ++ f) := by
    rw [hsplit]
    exact d.digits_text
  rw [htext]
  apply Spells.fraction
  · intro hnil
    have hzero : w.length = 0 := congrArg List.length hnil
    rw [hw, List.length_take] at hzero
    omega
  · exact (List.forall_mem_append.mp hdigits).1
  · exact (List.forall_mem_append.mp hdigits).2
  · rw [hsplit, digitsValue_text, hlength, value]

/-- The point stands before the digits, behind them or between two of them. -/
theorem spells_positional (d : Decimal) : Spells d.value (d.positional "").toList := by
  by_cases hbefore : d.point ≤ 0
  · exact spells_point_before hbefore
  · by_cases hbehind : d.text.toList.length ≤ d.point.toNat
    · exact spells_point_behind (Int.not_le.mp hbefore) hbehind
    · exact spells_point_between (Int.not_le.mp hbefore) (Nat.not_le.mp hbehind)

end Decimal

/-! ## Floats -/

/-- The characters of the text of a number. -/
def Numeric (c : Char) : Prop :=
  c.isDigit = true ∨ c ∈ ['.', '-', 'i', 'n', 'f']

instance (c : Char) : Decidable (Numeric c) :=
  inferInstanceAs (Decidable (_ ∨ _))

namespace Reading

def negative : Reading → Bool
  | .nan => false
  | .infinite negative | .zero negative | .nonzero negative _ => negative

def unsigned : Reading → String
  | .nan => "NaN"
  | .infinite _ => "inf"
  | .zero _ => "0"
  | .nonzero _ m => m.shortest.positional ""

/-- The number that the digits spell. -/
def size? : Reading → Option Rat
  | .nan | .infinite _ => none
  | .zero _ => some 0
  | .nonzero _ m => some m.shortest.value

def Canonical : Reading → Prop
  | .nan | .infinite _ | .zero _ => True
  | .nonzero _ m => m.Canonical

variable {r r' : Reading} {c : Char}

theorem numeric_unsigned (hr : r ≠ .nan) (hc : c ∈ r.unsigned.toList) : Numeric c ∧ c ≠ '-' := by
  cases r with
  | nan => exact absurd rfl hr
  | infinite negative =>
    have hletters : ∀ c ∈ "inf".toList, Numeric c ∧ c ≠ '-' := by simp [Numeric]
    exact hletters c hc
  | zero negative =>
    have hdigit : ∀ c ∈ "0".toList, Numeric c ∧ c ≠ '-' := by simp [Numeric]
    exact hdigit c hc
  | nonzero negative m =>
    rcases m.shortest.spells_positional.digit_or_point hc with hdigit | rfl
    · refine ⟨.inl hdigit, ?_⟩
      rintro rfl
      cases hdigit
    · decide

theorem size?_eq (r : Reading) : (readDecimal? r.unsigned.toList).map Decimal.value = r.size? := by
  have hspelled {v : Rat} {s : List Char} (h : Spells v s) :
      (readDecimal? s).map Decimal.value = some v := by
    obtain ⟨d, hread, rfl⟩ := h.exists_readDecimal?
    rw [hread]
    rfl
  cases r with
  | nan | infinite => simp only [unsigned]; rfl
  | zero negative =>
    have hzero : Spells 0 "0".toList := .whole (by decide) (digits_replicate_zero 1) rfl
    exact hspelled hzero
  | nonzero negative m => exact hspelled m.shortest.spells_positional

theorem unsigned_eq_nan (h : r.unsigned = "NaN") : r = .nan := by
  by_contra hr
  have hmem : 'N' ∈ r.unsigned.toList := by
    rw [h]
    decide
  have hnumeric := (numeric_unsigned hr hmem).1
  revert hnumeric
  decide

/-- Sign and digits tell which float it is: no decimal reads back as two. -/
theorem Canonical.eq_of_unsigned (hr : r.Canonical) (hr' : r'.Canonical)
    (hsign : r.negative = r'.negative) (h : r.unsigned = r'.unsigned) : r = r' := by
  have hsize : r.size? = r'.size? := by rw [← size?_eq, ← size?_eq, h]
  have hpos {m : Magnitude} (hm : m.Canonical) : m.shortest.value ≠ 0 :=
    ne_of_gt ((m.rounds_shortest hm.pos).pos hm.pos)
  cases r with
  | nan => exact (unsigned_eq_nan h.symm).symm
  | infinite negative =>
    cases r' with
    | nan => exact unsigned_eq_nan h
    | infinite negative' => exact congrArg infinite hsign
    | zero | nonzero => cases hsize
  | zero negative =>
    cases r' with
    | nan | infinite => cases hsize
    | zero negative' => exact congrArg zero hsign
    | nonzero negative' m' => exact absurd (Option.some.inj hsize).symm (hpos hr')
  | nonzero negative m =>
    cases r' with
    | nan | infinite => cases hsize
    | zero negative' => exact absurd (Option.some.inj hsize) (hpos hr)
    | nonzero negative' m' =>
      rw [Magnitude.Canonical.eq_of_value_shortest hr hr' (Option.some.inj hsize)]
      exact congrArg (nonzero · m') hsign

section Unpacked

open Float.Model (UnpackedFloat)
open Float.Model.UnpackedFloat (Sign)

def ofUnpacked : UnpackedFloat → Reading
  | .notANumber => .nan
  | .infinity sign => .infinite (sign matches .negative)
  | .zero sign => .zero (sign matches .negative)
  | .finite sign mantissa exponent _ => .nonzero (sign matches .negative) ⟨mantissa, exponent⟩

theorem ofFloat_eq (x : Float) : ofFloat x = ofUnpacked (Double.unpacked x) :=
  rfl

theorem ofUnpacked_injective : Function.Injective ofUnpacked := by
  have hsign {s s' : Sign} (h : (s matches .negative) = (s' matches .negative)) : s = s' := by
    cases s <;> cases s' <;> first | rfl | cases h
  intro u v h
  cases u with
  | notANumber =>
    cases v with
    | notANumber => rfl
    | infinity | zero | finite => cases h
  | infinity s =>
    cases v with
    | infinity s' => rw [hsign (infinite.inj h)]
    | notANumber | zero | finite => cases h
  | zero s =>
    cases v with
    | zero s' => rw [hsign (zero.inj h)]
    | notANumber | infinity | finite => cases h
  | finite s m e hm =>
    cases v with
    | finite s' m' e' hm' =>
      obtain ⟨hnegative, hmagnitude⟩ := nonzero.inj h
      obtain ⟨rfl, rfl⟩ := Magnitude.mk.inj hmagnitude
      rw [hsign hnegative]
    | notANumber | infinity | zero => cases h

end Unpacked

theorem ofFloat_injective : Function.Injective ofFloat :=
  ofUnpacked_injective.comp Double.unpacked_injective

theorem canonical_ofFloat (x : Float) : (ofFloat x).Canonical := by
  have hcanonical := Double.canonical_unpacked x
  rw [ofFloat_eq]
  cases hunpacked : Double.unpacked x with
  | notANumber | infinity | zero => trivial
  | finite s m e hm =>
    rw [hunpacked, Double.canonical_finite] at hcanonical
    obtain ⟨hleast, hfits, hform⟩ := hcanonical
    have hhigh : m < 2 ^ 53 := (Nat.log2_lt (Nat.ne_of_gt hm)).mp (by omega)
    have hlow : m.log2 = 52 → 2 ^ 52 ≤ m := fun hlog =>
      ((Nat.log2_eq_iff (Nat.ne_of_gt hm)).mp hlog).1
    exact ⟨hm, hhigh, hleast, hform.imp_left hlow⟩

theorem ofFloat_eq_nan_iff {x : Float} : ofFloat x = .nan ↔ x.isNaN = true := by
  rw [← Double.unpacked_eq_notANumber_iff, ofFloat_eq]
  exact ofUnpacked_injective.eq_iff (b := .notANumber)

end Reading

theorem plainFloat_eq (x : Float) :
    plainFloat x = signed (Reading.ofFloat x).negative (Reading.ofFloat x).unsigned := by
  unfold plainFloat
  cases Reading.ofFloat x <;> rfl

theorem toList_signed_true (t : String) : (signed true t).toList = '-' :: t.toList :=
  String.toList_append

/-- What is signed starts with no minus sign of its own. -/
theorem eq_of_signed {n n' : Bool} {t t' : String} (ht : '-' ∉ t.toList) (ht' : '-' ∉ t'.toList)
    (h : signed n t = signed n' t') : n = n' ∧ t = t' := by
  cases n with
  | false =>
    cases n' with
    | false => exact ⟨rfl, h⟩
    | true =>
      have hlist : t.toList = '-' :: t'.toList :=
        (congrArg String.toList h).trans (toList_signed_true t')
      rw [hlist] at ht
      exact absurd List.mem_cons_self ht
  | true =>
    have hlist : '-' :: t.toList = (signed n' t').toList := by rw [← toList_signed_true, h]
    cases n' with
    | false =>
      have hmem : '-' ∈ t'.toList := hlist ▸ List.mem_cons_self
      exact absurd hmem ht'
    | true =>
      rw [toList_signed_true] at hlist
      exact ⟨rfl, String.toList_injective (List.cons.inj hlist).2⟩

theorem minus_not_mem_unsigned (r : Reading) : '-' ∉ r.unsigned.toList := by
  intro hmem
  by_cases hr : r = .nan
  · subst hr
    revert hmem
    decide
  · exact (Reading.numeric_unsigned hr hmem).2 rfl

theorem plainFloat_injective : Function.Injective plainFloat := by
  intro x y h
  rw [plainFloat_eq, plainFloat_eq] at h
  obtain ⟨hsign, hunsigned⟩ :=
    eq_of_signed (minus_not_mem_unsigned _) (minus_not_mem_unsigned _) h
  apply Reading.ofFloat_injective
  exact (Reading.canonical_ofFloat x).eq_of_unsigned (Reading.canonical_ofFloat y) hsign hunsigned

theorem numeric_of_mem_plainFloat {x : Float} (hx : x.isNaN = false) {c : Char}
    (hc : c ∈ (plainFloat x).toList) : Numeric c := by
  have hr : Reading.ofFloat x ≠ .nan := by
    intro hnan
    rw [Reading.ofFloat_eq_nan_iff.mp hnan] at hx
    cases hx
  rw [plainFloat_eq] at hc
  cases hsign : (Reading.ofFloat x).negative with
  | false =>
    rw [hsign] at hc
    exact (Reading.numeric_unsigned hr hc).1
  | true =>
    rw [hsign, toList_signed_true] at hc
    rcases List.mem_cons.mp hc with rfl | hmem
    · decide
    · exact (Reading.numeric_unsigned hr hmem).1

end LinearModel.Text
