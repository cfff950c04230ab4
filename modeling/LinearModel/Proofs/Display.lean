import LinearModel.Proofs.NumberText
import LinearModel.Proofs.Pointwise

/-!
# Telling expressions apart by their texts

The text of an expression is a line of words with blanks between them: two words for a term, one for
the constant, and plus signs between these groups. No number and no variable is written with a blank
or a plus sign, so the groups are found again in the text, and a group of two words is a term.
-/

namespace LinearModel

open Text (plainFloat Numeric)

/-! ## Lines of words -/

section Intercalate

variable {α : Type}

theorem intercalate_append (sep : List α) {ls ms : List (List α)} (hls : ls ≠ []) (hms : ms ≠ []) :
    sep.intercalate (ls ++ ms) = sep.intercalate ls ++ sep ++ sep.intercalate ms := by
  induction ls with
  | nil => exact absurd rfl hls
  | cons l ls ih =>
    by_cases hnil : ls = []
    · subst hnil
      rw [List.singleton_append, List.intercalate_cons_of_ne_nil hms, List.intercalate_singleton]
    · rw [List.cons_append,
        List.intercalate_cons_of_ne_nil (List.append_ne_nil_of_left_ne_nil hnil ms), ih hnil,
        List.intercalate_cons_of_ne_nil hnil]
      simp only [List.append_assoc]

theorem intercalate_ne_nil (sep : List α) {ls : List (List α)} (hls : ls ≠ [])
    (h : ∀ l ∈ ls, l ≠ []) : sep.intercalate ls ≠ [] := by
  cases ls with
  | nil => exact absurd rfl hls
  | cons l ls =>
    have hl : l ≠ [] := h l List.mem_cons_self
    by_cases hnil : ls = []
    · rwa [hnil, List.intercalate_singleton]
    · rw [List.intercalate_cons_of_ne_nil hnil, List.append_assoc]
      exact List.append_ne_nil_of_left_ne_nil hl _

theorem mem_intercalate {sep : List α} {ls : List (List α)} {x : α}
    (h : x ∈ sep.intercalate ls) : x ∈ sep ∨ ∃ l ∈ ls, x ∈ l := by
  induction ls with
  | nil => cases h
  | cons l ls ih =>
    by_cases hnil : ls = []
    · rw [hnil, List.intercalate_singleton] at h
      exact .inr ⟨l, List.mem_cons_self, h⟩
    · rw [List.intercalate_cons_of_ne_nil hnil, List.append_assoc, List.mem_append,
        List.mem_append] at h
      rcases h with hmem | hmem | hmem
      · exact .inr ⟨l, List.mem_cons_self, hmem⟩
      · exact .inl hmem
      · refine (ih hmem).imp_right ?_
        rintro ⟨l', hl', hx⟩
        exact ⟨l', List.mem_cons_of_mem l hl', hx⟩

/-- A line of groups of words, with a word between the groups. -/
theorem intercalate_intercalate (a : α) (w : List α) {gs : List (List (List α))}
    (h : ∀ g ∈ gs, g ≠ []) :
    [a].intercalate ([w].intercalate gs) =
      (a :: w ++ [a]).intercalate (gs.map [a].intercalate) := by
  induction gs with
  | nil => rfl
  | cons g gs ih =>
    have hg : g ≠ [] := h g List.mem_cons_self
    have hgs : ∀ g ∈ gs, g ≠ [] := fun g hg => h g (List.mem_cons_of_mem _ hg)
    by_cases hnil : gs = []
    · rw [hnil]
      simp only [List.map_cons, List.map_nil, List.intercalate_singleton]
    · have hrest : [w].intercalate gs ≠ [] := intercalate_ne_nil [w] hnil hgs
      have hmap : gs.map [a].intercalate ≠ [] := by rwa [Ne, List.map_eq_nil_iff]
      rw [List.intercalate_cons_of_ne_nil hnil, List.append_assoc, List.singleton_append,
        intercalate_append [a] hg (List.cons_ne_nil w _), List.intercalate_cons_of_ne_nil hrest,
        ih hgs, List.map_cons, List.intercalate_cons_of_ne_nil hmap]
      simp only [List.append_assoc, List.cons_append, List.nil_append]

end Intercalate

/-- What stands between the numbers, and the character that every symbol of a sense has. -/
def marks : List Char :=
  [' ', '+', '=']

theorem unmarked_of_numeric {c : Char} (h : Numeric c) : c ∉ marks := by
  intro hc
  fin_cases hc <;> revert h <;> decide

theorem unmarked_plainFloat (x : Float) : ∀ c ∈ (plainFloat x).toList, c ∉ marks := by
  intro c hc
  by_cases hx : x.isNaN = true
  · have hnan : plainFloat x = "NaN" := by
      rw [plainFloat, Text.Reading.ofFloat_eq_nan_iff.mpr hx]
    have hletters : ∀ c ∈ "NaN".toList, c ∉ marks := by simp [marks]
    rw [hnan] at hc
    exact hletters c hc
  · exact unmarked_of_numeric (Text.numeric_of_mem_plainFloat (Bool.eq_false_of_not_eq_true hx) hc)

theorem unmarked_variable (id : Nat) : ∀ c ∈ 'x' :: id.repr.toList, c ∉ marks := by
  intro c hc
  rcases List.mem_cons.mp hc with rfl | hmem
  · decide
  · exact unmarked_of_numeric (.inl (Text.digits_repr id c hmem))

namespace Expr

def termWords (t : Nat × Float) : List (List Char) :=
  [(plainFloat t.2).toList, 'x' :: t.1.repr.toList]

theorem termWords_injective : Function.Injective termWords := by
  intro t u h
  obtain ⟨hcoefficient, hvariable⟩ := List.cons.inj h
  have hid : t.1 = u.1 := by
    have hdigits : t.1.repr.toList = u.1.repr.toList :=
      (List.cons.inj (List.cons.inj hvariable).1).2
    rw [← Text.digitsValue_repr t.1, hdigits, Text.digitsValue_repr]
  have hc : t.2 = u.2 := Text.plainFloat_injective (String.toList_injective hcoefficient)
  exact Prod.ext hid hc

/-- The constant is left out if it is zero and there is a term. -/
def constantWords (e : Expr Float) : List (List (List Char)) :=
  if e.terms ≠ [] ∧ (e.constant == 0) = true then [] else [[(plainFloat e.constant).toList]]

def groups (e : Expr Float) : List (List (List Char)) :=
  e.terms.map termWords ++ e.constantWords

def words (e : Expr Float) : List (List Char) :=
  [['+']].intercalate e.groups

variable {e f : Expr Float}

theorem mem_constantWords {g : List (List Char)} (hg : g ∈ e.constantWords) :
    [(plainFloat e.constant).toList] = g := by
  unfold constantWords at hg
  split_ifs at hg
  · cases hg
  · exact (List.mem_singleton.mp hg).symm

theorem mem_groups {g : List (List Char)} (hg : g ∈ e.groups) :
    (∃ t ∈ e.terms, termWords t = g) ∨ [(plainFloat e.constant).toList] = g :=
  (List.mem_append.mp hg).imp List.mem_map.mp mem_constantWords

theorem groups_ne_nil (e : Expr Float) : e.groups ≠ [] := by
  by_cases hterms : e.terms = []
  · have hconstant : ¬(e.terms ≠ [] ∧ (e.constant == 0) = true) := fun h => h.1 hterms
    rw [groups, constantWords, if_neg hconstant]
    exact List.append_ne_nil_of_right_ne_nil _ (List.cons_ne_nil _ _)
  · apply List.append_ne_nil_of_left_ne_nil
    rwa [Ne, List.map_eq_nil_iff]

theorem ne_nil_of_mem_groups {g : List (List Char)} (hg : g ∈ e.groups) : g ≠ [] := by
  obtain ⟨t, -, rfl⟩ | rfl := mem_groups hg
  · exact List.cons_ne_nil _ _
  · exact List.cons_ne_nil _ _

theorem unmarked_of_mem_groups {g : List (List Char)} (hg : g ∈ e.groups) {w : List Char}
    (hw : w ∈ g) : ∀ c ∈ w, c ∉ marks := by
  obtain ⟨t, -, rfl⟩ | rfl := mem_groups hg
  · rcases List.mem_cons.mp hw with rfl | hw
    · exact unmarked_plainFloat t.2
    · rw [List.mem_singleton.mp hw]
      exact unmarked_variable t.1
  · rw [List.mem_singleton.mp hw]
    exact unmarked_plainFloat e.constant

theorem words_ne_nil (e : Expr Float) : e.words ≠ [] :=
  intercalate_ne_nil _ e.groups_ne_nil fun _ => ne_nil_of_mem_groups

theorem not_mem_word {w : List Char} (hw : w ∈ e.words) : ' ' ∉ w ∧ '=' ∉ w := by
  rcases mem_intercalate hw with hplus | ⟨g, hg, hmem⟩
  · rw [List.mem_singleton.mp hplus]
    decide
  · have hunmarked := unmarked_of_mem_groups hg hmem
    exact ⟨fun h => hunmarked _ h (by decide), fun h => hunmarked _ h (by decide)⟩

theorem groups_eq_of_words (h : e.words = f.words) : e.groups = f.groups := by
  have hsplit (e : Expr Float) : e.words.splitOn ['+'] = e.groups := by
    apply List.splitOn_intercalate
    · intro g hg hplus
      exact unmarked_of_mem_groups hg hplus '+' List.mem_cons_self (by decide)
    · exact e.groups_ne_nil
  rw [← hsplit, h, hsplit]

/-- A term is a group of two words, the constant is one of a single word. -/
theorem filter_groups (e : Expr Float) :
    e.groups.filter (·.length == 2) = e.terms.map termWords := by
  have hkept : (e.terms.map termWords).filter (·.length == 2) = e.terms.map termWords := by
    rw [List.filter_eq_self]
    intro g hg
    obtain ⟨t, -, rfl⟩ := List.mem_map.mp hg
    rfl
  have hdropped : e.constantWords.filter (·.length == 2) = [] := by
    rw [List.filter_eq_nil_iff]
    intro g hg
    obtain rfl := mem_constantWords hg
    exact Bool.false_ne_true
  rw [groups, List.filter_append, hkept, hdropped, List.append_nil]

theorem eq_of_groups (h : e.groups = f.groups) :
    e.terms = f.terms ∧ e.constantWords = f.constantWords := by
  have hterms : e.terms = f.terms := by
    apply List.map_injective_iff.mpr termWords_injective
    rw [← filter_groups, h, filter_groups]
  refine ⟨hterms, ?_⟩
  rw [groups, groups, hterms] at h
  exact List.append_cancel_left h

def termText (t : Nat × Float) : String :=
  s!"{plainFloat t.2} x{t.1}"

theorem toList_termText (t : Nat × Float) :
    (termText t).toList = [' '].intercalate (termWords t) := by
  have htext : termText t = plainFloat t.2 ++ " x" ++ t.1.repr := by
    rfl
  rw [htext, String.toList_append, String.toList_append, List.append_assoc, termWords,
    List.intercalate_cons_cons, List.intercalate_singleton, List.append_assoc]
  rfl

theorem display_eq (e : Expr Float) :
    e.display = if e.terms.isEmpty then plainFloat e.constant
      else " + ".intercalate (if e.constant == 0 then e.terms.map termText
        else e.terms.map termText ++ [plainFloat e.constant]) :=
  rfl

theorem toList_display (e : Expr Float) : e.display.toList = [' '].intercalate e.words := by
  have hmap : (e.terms.map termText).map String.toList =
      (e.terms.map termWords).map [' '].intercalate := by
    rw [List.map_map, List.map_map]
    exact List.map_congr_left fun t _ => toList_termText t
  have hsep : " + ".toList = ' ' :: ['+'] ++ [' '] := by
    rfl
  rw [words, intercalate_intercalate _ _ fun _ => ne_nil_of_mem_groups, groups, List.map_append,
    ← hmap, constantWords, display_eq]
  by_cases hterms : e.terms = []
  · simp [hterms]
  · by_cases hzero : (e.constant == 0) = true
    · simp [hterms, hzero, hsep]
    · simp [hterms, hzero, hsep]

theorem words_of_display (e : Expr Float) : e.display.toList.splitOn ' ' = e.words := by
  rw [toList_display]
  apply List.splitOn_intercalate
  · intro w hw
    exact (not_mem_word hw).1
  · exact e.words_ne_nil

theorem display_eq_iff_words : e.display = f.display ↔ e.words = f.words := by
  constructor
  · intro h
    rw [← words_of_display, h, words_of_display]
  · intro h
    apply String.toList_injective
    rw [toList_display, toList_display, h]

theorem constantWords_eq_iff (hterms : e.terms = f.terms) :
    e.constantWords = f.constantWords ↔ e.constant = f.constant ∨
      e.terms ≠ [] ∧ (e.constant == 0) = true ∧ (f.constant == 0) = true := by
  rw [constantWords, constantWords, ← hterms]
  by_cases heq : e.constant = f.constant
  · rw [heq]
    exact iff_of_true rfl (.inl rfl)
  · have hprinted : [[(plainFloat e.constant).toList]] ≠ [[(plainFloat f.constant).toList]] := by
      intro h
      have htext := (List.cons.inj (List.cons.inj h).1).1
      exact heq (Text.plainFloat_injective (String.toList_injective htext))
    rw [or_iff_right heq]
    split_ifs with he hf hf
    · exact iff_of_true rfl ⟨he.1, he.2, hf.2⟩
    · exact iff_of_false not_false fun h => hf ⟨h.1, h.2.2⟩
    · exact iff_of_false not_false fun h => he ⟨h.1, h.2.1⟩
    · exact iff_of_false hprinted fun h => he ⟨h.1, h.2.1⟩

/-- The texts are equal for equal terms and constants, and do not tell the zeros of a constant after
a term apart. -/
theorem display_eq_iff : e.display = f.display ↔ e.terms = f.terms ∧ (e.constant = f.constant ∨
    e.terms ≠ [] ∧ (e.constant == 0) = true ∧ (f.constant == 0) = true) := by
  rw [display_eq_iff_words]
  constructor
  · intro h
    obtain ⟨hterms, hconstant⟩ := eq_of_groups (groups_eq_of_words h)
    exact ⟨hterms, (constantWords_eq_iff hterms).mp hconstant⟩
  · rintro ⟨hterms, hconstant⟩
    rw [words, words, groups, groups, hterms, (constantWords_eq_iff hterms).mpr hconstant]

end Expr

namespace Sense

theorem symbol_injective : Function.Injective symbol := by
  intro s s' h
  cases s <;> cases s' <;> first | rfl | exact absurd h (by decide)

theorem mem_symbol (s : Sense) : '=' ∈ s.symbol.toList ∧ ' ' ∉ s.symbol.toList := by
  cases s <;> simp [symbol]

end Sense

namespace Constraint

def words (c : Constraint Float) : List (List Char) :=
  c.lhs.words ++ c.sense.symbol.toList :: c.rhs.words

variable {c d : Constraint Float}

theorem toList_display (c : Constraint Float) :
    c.display.toList = [' '].intercalate c.words := by
  have htext : c.display =
      c.lhs.display ++ " " ++ c.sense.symbol ++ " " ++ c.rhs.display := by
    rfl
  rw [words, intercalate_append _ c.lhs.words_ne_nil (List.cons_ne_nil _ _),
    List.intercalate_cons_of_ne_nil c.rhs.words_ne_nil, ← Expr.toList_display,
    ← Expr.toList_display, htext]
  simp only [String.toList_append, List.append_assoc]
  rfl

theorem words_of_display (c : Constraint Float) : c.display.toList.splitOn ' ' = c.words := by
  rw [toList_display]
  apply List.splitOn_intercalate
  · intro w hw
    rcases List.mem_append.mp hw with hmem | hmem
    · exact (Expr.not_mem_word hmem).1
    · rcases List.mem_cons.mp hmem with rfl | hmem
      · exact c.sense.mem_symbol.2
      · exact (Expr.not_mem_word hmem).1
  · exact List.append_ne_nil_of_left_ne_nil c.lhs.words_ne_nil _

/-- The symbol is the only word with an equals sign. -/
theorem display_eq_iff : c.display = d.display ↔
    c.sense = d.sense ∧ c.lhs.display = d.lhs.display ∧ c.rhs.display = d.rhs.display := by
  have hsymbol (s : Sense) (e : Expr Float) : s.symbol.toList ∉ e.words := by
    intro hmem
    exact (Expr.not_mem_word hmem).2 s.mem_symbol.1
  constructor
  · intro h
    have hwords : c.words = d.words := by rw [← words_of_display, h, words_of_display]
    obtain ⟨hlhs, hsense, hrhs⟩ :=
      (List.append_cons_inj_of_notMem (hsymbol _ _) (hsymbol _ _)).mp hwords
    exact ⟨Sense.symbol_injective (String.toList_injective hsense),
      Expr.display_eq_iff_words.mpr hlhs, Expr.display_eq_iff_words.mpr hrhs⟩
  · rintro ⟨hsense, hlhs, hrhs⟩
    rw [display, display, hsense, hlhs, hrhs]

end Constraint

/-! ## Texts and equality -/

def SameNumber (c d : Float) : Prop :=
  c = d ∨ (c == 0) = true ∧ (d == 0) = true

theorem Terms.beq_iff_eq {ts us : Terms Float} (hts : ∀ t ∈ ts, t.2.isNaN = false)
    (hus : us.Nonzero) : Terms.beq ts us = true ↔ ts = us := by
  induction ts generalizing us with
  | nil =>
    cases us with
    | nil => simp [Terms.beq]
    | cons u us => simp [Terms.beq]
  | cons t ts ih =>
    obtain ⟨i, c⟩ := t
    have hc : c.isNaN = false := hts (i, c) List.mem_cons_self
    cases us with
    | nil => simp [Terms.beq]
    | cons u us =>
      obtain ⟨j, d⟩ := u
      have hd : (d == 0) = false := hus (j, d) List.mem_cons_self
      have hcd : (c == d) = true ↔ c = d := by
        constructor
        · intro h
          exact Double.eq_of_beq h hd
        · rintro rfl
          exact (Double.beq_iff_eq_or_zeros hc hc).mpr (.inl rfl)
      rw [beq_cons, hcd, ih (fun t ht => hts t (List.mem_cons_of_mem _ ht))
        (fun u hu => hus u (List.mem_cons_of_mem _ hu)), List.cons.injEq, Prod.mk.injEq, and_assoc]

namespace Expr

structure Defined (e : Expr Float) : Prop where
  terms : ∀ t ∈ e.terms, t.2.isNaN = false
  constant : e.constant.isNaN = false

instance (e : Expr Float) : Decidable e.Defined :=
  decidable_of_iff ((∀ t ∈ e.terms, t.2.isNaN = false) ∧ e.constant.isNaN = false)
    ⟨fun ⟨hterms, hconstant⟩ => ⟨hterms, hconstant⟩,
      fun ⟨hterms, hconstant⟩ => ⟨hterms, hconstant⟩⟩

/-- Constants alone, zero and minus zero. -/
def OppositeZeros (a b : Expr Float) : Prop :=
  a.terms = [] ∧ b.terms = [] ∧
    (a.constant = 0 ∧ b.constant = -0 ∨ a.constant = -0 ∧ b.constant = 0)

variable {a b : Expr Float}

theorem Defined.beq_iff (ha : a.Defined) (hb : b.Defined) (hbuilt : b.Built) :
    (a == b) = true ↔ a.terms = b.terms ∧ SameNumber a.constant b.constant := by
  have hsplit : (a == b) = true ↔
      Terms.beq a.terms b.terms = true ∧ (a.constant == b.constant) = true :=
    Bool.and_eq_true_iff
  rw [hsplit, Terms.beq_iff_eq ha.terms hbuilt.nonzero,
    Double.beq_iff_eq_or_zeros ha.constant hb.constant, SameNumber]

theorem sameNumber_of_display (h : a.display = b.display) :
    a.terms = b.terms ∧ SameNumber a.constant b.constant := by
  obtain ⟨hterms, hconstant⟩ := display_eq_iff.mp h
  exact ⟨hterms, hconstant.imp_right And.right⟩

theorem display_ne_of_oppositeZeros (h : a.OppositeZeros b) : a.display ≠ b.display := by
  obtain ⟨hnil, -, hzeros⟩ := h
  intro heq
  obtain ⟨-, hconstant | ⟨hterms, -⟩⟩ := display_eq_iff.mp heq
  · rcases hzeros with ⟨ha, hb⟩ | ⟨ha, hb⟩
    · exact Double.zero_ne_neg_zero (ha.symm.trans (hconstant.trans hb))
    · exact Double.zero_ne_neg_zero (hb.symm.trans (hconstant.symm.trans ha))
  · exact hterms hnil

theorem display_eq_of_sameNumber (hterms : a.terms = b.terms)
    (hconstant : SameNumber a.constant b.constant) (h : ¬a.OppositeZeros b) :
    a.display = b.display := by
  refine display_eq_iff.mpr ⟨hterms, ?_⟩
  rcases hconstant with heq | ⟨hzero, hzero'⟩
  · exact .inl heq
  · by_cases hnil : a.terms = []
    · rcases Double.eq_zero_or_eq_neg_zero hzero with ha | ha <;>
        rcases Double.eq_zero_or_eq_neg_zero hzero' with hb | hb
      · exact .inl (ha.trans hb.symm)
      · exact absurd ⟨hnil, hterms ▸ hnil, .inl ⟨ha, hb⟩⟩ h
      · exact absurd ⟨hnil, hterms ▸ hnil, .inr ⟨ha, hb⟩⟩ h
      · exact .inl (ha.trans hb.symm)
    · exact .inr ⟨hnil, hzero, hzero'⟩

theorem OppositeZeros.sameNumber (h : a.OppositeZeros b) :
    a.terms = b.terms ∧ SameNumber a.constant b.constant := by
  obtain ⟨ha, hb, ⟨hconstant, hconstant'⟩ | ⟨hconstant, hconstant'⟩⟩ := h
  · rw [ha, hb, hconstant, hconstant']
    exact ⟨rfl, .inr (by decide +kernel)⟩
  · rw [ha, hb, hconstant, hconstant']
    exact ⟨rfl, .inr (by decide +kernel)⟩

end Expr

/-- Where no number is undefined, the texts of built expressions are equal if and only if the
expressions compare equal, but for the constants zero and minus zero alone. The text of a constraint
tells its sense and the texts of its sides; so a text tells the sense, all terms, and the constants
but for the sign of a zero. -/
theorem display_unambiguous {a b : Expr Float} (hb : b.Built) (hda : a.Defined)
    (hdb : b.Defined) (c d : Constraint Float) :
    (¬a.OppositeZeros b → (a.display = b.display ↔ (a == b) = true)) ∧
    (a.OppositeZeros b → (a == b) = true ∧ a.display ≠ b.display) ∧
    (a.display = b.display → a.terms = b.terms ∧ SameNumber a.constant b.constant) ∧
    (c.display = d.display ↔
      c.sense = d.sense ∧ c.lhs.display = d.lhs.display ∧ c.rhs.display = d.rhs.display) ∧
    (c.display = d.display → c.sense = d.sense ∧
      (c.lhs.terms = d.lhs.terms ∧ SameNumber c.lhs.constant d.lhs.constant) ∧
      c.rhs.terms = d.rhs.terms ∧ SameNumber c.rhs.constant d.rhs.constant) := by
  have hbeq := hda.beq_iff hdb hb
  refine ⟨fun h => ?_, fun h => ?_, Expr.sameNumber_of_display, Constraint.display_eq_iff,
    fun h => ?_⟩
  · rw [hbeq]
    exact ⟨Expr.sameNumber_of_display,
      fun hsame => Expr.display_eq_of_sameNumber hsame.1 hsame.2 h⟩
  · exact ⟨hbeq.mpr h.sameNumber, Expr.display_ne_of_oppositeZeros h⟩
  · obtain ⟨hsense, hlhs, hrhs⟩ := Constraint.display_eq_iff.mp h
    exact ⟨hsense, Expr.sameNumber_of_display hlhs, Expr.sameNumber_of_display hrhs⟩

theorem display_unambiguous_sample :
    let u : Var Float := ⟨0, 0, 1, .continuous⟩
    let w : Var Float := ⟨12, 0, 1, .continuous⟩
    let a := ((Expr.new 0.1).addTerm (-3) u).addTerm (1 / 0) w
    let b := ((Expr.new 0).addTerm (1 / 0) w).plus ((Expr.new 0.1).addTerm (-3) u)
    let zero := Expr.new (0 : Float)
    let minusZero := Expr.new (-0 : Float)
    (b.Built ∧ a.Defined ∧ b.Defined ∧ ¬a.OppositeZeros b) ∧
    (minusZero.Built ∧ zero.Defined ∧ minusZero.Defined ∧ zero.OppositeZeros minusZero) ∧
    a.display = b.display ∧ zero.display ≠ minusZero.display ∧
    Constraint.display ⟨a, .lessEqual, zero⟩ = Constraint.display ⟨b, .lessEqual, zero⟩ ∧
    Constraint.display ⟨a, .lessEqual, zero⟩ ≠ Constraint.display ⟨a, .lessEqual, minusZero⟩ := by
  intro u w a b zero minusZero
  have hb : b.Built :=
    ((Expr.Built.new 0).addTerm (1 / 0) w).plus ((Expr.Built.new 0.1).addTerm (-3) u)
  have hminusZero : minusZero.Built := .new (-0)
  have hda : a.Defined := by decide +kernel
  have hdb : b.Defined := by decide +kernel
  have hdzero : zero.Defined := by decide +kernel
  have hdminusZero : minusZero.Defined := by decide +kernel
  have hterms : a.terms ≠ [] := by decide +kernel
  have hopposite : zero.OppositeZeros minusZero := ⟨rfl, rfl, .inl ⟨rfl, rfl⟩⟩
  have hother : ¬a.OppositeZeros b := fun h => hterms h.1
  obtain ⟨hbeq, -, -, hsame, -⟩ :=
    display_unambiguous hb hda hdb ⟨a, .lessEqual, zero⟩ ⟨b, .lessEqual, zero⟩
  obtain ⟨-, hzeros, -, hsides, -⟩ := display_unambiguous hminusZero hdzero hdminusZero
    ⟨a, .lessEqual, zero⟩ ⟨a, .lessEqual, minusZero⟩
  have htexts : a.display = b.display := (hbeq hother).mpr (by decide +kernel)
  have hne : zero.display ≠ minusZero.display := (hzeros hopposite).2
  refine ⟨⟨hb, hda, hdb, hother⟩, ⟨hminusZero, hdzero, hdminusZero, hopposite⟩, htexts, hne,
    hsame.mpr ⟨rfl, htexts, rfl⟩, ?_⟩
  intro h
  exact hne (hsides.mp h).2.2

end LinearModel
