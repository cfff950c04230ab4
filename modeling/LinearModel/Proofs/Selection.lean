import Mathlib.Data.List.Basic
import LinearModel.Proofs.Options

/-!
# Which backend is chosen

The option decides, or else the text in the environment, and with neither the built-in engine is
chosen. A name decides by its lower case in all of Unicode, though only ASCII letters are looked at:
the backends have no letter in their names that is the lower case of one beyond. Where no backend is
chosen, none is asked for anything.
-/

namespace LinearModel

/-! ## Lower case -/

/-- The one letter beyond ASCII with its lower case in ASCII. -/
def kelvinSign : Char := .ofNat 0x212A

/-- The second text may be the first one in lower case: letters beyond ASCII become what they may,
but never ASCII text alone. -/
inductive Lowers : List Char → List Char → Prop
  | nil : Lowers [] []
  | ascii {c : Char} {cs ds : List Char} (hc : c.toNat < 128) (h : Lowers cs ds) :
    Lowers (c :: cs) (c.toLower :: ds)
  | kelvin {cs ds : List Char} (h : Lowers cs ds) : Lowers (kelvinSign :: cs) ('k' :: ds)
  | beyond {c : Char} {cs ds w : List Char} (hc : 128 ≤ c.toNat) (hw : ∃ d ∈ w, 128 ≤ d.toNat)
    (h : Lowers cs ds) : Lowers (c :: cs) (w ++ ds)

theorem toLower_of_beyond {c : Char} (hc : 128 ≤ c.toNat) : c.toLower = c := by
  have hletter : ¬(c.val ≥ 'A'.val ∧ c.val ≤ 'Z'.val) := by
    rintro ⟨-, hle⟩
    have hnat : c.toNat ≤ 'Z'.toNat := UInt32.le_iff_toNat_le.mp hle
    have hlast : 'Z'.toNat = 90 := rfl
    omega
  exact dif_neg hletter

namespace Lowers

variable {cs ds : List Char}

theorem map_toLower_eq (h : Lowers cs ds) (hds : ∀ d ∈ ds, d.toNat < 128 ∧ d ≠ 'k') :
    cs.map Char.toLower = ds := by
  induction h with
  | nil => rfl
  | ascii hc h ih => rw [List.map_cons, ih fun d hd => hds d (List.mem_cons_of_mem _ hd)]
  | kelvin h ih => exact absurd rfl (hds 'k' List.mem_cons_self).2
  | beyond hc hw h ih =>
    obtain ⟨d, hd, hbeyond⟩ := hw
    have hascii := (hds d (List.mem_append_left _ hd)).1
    omega

theorem eq_map_toLower (h : Lowers cs ds) (hcs : ∀ c ∈ cs, c.toNat < 128) :
    ds = cs.map Char.toLower := by
  induction h with
  | nil => rfl
  | ascii hc h ih => rw [List.map_cons, ih fun c hc => hcs c (List.mem_cons_of_mem _ hc)]
  | kelvin h ih => exact absurd (hcs kelvinSign List.mem_cons_self) (by decide)
  | @beyond c cs ds w hc hw h ih =>
    have hascii := hcs c List.mem_cons_self
    omega

end Lowers

def isPlain (s : String) : Bool :=
  s.toList.all fun d => d.toNat < 128 && d != 'k'

theorem isPlain_iff {s : String} : isPlain s ↔ ∀ d ∈ s.toList, d.toNat < 128 ∧ d ≠ 'k' := by
  simp [isPlain]

/-- The lower case of whole texts, in which a letter may depend on those around it. -/
structure Lowering where
  lower : String → String
  lowers (s : String) : Lowers s.toList (lower s).toList

namespace Lowering

/-- Leaves every letter beyond ASCII as it is, but for the one that must change. -/
def plain : Lowering where
  lower s := .ofList (s.toList.map fun c => if c = kelvinSign then 'k' else c.toLower)
  lowers s := by
    rw [String.toList_ofList]
    induction s.toList with
    | nil => exact .nil
    | cons c cs ih =>
      rw [List.map_cons]
      split_ifs with hkelvin
      · exact hkelvin ▸ .kelvin ih
      · by_cases hc : c.toNat < 128
        · exact .ascii hc ih
        · rw [toLower_of_beyond (Nat.not_lt.mp hc)]
          have hkept : ∃ d ∈ [c], 128 ≤ d.toNat := ⟨c, List.mem_singleton_self c, Nat.not_lt.mp hc⟩
          exact .beyond (Nat.not_lt.mp hc) hkept ih

theorem lower_eq_iff (l : Lowering) {target : String} (h : isPlain target) (name : String) :
    l.lower name = target ↔ name.toLower = target := by
  have htarget := isPlain_iff.mp h
  have hmap : name.toLower.toList = name.toList.map Char.toLower := String.toList_map
  constructor
  · rintro rfl
    apply String.toList_inj.mp
    rw [hmap, (l.lowers name).map_toLower_eq htarget]
  · rintro rfl
    have hascii : ∀ c ∈ name.toList, c.toNat < 128 := by
      intro c hc
      by_contra hbeyond
      have hlow := toLower_of_beyond (Nat.not_lt.mp hbeyond)
      have hmem : c ∈ name.toLower.toList := by
        rw [hmap]
        exact List.mem_map.mpr ⟨c, hc, hlow⟩
      exact hbeyond (htarget c hmem).1
    apply String.toList_inj.mp
    rw [hmap, (l.lowers name).eq_map_toLower hascii]

end Lowering

/-! ## The choice -/

namespace Backend

def cbcNames : List String := ["coin_cbc", "coin-cbc", "cbc"]

def knownNames : List String := "gurobi" :: "microlp" :: cbcNames

def deciding (option : Option String) : EnvValue → Option String
  | .text value => option.or (some value)
  | .unset | .unreadable => option

inductive Decides (l : Lowering) (name : String) : Except Error Backend → Prop
  | builtIn (h : l.lower name = "microlp") : Decides l name (.ok .builtIn)
  | gurobi (h : l.lower name = "gurobi") :
    Decides l name (.error (.backend "Gurobi solver requested but gurobi feature not enabled"))
  | cbc (h : l.lower name ∈ cbcNames) :
    Decides l name
      (.error (.backend "Coin CBC solver requested but coin_cbc feature not enabled"))
  | unknown (h : l.lower name ∉ knownNames) :
    Decides l name (.error (.backend
      ("Invalid solver '" ++ name ++ "'. Valid options: gurobi, coin_cbc, microlp")))

def picked (option : Option String) (env : EnvValue) : Except Error Backend :=
  (choose option env).mapError BackendFault.toError

variable {l : Lowering} {name : String}

/-- No letter of a known name is the lower case of one beyond ASCII. -/
theorem lower_eq_known_iff (l : Lowering) {known : String} (h : known ∈ knownNames)
    (name : String) : l.lower name = known ↔ name.toLower = known := by
  have hall : knownNames.all isPlain = true := by decide
  exact l.lower_eq_iff (List.all_eq_true.mp hall known h) name

theorem lower_mem_iff (l : Lowering) {names : List String} (h : names ⊆ knownNames)
    (name : String) : l.lower name ∈ names ↔ name.toLower ∈ names := by
  constructor
  · intro hmem
    rwa [(lower_eq_known_iff l (h hmem) name).mp rfl]
  · intro hmem
    rwa [(lower_eq_known_iff l (h hmem) name).mpr rfl]

theorem ofName_of_cbc (h : name.toLower ∈ cbcNames) : ofName name = .error .cbcDisabled := by
  simp only [cbcNames, List.mem_cons, List.not_mem_nil, or_false] at h
  rcases h with h | h | h <;> simp only [ofName, h]

theorem ofName_of_unknown (h : name.toLower ∉ knownNames) :
    ofName name = .error (.unknownName name) := by
  simp only [knownNames, cbcNames, List.mem_cons, List.not_mem_nil, or_false, not_or] at h
  obtain ⟨hgurobi, hmicrolp, hcoin, hdash, hcbc⟩ := h
  unfold ofName
  split <;> first | contradiction | rfl

theorem Decides.ofName_eq {outcome : Except Error Backend} (h : Decides l name outcome) :
    (ofName name).mapError BackendFault.toError = outcome := by
  cases h with
  | builtIn h =>
    rw [ofName, (lower_eq_known_iff l (by decide) name).mp h]
    rfl
  | gurobi h =>
    rw [ofName, (lower_eq_known_iff l (by decide) name).mp h]
    rfl
  | cbc h =>
    rw [ofName_of_cbc ((lower_mem_iff l (by decide) name).mp h)]
    rfl
  | unknown h =>
    rw [ofName_of_unknown (mt (lower_mem_iff l (List.Subset.refl _) name).mpr h)]
    rfl

theorem exists_decides (l : Lowering) (name : String) : ∃ outcome, Decides l name outcome := by
  by_cases h : l.lower name ∈ knownNames
  · rw [knownNames, List.mem_cons, List.mem_cons] at h
    rcases h with h | h | h
    · exact ⟨_, .gurobi h⟩
    · exact ⟨_, .builtIn h⟩
    · exact ⟨_, .cbc h⟩
  · exact ⟨_, .unknown h⟩

theorem ofName_eq_iff (l : Lowering) (name : String) (outcome : Except Error Backend) :
    (ofName name).mapError BackendFault.toError = outcome ↔ Decides l name outcome := by
  obtain ⟨decided, hdecided⟩ := exists_decides l name
  constructor
  · rintro rfl
    rwa [hdecided.ofName_eq]
  · exact Decides.ofName_eq

theorem choose_of_deciding {option : Option String} {env : EnvValue}
    (h : deciding option env = some name) : choose option env = ofName name := by
  cases option with
  | some given =>
    have hgiven : deciding (some given) env = some given := by cases env <;> rfl
    rw [choose, Option.some.inj (hgiven.symm.trans h)]
  | none =>
    cases env with
    | text value =>
      rw [← Option.some.inj h]
      rfl
    | unset | unreadable => cases h

theorem choose_of_undecided {option : Option String} {env : EnvValue}
    (h : deciding option env = none) : choose option env = .ok .builtIn := by
  cases option with
  | some given => cases env <;> cases h
  | none =>
    cases env with
    | text value => cases h
    | unset | unreadable => rfl

theorem choose_of_picked {option : Option String} {env : EnvValue} {e : Error}
    (h : picked option env = .error e) :
    ∃ fault, choose option env = .error fault ∧ fault.toError = e := by
  unfold picked at h
  cases hchoose : choose option env with
  | ok backend =>
    rw [hchoose] at h
    cases h
  | error fault =>
    rw [hchoose] at h
    exact ⟨fault, rfl, Except.error.inj h⟩

theorem optimizeBy_of_picked
    (solve : Backend → Model Float → Except Error (Solution Float) × Log) (model : Model Float)
    (env : EnvValue) :
    match picked none env with
    | .ok backend => (model.optimizeBy solve env).1 = (solve backend model).1
    | .error e => model.optimizeBy solve env = (.error e, []) := by
  have hchoose : picked none env = (ofEnv env).mapError BackendFault.toError := rfl
  rw [hchoose, Model.optimizeBy]
  cases ofEnv env <;> rfl

/-- The option goes before the environment, a name decides by its lower case, and an error is all
there is where none is chosen: no backend is asked for anything, by options in any world or by the
model alone. An environment whose value is not text counts as one without. -/
theorem choice_by_name (l : Lowering) (option : Option String) (env : EnvValue) :
    (deciding option env = none → picked option env = .ok .builtIn) ∧
    (∀ name, deciding option env = some name →
      ∀ outcome, picked option env = outcome ↔ Decides l name outcome) ∧
    (∀ e, picked option env = .error e →
      ∀ (o : SolveOptions) (model : Model Float), o.solver = option → (o.configure model).isOk →
      ∀ (m : Type → Type) [Monad m] (w : World m), w.env = env →
        o.solve w model = pure (.error (.model e), [])) ∧
    ∀ (solve : Backend → Model Float → Except Error (Solution Float) × Log) (model : Model Float),
      match picked none env with
      | .ok backend => (model.optimizeBy solve env).1 = (solve backend model).1
      | .error e => model.optimizeBy solve env = (.error e, []) := by
  refine ⟨fun h => ?_, fun name h outcome => ?_, ?_,
    fun solve model => optimizeBy_of_picked solve model env⟩
  · rw [picked, choose_of_undecided h]
    rfl
  · rw [picked, choose_of_deciding h]
    exact ofName_eq_iff l name outcome
  · rintro e he o model rfl hconfigured m _ w rfl
    obtain ⟨fault, hchoose, rfl⟩ := choose_of_picked he
    cases hmodel : o.configure model with
    | error cause =>
      rw [hmodel] at hconfigured
      cases hconfigured
    | ok configured => exact SolveOptions.solve_of_unchosen hmodel hchoose

theorem choice_by_name_plain :
    picked none (.text "MicroLP") = .ok .builtIn ∧
    picked (some "CBC") (.text "MicroLP") =
      .error (.backend "Coin CBC solver requested but coin_cbc feature not enabled") := by
  obtain ⟨-, hname, -, -⟩ := choice_by_name .plain none (.text "MicroLP")
  obtain ⟨-, hoption, -, -⟩ := choice_by_name .plain (some "CBC") (.text "MicroLP")
  exact ⟨(hname "MicroLP" rfl _).mpr (.builtIn (by decide)),
    (hoption "CBC" rfl _).mpr (.cbc (by decide))⟩

/-- A value that is set and is not text chooses the built-in engine. -/
theorem not_every_value_decides :
    ¬∀ env : EnvValue, env ≠ .unset →
      (∀ value, env = .text value → value.toLower ≠ "microlp") →
      ∃ e, picked none env = .error e := by
  intro hdecides
  obtain ⟨e, he⟩ := hdecides .unreadable (by simp) (by simp)
  cases he

end Backend

end LinearModel
