import Mathlib.Tactic.SplitIfs
import LinearModel.Proofs.Outcome
import LinearModel.Solve.BuiltIn

/-!
# The values of the built-in optimizer

No step of the search changes how many values a tableau holds, one for each variable of the program
and one for each row. So a solution has a value for each variable that was made.
-/

namespace LinearModel

namespace Tableau

/-- Steps that keep the size of an array keep it over a whole list. -/
theorem size_foldl {α β : Type} {step : Array α → β → Array α}
    (h : ∀ xs b, (step xs b).size = xs.size) (l : List β) (xs : Array α) :
    (l.foldl step xs).size = xs.size := by
  induction l generalizing xs with
  | nil => rfl
  | cons b l ih => rw [List.foldl_cons, ih, h]

theorem size_denseRow (n : Nat) (ts : Terms Float) : (denseRow n ts).size = n := by
  rw [denseRow, size_foldl fun _ _ => Array.size_setIfInBounds, Array.size_replicate]

theorem size_values_start (p : Program) :
    (start p).values.size = p.bounds.size + p.rows.length := by
  simp [start, size_denseRow]

/-- There is a value for each of the first `n` variables. -/
def Valued (n : Nat) (t : Tableau) : Prop :=
  n ≤ t.values.size

variable {t u : Tableau} {n : Nat}

namespace Valued

theorem of_size (ht : t.Valued n) (h : u.values.size = t.values.size) : u.Valued n := by
  rw [Valued, h]
  exact ht

theorem start (p : Program) : (Tableau.start p).Valued p.bounds.size := by
  rw [Valued, size_values_start]
  omega

theorem move (ht : t.Valued n) (col : Nat) (x step : Float) : (t.move col x step).Valued n := by
  refine ht.of_size ?_
  simp only [Tableau.move]
  rw [size_foldl, Array.size_setIfInBounds]
  intro values row
  split_ifs
  · rfl
  · exact Array.size_setIfInBounds

theorem refreshed (ht : t.Valued n) : t.refreshed.Valued n :=
  ht.of_size (size_foldl (fun _ _ => Array.size_setIfInBounds) _ _)

theorem exchange (ht : t.Valued n) (row col : Nat) (x : Float) :
    (t.exchange row col x).Valued n :=
  (ht.move col _ _).of_size Array.size_setIfInBounds

theorem settled? (ht : t.Valued n) (h : t.settled? = some u) : u.Valued n := by
  unfold Tableau.settled? at h
  split_ifs at h
  cases h
  exact ht.refreshed

theorem repair {fuel : Nat} (ht : t.Valued n) (h : t.repair fuel = some u) : u.Valued n := by
  induction fuel generalizing t with
  | zero => cases h
  | succ fuel ih =>
    simp only [Tableau.repair] at h
    split at h
    · cases h
      exact ht
    · split at h
      · exact ht.settled? h
      · exact ih (ht.exchange _ _ _) h

theorem descend {fuel : Nat} (ht : t.Valued n) (h : t.descend fuel = some u) : u.Valued n := by
  induction fuel generalizing t with
  | zero =>
    cases h
    exact ht
  | succ fuel ih =>
    simp only [Tableau.descend] at h
    split at h
    · cases h
      exact ht
    · split at h
      · exact ih (ht.exchange _ _ _) h
      · split_ifs at h
        all_goals exact ih (ht.move _ _ _) h

theorem admissible {cost : Array Float} (ht : t.Valued n) (h : t.admissible cost = some u) :
    u.Valued n := by
  unfold Tableau.admissible at h
  split_ifs at h
  · obtain ⟨v, hv, rfl⟩ := Option.map_eq_some_iff.mp h
    have hrates : Valued n { t with rates := t.stillRates } := ht
    exact (hrates.repair hv).of_size rfl
  · exact ht.repair h

theorem relaxed {cost : Array Float} (ht : t.Valued n) (h : t.relaxed cost = .attained u) :
    u.Valued n := by
  unfold Tableau.relaxed at h
  split at h
  · cases h
  · rename_i v hv
    split at h
    · cases h
    · rename_i w hw
      cases h
      exact (ht.admissible hv).descend hw

end Valued

end Tableau

namespace Program

variable {p : Program} {values : Array Float}

theorem size_wholeValues {t : Tableau} (ht : t.Valued p.bounds.size) :
    (p.wholeValues t).size = p.bounds.size := by
  rw [wholeValues, Tableau.size_foldl fun _ _ => Array.size_modify, Array.size_extract]
  exact (Nat.sub_zero _).trans (Nat.min_eq_left ht)

theorem valued_split {n : Nat} {t : Tableau} (ht : t.Valued n) (i : Nat) :
    ∀ part ∈ split t i, part.Valued n := by
  rw [split, List.forall_mem_cons, List.forall_mem_singleton]
  exact ⟨ht, ht⟩

/-- The best whole point that is found is the table of some part. -/
theorem size_search {cost : Array Float} {fuel : Nat} {parts : List Tableau}
    {best : Option (Float × Tableau)} (hparts : ∀ t ∈ parts, t.Valued p.bounds.size)
    (hbest : ∀ b ∈ best, b.2.Valued p.bounds.size)
    (h : p.search cost fuel parts best = .attained values) : values.size = p.bounds.size := by
  induction fuel generalizing parts best with
  | zero =>
    cases parts with
    | nil =>
      cases best with
      | none => cases h
      | some b =>
        cases h
        exact size_wholeValues (hbest b rfl)
    | cons t parts => cases h
  | succ fuel ih =>
    cases parts with
    | nil =>
      cases best with
      | none => cases h
      | some b =>
        cases h
        exact size_wholeValues (hbest b rfl)
    | cons t parts =>
      obtain ⟨ht, hparts⟩ := List.forall_mem_cons.mp hparts
      simp only [search] at h
      split at h
      · cases h
      · exact ih hparts hbest h
      · rename_i u hu
        have hvalued : u.Valued p.bounds.size := ht.relaxed hu
        split at h
        · exact ih hparts hbest h
        · split at h
          · refine ih hparts ?_ h
            rintro b ⟨⟩
            exact hvalued
          · refine ih (List.forall_mem_append.mpr ⟨valued_split hvalued _, hparts⟩) hbest h

theorem size_optimum (h : p.optimum = .attained values) : values.size = p.bounds.size := by
  simp only [optimum] at h
  split at h
  · cases h
  · split_ifs at h
  · rename_i t ht
    have hstart := (Tableau.Valued.start p).relaxed ht
    exact size_search (List.forall_mem_singleton.mpr hstart)
      (fun b hb => absurd hb (Option.not_mem_none b)) h

end Program

namespace BuiltIn

open Optimizer (Definition)

variable {problem : Problem} {values : Array Float}

theorem size_program {prog : Program} (h : program problem = .ok prog) :
    prog.bounds.size = problem.pool.size := by
  obtain ⟨bounds, hbounds, h⟩ := bind_eq_ok.mp h
  have hlength : bounds.length = problem.pool.size := length_mapM hbounds
  simp only [List.partition_eq_filter_filter] at h
  by_cases hempty : bounds.any Interval.isEmpty = true
  · rw [if_pos hempty] at h
    split_ifs at h <;> cases h
  · rw [if_neg hempty] at h
    split_ifs at h
    · cases h
    · rw [← pure_eq_ok.mp h, List.size_toArray, hlength]

theorem size_optimum (h : optimum problem = .ok values) : values.size = problem.pool.size := by
  obtain ⟨prog, hprog, h⟩ := bind_eq_ok.mp h
  split at h
  · rename_i xs hxs
    rw [← pure_eq_ok.mp h, Program.size_optimum hxs, size_program hprog]
  · cases h
  · cases h

theorem addAll_optimizer (pool : Array Definition) (definitions : List Definition) :
    optimizer.addAll pool definitions =
      (List.range' pool.size definitions.length, pool ++ definitions.toArray) := by
  induction definitions generalizing pool with
  | nil => simp [Optimizer.addAll]
  | cons d ds ih =>
    have hadd : optimizer.add pool d = (pool.size, pool.push d) := rfl
    simp [Optimizer.addAll, hadd, ih, List.range'_succ]

/-- The search changes no size, so no variable goes without a value. -/
theorem optimizer_hasValues : optimizer.HasValues where
  value_made definitions problem value hpool hsolve v hv := by
    have hmake : optimizer.make definitions =
        (List.range' 0 definitions.length, #[] ++ definitions.toArray) :=
      addAll_optimizer #[] definitions
    rw [hmake] at hpool hv
    obtain ⟨values, hvalues, rfl⟩ := map_eq_ok.mp hsolve
    have hlt : v < values.size := by
      rw [size_optimum hvalues, hpool]
      simpa using hv
    refine ⟨values[v], ?_⟩
    rw [valueAt, Array.getElem?_eq_getElem hlt]

end BuiltIn

end LinearModel
