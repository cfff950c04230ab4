import LinearModel.Proofs.Canonical
import LinearModel.Proofs.FirstFault
import LinearModel.Proofs.Meaning

/-!
# Exact loading

Flattening checks the largest variable number of an expression and loading checks every column
number of a row and every tag, each on its own. A model that passes the first check passes all
others at every call, and under any settings what is loaded is the model with these settings.
-/

namespace LinearModel

variable {R : Type}

structure Options where
  showLog : Bool := false
  timeLimit : Option Float := none
  scaling : Option ScaleMode := none

/-- A limit of zero is none. -/
def Settings.options (s : Settings) : Options where
  showLog := s.showLog
  timeLimit := if s.timeLimit = .zero then none else some s.timeLimit.seconds
  scaling := s.scaling

def Call.configure (o : Options) : Call R → Options
  | showLog value => { o with showLog := value }
  | timeLimit seconds => { o with timeLimit := some seconds }
  | scaling mode => { o with scaling := some mode }
  | _ => o

theorem FlatModel.configure_calls (f : FlatModel R) (s : Settings) :
    (f.calls s).foldl Call.configure {} = s.options := by
  have hconstraints (o : Options) :
      (f.constraints.map fun c => Call.addConstraint c.lhs c.rhs c.sense).foldl
        Call.configure o = o := by
    rw [List.foldl_map]
    exact List.foldl_fixed f.constraints
  have hobjective (o : Options) :
      (f.objective.toList.map fun obj => Call.setObjective obj.row obj.sense).foldl
        Call.configure o = o := by
    rw [List.foldl_map]
    exact List.foldl_fixed f.objective.toList
  simp only [calls, List.foldl_append, hconstraints, hobjective, List.foldl_map]
  rw [Settings.options]
  cases s.scaling <;> split_ifs <;> rfl

namespace Terms.Among

variable [Scalar R] {s : Set Nat} {ts us : Terms R}

omit [Scalar R] in
theorem put (h : ts.Among s) {id : Nat} (hid : id ∈ s) (c : R) : (ts.put id c).Among s := by
  intro t ht
  rcases mem_put ht with rfl | hmem
  · exact hid
  · exact h t hmem

theorem combine (h : ts.Among s) (g : R → R → R) (hus : us.Among s) :
    (Pending.combine g ts us).Among s := by
  induction us generalizing ts with
  | nil => exact h
  | cons u us ih =>
    obtain ⟨hu, hus⟩ := List.forall_mem_cons.mp hus
    exact ih (h.put hu _) hus

theorem reduceTerms (h : ts.Among s) (hus : us.Among s) : (Pending.reduceTerms ts us).Among s := by
  have hlhs : (Pending.combine (· + ·) [] ts).Among s := combine (List.forall_mem_nil _) _ h
  have hboth := hlhs.combine (· - ·) hus
  exact fun t ht => hboth t (List.mem_of_mem_filter ht)

end Terms.Among

namespace Pending

def options (p : Pending R) : Options :=
  ⟨p.showLog, p.timeLimit, p.scaling⟩

variable [Scalar R]

/-- A call to bring a part of the problem sets no option, even if it is malformed. -/
theorem options_call (p : Pending R) (c : Call R) : (p.call c).options = c.configure p.options := by
  cases c with
  | showLog _ | timeLimit _ | scaling _ | optimize => rfl
  | addVars lower upper kinds =>
    simp only [call, addVars]
    split
    · rfl
    · split <;> rfl
  | addConstraint lhs rhs sense =>
    simp only [call, addConstraint]
    split
    · rfl
    · split <;> rfl
  | setObjective row sense =>
    simp only [call, setObjective]
    split
    · rfl
    · split <;> rfl

theorem options_run (p : Pending R) (calls : List (Call R)) :
    (p.run calls).options = calls.foldl Call.configure p.options := by
  induction calls generalizing p with
  | nil => rfl
  | cons c calls ih =>
    rw [List.foldl_cons, ← options_call]
    exact ih (p.call c)

/-- A run without a fault had none at any moment. -/
theorem failure_of_prefix {p : Pending R} {before calls : List (Call R)} (h : before <+: calls)
    (hnone : (p.run calls).fault = none) : (p.run before).failure = none := by
  obtain ⟨after, rfl⟩ := h
  cases hfault : (p.run before).fault with
  | none => rw [failure, hfault, Option.map_none]
  | some fault =>
    have hkept := fault_run_of_some hfault after
    rw [← run_append, hnone] at hkept
    cases hkept

end Pending

variable [Scalar R]

theorem ReducedRow.ids_ofConstraint_lt {n : Nat} {c : Constraint R} (hlhs : c.lhs.Below n)
    (hrhs : c.rhs.Below n) : ∀ t ∈ (ofConstraint c).terms, t.1 < n := by
  rw [ofConstraint, Pending.reduce, SparseRow.terms_ofExpr, SparseRow.terms_ofExpr]
  exact Terms.Among.reduceTerms (s := {i | i < n}) hlhs hrhs

namespace Model

/-- A model keeps what it means when its settings are replaced. -/
theorem Scoped.loaded_arrays {m : Model R} (hm : m.Scoped) (s : Settings) :
    m.Loaded (Pending.empty.run (m.arrays.calls s)) := by
  have hcalls := calls_arrays { m with settings := s }
  have hscoped : Scoped { m with settings := s } := ⟨hm.constraints, hm.objective⟩
  obtain ⟨hcolumns, hrows, hobjective, hfault⟩ := hscoped.loaded
  rw [← hcalls] at hcolumns hrows hobjective hfault
  exact ⟨hcolumns, hrows, hobjective, hfault⟩

/-- A model that can be flattened is loaded into a fresh instance without a fault at any moment,
whatever the settings. The columns are its variables, the rows its constraints, the objective is its
own, and the options are those of the settings; so the backend is asked. -/
theorem flatten_loads_exactly {m : Model R} {flat : FlatModel R} (hm : m.Built)
    (hflat : m.flatten = .ok flat) (s : Settings) (name : String)
    (solve : Pending R → RawResult R × Log) :
    let solver := Solver.buffered name solve
    let p := (flat.calls s).foldl solver.call .empty
    (∀ before, before <+: flat.calls s → (before.foldl solver.call .empty).failure = none) ∧
    solver.optimize p = ((solve p).1, (solve p).2, p) ∧
    p.columns.length = m.vars.length ∧
    (∀ (i : Nat) (h : i < m.vars.length),
      p.columns[i]? = some ⟨m.vars[i].lower, m.vars[i].upper, m.vars[i].kind⟩) ∧
    p.rows.length = m.constraints.length ∧
    (∀ (i : Nat) (h : i < m.constraints.length), ∃ row, p.rows[i]? = some row ∧
      row.sense = m.constraints[i].sense ∧ ∀ t ∈ row.terms, t.1 < flat.numVars) ∧
    p.objective = m.objective.map (fun o => ⟨o.expr.terms, o.expr.constant, o.sense⟩) ∧
    p.showLog = s.showLog ∧
    p.timeLimit = (if s.timeLimit = .zero then none else some s.timeLimit.seconds) ∧
    p.scaling = s.scaling := by
  intro solver p
  obtain ⟨hclosed, rfl⟩ := flatten_eq_ok_iff.mp hflat
  have hscoped := hm.scoped hclosed
  obtain ⟨hcolumns, hrows, hobjective, hfault⟩ : m.Loaded p := hscoped.loaded_arrays s
  have hoptions : p.options = s.options := by
    rw [← FlatModel.configure_calls m.arrays s]
    exact Pending.options_run .empty (m.arrays.calls s)
  have hnum : m.arrays.numVars = m.vars.length := by simp [FlatModel.numVars, arrays]
  have hnever : p.failure = none := Pending.failure_of_prefix (List.prefix_refl _) hfault
  have hasked : Solver.answer solve p = solve p := by rw [Solver.answer, hnever]
  refine ⟨fun before h => Pending.failure_of_prefix h hfault, ?_, ?_, ?_, ?_, ?_, hobjective,
    congrArg Options.showLog hoptions, congrArg Options.timeLimit hoptions,
    congrArg Options.scaling hoptions⟩
  · change ((Solver.answer solve p).1, (Solver.answer solve p).2, p) = _
    rw [hasked]
  · exact (congrArg List.length hcolumns).trans (List.length_map _)
  · intro i hi
    rw [hcolumns, List.getElem?_map, List.getElem?_eq_getElem hi]
    rfl
  · exact (congrArg List.length hrows).trans (List.length_map _)
  · intro i hi
    have hbelow := hscoped.constraints m.constraints[i] (List.getElem_mem hi)
    have hrow : p.rows[i]? = some (.ofConstraint m.constraints[i]) := by
      rw [hrows, List.getElem?_map, List.getElem?_eq_getElem hi]
      rfl
    refine ⟨_, hrow, rfl, ?_⟩
    rw [hnum]
    exact ReducedRow.ids_ofConstraint_lt hbelow.1 hbelow.2

end Model

namespace Sample

def settings : Settings where
  showLog := true
  timeLimit := .ofParts 1 500000000
  scaling := some .geometricModel

theorem flatten_model : model.flatten = .ok model.arrays :=
  Model.flatten_eq_ok_iff.mpr ⟨by decide +kernel, rfl⟩

theorem flatten_loads_exactly_sample :
    let p := Pending.empty.run (model.arrays.calls settings)
    model.Built ∧ model.flatten = .ok model.arrays ∧ p.failure = none ∧
    p.columns[1]? = some ⟨0, 1, .binary⟩ ∧
    (∃ row, p.rows = [row] ∧ row.sense = .lessEqual) ∧
    p.showLog = true ∧ p.timeLimit = some 1.5 ∧ p.scaling = some .geometricModel := by
  intro p
  obtain ⟨hnever, -, -, hcolumns, hlen, hrows, -, hlog, hlimit, hscaling⟩ :=
    Model.flatten_loads_exactly model_built flatten_model settings "sample"
      fun p => (.best [] 0, [])
  obtain ⟨row, hrow⟩ := List.length_eq_one_iff.mp hlen
  obtain ⟨_, hget, hsense, -⟩ := hrows 0 Nat.one_pos
  refine ⟨model_built, flatten_model, hnever _ (List.prefix_refl _), hcolumns 1 (by decide), ?_,
    hlog, hlimit.trans (by decide +kernel), hscaling⟩
  refine ⟨row, hrow, ?_⟩
  rw [hrow] at hget
  obtain rfl := Option.some.inj hget
  exact hsense

end Sample

end LinearModel
