import LinearModel.Proofs.Journal
import LinearModel.Proofs.Options
import LinearModel.Proofs.Seconds

/-!
# Time limits

A time limit that is asked for is refused before anything is solved, or told to the solver instance
once, as the seconds of the nearest duration. No limit is told where that duration is zero, although
the number that was asked for need not be: up to half a nanosecond there is none.
-/

namespace LinearModel

variable {R : Type}

/-! ## The limits that a solver is told -/

def Call.timeLimit? : Call R → Option Float
  | timeLimit seconds => some seconds
  | _ => none

namespace Settings

def limits (s : Settings) : List Float :=
  if s.timeLimit = .zero then [] else [s.timeLimit.seconds]

theorem limits_laterCalls (s : Settings) :
    (s.laterCalls (R := R)).filterMap Call.timeLimit? = s.limits := by
  have hscaling : (s.scaling.toList.map (Call.scaling (R := R))).filterMap Call.timeLimit? = [] :=
    List.filterMap_eq_nil_iff.mpr (by simp [Call.timeLimit?])
  rw [laterCalls, List.filterMap_append, hscaling, List.append_nil, limits]
  split_ifs <;> rfl

end Settings

theorem Model.limits_calls (m : Model R) :
    m.calls.filterMap Call.timeLimit? = m.settings.limits := by
  have hconstraints : (m.constraints.map Call.ofConstraint).filterMap Call.timeLimit? = [] :=
    List.filterMap_eq_nil_iff.mpr (by simp [Call.ofConstraint, Call.timeLimit?])
  have hobjective :
      (m.objective.toList.map Call.ofObjective).filterMap Call.timeLimit? = [] :=
    List.filterMap_eq_nil_iff.mpr (by simp [Call.ofObjective, Call.timeLimit?])
  rw [calls, laterCalls, List.filterMap_append, List.filterMap_append, List.filterMap_append,
    hconstraints, hobjective, Settings.limits_laterCalls]
  rfl

namespace Script

theorem limits_segment [Scalar R] (s : Script R) (m : Model R) :
    (s.segment m).filterMap Call.timeLimit? = if s.accepts m then m.settings.limits else [] := by
  rw [segment]
  split_ifs
  · rw [List.filterMap_append, Model.limits_calls]
    exact List.append_nil _
  · rfl

def world (s : Script Float) (env : EnvValue) : World (StateM (Journal Float)) where
  env
  solve _ model := fun j =>
    let o := s.solver.run model j
    ((o.result, o.log), o.state)
  perform _ := pure (.ok ())

end Script

namespace SolveOptions

variable {o : SolveOptions} {model : Model Float}

def limitsTold (o : SolveOptions) (s : Script Float) (env : EnvValue) (model : Model Float) :
    List Float :=
  ((o.solve (s.world env) model).run .empty).2.calls.filterMap Call.timeLimit?

/-- The instance is told the settings exactly if there is one. -/
theorem limitsTold_of_configure {settings : Settings}
    (h : o.configure model = .ok { model with settings }) (s : Script Float) (env : EnvValue) :
    o.limitsTold s env model =
      if (Backend.choose o.solver env).isOk ∧ s.accepts model then settings.limits else [] := by
  rw [limitsTold]
  cases hchoose : Backend.choose o.solver env with
  | error fault =>
    have hno : (Except.error fault : Except BackendFault Backend).isOk = false := rfl
    rw [solve_of_unchosen (w := s.world env) h hchoose, hno,
      if_neg (fun h => Bool.false_ne_true h.1)]
    rfl
  | ok backend =>
    let configured : Model Float := { model with settings }
    have hyes : (Except.ok backend : Except BackendFault Backend).isOk = true := rfl
    have haccepts : s.accepts configured = s.accepts model := rfl
    have hcalls : (s.solver.run configured .empty).state.calls = s.segment configured := by
      rw [s.run_state]
      rfl
    rw [solve_of_chosen (w := s.world env) h hchoose]
    calc (s.solver.run configured .empty).state.calls.filterMap Call.timeLimit?
        = if s.accepts model then settings.limits else [] := by
          rw [hcalls, s.limits_segment, haccepts]
      _ = _ := by simp only [hyes, true_and]

/-- Whatever limit is asked for: it is refused exactly if no duration has that many seconds, and
then nothing is solved in any world. Otherwise the solver instance is told its nearest duration,
with a positive number of seconds, unless that is zero. -/
theorem limit_told_as_duration (o : SolveOptions) (seconds : Float) (model : Model Float) :
    let o := { o with timeLimit := some seconds }
    (∀ fault, o.configure model = .error fault ↔
      ∃ cause, (Exact.ofFloat seconds).durationFault = some cause ∧
        .timeLimit seconds cause = fault) ∧
    (∀ fault, o.configure model = .error fault →
      ∀ (m : Type → Type) [Monad m] (w : World m), o.solve w model = pure (.error fault, [])) ∧
    ((Exact.ofFloat seconds).durationFault = none →
      ∃ (q : Rat) (d : Duration), Exact.ofFloat seconds = .finite q ∧ d.IsNearest q ∧
        (d = .zero ↔ q ≤ 1 / (2 * 10 ^ 9)) ∧ (d ≠ .zero → 0 < d.seconds) ∧
        ∀ (s : Script Float) (env : EnvValue), o.limitsTold s env model =
          if (Backend.choose o.solver env).isOk ∧ s.accepts model then
            if d = .zero then [] else [d.seconds]
          else []) := by
  intro o
  have ho : o.timeLimit = some seconds := rfl
  refine ⟨fun fault => ?_, fun fault hfault m _ w => solve_of_refused hfault w, fun hfits => ?_⟩
  · cases hcause : (Exact.ofFloat seconds).durationFault with
    | some cause =>
      rw [configure_of_refused ho (Duration.ofSeconds_of_fault hcause) model]
      simp
    | none =>
      obtain ⟨q, d, -, hd, -⟩ := Duration.exists_ofSeconds hcause
      obtain ⟨settings, hsettings, -⟩ := configure_of_limit ho hd model
      rw [hsettings]
      simp
  · obtain ⟨q, d, hq, hd, hnearest, hzero⟩ := Duration.exists_ofSeconds hfits
    obtain ⟨settings, hsettings, hlimit⟩ := configure_of_limit ho hd model
    refine ⟨q, d, hq, hnearest, hzero, Duration.seconds_pos, fun s env => ?_⟩
    rw [limitsTold_of_configure hsettings, Settings.limits, hlimit]

/-- A tenth of a nanosecond is more than zero and accepted, but no limit is told. -/
theorem not_every_limit_told :
    ¬∀ (o : SolveOptions) (seconds : Float) (model : Model Float) (s : Script Float)
      (env : EnvValue), o.timeLimit = some seconds → 0 < seconds →
      (o.configure model).isOk → (Backend.choose o.solver env).isOk → s.accepts model →
      ∃ limit, o.limitsTold s env model = [limit] ∧ 0 < limit := by
  intro htold
  let o : SolveOptions := { timeLimit := some 1e-10 }
  let model : Model Float := (Model.empty.addVar 0 1 .continuous).2
  let s : Script Float := { name := "", refusal := "", response := some (.best [0] 0) }
  have hnone : (o.limitsTold s .unset model).length = 0 := by decide +kernel
  obtain ⟨limit, hlimit, -⟩ := htold o 1e-10 model s .unset rfl (by decide +kernel)
    (by decide +kernel) (by decide +kernel) (by decide +kernel)
  rw [hlimit] at hnone
  cases hnone

end SolveOptions

end LinearModel
