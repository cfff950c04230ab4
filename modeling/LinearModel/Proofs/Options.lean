import LinearModel.Command.Run

/-!
# Solving with options

A solve with options ends when the time limit is refused, ends when no backend is chosen, or asks
the chosen backend to solve the configured model. Nothing is asked of the world in the first two
cases.
-/

namespace LinearModel.SolveOptions

variable {o : SolveOptions} {seconds : Float}

/-! ## Configuring -/

theorem configure_of_refused (ho : o.timeLimit = some seconds) {cause : Duration.Fault}
    (h : Duration.ofSeconds seconds = .error cause) (model : Model Float) :
    o.configure model = .error (.timeLimit seconds cause) := by
  simp only [configure, ho, h]
  rfl

/-- Nothing but the settings is changed. -/
theorem configure_of_limit (ho : o.timeLimit = some seconds) {d : Duration}
    (h : Duration.ofSeconds seconds = .ok d) (model : Model Float) :
    ∃ settings, o.configure model = .ok { model with settings } ∧ settings.timeLimit = d := by
  simp only [configure, ho, h]
  cases o.scaling with
  | none => exact ⟨_, rfl, rfl⟩
  | some preset => exact ⟨_, rfl, rfl⟩

theorem configure_of_unlimited (ho : o.timeLimit = none) (model : Model Float) :
    ∃ settings, o.configure model = .ok { model with settings } ∧
      settings.timeLimit = model.settings.timeLimit := by
  simp only [configure, ho]
  cases o.scaling with
  | none => exact ⟨_, rfl, rfl⟩
  | some preset => exact ⟨_, rfl, rfl⟩

/-! ## Solving -/

variable {model configured : Model Float} {m : Type → Type} [Monad m] {w : World m}

theorem solve_of_refused {fault : RunFault} (h : o.configure model = .error fault) (w : World m) :
    o.solve w model = pure (.error fault, []) := by
  rw [solve, h]

theorem solve_of_unchosen (h : o.configure model = .ok configured) {fault : BackendFault}
    (hchoose : Backend.choose o.solver w.env = .error fault) :
    o.solve w model = pure (.error (.model fault.toError), []) := by
  simp only [solve, h, hchoose]

theorem solve_of_chosen (h : o.configure model = .ok configured) {backend : Backend}
    (hchoose : Backend.choose o.solver w.env = .ok backend) :
    o.solve w model = do
      let (result, log) ← w.solve backend configured
      return (result.mapError .model, chosenEvent backend :: log) := by
  simp only [solve, h, hchoose]

end LinearModel.SolveOptions
