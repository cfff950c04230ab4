import LinearModel.Boundary.Solver

/-!
# Successive runs

Models solved one after another, each in the state that the one before left. A traced solver does
what the solver does and also keeps every state that it passes through, so statements about what
holds at any moment of a run are statements about its trace.
-/

namespace LinearModel.Solver

variable {R S : Type}

def runs : List (Solver R S × Model R) → S → List (Outcome R S)
  | [], _ => []
  | (s, m) :: rest, state => s.run m state :: runs rest (s.run m state).state

/-- The states stand in the order in which they were reached. -/
def traced (s : Solver R S) : Solver R (S × List S) where
  name := s.name
  create state := (s.create state.1).map (enter state)
  call state c := enter state (s.call state.1 c)
  optimize state :=
    let (raw, log, next) := s.optimize state.1
    (raw, log, enter state next)
  releaseResult state := enter state (s.releaseResult state.1)
  releaseInstance state := enter state (s.releaseInstance state.1)
  createLog := s.createLog
  releaseLog := s.releaseLog
where
  enter (state : S × List S) (next : S) : S × List S :=
    (next, state.2 ++ [next])

theorem fst_foldl_traced_call (s : Solver R S) (calls : List (Call R)) (state : S × List S) :
    (calls.foldl s.traced.call state).1 = calls.foldl s.call state.1 := by
  induction calls generalizing state with
  | nil => rfl
  | cons c calls ih => exact ih (s.traced.call state c)

theorem forall_mem_enter {P : S → Prop} {state : S × List S} {next : S}
    (hpast : ∀ j ∈ state.2, P j) (hnext : P next) : ∀ j ∈ (traced.enter state next).2, P j := by
  intro j hj
  rcases List.mem_append.mp hj with hj | hj
  · exact hpast j hj
  · obtain rfl := List.mem_singleton.mp hj
    exact hnext

/-- What every call keeps holds of all states between the calls. -/
theorem forall_mem_foldl_traced_call (s : Solver R S) {P Q : S → Prop}
    (hP : ∀ state, Q state → P state) (hcall : ∀ state c, Q state → Q (s.call state c))
    (calls : List (Call R)) (state : S × List S) (hstate : Q state.1)
    (hpast : ∀ j ∈ state.2, P j) :
    Q (calls.foldl s.traced.call state).1 ∧ ∀ j ∈ (calls.foldl s.traced.call state).2, P j := by
  induction calls generalizing state with
  | nil => exact ⟨hstate, hpast⟩
  | cons c calls ih =>
    have hnext : Q (s.call state.1 c) := hcall state.1 c hstate
    exact ih _ hnext (forall_mem_enter hpast (hP _ hnext))

theorem traced_run (s : Solver R S) (m : Model R) (state : S × List S) :
    (s.traced.run m state).result = (s.run m state.1).result ∧
    (s.traced.run m state).log = (s.run m state.1).log ∧
    (s.traced.run m state).state.1 = (s.run m state.1).state := by
  unfold run
  cases m.flatten with
  | error fault => exact ⟨rfl, rfl, rfl⟩
  | ok flat =>
    have hcreate : s.traced.create state = (s.create state.1).map (traced.enter state) := rfl
    simp only [hcreate]
    cases s.create state.1 with
    | error error => exact ⟨rfl, rfl, rfl⟩
    | ok next =>
      have hcalls : ((flat.calls m.settings).foldl s.traced.call (traced.enter state next)).1 =
          (flat.calls m.settings).foldl s.call next :=
        s.fst_foldl_traced_call _ _
      simp only [Except.map, ← hcalls]
      exact ⟨rfl, rfl, rfl⟩

theorem traced_runs (jobs : List (Solver R S × Model R)) (state : S × List S) :
    (runs (jobs.map fun (s, m) => (s.traced, m)) state).map
        (fun o => (o.result, o.log, o.state.1)) =
      (runs jobs state.1).map fun o => (o.result, o.log, o.state) := by
  induction jobs generalizing state with
  | nil => rfl
  | cons job jobs ih =>
    obtain ⟨s, m⟩ := job
    obtain ⟨hresult, hlog, hstate⟩ := s.traced_run m state
    simp only [List.map_cons, runs, ih, hresult, hlog, hstate]

end LinearModel.Solver
