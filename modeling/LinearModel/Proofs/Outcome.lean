/-!
# Computations that can fail

When a composed computation succeeds, and with what.
-/

namespace LinearModel

variable {ε α β : Type}

theorem bind_eq_ok {x : Except ε α} {f : α → Except ε β} {b : β} :
    (x >>= f) = .ok b ↔ ∃ a, x = .ok a ∧ f a = .ok b := by
  cases x with
  | error e => exact ⟨fun h => (by cases h), fun ⟨_, h, _⟩ => (by cases h)⟩
  | ok a => exact ⟨fun h => ⟨a, rfl, h⟩, fun ⟨_, h, hf⟩ => by cases h; exact hf⟩

theorem map_eq_ok {x : Except ε α} {f : α → β} {b : β} :
    x.map f = .ok b ↔ ∃ a, x = .ok a ∧ f a = b := by
  cases x with
  | error e => simp [Except.map]
  | ok a => simp [Except.map]

theorem mapError_eq_ok {δ : Type} {x : Except ε α} {f : ε → δ} {a : α} :
    x.mapError f = .ok a ↔ x = .ok a := by
  cases x with
  | error e => exact ⟨fun h => (by cases h), fun h => (by cases h)⟩
  | ok b => exact ⟨fun h => by cases h; rfl, fun h => by cases h; rfl⟩

@[simp] theorem pure_eq_ok {a b : α} : (pure a : Except ε α) = .ok b ↔ a = b :=
  Except.ok.injEq a b ▸ Iff.rfl

theorem bind_pure_eq_ok {x : Except ε α} {f : α → β} {b : β} :
    (x >>= fun a => pure (f a)) = .ok b ↔ ∃ a, x = .ok a ∧ f a = b := by
  simp only [bind_eq_ok, pure_eq_ok]

theorem bind_bind_pure_eq_ok {γ : Type} {x : Except ε α} {y : Except ε β} {f : α → β → γ} {c : γ} :
    (x >>= fun a => y >>= fun b => pure (f a b)) = .ok c ↔
      ∃ a, x = .ok a ∧ ∃ b, y = .ok b ∧ f a b = c := by
  simp only [bind_eq_ok, pure_eq_ok]

/-- A check that finds no fault hands its value on. -/
theorem elim_bind (o : Option ε) (a : α) (f : α → Except ε β) :
    (o.elim (.ok a) .error >>= f) = o.elim (f a) .error := by
  cases o <;> rfl

theorem exists_bind_pure {x : Except ε α} {f : α → β} :
    (∃ b, (x >>= fun a => pure (f a)) = .ok b) ↔ ∃ a, x = .ok a := by
  simp only [bind_pure_eq_ok]
  exact ⟨fun ⟨_, a, ha, _⟩ => ⟨a, ha⟩, fun ⟨a, ha⟩ => ⟨f a, a, ha, rfl⟩⟩

theorem exists_bind_bind_pure {γ : Type} {x : Except ε α} {y : Except ε β} {f : α → β → γ} :
    (∃ c, (x >>= fun a => y >>= fun b => pure (f a b)) = .ok c) ↔
      (∃ a, x = .ok a) ∧ ∃ b, y = .ok b := by
  simp only [bind_bind_pure_eq_ok]
  exact ⟨fun ⟨_, a, ha, b, hb, _⟩ => ⟨⟨a, ha⟩, ⟨b, hb⟩⟩,
    fun ⟨⟨a, ha⟩, ⟨b, hb⟩⟩ => ⟨f a b, a, ha, b, hb, rfl⟩⟩

/-! ## Lists of computations -/

theorem length_mapM {f : α → Except ε β} {as : List α} {bs : List β} (h : as.mapM f = .ok bs) :
    bs.length = as.length := by
  induction as generalizing bs with
  | nil =>
    cases h
    rfl
  | cons a as ih =>
    rw [List.mapM_cons] at h
    obtain ⟨b, -, bs, hbs, rfl⟩ := bind_bind_pure_eq_ok.mp h
    rw [List.length_cons, List.length_cons, ih hbs]

theorem exists_mapM {f : α → Except ε β} {as : List α} (hf : ∀ a ∈ as, ∃ b, f a = .ok b) :
    ∃ bs, as.mapM f = .ok bs := by
  induction as with
  | nil => exact ⟨[], rfl⟩
  | cons a as ih =>
    obtain ⟨⟨b, hb⟩, has⟩ := List.forall_mem_cons.mp hf
    obtain ⟨bs, hbs⟩ := ih has
    refine ⟨b :: bs, ?_⟩
    rw [List.mapM_cons, hb, hbs]
    rfl

theorem mapM_of_forall {f : α → Except ε β} {g : α → β} {as : List α}
    (hf : ∀ a ∈ as, f a = .ok (g a)) : as.mapM f = .ok (as.map g) := by
  induction as with
  | nil => rfl
  | cons a as ih =>
    obtain ⟨ha, has⟩ := List.forall_mem_cons.mp hf
    rw [List.mapM_cons, ha, ih has]
    rfl

theorem filterMapM_of_forall {γ : Type} {h : γ → α} {f : α → Except ε (Option β)}
    {g : γ → Option β} {cs : List γ} (hf : ∀ c ∈ cs, f (h c) = .ok (g c)) :
    (cs.map h).filterMapM f = .ok (cs.filterMap g) := by
  induction cs with
  | nil => rfl
  | cons c cs ih =>
    obtain ⟨hc, hcs⟩ := List.forall_mem_cons.mp hf
    rw [List.map_cons, List.filterMapM_cons, hc, ih hcs, List.filterMap_cons]
    cases g c <;> rfl

end LinearModel
