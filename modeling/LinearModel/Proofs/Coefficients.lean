import LinearModel.Proofs.Canonical
import LinearModel.Proofs.Reading
import LinearModel.Proofs.Reduction

/-!
# One coefficient at a time

What an operation on terms does to the coefficient of one variable, which depends on the coefficients
of that variable alone. Terms in ascending order are known by their coefficients.
-/

namespace LinearModel.Terms

variable {R : Type} {ts us : Terms R}

theorem get?_cons (i : Nat) (c : R) (ts : Terms R) (j : Nat) :
    get? j ((i, c) :: ts) = if i = j then some c else ts.get? j :=
  rfl

theorem get?_eq_none_of_lt {j : Nat} (h : ∀ t ∈ ts, j < t.1) : ts.get? j = none :=
  get?_eq_none fun t ht => Nat.ne_of_gt (h t ht)

theorem get?_put (ts : Terms R) (i : Nat) (c : R) (j : Nat) :
    (ts.put i c).get? j = if j = i then some c else ts.get? j := by
  split_ifs with hij
  · rw [hij, get?_put_self]
  · exact get?_put_of_ne hij c ts

namespace Ascending

theorem get?_eq_some (h : ts.Ascending) {j : Nat} {c : R} : ts.get? j = some c ↔ (j, c) ∈ ts := by
  induction ts with
  | nil => simp [get?]
  | cons t ts ih =>
    obtain ⟨i, d⟩ := t
    obtain ⟨hlow, hts⟩ := ascending_cons.mp h
    rw [get?_cons, List.mem_cons]
    split_ifs with hij
    · subst hij
      have hnot : (i, c) ∉ ts := fun hmem => Nat.lt_irrefl i (hlow _ hmem)
      simp [hnot, eq_comm]
    · rw [ih hts]
      simp [Ne.symm hij]

theorem mem_ids (h : ts.Ascending) {j : Nat} : j ∈ ts.ids ↔ ts.get? j ≠ none := by
  rw [Option.ne_none_iff_exists']
  simp only [h.get?_eq_some, ids, List.mem_map]
  constructor
  · rintro ⟨t, ht, rfl⟩
    exact ⟨t.2, ht⟩
  · rintro ⟨c, hc⟩
    exact ⟨_, hc, rfl⟩

/-- Terms in order are no more than their coefficients. -/
theorem ext (h : ts.Ascending) (h' : us.Ascending) (heq : ∀ j, ts.get? j = us.get? j) :
    ts = us := by
  have hmem : ∀ t, t ∈ ts ↔ t ∈ us := by
    intro t
    rw [← h.get?_eq_some, ← h'.get?_eq_some, heq]
  have hperm : ts.Perm us := (List.perm_ext_iff_of_nodup (h.imp ?_) (h'.imp ?_)).mpr hmem
  · exact hperm.eq_of_pairwise (fun t u _ _ htu hut => absurd htu (Nat.lt_asymm hut)) h h'
  · intro t u hlt heq
    exact Nat.ne_of_lt hlt (congrArg Prod.fst heq)
  · intro t u hlt heq
    exact Nat.ne_of_lt hlt (congrArg Prod.fst heq)

theorem get?_drop (h : ts.Ascending) (i j : Nat) :
    (ts.drop i).get? j = if j = i then none else ts.get? j := by
  split_ifs with hij
  · subst hij
    induction ts with
    | nil => rfl
    | cons t ts ih =>
      obtain ⟨k, d⟩ := t
      obtain ⟨hlow, hts⟩ := ascending_cons.mp h
      rw [Terms.drop]
      split_ifs with hk
      · subst hk
        exact get?_eq_none_of_lt hlow
      · rw [get?_cons, if_neg hk, ih hts]
  · exact get?_drop_of_ne hij ts

/-- Every variable of `us` is reached once, so steps that change one coefficient each change it at
most once. -/
theorem get?_foldl {step : Terms R → Nat × R → Terms R} {g : Option R → R → Option R}
    (hascending : ∀ {ts : Terms R}, ts.Ascending → ∀ u, (step ts u).Ascending)
    (hstep : ∀ {ts : Terms R}, ts.Ascending → ∀ u j,
      (step ts u).get? j = if j = u.1 then g (ts.get? j) u.2 else ts.get? j)
    (h : ts.Ascending) (hus : us.Ascending) (j : Nat) :
    Terms.get? j (us.foldl step ts) = (us.get? j).elim (ts.get? j) (g (ts.get? j)) := by
  induction us generalizing ts with
  | nil => rfl
  | cons u us ih =>
    obtain ⟨hlow, hus⟩ := ascending_cons.mp hus
    rw [List.foldl_cons, ih (hascending h u) hus, hstep h, get?_cons]
    by_cases hj : j = u.1
    · subst hj
      rw [if_pos rfl, if_pos rfl, get?_eq_none_of_lt hlow]
      rfl
    · rw [if_neg hj, if_neg (Ne.symm hj)]

end Ascending

variable [Scalar R]

/-- The coefficient of a variable, zero where it has no term. -/
def coefficient (ts : Terms R) (j : Nat) : R :=
  (ts.get? j).getD 0

theorem coefficient_of_none {j : Nat} (h : ts.get? j = none) : ts.coefficient j = 0 := by
  rw [coefficient, h]
  rfl

theorem coefficient_of_some {j : Nat} {c : R} (h : ts.get? j = some c) : ts.coefficient j = c := by
  rw [coefficient, h]
  rfl

/-- A coefficient that is kept unless it compares equal to zero. -/
def kept (c : R) : Option R :=
  if c == 0 then none else some c

namespace Ascending

theorem get?_add (h : ts.Ascending) (i : Nat) (c : R) (j : Nat) :
    (ts.add i c).get? j = if j = i then kept ((ts.get? j).getD 0 + c) else ts.get? j := by
  split_ifs with hij
  · subst hij
    simp only [Terms.add, kept]
    split_ifs
    · rw [h.get?_drop, if_pos rfl]
    · exact get?_put_self ..
  · exact get?_add_of_ne hij c ts

theorem get?_merge (h : ts.Ascending) (hus : us.Ascending) (j : Nat) :
    (ts.merge us).get? j =
      (us.get? j).elim (ts.get? j) fun c => kept ((ts.get? j).getD 0 + c) :=
  get?_foldl (g := fun old c => kept (old.getD 0 + c)) (fun h u => h.add u.1 u.2)
    (fun h u => h.get?_add u.1 u.2) h hus j

theorem get?_combine (h : ts.Ascending) (hus : us.Ascending) (f : R → R → R) (j : Nat) :
    (Pending.combine f ts us).get? j =
      (us.get? j).elim (ts.get? j) fun c => some (f ((ts.get? j).getD 0) c) := by
  refine get?_foldl (g := fun old c => some (f (old.getD 0) c)) (fun h u => h.put u.1 _)
    (fun h u j => ?_) h hus j
  rw [get?_put]
  split_ifs with hj
  · rw [hj]
  · rfl

theorem get?_filter (h : ts.Ascending) (j : Nat) :
    Terms.get? j (List.filter (fun t : Nat × R => !(t.2 == 0)) ts) = (ts.get? j).bind kept := by
  induction ts with
  | nil => rfl
  | cons t ts ih =>
    obtain ⟨i, d⟩ := t
    obtain ⟨hlow, hts⟩ := ascending_cons.mp h
    by_cases hd : (d == 0) = true
    · rw [List.filter_cons_of_neg (by simpa using hd), ih hts, get?_cons]
      split_ifs with hij
      · subst hij
        rw [get?_eq_none_of_lt hlow]
        simp [kept, hd]
      · rfl
    · rw [List.filter_cons_of_pos (by simpa using hd), get?_cons, get?_cons]
      split_ifs with hij
      · simp [kept, hd]
      · exact ih hts

theorem get?_scale (h : ts.Ascending) (k : R) (j : Nat) :
    (ts.scale k).get? j = (ts.get? j).bind fun c => kept (c * k) := by
  have hscaled := (h.mapCoeffs (· * k)).get?_filter j
  rw [get?_mapCoeffs, Option.bind_map] at hscaled
  exact hscaled

theorem get?_reduceTerms (h : ts.Ascending) (hus : us.Ascending) (j : Nat) :
    (Pending.reduceTerms ts us).get? j =
      let left := (ts.get? j).map (0 + ·)
      ((us.get? j).elim left fun c => some (left.getD 0 - c)).bind kept := by
  have hleft := ascending_nil.combine (· + ·) ts
  have hget : (Pending.combine (· + ·) [] ts).get? j = (ts.get? j).map (0 + ·) := by
    rw [ascending_nil.get?_combine h]
    cases ts.get? j <;> rfl
  rw [Pending.reduceTerms, (hleft.combine (· - ·) us).get?_filter, hleft.get?_combine hus, hget]

end Ascending

theorem Nonzero.of_get? (h : ts.Nonzero) (hts : ts.Ascending) {j : Nat} {c : R}
    (hget : ts.get? j = some c) : (c == 0) = false :=
  h (j, c) (hts.get?_eq_some.mp hget)

theorem kept_of_ne {c : R} (hc : (c == 0) = false) : kept c = some c := by
  simp [kept, hc]

theorem Nonzero.kept_get? (h : ts.Nonzero) (hts : ts.Ascending) (j : Nat) :
    (ts.get? j).bind kept = ts.get? j := by
  cases hget : ts.get? j with
  | none => rfl
  | some c => exact kept_of_ne (h.of_get? hts hget)

end LinearModel.Terms
