import Mathlib.Data.List.GetD
import Mathlib.Order.Basic
import LinearModel.Proofs.Outcome
import LinearModel.Silence

/-!
# The gags of a stream

What taking and letting go of handles does to the holders of each gag, and to a stream on which at
most one gag has holders.
-/

namespace LinearModel

namespace Stream

/-! ## The holders of a gag -/

theorem lt_length_of_holders {s : Stream} {gag : Nat} (h : s.holders gag ≠ 0) :
    gag < s.counts.length := by
  by_contra hge
  exact h (List.getD_eq_default _ _ (Nat.le_of_not_lt hge))

theorem holders_join {s : Stream} {gag : Nat} (h : s.holders gag ≠ 0) (g : Nat) :
    (s.join gag).holders g = s.holders g + if g = gag then 1 else 0 := by
  have hlt := lt_length_of_holders h
  simp only [holders, join, List.getD_eq_getElem?_getD, List.getElem?_modify]
  by_cases hg : g = gag
  · subst hg
    simp [hlt]
  · simp [hg, Ne.symm hg]

theorem holders_letGo (s : Stream) (gag g : Nat) :
    (s.letGo gag).holders g = s.holders g - if g = gag then 1 else 0 := by
  simp only [holders, letGo, List.getD_eq_getElem?_getD, List.getElem?_modify]
  by_cases hg : g = gag
  · subst hg
    cases s.counts[g]? <;> simp
  · simp [hg, Ne.symm hg]

/-- The stream with a new gag on it that has one handle. -/
def opened (s : Stream) : Stream where
  gagged := true
  current := some s.counts.length
  counts := s.counts ++ [1]

theorem holders_opened (s : Stream) (g : Nat) :
    s.opened.holders g = s.holders g + if g = s.counts.length then 1 else 0 := by
  rcases Nat.lt_trichotomy g s.counts.length with hlt | rfl | hgt
  · rw [holders, opened, List.getD_append _ _ _ _ hlt, if_neg (Nat.ne_of_lt hlt)]
    rfl
  · simp [holders, opened]
  · have hnone : (s.counts ++ [1]).length ≤ g := by
      rw [List.length_append, List.length_singleton]
      omega
    have hold : s.holders g = 0 := List.getD_eq_default _ _ (Nat.le_of_lt hgt)
    rw [holders, opened, List.getD_eq_default _ _ hnone, hold, if_neg (Nat.ne_of_gt hgt)]

theorem holders_release (s : Stream) (gag g : Nat) :
    (s.release gag).holders g = s.holders g - if g = gag then 1 else 0 := by
  rw [← holders_letGo, release]
  split_ifs <;> rfl

theorem shared?_eq_some {s : Stream} {gag : Nat} :
    s.shared? = some gag ↔ s.current = some gag ∧ s.holders gag ≠ 0 := by
  simp [shared?, Option.filter_eq_some_iff]

theorem length_counts_acquire {s t : Stream} {refusal : Option String} {gag : Nat}
    (h : s.acquire refusal = .ok (gag, t)) : s.counts.length ≤ t.counts.length := by
  unfold acquire at h
  split at h
  · cases h
    exact Nat.le_of_eq (List.length_modify ..).symm
  · obtain ⟨u, hu, heq⟩ := map_eq_ok.mp h
    cases heq
    have hcounts : u.counts = s.counts := by
      unfold putOn at hu
      split at hu
      · cases hu
      · split at hu <;> cases hu
        rfl
    simp [hcounts]

theorem length_counts_release (s : Stream) (gag : Nat) :
    (s.release gag).counts.length = s.counts.length := by
  have hletGo : (s.letGo gag).counts.length = s.counts.length := List.length_modify ..
  rw [release]
  split_ifs <;> exact hletGo

/-! ## Streams whose gag has holders or is being taken off -/

/-- At most one gag has holders, the one that was shared last. The stream is silent while it does,
and still is while a gag without holders is to be taken off, which `leaving` counts. -/
structure Steady (s : Stream) (leaving : Nat) : Prop where
  current : ∀ gag, s.holders gag ≠ 0 → s.current = some gag
  gagged : s.gagged = true ↔ (∃ gag, s.holders gag ≠ 0) ∨ leaving ≠ 0
  leaving_le : leaving ≤ 1
  unheld : leaving ≠ 0 → ∀ gag, s.holders gag = 0

theorem steady_empty : Steady {} 0 :=
  ⟨fun _ h => absurd rfl h, by simp [holders], Nat.zero_le 1, fun h => absurd rfl h⟩

namespace Steady

variable {s t : Stream} {leaving gag : Nat}

theorem shared?_of_holders (hs : s.Steady leaving) (h : s.holders gag ≠ 0) :
    s.shared? = some gag :=
  shared?_eq_some.mpr ⟨hs.current gag h, h⟩

theorem eq_of_holders (hs : s.Steady leaving) {gag' : Nat} (h : s.holders gag ≠ 0)
    (h' : s.holders gag' ≠ 0) : gag = gag' :=
  Option.some.inj ((hs.current gag h).symm.trans (hs.current gag' h'))

theorem shared?_of_unheld (h : ∀ gag, s.holders gag = 0) : s.shared? = none := by
  by_contra hne
  obtain ⟨gag, hgag⟩ := Option.ne_none_iff_exists'.mp hne
  exact (shared?_eq_some.mp hgag).2 (h gag)

/-- A new handle joins the gag that has holders, whatever the system would say. -/
theorem acquire_of_holders (hs : s.Steady leaving) (h : s.holders gag ≠ 0)
    (refusal : Option String) : s.acquire refusal = .ok (gag, s.join gag) := by
  simp only [acquire, hs.shared?_of_holders h]

theorem acquire_of_unheld (h : ∀ gag, s.holders gag = 0) (refusal : Option String) :
    s.acquire refusal = s.openGag refusal := by
  simp only [acquire, shared?_of_unheld h]

/-- A stream whose gag is still to be taken off takes no other. -/
theorem acquire_of_leaving (hs : s.Steady leaving) (h : leaving ≠ 0) (refusal : Option String) :
    s.acquire refusal = .error .taken := by
  have hgagged : s.gagged = true := hs.gagged.mpr (.inr h)
  rw [acquire_of_unheld (hs.unheld h)]
  simp only [openGag, putOn, if_pos hgagged]
  rfl

/-- Where nothing is on the stream a new gag is opened, unless the system refuses. -/
theorem acquire_of_free (hs : s.Steady 0) (h : ∀ gag, s.holders gag = 0)
    (refusal : Option String) :
    s.acquire refusal = match refusal with
      | some message => .error (.refused message)
      | none => .ok (s.counts.length, s.opened) := by
  have hgagged : ¬s.gagged = true := by
    rw [hs.gagged]
    rintro (⟨gag, hgag⟩ | hne)
    · exact hgag (h gag)
    · exact hne rfl
  rw [acquire_of_unheld h]
  simp only [openGag, putOn, if_neg hgagged]
  cases refusal <;> rfl

/-- An acquisition joins the gag with holders, or opens one on a free stream. -/
theorem acquire_cases (hs : s.Steady leaving) {refusal : Option String}
    (h : s.acquire refusal = .ok (gag, t)) :
    (s.holders gag ≠ 0 ∧ t = s.join gag) ∨
    ((∀ g, s.holders g = 0) ∧ leaving = 0 ∧ gag = s.counts.length ∧ t = s.opened) := by
  by_cases hheld : ∃ g, s.holders g ≠ 0
  · obtain ⟨g, hg⟩ := hheld
    rw [hs.acquire_of_holders hg] at h
    cases h
    exact .inl ⟨hg, rfl⟩
  · have hunheld : ∀ g, s.holders g = 0 := by simpa using hheld
    by_cases hleaving : leaving = 0
    · subst hleaving
      rw [hs.acquire_of_free hunheld] at h
      cases refusal with
      | some message => cases h
      | none =>
        cases h
        exact .inr ⟨hunheld, rfl, rfl, rfl⟩
    · rw [hs.acquire_of_leaving hleaving] at h
      cases h

theorem holders_acquire (hs : s.Steady leaving) {refusal : Option String}
    (h : s.acquire refusal = .ok (gag, t)) (g : Nat) :
    t.holders g = s.holders g + if g = gag then 1 else 0 := by
  obtain ⟨hheld, rfl⟩ | ⟨-, -, rfl, rfl⟩ := hs.acquire_cases h
  · exact holders_join hheld g
  · exact s.holders_opened g

theorem acquire (hs : s.Steady leaving) {refusal : Option String}
    (h : s.acquire refusal = .ok (gag, t)) : t.Steady leaving := by
  have hcount := hs.holders_acquire h
  have hgag : t.holders gag ≠ 0 := by
    rw [hcount, if_pos rfl]
    omega
  obtain ⟨hheld, rfl⟩ | ⟨hunheld, rfl, rfl, rfl⟩ := hs.acquire_cases h
  · have hleaving : leaving = 0 := by
      by_contra hne
      exact hheld (hs.unheld hne gag)
    refine ⟨fun g hg => ?_, ?_, hs.leaving_le, fun hne => absurd hleaving hne⟩
    · rw [hcount] at hg
      split_ifs at hg with heq
      · subst heq
        exact hs.current g hheld
      · exact hs.current g hg
    · have hgagged : s.gagged = true := hs.gagged.mpr (.inl ⟨gag, hheld⟩)
      exact iff_of_true hgagged (.inl ⟨gag, hgag⟩)
  · refine ⟨fun g hg => ?_, iff_of_true rfl (.inl ⟨_, hgag⟩), Nat.zero_le 1,
      fun hne => absurd rfl hne⟩
    rw [hcount, hunheld] at hg
    split_ifs at hg with heq
    · rw [heq]
      rfl
    · exact absurd rfl hg

/-- The gag of the last holder stays on, without holders. -/
theorem letGo (hs : s.Steady 0) (h : s.holders gag ≠ 0) :
    (s.letGo gag).Steady (if (s.letGo gag).holders gag = 0 then 1 else 0) := by
  have hcount := s.holders_letGo gag
  have hgagged : (s.letGo gag).gagged = true := hs.gagged.mpr (.inl ⟨gag, h⟩)
  have hother : ∀ g, g ≠ gag → (s.letGo gag).holders g = 0 := by
    intro g hg
    have hzero : s.holders g = 0 := by
      by_contra hne
      exact hg (hs.eq_of_holders hne h)
    rw [hcount, hzero, Nat.zero_sub]
  have hcurrent : ∀ g, (s.letGo gag).holders g ≠ 0 → (s.letGo gag).current = some g := by
    intro g hg
    by_cases heq : g = gag
    · subst heq
      exact hs.current g h
    · exact absurd (hother g heq) hg
  split_ifs with hlast
  · refine ⟨hcurrent, iff_of_true hgagged (.inr Nat.one_ne_zero), Nat.le_refl 1, fun _ g => ?_⟩
    by_cases heq : g = gag
    · rw [heq, hlast]
    · exact hother g heq
  · exact ⟨hcurrent, iff_of_true hgagged (.inl ⟨gag, hlast⟩), Nat.zero_le 1,
      fun hne => absurd rfl hne⟩

theorem takeOff (hs : s.Steady 1) : s.takeOff.Steady 0 := by
  have hunheld : ∀ gag, s.takeOff.holders gag = 0 := hs.unheld Nat.one_ne_zero
  refine ⟨fun gag h => absurd (hunheld gag) h, iff_of_false Bool.false_ne_true ?_,
    Nat.zero_le 1, fun hne => absurd rfl hne⟩
  rintro (⟨gag, hgag⟩ | hne)
  · exact hgag (hunheld gag)
  · exact hne rfl

theorem release (hs : s.Steady 0) (h : s.holders gag ≠ 0) : (s.release gag).Steady 0 := by
  have hletGo := hs.letGo h
  rw [Stream.release]
  split_ifs at hletGo ⊢ with hlast
  · exact hletGo.takeOff
  · exact hletGo

end Steady

/-- Nothing that is done with handles can tell two streams apart, but for the number that the next
gag would get. -/
structure Alike (s t : Stream) : Prop where
  gagged : s.gagged = t.gagged
  shared? : s.shared? = t.shared?
  holders : ∀ gag, s.holders gag = t.holders gag

theorem Steady.alike {s t : Stream} (hs : s.Steady 0) (ht : t.Steady 0)
    (h : ∀ gag, s.holders gag = t.holders gag) : s.Alike t := by
  refine ⟨?_, ?_, h⟩
  · rw [Bool.eq_iff_iff, hs.gagged, ht.gagged]
    simp only [h]
  · by_cases hheld : ∃ gag, s.holders gag ≠ 0
    · obtain ⟨gag, hgag⟩ := hheld
      rw [hs.shared?_of_holders hgag, ht.shared?_of_holders (h gag ▸ hgag)]
    · have hunheld : ∀ gag, s.holders gag = 0 := by simpa using hheld
      rw [shared?_of_unheld hunheld, shared?_of_unheld fun gag => h gag ▸ hunheld gag]

end Stream

namespace Streams

@[simp] theorem get_set_self (s : Streams) (id : StreamId) (stream : Stream) :
    (s.set id stream).get id = stream := by
  cases id <;> rfl

theorem get_set_of_ne {id id' : StreamId} (h : id' ≠ id) (s : Streams) (stream : Stream) :
    (s.set id stream).get id' = s.get id' := by
  cases id <;> cases id' <;> first | rfl | exact absurd rfl h

theorem acquire_eq_ok {s t : Streams} {id : StreamId} {refusals : Refusals} {h : StreamHandle} :
    s.acquire id refusals = .ok (h, t) ↔ ∃ stream,
      (s.get id).acquire (refusals id) = .ok (h.gag, stream) ∧ h.stream = id ∧
        t = s.set id stream := by
  simp only [acquire, map_eq_ok, Prod.exists, Prod.mk.injEq]
  constructor
  · rintro ⟨gag, stream, hok, rfl, rfl⟩
    exact ⟨stream, hok, rfl, rfl⟩
  · rintro ⟨stream, hok, rfl, rfl⟩
    exact ⟨h.gag, stream, hok, rfl, rfl⟩

theorem acquire_eq_error {s : Streams} {id : StreamId} {refusals : Refusals}
    {fault : SilenceFault} : s.acquire id refusals = .error fault ↔
      (s.get id).acquire (refusals id) = .error fault := by
  unfold acquire
  cases (s.get id).acquire (refusals id) <;> simp [Except.map]

/-- Gags are numbered on. -/
def Older (s t : Streams) : Prop :=
  ∀ id, (s.get id).counts.length ≤ (t.get id).counts.length

namespace Older

variable {s t u : Streams}

theorem refl (s : Streams) : s.Older s :=
  fun _ => Nat.le_refl _

theorem trans (hst : s.Older t) (htu : t.Older u) : s.Older u :=
  fun id => Nat.le_trans (hst id) (htu id)

theorem set {id : StreamId} {stream : Stream}
    (h : (s.get id).counts.length ≤ stream.counts.length) : s.Older (s.set id stream) := by
  intro id'
  by_cases hid : id' = id
  · subst hid
    rwa [get_set_self]
  · exact Nat.le_of_eq (congrArg (·.counts.length) (get_set_of_ne hid s stream).symm)

theorem acquire {id : StreamId} {refusals : Refusals} {h : StreamHandle}
    (hok : s.acquire id refusals = .ok (h, t)) : s.Older t := by
  obtain ⟨stream, hstream, -, rfl⟩ := acquire_eq_ok.mp hok
  exact set (Stream.length_counts_acquire hstream)

theorem release (s : Streams) (h : StreamHandle) : s.Older (s.release h) :=
  set (Nat.le_of_eq (Stream.length_counts_release _ _).symm)

theorem acquireBoth (s : Streams) (refusals : Refusals) : s.Older (s.acquireBoth refusals).2 := by
  unfold Streams.acquireBoth
  split
  · exact refl s
  · rename_i hout
    split
    · exact (acquire hout).trans (release _ _)
    · rename_i herr
      exact (acquire hout).trans (acquire herr)

theorem acquireUnless (s : Streams) (showLog : Bool) (refusals : Refusals) :
    s.Older (s.acquireUnless showLog refusals).2 := by
  have hboth := acquireBoth s refusals
  unfold Streams.acquireUnless
  split
  · exact refl s
  · split <;> rename_i heq <;> rwa [heq] at hboth

end Older

end Streams

end LinearModel
