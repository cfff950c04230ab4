import LinearModel.Proofs.Gags

/-!
# Shared gags

Handles on a stream come and go in any order, and the system may refuse any opening. At every moment
a gag has as many holders as there are live handles on it, no stream has two gags with holders, and
a stream is silent exactly while a handle on it is alive.
-/

namespace LinearModel

namespace StreamHandle

theorem beq_mk (h : StreamHandle) (gag : Nat) : (h == ⟨h.stream, gag⟩) = true ↔ gag = h.gag := by
  rw [beq_iff_eq]
  constructor
  · exact fun heq => (congrArg StreamHandle.gag heq).symm
  · rintro rfl
    rfl

theorem ne_mk {h : StreamHandle} {id : StreamId} (hid : id ≠ h.stream) (gag : Nat) :
    h ≠ ⟨id, gag⟩ :=
  fun heq => hid (congrArg StreamHandle.stream heq).symm

end StreamHandle

/-- The streams and the live handles on them, whoever holds them. -/
structure Held where
  streams : Streams := {}
  handles : List StreamHandle := []

namespace Held

/-- What a holder can ask for; a handle that is not alive cannot be dropped. -/
inductive Request where
  | one (id : StreamId) (refusals : Streams.Refusals)
  | both (refusals : Streams.Refusals)
  | unless (showLog : Bool) (refusals : Streams.Refusals)
  | drop (h : StreamHandle)

def empty : Held := {}

def perform (s : Held) : Request → Held
  | .one id refusals =>
    match s.streams.acquire id refusals with
    | .ok (h, streams) => ⟨streams, h :: s.handles⟩
    | .error _ => s
  | .both refusals =>
    match s.streams.acquireBoth refusals with
    | (.ok handles, streams) => ⟨streams, handles ++ s.handles⟩
    | (.error _, streams) => ⟨streams, s.handles⟩
  | .unless showLog refusals =>
    match s.streams.acquireUnless showLog refusals with
    | (some handles, streams) => ⟨streams, handles ++ s.handles⟩
    | (none, streams) => ⟨streams, s.handles⟩
  | .drop h => if h ∈ s.handles then ⟨s.streams.release h, s.handles.erase h⟩ else s

def after (s : Held) (requests : List Request) : Held :=
  requests.foldl perform s

/-- Every gag has as many holders as there are live handles on it. How many gags without holders are
still to be taken off a stream is said by `leaving`. -/
structure Sound (s : Held) (leaving : StreamId → Nat) : Prop where
  steady : ∀ id, (s.streams.get id).Steady (leaving id)
  holders : ∀ id gag, (s.streams.get id).holders gag = s.handles.count ⟨id, gag⟩

abbrev AtRest (s : Held) : Prop :=
  s.Sound fun _ => 0

theorem atRest_empty : empty.AtRest := by
  constructor
  · rintro (_ | _) <;> exact Stream.steady_empty
  · rintro (_ | _) gag <;> rfl

namespace Sound

variable {s : Held} {leaving : StreamId → Nat}

theorem holders_ne_zero (hs : s.Sound leaving) {id : StreamId} {gag : Nat} :
    (s.streams.get id).holders gag ≠ 0 ↔ ⟨id, gag⟩ ∈ s.handles := by
  rw [hs.holders, ← List.count_pos_iff, Nat.pos_iff_ne_zero]

theorem exists_holders (hs : s.Sound leaving) (id : StreamId) :
    (∃ gag, (s.streams.get id).holders gag ≠ 0) ↔ ∃ h ∈ s.handles, h.stream = id := by
  simp only [hs.holders_ne_zero]
  constructor
  · rintro ⟨gag, hmem⟩
    exact ⟨_, hmem, rfl⟩
  · rintro ⟨h, hmem, rfl⟩
    exact ⟨h.gag, hmem⟩

theorem unheld (hs : s.Sound leaving) {id : StreamId} (h : ∀ h ∈ s.handles, h.stream ≠ id)
    (gag : Nat) : (s.streams.get id).holders gag = 0 := by
  by_contra hne
  exact h _ (hs.holders_ne_zero.mp hne) rfl

theorem of_set (hs : s.Sound leaving) {id : StreamId} {stream : Stream}
    {handles : List StreamHandle} {leaving' : StreamId → Nat}
    (hsteady : stream.Steady (leaving' id))
    (hholders : ∀ gag, stream.holders gag = handles.count ⟨id, gag⟩)
    (hleaving : ∀ id', id' ≠ id → leaving' id' = leaving id')
    (hhandles : ∀ id', id' ≠ id → ∀ gag, handles.count ⟨id', gag⟩ = s.handles.count ⟨id', gag⟩) :
    Sound ⟨s.streams.set id stream, handles⟩ leaving' := by
  constructor
  · intro id'
    by_cases hid : id' = id
    · subst hid
      rw [Streams.get_set_self]
      exact hsteady
    · rw [Streams.get_set_of_ne hid, hleaving id' hid]
      exact hs.steady id'
  · intro id' gag
    by_cases hid : id' = id
    · subst hid
      rw [Streams.get_set_self]
      exact hholders gag
    · rw [Streams.get_set_of_ne hid, hhandles id' hid]
      exact hs.holders id' gag

theorem acquired (hs : s.Sound leaving) {id : StreamId} {refusals : Streams.Refusals}
    {h : StreamHandle} {t : Streams} (hok : s.streams.acquire id refusals = .ok (h, t)) :
    Sound ⟨t, h :: s.handles⟩ leaving := by
  obtain ⟨stream, hstream, rfl, rfl⟩ := Streams.acquire_eq_ok.mp hok
  refine hs.of_set ((hs.steady _).acquire hstream) (fun gag => ?_) (fun _ _ => rfl)
    fun id' hid gag => ?_
  · rw [(hs.steady _).holders_acquire hstream, hs.holders, List.count_cons]
    simp only [h.beq_mk]
  · exact List.count_cons_of_ne (StreamHandle.ne_mk hid gag)

theorem erased (hs : s.Sound leaving) {h : StreamHandle} {stream : Stream}
    {leaving' : StreamId → Nat} (hsteady : stream.Steady (leaving' h.stream))
    (hholders : ∀ gag, stream.holders gag =
      (s.streams.get h.stream).holders gag - if gag = h.gag then 1 else 0)
    (hleaving : ∀ id, id ≠ h.stream → leaving' id = leaving id) :
    Sound ⟨s.streams.set h.stream stream, s.handles.erase h⟩ leaving' := by
  refine hs.of_set hsteady (fun gag => ?_) hleaving fun id hid gag => ?_
  · rw [hholders, hs.holders, List.count_erase]
    simp only [h.beq_mk]
  · exact List.count_erase_of_ne (StreamHandle.ne_mk hid gag).symm

theorem of_perm (hs : s.Sound leaving) {handles : List StreamHandle}
    (h : s.handles.Perm handles) : Sound ⟨s.streams, handles⟩ leaving :=
  ⟨hs.steady, fun id gag => (hs.holders id gag).trans (h.count_eq _)⟩

/-- Where there is a handle no gag is opened. -/
theorem acquire_of_mem (hs : s.Sound leaving) {h : StreamHandle} (hmem : h ∈ s.handles)
    (refusals : Streams.Refusals) :
    s.streams.acquire h.stream refusals =
      .ok (h, s.streams.set h.stream ((s.streams.get h.stream).join h.gag)) := by
  have hheld : (s.streams.get h.stream).holders h.gag ≠ 0 := hs.holders_ne_zero.mpr hmem
  rw [Streams.acquire, (hs.steady h.stream).acquire_of_holders hheld]
  rfl

theorem acquire_of_leaving (hs : s.Sound leaving) {id : StreamId} (h : leaving id ≠ 0)
    (refusals : Streams.Refusals) : s.streams.acquire id refusals = .error .taken := by
  rw [Streams.acquire_eq_error]
  exact (hs.steady id).acquire_of_leaving h (refusals id)

theorem acquire_of_unheld (hs : s.Sound leaving) {id : StreamId} (hleaving : leaving id = 0)
    (h : ∀ h ∈ s.handles, h.stream ≠ id) (refusals : Streams.Refusals) :
    s.streams.acquire id refusals = match refusals id with
      | some message => .error (.refused message)
      | none => .ok (⟨id, (s.streams.get id).counts.length⟩,
          s.streams.set id (s.streams.get id).opened) := by
  have hsteady : (s.streams.get id).Steady 0 := hleaving ▸ hs.steady id
  rw [Streams.acquire, hsteady.acquire_of_free (hs.unheld h)]
  cases refusals id <;> rfl

end Sound

namespace AtRest

variable {s : Held}

theorem isSilent (hs : s.AtRest) (id : StreamId) :
    (s.streams.get id).isSilent = true ↔ ∃ h ∈ s.handles, h.stream = id := by
  rw [Stream.isSilent, (hs.steady id).gagged, hs.exists_holders, or_iff_left (not_not.mpr rfl)]

/-- What the streams are like depends on the live handles alone. -/
theorem alike (hs : s.AtRest) {t : Streams} (ht : AtRest ⟨t, s.handles⟩) (id : StreamId) :
    (t.get id).Alike (s.streams.get id) :=
  (ht.steady id).alike (hs.steady id) fun gag => (ht.holders id gag).trans (hs.holders id gag).symm

theorem released (hs : s.AtRest) {h : StreamHandle} (hmem : h ∈ s.handles) :
    AtRest ⟨s.streams.release h, s.handles.erase h⟩ := by
  have hheld : (s.streams.get h.stream).holders h.gag ≠ 0 := hs.holders_ne_zero.mpr hmem
  exact hs.erased ((hs.steady h.stream).release hheld) (Stream.holders_release _ _)
    fun _ _ => rfl

theorem gag_unique (hs : s.AtRest) {h h' : StreamHandle} (hmem : h ∈ s.handles)
    (hmem' : h' ∈ s.handles) (hid : h.stream = h'.stream) : h.gag = h'.gag := by
  have hheld : (s.streams.get h.stream).holders h.gag ≠ 0 := hs.holders_ne_zero.mpr hmem
  have hheld' : (s.streams.get h'.stream).holders h'.gag ≠ 0 := hs.holders_ne_zero.mpr hmem'
  rw [← hid] at hheld'
  exact (hs.steady h.stream).eq_of_holders hheld hheld'

theorem acquire_error (hs : s.AtRest) {id : StreamId} {refusals : Streams.Refusals}
    {fault : SilenceFault} (h : s.streams.acquire id refusals = .error fault) :
    ∃ message, refusals id = some message ∧ fault = .refused message := by
  by_cases hheld : ∃ h ∈ s.handles, h.stream = id
  · obtain ⟨h', hmem, rfl⟩ := hheld
    rw [hs.acquire_of_mem hmem] at h
    cases h
  · have hunheld : ∀ h ∈ s.handles, h.stream ≠ id := by simpa using hheld
    rw [hs.acquire_of_unheld rfl hunheld] at h
    split at h
    · cases h
      exact ⟨_, ‹_›, rfl⟩
    · cases h

/-- Where the second stream is refused the handle on the first is given back, and with it the gag if
it was a new one. -/
theorem acquireBoth_error (hs : s.AtRest) {refusals : Streams.Refusals} {fault : SilenceFault}
    {t : Streams} (h : s.streams.acquireBoth refusals = (.error fault, t)) :
    AtRest ⟨t, s.handles⟩ ∧
      ∃ id message, refusals id = some message ∧ fault = .refused message := by
  unfold Streams.acquireBoth at h
  split at h
  · rename_i hout
    cases h
    exact ⟨hs, .stdout, hs.acquire_error hout⟩
  · rename_i out u hout
    have hu : AtRest ⟨u, out :: s.handles⟩ := hs.acquired hout
    split at h
    · rename_i herr
      cases h
      have hback := hu.released (h := out) List.mem_cons_self
      rw [List.erase_cons_head] at hback
      exact ⟨hback, .stderr, hu.acquire_error herr⟩
    · cases h

theorem acquireBoth_ok (hs : s.AtRest) {refusals : Streams.Refusals}
    {handles : List StreamHandle} {t : Streams}
    (h : s.streams.acquireBoth refusals = (.ok handles, t)) :
    AtRest ⟨t, handles ++ s.handles⟩ ∧ handles.map StreamHandle.stream = [.stdout, .stderr] := by
  unfold Streams.acquireBoth at h
  split at h
  · cases h
  · rename_i out u hout
    have hu : AtRest ⟨u, out :: s.handles⟩ := hs.acquired hout
    split at h
    · cases h
    · rename_i err v herr
      cases h
      have hv : AtRest ⟨t, err :: out :: s.handles⟩ := hu.acquired herr
      obtain ⟨-, -, hfirst, -⟩ := Streams.acquire_eq_ok.mp hout
      obtain ⟨-, -, hsecond, -⟩ := Streams.acquire_eq_ok.mp herr
      refine ⟨hv.of_perm (List.Perm.swap ..), ?_⟩
      simp only [List.map_cons, List.map_nil, hfirst, hsecond]

theorem perform (hs : s.AtRest) (r : Request) : (s.perform r).AtRest := by
  cases r with
  | one id refusals =>
    simp only [Held.perform]
    split
    · rename_i hok
      exact hs.acquired hok
    · exact hs
  | both refusals =>
    simp only [Held.perform]
    split
    · rename_i hok
      exact (hs.acquireBoth_ok hok).1
    · rename_i herror
      exact (hs.acquireBoth_error herror).1
  | «unless» showLog refusals =>
    simp only [Held.perform, Streams.acquireUnless]
    cases showLog with
    | true => exact hs
    | false =>
      rcases hboth : s.streams.acquireBoth refusals with ⟨fault | handles, t⟩
      · exact (hs.acquireBoth_error hboth).1
      · exact (hs.acquireBoth_ok hboth).1
  | drop h =>
    simp only [Held.perform]
    split_ifs with hmem
    · exact hs.released hmem
    · exact hs

theorem after (hs : s.AtRest) (requests : List Request) : (s.after requests).AtRest := by
  induction requests generalizing s with
  | nil => exact hs
  | cons r requests ih => exact ih (hs.perform r)

theorem released_of_mem (hs : s.AtRest) {h h' : StreamHandle} (hmem : h ∈ s.handles)
    (hmem' : h' ∈ s.handles.erase h) :
    let stream := (s.streams.release h).get h'.stream
    stream.isSilent = true ∧ stream.shared? = some h'.gag := by
  have hnext := hs.released hmem
  have hheld : ((s.streams.release h).get h'.stream).holders h'.gag ≠ 0 :=
    hnext.holders_ne_zero.mpr hmem'
  exact ⟨(hnext.isSilent h'.stream).mpr ⟨h', hmem', rfl⟩,
    (hnext.steady h'.stream).shared?_of_holders hheld⟩

theorem released_last (hs : s.AtRest) {h : StreamHandle} (hmem : h ∈ s.handles)
    (hlast : ∀ h' ∈ s.handles.erase h, h'.stream ≠ h.stream) :
    ((s.streams.release h).get h.stream).isSilent = false := by
  rw [Bool.eq_false_iff, ne_eq, (hs.released hmem).isSilent h.stream]
  rintro ⟨h', hmem', hid⟩
  exact hlast h' hmem' hid

/-- Both streams or neither. -/
theorem acquireBoth_cases (hs : s.AtRest) (refusals : Streams.Refusals) :
    match s.streams.acquireBoth refusals with
    | (.ok handles, _) => handles.map StreamHandle.stream = [.stdout, .stderr]
    | (.error fault, t) => (∃ id message, refusals id = some message ∧ fault = .refused message) ∧
        ∀ id, (t.get id).Alike (s.streams.get id) := by
  rcases hboth : s.streams.acquireBoth refusals with ⟨fault | handles, t⟩
  · obtain ⟨ht, hrefused⟩ := hs.acquireBoth_error hboth
    exact ⟨hrefused, hs.alike ht⟩
  · exact (hs.acquireBoth_ok hboth).2

theorem acquireUnless_cases (hs : s.AtRest) (refusals : Streams.Refusals) :
    match s.streams.acquireUnless false refusals with
    | (some handles, _) => handles.map StreamHandle.stream = [.stdout, .stderr]
    | (none, t) => ∀ id, (t.get id).Alike (s.streams.get id) := by
  have hcases := hs.acquireBoth_cases refusals
  rcases hboth : s.streams.acquireBoth refusals with ⟨fault | handles, t⟩ <;> rw [hboth] at hcases
  · simp only [Streams.acquireUnless, hboth]
    exact hcases.2
  · simp only [Streams.acquireUnless, hboth]
    exact hcases

end AtRest

/-! ## The numbers of gags -/

theorem older_perform (s : Held) (r : Request) : s.streams.Older (s.perform r).streams := by
  cases r with
  | one id refusals =>
    simp only [perform]
    split
    · rename_i hok
      exact .acquire hok
    · exact .refl _
  | both refusals =>
    have holder := Streams.Older.acquireBoth s.streams refusals
    simp only [perform]
    split <;> rename_i heq <;> rwa [heq] at holder
  | «unless» showLog refusals =>
    have holder := Streams.Older.acquireUnless s.streams showLog refusals
    simp only [perform]
    split <;> rename_i heq <;> rwa [heq] at holder
  | drop h =>
    simp only [perform]
    split_ifs
    · exact .release _ _
    · exact .refl _

theorem older_after (s : Held) (requests : List Request) :
    s.streams.Older (s.after requests).streams := by
  induction requests generalizing s with
  | nil => exact .refl _
  | cons r requests ih => exact (older_perform s r).trans (ih (s.perform r))

theorem gag_lt_next {before requests : List Request} (hbefore : before <+: requests)
    {h : StreamHandle} (hmem : h ∈ (empty.after before).handles) :
    h.gag < ((empty.after requests).streams.get h.stream).counts.length := by
  obtain ⟨later, rfl⟩ := hbefore
  have hheld : ((empty.after before).streams.get h.stream).holders h.gag ≠ 0 :=
    (atRest_empty.after before).holders_ne_zero.mpr hmem
  have hsplit : empty.after (before ++ later) = (empty.after before).after later :=
    List.foldl_append
  rw [hsplit]
  exact Nat.lt_of_lt_of_le (Stream.lt_length_of_holders hheld)
    (older_after (empty.after before) later h.stream)

/-- After any run a gag counts the live handles on it, those on one stream share one, and the stream
is silent as long as there are any. A new handle shares that gag or, where there is none, opens a
new one unless the system refuses. The last handle to be dropped takes the gag off. What fails
leaves the streams as they were. -/
theorem runs_share_gags (requests : List Request) :
    let s := empty.after requests
    (∀ id gag, (s.streams.get id).holders gag = s.handles.count ⟨id, gag⟩) ∧
    (∀ h ∈ s.handles, ∀ h' ∈ s.handles, h.stream = h'.stream → h.gag = h'.gag) ∧
    (∀ id, (s.streams.get id).isSilent = true ↔ ∃ h ∈ s.handles, h.stream = id) ∧
    (∀ h ∈ s.handles, ∀ refusals, s.streams.acquire h.stream refusals =
      .ok (h, s.streams.set h.stream ((s.streams.get h.stream).join h.gag))) ∧
    (∀ id, (∀ h ∈ s.handles, h.stream ≠ id) →
      let new : StreamHandle := ⟨id, (s.streams.get id).counts.length⟩
      (∀ before, before <+: requests → new ∉ (empty.after before).handles) ∧
      ∀ refusals, s.streams.acquire id refusals = match refusals id with
        | some message => .error (.refused message)
        | none => .ok (new, s.streams.set id (s.streams.get id).opened)) ∧
    (∀ id refusals fault, s.streams.acquire id refusals = .error fault →
      s.perform (.one id refusals) = s) ∧
    (∀ h ∈ s.handles,
      let t := s.streams.release h
      (∀ id, id ≠ h.stream → t.get id = s.streams.get id) ∧
      (∀ h' ∈ s.handles.erase h,
        (t.get h'.stream).isSilent = true ∧ (t.get h'.stream).shared? = some h'.gag) ∧
      ((∀ h' ∈ s.handles.erase h, h'.stream ≠ h.stream) → (t.get h.stream).isSilent = false)) ∧
    (∀ refusals,
      match s.streams.acquireBoth refusals with
      | (.ok handles, _) => handles.map StreamHandle.stream = [.stdout, .stderr]
      | (.error fault, t) =>
          (∃ id message, refusals id = some message ∧ fault = .refused message) ∧
          ∀ id, (t.get id).Alike (s.streams.get id)) ∧
    ∀ refusals,
      s.streams.acquireUnless true refusals = (none, s.streams) ∧
      match s.streams.acquireUnless false refusals with
      | (some handles, _) => handles.map StreamHandle.stream = [.stdout, .stderr]
      | (none, t) => ∀ id, (t.get id).Alike (s.streams.get id) := by
  intro s
  have hs : s.AtRest := atRest_empty.after requests
  refine ⟨hs.holders, fun h hmem h' hmem' => hs.gag_unique hmem hmem', hs.isSilent,
    fun h hmem => hs.acquire_of_mem hmem, fun id hnone => ⟨?_, hs.acquire_of_unheld rfl hnone⟩,
    fun id refusals fault herror => ?_, fun h hmem => ⟨fun id hid => ?_,
      fun h' => hs.released_of_mem hmem, hs.released_last hmem⟩,
    hs.acquireBoth_cases, fun refusals => ⟨rfl, hs.acquireUnless_cases refusals⟩⟩
  · intro before hbefore hmem
    exact absurd (gag_lt_next hbefore hmem) (Nat.lt_irrefl _)
  · rw [perform, herror]
  · exact Streams.get_set_of_ne hid s.streams _

end Held

end LinearModel
