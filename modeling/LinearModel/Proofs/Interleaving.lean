import Mathlib.Logic.Relation
import LinearModel.Proofs.SharedGags

/-!
# Threads that share gags

A thread gives up a handle in two steps: it leaves the count of the gag and then, if the count has
reached zero, takes the gag off. Other threads can act between the two. Taking a handle is one step.
-/

namespace LinearModel

namespace Streams

def letGo (s : Streams) (h : StreamHandle) : Streams :=
  s.set h.stream ((s.get h.stream).letGo h.gag)

def takeOff (s : Streams) (id : StreamId) : Streams :=
  s.set id (s.get id).takeOff

/-- The gag of a handle that was just let go has no other. -/
def isLast (s : Streams) (h : StreamHandle) : Prop :=
  ((s.letGo h).get h.stream).holders h.gag = 0

instance (s : Streams) (h : StreamHandle) : Decidable (s.isLast h) :=
  inferInstanceAs (Decidable (_ = 0))

theorem set_set (s : Streams) (id : StreamId) (first second : Stream) :
    (s.set id first).set id second = s.set id second := by
  cases id <;> rfl

theorem release_eq (s : Streams) (h : StreamHandle) :
    s.release h = if s.isLast h then (s.letGo h).takeOff h.stream else s.letGo h := by
  simp only [release, Stream.release, isLast, takeOff, letGo, get_set_self, set_set]
  split_ifs <;> rfl

end Streams

/-- The streams, the handles that each thread holds, and the streams whose gag a thread has still to
take off. -/
structure Threads where
  streams : Streams := {}
  handles : List (Nat × StreamHandle) := []
  leaving : List (Nat × StreamId) := []

namespace Threads

/-- The thread is not in the middle of giving up a handle. -/
def Idle (s : Threads) (thread : Nat) : Prop :=
  ∀ id, (thread, id) ∉ s.leaving

inductive Step : Threads → Threads → Prop where
  | acquire {s : Threads} {thread : Nat} {id : StreamId} {refusals : Streams.Refusals}
      {h : StreamHandle} {streams : Streams} (idle : s.Idle thread)
      (ok : s.streams.acquire id refusals = .ok (h, streams)) :
      Step s ⟨streams, (thread, h) :: s.handles, s.leaving⟩
  | letGo {s : Threads} {thread : Nat} {h : StreamHandle} (idle : s.Idle thread)
      (held : (thread, h) ∈ s.handles) :
      Step s ⟨s.streams.letGo h, s.handles.erase (thread, h),
        if s.streams.isLast h then (thread, h.stream) :: s.leaving else s.leaving⟩
  | takeOff {s : Threads} {thread : Nat} {id : StreamId} (left : (thread, id) ∈ s.leaving) :
      Step s ⟨s.streams.takeOff id, s.handles, s.leaving.erase (thread, id)⟩

def Reachable (s : Threads) : Prop :=
  Relation.ReflTransGen Step {} s

/-- A thread that no other thread comes between gives up a handle as a single thread does. -/
theorem drop_alone {s : Threads} {thread : Nat} {h : StreamHandle} (idle : s.Idle thread)
    (held : (thread, h) ∈ s.handles) :
    Relation.ReflTransGen Step s
      ⟨s.streams.release h, s.handles.erase (thread, h), s.leaving⟩ := by
  have hletGo := Step.letGo idle held
  rw [Streams.release_eq]
  split_ifs at hletGo ⊢ with hlast
  · have htakeOff := Step.takeOff (s := ⟨s.streams.letGo h, s.handles.erase (thread, h),
      (thread, h.stream) :: s.leaving⟩) List.mem_cons_self
    rw [List.erase_cons_head] at htakeOff
    exact (Relation.ReflTransGen.single hletGo).tail htakeOff
  · exact .single hletGo

def held (s : Threads) : Held :=
  ⟨s.streams, s.handles.map Prod.snd⟩

def pending (s : Threads) (id : StreamId) : Nat :=
  (s.leaving.map Prod.snd).count id

theorem pending_ne_zero {s : Threads} {id : StreamId} :
    s.pending id ≠ 0 ↔ ∃ thread, (thread, id) ∈ s.leaving := by
  rw [pending, ← Nat.pos_iff_ne_zero, List.count_pos_iff]
  simp

theorem perm_map_erase {α β : Type} [DecidableEq α] [DecidableEq β] {l : List (α × β)} {a : α}
    {b : β} (h : (a, b) ∈ l) : (l.map Prod.snd).Perm (b :: (l.erase (a, b)).map Prod.snd) :=
  (List.perm_cons_erase h).map Prod.snd

def Sound (s : Threads) : Prop :=
  s.held.Sound s.pending

theorem sound_empty : Sound {} :=
  Held.atRest_empty

variable {s t : Threads}

namespace Sound

theorem letGo (hs : s.Sound) {thread : Nat} {h : StreamHandle} (held : (thread, h) ∈ s.handles) :
    Sound ⟨s.streams.letGo h, s.handles.erase (thread, h),
      if s.streams.isLast h then (thread, h.stream) :: s.leaving else s.leaving⟩ := by
  have hmem : h ∈ s.held.handles := List.mem_map_of_mem held
  have hheld : (s.streams.get h.stream).holders h.gag ≠ 0 := hs.holders_ne_zero.mpr hmem
  -- with a handle on the stream there is no gag to be taken off yet
  have hzero : s.pending h.stream = 0 := by
    by_contra hne
    exact hheld ((hs.steady h.stream).unheld hne h.gag)
  have hsteady := (hzero ▸ hs.steady h.stream : (s.streams.get h.stream).Steady 0).letGo hheld
  have hperm : (s.held.handles.erase h).Perm ((s.handles.erase (thread, h)).map Prod.snd) :=
    ((List.perm_cons_erase hmem).symm.trans (perm_map_erase held)).cons_inv
  have hlast : s.streams.isLast h ↔ ((s.streams.get h.stream).letGo h.gag).holders h.gag = 0 := by
    rw [Streams.isLast, Streams.letGo, Streams.get_set_self]
  have hcount := Stream.holders_letGo (s.streams.get h.stream) h.gag
  split_ifs with hif
  · rw [if_pos (hlast.mp hif)] at hsteady
    refine (hs.erased ?_ hcount fun id hid => ?_).of_perm hperm
    · have hone : pending ⟨s.streams, s.handles, (thread, h.stream) :: s.leaving⟩ h.stream = 1 := by
        rw [pending, List.map_cons, List.count_cons_self, ← pending, hzero]
      exact hone ▸ hsteady
    · exact List.count_cons_of_ne hid.symm
  · rw [if_neg (mt hlast.mpr hif)] at hsteady
    exact (hs.erased (hzero ▸ hsteady) hcount fun _ _ => rfl).of_perm hperm

theorem takeOff (hs : s.Sound) {thread : Nat} {id : StreamId} (left : (thread, id) ∈ s.leaving) :
    Sound ⟨s.streams.takeOff id, s.handles, s.leaving.erase (thread, id)⟩ := by
  have hcount := (perm_map_erase left).count_eq
  have hone : s.pending id = 1 := by
    have hle := (hs.steady id).leaving_le
    have hne : s.pending id ≠ 0 := pending_ne_zero.mpr ⟨thread, left⟩
    omega
  have hsteady : (s.streams.get id).Steady 1 := hone ▸ hs.steady id
  refine hs.of_set ?_ (hs.holders id) (fun id' hid => ?_) fun _ _ _ => rfl
  · have hzero : ((s.leaving.erase (thread, id)).map Prod.snd).count id = 0 := by
      have hthis := hcount id
      rw [List.count_cons_self] at hthis
      exact Nat.succ.inj (hthis.symm.trans hone)
    rw [pending, hzero]
    exact hsteady.takeOff
  · have hthis := hcount id'
    rw [List.count_cons_of_ne (Ne.symm hid)] at hthis
    exact hthis.symm

theorem step (hs : s.Sound) (hstep : Step s t) : t.Sound := by
  cases hstep with
  | acquire idle ok => exact Held.Sound.acquired hs ok
  | letGo idle held => exact hs.letGo held
  | takeOff left => exact hs.takeOff left

end Sound

theorem Reachable.sound (hs : s.Reachable) : s.Sound := by
  induction hs with
  | refl => exact sound_empty
  | tail _ hstep ih => exact ih.step hstep

namespace Reachable

variable {id : StreamId}

theorem acquire_of_leaving (hs : s.Reachable) {thread : Nat} (h : (thread, id) ∈ s.leaving)
    (refusals : Streams.Refusals) : s.streams.acquire id refusals = .error .taken := by
  have hpending : s.pending id ≠ 0 := pending_ne_zero.mpr ⟨thread, h⟩
  exact Held.Sound.acquire_of_leaving hs.sound hpending refusals

theorem acquire_of_held (hs : s.Reachable) {thread : Nat} {h : StreamHandle}
    (hmem : (thread, h) ∈ s.handles) (refusals : Streams.Refusals) :
    ∃ t, s.streams.acquire h.stream refusals = .ok (h, t) := by
  have hheld : h ∈ s.held.handles := List.mem_map_of_mem hmem
  exact ⟨_, Held.Sound.acquire_of_mem hs.sound hheld refusals⟩

theorem acquire_of_free (hs : s.Reachable) (hleft : ∀ thread, (thread, id) ∉ s.leaving)
    (hheld : ∀ thread h, (thread, h) ∈ s.handles → h.stream ≠ id) (refusals : Streams.Refusals)
    (fault : SilenceFault) : s.streams.acquire id refusals = .error fault ↔
      ∃ message, refusals id = some message ∧ fault = .refused message := by
  have hpending : s.pending id = 0 := by
    by_contra hne
    obtain ⟨thread, hthread⟩ := pending_ne_zero.mp hne
    exact hleft thread hthread
  have hunheld : ∀ h ∈ s.held.handles, h.stream ≠ id := by
    intro h hmem
    obtain ⟨⟨thread, _⟩, hmem', rfl⟩ := List.mem_map.mp hmem
    exact hheld thread _ hmem'
  have hacquire := Held.Sound.acquire_of_unheld hs.sound hpending hunheld refusals
  change s.streams.acquire id refusals = _ at hacquire
  rw [hacquire]
  cases refusals id <;> simp [eq_comm]

end Reachable

/-- A thread that asks for a handle is turned away without the system being asked exactly while
some thread has given up the last handle on the stream but not taken the gag off. Otherwise it is
turned away exactly where there is no handle yet and the system refuses. -/
theorem acquire_error_iff (hs : s.Reachable) (id : StreamId) (refusals : Streams.Refusals) :
    (s.streams.acquire id refusals = .error .taken ↔ ∃ thread, (thread, id) ∈ s.leaving) ∧
    ∀ message, s.streams.acquire id refusals = .error (.refused message) ↔
      refusals id = some message ∧ (∀ thread, (thread, id) ∉ s.leaving) ∧
        ∀ thread h, (thread, h) ∈ s.handles → h.stream ≠ id := by
  by_cases hleft : ∃ thread, (thread, id) ∈ s.leaving
  · obtain ⟨thread, hthread⟩ := hleft
    rw [hs.acquire_of_leaving hthread]
    refine ⟨iff_of_true rfl ⟨thread, hthread⟩, fun message => iff_of_false (by simp) ?_⟩
    rintro ⟨-, hnone, -⟩
    exact hnone thread hthread
  · have hnone : ∀ thread, (thread, id) ∉ s.leaving := not_exists.mp hleft
    by_cases hheld : ∃ thread h, (thread, h) ∈ s.handles ∧ h.stream = id
    · obtain ⟨thread, h, hmem, rfl⟩ := hheld
      obtain ⟨t, hok⟩ := hs.acquire_of_held hmem refusals
      rw [hok]
      refine ⟨iff_of_false (by simp) hleft, fun message => iff_of_false (by simp) ?_⟩
      rintro ⟨-, -, hfree⟩
      exact hfree thread h hmem rfl
    · have hfree : ∀ thread h, (thread, h) ∈ s.handles → h.stream ≠ id := by simpa using hheld
      have hacquire := hs.acquire_of_free hnone hfree refusals
      refine ⟨iff_of_false ?_ hleft, fun message => ?_⟩
      · rw [hacquire]
        simp
      · rw [hacquire, and_iff_left ⟨hnone, hfree⟩]
        simp

/-- Thread 0 has given up the only handle on stdout and has yet to take the gag off. -/
def midDrop : Threads where
  streams := ⟨⟨true, some 0, [0]⟩, {}⟩
  leaving := [(0, .stdout)]

theorem reachable_midDrop : midDrop.Reachable := by
  let held : Threads := ⟨⟨⟨true, some 0, [1]⟩, {}⟩, [(0, ⟨.stdout, 0⟩)], []⟩
  have hidle : ∀ s : Threads, s.leaving = [] → s.Idle 0 := fun s h id => h ▸ List.not_mem_nil
  have hacquire : Step {} held :=
    .acquire (hidle {} rfl)
      (rfl : Streams.acquire {} .stdout = .ok (⟨.stdout, 0⟩, ⟨⟨true, some 0, [1]⟩, {}⟩))
  have hmem : (0, ⟨.stdout, 0⟩) ∈ held.handles := List.mem_cons_self
  have hletGo : Step held midDrop := Step.letGo (hidle held rfl) hmem
  exact (Relation.ReflTransGen.single hacquire).tail hletGo

theorem acquire_error_midDrop :
    midDrop.Reachable ∧ midDrop.streams.acquire .stdout (fun _ => none) = .error .taken :=
  ⟨reachable_midDrop,
    (acquire_error_iff reachable_midDrop .stdout _).1.mpr ⟨0, List.mem_cons_self⟩⟩

/-- The system is not all that stands in the way of a handle. -/
theorem not_only_refused : ¬∀ s : Threads, s.Reachable → ∀ id refusals fault,
    s.streams.acquire id refusals = .error fault →
      ∃ message, refusals id = some message ∧ fault = .refused message := by
  intro h
  obtain ⟨message, hmessage, -⟩ := h midDrop reachable_midDrop .stdout (fun _ => none) .taken rfl
  cases hmessage

end Threads

end LinearModel
