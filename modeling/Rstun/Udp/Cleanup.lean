import Rstun.Udp.Serving

/-!
# Who removes an entry

Both tasks of a stream remove the entry under the key of their flow, whatever stream it is for by then.
An entry is safe from the tasks of earlier streams if these have all ended when it is made.
-/

namespace Rstun.Udp.Serving
open Transition Rstun.Tunnel

variable {s t : Serving} {sid : Nat}

/-- A stream is opened only after the tasks of all earlier streams for the same flow have ended. -/
def Clear (s : Serving) : ServingAction → Prop
  | .publish => ∀ datagram ∈ s.loop.inHand, ∀ sid < s.opened, (s.streams sid).key = datagram.packet.key →
      (s.streams sid).writer = .done ∧ (s.streams sid).reader = .done
  | _ => True

instance (s : Serving) (act : ServingAction) : Decidable (Clear s act) := by
  unfold Clear
  split <;> infer_instance

/-- What a step that opens no stream leaves as it is. -/
structure Kept (s t : Serving) : Prop where
  opened : t.opened = s.opened
  key : ∀ sid, (t.streams sid).key = (s.streams sid).key
  writer : ∀ sid, (s.streams sid).writer = .done → (t.streams sid).writer = .done
  reader : ∀ sid, (s.streams sid).reader = .done → (t.streams sid).reader = .done
  fewer : ∀ key sid, t.streamMap key = some sid → s.streamMap key = some sid
  opening : ∀ datagram, t.loop = .opening datagram →
    s.loop = .opening datagram ∨ s.streamMap datagram.packet.key = none

theorem kept_loop {loop : LoopPhase} {inbox : List Arrival} {arrivals : Nat} {replies : List (Nat × UdpPacket)}
    {sent : List (Nat × Bytes × SocketAddr)} (opening : ∀ datagram, loop = .opening datagram →
      s.loop = .opening datagram ∨ s.streamMap datagram.packet.key = none) :
    Kept s ⟨s.streamMap, s.streams, s.opened, loop, arrivals, inbox, replies, sent⟩ :=
  ⟨rfl, fun _ => rfl, fun _ => id, fun _ => id, fun _ _ => id, opening⟩

theorem kept_stream (stream : UdpStream) {streamMap : UdpStreamKey → Option Nat} {loop : LoopPhase}
    (key : stream.key = (s.streams sid).key)
    (writer : (s.streams sid).writer = .done → stream.writer = .done)
    (reader : (s.streams sid).reader = .done → stream.reader = .done)
    (fewer : ∀ key other, streamMap key = some other → s.streamMap key = some other)
    (opening : ∀ datagram, loop = .opening datagram → s.loop = .opening datagram) :
    Kept s { s.setStream sid stream with streamMap := streamMap, loop := loop } := by
  refine ⟨rfl, update_proj UdpStream.key key, ?_, ?_, fewer, fun datagram phase => .inl (opening datagram phase)⟩
  · apply (Function.forall_update_iff s.streams fun other stream =>
      (s.streams other).writer = .done → stream.writer = .done).mpr
    exact ⟨writer, fun _ _ => id⟩
  · apply (Function.forall_update_iff s.streams fun other stream =>
      (s.streams other).reader = .done → stream.reader = .done).mpr
    exact ⟨reader, fun _ _ => id⟩

theorem step_kept {act : ServingAction} (h : s.step act = some t) (other : act ≠ .publish) : Kept s t := by
  cases act with
  | publish => exact absurd rfl other
  | arrive packet =>
    cases h
    exact kept_loop fun _ => .inl
  | stop =>
    cases h
    exact kept_loop (by rintro _ ⟨⟩)
  | recv | openFails =>
    simp only [step] at h
    split at h <;> cases h
    exact kept_loop (by rintro _ ⟨⟩)
  | lookup =>
    simp only [step, lookup] at h
    split at h
    case h_2 => cases h
    split at h <;> cases h
    · exact kept_loop (by rintro _ ⟨⟩)
    · rename_i datagram _ absent
      apply kept_loop
      rintro _ ⟨⟩
      exact .inr absent
  | enqueue =>
    simp only [step, enqueue] at h
    split at h
    case h_2 => cases h
    split at h <;> cases h
    · exact kept_loop (by rintro _ ⟨⟩)
    · exact kept_stream _ rfl id id (fun _ _ => id) (by rintro _ ⟨⟩)
  | write sid =>
    simp only [step, write] at h
    split at h <;> cases h
    exact kept_stream ⟨_, _, _, _, _, _⟩ rfl id id (fun _ _ => id) fun _ => id
  | writeFails sid count =>
    simp only [step, writeFails] at h
    split at h <;> cases h
    rename_i running _
    refine kept_stream ⟨_, _, _, _, _, _⟩ rfl ?_ id (fun _ _ => id) fun _ => id
    intro done
    cases running.symm.trans done
  | writerIdle sid =>
    simp only [step, writerIdle] at h
    split at h <;> cases h
    rename_i idle
    refine kept_stream _ rfl ?_ id (fun _ _ => id) fun _ => id
    intro done
    cases idle.1.symm.trans done
  | writerCleanup sid =>
    simp only [step, writerCleanup] at h
    split at h <;> cases h
    exact kept_stream _ rfl (fun _ => rfl) id (fun _ _ entry => (Slots.of_update_none entry).2) fun _ => id
  | reply sid payload =>
    simp only [step, reply] at h
    split at h <;> cases h
    exact kept_loop fun _ => .inl
  | readerEnds sid =>
    simp only [step, readerEnds] at h
    split at h <;> cases h
    rename_i running
    refine kept_stream _ rfl id ?_ (fun _ _ => id) fun _ => id
    intro done
    cases running.symm.trans done
  | readerCleanup sid =>
    simp only [step, readerCleanup] at h
    split at h <;> cases h
    exact kept_stream _ rfl id (fun _ => rfl) (fun _ _ entry => (Slots.of_update_none entry).2) fun _ => id
  | sendReply =>
    simp only [step, sendReply] at h
    split at h <;> cases h
    exact kept_loop fun _ => .inl

/-- An entry is for the last stream of its flow, and the tasks of the earlier ones have ended. While the
serving loop opens a stream there is no entry. -/
structure Succession (s : Serving) : Prop where
  newest : ∀ key sid other, s.streamMap key = some other → sid < s.opened → (s.streams sid).key = key →
    sid ≤ other
  retired : ∀ sid other, sid < other → other < s.opened → (s.streams sid).key = (s.streams other).key →
    (s.streams sid).writer = .done ∧ (s.streams sid).reader = .done
  unopened : ∀ sid, s.opened ≤ sid → (s.streams sid).writer = .done ∧ (s.streams sid).reader = .done
  opening : ∀ datagram, s.loop = .opening datagram → s.streamMap datagram.packet.key = none

theorem succession_new : new.Succession := ⟨nofun, nofun, fun _ _ => ⟨rfl, rfl⟩, nofun⟩

theorem Succession.kept (inv : s.Succession) (kept : Kept s t) : t.Succession where
  newest := by
    intro key sid other entry opened same
    rw [kept.opened] at opened
    rw [kept.key] at same
    exact inv.newest key sid other (kept.fewer key other entry) opened same
  retired := by
    intro sid other older opened same
    rw [kept.opened] at opened
    rw [kept.key, kept.key] at same
    obtain ⟨writer, reader⟩ := inv.retired sid other older opened same
    exact ⟨kept.writer sid writer, kept.reader sid reader⟩
  unopened := by
    intro sid above
    obtain ⟨writer, reader⟩ := inv.unopened sid (kept.opened ▸ above)
    exact ⟨kept.writer sid writer, kept.reader sid reader⟩
  opening := by
    intro datagram phase
    have absent : s.streamMap datagram.packet.key = none := by
      rcases kept.opening datagram phase with before | absent
      · exact inv.opening datagram before
      · exact absent
    cases entry : t.streamMap datagram.packet.key with
    | none => rfl
    | some sid =>
      have before := kept.fewer _ sid entry
      rw [absent] at before
      cases before

theorem publish_succession (inv : s.Succession) (clear : Clear s .publish) (h : s.publish = some t) :
    t.Succession := by
  unfold publish at h
  split at h
  case h_2 => cases h
  rename_i datagram phase
  split at h
  case h_2 => cases h
  obtain rfl := Option.some.inj h
  have clear := clear datagram (by rw [phase]; exact List.mem_singleton_self _)
  have older : ∀ sid < s.opened, ∀ stream, Function.update s.streams s.opened stream sid = s.streams sid :=
    fun sid opened stream => Function.update_of_ne (Nat.ne_of_lt opened) _ _
  refine ⟨?_, ?_, ?_, nofun⟩
  · intro key sid other entry opened same
    rcases Slots.of_update_some entry with ⟨rfl, rfl⟩ | ⟨different, before⟩
    · exact Nat.le_of_lt_succ opened
    · rcases Nat.lt_succ_iff_lt_or_eq.mp opened with opened | rfl
      · simp only [setStream, older sid opened] at same
        exact inv.newest key sid other before opened same
      · simp only [setStream, Function.update_self] at same
        exact absurd same.symm different
  · intro sid other below opened same
    rcases Nat.lt_succ_iff_lt_or_eq.mp opened with opened | rfl
    · simp only [setStream, older sid (below.trans opened), older other opened] at same ⊢
      exact inv.retired sid other below opened same
    · simp only [setStream, older sid below, Function.update_self] at same ⊢
      exact clear sid below same

  · intro sid above
    have different : sid ≠ s.opened := Nat.ne_of_gt above
    simp only [setStream, Function.update_of_ne different]
    exact inv.unopened sid (Nat.le_of_succ_le above)

theorem step_succession {act : ServingAction} (inv : s.Succession) (clear : Clear s act)
    (h : s.step act = some t) : t.Succession := by
  by_cases this : act = .publish
  · subst this
    exact publish_succession inv clear h
  · exact inv.kept (step_kept h this)

/-- An entry goes away only when a task removes it, or when the serving loop puts another in its place. -/
theorem step_removes {act : ServingAction} {key : UdpStreamKey} (h : s.step act = some t)
    (present : s.streamMap key = some sid) (gone : t.streamMap key ≠ some sid) :
    (∃ owner, (s.streams owner).key = key ∧
      (act = .writerCleanup owner ∧ (s.streams owner).writer = .leaving ∨
        act = .readerCleanup owner ∧ (s.streams owner).reader = .leaving)) ∨
    ∃ datagram, s.loop = .opening datagram ∧ datagram.packet.key = key := by
  have changed : t.streamMap ≠ s.streamMap := fun same => gone (same ▸ present)
  cases act with
  | publish =>
    simp only [step, publish] at h
    split at h
    case h_2 => cases h
    rename_i datagram phase
    split at h <;> cases h
    by_cases same : datagram.packet.key = key
    · exact .inr ⟨datagram, phase, same⟩
    · simp only [Function.update_of_ne (Ne.symm same)] at gone
      exact absurd present gone
  | writerCleanup owner =>
    simp only [step, writerCleanup] at h
    split at h <;> cases h
    rename_i leaving
    by_cases same : key = (s.streams owner).key
    · exact .inl ⟨owner, same.symm, .inl ⟨rfl, leaving⟩⟩
    · simp only [setStream, remove, Function.update_of_ne same] at gone
      exact absurd present gone
  | readerCleanup owner =>
    simp only [step, readerCleanup] at h
    split at h <;> cases h
    rename_i leaving
    by_cases same : key = (s.streams owner).key
    · exact .inl ⟨owner, same.symm, .inr ⟨rfl, leaving⟩⟩
    · simp only [setStream, remove, Function.update_of_ne same] at gone
      exact absurd present gone
  | arrive _ | stop =>
    cases h
    exact absurd rfl changed
  | recv | openFails =>
    simp only [step] at h
    split at h <;> cases h
    exact absurd rfl changed
  | lookup | enqueue =>
    simp only [step, lookup, enqueue] at h
    split at h
    case h_2 => cases h
    split at h <;> cases h <;> exact absurd rfl changed
  | write _ | writeFails _ _ | writerIdle _ | reply _ _ | readerEnds _ | sendReply =>
    simp only [step, write, writeFails, writerIdle, reply, readerEnds, sendReply] at h
    split at h <;> cases h
    exact absurd rfl changed

/-- If streams are opened only after the earlier ones for the same flow have ended, an entry is removed
by a task of the stream that it has been made for, and by nothing else. -/
theorem entry_removed_by_owner {acts : List ServingAction} {act : ServingAction} {key : UdpStreamKey}
    (clear : Along step Clear new acts) (h : run step new acts = some s) (stepped : s.step act = some t)
    (present : s.streamMap key = some sid) (gone : t.streamMap key ≠ some sid) :
    act = .writerCleanup sid ∨ act = .readerCleanup sid := by
  have inv : s.Succession :=
    run_along_invariant (fun _ _ _ inv clear stepped => step_succession inv clear stepped) succession_new clear h
  obtain ⟨opened, same⟩ := (run_isolated h).entries key sid present
  rcases step_removes stepped present gone with ⟨owner, own, cleanup⟩ | ⟨datagram, phase, rfl⟩
  · have active : ¬ ((s.streams owner).writer = .done ∧ (s.streams owner).reader = .done) := by
      rintro ⟨writer, reader⟩
      rcases cleanup with ⟨_, leaving⟩ | ⟨_, leaving⟩
      · cases writer.symm.trans leaving
      · cases reader.symm.trans leaving
    -- A task that has its removal still ahead is one of the last stream for its flow.
    obtain rfl : owner = sid := by
      have below : owner < s.opened := by
        by_contra above
        exact active (inv.unopened owner (Nat.le_of_not_lt above))
      rcases Nat.lt_or_eq_of_le (inv.newest key owner sid present below own) with older | same'
      · exact absurd (inv.retired owner sid older opened (own.trans same.symm)) active
      · exact same'
    rcases cleanup with ⟨rfl, _⟩ | ⟨rfl, _⟩
    · exact .inl rfl
    · exact .inr rfl
  · rw [inv.opening datagram phase] at present
    cases present

/-- A datagram on its way into the stream of its flow. -/
def served : List ServingAction :=
  [.arrive ⟨[1], .v4 0x7F000001 4001, none⟩, .recv, .lookup, .publish, .enqueue, .write 0]

def flowKey : UdpStreamKey := ⟨.v4 0x7F000001 4001, none⟩

/-- Both tasks of the first stream end, then a datagram of the same flow opens another one. -/
def reopened : List ServingAction :=
  served ++ [.readerEnds 0, .readerCleanup 0, .writerIdle 0, .writerCleanup 0] ++ served.take 5 ++ [.readerEnds 1]

theorem entry_removed_by_owner_reopened :
    ∃ s t, run step new reopened = some s ∧ s.step (.readerCleanup 1) = some t ∧
      (s.streams 0).key = (s.streams 1).key ∧ s.streamMap flowKey = some 1 ∧ t.streamMap flowKey ≠ some 1 ∧
      (ServingAction.readerCleanup 1 = .writerCleanup 1 ∨ ServingAction.readerCleanup 1 = .readerCleanup 1) := by
  have clear : Along step Clear new reopened := by decide +kernel
  obtain ⟨s, ran, t, stepped, same, present, gone⟩ : ∃ s, run step new reopened = some s ∧
      ∃ t, s.step (.readerCleanup 1) = some t ∧ (s.streams 0).key = (s.streams 1).key ∧
        s.streamMap flowKey = some 1 ∧ t.streamMap flowKey ≠ some 1 :=
    ⟨_, rfl, _, rfl, by decide, by decide, by decide⟩
  exact ⟨s, t, ran, stepped, same, present, gone, entry_removed_by_owner clear ran stepped present gone⟩

/-- The reader of a stream times out and removes the entry. The next datagram of the flow opens another
stream. Then the writer of the first, which has no sender any more, removes the entry of the second. -/
theorem newer_entry_removed :
    ∃ s t, run step new (served ++ [.readerEnds 0, .readerCleanup 0] ++ served.take 5 ++ [.writerIdle 0]) =
        some s ∧ s.step (.writerCleanup 0) = some t ∧
      s.streamMap flowKey = some 1 ∧ t.streamMap flowKey ≠ some 1 ∧
      (t.streams 1).writer = .running ∧ (t.streams 1).reader = .running :=
  ⟨_, _, rfl, rfl, by decide, by decide, by decide, by decide⟩

end Rstun.Udp.Serving
