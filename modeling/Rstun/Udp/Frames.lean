import Rstun.Udp.Datagrams

/-!
# Datagrams on a stream

`send_raw_to` writes a datagram behind its length, of which it keeps 16 bits. A reader takes datagram
after datagram with `recv_raw_from` and stops at the first error.
-/

namespace Rstun.Udp
open Framing BigEndian Rstun.Tunnel

/-- The datagrams that are read, and the error at which the reader stops. `calls` bounds the number of
calls. -/
def recvRaws (size : Nat) : Nat → Incoming → List Bytes × Option RawError
  | 0, _ => ([], none)
  | calls + 1, s =>
    match recvRawFrom size s with
    | .error err => ([], some err)
    | .ok (data, rest) => let (later, err) := recvRaws size calls rest; (data :: later, err)

/-- A call that succeeds takes at least the two bytes of the length, so that these calls are enough. -/
def recvUntilError (size : Nat) (s : Incoming) : List Bytes × Option RawError := recvRaws size (s.bytes.length + 1) s

theorem recvRaws_of_ok {size : Nat} {s rest : Incoming} {data : Bytes}
    (received : recvRawFrom size s = .ok (data, rest)) (calls : Nat) :
    recvRaws size (calls + 1) s = (data :: (recvRaws size calls rest).1, (recvRaws size calls rest).2) := by
  rw [recvRaws, received]

theorem recvRaws_of_error {size : Nat} {s : Incoming} {err : RawError} (failed : recvRawFrom size s = .error err)
    (calls : Nat) : recvRaws size (calls + 1) s = ([], some err) := by
  rw [recvRaws, failed]

theorem recvRaws_ends {size calls : Nat} {s : Incoming} (enough : s.bytes.length < calls) :
    ∃ err, (recvRaws size calls s).2 = some err := by
  induction calls generalizing s with
  | zero => omega
  | succ calls ih =>
    cases received : recvRawFrom size s with
    | error err => exact ⟨err, by rw [recvRaws_of_error received]⟩
    | ok found =>
      obtain ⟨data, rest⟩ := found
      obtain ⟨length, taken, two, _⟩ := recvRawFrom_ok received
      rw [recvRaws_of_ok received]
      apply ih
      rw [taken, List.length_append, List.length_append, two] at enough
      omega

/-! ### A frame at the beginning of the stream -/

/-- The reader sees the length of a payload modulo 2 ^ 16. -/
theorem recvRawFrom_sendRaw (size : Nat) (payload : Bytes) (rest : Incoming) :
    recvRawFrom size ⟨sendRaw payload ++ rest.bytes, rest.ended⟩ =
      if size < payload.length % 65536 then .error (.tooLarge (payload.length % 65536))
      else .ok (payload.take (payload.length % 65536),
        ⟨payload.drop (payload.length % 65536) ++ rest.bytes, rest.ended⟩) := by
  have short : payload.length % 65536 ≤ payload.length := Nat.mod_le _ _
  have header : readExact 2 ⟨sendRaw payload ++ rest.bytes, rest.ended⟩ =
      .ok (beBytes 2 payload.length, ⟨payload ++ rest.bytes, rest.ended⟩) := by
    rw [sendRaw, frame, List.append_assoc]
    exact readExact_append (s := ⟨payload ++ rest.bytes, rest.ended⟩) (length_beBytes 2 _)
  have announced : ofBe (beBytes 2 payload.length) = payload.length % 65536 := ofBe_beBytes_mod 2 _
  rw [recvRawFrom, header]
  dsimp only
  rw [announced]
  split
  · rfl
  · rw [readExact, if_pos (by rw [List.length_append]; omega)]
    dsimp only
    rw [List.take_append_of_le_length short, List.drop_append_of_le_length short]

theorem recvRawFrom_tooLarge {size : Nat} {length : Bytes} {s : Incoming} (two : length.length = 2)
    (long : size < ofBe length) :
    recvRawFrom size ⟨length ++ s.bytes, s.ended⟩ = .error (.tooLarge (ofBe length)) := by
  rw [recvRawFrom, readExact_append two]
  exact if_pos long

theorem recvRawFrom_nil (size : Nat) (ended : Bool) : ∃ err, recvRawFrom size ⟨[], ended⟩ = .error err := by
  cases ended <;> exact ⟨_, rfl⟩

/-! ### A sequence of frames -/

/-- The first payload that is too long is so also modulo 2 ^ 16. -/
def FirstLongRefused (size : Nat) (payloads : List Bytes) : Prop :=
  ∀ payload, payloads.find? (fun payload => size < payload.length) = some payload → size < payload.length % 65536

section Frames
variable {size calls : Nat} {payload : Bytes}

theorem recvRaws_nil (size calls : Nat) (ended : Bool) : (recvRaws size calls ⟨[], ended⟩).1 = [] := by
  cases calls with
  | zero => rfl
  | succ calls =>
    obtain ⟨err, failed⟩ := recvRawFrom_nil size ended
    rw [recvRaws_of_error failed]

theorem recvRaws_fits (small : size < 65536) (fits : payload.length ≤ size) (rest : Incoming) :
    (recvRaws size (calls + 1) ⟨sendRaw payload ++ rest.bytes, rest.ended⟩).1 =
      payload :: (recvRaws size calls rest).1 := by
  have whole : payload.length % 65536 = payload.length := Nat.mod_eq_of_lt (Nat.lt_of_le_of_lt fits small)
  rw [recvRaws, recvRawFrom_sendRaw, whole, if_neg (Nat.not_lt.mpr fits), List.take_length, List.drop_length]
  rfl

theorem recvRaws_refused (long : size < payload.length % 65536) (rest : Incoming) :
    (recvRaws size (calls + 1) ⟨sendRaw payload ++ rest.bytes, rest.ended⟩).1 = [] := by
  rw [recvRaws, recvRawFrom_sendRaw, if_pos long]

theorem recvRaws_cut (calls : Nat) (short : payload.length % 65536 ≤ size) (rest : Incoming) :
    ∃ later, (recvRaws size (calls + 1) ⟨sendRaw payload ++ rest.bytes, rest.ended⟩).1 =
      payload.take (payload.length % 65536) :: later := by
  rw [recvRaws, recvRawFrom_sendRaw, if_neg (Nat.not_lt.mpr short)]
  exact ⟨_, rfl⟩

theorem firstLongRefused_cons (fits : payload.length ≤ size) (later : List Bytes) :
    FirstLongRefused size (payload :: later) ↔ FirstLongRefused size later := by
  unfold FirstLongRefused
  rw [List.find?_cons_of_neg (by simpa using fits)]

theorem firstLongRefused_long (long : size < payload.length) (later : List Bytes) :
    FirstLongRefused size (payload :: later) ↔ size < payload.length % 65536 := by
  unfold FirstLongRefused
  rw [List.find?_cons_of_pos (by simpa using long)]
  simp

theorem recvRaws_all (small : size < 65536) (payloads : List Bytes) (ended : Bool) (enough : payloads.length ≤ calls)
    (fit : ∀ payload ∈ payloads, payload.length ≤ size) :
    (recvRaws size calls ⟨payloads.flatMap sendRaw, ended⟩).1 = payloads := by
  induction payloads generalizing calls with
  | nil => exact recvRaws_nil size calls ended
  | cons payload later ih =>
    obtain ⟨calls, rfl⟩ : ∃ n, calls = n + 1 := ⟨calls - 1, by rw [List.length_cons] at enough; omega⟩
    rw [List.length_cons, Nat.add_le_add_iff_right] at enough
    rw [List.flatMap_cons]
    rw [recvRaws_fits small (fit payload List.mem_cons_self) ⟨later.flatMap sendRaw, ended⟩]
    rw [ih enough fun other member => fit other (List.mem_cons_of_mem _ member)]

theorem recvRaws_prefix_iff (small : size < 65536) (payloads : List Bytes) (ended : Bool)
    (enough : payloads.length ≤ calls) :
    (recvRaws size calls ⟨payloads.flatMap sendRaw, ended⟩).1 <+: payloads ↔ FirstLongRefused size payloads := by
  induction payloads generalizing calls with
  | nil =>
    rw [List.flatMap_nil, recvRaws_nil]
    exact iff_of_true List.prefix_rfl (by rintro _ ⟨⟩)
  | cons payload later ih =>
    obtain ⟨calls, rfl⟩ : ∃ n, calls = n + 1 := ⟨calls - 1, by rw [List.length_cons] at enough; omega⟩
    rw [List.length_cons, Nat.add_le_add_iff_right] at enough
    rw [List.flatMap_cons]
    rcases Nat.lt_or_ge size payload.length with long | fits
    · rw [firstLongRefused_long long]
      rcases Nat.lt_or_ge size (payload.length % 65536) with refused | short
      · rw [recvRaws_refused refused ⟨later.flatMap sendRaw, ended⟩]
        exact iff_of_true List.nil_prefix refused
      · obtain ⟨others, cut⟩ := recvRaws_cut calls short ⟨later.flatMap sendRaw, ended⟩
        rw [cut]
        refine iff_of_false (fun same => ?_) (Nat.not_lt.mpr short)
        have length := congrArg List.length (List.cons_prefix_cons.mp same).1
        rw [List.length_take] at length
        omega
    · rw [recvRaws_fits small fits ⟨later.flatMap sendRaw, ended⟩, firstLongRefused_cons fits, List.cons_prefix_cons,
        ih enough, and_iff_right rfl]

end Frames

theorem length_le_wire (payloads : List Bytes) : payloads.length ≤ (payloads.flatMap sendRaw).length := by
  induction payloads with
  | nil => exact Nat.le_refl 0
  | cons payload later ih =>
    rw [List.length_cons, List.flatMap_cons, List.length_append, sendRaw, length_frame]
    omega

/-- A reader stops. It gets a beginning of what has been sent exactly if the first payload that is too
long for it is so also modulo 2 ^ 16, and everything if there is none. -/
theorem datagrams_framed_iff (payloads : List Bytes) (ended : Bool) :
    let received := recvUntilError udpPacketSize ⟨payloads.flatMap sendRaw, ended⟩
    (∃ err, received.2 = some err) ∧
    (received.1 <+: payloads ↔ FirstLongRefused udpPacketSize payloads) ∧
    ((∀ payload ∈ payloads, payload.length ≤ udpPacketSize) → received.1 = payloads) := by
  have enough := Nat.le_succ_of_le (length_le_wire payloads)
  refine ⟨recvRaws_ends (Nat.lt_succ_self _), ?_, ?_⟩
  · exact recvRaws_prefix_iff (by decide) payloads ended enough
  · exact recvRaws_all (by decide) payloads ended enough

/-- A payload of 65537 bytes arrives as a datagram of one byte, and the rest of it is taken for a frame. -/
theorem long_payload_cut :
    recvUntilError udpPacketSize ⟨[List.replicate 65537 7].flatMap sendRaw, true⟩ = ([[7]], some (.tooLarge 1799)) ∧
    ¬ [[7]] <+: [List.replicate 65537 7] := by
  have length : ([List.replicate 65537 (7 : UInt8)].flatMap sendRaw).length = 65538 + 1 := by
    rw [List.flatMap_singleton, sendRaw, length_frame, List.length_replicate]
  have wire : (⟨[List.replicate 65537 7].flatMap sendRaw, true⟩ : Incoming) =
      ⟨sendRaw (List.replicate 65537 7) ++ [], true⟩ := by
    rw [List.flatMap_singleton, List.append_nil]
  have first : recvRawFrom udpPacketSize ⟨sendRaw (List.replicate 65537 7) ++ [], true⟩ =
      .ok (List.replicate 1 7, ⟨List.replicate 2 7 ++ List.replicate 65534 7, true⟩) := by
    refine (recvRawFrom_sendRaw udpPacketSize (List.replicate 65537 7) ⟨[], true⟩).trans ?_
    rw [List.length_replicate, if_neg (by decide), List.take_replicate, List.drop_replicate, List.append_nil,
      List.replicate_append_replicate]
    rfl
  have second : recvRawFrom udpPacketSize ⟨List.replicate 2 7 ++ List.replicate 65534 7, true⟩ =
      .error (.tooLarge 1799) :=
    recvRawFrom_tooLarge (s := ⟨List.replicate 65534 7, true⟩) rfl (by decide)
  -- nothing here computes the length of the wire
  have calls : ∀ {s : Incoming} {n : Nat}, s.bytes.length = n →
      recvUntilError udpPacketSize s = recvRaws udpPacketSize (n + 1) s := by
    rintro s n rfl
    rfl
  constructor
  · rw [calls length, wire]
    rw [recvRaws_of_ok first, recvRaws_of_error second]
    rfl
  · intro same
    have lengths := congrArg List.length (List.cons_prefix_cons.mp same).1
    rw [List.length_replicate] at lengths
    exact absurd lengths (by decide)

end Rstun.Udp
