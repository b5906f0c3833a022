import Rstun.Control.Message

/-!
# What a reader of messages accepts

`recv_from` on any bytes at all. What it makes of them is decided by the frame at their beginning, whatever
`bincode` does with the payloads.
-/

namespace Rstun.Control
open BigEndian Framing Rstun.Tunnel

/-- The error of a reader that comes to the end of what there is. -/
def unfinished (ended : Bool) : TransferError := if ended then .internalError else .timeoutError

theorem readExact_short {length : Nat} {s : Incoming} (short : s.bytes.length < length) :
    readExact length s = .error (unfinished s.ended) := by
  rw [readExact, if_neg (Nat.not_le.mpr short), unfinished]
  split <;> rfl

section Frames

variable {decode : Bytes → Option TunnelMessage} {length : Nat} {behind : Bytes} {ended : Bool}

theorem recvFrom_short {s : Incoming} (short : s.bytes.length < 4) :
    recvFrom decode s = .error (.read (unfinished s.ended)) := by
  rw [recvFrom, readExact_short short]

theorem readExact_header (length : Nat) (behind : Bytes) (ended : Bool) :
    readExact 4 ⟨beBytes 4 length ++ behind, ended⟩ = .ok (beBytes 4 length, ⟨behind, ended⟩) :=
  readExact_append (s := ⟨behind, ended⟩) (length_beBytes 4 length)

/-- The length is looked at first. -/
theorem recvFrom_tooLarge (fits : length < 256 ^ 4) (large : maxTunnelMessageSize < length) :
    recvFrom decode ⟨beBytes 4 length ++ behind, ended⟩ = .error (.tooLarge length) := by
  rw [recvFrom, readExact_header]
  simp only [ofBe_beBytes fits, gt_iff_lt, large, if_true]

theorem recvFrom_cut (small : length ≤ maxTunnelMessageSize) (cut : behind.length < length) :
    recvFrom decode ⟨beBytes 4 length ++ behind, ended⟩ = .error (.read (unfinished ended)) := by
  have fits : length < 256 ^ 4 := Nat.lt_of_le_of_lt small (by decide)
  have second : readExact length ⟨behind, ended⟩ = .error (unfinished ended) := readExact_short cut
  rw [recvFrom, readExact_header]
  simp only [ofBe_beBytes fits, gt_iff_lt, Nat.not_lt.mpr small, if_false, second]

theorem recvFrom_frame {payload : Bytes} (small : payload.length ≤ maxTunnelMessageSize) :
    recvFrom decode ⟨frame 4 payload ++ behind, ended⟩ =
      match decode payload with
      | some msg => .ok (msg, ⟨behind, ended⟩)
      | none => .error .deserialize := by
  have fits : payload.length < 256 ^ 4 := Nat.lt_of_le_of_lt small (by decide)
  have second : readExact payload.length ⟨payload ++ behind, ended⟩ = .ok (payload, ⟨behind, ended⟩) :=
    readExact_append (s := ⟨behind, ended⟩) rfl
  rw [frame, List.append_assoc, recvFrom, readExact_header]
  cases decoded : decode payload <;>
    simp only [ofBe_beBytes fits, gt_iff_lt, Nat.not_lt.mpr small, if_false, second, decoded]

end Frames

/-- What `recv_from` makes of a stream, by what the stream begins with. -/
inductive Receives (decode : Bytes → Option TunnelMessage) (s : Incoming) :
    Except RecvError (TunnelMessage × Incoming) → Prop
  | short (few : s.bytes.length < 4) : Receives decode s (.error (.read (unfinished s.ended)))
  | tooLarge (length : Nat) (behind : Bytes) (fits : length < 256 ^ 4) (large : maxTunnelMessageSize < length)
      (split : s.bytes = beBytes 4 length ++ behind) : Receives decode s (.error (.tooLarge length))
  | cut (length : Nat) (behind : Bytes) (small : length ≤ maxTunnelMessageSize) (few : behind.length < length)
      (split : s.bytes = beBytes 4 length ++ behind) : Receives decode s (.error (.read (unfinished s.ended)))
  | undecoded (payload behind : Bytes) (small : payload.length ≤ maxTunnelMessageSize)
      (split : s.bytes = frame 4 payload ++ behind) (decoded : decode payload = none) :
      Receives decode s (.error .deserialize)
  | message (payload behind : Bytes) (msg : TunnelMessage) (small : payload.length ≤ maxTunnelMessageSize)
      (split : s.bytes = frame 4 payload ++ behind) (decoded : decode payload = some msg) :
      Receives decode s (.ok (msg, ⟨behind, s.ended⟩))

/-- Any four bytes are a length. -/
theorem header_of_le {bytes : Bytes} (enough : 4 ≤ bytes.length) :
    ∃ length behind, length < 256 ^ 4 ∧ bytes = beBytes 4 length ++ behind := by
  have size : (bytes.take 4).length = 4 := by rw [List.length_take]; omega
  have below := ofBe_lt (bytes.take 4)
  have inverse := beBytes_ofBe (bytes.take 4)
  rw [size] at below inverse
  exact ⟨ofBe (bytes.take 4), bytes.drop 4, below, by rw [inverse, List.take_append_drop]⟩

theorem receives (decode : Bytes → Option TunnelMessage) (s : Incoming) : Receives decode s (recvFrom decode s) := by
  obtain ⟨bytes, ended⟩ := s
  rcases Nat.lt_or_ge bytes.length 4 with few | enough
  · rw [recvFrom_short few]
    exact .short few
  obtain ⟨length, behind, fits, rfl⟩ := header_of_le enough
  rcases Nat.lt_or_ge maxTunnelMessageSize length with large | small
  · rw [recvFrom_tooLarge fits large]
    exact .tooLarge length behind fits large rfl
  rcases Nat.lt_or_ge behind.length length with few | whole
  · rw [recvFrom_cut small few]
    exact .cut length behind small few rfl
  -- The payload is there, and the rest of the stream is behind it.
  obtain ⟨payload, rest, rfl, rfl⟩ : ∃ payload rest, behind = payload ++ rest ∧ length = payload.length :=
    ⟨behind.take length, behind.drop length, (List.take_append_drop ..).symm, by rw [List.length_take]; omega⟩
  have framed : beBytes 4 payload.length ++ (payload ++ rest) = frame 4 payload ++ rest := by
    rw [frame, List.append_assoc]
  rw [framed, recvFrom_frame small]
  cases decoded : decode payload with
  | none => exact .undecoded payload rest small rfl decoded
  | some msg => exact .message payload rest msg small rfl decoded

end Rstun.Control
