import Rstun.Base.Framing
import Rstun.Tunnel.Target

/-!
# The messages of the control stream

The messages of `tunnel_message.rs`, each in a frame behind its length. Turning a message into bytes
and back is left to `bincode`.
-/

namespace Rstun.Control
open BigEndian Framing Rstun.Tunnel

inductive UpstreamType where
  | tcp
  | udp
  deriving DecidableEq

/-- The two fields of the source's `Upstream` are fields of the configuration itself. -/
structure TunnelConfig where
  mode : TunnelMode
  localServerAddr : Option SocketAddr
  upstreamAddr : Option SocketAddr
  upstreamType : UpstreamType
  deriving DecidableEq

inductive Tunnel where
  | networkBased (config : TunnelConfig)
  | channelBased (upstreamType : UpstreamType)
  deriving DecidableEq

structure LoginInfo where
  password : String
  tunnel : Tunnel
  tcpTimeoutMs : UInt64
  udpTimeoutMs : UInt64
  deriving DecidableEq

structure ServerCapabilities where
  ipv6Supported : Bool
  deriving DecidableEq

inductive TunnelMessage where
  | reqLogin (info : LoginInfo)
  | reqHeartbeat (seq : UInt64)
  | respHeartbeat (seq : UInt64)
  | respFailure (msg : String)
  | respSuccess (capabilities : ServerCapabilities)
  deriving DecidableEq

def maxTunnelMessageSize : Nat := 64 * 1024

inductive RecvError where
  | read (err : TransferError)
  | tooLarge (length : Nat)
  | deserialize
  deriving DecidableEq

def sendTo (encode : TunnelMessage → Bytes) (msg : TunnelMessage) : Bytes := frame 4 (encode msg)

/-- There is no timeout here, so on a stream that neither ends nor goes on it waits for ever. That is
the `timeoutError` of `readExact`. -/
def recvFrom (decode : Bytes → Option TunnelMessage) (s : Incoming) :
    Except RecvError (TunnelMessage × Incoming) :=
  match readExact 4 s with
  | .error err => .error (.read err)
  | .ok (length, s) =>
    if ofBe length > maxTunnelMessageSize then .error (.tooLarge (ofBe length))
    else match readExact (ofBe length) s with
      | .error err => .error (.read err)
      | .ok (msg, s) => match decode msg with
        | some msg => .ok (msg, s)
        | none => .error .deserialize

/-- A message that is received is the first frame of the stream, and not too large. -/
theorem recvFrom_ok {decode : Bytes → Option TunnelMessage} {s rest : Incoming} {msg : TunnelMessage}
    (h : recvFrom decode s = .ok (msg, rest)) :
    ∃ header payload, s.bytes = header ++ payload ++ rest.bytes ∧ header.length = 4 ∧
      ofBe header = payload.length ∧ payload.length ≤ maxTunnelMessageSize ∧ decode payload = some msg := by
  unfold recvFrom at h
  split at h
  · cases h
  · rename_i header afterHeader first
    obtain ⟨split, size⟩ := readExact_ok first
    split at h
    · cases h
    · rename_i small
      split at h
      · cases h
      · rename_i payload afterPayload second
        obtain ⟨split', size'⟩ := readExact_ok second
        split at h
        · rename_i decoded
          obtain ⟨rfl, rfl⟩ := Prod.mk.inj (Except.ok.inj h)
          refine ⟨header, payload, ?_, size, size'.symm, by omega, decoded⟩
          rw [split, split', List.append_assoc]
        · cases h

theorem recvFrom_eq_ok {decode : Bytes → Option TunnelMessage} {s afterHeader rest : Incoming}
    {header payload : Bytes} {msg : TunnelMessage} (first : readExact 4 s = .ok (header, afterHeader))
    (small : ofBe header ≤ maxTunnelMessageSize)
    (second : readExact (ofBe header) afterHeader = .ok (payload, rest)) (decoded : decode payload = some msg) :
    recvFrom decode s = .ok (msg, rest) := by
  unfold recvFrom
  rw [first]
  simp only [Nat.not_lt.mpr small, if_false, second, decoded]

theorem recvFrom_sendTo {encode : TunnelMessage → Bytes} {decode : Bytes → Option TunnelMessage}
    {msg : TunnelMessage} (inverse : decode (encode msg) = some msg)
    (small : (encode msg).length ≤ maxTunnelMessageSize) (rest : Incoming) :
    recvFrom decode ⟨sendTo encode msg ++ rest.bytes, rest.ended⟩ = .ok (msg, rest) := by
  have fits : (encode msg).length < 256 ^ 4 := Nat.lt_of_le_of_lt small (by decide)
  have header : ofBe (beBytes 4 (encode msg).length) = (encode msg).length := ofBe_beBytes fits
  have first : readExact 4 ⟨sendTo encode msg ++ rest.bytes, rest.ended⟩ =
      .ok (beBytes 4 (encode msg).length, ⟨encode msg ++ rest.bytes, rest.ended⟩) := by
    unfold sendTo frame
    rw [List.append_assoc]
    exact readExact_append (s := ⟨encode msg ++ rest.bytes, rest.ended⟩) (length_beBytes 4 _)
  apply recvFrom_eq_ok first
  · rw [header]
    exact small
  · rw [header]
    exact readExact_append rfl
  · exact inverse

/-- A reader that has a part of a frame waits for the rest, and one that has all of it has the message. -/
theorem recvFrom_passing {encode : TunnelMessage → Bytes} {decode : Bytes → Option TunnelMessage}
    {msg : TunnelMessage} {buf inflight unsent : Bytes}
    (passing : Passing 4 (encode msg) buf inflight unsent) (inverse : decode (encode msg) = some msg)
    (small : (encode msg).length ≤ maxTunnelMessageSize) :
    (inflight = [] ∧ unsent = [] ∧ recvFrom decode ⟨buf, false⟩ = .ok (msg, ⟨[], false⟩)) ∨
      recvFrom decode ⟨buf, false⟩ = .error (.read .timeoutError) := by
  have fits : (encode msg).length < 256 ^ 4 := Nat.lt_of_le_of_lt small (by decide)
  have total := passing.length_eq
  by_cases header : 4 ≤ buf.length
  · -- The length has arrived, so that it is known how much is to come.
    have size : ofBe (buf.take 4) = (encode msg).length := passing.length_read fits header
    by_cases whole : 4 + (encode msg).length ≤ buf.length
    · left
      have onWire : inflight = [] := List.eq_nil_of_length_eq_zero (by omega)
      have toSend : unsent = [] := List.eq_nil_of_length_eq_zero (by omega)
      subst onWire toSend
      have read : buf = sendTo encode msg ++ [] := by
        simpa only [Passing, sendTo, List.append_nil] using passing
      rw [read]
      exact ⟨rfl, rfl, recvFrom_sendTo inverse small ⟨[], false⟩⟩
    · right
      have first : readExact 4 ⟨buf, false⟩ = .ok (buf.take 4, ⟨buf.drop 4, false⟩) := by
        rw [readExact, if_pos header]
      have second : readExact (ofBe (buf.take 4)) ⟨buf.drop 4, false⟩ = .error .timeoutError := by
        rw [readExact, if_neg (by rw [size, List.length_drop]; omega)]
        rfl
      unfold recvFrom
      rw [first]
      simp only [size, Nat.not_lt.mpr small, if_false]
      rw [← size, second]
  · right
    unfold recvFrom
    rw [readExact, if_neg header]
    rfl

end Rstun.Control
