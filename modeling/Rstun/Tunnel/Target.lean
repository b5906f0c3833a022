import Mathlib.Data.List.Basic
import Rstun.Base.BigEndian

/-!
# The target header of a tunnel stream

Whoever opens a TCP stream of a tunnel decides from the request whether to write a target in front of
the payload. Whoever accepts it decides from the way the tunnel was set up whether to read one. The
header is that of `util/stream_util.rs`, the decisions are those of `tcp_tunnel.rs`, `server.rs` and
`client.rs`. Only TCP tunnels are modelled, and connecting to the upstream succeeds.
-/

namespace Rstun.Tunnel
open BigEndian

abbrev Bytes := List UInt8

inductive SocketAddr where
  | v4 (ip : BitVec 32) (port : UInt16)
  | v6 (ip : BitVec 128) (port : UInt16) (flowinfo scopeId : UInt32)
  deriving DecidableEq

namespace SocketAddr

def isIpv6 : SocketAddr → Bool
  | v4 _ _ => false
  | v6 _ _ _ _ => true

def port : SocketAddr → UInt16
  | v4 _ port | v6 _ port _ _ => port

def setPort : SocketAddr → UInt16 → SocketAddr
  | v4 ip _, port => v4 ip port
  | v6 ip _ flowinfo scopeId, port => v6 ip port flowinfo scopeId

end SocketAddr

def socketAddrWithUnspecifiedIpPort (ipv6 : Bool) : SocketAddr := if ipv6 then .v6 0 0 0 0 else .v4 0 0

inductive TunnelTarget where
  | addr (addr : SocketAddr)
  | domain (host : String) (port : UInt16)
  deriving DecidableEq

inductive TransferError where
  | internalError
  | invalidIPAddress
  | invalidIPFamily
  | invalidDomain
  | timeoutError
  deriving DecidableEq

/-! ### Writing -/

def portBytes (port : UInt16) : Bytes := beBytes 2 port.toNat

def hostBytes (host : String) : Bytes := host.toUTF8.data.toList

def encodeTunnelTarget : Option TunnelTarget → Bool → Except String (Option Bytes)
  | some (.addr (.v4 ip port)), _ => .ok (some (4 :: (beBytes 4 ip.toNat ++ portBytes port)))
  | some (.addr (.v6 ip port _ _)), _ => .ok (some (6 :: (beBytes 16 ip.toNat ++ portBytes port)))
  | some (.domain host port), _ =>
    let length := (hostBytes host).length
    if length = 0 ∨ length > 255 then .error s!"invalid tunnel domain length: {length}"
    else .ok (some (3 :: UInt8.ofNat length :: (hostBytes host ++ portBytes port)))
  | none, markNone => if markNone then .ok (some [0]) else .ok none

/-! ### Reading -/

/-- The bytes of a stream that are still to be read. If it has not ended, no more come before the
reader times out. -/
structure Incoming where
  bytes : Bytes
  ended : Bool
  deriving DecidableEq

def readExact (length : Nat) (s : Incoming) : Except TransferError (Bytes × Incoming) :=
  if length ≤ s.bytes.length then .ok (s.bytes.take length, { s with bytes := s.bytes.drop length })
  else if s.ended then .error .internalError
  else .error .timeoutError

def readTargetFamily (s : Incoming) : Except TransferError (UInt8 × Incoming) := do
  let (family, s) ← readExact 1 s
  .ok (family.headD 0, s)

def portOf (bytes : Bytes) : UInt16 := UInt16.ofNat (ofBe bytes)

def readTunnelTargetBody (family : UInt8) (s : Incoming) : Except TransferError (TunnelTarget × Incoming) :=
  if family = 4 then do
    let (buf, s) ← readExact (4 + 2) s
    .ok (.addr (.v4 (BitVec.ofNat 32 (ofBe (buf.take 4))) (portOf (buf.drop 4))), s)
  else if family = 6 then do
    let (buf, s) ← readExact (16 + 2) s
    .ok (.addr (.v6 (BitVec.ofNat 128 (ofBe (buf.take 16))) (portOf (buf.drop 16)) 0 0), s)
  else if family = 3 then do
    let (len, s) ← readExact 1 s
    let hostLen := (len.headD 0).toNat
    if hostLen = 0 then .error .invalidDomain
    else do
      let (buf, s) ← readExact (hostLen + 2) s
      match String.fromUTF8? ⟨(buf.take hostLen).toArray⟩ with
      | some host => .ok (.domain host (portOf (buf.drop hostLen)), s)
      | none => .error .invalidDomain
  else .error .invalidIPFamily

def readTunnelTarget (s : Incoming) : Except TransferError (TunnelTarget × Incoming) := do
  let (family, s) ← readTargetFamily s
  readTunnelTargetBody family s

/-- The reader of the UDP relay. -/
def readOptionalTunnelTarget (s : Incoming) : Except TransferError (Option TunnelTarget × Incoming) := do
  let (family, s) ← readTargetFamily s
  if family = 0 then .ok (none, s)
  else do
    let (target, s) ← readTunnelTargetBody family s
    .ok (some target, s)

/-! ### Round trips -/

theorem readExact_ok {length : Nat} {s rest : Incoming} {bytes : Bytes}
    (h : readExact length s = .ok (bytes, rest)) :
    s.bytes = bytes ++ rest.bytes ∧ bytes.length = length := by
  unfold readExact at h
  split at h
  · rename_i enough
    obtain ⟨rfl, rfl⟩ := Prod.mk.inj (Except.ok.inj h)
    exact ⟨(List.take_append_drop length s.bytes).symm, by simpa using enough⟩
  · split at h <;> cases h

theorem readExact_append {bytes : Bytes} {s : Incoming} {length : Nat} (exact : bytes.length = length) :
    readExact length ⟨bytes ++ s.bytes, s.ended⟩ = .ok (bytes, s) := by
  subst exact
  simp [readExact]

theorem readExact_one (b : UInt8) (bytes : Bytes) (ended : Bool) :
    readExact 1 ⟨b :: bytes, ended⟩ = .ok ([b], ⟨bytes, ended⟩) := by
  simp [readExact]

theorem portOf_portBytes (port : UInt16) : portOf (portBytes port) = port := by
  rw [portOf, portBytes, ofBe_beBytes port.toNat_lt, UInt16.ofNat_toNat]

theorem ofNat_ofBe_beBytes (width : Nat) (ip : BitVec (8 * width)) :
    BitVec.ofNat (8 * width) (ofBe (beBytes width ip.toNat)) = ip := by
  rw [ofBe_beBytes (by simpa [Nat.pow_mul] using ip.isLt), BitVec.ofNat_toNat, BitVec.setWidth_eq]

theorem fromUTF8_hostBytes (host : String) : String.fromUTF8? ⟨(hostBytes host).toArray⟩ = some host := by
  rw [show (⟨(hostBytes host).toArray⟩ : ByteArray) = host.toUTF8 by simp [hostBytes]]
  exact dif_pos host.isValidUTF8

/-- What the header says about a target: the address without its flow label and scope. -/
def TunnelTarget.sent : TunnelTarget → TunnelTarget
  | addr (.v6 ip port _ _) => addr (.v6 ip port 0 0)
  | target => target

theorem readTunnelTargetBody_encode {target : TunnelTarget} {markNone : Bool} {header : Bytes} {s : Incoming}
    (written : encodeTunnelTarget (some target) markNone = .ok (some header)) :
    ∃ family body, header = family :: body ∧ family ≠ 0 ∧
      readTunnelTargetBody family ⟨body ++ s.bytes, s.ended⟩ = .ok (target.sent, s) := by
  cases target with
  | addr addr =>
    cases addr with
    | v4 ip port =>
      obtain rfl := Option.some.inj (Except.ok.inj written)
      refine ⟨_, _, rfl, by decide, ?_⟩
      rw [readTunnelTargetBody, if_pos rfl, readExact_append (by simp [portBytes])]
      show Except.ok _ = _
      rw [List.take_left' (length_beBytes 4 _), List.drop_left' (length_beBytes 4 _), portOf_portBytes]
      exact congrArg (fun ip => Except.ok (TunnelTarget.addr (.v4 ip port), s)) (ofNat_ofBe_beBytes 4 ip)
    | v6 ip port flowinfo scopeId =>
      obtain rfl := Option.some.inj (Except.ok.inj written)
      refine ⟨_, _, rfl, by decide, ?_⟩
      rw [readTunnelTargetBody, if_neg (by decide), if_pos rfl, readExact_append (by simp [portBytes])]
      show Except.ok _ = _
      rw [List.take_left' (length_beBytes 16 _), List.drop_left' (length_beBytes 16 _), portOf_portBytes]
      exact congrArg (fun ip => Except.ok (TunnelTarget.addr (.v6 ip port 0 0), s)) (ofNat_ofBe_beBytes 16 ip)
  | domain host port =>
    simp only [encodeTunnelTarget] at written
    split at written
    · cases written
    · rename_i short
      obtain rfl := Option.some.inj (Except.ok.inj written)
      refine ⟨_, _, rfl, by decide, ?_⟩
      have len : (UInt8.ofNat (hostBytes host).length).toNat = (hostBytes host).length := by
        simp
        omega
      rw [readTunnelTargetBody, if_neg (by decide), if_neg (by decide), if_pos rfl]
      rw [List.cons_append, readExact_one]
      show ite _ _ _ = _
      rw [List.headD_cons, len, if_neg (by omega), readExact_append (by simp [portBytes])]
      show (match String.fromUTF8? _ with | some host => _ | none => _) = _
      rw [List.take_left' rfl, List.drop_left' rfl, fromUTF8_hostBytes, portOf_portBytes]
      rfl

/-- The header of a target is read back, and nothing else is. -/
theorem readTunnelTarget_encode {target : TunnelTarget} {markNone : Bool} {header : Bytes} {s : Incoming}
    (written : encodeTunnelTarget (some target) markNone = .ok (some header)) :
    readTunnelTarget ⟨header ++ s.bytes, s.ended⟩ = .ok (target.sent, s) := by
  obtain ⟨family, body, rfl, _, read⟩ := readTunnelTargetBody_encode (s := s) written
  exact read

/-- Where the mark for the absence of a target is both written and expected, every target is read
back, also the absent one. -/
theorem readOptionalTunnelTarget_encode {target : Option TunnelTarget} {header : Bytes} {s : Incoming}
    (written : encodeTunnelTarget target true = .ok (some header)) :
    readOptionalTunnelTarget ⟨header ++ s.bytes, s.ended⟩ = .ok (target.map TunnelTarget.sent, s) := by
  cases target with
  | none =>
    obtain rfl := Option.some.inj (Except.ok.inj written)
    rfl
  | some target =>
    obtain ⟨family, body, rfl, present, read⟩ := readTunnelTargetBody_encode (s := s) written
    show (if family = 0 then _ else _) = _
    rw [if_neg present]
    exact congrArg (· >>= fun r => Except.ok (some r.1, r.2)) read

/-! ### Opening and accepting -/

inductive TunnelMode where
  | inbound
  | outbound
  deriving DecidableEq

inductive TunnelLogin where
  | networkBased (mode : TunnelMode) (upstreamAddr : Option SocketAddr) (localServerAddr : SocketAddr)
  | channelBased

structure ServerConfig where
  defaultTcpUpstream : Option SocketAddr
  channelTcpConnector : Bool

inductive LoginError where
  | explicitPortRequired
  | noDefaultUpstream
  | loopbackRequired (addr : SocketAddr)
  deriving DecidableEq

def SocketAddr.isUnspecified : SocketAddr → Bool
  | v4 ip _ => ip == 0
  | v6 ip _ _ _ => ip == 0

def SocketAddr.isLoopback : SocketAddr → Bool
  | v4 ip _ => ip >>> 24 == 127
  | v6 ip _ _ _ => ip == 1

/-- An inbound tunnel may be asked for on such an address only. -/
def SocketAddr.Local (addr : SocketAddr) : Prop := addr.isUnspecified ∨ addr.isLoopback

def obtainUpstreamAddr (mode : TunnelMode) (upstreamAddr defaultUpstream : Option SocketAddr) :
    Except LoginError SocketAddr :=
  match upstreamAddr with
  | none =>
    if mode = .inbound then .error .explicitPortRequired
    else match defaultUpstream with
      | none => .error .noDefaultUpstream
      | some addr => .ok addr
  | some addr =>
    if mode = .inbound ∧ ¬ addr.isUnspecified ∧ ¬ addr.isLoopback then .error (.loopbackRequired addr)
    else .ok addr

theorem obtainUpstreamAddr_ok {mode : TunnelMode} {upstreamAddr defaultUpstream : Option SocketAddr}
    {addr : SocketAddr} : obtainUpstreamAddr mode upstreamAddr defaultUpstream = .ok addr ↔
      (upstreamAddr = some addr ∧ (mode = .inbound → addr.Local)) ∨
      (upstreamAddr = none ∧ mode = .outbound ∧ defaultUpstream = some addr) := by
  unfold obtainUpstreamAddr
  cases upstreamAddr with
  | none => cases mode <;> cases defaultUpstream <;> simp
  | some given =>
    cases mode with
    | inbound =>
      dsimp only
      split
      · rename_i refused
        constructor
        · intro impossible
          cases impossible
        · rintro (⟨same, allowed⟩ | ⟨absent, _⟩)
          · obtain rfl := Option.some.inj same
            rcases allowed rfl with unspecified | loopback
            · exact absurd unspecified refused.2.1
            · exact absurd loopback refused.2.2
          · cases absent
      · rename_i allowed
        constructor
        · intro same
          obtain rfl := Except.ok.inj same
          refine Or.inl ⟨rfl, fun _ => ?_⟩
          by_contra neither
          exact allowed ⟨rfl, fun unspecified => neither (Or.inl unspecified),
            fun loopback => neither (Or.inr loopback)⟩
        · rintro (⟨same, _⟩ | ⟨absent, _⟩)
          · rw [Option.some.inj same]
          · cases absent
    | outbound => simp

inductive Upstream where
  | connector (requestedDst : Option TunnelTarget) (defaultUpstream : Option SocketAddr)
  | connect (target : TunnelTarget)
  deriving DecidableEq

inductive AcceptError where
  | readTarget (err : TransferError)
  | noDestination
  deriving DecidableEq

/-- An accepted stream that is connected. `payload` is what will be relayed. -/
structure Accepted where
  requestedDst : Option TunnelTarget
  upstream : Upstream
  payload : Incoming
  deriving DecidableEq

/-- A target is read unless there is a fixed upstream and no connector. -/
def readRequestedDst (upstreamAddr : Option SocketAddr) (tcpConnector : Bool) (s : Incoming) :
    Except AcceptError (Option TunnelTarget × Incoming) :=
  if tcpConnector || upstreamAddr.isNone then
    match readTunnelTarget s with
    | .ok (target, s) => .ok (some target, s)
    | .error err => .error (.readTarget err)
  else .ok (none, s)

def connectUpstream (upstreamAddr : Option SocketAddr) (tcpConnector : Bool)
    (requestedDst : Option TunnelTarget) : Except AcceptError Upstream :=
  if tcpConnector then .ok (.connector requestedDst upstreamAddr)
  else
    match (upstreamAddr.map TunnelTarget.addr).or requestedDst with
    | some target => .ok (.connect target)
    | none => .error .noDestination

def startAcceptingWithConnector (upstreamAddr : Option SocketAddr) (tcpConnector : Bool) (s : Incoming) :
    Except AcceptError Accepted := do
  let (requestedDst, s) ← readRequestedDst upstreamAddr tcpConnector s
  let upstream ← connectUpstream upstreamAddr tcpConnector requestedDst
  .ok ⟨requestedDst, upstream, s⟩

def startAccepting (upstreamAddr : Option SocketAddr) : Incoming → Except AcceptError Accepted :=
  startAcceptingWithConnector upstreamAddr false

def startDynamicAccepting (defaultUpstream : Option SocketAddr) (tcpConnector : Bool) :
    Incoming → Except AcceptError Accepted :=
  if tcpConnector then startAcceptingWithConnector defaultUpstream true else startAccepting none

/-- The end that accepts the streams of a tunnel: the server, or for an inbound tunnel the client. -/
def acceptor (config : ServerConfig) :
    TunnelLogin → Except LoginError (Incoming → Except AcceptError Accepted)
  | .networkBased mode upstreamAddr localServerAddr => do
    let upstreamAddr ← obtainUpstreamAddr mode upstreamAddr config.defaultTcpUpstream
    match mode with
    | .outbound => .ok (startAccepting (some upstreamAddr))
    | .inbound => .ok (startAccepting (some localServerAddr))
  | .channelBased => .ok (startDynamicAccepting config.defaultTcpUpstream config.channelTcpConnector)

/-- What `start_serving` writes for a request with this target, and then relays. -/
def openStream (target : Option TunnelTarget) (payload : Incoming) : Except String Incoming :=
  (encodeTunnelTarget target false).map fun header => ⟨header.getD [] ++ payload.bytes, payload.ended⟩

/-- The two ends agree on where the header ends and on what it says. -/
def Agrees (config : ServerConfig) (tunnel : TunnelLogin) (target : Option TunnelTarget)
    (payload : Incoming) : Prop :=
  ∀ accept wire, acceptor config tunnel = .ok accept → openStream target payload = .ok wire →
    ∃ upstream, accept wire = .ok ⟨target, upstream, payload⟩

/-- The header can carry the target as it is. -/
def TunnelTarget.Plain (target : TunnelTarget) : Prop := target.sent = target

instance (target : TunnelTarget) : Decidable target.Plain := inferInstanceAs (Decidable (_ = _))

/-- The target is one that the accepting end is prepared for. -/
def TunnelLogin.Expects : TunnelLogin → Option TunnelTarget → Prop
  | networkBased _ _ _, target => target = none
  | channelBased, target => ∃ requested, target = some requested ∧ requested.Plain

theorem startAccepting_some (addr : SocketAddr) (s : Incoming) :
    startAccepting (some addr) s = .ok ⟨none, .connect (.addr addr), s⟩ := rfl

theorem startDynamicAccepting_eq (defaultUpstream : Option SocketAddr) (tcpConnector : Bool) (s : Incoming) :
    startDynamicAccepting defaultUpstream tcpConnector s =
      match readTunnelTarget s with
      | .ok (target, rest) =>
        .ok ⟨some target,
          if tcpConnector then .connector (some target) defaultUpstream else .connect target, rest⟩
      | .error err => .error (.readTarget err) := by
  cases tcpConnector <;> cases read : readTunnelTarget s <;>
    simp only [startDynamicAccepting, startAccepting, startAcceptingWithConnector, readRequestedDst, read,
      Bool.true_or, Bool.false_or, Option.isNone_none, if_true, if_false, Bool.false_eq_true] <;> rfl

theorem acceptor_networkBased {config : ServerConfig} {mode : TunnelMode} {upstreamAddr : Option SocketAddr}
    {localServerAddr : SocketAddr} {accept : Incoming → Except AcceptError Accepted}
    (h : acceptor config (.networkBased mode upstreamAddr localServerAddr) = .ok accept) :
    ∃ addr, accept = startAccepting (some addr) := by
  rw [acceptor] at h
  cases obtained : obtainUpstreamAddr mode upstreamAddr config.defaultTcpUpstream with
  | error err => rw [obtained] at h; cases h
  | ok addr =>
    rw [obtained] at h
    cases mode <;> cases h
    · exact ⟨localServerAddr, rfl⟩
    · exact ⟨addr, rfl⟩

theorem encodeTunnelTarget_some {target : TunnelTarget} {markNone : Bool} {header : Option Bytes}
    (written : encodeTunnelTarget (some target) markNone = .ok header) : ∃ bytes, header = some bytes := by
  rcases target with ⟨⟨_, _⟩ | ⟨_, _, _, _⟩⟩ | ⟨host, port⟩
  · exact ⟨_, (Except.ok.inj written).symm⟩
  · exact ⟨_, (Except.ok.inj written).symm⟩
  · simp only [encodeTunnelTarget] at written
    split at written
    · cases written
    · exact ⟨_, (Except.ok.inj written).symm⟩

/-- Over a stream that is opened at all, the two ends agree exactly on the targets that the accepting
end is prepared for, whatever the payload. -/
theorem accepts_iff {config : ServerConfig} {tunnel : TunnelLogin} {target : Option TunnelTarget}
    {accept : Incoming → Except AcceptError Accepted} {header : Option Bytes} (payload : Incoming)
    (login : acceptor config tunnel = .ok accept) (written : encodeTunnelTarget target false = .ok header) :
    (∃ upstream, accept ⟨header.getD [] ++ payload.bytes, payload.ended⟩ = .ok ⟨target, upstream, payload⟩) ↔
      tunnel.Expects target := by
  cases tunnel with
  | networkBased mode upstreamAddr localServerAddr =>
    obtain ⟨addr, rfl⟩ := acceptor_networkBased login
    rw [startAccepting_some]
    constructor
    · rintro ⟨upstream, same⟩
      exact (congrArg Accepted.requestedDst (Except.ok.inj same)).symm
    · rintro rfl
      obtain rfl : none = header := Except.ok.inj written
      exact ⟨_, rfl⟩
  | channelBased =>
    obtain rfl := Except.ok.inj login
    rw [startDynamicAccepting_eq]
    cases target with
    | none =>
      -- if reading succeeds at all, it finds a target where none was written
      refine ⟨fun ⟨upstream, same⟩ => ?_, fun ⟨_, absent, _⟩ => by cases absent⟩
      split at same
      · cases congrArg Accepted.requestedDst (Except.ok.inj same)
      · cases same
    | some target =>
      obtain ⟨bytes, rfl⟩ := encodeTunnelTarget_some written
      rw [Option.getD_some, readTunnelTarget_encode written]
      constructor
      · rintro ⟨upstream, same⟩
        exact ⟨target, rfl, Option.some.inj (congrArg Accepted.requestedDst (Except.ok.inj same))⟩
      · rintro ⟨requested, same, plain⟩
        obtain rfl := Option.some.inj same
        exact ⟨_, by rw [plain]⟩

theorem agrees_iff {config : ServerConfig} {tunnel : TunnelLogin} {target : Option TunnelTarget}
    {payload : Incoming} :
    Agrees config tunnel target payload ↔
      (∃ err, acceptor config tunnel = .error err) ∨ (∃ err, encodeTunnelTarget target false = .error err) ∨
        tunnel.Expects target := by
  unfold Agrees openStream
  cases login : acceptor config tunnel with
  | error err => simp
  | ok accept =>
    cases written : encodeTunnelTarget target false with
    | error err => simp [Except.map]
    | ok header => simpa [Except.map] using accepts_iff payload login written

/-- Over a channel-based tunnel, a request without a target goes to whatever target its payload
begins with. -/
theorem payload_read_as_target (config : ServerConfig) {target : TunnelTarget} {header : Bytes}
    {rest : Incoming} (crafted : encodeTunnelTarget (some target) false = .ok (some header)) :
    ∃ accept wire upstream, acceptor config .channelBased = .ok accept ∧
      openStream none ⟨header ++ rest.bytes, rest.ended⟩ = .ok wire ∧
      accept wire = .ok ⟨some target.sent, upstream, rest⟩ := by
  have read := startDynamicAccepting_eq config.defaultTcpUpstream config.channelTcpConnector
    ⟨header ++ rest.bytes, rest.ended⟩
  rw [readTunnelTarget_encode crafted] at read
  exact ⟨_, _, _, rfl, rfl, read⟩

/-- The server connects to port 80 of 10.0.0.1, which the payload names, and relays the rest of it. -/
theorem header_missing :
    ¬ Agrees ⟨none, false⟩ .channelBased none ⟨[4, 10, 0, 0, 1, 0, 80, 104, 105], true⟩ ∧
    ∃ accept wire, acceptor ⟨none, false⟩ .channelBased = .ok accept ∧
      openStream none ⟨[4, 10, 0, 0, 1, 0, 80, 104, 105], true⟩ = .ok wire ∧
      accept wire = .ok ⟨some (.addr (.v4 0x0A000001 80)), .connect (.addr (.v4 0x0A000001 80)),
        ⟨[104, 105], true⟩⟩ := by
  refine ⟨fun agrees => ?_, _, _, rfl, rfl, by decide⟩
  obtain ⟨upstream, same⟩ := agrees _ _ rfl rfl
  cases congrArg (Except.map Accepted.requestedDst) same

end Rstun.Tunnel
