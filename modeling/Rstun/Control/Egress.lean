import Rstun.Control.Login

/-!
# Where a stream goes

What the server does with a stream that it accepts: the streams of a TCP tunnel are those of
`tcp_tunnel.rs`, for UDP it is `UdpTunnel::process` from `udp_tunnel.rs`. The fixed upstream of a
network-based tunnel and the default upstream of a channel-based one reach `process` by the same
parameter. A name is resolved here, by whatever the system's resolver says.
-/

namespace Rstun.Control
open Rstun.Tunnel

inductive ResolveError where
  | timeout
  | failed
  deriving DecidableEq

inductive ProcessError where
  | readTarget (err : TransferError)
  | resolve (err : ResolveError) (host : String) (port : UInt16)
  | resolveEmpty (host : String) (port : UInt16)
  | noUpstreamAddr
  deriving DecidableEq

abbrev Resolver := String → UInt16 → Except ResolveError (List SocketAddr)

/-- The first IPv4 address that is found, or else the first one. -/
def resolveUdpTarget (lookupHost : Resolver) : TunnelTarget → Except ProcessError SocketAddr
  | .addr addr => .ok addr
  | .domain host port =>
    match lookupHost host port with
    | .error err => .error (.resolve err host port)
    | .ok addrs =>
      match (addrs.find? fun addr => !addr.isIpv6).or addrs.head? with
      | some addr => .ok addr
      | none => .error (.resolveEmpty host port)

/-- `process` up to the address that it connects its socket to. -/
def process (lookupHost : Resolver) (upstreamAddr : Option SocketAddr) (s : Incoming) :
    Except ProcessError SocketAddr :=
  match readOptionalTunnelTarget s with
  | .error err => .error (.readTarget err)
  | .ok (target, _) =>
    match upstreamAddr with
    | some addr => .ok addr
    | none =>
      match target with
      | some target => resolveUdpTarget lookupHost target
      | none => .error .noUpstreamAddr

inductive StreamError where
  | tcp (err : AcceptError)
  | udp (err : ProcessError)
  deriving DecidableEq

/-- A TCP stream is connected to a target, or to what a connector chooses. The streams of a UDP tunnel
with a connector are all served by the one channel that it opens. -/
inductive Destination where
  | tcp (upstream : Upstream)
  | udp (addr : SocketAddr)
  | udpChannel
  deriving DecidableEq

def acceptTcp (accepted : Except AcceptError Accepted) : Except StreamError Destination :=
  match accepted with
  | .ok accepted => .ok (.tcp accepted.upstream)
  | .error err => .error (.tcp err)

def acceptUdp (lookupHost : Resolver) (defaultUpstream : Option SocketAddr) (udpConnector : Bool)
    (s : Incoming) : Except StreamError Destination :=
  if udpConnector then .ok .udpChannel
  else match process lookupHost defaultUpstream s with
    | .ok addr => .ok (.udp addr)
    | .error err => .error (.udp err)

/-- The branches of `serve` that accept streams. Those of an inbound tunnel are opened by the server. -/
def acceptStream (lookupHost : Resolver) (config : Config) (s : Incoming) :
    TunnelType → Option (Except StreamError Destination)
  | .out .tcp upstreamAddr => some (acceptTcp (startAccepting (some upstreamAddr) s))
  | .out .udp upstreamAddr => some (acceptUdp lookupHost (some upstreamAddr) false s)
  | .inbound _ _ => none
  | .dynamicUpstreamOut .tcp =>
    some (acceptTcp (startDynamicAccepting config.defaultTcpUpstream config.channelTcpConnector s))
  | .dynamicUpstreamOut .udp =>
    some (acceptUdp lookupHost config.defaultUdpUpstream config.channelUdpConnector s)

/-! ### Channel-based tunnels -/

/-- The stream goes to the target that it names, and a UDP flow that names none to the default. -/
def GoesAsNamed (lookupHost : Resolver) (config : Config) (upstreamType : UpstreamType) (s : Incoming) : Prop :=
  match upstreamType with
  | .tcp => ∀ target rest, readTunnelTarget s = .ok (target, rest) →
      acceptStream lookupHost config s (.dynamicUpstreamOut .tcp) = some (.ok (.tcp (.connect target)))
  | .udp => ∀ target rest, readOptionalTunnelTarget s = .ok (target, rest) →
      acceptStream lookupHost config s (.dynamicUpstreamOut .udp) =
        match target with
        | some target =>
          match resolveUdpTarget lookupHost target with
          | .ok addr => some (.ok (.udp addr))
          | .error err => some (.error (.udp err))
        | none =>
          match config.defaultUdpUpstream with
          | some addr => some (.ok (.udp addr))
          | none => some (.error (.udp .noUpstreamAddr))

/-- A UDP flow that names a target has a default upstream in its way, which is somewhere else. -/
def Diverted (lookupHost : Resolver) (config : Config) (upstreamType : UpstreamType) (s : Incoming) : Prop :=
  upstreamType = .udp ∧ ∃ target rest addr, readOptionalTunnelTarget s = .ok (some target, rest) ∧
    config.defaultUdpUpstream = some addr ∧ resolveUdpTarget lookupHost target ≠ .ok addr

variable {lookupHost : Resolver} {config : Config} {s : Incoming}

theorem goesAsNamed_tcp (connector : config.channelTcpConnector = false) :
    GoesAsNamed lookupHost config .tcp s := by
  intro target rest read
  simp only [acceptStream, startDynamicAccepting_eq, read, connector]
  rfl

theorem goesAsNamed_udp_iff (connector : config.channelUdpConnector = false) :
    GoesAsNamed lookupHost config .udp s ↔ ¬ Diverted lookupHost config .udp s := by
  unfold GoesAsNamed Diverted
  simp only [acceptStream, acceptUdp, connector, Bool.false_eq_true, if_false, process, true_and]
  cases read : readOptionalTunnelTarget s with
  | error err => simp
  | ok result =>
    obtain ⟨target, rest⟩ := result
    cases target with
    | none => cases config.defaultUdpUpstream <;> simp
    | some target =>
      cases config.defaultUdpUpstream with
      | none =>
        simp only [Except.ok.injEq, Prod.mk.injEq, Option.some.injEq]
        constructor
        · rintro _ ⟨_, _, _, _, absent, _⟩
          cases absent
        · rintro _ named _ ⟨same, _⟩
          subst named
          cases resolved : resolveUdpTarget lookupHost target <;> simp only [resolved]
      | some addr => cases resolved : resolveUdpTarget lookupHost target <;> simp [resolved, eq_comm]

/-- Without connectors, a stream of a channel-based tunnel goes where it says, except for a UDP flow
that names another destination than the default upstream. -/
theorem goesAsNamed_iff (upstreamType : UpstreamType) (tcpConnector : config.channelTcpConnector = false)
    (udpConnector : config.channelUdpConnector = false) :
    GoesAsNamed lookupHost config upstreamType s ↔ ¬ Diverted lookupHost config upstreamType s := by
  cases upstreamType with
  | tcp => exact iff_of_true (goesAsNamed_tcp tcpConnector) fun diverted => by cases diverted.1
  | udp => exact goesAsNamed_udp_iff udpConnector

/-- A flow to port 53 of 10.0.0.1. -/
def dnsFlow : Incoming := ⟨[4, 10, 0, 0, 1, 0, 53], false⟩

theorem goesAsNamed_dnsFlow :
    GoesAsNamed (fun _ _ => .error .failed) bareConfig .udp dnsFlow ∧
    acceptStream (fun _ _ => .error .failed) bareConfig dnsFlow (.dynamicUpstreamOut .udp) =
      some (.ok (.udp (.v4 0x0A000001 53))) := by
  refine ⟨(goesAsNamed_iff .udp rfl rfl).mpr ?_, by decide⟩
  rintro ⟨_, _, _, _, _, present, _⟩
  cases present

/-- A server whose default upstream for UDP is port 5353 of 192.168.0.1. -/
def udpDefault : Config := { bareConfig with defaultUdpUpstream := some (.v4 0xC0A80001 5353) }

theorem target_ignored :
    acceptStream (fun _ _ => .error .failed) udpDefault dnsFlow (.dynamicUpstreamOut .udp) =
      some (.ok (.udp (.v4 0xC0A80001 5353))) ∧
    ¬ GoesAsNamed (fun _ _ => .error .failed) udpDefault .udp dnsFlow := by
  refine ⟨by decide, fun named => ?_⟩
  have sent := named (some (.addr (.v4 0x0A000001 53))) ⟨[], false⟩ (by decide)
  exact absurd sent (by decide)

end Rstun.Control
