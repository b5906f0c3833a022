import Rstun.Base.Exclusive
import Rstun.Udp.Serving

/-!
# UDP streams to a channel

With a connector for UDP the server hands datagrams to a channel instead of a socket. Every stream of a
connection gets a made-up local address, under which its reply channel is entered into a map. The streams
share the map and a counter for the ports. A router takes the replies and looks up whose they are.
-/

namespace Rstun.Udp
open Transition Rstun.Tunnel

def targetFamilyIsIpv6 (target : Option TunnelTarget) (defaultUpstream : Option SocketAddr) : Bool :=
  match target with
  | some (.addr addr) => addr.isIpv6
  | some (.domain _ _) | none => defaultUpstream.any SocketAddr.isIpv6

def channelLocalAddrForPort (port : UInt16) (ipv6 : Bool) : SocketAddr :=
  (socketAddrWithUnspecifiedIpPort ipv6).setPort port

theorem channelLocalAddrForPort_spec (port : UInt16) (ipv6 : Bool) :
    (channelLocalAddrForPort port ipv6).port = port ∧ (channelLocalAddrForPort port ipv6).isIpv6 = ipv6 := by
  cases ipv6 <;> exact ⟨rfl, rfl⟩

/-- Where `process_channel_io` stands. `reserving` and `trying` are within `reserve_channel_local_addr`:
so many of the tries are used up, and a port has been drawn from the counter but not entered. `ended` has
left the loop and has yet to remove its entry. -/
inductive ChannelPhase where
  | readingTarget
  | reading
  | reserving (payload : Bytes) (tries : Nat)
  | trying (payload : Bytes) (tries : Nat) (port : UInt16)
  | forwarding (localAddr : SocketAddr) (payload : Bytes)
  | ended
  | gone
  deriving DecidableEq

structure ChannelStream where
  target : Option TunnelTarget
  localAddr : Option SocketAddr
  phase : ChannelPhase
  deriving DecidableEq

/-- The router has cloned the sender of a reply, and sends. -/
inductive RouterPhase where
  | waiting
  | holding (sid : Nat) (packet : UdpPacket)
  | stopped
  deriving DecidableEq

/-- `forwarded` and `delivered` are for the record: what each stream has put into the channel, and what
the router has put into the reply channel of each stream. -/
structure Bridge where
  nextLocalPort : UInt16
  replyMap : SocketAddr → Option Nat
  streams : Nat → ChannelStream
  spawned : Nat
  router : RouterPhase
  forwarded : List (Nat × UdpPacket)
  delivered : List (Nat × UdpPacket)

inductive BridgeAction where
  | spawn
  | target (sid : Nat) (target : Option TunnelTarget)
  | targetFails (sid : Nat)
  | datagram (sid : Nat) (payload : Bytes)
  | draw (sid : Nat)
  | enter (sid : Nat)
  | forward (sid : Nat)
  | readFails (sid : Nat)
  | cleanup (sid : Nat)
  | route (packet : UdpPacket)
  | deliver
  | stopRouter

namespace Bridge

def new : Bridge := ⟨10000, fun _ => none, fun _ => ⟨none, none, .gone⟩, 0, .waiting, [], []⟩

def setStream (s : Bridge) (sid : Nat) (stream : ChannelStream) : Bridge :=
  { s with streams := Function.update s.streams sid stream }

/-- A datagram has been read, and `channel_local_addr` has an address or begins to reserve one. -/
def datagram (s : Bridge) (sid : Nat) (payload : Bytes) : Option Bridge :=
  let stream := s.streams sid
  match stream.phase, stream.localAddr with
  | .reading, some localAddr => some (s.setStream sid { stream with phase := .forwarding localAddr payload })
  | .reading, none => some (s.setStream sid { stream with phase := .reserving payload 0 })
  | _, _ => none

/-- A try begins with a port from the counter. After `u16::MAX` of them the stream fails, and it has no
entry to remove then. -/
def draw (s : Bridge) (sid : Nat) : Option Bridge :=
  let stream := s.streams sid
  match stream.phase with
  | .reserving payload tries =>
    if tries < 65535 then
      -- `fetch_add` wraps around, and the port 0 uses up a try.
      let port := s.nextLocalPort
      let s := { s with nextLocalPort := port + 1 }
      if port = 0 then some (s.setStream sid { stream with phase := .reserving payload (tries + 1) })
      else some (s.setStream sid { stream with phase := .trying payload tries port })
    else some (s.setStream sid { stream with phase := .gone })
  | _ => none

def enter (defaultUpstream : Option SocketAddr) (s : Bridge) (sid : Nat) : Option Bridge :=
  let stream := s.streams sid
  match stream.phase with
  | .trying payload tries port =>
    let localAddr := channelLocalAddrForPort port (targetFamilyIsIpv6 stream.target defaultUpstream)
    match s.replyMap localAddr with
    | some _ => some (s.setStream sid { stream with phase := .reserving payload (tries + 1) })
    | none => some { s.setStream sid { stream with
          localAddr := some localAddr, phase := .forwarding localAddr payload } with
        replyMap := Function.update s.replyMap localAddr (some sid) }
  | _ => none

def forward (s : Bridge) (sid : Nat) : Option Bridge :=
  let stream := s.streams sid
  match stream.phase with
  | .forwarding localAddr payload => some { s.setStream sid { stream with phase := .reading } with
      forwarded := s.forwarded ++ [(sid, ⟨payload, localAddr, stream.target⟩)] }
  | _ => none

def cleanup (s : Bridge) (sid : Nat) : Option Bridge :=
  let stream := s.streams sid
  match stream.phase with
  | .ended =>
    let s := match stream.localAddr with
      | some localAddr => { s with replyMap := Function.update s.replyMap localAddr none }
      | none => s
    some (s.setStream sid { stream with localAddr := none, phase := .gone })
  | _ => none

/-- The router takes a reply and looks up its local address. -/
def route (s : Bridge) (packet : UdpPacket) : Option Bridge :=
  match s.router with
  | .waiting =>
    match s.replyMap packet.localAddr with
    | some sid => some { s with router := .holding sid packet }
    | none => some s
  | _ => none

def step (defaultUpstream : Option SocketAddr) (s : Bridge) : BridgeAction → Option Bridge
  | .spawn => some { s.setStream s.spawned ⟨none, none, .readingTarget⟩ with spawned := s.spawned + 1 }
  | .target sid target =>
    if (s.streams sid).phase = .readingTarget then
      some (s.setStream sid { s.streams sid with target := target, phase := .reading })
    else none
  | .targetFails sid =>
    if (s.streams sid).phase = .readingTarget then
      some (s.setStream sid { s.streams sid with phase := .gone })
    else none
  | .datagram sid payload => s.datagram sid payload
  | .draw sid => s.draw sid
  | .enter sid => s.enter defaultUpstream sid
  | .forward sid => s.forward sid
  | .readFails sid =>
    if (s.streams sid).phase = .reading then
      some (s.setStream sid { s.streams sid with phase := .ended })
    else none
  | .cleanup sid => s.cleanup sid
  | .route packet => s.route packet
  | .deliver =>
    match s.router with
    | .holding sid packet => some { s with router := .waiting, delivered := s.delivered ++ [(sid, packet)] }
    | _ => none
  | .stopRouter => some { s with router := .stopped }

end Bridge

/-! ### Ownership of the addresses -/

/-- A stream has an address from its first datagram on, until it is gone. -/
structure ChannelStream.Ok (defaultUpstream : Option SocketAddr) (stream : ChannelStream) : Prop where
  phase : match stream.phase with
    | .readingTarget | .reserving _ _ | .gone => stream.localAddr = none
    | .trying _ _ port => stream.localAddr = none ∧ port ≠ 0
    | .forwarding localAddr _ => stream.localAddr = some localAddr
    | .reading | .ended => True
  addr : ∀ localAddr, stream.localAddr = some localAddr → localAddr.port ≠ 0 ∧
    localAddr.isIpv6 = targetFamilyIsIpv6 stream.target defaultUpstream

structure Bridge.Owned (defaultUpstream : Option SocketAddr) (s : Bridge) : Prop where
  owners : Slots.Mutual s.replyMap (ChannelStream.localAddr ∘ s.streams)
  ok : ∀ sid, (s.streams sid).Ok defaultUpstream
  fresh : ∀ sid, s.spawned ≤ sid → (s.streams sid).phase = .gone
  forwarded : ∀ sid packet, (sid, packet) ∈ s.forwarded → sid < s.spawned ∧
    ((s.streams sid).phase = .gone ∨ (s.streams sid).localAddr = some packet.localAddr)

namespace Bridge

variable {d : Option SocketAddr} {s t : Bridge} {sid : Nat}

theorem owned_new : new.Owned d :=
  ⟨fun _ _ => ⟨nofun, nofun⟩, fun _ => ⟨rfl, nofun⟩, fun _ _ => rfl, nofun⟩

/-- A stream makes a step. What that does to the map is left to `owners`. -/
theorem Owned.touch (inv : s.Owned d) {stream : ChannelStream} {replyMap : SocketAddr → Option Nat}
    (live : (s.streams sid).phase ≠ .gone) (ok : stream.Ok d)
    (kept : stream.phase = .gone ∨ ∀ addr, (s.streams sid).localAddr = some addr → stream.localAddr = some addr)
    (owners : Slots.Mutual replyMap
      (Function.update (ChannelStream.localAddr ∘ s.streams) sid stream.localAddr)) :
    Owned d { s.setStream sid stream with replyMap := replyMap } := by
  refine ⟨?_, ?_, ?_, ?_⟩
  · simp only [setStream, Function.comp_update]
    exact owners
  · apply (Function.forall_update_iff s.streams fun _ stream => stream.Ok d).mpr
    exact ⟨ok, fun other _ => inv.ok other⟩
  · apply (Function.forall_update_iff s.streams fun other stream =>
      s.spawned ≤ other → stream.phase = .gone).mpr
    exact ⟨fun above => absurd (inv.fresh sid above) live, fun other _ => inv.fresh other⟩
  · apply (Function.forall_update_iff s.streams fun other stream => ∀ packet, (other, packet) ∈ s.forwarded →
      other < s.spawned ∧ (stream.phase = .gone ∨ stream.localAddr = some packet.localAddr)).mpr
    refine ⟨fun packet went => ?_, fun other _ => inv.forwarded other⟩
    obtain ⟨spawned, before⟩ := inv.forwarded sid packet went
    refine ⟨spawned, ?_⟩
    rcases kept with gone | kept
    · exact .inl gone
    · exact .inr (kept _ (before.resolve_left live))

/-- A stream that keeps its address leaves the map alone. -/
theorem Owned.keep (inv : s.Owned d) {stream : ChannelStream} (live : (s.streams sid).phase ≠ .gone)
    (ok : stream.Ok d) (same : stream.localAddr = (s.streams sid).localAddr) :
    (s.setStream sid stream).Owned d := by
  apply inv.touch live ok (.inr fun addr owned => same.trans owned)
  rw [same, ← Function.comp_apply (f := ChannelStream.localAddr), Function.update_eq_self]
  exact inv.owners

theorem spawn_owned (inv : s.Owned d) :
    Owned d { s.setStream s.spawned ⟨none, none, .readingTarget⟩ with spawned := s.spawned + 1 } := by
  have none : (s.streams s.spawned).localAddr = none := by
    have ok := (inv.ok s.spawned).phase
    rw [inv.fresh s.spawned (Nat.le_refl _)] at ok
    exact ok
  refine ⟨?_, ?_, ?_, ?_⟩
  · simp only [setStream, Function.comp_update]
    rw [← none, ← Function.comp_apply (f := ChannelStream.localAddr), Function.update_eq_self]
    exact inv.owners
  · apply (Function.forall_update_iff s.streams fun _ stream => stream.Ok d).mpr
    exact ⟨⟨rfl, nofun⟩, fun other _ => inv.ok other⟩
  · intro other above
    have different : other ≠ s.spawned := Nat.ne_of_gt above
    simpa only [setStream, Function.update_of_ne different] using inv.fresh other (Nat.le_of_succ_le above)
  · intro other packet went
    obtain ⟨spawned, before⟩ := inv.forwarded other packet went
    refine ⟨Nat.lt_succ_of_lt spawned, ?_⟩
    simpa only [setStream, Function.update_of_ne (Nat.ne_of_lt spawned)] using before

theorem datagram_owned {payload : Bytes} (inv : s.Owned d) (h : s.datagram sid payload = some t) :
    t.Owned d := by
  unfold datagram at h
  dsimp only at h
  have addr := (inv.ok sid).addr
  split at h
  · rename_i localAddr phase owned
    obtain rfl := Option.some.inj h
    exact inv.keep (by rw [phase]; nofun) ⟨owned, addr⟩ rfl
  · rename_i phase none
    obtain rfl := Option.some.inj h
    exact inv.keep (by rw [phase]; nofun) ⟨none, addr⟩ rfl
  · cases h

/-- The counter is nobody's. -/
theorem Owned.count (inv : s.Owned d) (port : UInt16) : Owned d { s with nextLocalPort := port } :=
  ⟨inv.owners, inv.ok, inv.fresh, inv.forwarded⟩

theorem draw_owned (inv : s.Owned d) (h : s.draw sid = some t) : t.Owned d := by
  unfold draw at h
  dsimp only at h
  split at h
  case h_2 => cases h
  rename_i payload tries phase
  have live : (s.streams sid).phase ≠ .gone := by rw [phase]; nofun
  have none : (s.streams sid).localAddr = none := by
    have ok := (inv.ok sid).phase
    rwa [phase] at ok
  have addr := (inv.ok sid).addr
  split at h
  · split at h <;> obtain rfl := Option.some.inj h
    · exact (inv.count _).keep live ⟨none, addr⟩ rfl
    · rename_i nonzero
      exact (inv.count _).keep live ⟨⟨none, nonzero⟩, addr⟩ rfl
  · obtain rfl := Option.some.inj h
    exact inv.keep live ⟨none, addr⟩ rfl

theorem enter_owned (inv : s.Owned d) (h : s.enter d sid = some t) : t.Owned d := by
  unfold enter at h
  dsimp only at h
  split at h
  case h_2 => cases h
  rename_i payload tries port phase
  have live : (s.streams sid).phase ≠ .gone := by rw [phase]; nofun
  obtain ⟨none, nonzero⟩ : (s.streams sid).localAddr = none ∧ port ≠ 0 := by
    have ok := (inv.ok sid).phase
    rwa [phase] at ok
  split at h
  · obtain rfl := Option.some.inj h
    exact inv.keep live ⟨none, (inv.ok sid).addr⟩ rfl
  · rename_i free
    obtain rfl := Option.some.inj h
    obtain ⟨samePort, family⟩ :=
      channelLocalAddrForPort_spec port (targetFamilyIsIpv6 (s.streams sid).target d)
    apply inv.touch live
    · refine ⟨rfl, ?_⟩
      rintro _ ⟨⟩
      exact ⟨by rwa [samePort], family⟩
    · refine .inr fun addr owned => ?_
      rw [none] at owned
      cases owned
    · exact inv.owners.claim free none

theorem forward_owned (inv : s.Owned d) (h : s.forward sid = some t) : t.Owned d := by
  unfold forward at h
  dsimp only at h
  split at h
  case h_2 => cases h
  rename_i localAddr payload phase
  have live : (s.streams sid).phase ≠ .gone := by rw [phase]; nofun
  have owned : (s.streams sid).localAddr = some localAddr := by
    have ok := (inv.ok sid).phase
    rwa [phase] at ok
  obtain rfl := Option.some.inj h
  have ok : ChannelStream.Ok d { s.streams sid with phase := .reading } := ⟨trivial, (inv.ok sid).addr⟩
  have after := inv.keep live ok rfl
  refine { after with forwarded := ?_ }
  intro other packet went
  rcases List.mem_append.mp went with before | last
  · exact after.forwarded other packet before
  · cases List.mem_singleton.mp last
    refine ⟨?_, .inr ?_⟩
    · by_contra above
      exact live (inv.fresh sid (Nat.le_of_not_lt above))
    · simpa only [setStream, Function.update_self] using owned

theorem cleanup_owned (inv : s.Owned d) (h : s.cleanup sid = some t) : t.Owned d := by
  unfold cleanup at h
  dsimp only at h
  split at h
  case h_2 => cases h
  rename_i phase
  have live : (s.streams sid).phase ≠ .gone := by rw [phase]; nofun
  obtain rfl := Option.some.inj h
  cases owned : (s.streams sid).localAddr with
  | some localAddr => exact inv.touch live ⟨rfl, nofun⟩ (.inl rfl) (inv.owners.release owned)
  | none => exact inv.keep live ⟨rfl, nofun⟩ owned.symm

theorem step_owned {act : BridgeAction} (inv : s.Owned d) (h : s.step d act = some t) : t.Owned d := by
  cases act with
  | spawn =>
    obtain rfl := Option.some.inj h
    exact spawn_owned inv
  | target sid target =>
    simp only [step] at h
    split at h <;> cases h
    rename_i phase
    have none : (s.streams sid).localAddr = none := by
      have ok := (inv.ok sid).phase
      rwa [phase] at ok
    refine inv.keep (by rw [phase]; nofun) ⟨trivial, fun addr owned => ?_⟩ rfl
    cases none.symm.trans owned
  | targetFails sid =>
    simp only [step] at h
    split at h <;> cases h
    rename_i phase
    have none : (s.streams sid).localAddr = none := by
      have ok := (inv.ok sid).phase
      rwa [phase] at ok
    exact inv.keep (by rw [phase]; nofun) ⟨none, (inv.ok sid).addr⟩ rfl
  | datagram sid payload => exact datagram_owned inv h
  | draw sid => exact draw_owned inv h
  | enter sid => exact enter_owned inv h
  | forward sid => exact forward_owned inv h
  | readFails sid =>
    simp only [step] at h
    split at h <;> cases h
    rename_i phase
    exact inv.keep (by rw [phase]; nofun) ⟨trivial, (inv.ok sid).addr⟩ rfl
  | cleanup sid => exact cleanup_owned inv h
  | route packet =>
    simp only [step, route] at h
    split at h
    case h_2 => cases h
    split at h <;> cases h
    · exact ⟨inv.owners, inv.ok, inv.fresh, inv.forwarded⟩
    · exact inv
  | deliver =>
    simp only [step] at h
    split at h <;> cases h
    exact ⟨inv.owners, inv.ok, inv.fresh, inv.forwarded⟩
  | stopRouter =>
    obtain rfl := Option.some.inj h
    exact ⟨inv.owners, inv.ok, inv.fresh, inv.forwarded⟩

theorem run_owned {acts : List BridgeAction} (h : run (step d) new acts = some s) : s.Owned d :=
  run_invariant (fun _ _ _ inv stepped => step_owned inv stepped) owned_new h

/-- The router has looked up a reply, at some point of the run, and found it to belong to the stream. -/
def LookedUp (d : Option SocketAddr) (acts : List BridgeAction) (sid : Nat) (packet : UdpPacket) : Prop :=
  ∃ before after u, acts = before ++ .route packet :: after ∧ run (step d) new before = some u ∧
    u.replyMap packet.localAddr = some sid

theorem LookedUp.later {acts : List BridgeAction} {packet : UdpPacket} (h : LookedUp d acts sid packet)
    (act : BridgeAction) : LookedUp d (acts ++ [act]) sid packet := by
  obtain ⟨before, after, u, rfl, ran, found⟩ := h
  exact ⟨before, after ++ [act], u, by simp, ran, found⟩

structure Routed (d : Option SocketAddr) (acts : List BridgeAction) (s : Bridge) : Prop where
  ran : run (step d) new acts = some s
  holding : ∀ sid packet, s.router = .holding sid packet → LookedUp d acts sid packet
  delivered : ∀ sid packet, (sid, packet) ∈ s.delivered → LookedUp d acts sid packet

/-- Only the router's own steps change what it holds and what it has delivered. -/
theorem step_router {act : BridgeAction} (h : s.step d act = some t) :
    (∃ packet, act = .route packet) ∨ act = .deliver ∨
      (t.router = s.router ∨ t.router = .stopped) ∧ t.delivered = s.delivered := by
  cases act with
  | route packet => exact .inl ⟨packet, rfl⟩
  | deliver => exact .inr (.inl rfl)
  | spawn =>
    cases h
    exact .inr (.inr ⟨.inl rfl, rfl⟩)
  | stopRouter =>
    cases h
    exact .inr (.inr ⟨.inr rfl, rfl⟩)
  | target _ _ | targetFails _ | readFails _ =>
    simp only [step] at h
    split at h <;> cases h
    exact .inr (.inr ⟨.inl rfl, rfl⟩)
  | datagram _ _ | forward _ =>
    simp only [step, datagram, forward] at h
    split at h <;> cases h <;> exact .inr (.inr ⟨.inl rfl, rfl⟩)
  | draw _ =>
    simp only [step, draw] at h
    split at h
    case h_2 => cases h
    split at h
    · split at h <;> cases h <;> exact .inr (.inr ⟨.inl rfl, rfl⟩)
    · cases h
      exact .inr (.inr ⟨.inl rfl, rfl⟩)
  | enter _ =>
    simp only [step, enter] at h
    split at h
    case h_2 => cases h
    split at h <;> cases h <;> exact .inr (.inr ⟨.inl rfl, rfl⟩)
  | cleanup sid =>
    simp only [step, cleanup] at h
    split at h
    case h_2 => cases h
    cases h
    cases (s.streams sid).localAddr <;> exact .inr (.inr ⟨.inl rfl, rfl⟩)

theorem step_routed {acts : List BridgeAction} {act : BridgeAction} (inv : Routed d acts s)
    (h : s.step d act = some t) : Routed d (acts ++ [act]) t := by
  refine ⟨run_append.mpr ⟨s, inv.ran, by simp [run, h]⟩, ?_, ?_⟩
  · intro sid packet phase
    rcases step_router h with ⟨packet', rfl⟩ | rfl | ⟨same | stopped, _⟩
    · simp only [step, route] at h
      split at h
      case h_2 => cases h
      rename_i waiting
      split at h <;> obtain rfl := Option.some.inj h
      · rename_i owner found
        cases phase
        exact ⟨acts, [], s, rfl, inv.ran, found⟩
      · cases waiting.symm.trans phase
    · simp only [step] at h
      split at h <;> cases h
      cases phase
    · exact (inv.holding sid packet (same ▸ phase)).later act
    · cases stopped.symm.trans phase
  · intro sid packet went
    rcases step_router h with ⟨packet', rfl⟩ | rfl | ⟨_, same⟩
    · have same : t.delivered = s.delivered := by
        simp only [step, route] at h
        split at h
        case h_2 => cases h
        split at h <;> cases h <;> rfl
      exact (inv.delivered sid packet (same ▸ went)).later _
    · simp only [step] at h
      split at h <;> cases h
      rename_i owner held phase
      rcases List.mem_append.mp went with before | last
      · exact (inv.delivered sid packet before).later _
      · cases List.mem_singleton.mp last
        exact (inv.holding sid packet phase).later _
    · exact (inv.delivered sid packet (same ▸ went)).later act

/-- Two streams draw their ports at the same time, and a reply comes for the first. -/
def twoStreams : List BridgeAction :=
  [.spawn, .spawn, .target 0 none, .target 1 (some (.addr (.v6 1 53 0 0))), .datagram 0 [1], .draw 0,
    .datagram 1 [2], .draw 1, .enter 1, .enter 0, .forward 0, .forward 1,
    .route ⟨[9], .v4 0 10000, none⟩, .deliver]

end Bridge

end Rstun.Udp
