import Rstun.Udp.Serving

/-!
# Datagrams from one socket to another

A datagram that the local socket receives goes through a stream to the other end, and `process` sends it
there through a socket of its own. What that socket receives goes back through the same stream. A socket
that receives into a buffer shorter than the datagram gives the first bytes of it.
-/

namespace Rstun.Udp
open Framing BigEndian Transition Rstun.Tunnel

def udpPacketSize : Nat := 1500

/-- A receive into a buffer of `UDP_PACKET_SIZE` bytes. -/
def socketRecv (datagram : Bytes) : Bytes := datagram.take udpPacketSize

inductive RawError where
  | read (err : TransferError)
  | tooLarge (length : Nat)
  deriving DecidableEq

def recvRawFrom (size : Nat) (s : Incoming) : Except RawError (Bytes × Incoming) :=
  match readExact 2 s with
  | .error err => .error (.read err)
  | .ok (length, s) =>
    if ofBe length > size then .error (.tooLarge (ofBe length))
    else match readExact (ofBe length) s with
      | .error err => .error (.read err)
      | .ok (data, s) => .ok (data, s)

theorem recvRawFrom_ok {size : Nat} {s rest : Incoming} {data : Bytes} (h : recvRawFrom size s = .ok (data, rest)) :
    ∃ length, s.bytes = length ++ data ++ rest.bytes ∧ length.length = 2 ∧ ofBe length = data.length := by
  unfold recvRawFrom at h
  split at h
  · cases h
  · rename_i length afterLength first
    obtain ⟨split, two⟩ := readExact_ok first
    split at h
    · cases h
    · split at h
      · cases h
      · rename_i payload afterPayload second
        obtain ⟨rfl, rfl⟩ := Prod.mk.inj (Except.ok.inj h)
        obtain ⟨split', size⟩ := readExact_ok second
        exact ⟨length, by rw [split, split', List.append_assoc], two, size.symm⟩

/-! ### The other end -/

inductive ProcessPhase where
  | waiting
  | relaying
  | ended
  deriving DecidableEq

/-- The end that accepts a stream. `position` is how far `process` has read the stream, `sent` are the
datagrams that it has sent through its socket. `heard` are the datagrams that have come to this socket,
and `wire` is what `udp_to_quic` has written for them. -/
structure Egress where
  process : ProcessPhase
  position : Nat
  sent : List Bytes
  heard : List Bytes
  replying : Bool
  wire : Bytes
  broken : Bool
  deriving DecidableEq

/-- `heard` are the datagrams that have come to the local socket, and `position` is how far the reader of
a stream has come in what the other end has written. -/
structure Relay where
  serving : Serving
  heard : List (SocketAddr × Bytes)
  egress : Nat → Egress
  position : Nat → Nat

inductive RelayAction where
  | hear (localAddr : SocketAddr) (datagram : Bytes) (passed : Bool)
  | serve (act : ServingAction)
  | connect (sid : Nat)
  | relay (sid : Nat)
  | processEnds (sid : Nat)
  | upstream (sid : Nat) (datagram : Bytes) (failsAt : Option Nat)
  | upstreamEnds (sid : Nat)
  | readReply (sid : Nat)

/-- A datagram that a socket receives is not longer than that. -/
def RelayAction.Fits (limit : Nat) : RelayAction → Prop
  | .hear _ datagram _ | .upstream _ datagram _ => datagram.length ≤ limit
  | _ => True

namespace Relay

def new : Relay := ⟨.new, [], fun _ => ⟨.waiting, 0, [], [], false, [], false⟩, fun _ => 0⟩

def setEgress (r : Relay) (sid : Nat) (egress : Egress) : Relay :=
  { r with egress := Function.update r.egress sid egress }

/-- The task of `UdpServer` receives a datagram. It drops it if the server is not active, or if the
channel to the serving loop stays full for too long. -/
def hear (r : Relay) (localAddr : SocketAddr) (datagram : Bytes) (passed : Bool) : Relay :=
  { r with
    heard := r.heard ++ [(localAddr, datagram)]
    serving := if passed then r.serving.arrive ⟨socketRecv datagram, localAddr, none⟩ else r.serving }

/-- `process` up to its loop. That it fails, in the target or in making a socket, is `processEnds`. -/
def connect (r : Relay) (sid : Nat) : Option Relay :=
  let egress := r.egress sid
  let wire := (r.serving.streams sid).wire
  if sid < r.serving.opened ∧ egress.process = .waiting then
    match readOptionalTunnelTarget ⟨wire, false⟩ with
    | .ok (_, rest) => some (r.setEgress sid { egress with
        process := .relaying, position := wire.length - rest.bytes.length, replying := true })
    | .error _ => none
  else none

/-- A turn of the loop of `process`. -/
def relay (r : Relay) (sid : Nat) : Option Relay :=
  let egress := r.egress sid
  let wire := (r.serving.streams sid).wire
  if egress.process = .relaying then
    match recvRawFrom udpPacketSize ⟨wire.drop egress.position, false⟩ with
    | .ok (data, rest) => some (r.setEgress sid { egress with
        position := wire.length - rest.bytes.length, sent := egress.sent ++ [data] })
    | .error _ => none
  else none

/-- A turn of the loop of `udp_to_quic`. Errors of `send_raw` are ignored there, but every error of a
QUIC stream is final, so that nothing more is written after one. -/
def upstream (r : Relay) (sid : Nat) (datagram : Bytes) (failsAt : Option Nat) : Option Relay :=
  let egress := r.egress sid
  if egress.replying then
    let framed := sendRaw (socketRecv datagram)
    let written := match failsAt with
      | some count => framed.take count
      | none => framed
    some (r.setEgress sid { egress with
      heard := egress.heard ++ [datagram]
      wire := if egress.broken then egress.wire else egress.wire ++ written
      broken := egress.broken || failsAt.isSome })
  else none

/-- The reader of a stream takes a datagram from it. -/
def readReply (r : Relay) (sid : Nat) : Option Relay :=
  let wire := (r.egress sid).wire
  match recvRawFrom udpPacketSize ⟨wire.drop (r.position sid), false⟩ with
  | .ok (data, rest) => (r.serving.reply sid data).map fun serving =>
      { r with serving := serving, position := Function.update r.position sid (wire.length - rest.bytes.length) }
  | .error _ => none

def step (r : Relay) : RelayAction → Option Relay
  | .hear localAddr datagram passed => some (r.hear localAddr datagram passed)
  | .serve act =>
    match act with
    | .arrive _ | .reply _ _ => none
    | act => (r.serving.step act).map fun serving => { r with serving := serving }
  | .connect sid => r.connect sid
  | .relay sid => r.relay sid
  | .processEnds sid => some (r.setEgress sid { r.egress sid with process := .ended })
  | .upstream sid datagram failsAt => r.upstream sid datagram failsAt
  | .upstreamEnds sid => some (r.setEgress sid { r.egress sid with replying := false })
  | .readReply sid => r.readReply sid

end Relay

/-! ### What a step of the serving end does with datagrams -/

namespace Serving

structure Passes (s : Serving) (act : ServingAction) (t : Serving) : Prop where
  opened : s.opened ≤ t.opened
  pending : ∀ a ∈ t.loop.inHand ++ t.inbox, a ∈ s.loop.inHand ++ s.inbox ∨ act = .arrive a.packet
  accepted : ∀ sid, ∀ a ∈ (t.streams sid).accepted, a ∈ (s.streams sid).accepted ∨ a ∈ s.loop.inHand
  key : ∀ sid < s.opened, (t.streams sid).key = (s.streams sid).key
  wire : ∀ sid < s.opened, (s.streams sid).wire <+: (t.streams sid).wire
  written : ∀ sid < s.opened, (s.streams sid).written <+: (t.streams sid).written
  replies : ∀ sid packet, (sid, packet) ∈ t.replies → (sid, packet) ∈ s.replies ∨ act = .reply sid packet.payload
  sent : ∀ sid payload addr, (sid, payload, addr) ∈ t.sent →
    (sid, payload, addr) ∈ s.sent ∨ ∃ packet, (sid, packet) ∈ s.replies ∧ packet.payload = payload

variable {s t : Serving} {sid : Nat} {act : ServingAction}

theorem passes_loop {loop : LoopPhase} {inbox : List Arrival} (fewer : loop.inHand ++ inbox ⊆ s.loop.inHand ++ s.inbox) :
    Passes s act { s with loop := loop, inbox := inbox } :=
  ⟨Nat.le_refl _, fun _ member => .inl (fewer member), fun _ _ => .inl, fun _ _ => rfl, fun _ _ => List.prefix_rfl,
    fun _ _ => List.prefix_rfl, fun _ _ => .inl, fun _ _ _ => .inl⟩

/-- A stream gets a datagram from the serving loop, or goes on with what it has. -/
theorem passes_stream (stream : UdpStream) {streamMap : UdpStreamKey → Option Nat} {loop : LoopPhase}
    (fewer : loop.inHand ⊆ s.loop.inHand)
    (accepted : ∀ a ∈ stream.accepted, a ∈ (s.streams sid).accepted ∨ a ∈ s.loop.inHand)
    (key : stream.key = (s.streams sid).key) (wire : (s.streams sid).wire <+: stream.wire)
    (written : (s.streams sid).written <+: stream.written) :
    Passes s act { s.setStream sid stream with streamMap := streamMap, loop := loop } := by
  refine ⟨Nat.le_refl _, fun a member => .inl ?_, ?_, ?_, ?_, ?_, fun _ _ => .inl, fun _ _ _ => .inl⟩
  · rcases List.mem_append.mp member with held | waiting
    · exact List.mem_append_left _ (fewer held)
    · exact List.mem_append_right _ waiting
  · apply (Function.forall_update_iff s.streams fun other stream =>
      ∀ a ∈ stream.accepted, a ∈ (s.streams other).accepted ∨ a ∈ s.loop.inHand).mpr
    exact ⟨accepted, fun _ _ _ => .inl⟩
  · exact fun other _ => update_proj UdpStream.key key other
  · apply (Function.forall_update_iff s.streams fun other stream =>
      other < s.opened → (s.streams other).wire <+: stream.wire).mpr
    exact ⟨fun _ => wire, fun _ _ _ => List.prefix_rfl⟩
  · apply (Function.forall_update_iff s.streams fun other stream =>
      other < s.opened → (s.streams other).written <+: stream.written).mpr
    exact ⟨fun _ => written, fun _ _ _ => List.prefix_rfl⟩

theorem publish_passes (h : s.publish = some t) : Passes s act t := by
  unfold publish at h
  split at h
  case h_2 => cases h
  rename_i datagram phase
  split at h <;> cases h
  have older : ∀ sid < s.opened, ∀ stream, Function.update s.streams s.opened stream sid = s.streams sid :=
    fun sid opened stream => Function.update_of_ne (Nat.ne_of_lt opened) _ _
  refine ⟨Nat.le_succ _, fun a member => .inl (by rwa [phase]), ?_, ?_, ?_, ?_, fun _ _ => .inl, fun _ _ _ => .inl⟩
  · apply (Function.forall_update_iff s.streams fun other stream =>
      ∀ a ∈ stream.accepted, a ∈ (s.streams other).accepted ∨ a ∈ s.loop.inHand).mpr
    exact ⟨by rintro a ⟨⟩, fun _ _ _ => .inl⟩
  · intro sid opened
    simp only [setStream, older sid opened]
  · intro sid opened
    simp only [setStream, older sid opened]
    exact List.prefix_rfl
  · intro sid opened
    simp only [setStream, older sid opened]
    exact List.prefix_rfl

theorem step_passes (h : s.step act = some t) : Passes s act t := by
  cases act with
  | arrive packet =>
    obtain rfl := Option.some.inj h
    refine ⟨Nat.le_refl _, fun a member => ?_, fun _ _ => .inl, fun _ _ => rfl, fun _ _ => List.prefix_rfl,
      fun _ _ => List.prefix_rfl, fun _ _ => .inl, fun _ _ _ => .inl⟩
    rw [arrive, ← List.append_assoc] at member
    rcases List.mem_append.mp member with before | new
    · exact .inl before
    · rw [List.mem_singleton.mp new]
      exact .inr rfl
  | recv =>
    simp only [step] at h
    split at h <;> cases h
    rename_i datagram inbox phase waiting
    apply passes_loop
    rw [phase, waiting]
    exact List.Subset.refl _
  | lookup =>
    simp only [step, lookup] at h
    split at h
    case h_2 => cases h
    rename_i datagram phase
    split at h <;> cases h <;> apply passes_loop <;> rw [phase] <;> exact List.Subset.refl _
  | openFails =>
    simp only [step] at h
    split at h <;> cases h
    exact passes_loop (List.subset_append_right ..)
  | publish => exact publish_passes h
  | enqueue =>
    simp only [step, enqueue] at h
    split at h
    case h_2 => cases h
    rename_i sid datagram phase
    split at h <;> cases h
    · exact passes_loop (List.subset_append_right ..)
    · refine passes_stream _ (List.nil_subset _) ?_ rfl List.prefix_rfl List.prefix_rfl
      rw [phase, UdpStream.accepted, ← List.append_assoc]
      exact fun a => List.mem_append.mp
  | stop =>
    obtain rfl := Option.some.inj h
    exact passes_loop (List.subset_append_right ..)
  | write sid =>
    simp only [step, write] at h
    split at h <;> cases h
    rename_i datagram queue running waiting
    refine passes_stream ⟨_, _, _, _, _, _⟩ (List.Subset.refl _) ?_ rfl (List.prefix_append ..) (List.prefix_append ..)
    exact fun a member => .inl (by simpa [UdpStream.accepted, waiting] using member)
  | writeFails sid count =>
    simp only [step, writeFails] at h
    split at h <;> cases h
    rename_i datagram queue running waiting
    refine passes_stream ⟨_, _, _, _, _, _⟩ (List.Subset.refl _) ?_ rfl (List.prefix_append ..) (List.prefix_append ..)
    exact fun a member => .inl (by simpa [UdpStream.accepted, waiting] using member)
  | writerIdle sid =>
    simp only [step, writerIdle] at h
    split at h <;> cases h
    exact passes_stream _ (List.Subset.refl _) (fun _ => .inl) rfl List.prefix_rfl List.prefix_rfl
  | writerCleanup sid =>
    simp only [step, writerCleanup] at h
    split at h <;> cases h
    exact passes_stream _ (List.Subset.refl _) (fun _ => .inl) rfl List.prefix_rfl List.prefix_rfl
  | reply sid payload =>
    simp only [step, reply] at h
    split at h <;> cases h
    refine ⟨Nat.le_refl _, fun _ => .inl, fun _ _ => .inl, fun _ _ => rfl, fun _ _ => List.prefix_rfl,
      fun _ _ => List.prefix_rfl, fun other packet member => ?_, fun _ _ _ => .inl⟩
    rcases List.mem_append.mp member with before | new
    · exact .inl before
    · cases List.mem_singleton.mp new
      exact .inr rfl
  | readerEnds sid =>
    simp only [step, readerEnds] at h
    split at h <;> cases h
    exact passes_stream _ (List.Subset.refl _) (fun _ => .inl) rfl List.prefix_rfl List.prefix_rfl
  | readerCleanup sid =>
    simp only [step, readerCleanup] at h
    split at h <;> cases h
    exact passes_stream _ (List.Subset.refl _) (fun _ => .inl) rfl List.prefix_rfl List.prefix_rfl
  | sendReply =>
    simp only [step, sendReply] at h
    split at h <;> cases h
    rename_i sid packet replies first
    refine ⟨Nat.le_refl _, fun _ => .inl, fun _ _ => .inl, fun _ _ => rfl, fun _ _ => List.prefix_rfl,
      fun _ _ => List.prefix_rfl, fun other later member => ?_, fun other payload addr member => ?_⟩
    · rw [first]
      exact .inl (List.mem_cons_of_mem _ member)
    · rcases List.mem_append.mp member with before | new
      · exact .inl before
      · cases List.mem_singleton.mp new
        exact .inr ⟨packet, by rw [first]; exact List.mem_cons_self, rfl⟩

end Serving

/-! ### Whole runs -/

def UdpStream.payloads (stream : UdpStream) : List Bytes := stream.written.map fun datagram => datagram.packet.payload

theorem UdpStream.Wired.written {stream : UdpStream} {header : Bytes} (wired : stream.Wired)
    (encoded : encodeTunnelTarget stream.key.peerAddr true = .ok (some header)) :
    stream.wire <+: header ++ stream.payloads.flatMap (frame 2) := by
  obtain ⟨header', encoded', _, written, _⟩ := wired
  obtain rfl : header = header' := Option.some.inj (Except.ok.inj (encoded.symm.trans encoded'))
  rw [payloads, List.flatMap_map]
  exact written

/-- Where `process` is in the stream, and that it has sent on what it has read. -/
def Egress.Follows (egress : Egress) (sid opened : Nat) (stream : UdpStream) : Prop :=
  egress.sent = [] ∧ egress.process ≠ .relaying ∨
  egress.process ≠ .waiting ∧ sid < opened ∧
    ∃ header, encodeTunnelTarget stream.key.peerAddr true = .ok (some header) ∧
      Cursor 2 header stream.payloads stream.wire egress.position egress.sent

/-- What has been written for the datagrams of the upstream, and where the reader of the stream is. -/
structure Egress.Replies (egress : Egress) (position : Nat) : Prop where
  begun : egress.wire <+: (egress.heard.map socketRecv).flatMap (frame 2)
  whole : egress.broken = false → egress.wire = (egress.heard.map socketRecv).flatMap (frame 2)
  cursor : ∃ read, Cursor 2 [] (egress.heard.map socketRecv) egress.wire position read

section Reply

variable {egress : Egress} {position : Nat} {datagram : Bytes}

theorem frames_snoc (heard : List Bytes) (datagram : Bytes) :
    ((heard ++ [datagram]).map socketRecv).flatMap (frame 2) =
      (heard.map socketRecv).flatMap (frame 2) ++ sendRaw (socketRecv datagram) := by
  rw [List.map_append, List.flatMap_append]
  simp [sendRaw]

/-- A datagram for which all of its bytes are written, or some and then no more. -/
theorem Egress.Replies.append {written : Bytes} {broken : Bool} (inv : egress.Replies position)
    (working : egress.broken = false) (part : written <+: sendRaw (socketRecv datagram))
    (complete : broken = false → written = sendRaw (socketRecv datagram)) :
    Replies { egress with heard := egress.heard ++ [datagram], wire := egress.wire ++ written, broken := broken }
      position := by
  have before := inv.whole working
  refine ⟨?_, fun still => ?_, ?_⟩
  · dsimp only
    rw [frames_snoc, ← before]
    exact (List.prefix_append_right_inj _).mpr part
  · dsimp only
    rw [frames_snoc, ← before, complete still]
  · obtain ⟨read, cursor⟩ := inv.cursor
    exact ⟨read, cursor.grow (List.prefix_append ..) ((List.prefix_append ..).map _)⟩

theorem Egress.Replies.lost (inv : egress.Replies position) (datagram : Bytes) (broken : egress.broken = true) :
    Replies { egress with heard := egress.heard ++ [datagram] } position := by
  refine ⟨?_, fun working => ?_, ?_⟩
  · rw [frames_snoc]
    exact inv.begun.trans (List.prefix_append ..)
  · cases broken.symm.trans working
  · obtain ⟨read, cursor⟩ := inv.cursor
    exact ⟨read, cursor.grow List.prefix_rfl ((List.prefix_append ..).map _)⟩

end Reply

theorem length_socketRecv (datagram : Bytes) : (socketRecv datagram).length < 256 ^ 2 := by
  have := List.length_take_le udpPacketSize datagram
  simp only [socketRecv, udpPacketSize] at this ⊢
  omega

namespace Relay

/-- The packet is what the local socket has given of a datagram. -/
def Heard (r : Relay) (packet : UdpPacket) : Prop :=
  ∃ datagram, (packet.localAddr, datagram) ∈ r.heard ∧ packet.payload = socketRecv datagram

structure Sound (r : Relay) : Prop where
  isolated : r.serving.Isolated
  pending : ∀ a ∈ r.serving.loop.inHand ++ r.serving.inbox, r.Heard a.packet
  accepted : ∀ sid, ∀ a ∈ (r.serving.streams sid).accepted, r.Heard a.packet
  follows : ∀ sid, (r.egress sid).Follows sid r.serving.opened (r.serving.streams sid)
  replying : ∀ sid, (r.egress sid).Replies (r.position sid)
  replies : ∀ sid packet, (sid, packet) ∈ r.serving.replies → packet.payload ∈ (r.egress sid).heard.map socketRecv
  sent : ∀ sid payload addr, (sid, payload, addr) ∈ r.serving.sent →
    payload ∈ (r.egress sid).heard.map socketRecv

variable {r t : Relay} {sid : Nat}

theorem sound_new : new.Sound where
  isolated := Serving.isolated_new
  pending := by simp [new, Serving.new, LoopPhase.inHand]
  accepted := by simp [new, Serving.new, Serving.vacant, UdpStream.accepted]
  follows := fun _ => .inl ⟨rfl, by simp [new]⟩
  replying := fun _ => ⟨List.prefix_rfl, fun _ => rfl, [], Nat.le_refl _, rfl, List.prefix_rfl⟩
  replies := by simp [new, Serving.new]
  sent := by simp [new, Serving.new]

theorem Sound.hear (inv : r.Sound) (localAddr : SocketAddr) (datagram : Bytes) :
    Sound { r with heard := r.heard ++ [(localAddr, datagram)] } := by
  have more : ∀ packet, r.Heard packet → Heard { r with heard := r.heard ++ [(localAddr, datagram)] } packet :=
    fun packet ⟨datagram, heard, payload⟩ => ⟨datagram, List.mem_append_left _ heard, payload⟩
  exact { inv with
    pending := fun a member => more _ (inv.pending a member)
    accepted := fun sid a member => more _ (inv.accepted sid a member) }

theorem Sound.serve {act : ServingAction} {serving : Serving} (inv : r.Sound) (h : r.serving.step act = some serving)
    (arrives : ∀ packet, act = .arrive packet → r.Heard packet)
    (replies : ∀ sid payload, act = .reply sid payload → payload ∈ (r.egress sid).heard.map socketRecv) :
    Sound { r with serving := serving } := by
  have passes := Serving.step_passes h
  refine ⟨Serving.step_isolated inv.isolated h, ?_, ?_, ?_, inv.replying, ?_, ?_⟩
  · intro a member
    rcases passes.pending a member with before | arrived
    · exact inv.pending a before
    · exact arrives a.packet arrived
  · intro sid a member
    rcases passes.accepted sid a member with before | held
    · exact inv.accepted sid a before
    · exact inv.pending a (List.mem_append_left _ held)
  · intro sid
    rcases inv.follows sid with idle | ⟨started, opened, header, encoded, cursor⟩
    · exact .inl idle
    · refine .inr ⟨started, opened.trans_le passes.opened, header, ?_, ?_⟩
      · rw [passes.key sid opened, encoded]
      · exact cursor.grow (passes.wire sid opened) ((passes.written sid opened).map _)
  · intro sid packet member
    rcases passes.replies sid packet member with before | read
    · exact inv.replies sid packet before
    · exact replies sid packet.payload read
  · intro sid payload addr member
    rcases passes.sent sid payload addr member with before | ⟨packet, waiting, rfl⟩
    · exact inv.sent sid payload addr before
    · exact inv.replies sid packet waiting

theorem Sound.egress {egress : Egress} (inv : r.Sound) (heard : (r.egress sid).heard ⊆ egress.heard)
    (follows : egress.Follows sid r.serving.opened (r.serving.streams sid))
    (replying : egress.Replies (r.position sid)) : (r.setEgress sid egress).Sound := by
  have more : ∀ other, ∀ payload ∈ (r.egress other).heard.map socketRecv,
      payload ∈ (Function.update r.egress sid egress other).heard.map socketRecv := by
    apply (Function.forall_update_iff r.egress fun other egress =>
      ∀ payload ∈ (r.egress other).heard.map socketRecv, payload ∈ egress.heard.map socketRecv).mpr
    exact ⟨fun payload member => List.map_subset socketRecv heard member, fun _ _ _ => id⟩
  refine { inv with follows := ?_, replying := ?_, replies := ?_, sent := ?_ }
  · apply (Function.forall_update_iff r.egress fun other egress =>
      egress.Follows other r.serving.opened (r.serving.streams other)).mpr
    exact ⟨follows, fun other _ => inv.follows other⟩
  · apply (Function.forall_update_iff r.egress fun other egress => egress.Replies (r.position other)).mpr
    exact ⟨replying, fun other _ => inv.replying other⟩
  · exact fun other packet member => more other _ (inv.replies other packet member)
  · exact fun other payload addr member => more other _ (inv.sent other payload addr member)

theorem Sound.small (inv : r.Sound) (sid : Nat) :
    ∀ payload ∈ (r.serving.streams sid).payloads, payload.length < 256 ^ 2 := by
  intro payload member
  obtain ⟨a, written, rfl⟩ := List.mem_map.mp member
  obtain ⟨datagram, _, received⟩ := inv.accepted sid a (List.mem_append_left _ written)
  rw [received]
  exact length_socketRecv datagram

theorem connect_sound (inv : r.Sound) (h : r.connect sid = some t) : t.Sound := by
  unfold connect at h
  dsimp only at h
  split at h
  case isFalse => cases h
  rename_i accepts
  obtain ⟨opened, waiting⟩ := accepts
  obtain ⟨header, encoded, ⟨rest, wire⟩, _⟩ := inv.isolated.wired sid opened
  have read := readOptionalTunnelTarget_encode (s := ⟨rest, false⟩) encoded
  rw [wire] at read
  simp only [read, Option.some.injEq] at h
  obtain rfl := h
  have unsent : (r.egress sid).sent = [] := by
    rcases inv.follows sid with ⟨none, _⟩ | ⟨started, _⟩
    · exact none
    · exact absurd waiting started
  have target : (r.serving.streams sid).wire.length - rest.length = header.length := by
    rw [← wire, List.length_append, Nat.add_sub_cancel]
  refine inv.egress (List.Subset.refl _) (.inr ⟨by simp, opened, header, encoded, Nat.sub_le .., ?_, ?_⟩)
    ⟨(inv.replying sid).begun, (inv.replying sid).whole, (inv.replying sid).cursor⟩
  · dsimp only
    rw [target, unsent, ← wire, List.take_left]
    simp
  · dsimp only
    rw [unsent]
    exact List.nil_prefix

theorem relay_sound (inv : r.Sound) (h : r.relay sid = some t) : t.Sound := by
  unfold relay at h
  dsimp only at h
  split at h
  case isFalse => cases h
  rename_i relaying
  split at h
  case h_2 => cases h
  rename_i data rest received
  obtain rfl := Option.some.inj h
  obtain ⟨length, taken, two, announced⟩ := recvRawFrom_ok received
  rcases inv.follows sid with ⟨_, idle⟩ | ⟨started, opened, header, encoded, cursor⟩
  · exact absurd relaying idle
  · have written := (inv.isolated.wired sid opened).written encoded
    exact inv.egress (List.Subset.refl _)
      (.inr ⟨started, opened, header, encoded, cursor.next written (inv.small sid) (by decide) taken two announced⟩)
      ⟨(inv.replying sid).begun, (inv.replying sid).whole, (inv.replying sid).cursor⟩

theorem upstream_sound {datagram : Bytes} {failsAt : Option Nat} (inv : r.Sound)
    (h : r.upstream sid datagram failsAt = some t) : t.Sound := by
  unfold upstream at h
  dsimp only at h
  split at h
  case isFalse => cases h
  obtain rfl := Option.some.inj h
  refine inv.egress (List.subset_append_left ..) (inv.follows sid) ?_
  cases broken : (r.egress sid).broken with
  | true => simpa [broken] using (inv.replying sid).lost datagram broken
  | false =>
    cases failsAt with
    | none => exact (inv.replying sid).append broken List.prefix_rfl fun _ => rfl
    | some count => exact (inv.replying sid).append broken (List.take_prefix ..) (by rintro ⟨⟩)

theorem readReply_sound (inv : r.Sound) (h : r.readReply sid = some t) : t.Sound := by
  unfold readReply at h
  dsimp only at h
  split at h
  case h_2 => cases h
  rename_i data rest received
  obtain ⟨serving, replied, rfl⟩ := Option.map_eq_some_iff.mp h
  obtain ⟨length, taken, two, announced⟩ := recvRawFrom_ok received
  obtain ⟨begun, whole, read, cursor⟩ := inv.replying sid
  have small : ∀ payload ∈ (r.egress sid).heard.map socketRecv, payload.length < 256 ^ 2 := by
    intro payload member
    obtain ⟨datagram, _, rfl⟩ := List.mem_map.mp member
    exact length_socketRecv datagram
  have next := cursor.next begun small (by decide) taken two announced
  have heard : data ∈ (r.egress sid).heard.map socketRecv :=
    next.read.subset (List.mem_append_right _ List.mem_cons_self)
  have stepped : r.serving.step (.reply sid data) = some serving := replied
  have served := inv.serve stepped (by rintro _ ⟨⟩) (by rintro _ _ ⟨⟩; exact heard)
  refine { served with replying := ?_ }
  apply (Function.forall_update_iff r.position fun other position => (r.egress other).Replies position).mpr
  exact ⟨⟨begun, whole, read ++ [data], next⟩, fun other _ => inv.replying other⟩

theorem step_sound {act : RelayAction} (inv : r.Sound) (h : r.step act = some t) : t.Sound := by
  cases act with
  | hear localAddr datagram passed =>
    obtain rfl := Option.some.inj h
    have heard := inv.hear localAddr datagram
    cases passed with
    | false => exact heard
    | true =>
      have arrived : r.serving.step (.arrive ⟨socketRecv datagram, localAddr, none⟩) =
          some (r.serving.arrive ⟨socketRecv datagram, localAddr, none⟩) := rfl
      refine heard.serve arrived ?_ (by rintro _ _ ⟨⟩)
      rintro _ ⟨⟩
      exact ⟨datagram, List.mem_append_right _ List.mem_cons_self, rfl⟩
  | serve act =>
    simp only [step] at h
    split at h
    · cases h
    · cases h
    · rename_i arrives replies
      obtain ⟨serving, stepped, rfl⟩ := Option.map_eq_some_iff.mp h
      exact inv.serve stepped (fun packet same => absurd same (arrives packet))
        (fun sid payload same => absurd same (replies sid payload))
  | connect sid => exact connect_sound inv h
  | relay sid => exact relay_sound inv h
  | processEnds sid =>
    obtain rfl := Option.some.inj h
    refine inv.egress (List.Subset.refl _) ?_ ⟨(inv.replying sid).begun, (inv.replying sid).whole, (inv.replying sid).cursor⟩
    rcases inv.follows sid with ⟨unsent, _⟩ | ⟨_, opened, header, encoded, cursor⟩
    · exact .inl ⟨unsent, by simp⟩
    · exact .inr ⟨by simp, opened, header, encoded, cursor⟩
  | upstream sid datagram failsAt => exact upstream_sound inv h
  | upstreamEnds sid =>
    obtain rfl := Option.some.inj h
    exact inv.egress (List.Subset.refl _) (inv.follows sid)
      ⟨(inv.replying sid).begun, (inv.replying sid).whole, (inv.replying sid).cursor⟩
  | readReply sid => exact readReply_sound inv h

theorem run_sound {acts : List RelayAction} (h : run step new acts = some r) : r.Sound :=
  run_invariant (fun _ _ _ inv stepped => step_sound inv stepped) sound_new h

/-- What is sent at the other end is what the local socket has given of a datagram of the same flow. -/
theorem Sound.forward (inv : r.Sound) {data : Bytes} (sent : data ∈ (r.egress sid).sent) :
    ∃ datagram, ((r.serving.streams sid).key.localAddr, datagram) ∈ r.heard ∧ data = socketRecv datagram := by
  rcases inv.follows sid with ⟨unsent, _⟩ | ⟨_, _, _, _, cursor⟩
  · rw [unsent] at sent
    cases sent
  · obtain ⟨a, written, rfl⟩ := List.mem_map.mp (cursor.read.subset sent)
    have accepted : a ∈ (r.serving.streams sid).accepted := List.mem_append_left _ written
    obtain ⟨datagram, heard, payload⟩ := inv.accepted sid a accepted
    refine ⟨datagram, ?_, payload⟩
    rw [← (inv.isolated.ok sid).keyed a accepted]
    exact heard

/-- Every datagram that is sent, at the other end or to a local address, is one that has been received
for the same flow. -/
structure Intact (r : Relay) : Prop where
  forward : ∀ sid, ∀ data ∈ (r.egress sid).sent, ((r.serving.streams sid).key.localAddr, data) ∈ r.heard
  backward : ∀ sid data addr, (sid, data, addr) ∈ r.serving.sent →
    addr = (r.serving.streams sid).key.localAddr ∧ data ∈ (r.egress sid).heard

/-- No datagram that a socket has received is longer. -/
structure Within (limit : Nat) (r : Relay) : Prop where
  heard : ∀ entry ∈ r.heard, entry.2.length ≤ limit
  upstream : ∀ sid, ∀ datagram ∈ (r.egress sid).heard, datagram.length ≤ limit

theorem Within.egress {limit : Nat} {egress : Egress} (inv : r.Within limit)
    (heard : ∀ datagram ∈ egress.heard, datagram ∈ (r.egress sid).heard ∨ datagram.length ≤ limit) :
    (r.setEgress sid egress).Within limit := by
  refine ⟨inv.heard, ?_⟩
  apply (Function.forall_update_iff r.egress fun _ egress => ∀ datagram ∈ egress.heard, datagram.length ≤ limit).mpr
  refine ⟨fun datagram member => ?_, fun other _ => inv.upstream other⟩
  rcases heard datagram member with before | short
  · exact inv.upstream sid datagram before
  · exact short

theorem step_within {limit : Nat} {act : RelayAction} (inv : r.Within limit) (fits : act.Fits limit)
    (h : r.step act = some t) : t.Within limit := by
  cases act with
  | hear localAddr datagram passed =>
    obtain rfl := Option.some.inj h
    refine ⟨fun entry member => ?_, inv.upstream⟩
    rcases List.mem_append.mp member with before | new
    · exact inv.heard entry before
    · rw [List.mem_singleton.mp new]
      exact fits
  | serve act =>
    simp only [step] at h
    split at h
    · cases h
    · cases h
    · obtain ⟨serving, _, rfl⟩ := Option.map_eq_some_iff.mp h
      exact ⟨inv.heard, inv.upstream⟩
  | connect sid =>
    simp only [step, connect] at h
    split at h
    case isFalse => cases h
    split at h <;> cases h
    exact inv.egress fun _ => .inl
  | relay sid =>
    simp only [step, relay] at h
    split at h
    case isFalse => cases h
    split at h <;> cases h
    exact inv.egress fun _ => .inl
  | processEnds sid | upstreamEnds sid =>
    obtain rfl := Option.some.inj h
    exact inv.egress fun _ => .inl
  | upstream sid datagram failsAt =>
    simp only [step, upstream] at h
    split at h
    case isFalse => cases h
    obtain rfl := Option.some.inj h
    refine inv.egress fun other member => ?_
    rcases List.mem_append.mp member with before | new
    · exact .inl before
    · rw [List.mem_singleton.mp new]
      exact .inr fits
  | readReply sid =>
    simp only [step, readReply] at h
    split at h
    · obtain ⟨serving, _, rfl⟩ := Option.map_eq_some_iff.mp h
      exact ⟨inv.heard, inv.upstream⟩
    · cases h

theorem run_within {limit : Nat} {acts : List RelayAction} (fits : ∀ act ∈ acts, act.Fits limit)
    (h : run step new acts = some r) : r.Within limit := by
  have initial : new.Within limit := ⟨by simp [new], by simp [new]⟩
  have along : Along step (fun _ act => act.Fits limit) new acts := along_of_forall fits
  exact run_along_invariant (fun _ _ _ => step_within) initial along h

theorem Sound.intact {limit : Nat} (inv : r.Sound) (within : r.Within limit) (small : limit ≤ udpPacketSize) :
    r.Intact where
  forward := by
    intro sid data sent
    obtain ⟨datagram, heard, rfl⟩ := inv.forward sent
    rwa [socketRecv, List.take_of_length_le ((within.heard _ heard).trans small)]
  backward := by
    intro sid data addr sent
    obtain ⟨datagram, heard, rfl⟩ := List.mem_map.mp (inv.sent sid data addr sent)
    refine ⟨(inv.isolated.sent sid _ addr sent).2, ?_⟩
    rwa [socketRecv, List.take_of_length_le ((within.upstream sid datagram heard).trans small)]

/-- A datagram goes to the other end, and one of the same length comes back. -/
def roundTrip (length : Nat) : List RelayAction :=
  let datagram := List.replicate length 7
  [.hear (.v4 0x7F000001 4001) datagram true, .serve .recv, .serve .lookup, .serve .publish, .serve .enqueue,
    .serve (.write 0), .connect 0, .relay 0, .upstream 0 datagram none, .readReply 0, .serve .sendReply]

theorem roundTrip_cut : ∃ r, run step new (roundTrip 1501) = some r ∧
    r.heard = [(.v4 0x7F000001 4001, List.replicate 1501 7)] ∧ (r.egress 0).heard = [List.replicate 1501 7] ∧
    (r.egress 0).sent = [List.replicate 1500 7] ∧
    r.serving.sent = [(0, List.replicate 1500 7, .v4 0x7F000001 4001)] :=
  run_reaches (P := fun r : Relay =>
      r.heard = [(.v4 0x7F000001 4001, List.replicate 1501 7)] ∧ (r.egress 0).heard = [List.replicate 1501 7] ∧
      (r.egress 0).sent = [List.replicate 1500 7] ∧
      r.serving.sent = [(0, List.replicate 1500 7, .v4 0x7F000001 4001)])
    (by decide +kernel)

theorem replicate_ne : List.replicate 1500 (7 : UInt8) ≠ List.replicate 1501 7 := by
  intro same
  have length := congrArg List.length same
  rw [List.length_replicate, List.length_replicate] at length
  omega

theorem roundTrip_fits {length limit : Nat} (small : length ≤ limit) : ∀ act ∈ roundTrip length, act.Fits limit := by
  simp [roundTrip, RelayAction.Fits, small]

/-- Datagrams of up to so many bytes are relayed intact if and only if they fit into the buffers. -/
theorem datagrams_intact_iff (limit : Nat) :
    (∀ acts r, (∀ act ∈ acts, act.Fits limit) → run step new acts = some r → r.Intact) ↔ limit ≤ udpPacketSize := by
  constructor
  · intro intact
    by_contra large
    have large : 1501 ≤ limit := Nat.not_le.mp large
    obtain ⟨r, ran, heard, _, sent, _⟩ := roundTrip_cut
    have delivered : List.replicate 1500 7 ∈ (r.egress 0).sent := by
      rw [sent]
      exact List.mem_cons_self
    have received := (intact _ r (roundTrip_fits large) ran).forward 0 _ delivered
    rw [heard, List.mem_singleton] at received
    exact replicate_ne (Prod.mk.inj received).2
  · intro small acts r fits ran
    exact (run_sound ran).intact (run_within fits ran) small

/-- A datagram of 1501 bytes is delivered without its last byte, in both directions. -/
theorem long_datagram_cut : ∃ r, run step new (roundTrip 1501) = some r ∧ ¬ r.Intact ∧
    (r.egress 0).sent = [List.replicate 1500 7] ∧
    r.serving.sent = [(0, List.replicate 1500 7, .v4 0x7F000001 4001)] := by
  obtain ⟨r, ran, _, upstream, sent, replied⟩ := roundTrip_cut
  refine ⟨r, ran, fun intact => ?_, sent, replied⟩
  have delivered : (0, List.replicate 1500 7, .v4 0x7F000001 4001) ∈ r.serving.sent := by
    rw [replied]
    exact List.mem_cons_self
  have received := (intact.backward 0 _ _ delivered).2
  rw [upstream, List.mem_singleton] at received
  exact replicate_ne received

end Relay

end Rstun.Udp
