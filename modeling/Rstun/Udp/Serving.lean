import Rstun.Base.Exclusive
import Rstun.Base.Framing
import Rstun.Base.Run
import Rstun.Tunnel.Target

/-!
# Serving UDP flows

`UdpTunnel::start_serving` takes datagrams from a channel and puts each into the queue of the stream
for its flow. A stream is opened with the target of the flow at its start, and is entered into the map
under the key of the flow. It has a task that writes its queue and one that reads replies. Each of the
two removes the entry under that key when it ends. The replies go through another channel to the task
of the socket.
-/

namespace Rstun.Udp
open Framing Transition Rstun.Tunnel

structure UdpPacket where
  payload : Bytes
  localAddr : SocketAddr
  peerAddr : Option TunnelTarget
  deriving DecidableEq

structure UdpStreamKey where
  localAddr : SocketAddr
  peerAddr : Option TunnelTarget
  deriving DecidableEq

def UdpPacket.key (packet : UdpPacket) : UdpStreamKey := ⟨packet.localAddr, packet.peerAddr⟩

/-- A datagram with its number in the order of arrival. -/
structure Arrival where
  serial : Nat
  packet : UdpPacket
  deriving DecidableEq

def sendRaw (data : Bytes) : Bytes := frame 2 data

/-- A task that is `leaving` has ended its loop and has yet to remove the entry. -/
inductive TaskPhase where
  | running
  | leaving
  | done
  deriving DecidableEq

/-- `written` are the datagrams that the writer has taken from its queue, and `wire` the bytes that it
has put on the stream. -/
structure UdpStream where
  key : UdpStreamKey
  wire : Bytes
  queue : List Arrival
  written : List Arrival
  writer : TaskPhase
  reader : TaskPhase
  deriving DecidableEq

/-- The serving loop has a datagram in its hands, or opens a stream for one, or has the sender for it. -/
inductive LoopPhase where
  | waiting
  | received (datagram : Arrival)
  | opening (datagram : Arrival)
  | holding (sid : Nat) (datagram : Arrival)
  | stopped
  deriving DecidableEq

def LoopPhase.inHand : LoopPhase → List Arrival
  | received datagram | opening datagram | holding _ datagram => [datagram]
  | waiting | stopped => []

def LoopPhase.sender : LoopPhase → Option Nat
  | holding sid _ => some sid
  | _ => none

/-- Streams are numbered as they are opened. The map holds senders, here the numbers of their streams.
Replies carry the stream that they have been read from, for the record. -/
structure Serving where
  streamMap : UdpStreamKey → Option Nat
  streams : Nat → UdpStream
  opened : Nat
  loop : LoopPhase
  arrivals : Nat
  inbox : List Arrival
  replies : List (Nat × UdpPacket)
  sent : List (Nat × Bytes × SocketAddr)

inductive ServingAction where
  | arrive (packet : UdpPacket)
  | recv
  | lookup
  | openFails
  | publish
  | enqueue
  | stop
  | write (sid : Nat)
  | writeFails (sid : Nat) (count : Nat)
  | writerIdle (sid : Nat)
  | writerCleanup (sid : Nat)
  | reply (sid : Nat) (payload : Bytes)
  | readerEnds (sid : Nat)
  | readerCleanup (sid : Nat)
  | sendReply

namespace Serving

def vacant : UdpStream := ⟨⟨.v4 0 0, none⟩, [], [], [], .done, .done⟩

def new : Serving := ⟨fun _ => none, fun _ => vacant, 0, .waiting, 0, [], [], []⟩

def setStream (s : Serving) (sid : Nat) (stream : UdpStream) : Serving :=
  { s with streams := Function.update s.streams sid stream }

/-- A channel that is full makes its sender wait, or drop the message: it arrives later or not at all. -/
def arrive (s : Serving) (packet : UdpPacket) : Serving :=
  { s with inbox := s.inbox ++ [⟨s.arrivals, packet⟩], arrivals := s.arrivals + 1 }

/-- The first part of `open_stream`. -/
def lookup (s : Serving) : Option Serving :=
  match s.loop with
  | .received datagram =>
    match s.streamMap datagram.packet.key with
    | some sid => some { s with loop := .holding sid datagram }
    | none => some { s with loop := .opening datagram }
  | _ => none

/-- The rest of `open_stream`, after `open_bi` has succeeded. -/
def publish (s : Serving) : Option Serving :=
  match s.loop with
  | .opening datagram =>
    match encodeTunnelTarget datagram.packet.peerAddr true with
    | .ok (some header) => some { s.setStream s.opened ⟨datagram.packet.key, header, [], [], .running, .running⟩ with
        streamMap := Function.update s.streamMap datagram.packet.key (some s.opened)
        opened := s.opened + 1
        loop := .holding s.opened datagram }
    | _ => none
  | _ => none

/-- `try_send`. The receiver goes away with the writer's task, and the queue has 512 places. -/
def enqueue (s : Serving) : Option Serving :=
  match s.loop with
  | .holding sid datagram =>
    let stream := s.streams sid
    if stream.writer = .done ∨ 512 ≤ stream.queue.length then some { s with loop := .waiting }
    else some { s.setStream sid { stream with queue := stream.queue ++ [datagram] } with loop := .waiting }
  | _ => none

def write (s : Serving) (sid : Nat) : Option Serving :=
  let stream := s.streams sid
  match stream.writer, stream.queue with
  | .running, datagram :: queue => some (s.setStream sid { stream with
      queue := queue
      written := stream.written ++ [datagram]
      wire := stream.wire ++ sendRaw datagram.packet.payload })
  | _, _ => none

/-- `send_raw` fails when a part of the datagram may have gone out. -/
def writeFails (s : Serving) (sid count : Nat) : Option Serving :=
  let stream := s.streams sid
  match stream.writer, stream.queue with
  | .running, datagram :: queue => some (s.setStream sid { stream with
      queue := queue
      written := stream.written ++ [datagram]
      wire := stream.wire ++ (sendRaw datagram.packet.payload).take count
      writer := .leaving })
  | _, _ => none

/-- The writer's channel is empty, and neither the map nor the serving loop has a sender to it. -/
def writerIdle (s : Serving) (sid : Nat) : Option Serving :=
  let stream := s.streams sid
  if stream.writer = .running ∧ stream.queue = [] ∧ s.streamMap stream.key ≠ some sid ∧
      s.loop.sender ≠ some sid then
    some (s.setStream sid { stream with writer := .leaving })
  else none

/-- What both tasks of a stream do at their end. -/
def remove (s : Serving) (key : UdpStreamKey) : Serving :=
  { s with streamMap := Function.update s.streamMap key none }

def writerCleanup (s : Serving) (sid : Nat) : Option Serving :=
  let stream := s.streams sid
  if stream.writer = .leaving then
    some ((s.remove stream.key).setStream sid { stream with writer := .done })
  else none

def reply (s : Serving) (sid : Nat) (payload : Bytes) : Option Serving :=
  let stream := s.streams sid
  if stream.reader = .running then
    some { s with replies := s.replies ++ [(sid, ⟨payload, stream.key.localAddr, stream.key.peerAddr⟩)] }
  else none

def readerEnds (s : Serving) (sid : Nat) : Option Serving :=
  let stream := s.streams sid
  if stream.reader = .running then some (s.setStream sid { stream with reader := .leaving }) else none

def readerCleanup (s : Serving) (sid : Nat) : Option Serving :=
  let stream := s.streams sid
  if stream.reader = .leaving then
    some ((s.remove stream.key).setStream sid { stream with reader := .done })
  else none

/-- The task of `UdpServer` sends a reply to the address that it carries. -/
def sendReply (s : Serving) : Option Serving :=
  match s.replies with
  | [] => none
  | (sid, packet) :: replies =>
    some { s with replies := replies, sent := s.sent ++ [(sid, packet.payload, packet.localAddr)] }

def step (s : Serving) : ServingAction → Option Serving
  | .arrive packet => some (s.arrive packet)
  | .recv =>
    match s.loop, s.inbox with
    | .waiting, datagram :: inbox => some { s with loop := .received datagram, inbox := inbox }
    | _, _ => none
  | .lookup => s.lookup
  | .openFails =>
    match s.loop with
    | .opening _ => some { s with loop := .waiting }
    | _ => none
  | .publish => s.publish
  | .enqueue => s.enqueue
  | .stop => some { s with loop := .stopped }
  | .write sid => s.write sid
  | .writeFails sid count => s.writeFails sid count
  | .writerIdle sid => s.writerIdle sid
  | .writerCleanup sid => s.writerCleanup sid
  | .reply sid payload => s.reply sid payload
  | .readerEnds sid => s.readerEnds sid
  | .readerCleanup sid => s.readerCleanup sid
  | .sendReply => s.sendReply

end Serving

/-! ### Isolation of the flows -/

def UdpStream.accepted (stream : UdpStream) : List Arrival := stream.written ++ stream.queue

/-- The stream begins with the target of its flow, and the datagrams follow. Only one that could not be
sent may be incomplete, and it is the last. -/
def UdpStream.Wired (stream : UdpStream) : Prop :=
  ∃ header, encodeTunnelTarget stream.key.peerAddr true = .ok (some header) ∧ header <+: stream.wire ∧
    stream.wire <+: header ++ stream.written.flatMap (fun datagram => sendRaw datagram.packet.payload) ∧
    (stream.writer = .running →
      stream.wire = header ++ stream.written.flatMap (fun datagram => sendRaw datagram.packet.payload))

/-- The numbers of the datagrams that are yet to be put into a queue, and the next one. -/
def Serving.ahead (s : Serving) : List Nat :=
  (s.loop.inHand ++ s.inbox).map Arrival.serial ++ [s.arrivals]

structure UdpStream.Ok (streamMap : UdpStreamKey → Option Nat) (ahead : List Nat) (sid : Nat)
    (stream : UdpStream) : Prop where
  keyed : ∀ datagram ∈ stream.accepted, datagram.packet.key = stream.key
  ordered : (stream.accepted.map Arrival.serial ++ ahead).Pairwise (· < ·)
  finished : stream.writer = .done → streamMap stream.key ≠ some sid

structure Serving.Isolated (s : Serving) : Prop where
  ok : ∀ sid, (s.streams sid).Ok s.streamMap s.ahead sid
  wired : ∀ sid < s.opened, (s.streams sid).Wired
  apart : ∀ sid other, ∀ a ∈ (s.streams sid).accepted, ∀ b ∈ (s.streams other).accepted,
    a.serial = b.serial → sid = other
  reading : ∀ sid, (s.streams sid).reader = .running → sid < s.opened
  entries : ∀ key sid, s.streamMap key = some sid → sid < s.opened ∧ (s.streams sid).key = key
  held : ∀ sid datagram, s.loop = .holding sid datagram →
    sid < s.opened ∧ (s.streams sid).key = datagram.packet.key
  replies : ∀ sid packet, (sid, packet) ∈ s.replies →
    sid < s.opened ∧ packet.localAddr = (s.streams sid).key.localAddr
  sent : ∀ sid payload addr, (sid, payload, addr) ∈ s.sent →
    sid < s.opened ∧ addr = (s.streams sid).key.localAddr

theorem UdpStream.Ok.weaken {streamMap streamMap' : UdpStreamKey → Option Nat} {ahead ahead' : List Nat}
    {sid : Nat} {stream : UdpStream} (h : stream.Ok streamMap ahead sid) (shorter : ahead'.Sublist ahead)
    (fewer : streamMap' stream.key = some sid → streamMap stream.key = some sid) :
    stream.Ok streamMap' ahead' sid where
  keyed := h.keyed
  ordered := h.ordered.sublist (shorter.append_left _)
  finished := fun done entry => h.finished done (fewer entry)

namespace Serving

variable {s t : Serving} {sid : Nat}

theorem isolated_new : new.Isolated where
  ok := fun _ => ⟨nofun, by simp [ahead, new, vacant, UdpStream.accepted, LoopPhase.inHand], nofun⟩
  wired := nofun
  apart := nofun
  reading := nofun
  entries := nofun
  held := nofun
  replies := nofun
  sent := nofun

theorem update_proj {β : Type} (g : UdpStream → β) {streams : Nat → UdpStream} {stream : UdpStream}
    (same : g stream = g (streams sid)) (other : Nat) :
    g (Function.update streams sid stream other) = g (streams other) := by
  by_cases this : other = sid
  · subst this
    rw [Function.update_self, same]
  · rw [Function.update_of_ne this]

/-- A task of a stream makes a step. It does not change the flow, nor what has been put into its queue,
and if it changes the map it removes an entry. -/
theorem Isolated.touch (inv : s.Isolated) (stream : UdpStream) {streamMap : UdpStreamKey → Option Nat}
    (key : stream.key = (s.streams sid).key) (accepted : stream.accepted = (s.streams sid).accepted)
    (fewer : ∀ key other, streamMap key = some other → s.streamMap key = some other)
    (finished : stream.writer = .done → streamMap stream.key ≠ some sid)
    (wired : (s.streams sid).Wired → stream.Wired)
    (reading : stream.reader = .running → (s.streams sid).reader = .running) :
    Isolated { s.setStream sid stream with streamMap := streamMap } := by
  have keys := update_proj UdpStream.key key
  have queued := update_proj UdpStream.accepted accepted
  constructor
  · apply (Function.forall_update_iff s.streams fun other stream => stream.Ok streamMap s.ahead other).mpr
    constructor
    · have before := inv.ok sid
      refine ⟨?_, ?_, finished⟩
      · rw [accepted, key]
        exact before.keyed
      · rw [accepted]
        exact before.ordered
    · intro other _
      exact (inv.ok other).weaken (List.Sublist.refl _) (fewer _ _)
  · apply (Function.forall_update_iff s.streams fun other stream => other < s.opened → stream.Wired).mpr
    exact ⟨fun opened => wired (inv.wired sid opened), fun other _ => inv.wired other⟩
  · intro one other
    simp only [setStream, queued]
    exact inv.apart one other
  · apply (Function.forall_update_iff s.streams fun other stream =>
      stream.reader = .running → other < s.opened).mpr
    exact ⟨fun running => inv.reading sid (reading running), fun other _ => inv.reading other⟩
  · intro key other entry
    simp only [setStream, keys]
    exact inv.entries key other (fewer key other entry)
  · intro other
    simp only [setStream, keys]
    exact inv.held other
  · intro other
    simp only [setStream, keys]
    exact inv.replies other
  · intro other
    simp only [setStream, keys]
    exact inv.sent other

/-- The serving loop goes on to another phase, and drops the datagram that it has or keeps it. -/
theorem Isolated.proceed (inv : s.Isolated) {loop : LoopPhase} {inbox : List Arrival}
    (shorter : (loop.inHand ++ inbox).Sublist (s.loop.inHand ++ s.inbox))
    (held : ∀ sid datagram, loop = .holding sid datagram →
      sid < s.opened ∧ (s.streams sid).key = datagram.packet.key) :
    Isolated { s with loop := loop, inbox := inbox } :=
  { inv with
    ok := fun sid => (inv.ok sid).weaken ((shorter.map _).append_right _) id
    held := held }

theorem arrive_isolated (inv : s.Isolated) (packet : UdpPacket) : (s.arrive packet).Isolated := by
  refine { inv with ok := fun sid => ⟨(inv.ok sid).keyed, ?_, (inv.ok sid).finished⟩ }
  have before := (inv.ok sid).ordered
  have ahead : (s.arrive packet).ahead = s.ahead ++ [s.arrivals + 1] := by
    simp [Serving.ahead, arrive]
  rw [ahead, ← List.append_assoc, List.pairwise_append]
  refine ⟨before, List.pairwise_singleton _ _, ?_⟩
  intro earlier member later last
  obtain rfl := List.mem_singleton.mp last
  -- Every number is at most that of the last arrival, which comes last in `ahead`.
  rw [Serving.ahead, ← List.append_assoc, List.pairwise_append] at before
  rw [Serving.ahead, ← List.append_assoc] at member
  rcases List.mem_append.mp member with old | newest
  · exact Nat.lt_succ_of_lt (before.2.2 earlier old s.arrivals (List.mem_singleton_self _))
  · rw [List.mem_singleton.mp newest]
    exact Nat.lt_succ_self _

theorem lookup_isolated (inv : s.Isolated) (h : s.lookup = some t) : t.Isolated := by
  unfold lookup at h
  split at h
  case h_2 => cases h
  rename_i datagram phase
  have kept : (s.loop.inHand ++ s.inbox) = [datagram] ++ s.inbox := by rw [phase]; rfl
  split at h <;> obtain rfl := Option.some.inj h
  · rename_i sid entry
    apply inv.proceed
    · rw [kept]
      exact List.Sublist.refl _
    · rintro _ _ ⟨⟩
      exact inv.entries _ sid entry
  · apply inv.proceed
    · rw [kept]
      exact List.Sublist.refl _
    · rintro _ _ ⟨⟩

theorem publish_isolated (inv : s.Isolated) (h : s.publish = some t) : t.Isolated := by
  unfold publish at h
  split at h
  case h_2 => cases h
  rename_i datagram phase
  split at h
  case h_2 => cases h
  rename_i header encoded
  obtain rfl := Option.some.inj h
  have older : ∀ sid < s.opened, ∀ stream, Function.update s.streams s.opened stream sid = s.streams sid :=
    fun sid opened stream => Function.update_of_ne (Nat.ne_of_lt opened) _ _
  have nothing : ∀ sid, ∀ a ∈ (Function.update s.streams s.opened
      ⟨datagram.packet.key, header, [], [], .running, .running⟩ sid).accepted,
      a ∈ (s.streams sid).accepted := by
    apply (Function.forall_update_iff s.streams fun sid stream =>
      ∀ a ∈ stream.accepted, a ∈ (s.streams sid).accepted).mpr
    exact ⟨nofun, fun _ _ _ => id⟩
  have kept : s.ahead = (datagram.serial :: s.inbox.map Arrival.serial) ++ [s.arrivals] := by
    rw [ahead, phase]
    rfl
  constructor
  · apply (Function.forall_update_iff s.streams fun sid stream => stream.Ok _ _ sid).mpr
    constructor
    · have before := (inv.ok s.opened).ordered
      rw [kept] at before
      exact ⟨nofun, (List.pairwise_append.mp before).2.1, nofun⟩
    · intro sid this
      refine (inv.ok sid).weaken (kept ▸ List.Sublist.refl _) fun entry => ?_
      rcases Slots.of_update_some entry with ⟨_, same⟩ | ⟨_, before⟩
      · exact absurd same this
      · exact before
  · intro sid opened
    rcases Nat.lt_succ_iff_lt_or_eq.mp opened with before | rfl
    · simp only [setStream, older sid before]
      exact inv.wired sid before
    · simp only [setStream, Function.update_self]
      exact ⟨header, encoded, List.prefix_rfl, by simp, by simp⟩
  · intro sid other a queued b queued'
    exact inv.apart sid other a (nothing sid a queued) b (nothing other b queued')
  · apply (Function.forall_update_iff s.streams fun sid stream =>
      stream.reader = .running → sid < s.opened + 1).mpr
    exact ⟨fun _ => Nat.lt_succ_self _, fun sid _ running => Nat.lt_succ_of_lt (inv.reading sid running)⟩
  · intro key sid entry
    rcases Slots.of_update_some entry with ⟨rfl, rfl⟩ | ⟨_, before⟩
    · exact ⟨Nat.lt_succ_self _, by simp only [setStream, Function.update_self]⟩
    · obtain ⟨opened, same⟩ := inv.entries key sid before
      exact ⟨Nat.lt_succ_of_lt opened, by simpa only [setStream, older sid opened] using same⟩
  · rintro _ _ ⟨⟩
    exact ⟨Nat.lt_succ_self _, by simp only [setStream, Function.update_self]⟩
  · intro sid packet waiting
    obtain ⟨opened, same⟩ := inv.replies sid packet waiting
    exact ⟨Nat.lt_succ_of_lt opened, by simpa only [setStream, older sid opened] using same⟩
  · intro sid payload addr went
    obtain ⟨opened, same⟩ := inv.sent sid payload addr went
    exact ⟨Nat.lt_succ_of_lt opened, by simpa only [setStream, older sid opened] using same⟩

theorem ahead_holding {datagram : Arrival} (phase : s.loop = .holding sid datagram) :
    s.ahead = datagram.serial :: { s with loop := .waiting }.ahead := by
  simp [ahead, phase, LoopPhase.inHand]

/-- The datagram in the hands of the serving loop has come after all that are in a queue. -/
theorem Isolated.newest (inv : s.Isolated) {datagram a : Arrival} {other : Nat}
    (phase : s.loop = .holding sid datagram) (member : a ∈ (s.streams other).accepted) :
    a.serial < datagram.serial := by
  have before := (inv.ok other).ordered
  rw [ahead_holding phase, List.pairwise_append] at before
  exact before.2.2 a.serial (List.mem_map_of_mem member) datagram.serial List.mem_cons_self

theorem Isolated.push (inv : s.Isolated) {datagram : Arrival} (phase : s.loop = .holding sid datagram) :
    Isolated { s.setStream sid { s.streams sid with queue := (s.streams sid).queue ++ [datagram] } with
      loop := .waiting } := by
  generalize pushed : ({ s.streams sid with queue := (s.streams sid).queue ++ [datagram] } : UdpStream) = stream
  have key : stream.key = (s.streams sid).key := by rw [← pushed]
  have own : stream.accepted = (s.streams sid).accepted ++ [datagram] := by
    simp [← pushed, UdpStream.accepted]
  have keys := update_proj UdpStream.key key
  have queued : ∀ other, ∀ a ∈ (Function.update s.streams sid stream other).accepted,
      a ∈ (s.streams other).accepted ∨ (other = sid ∧ a = datagram) := by
    apply (Function.forall_update_iff s.streams fun other stream => ∀ a ∈ stream.accepted,
      a ∈ (s.streams other).accepted ∨ (other = sid ∧ a = datagram)).mpr
    refine ⟨fun a member => ?_, fun other _ a => .inl⟩
    rw [own] at member
    rcases List.mem_append.mp member with before | last
    · exact .inl before
    · exact .inr ⟨rfl, List.mem_singleton.mp last⟩
  have ahead := ahead_holding phase
  constructor
  · apply (Function.forall_update_iff s.streams fun other stream => stream.Ok s.streamMap _ other).mpr
    constructor
    · have before := inv.ok sid
      refine ⟨?_, ?_, ?_⟩
      · rw [own, key]
        intro a member
        rcases List.mem_append.mp member with old | last
        · exact before.keyed a old
        · rw [List.mem_singleton.mp last]
          exact (inv.held sid datagram phase).2.symm
      · have order := before.ordered
        rw [ahead] at order
        rw [own, List.map_append, List.append_assoc]
        exact order
      · rw [← pushed]
        exact before.finished
    · intro other _
      exact (inv.ok other).weaken (ahead ▸ List.sublist_cons_self _ _) id
  · apply (Function.forall_update_iff s.streams fun other stream => other < s.opened → stream.Wired).mpr
    refine ⟨fun opened => ?_, fun other _ => inv.wired other⟩
    rw [← pushed]
    exact inv.wired sid opened
  · intro one other a member b member' same
    rcases queued one a member with old | ⟨rfl, rfl⟩ <;> rcases queued other b member' with old' | ⟨rfl, rfl⟩
    · exact inv.apart one other a old b old' same
    · exact absurd same (inv.newest phase old).ne
    · exact absurd same (inv.newest phase old').ne'
    · rfl
  · apply (Function.forall_update_iff s.streams fun other stream =>
      stream.reader = .running → other < s.opened).mpr
    refine ⟨fun running => inv.reading sid ?_, fun other _ => inv.reading other⟩
    rwa [← pushed] at running
  · intro key other entry
    simp only [setStream, keys]
    exact inv.entries key other entry
  · rintro _ _ ⟨⟩
  · intro other
    simp only [setStream, keys]
    exact inv.replies other
  · intro other
    simp only [setStream, keys]
    exact inv.sent other

theorem enqueue_isolated (inv : s.Isolated) (h : s.enqueue = some t) : t.Isolated := by
  unfold enqueue at h
  split at h
  case h_2 => cases h
  rename_i sid datagram phase
  dsimp only at h
  split at h
  · -- The datagram is dropped.
    obtain rfl := Option.some.inj h
    apply inv.proceed
    · exact List.sublist_append_right _ _
    · rintro _ _ ⟨⟩
  · obtain rfl := Option.some.inj h
    exact inv.push phase

/-- A writer that takes a datagram puts at least a part of it on the stream. -/
theorem wired_take {stream : UdpStream} {datagram : Arrival} {queue : List Arrival} {part : Bytes}
    {writer : TaskPhase} (wired : stream.Wired) (running : stream.writer = .running)
    (begun : part <+: sendRaw datagram.packet.payload)
    (whole : writer = .running → part = sendRaw datagram.packet.payload) :
    UdpStream.Wired { stream with
      queue := queue, written := stream.written ++ [datagram], wire := stream.wire ++ part, writer := writer } := by
  obtain ⟨header, encoded, first, _, exact⟩ := wired
  refine ⟨header, encoded, first.trans (List.prefix_append _ _), ?_, ?_⟩
  · simp only [exact running, List.flatMap_append, List.flatMap_singleton, ← List.append_assoc]
    exact (List.prefix_append_right_inj _).mpr begun
  · intro still
    simp only [exact running, whole still, List.flatMap_append, List.flatMap_singleton, List.append_assoc]

theorem write_isolated (inv : s.Isolated) (h : s.write sid = some t) : t.Isolated := by
  unfold write at h
  dsimp only at h
  split at h
  case h_2 => cases h
  rename_i datagram queue running waiting
  obtain rfl := Option.some.inj h
  refine inv.touch ⟨_, _, _, _, _, _⟩ rfl ?_ (fun _ _ => id) ?_ ?_ id
  · simp [UdpStream.accepted, waiting]
  · intro done
    cases running.symm.trans done
  · intro wired
    exact wired_take wired running List.prefix_rfl fun _ => rfl

theorem writeFails_isolated {count : Nat} (inv : s.Isolated) (h : s.writeFails sid count = some t) :
    t.Isolated := by
  unfold writeFails at h
  dsimp only at h
  split at h
  case h_2 => cases h
  rename_i datagram queue running waiting
  obtain rfl := Option.some.inj h
  refine inv.touch ⟨_, _, _, _, _, _⟩ rfl ?_ (fun _ _ => id) nofun ?_ id
  · simp [UdpStream.accepted, waiting]
  · intro wired
    exact wired_take wired running (List.take_prefix _ _) nofun

/-- The phases of the two tasks do not matter to what has been written. -/
theorem wired_phase {stream : UdpStream} {writer reader : TaskPhase} (wired : stream.Wired)
    (running : writer = .running → stream.writer = .running) :
    UdpStream.Wired { stream with writer := writer, reader := reader } := by
  obtain ⟨header, encoded, first, begun, exact⟩ := wired
  exact ⟨header, encoded, first, begun, fun still => exact (running still)⟩

theorem writerIdle_isolated (inv : s.Isolated) (h : s.writerIdle sid = some t) : t.Isolated := by
  unfold writerIdle at h
  dsimp only at h
  split at h
  case isFalse => cases h
  obtain rfl := Option.some.inj h
  exact inv.touch _ rfl rfl (fun _ _ => id) nofun (fun wired => wired_phase wired nofun) id

theorem writerCleanup_isolated (inv : s.Isolated) (h : s.writerCleanup sid = some t) : t.Isolated := by
  unfold writerCleanup at h
  dsimp only at h
  split at h
  case isFalse => cases h
  obtain rfl := Option.some.inj h
  refine inv.touch _ rfl rfl ?_ ?_ (fun wired => wired_phase wired nofun) id
  · exact fun _ _ entry => (Slots.of_update_none entry).2
  · intro _ entry
    exact absurd rfl (Slots.of_update_none entry).1

theorem readerEnds_isolated (inv : s.Isolated) (h : s.readerEnds sid = some t) : t.Isolated := by
  unfold readerEnds at h
  dsimp only at h
  split at h
  case isFalse => cases h
  obtain rfl := Option.some.inj h
  exact inv.touch _ rfl rfl (fun _ _ => id) (inv.ok sid).finished (fun wired => wired_phase wired id) nofun

theorem readerCleanup_isolated (inv : s.Isolated) (h : s.readerCleanup sid = some t) : t.Isolated := by
  unfold readerCleanup at h
  dsimp only at h
  split at h
  case isFalse => cases h
  obtain rfl := Option.some.inj h
  refine inv.touch _ rfl rfl ?_ ?_ (fun wired => wired_phase wired id) nofun
  · exact fun _ _ entry => (Slots.of_update_none entry).2
  · intro _ entry
    exact absurd rfl (Slots.of_update_none entry).1

theorem reply_isolated {payload : Bytes} (inv : s.Isolated) (h : s.reply sid payload = some t) : t.Isolated := by
  unfold reply at h
  dsimp only at h
  split at h
  case isFalse => cases h
  rename_i running
  obtain rfl := Option.some.inj h
  refine { inv with replies := ?_ }
  intro other packet waiting
  rcases List.mem_append.mp waiting with before | last
  · exact inv.replies other packet before
  · cases List.mem_singleton.mp last
    exact ⟨inv.reading sid running, rfl⟩

theorem sendReply_isolated (inv : s.Isolated) (h : s.sendReply = some t) : t.Isolated := by
  unfold sendReply at h
  split at h
  · cases h
  rename_i sid packet replies first
  obtain rfl := Option.some.inj h
  refine { inv with replies := ?_, sent := ?_ }
  · intro other later waiting
    exact inv.replies other later (by rw [first]; exact List.mem_cons_of_mem _ waiting)
  · intro other payload addr went
    rcases List.mem_append.mp went with before | last
    · exact inv.sent other payload addr before
    · cases List.mem_singleton.mp last
      exact inv.replies sid packet (by rw [first]; exact List.mem_cons_self)

theorem step_isolated {act : ServingAction} (inv : s.Isolated) (h : s.step act = some t) : t.Isolated := by
  cases act with
  | arrive packet =>
    obtain rfl := Option.some.inj h
    exact arrive_isolated inv packet
  | recv =>
    simp only [step] at h
    split at h
    case h_2 => cases h
    rename_i datagram inbox phase waiting
    obtain rfl := Option.some.inj h
    apply inv.proceed
    · rw [phase, waiting]
      exact List.Sublist.refl _
    · rintro _ _ ⟨⟩
  | lookup => exact lookup_isolated inv h
  | openFails =>
    simp only [step] at h
    split at h
    case h_2 => cases h
    obtain rfl := Option.some.inj h
    exact inv.proceed (List.sublist_append_right _ _) nofun
  | publish => exact publish_isolated inv h
  | enqueue => exact enqueue_isolated inv h
  | stop =>
    obtain rfl := Option.some.inj h
    exact inv.proceed (List.sublist_append_right _ _) nofun
  | write sid => exact write_isolated inv h
  | writeFails sid count => exact writeFails_isolated inv h
  | writerIdle sid => exact writerIdle_isolated inv h
  | writerCleanup sid => exact writerCleanup_isolated inv h
  | reply sid payload => exact reply_isolated inv h
  | readerEnds sid => exact readerEnds_isolated inv h
  | readerCleanup sid => exact readerCleanup_isolated inv h
  | sendReply => exact sendReply_isolated inv h

theorem run_isolated {acts : List ServingAction} (h : run step new acts = some s) : s.Isolated :=
  run_invariant (fun _ _ _ inv stepped => step_isolated inv stepped) isolated_new h

/-- A stream carries the target of its flow and datagrams of that flow alone, in the order of arrival.
No datagram is on two streams, a reply goes to the local address of the flow, and no sender to a writer
that has finished is in the map. -/
theorem flows_isolated {acts : List ServingAction} (h : run step new acts = some s) :
    (∀ sid < s.opened, (s.streams sid).Wired ∧
      (∀ a ∈ (s.streams sid).written, a.packet.key = (s.streams sid).key) ∧
      ((s.streams sid).written.map Arrival.serial).Pairwise (· < ·) ∧
      ((s.streams sid).writer = .done → ∀ key, s.streamMap key ≠ some sid)) ∧
    (∀ sid other, ∀ a ∈ (s.streams sid).written, ∀ b ∈ (s.streams other).written,
      a.serial = b.serial → sid = other) ∧
    (∀ sid packet, (sid, packet) ∈ s.replies → packet.localAddr = (s.streams sid).key.localAddr) ∧
    ∀ sid payload addr, (sid, payload, addr) ∈ s.sent → addr = (s.streams sid).key.localAddr := by
  have inv := run_isolated h
  refine ⟨fun sid opened => ⟨inv.wired sid opened, ?_, ?_, ?_⟩, ?_, ?_, ?_⟩
  · intro a written
    exact (inv.ok sid).keyed a (List.mem_append_left _ written)
  · have order := (List.pairwise_append.mp (inv.ok sid).ordered).1
    rw [UdpStream.accepted, List.map_append, List.pairwise_append] at order
    exact order.1
  · intro done key entry
    obtain ⟨_, rfl⟩ := inv.entries key sid entry
    exact (inv.ok sid).finished done entry
  · intro sid other a written b written'
    exact inv.apart sid other a (List.mem_append_left _ written) b (List.mem_append_left _ written')
  · exact fun sid packet waiting => (inv.replies sid packet waiting).2
  · exact fun sid payload addr went => (inv.sent sid payload addr went).2

/-- What the other end takes from a stream first is the target of the flow. -/
theorem peer_reads_target {acts : List ServingAction} (h : run step new acts = some s) (opened : sid < s.opened) :
    ∃ rest, readOptionalTunnelTarget ⟨(s.streams sid).wire, false⟩ =
      .ok ((s.streams sid).key.peerAddr.map TunnelTarget.sent, ⟨rest, false⟩) := by
  obtain ⟨header, encoded, ⟨rest, wire⟩, _⟩ := (run_isolated h).wired sid opened
  refine ⟨rest, ?_⟩
  rw [← wire]
  exact readOptionalTunnelTarget_encode (s := ⟨rest, false⟩) encoded

/-- Two applications, one of which names a target. The datagrams of the first go out before and after
the one of the second, and its reply comes back. -/
def twoFlows : List ServingAction :=
  let first : UdpPacket := ⟨[1], .v4 0x7F000001 4001, none⟩
  let second : UdpPacket := ⟨[2], .v4 0x7F000001 4002, some (.addr (.v4 0x0A000001 53))⟩
  [.arrive first, .arrive second, .recv, .lookup, .publish, .arrive first, .enqueue, .write 0,
    .recv, .lookup, .publish, .enqueue, .recv, .lookup, .enqueue, .write 0, .write 1, .reply 0 [9], .sendReply]

theorem flows_isolated_twoFlows :
    ∃ s, run step new twoFlows = some s ∧ s.opened = 2 ∧
      (s.streams 0).wire = [0, 0, 1, 1, 0, 1, 1] ∧ (s.streams 1).wire = [4, 10, 0, 0, 1, 0, 53, 0, 1, 2] ∧
      s.sent = [(0, [9], .v4 0x7F000001 4001)] ∧
      ∀ sid < s.opened, (s.streams sid).Wired ∧
        (∀ a ∈ (s.streams sid).written, a.packet.key = (s.streams sid).key) ∧
        ((s.streams sid).written.map Arrival.serial).Pairwise (· < ·) ∧
        ((s.streams sid).writer = .done → ∀ key, s.streamMap key ≠ some sid) := by
  obtain ⟨s, ran, opened, first, second, sent⟩ := run_reaches
    (P := fun s : Serving => s.opened = 2 ∧ (s.streams 0).wire = [0, 0, 1, 1, 0, 1, 1] ∧
      (s.streams 1).wire = [4, 10, 0, 0, 1, 0, 53, 0, 1, 2] ∧ s.sent = [(0, [9], .v4 0x7F000001 4001)])
    (show (run step new twoFlows).any _ = true by decide +kernel)
  exact ⟨s, ran, opened, first, second, sent, (flows_isolated ran).1⟩

end Serving

end Rstun.Udp
