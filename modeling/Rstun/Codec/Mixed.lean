import Rstun.Codec.Agreement
import Rstun.Tunnel.EndToEnd

/-!
# A codec and a relay at the two ends of a stream

`zstd` is an option of the client only. The server passes `CodecConfig::default()` wherever it starts a tunnel,
so the codec is off there, and its ends of the streams are plain relays between QUIC and the upstream. A client
with the codec on makes its handshake with such a relay: what it takes for the ids of the other end is the
beginning of what the upstream sends, and the upstream gets the ids of the client. In an inbound tunnel the
connection that the server has accepted is in the place of the upstream.
-/

namespace Rstun.Codec
open Streaming Transition
open Tunnel (Half HalfAction)

/-- In `net` the left end is the client. `up s` and `down s` are the tasks of the server for the stream `s`,
towards the upstream and back. The last two fields are for the record: what the upstream has sent, and the id
that `checkout` gave the client for the stream. -/
structure Mixed where
  net : Net
  up : Nat → Half
  down : Nat → Half
  sent : Nat → Bytes
  offered : Nat → Option PairId

inductive MixedAction where
  | client (act : Action)
  | send (s : Nat) (bytes : Bytes)
  | carry (s count : Nat)
  | up (s : Nat) (act : HalfAction)
  | down (s : Nat) (act : HalfAction)

namespace Mixed

/-- The server never takes part in a handshake. Its side of every stream counts as one that has failed. -/
def server : Host := ⟨.new, fun _ => .failed⟩

def new : Mixed where
  net := ⟨fun | .left => .new | .right => server, fun _ _ => {}, []⟩
  up _ := .new
  down _ := .new
  sent _ := []
  offered _ := none

def relink (m : Mixed) (s : Nat) (out inc : Link) : Net := m.net.update .left s (m.net.host .left) out inc

/-- The record after an action of the client, which has led to `net`. -/
def noted (offered : Nat → Option PairId) (net : Net) : Action → Nat → Option PairId
  | .take p s _ _ => Function.update offered s ((net.host p).sides s).offer
  | _ => offered

/-- The task towards the upstream comes to the end of its input when the client has finished the stream and all
of it has been read. -/
def step (z : HistoryCodec UInt8) (m : Mixed) : MixedAction → Option Mixed
  | .client act =>
    match act.party with
    | .left => (m.net.step z act).map fun net => { m with net := net, offered := noted m.offered net act }
    | .right => none
  | .send s bytes =>
    ((m.down s).step (m.up s).signalled (.arrive bytes)).map fun down =>
      { m with down := Function.update m.down s down, sent := Function.update m.sent s (m.sent s ++ bytes) }
  | .carry s count =>
    let out := m.net.link s .left
    if 0 < count ∧ out.pos + count ≤ out.log.length then
      ((m.up s).step (m.down s).signalled (.arrive ((out.log.drop out.pos).take count))).map fun up =>
        { m with
          net := m.relink s { out with pos := out.pos + count } (m.net.link s .right)
          up := Function.update m.up s up }
    else none
  | .up _ (.arrive _) => none
  | .up s .eof =>
    let out := m.net.link s .left
    if out.fin ∧ out.pos = out.log.length then
      ((m.up s).step (m.down s).signalled .eof).map fun up => { m with up := Function.update m.up s up }
    else none
  | .up s act =>
    ((m.up s).step (m.down s).signalled act).map fun up => { m with up := Function.update m.up s up }
  | .down _ (.arrive _) => none
  | .down s act =>
    ((m.down s).step (m.up s).signalled act).map fun down =>
      { m with
        net := m.relink s (m.net.link s .left)
          { m.net.link s .right with log := down.relayed, fin := down.phase = .ended }
        down := Function.update m.down s down }

end Mixed

/-! ### What the client sends first -/

/-- Nothing, or the id of the checkout and an ack. The ack is not zero only if the first bytes of the upstream name
a pair of the client. -/
def Prefaced (offered : Option PairId) (out inc : Bytes) : Prop :=
  out = [] ∨ ∃ id ack rest, offered = some id ∧ out <+: idBytes id ++ idBytes ack ++ rest ∧
    (ack ≠ 0 → pairIdSize ≤ inc.length ∧ ack = readId (inc.take pairIdSize)) ∧
    (inc.length < 2 * pairIdSize → rest = [])

theorem Prefaced.mono {offered : Option PairId} {out inc inc' : Bytes} (prefaced : Prefaced offered out inc)
    (more : inc <+: inc') : Prefaced offered out inc' := by
  rcases prefaced with nothing | ⟨id, ack, rest, checked, front, reply, short⟩
  · exact .inl nothing
  have longer := more.length_le
  refine .inr ⟨id, ack, rest, checked, front, fun nonzero => ?_, fun few => short (by omega)⟩
  obtain ⟨heard, read⟩ := reply nonzero
  obtain ⟨later, rfl⟩ := more
  exact ⟨by omega, by rw [List.take_append_of_le_length heard, read]⟩

theorem Phase.Agrees.prefaced {phase : Phase} {offered : Option PairId} {out inc : Bytes}
    (agrees : phase.Agrees out inc) (checked : ∀ id, phase.offer = some id → offered = some id)
    (alive : phase ≠ .failed) : Prefaced offered out inc := by
  cases phase with
  | idle | scanned _ => exact .inl agrees
  | offered id pair =>
    refine .inr ⟨id, 0, [], checked id rfl, ?_, by simp, by simp⟩
    rcases agrees.2 with rfl | rfl <;> simp
  | acked id pair remoteId remotePair ack =>
    obtain ⟨_, sent, reply, heard, rfl⟩ := agrees
    refine .inr ⟨id, ack, [], checked id rfl, ?_, fun nonzero => ⟨heard, reply.resolve_left nonzero⟩, by simp⟩
    rcases sent with rfl | rfl <;> simp
  | flowing res s2q q2s =>
    obtain ⟨_, ⟨rest, rfl⟩, reply, heard, read, _⟩ := agrees
    refine .inr ⟨res.s2qId, res.q2sAck, rest, checked _ rfl, List.prefix_rfl, fun nonzero => ⟨by omega, ?_⟩,
      fun few => by omega⟩
    rw [← read, reply.resolve_left nonzero]
  | failed => exact absurd rfl alive

namespace Net
variable {z : HistoryCodec UInt8} {n n' : Net} {a : Action}

/-- A handshake that fails sends nothing, and neither does what comes after it. -/
theorem Step.log_of_failed (hs : Step z n a n') (failed : (n'.host a.party).sides a.stream = .failed) :
    (n'.link a.stream a.party).log = (n.link a.stream a.party).log := by
  cases hs with
    simp only [Action.party, Action.stream, put_host, put_link, update_host, update_out] at failed ⊢
  | sendId phase _ | sendAck phase _ => simp [phase] at failed
  | encode _ _ sides _ => simp [sides_self sides] at failed

/-- Only a checkout makes an offer, and the offer goes on record. -/
theorem Step.noted (hs : Step z n a n') (offered : Nat → Option PairId) :
    (∃ id, ((n'.host a.party).sides a.stream).offer = some id ∧ Mixed.noted offered n' a a.stream = some id) ∨
    (((n'.host a.party).sides a.stream).offer = none ∨
      ((n'.host a.party).sides a.stream).offer = ((n.host a.party).sides a.stream).offer) ∧
      Mixed.noted offered n' a a.stream = offered a.stream := by
  cases hs with
    simp only [Action.party, Action.stream, put_host, update_host, Mixed.noted, Function.update_self]
  | reuse phase sides effect | create phase sides drawn effect =>
    exact .inl ⟨_, by rw [sides_self sides]; rfl, by rw [sides_self sides]; rfl⟩
  | scan phase slot lru sides | fail pending slot lru sides =>
    exact .inr ⟨.inl (by rw [sides_self sides]; rfl), trivial⟩
  | hit phase sent heard sides | miss phase sent heard sides | complete phase sent heard sides | encode phase turn sides
  | decode arrived phase turn sides | settleS2q phase sides | settleQ2s phase sides =>
    exact .inr ⟨.inr (by rw [sides_self sides, phase]; rfl), trivial⟩
  | sendId | sendAck => exact .inr ⟨.inr trivial, trivial⟩
  | evict => exact .inr ⟨.inr rfl, trivial⟩

/-- What is offered stays on record. -/
theorem Step.checked (hs : Step z n a n') (offered : Nat → Option PairId)
    (before : ∀ id, ((n.host a.party).sides a.stream).offer = some id → offered a.stream = some id) (id : PairId)
    (offer : ((n'.host a.party).sides a.stream).offer = some id) : Mixed.noted offered n' a a.stream = some id := by
  rcases hs.noted offered with ⟨_, new, noted⟩ | ⟨nothing | same, unchanged⟩
  · rw [noted, ← new, offer]
  · cases nothing.symm.trans offer
  · exact unchanged.trans (before id (same.symm.trans offer))

/-- A failed handshake has no offer, so what is on record is the old one. -/
theorem Step.noted_of_failed (hs : Step z n a n') (offered : Nat → Option PairId)
    (failed : (n'.host a.party).sides a.stream = .failed) :
    Mixed.noted offered n' a a.stream = offered a.stream := by
  rcases hs.noted offered with ⟨_, new, _⟩ | ⟨_, unchanged⟩
  · rw [failed] at new
    cases new
  · exact unchanged

theorem Step.pos (hs : Step z n a n') : (n'.link a.stream a.party).pos = (n.link a.stream a.party).pos := by
  cases hs <;> simp [Action.party, Action.stream]

/-- Only a stream past its handshake exchanges anything with the application. -/
theorem Step.untouched (hs : Step z n a n') (before : ((n.host a.party).sides a.stream).result = none) :
    (n'.link a.stream a.party).read = (n.link a.stream a.party).read ∧
    (n'.link a.stream a.party.other).written = (n.link a.stream a.party.other).written := by
  cases hs with
    simp only [Action.party, Action.stream, put_link, update_out, update_inc] at before ⊢
  | encode phase _ _ _ | decode _ phase _ _ _ => simp [phase, Phase.result] at before
  | _ => simp

end Net

/-! ### What the tasks of the server carry -/

/-- The state of one stream, with `out` and `inc` as the client sees them. -/
structure Kept (phase : Phase) (offered : Option PairId) (out inc : Link) (up down : Half) (sent : Bytes) : Prop where
  agrees : phase.Agrees out.log inc.log
  checked : ∀ id, phase.offer = some id → offered = some id
  prefaced : Prefaced offered out.log inc.log
  quiet : inc.log.length < 2 * pairIdSize → out.read = [] ∧ inc.written = []
  within : out.pos ≤ out.log.length
  carried : up.Carries (out.log.take out.pos)
  answered : down.Carries sent
  log : inc.log = down.relayed

namespace Kept
variable {phase phase' : Phase} {offered : Option PairId} {out inc : Link} {up down up' down' : Half} {sent : Bytes}
  {signalled : Bool}

theorem send {bytes : Bytes} (kept : Kept phase offered out inc up down sent)
    (stepped : down.step signalled (.arrive bytes) = some down') :
    Kept phase offered out inc up down' (sent ++ bytes) := by
  have relayed : down'.relayed = down.relayed := by
    obtain rfl : { down with pending := down.pending ++ bytes } = down' := by simpa [Half.step] using stepped
    rfl
  exact { kept with answered := kept.answered.arrive stepped, log := by rw [kept.log, relayed] }

theorem carry {count : Nat} (kept : Kept phase offered out inc up down sent) (there : out.pos + count ≤ out.log.length)
    (stepped : up.step signalled (.arrive ((out.log.drop out.pos).take count)) = some up') :
    Kept phase offered { out with pos := out.pos + count } inc up' down sent :=
  { kept with
    within := there
    carried := by
      rw [List.take_add]
      exact kept.carried.arrive stepped }

theorem deliver {act : HalfAction} (kept : Kept phase offered out inc up down sent)
    (inside : ∀ bytes, act ≠ .arrive bytes) (stepped : up.step signalled act = some up') :
    Kept phase offered out inc up' down sent :=
  { kept with carried := kept.carried.step inside stepped }

theorem answer {act : HalfAction} {fin : Bool} (kept : Kept phase offered out inc up down sent)
    (inside : ∀ bytes, act ≠ .arrive bytes) (stepped : down.step signalled act = some down') :
    Kept phase offered out { inc with log := down'.relayed, fin := fin } up down' sent := by
  have more : inc.log <+: down'.relayed := kept.log ▸ Half.step_relayed stepped
  have longer := more.length_le
  exact
    { kept with
      agrees := kept.agrees.mono more
      prefaced := kept.prefaced.mono more
      quiet := fun few => kept.quiet (Nat.lt_of_le_of_lt longer few)
      answered := kept.answered.step inside stepped
      log := rfl }

end Kept

namespace Mixed
variable {z : HistoryCodec UInt8} {m m' : Mixed} {act : MixedAction}

def KeptAt (m : Mixed) (s : Nat) : Prop :=
  Kept ((m.net.host .left).sides s) (m.offered s) (m.net.link s .left) (m.net.link s .right) (m.up s) (m.down s)
    (m.sent s)

structure Held (m : Mixed) : Prop where
  owned : m.net.Owned
  idle : ∀ s, (m.net.host .right).sides s = .failed
  streams : ∀ s, m.KeptAt s

theorem Held.wire (held : m.Held) : m.net.Wire := by
  intro p s
  cases p with
  | left => exact (held.streams s).agrees
  | right =>
    rw [held.idle s]
    trivial

section Relink
variable {s t : Nat} {out inc : Link}

@[simp] theorem relink_host : (m.relink s out inc).host = m.net.host := Function.update_eq_self ..

@[simp] theorem relink_left : (m.relink s out inc).link s .left = out := Net.update_out

@[simp] theorem relink_right : (m.relink s out inc).link s .right = inc := Net.update_inc (p := .left)

@[simp] theorem relink_link (different : t ≠ s) : (m.relink s out inc).link t = m.net.link t :=
  Net.update_link different

end Relink

theorem step_up {s : Nat} {h : HalfAction} (stepped : m.step z (.up s h) = some m') :
    ∃ up, (∀ bytes, h ≠ .arrive bytes) ∧ (m.up s).step (m.down s).signalled h = some up ∧
      { m with up := Function.update m.up s up } = m' := by
  cases h with
  | arrive bytes => cases stepped
  | eof =>
    simp only [step, Option.ite_none_right_eq_some, Option.map_eq_some_iff] at stepped
    obtain ⟨_, up, ran, rfl⟩ := stepped
    exact ⟨up, by simp, ran, rfl⟩
  | read | write | writeFails | readFails | timeout | wake =>
    simp only [step, Option.map_eq_some_iff] at stepped
    obtain ⟨up, ran, rfl⟩ := stepped
    exact ⟨up, by simp, ran, rfl⟩

theorem step_down {s : Nat} {h : HalfAction} (stepped : m.step z (.down s h) = some m') :
    ∃ down, (∀ bytes, h ≠ .arrive bytes) ∧ (m.down s).step (m.up s).signalled h = some down ∧
      { m with
        net := m.relink s (m.net.link s .left)
          { m.net.link s .right with log := down.relayed, fin := down.phase = .ended }
        down := Function.update m.down s down } = m' := by
  cases h with
  | arrive bytes => cases stepped
  | read | write | writeFails | eof | readFails | timeout | wake =>
    simp only [step, Option.map_eq_some_iff] at stepped
    obtain ⟨down, ran, rfl⟩ := stepped
    exact ⟨down, by simp, ran, rfl⟩

/-- The steps of the server, each on the one stream that it changes. -/
theorem Held.of_stream {s : Nat} (held : m.Held) (host : m'.net.host = m.net.host)
    (elsewhere : ∀ t, t ≠ s → m'.net.link t = m.net.link t ∧ m'.up t = m.up t ∧ m'.down t = m.down t ∧
      m'.sent t = m.sent t ∧ m'.offered t = m.offered t) (here : m'.KeptAt s) : m'.Held where
  owned p := by
    rw [host]
    exact held.owned p
  idle t := by
    rw [host]
    exact held.idle t
  streams t := by
    by_cases same : t = s
    · exact same ▸ here
    · obtain ⟨link, up, down, sent, offered⟩ := elsewhere t same
      simpa only [KeptAt, host, link, up, down, sent, offered] using held.streams t

theorem noted_other {a : Action} {net : Net} {t : Nat} (other : t ≠ a.stream) :
    noted m.offered net a t = m.offered t := by
  cases a with
  | take p s now tidHash => exact Function.update_of_ne other ..
  | _ => rfl

/-- The step of the client, at its own stream. -/
theorem client_here {a : Action} {net : Net} (held : m.Held) (client : a.party = .left)
    (stepped : m.net.step z a = some net) :
    { m with net := net, offered := noted m.offered net a }.KeptAt a.stream := by
  have kept := held.streams a.stream
  have moved := Net.step_local held.owned stepped
  have spec := Net.step_spec held.owned stepped
  have out := moved.out
  have inc := moved.inc
  have pos := spec.pos
  have failed := spec.log_of_failed
  have untouched := spec.untouched
  have checked := spec.checked m.offered
  have unchanged := spec.noted_of_failed m.offered
  rw [client] at out inc pos failed untouched checked unchanged
  have agrees : ((net.host .left).sides a.stream).Agrees _ _ :=
    Net.step_wire held.owned held.wire stepped .left a.stream
  refine ⟨agrees, checked kept.checked, ?_, fun few => ?_, ?_, ?_, kept.answered, inc.trans kept.log⟩
  · by_cases alive : (net.host .left).sides a.stream = .failed
    · rw [failed alive, show (net.link a.stream .right).log = _ from inc,
        show Mixed.offered _ a.stream = _ from unchanged alive]
      exact kept.prefaced
    · exact agrees.prefaced (checked kept.checked) alive
  · rw [show (net.link a.stream .right).log = _ from inc] at few
    have handshake : ((m.net.host .left).sides a.stream).result = none := by
      by_contra through
      obtain ⟨res, result⟩ := Option.ne_none_iff_exists'.mp through
      obtain ⟨s2q, q2s, flowing⟩ := Phase.flowing_of_result result
      have agreed := kept.agrees
      rw [flowing] at agreed
      exact absurd agreed.2.2.2.1 (Nat.not_le.mpr few)
    obtain ⟨read, written⟩ := untouched handshake
    obtain ⟨nothing, silent⟩ := kept.quiet few
    exact ⟨read.trans nothing, written.trans silent⟩
  · rw [pos]
    exact kept.within.trans out.length_le
  · obtain ⟨more, grown⟩ := out
    rw [pos, ← grown, List.take_append_of_le_length kept.within]
    exact kept.carried

theorem client_held {a : Action} {net : Net} (held : m.Held) (client : a.party = .left)
    (stepped : m.net.step z a = some net) : { m with net := net, offered := noted m.offered net a }.Held := by
  have moved := Net.step_local held.owned stepped
  have server := moved.host
  have sides := moved.frame.sides
  rw [client] at server sides
  refine ⟨Net.step_owned held.owned stepped, fun t => ?_, fun t => ?_⟩
  · exact (congrArg (Host.sides · t) server).trans (held.idle t)
  · by_cases same : t = a.stream
    · exact same ▸ client_here held client stepped
    · have kept := held.streams t
      simpa only [KeptAt, moved.link t same, sides t same, noted_other same] using kept

theorem step_held (held : m.Held) (stepped : m.step z act = some m') : m'.Held := by
  cases act with
  | client a =>
    simp only [step] at stepped
    split at stepped
    · rename_i client
      obtain ⟨net, ran, rfl⟩ := Option.map_eq_some_iff.mp stepped
      exact client_held held client ran
    · cases stepped
  | send s bytes =>
    simp only [step, Option.map_eq_some_iff] at stepped
    obtain ⟨down, ran, rfl⟩ := stepped
    refine held.of_stream (s := s) rfl (fun t other => by simp [other]) ?_
    simpa [KeptAt] using (held.streams s).send ran
  | carry s count =>
    simp only [step, Option.ite_none_right_eq_some, Option.map_eq_some_iff] at stepped
    obtain ⟨⟨_, there⟩, up, ran, rfl⟩ := stepped
    refine held.of_stream (s := s) relink_host (fun t other => by simp [other]) ?_
    simpa [KeptAt] using (held.streams s).carry there ran
  | up s act =>
    obtain ⟨up, inside, ran, rfl⟩ := step_up stepped
    refine held.of_stream (s := s) rfl (fun t other => by simp [other]) ?_
    simpa [KeptAt] using (held.streams s).deliver inside ran
  | down s act =>
    obtain ⟨down, inside, ran, rfl⟩ := step_down stepped
    refine held.of_stream (s := s) relink_host (fun t other => by simp [other]) ?_
    simpa [KeptAt] using (held.streams s).answer inside ran

theorem server_owned : server.Owned := by
  have empty : server.slot = Host.new.slot := by
    funext k
    cases k <;> rfl
  rw [Host.Owned, empty]
  exact Host.new_owned

theorem new_held : new.Held where
  owned p := by
    cases p with
    | left => exact Host.new_owned
    | right => exact server_owned
  idle _ := rfl
  streams s :=
    { agrees := rfl
      checked := fun _ offer => offer
      prefaced := .inl rfl
      quiet := fun _ => ⟨rfl, rfl⟩
      within := Nat.le_refl _
      carried := Half.carries_new
      answered := Half.carries_new
      log := rfl }

/-- Whatever the application sends, the upstream gets the id of the client's checkout first and then an ack. The
ack is zero or the first bytes of the upstream itself. Nothing goes from or to the application until the upstream
has sent the length of an id and an ack, so a protocol in which the upstream waits for the application gets stuck. -/
theorem ids_reach_upstream {acts : List MixedAction} (h : run (step z) new acts = some m) (s : Nat) :
    ((m.up s).relayed = [] ∨ ∃ id ack rest, m.offered s = some id ∧
      (m.up s).relayed <+: idBytes id ++ idBytes ack ++ rest ∧
      (ack = 0 ∨ ack = readId ((m.sent s).take pairIdSize)) ∧
      ((m.sent s).length < 2 * pairIdSize → rest = [])) ∧
    ((m.sent s).length < 2 * pairIdSize →
      (m.net.link s .left).read = [] ∧ (m.net.link s .right).written = []) := by
  have held : m.Held := run_invariant (fun _ _ _ => step_held) new_held h
  have kept := held.streams s
  have answered : (m.net.link s .right).log <+: m.sent s := kept.log ▸ kept.answered.relayed
  have shorter := answered.length_le
  have relayed : (m.up s).relayed <+: (m.net.link s .left).log := kept.carried.relayed.trans (List.take_prefix ..)
  refine ⟨?_, fun few => kept.quiet (by omega)⟩
  rcases kept.prefaced.mono answered with nothing | ⟨id, ack, rest, offered, front, reply, short⟩
  · exact .inl (List.prefix_nil.mp (nothing ▸ relayed))
  · refine .inr ⟨id, ack, rest, offered, relayed.trans front, ?_, short⟩
    by_cases zero : ack = 0
    · exact .inl zero
    · exact .inr (reply zero).2

/-- The upstream greets with the first bytes of an SSH server, which the client takes for an id. -/
def greeting : List MixedAction :=
  [.client (.scan .left 0 []), .client (.take .left 0 1 0), .client (.send .left 0),
    .send 0 "SSH-2.0-OpenSSH_".toUTF8.toList, .down 0 (.read 16), .down 0 .write,
    .client (.lookup .left 0), .client (.send .left 0), .carry 0 32, .up 0 (.read 32), .up 0 .write]

theorem ids_reach_upstream_greeting : ∃ m, run (step (framed [])) new greeting = some m ∧
    (m.up 0).relayed.length = 2 * pairIdSize ∧
    (∃ id, m.offered 0 = some id ∧ (m.up 0).relayed.take pairIdSize = idBytes id) ∧
    (m.net.link 0 .left).read = [] ∧ (m.net.link 0 .right).written = [] := by
  obtain ⟨m, ran, few, length⟩ := run_reaches
    (P := fun m : Mixed => (m.sent 0).length < 2 * pairIdSize ∧ (m.up 0).relayed.length = 2 * pairIdSize)
    (show (run (step (framed [])) new greeting).any _ = true by decide +kernel)
  obtain ⟨preface, stuck⟩ := ids_reach_upstream ran 0
  refine ⟨m, ran, length, ?_, stuck few⟩
  rcases preface with nothing | ⟨id, ack, rest, offered, ⟨more, front⟩, _⟩
  · rw [nothing] at length
    cases length
  · have whole : pairIdSize ≤ (m.up 0).relayed.length := by omega
    refine ⟨id, offered, ?_⟩
    rw [← List.take_append_of_le_length whole, front, List.append_assoc, List.take_left' (length_idBytes id)]

end Mixed
end Rstun.Codec
