import Rstun.Base.BigEndian
import Rstun.Codec.Host

/-!
# Two processes and the streams between them

Each process has its own table. A stream has one reliable, ordered byte channel in each direction,
on which the id and the ack of `exchange_pair_id` come before the data. Bytes stay in the channel as
long as they like, and a reader may also see a failure or a timeout at any moment.
-/

namespace Rstun.Codec
open Streaming Transition BigEndian

def pairIdSize : Nat := 16

def idBytes (id : PairId) : Bytes := beBytes pairIdSize id.toNat

def readId (bytes : Bytes) : PairId := BitVec.ofNat 128 (ofBe bytes)

@[simp] theorem length_idBytes (id : PairId) : (idBytes id).length = pairIdSize :=
  length_beBytes _ _

@[simp] theorem readId_idBytes (id : PairId) : readId (idBytes id) = id := by
  have small : id.toNat < 256 ^ pairIdSize := id.isLt
  rw [readId, idBytes, ofBe_beBytes small, BitVec.ofNat_toNat, BitVec.setWidth_eq]

inductive Party where
  | left | right
  deriving DecidableEq

namespace Party

def other : Party → Party
  | left => right
  | right => left

@[simp] theorem other_other (p : Party) : p.other.other = p := by cases p <;> rfl

@[simp] theorem other_ne (p : Party) : p.other ≠ p := by cases p <;> decide

theorem eq_or_other (p q : Party) : q = p ∨ q = p.other := by
  cases p <;> cases q <;> decide

end Party

/-- One direction of a stream: all bytes written to it, how many of them were read, and whether it was
finished. `read` and `written` record what went in and came out at the local streams of its ends. -/
structure Link where
  log : Bytes := []
  pos : Nat := 0
  fin : Bool := false
  read : Bytes := []
  written : Bytes := []

/-- What a read of `run_decoder` runs into. -/
inductive Arrival where
  | bytes (count : Nat) (w : WriteResult)
  | eof (w : WriteResult) (shutdown : Bool)
  | error
  | timeout

def Link.arrive (l : Link) : Arrival → Option (WireRead × Nat)
  | .bytes count w =>
    if 0 < count ∧ l.pos + count ≤ l.log.length then
      some (.bytes ((l.log.drop l.pos).take count) w, l.pos + count)
    else none
  | .eof w shutdown => if l.pos = l.log.length ∧ l.fin then some (.eof w shutdown, l.pos) else none
  | .error => some (.error, l.pos)
  | .timeout => some (.timeout, l.pos)

/-- `link s p` is what `p` sends on the stream `s`, and `known` lists the ids offered so far. -/
structure Net where
  host : Party → Host
  link : Nat → Party → Link
  known : List PairId

inductive Action where
  | scan (p : Party) (s : Nat) (iter : List (Σ _ : PairId, Ref))
  | take (p : Party) (s : Nat) (now tidHash : BitVec 128)
  | send (p : Party) (s : Nat)
  | lookup (p : Party) (s : Nat)
  | complete (p : Party) (s : Nat)
  | fail (p : Party) (s : Nat)
  | encode (p : Party) (s : Nat) (ev : EncEvent)
  | decode (p : Party) (s : Nat) (a : Arrival)
  | settleS2q (p : Party) (s : Nat)
  | settleQ2s (p : Party) (s : Nat)
  | evict (p : Party) (id : PairId)

namespace Action

def party : Action → Party
  | scan p _ _ | take p _ _ _ | send p _ | lookup p _ | complete p _ | fail p _ | encode p _ _
  | decode p _ _ | settleS2q p _ | settleQ2s p _ | evict p _ => p

def stream : Action → Nat
  | scan _ s _ | take _ s _ _ | send _ s | lookup _ s | complete _ s | fail _ s | encode _ s _
  | decode _ s _ | settleS2q _ s | settleQ2s _ s => s
  | evict _ _ => 0

end Action

/-- What `exchange_pair_id` returned, once it has returned `Ok`. -/
def Phase.result : Phase → Option HandshakeResult
  | flowing res _ _ => some res
  | idle | scanned _ | offered _ _ | acked _ _ _ _ _ | failed => none

theorem Phase.flowing_of_result {phase : Phase} {res : HandshakeResult} (h : phase.result = some res) :
    ∃ s2q q2s, phase = .flowing res s2q q2s := by
  cases phase with
  | flowing res' s2q q2s =>
    obtain rfl := Option.some.inj h
    exact ⟨s2q, q2s, rfl⟩
  | _ => cases h

def Phase.offer : Phase → Option PairId
  | offered id _ | acked id _ _ _ _ => some id
  | flowing res _ _ => some res.s2qId
  | idle | scanned _ | failed => none

namespace Net

def new : Net := ⟨fun _ => .new, fun _ _ => {}, []⟩

/-- A step of `p` on the stream `s` changes its own process and the two channels of the stream. -/
def update (n : Net) (p : Party) (s : Nat) (h : Host) (out inc : Link) : Net :=
  { n with
    host := Function.update n.host p h
    link := Function.update n.link s fun q => if q = p then out else inc }

def put (n : Net) (p : Party) (s : Nat) (h : Host) : Net :=
  n.update p s h (n.link s p) (n.link s p.other)

def send (n : Net) (p : Party) (s : Nat) : Option Net :=
  let out := n.link s p
  let sent (log : Bytes) := some (n.update p s (n.host p) { out with log := log } (n.link s p.other))
  match (n.host p).sides s with
  | .offered id _ => if out.log = [] then sent (idBytes id) else none
  | .acked _ _ _ _ ack => if out.log.length = pairIdSize then sent (out.log ++ idBytes ack) else none
  | _ => none

def remoteId (n : Net) (p : Party) (s : Nat) : PairId :=
  readId ((n.link s p.other).log.take pairIdSize)

def remoteAck (n : Net) (p : Party) (s : Nat) : PairId :=
  readId (((n.link s p.other).log.drop pairIdSize).take pairIdSize)

def step (z : HistoryCodec UInt8) (n : Net) : Action → Option Net
  | .scan p s iter => ((n.host p).scan s iter).map (n.put p s)
  | .take p s now tidHash =>
    ((n.host p).take s now tidHash).map fun h =>
      { n.put p s h with known := (h.sides s).offer.toList ++ n.known }
  | .send p s => n.send p s
  | .lookup p s =>
    let inc := n.link s p.other
    if (n.link s p).log.length = pairIdSize ∧ pairIdSize ≤ inc.log.length then
      ((n.host p).lookup s (n.remoteId p s)).map fun h =>
        n.update p s h (n.link s p) { inc with pos := pairIdSize }
    else none
  | .complete p s =>
    let inc := n.link s p.other
    if (n.link s p).log.length = 2 * pairIdSize ∧ 2 * pairIdSize ≤ inc.log.length then
      ((n.host p).complete s (n.remoteAck p s)).map fun h =>
        n.update p s h (n.link s p) { inc with pos := 2 * pairIdSize }
    else none
  | .fail p s =>
    ((n.host p).fail s).map fun h =>
      n.update p s h { n.link s p with fin := true } (n.link s p.other)
  | .encode p s ev =>
    let out := n.link s p
    ((n.host p).encode z s ev).map fun (t, h) =>
      n.update p s h
        { out with log := out.log ++ t.out, read := out.read ++ t.read, fin := t.result.isSome }
        (n.link s p.other)
  | .decode p s a =>
    let inc := n.link s p.other
    (inc.arrive a).bind fun (r, pos) =>
      ((n.host p).decode z s r).map fun (t, h) =>
        n.update p s h (n.link s p) { inc with pos := pos, written := inc.written ++ t.written }
  | .settleS2q p s => ((n.host p).settleS2q s).map (n.put p s)
  | .settleQ2s p s => ((n.host p).settleQ2s s).map (n.put p s)
  | .evict p id => some (n.put p 0 ((n.host p).evict id))

theorem sides_self {h h' : Host} {s : Nat} {phase : Phase}
    (sides : h'.sides = Function.update h.sides s phase) : h'.sides s = phase := by
  rw [sides, Function.update_self]

section Update
variable {n : Net} {p : Party} {s t : Nat} {h : Host} {out inc : Link}

@[simp] theorem update_host : (n.update p s h out inc).host p = h := Function.update_self ..

@[simp] theorem update_host_other : (n.update p s h out inc).host p.other = n.host p.other :=
  Function.update_of_ne p.other_ne ..

@[simp] theorem update_out : (n.update p s h out inc).link s p = out := by simp [update]

@[simp] theorem update_inc : (n.update p s h out inc).link s p.other = inc := by simp [update]

@[simp] theorem update_link (different : t ≠ s) : (n.update p s h out inc).link t = n.link t :=
  Function.update_of_ne different ..

@[simp] theorem update_known : (n.update p s h out inc).known = n.known := rfl

@[simp] theorem put_host : (n.put p s h).host p = h := update_host

@[simp] theorem put_host_other : (n.put p s h).host p.other = n.host p.other := update_host_other

@[simp] theorem put_link : (n.put p s h).link = n.link := by
  funext t q
  by_cases same : t = s
  · subst same
    rcases p.eq_or_other q with rfl | rfl <;> simp [put]
  · simp [put, same]

@[simp] theorem put_known : (n.put p s h).known = n.known := rfl

end Update

/-! ### What a step can do -/

variable {z : HistoryCodec UInt8} {n n' : Net} {a : Action}

def Owned (n : Net) : Prop := ∀ p, (n.host p).Owned

/-- The steps of `step` between processes that own their pairs. -/
inductive Step (z : HistoryCodec UInt8) (n : Net) : Action → Net → Prop
  | scan {p s iter reuse h} (phase : (n.host p).sides s = .idle) (slot : h.slot = (n.host p).slot)
      (lru : h.lru = (n.host p).lru) (sides : h.sides = Function.update (n.host p).sides s (.scanned reuse)) :
      Step z n (.scan p s iter) (n.put p s h)
  | reuse {p s now tidHash reuse id r h} (phase : (n.host p).sides s = .scanned reuse)
      (sides : h.sides = Function.update (n.host p).sides s (.offered id r))
      (effect : (n.host p).Reuses h (.s2q s) id r) :
      Step z n (.take p s now tidHash) { n.put p s h with known := id :: n.known }
  | create {p s now tidHash reuse id r h} (phase : (n.host p).sides s = .scanned reuse)
      (sides : h.sides = Function.update (n.host p).sides s (.offered id r))
      (drawn : id = randId now tidHash) (effect : (n.host p).Creates h (.s2q s) id r) :
      Step z n (.take p s now tidHash) { n.put p s h with known := id :: n.known }
  | sendId {p s id r} (phase : (n.host p).sides s = .offered id r) (empty : (n.link s p).log = []) :
      Step z n (.send p s)
        (n.update p s (n.host p) { n.link s p with log := idBytes id } (n.link s p.other))
  | sendAck {p s id r remote r' ack} (phase : (n.host p).sides s = .acked id r remote r' ack)
      (short : (n.link s p).log.length = pairIdSize) :
      Step z n (.send p s)
        (n.update p s (n.host p) { n.link s p with log := (n.link s p).log ++ idBytes ack }
          (n.link s p.other))
  | hit {p s id r r' h} (phase : (n.host p).sides s = .offered id r)
      (sent : (n.link s p).log.length = pairIdSize) (heard : pairIdSize ≤ (n.link s p.other).log.length)
      (sides : h.sides =
        Function.update (n.host p).sides s (.acked id r (n.remoteId p s) r' (n.remoteId p s)))
      (nonzero : n.remoteId p s ≠ 0) (effect : (n.host p).Reuses h (.q2s s) (n.remoteId p s) r') :
      Step z n (.lookup p s) (n.update p s h (n.link s p) { n.link s p.other with pos := pairIdSize })
  | miss {p s id r r' h} (phase : (n.host p).sides s = .offered id r)
      (sent : (n.link s p).log.length = pairIdSize) (heard : pairIdSize ≤ (n.link s p.other).log.length)
      (sides : h.sides = Function.update (n.host p).sides s (.acked id r (n.remoteId p s) r' 0))
      (absent : (n.host p).slot (.cached (n.remoteId p s)) = none)
      (effect : (n.host p).Creates h (.q2s s) (n.remoteId p s) r') :
      Step z n (.lookup p s) (n.update p s h (n.link s p) { n.link s p.other with pos := pairIdSize })
  | complete {p s id r remote r' ack h} (phase : (n.host p).sides s = .acked id r remote r' ack)
      (sent : (n.link s p).log.length = 2 * pairIdSize)
      (heard : 2 * pairIdSize ≤ (n.link s p.other).log.length)
      (sides : h.sides = Function.update (n.host p).sides s
        (.flowing ⟨r, r', id, n.remoteAck p s, remote, ack⟩ .running .running))
      (effect : (n.host p).Touches h r
        (if n.remoteAck p s = 0 ∧ id ≠ 0 then ((n.host p).lru.pairs r).resetEncoder
          else (n.host p).lru.pairs r)) :
      Step z n (.complete p s)
        (n.update p s h (n.link s p) { n.link s p.other with pos := 2 * pairIdSize })
  | fail {p s h} (pending : (n.host p).sides s ≠ .idle ∧ ((n.host p).sides s).result = none)
      (slot : h.slot = Function.update (Function.update (n.host p).slot (.s2q s) none) (.q2s s) none)
      (lru : h.lru = (n.host p).lru) (sides : h.sides = Function.update (n.host p).sides s .failed) :
      Step z n (.fail p s) (n.update p s h { n.link s p with fin := true } (n.link s p.other))
  | encode {p s ev res task t h} (phase : (n.host p).sides s = .flowing res .running task)
      (turn : t = encoderTurn z ((n.host p).lru.pairs res.s2qPair).encoder ev)
      (sides : h.sides = Function.update (n.host p).sides s (.flowing res (.after t.result) task))
      (effect : (n.host p).Touches h res.s2qPair
        { (n.host p).lru.pairs res.s2qPair with encoder := t.encoder }) :
      Step z n (.encode p s ev)
        (n.update p s h
          { n.link s p with
            log := (n.link s p).log ++ t.out
            read := (n.link s p).read ++ t.read
            fin := t.result.isSome }
          (n.link s p.other))
  | decode {p s arrival r pos res task t h} (arrived : (n.link s p.other).arrive arrival = some (r, pos))
      (phase : (n.host p).sides s = .flowing res task .running)
      (turn : t = decoderTurn z ((n.host p).lru.pairs res.q2sPair).decoder r)
      (sides : h.sides = Function.update (n.host p).sides s (.flowing res task (.after t.result)))
      (effect : (n.host p).Touches h res.q2sPair
        { (n.host p).lru.pairs res.q2sPair with decoder := t.decoder }) :
      Step z n (.decode p s arrival)
        (n.update p s h (n.link s p)
          { n.link s p.other with pos := pos, written := (n.link s p.other).written ++ t.written })
  | settleS2q {p s res result task h} (phase : (n.host p).sides s = .flowing res (.returned result) task)
      (sides : h.sides = Function.update (n.host p).sides s (.flowing res .settled task))
      (effect : (res.s2qId ≠ 0 ∧ (result = .ok .cleanEof ∨ result = .ok .ioError) ∧
        (n.host p).Returns h (.s2q s) res.s2qId res.s2qPair) ∨ (n.host p).Drops h (.s2q s) res.s2qPair) :
      Step z n (.settleS2q p s) (n.put p s h)
  | settleQ2s {p s res result task h} (phase : (n.host p).sides s = .flowing res task (.returned result))
      (sides : h.sides = Function.update (n.host p).sides s (.flowing res task .settled))
      (effect : (res.q2sId ≠ 0 ∧ (result = .ok .cleanEof ∨ result = .ok .ioError) ∧
        (n.host p).Returns h (.q2s s) res.q2sId res.q2sPair) ∨ (n.host p).Drops h (.q2s s) res.q2sPair) :
      Step z n (.settleQ2s p s) (n.put p s h)
  | evict {p id} : Step z n (.evict p id) (n.put p 0 ((n.host p).evict id))

theorem step_send {p : Party} {s : Nat} (hs : n.send p s = some n') : Step z n (.send p s) n' := by
  unfold send at hs
  dsimp only at hs
  split at hs
  · rename_i id r offered
    simp only [Option.ite_none_right_eq_some, Option.some.injEq] at hs
    obtain ⟨empty, rfl⟩ := hs
    exact .sendId offered empty
  · rename_i id r remote r' ack acked
    simp only [Option.ite_none_right_eq_some, Option.some.injEq] at hs
    obtain ⟨short, rfl⟩ := hs
    exact .sendAck acked short
  · cases hs

theorem step_take (own : n.Owned) {p : Party} {s : Nat} {now tidHash : BitVec 128}
    (hs : n.step z (.take p s now tidHash) = some n') : Step z n (.take p s now tidHash) n' := by
  obtain ⟨h, ran, rfl⟩ := Option.map_eq_some_iff.mp hs
  obtain ⟨reuse, id, r, scanned, sides, effect⟩ := Host.take_spec (own p) ran
  have offer : (h.sides s).offer.toList ++ n.known = id :: n.known := by
    rw [sides, Function.update_self]
    rfl
  simp only [offer]
  rcases effect with reused | ⟨drawn, created⟩
  · exact .reuse scanned sides reused
  · exact .create scanned sides drawn created

theorem step_lookup (own : n.Owned) {p : Party} {s : Nat} (hs : n.step z (.lookup p s) = some n') :
    Step z n (.lookup p s) n' := by
  simp only [step, Option.ite_none_right_eq_some, Option.map_eq_some_iff] at hs
  obtain ⟨⟨sent, heard⟩, h, ran, rfl⟩ := hs
  obtain ⟨id, r, r', ack, offered, sides, ⟨rfl, nonzero, reused⟩ | ⟨rfl, absent, created⟩⟩ :=
    Host.lookup_spec (own p) ran
  · exact .hit offered sent heard sides nonzero reused
  · exact .miss offered sent heard sides absent created

theorem step_spec (own : n.Owned) (hs : n.step z a = some n') : Step z n a n' := by
  cases a with
  | scan p s iter =>
    obtain ⟨h, ran, rfl⟩ := Option.map_eq_some_iff.mp hs
    obtain ⟨idle, slot, lru, sides⟩ := Host.scan_spec ran
    exact .scan idle slot lru sides
  | take p s now tidHash => exact step_take own hs
  | send p s => exact step_send hs
  | lookup p s => exact step_lookup own hs
  | complete p s =>
    simp only [step, Option.ite_none_right_eq_some, Option.map_eq_some_iff] at hs
    obtain ⟨⟨sent, heard⟩, h, ran, rfl⟩ := hs
    obtain ⟨id, r, remote, r', ack, acked, sides, effect⟩ := Host.complete_spec ran
    exact .complete acked sent heard sides effect
  | fail p s =>
    obtain ⟨h, ran, rfl⟩ := Option.map_eq_some_iff.mp hs
    obtain ⟨slot, lru, sides, pending⟩ := Host.fail_spec ran
    refine .fail ?_ slot lru sides
    rcases pending with ⟨_, phase⟩ | ⟨_, _, phase⟩ | ⟨_, _, _, _, _, phase⟩ <;> simp [phase, Phase.result]
  | encode p s ev =>
    obtain ⟨⟨t, h⟩, ran, rfl⟩ := Option.map_eq_some_iff.mp hs
    obtain ⟨res, task, flowing, turn, sides, effect⟩ := Host.encode_spec ran
    exact .encode flowing turn sides effect
  | decode p s arrival =>
    obtain ⟨⟨r, pos⟩, arrived, hs⟩ := Option.bind_eq_some_iff.mp hs
    obtain ⟨⟨t, h⟩, ran, rfl⟩ := Option.map_eq_some_iff.mp hs
    obtain ⟨res, task, flowing, turn, sides, effect⟩ := Host.decode_spec ran
    exact .decode arrived flowing turn sides effect
  | settleS2q p s =>
    obtain ⟨h, ran, rfl⟩ := Option.map_eq_some_iff.mp hs
    obtain ⟨res, result, task, flowing, sides, effect⟩ := Host.settleS2q_spec (own p) ran
    exact .settleS2q flowing sides effect
  | settleQ2s p s =>
    obtain ⟨h, ran, rfl⟩ := Option.map_eq_some_iff.mp hs
    obtain ⟨res, task, result, flowing, sides, effect⟩ := Host.settleQ2s_spec (own p) ran
    exact .settleQ2s flowing sides effect
  | evict p id =>
    obtain rfl := Option.some.inj hs
    exact .evict

/-! ### Steps are local -/

theorem step_host (hs : n.step z a = some n') : n'.host a.party.other = n.host a.party.other ∧
    (n'.host a.party = n.host a.party ∨
      ∃ op : Host.Op, op.stream = a.stream ∧ (n.host a.party).step z op = some (n'.host a.party)) := by
  cases a with
  | scan p s iter =>
    obtain ⟨h, ran, rfl⟩ := Option.map_eq_some_iff.mp hs
    exact ⟨put_host_other, Or.inr ⟨.scan s iter, rfl, by simpa [Action.party, Host.step] using ran⟩⟩
  | take p s now tidHash =>
    obtain ⟨h, ran, rfl⟩ := Option.map_eq_some_iff.mp hs
    exact ⟨put_host_other (s := s),
      Or.inr ⟨.take s now tidHash, rfl, by simpa [Action.party, Host.step] using ran⟩⟩
  | send p s =>
    cases step_send (z := z) hs with
    | sendId | sendAck => exact ⟨update_host_other, Or.inl update_host⟩
  | lookup p s =>
    simp only [step, Option.ite_none_right_eq_some, Option.map_eq_some_iff] at hs
    obtain ⟨_, h, ran, rfl⟩ := hs
    exact ⟨update_host_other, Or.inr ⟨.lookup s _, rfl, by simpa [Action.party, Host.step] using ran⟩⟩
  | complete p s =>
    simp only [step, Option.ite_none_right_eq_some, Option.map_eq_some_iff] at hs
    obtain ⟨_, h, ran, rfl⟩ := hs
    exact ⟨update_host_other, Or.inr ⟨.complete s _, rfl, by simpa [Action.party, Host.step] using ran⟩⟩
  | fail p s =>
    obtain ⟨h, ran, rfl⟩ := Option.map_eq_some_iff.mp hs
    exact ⟨update_host_other, Or.inr ⟨.fail s, rfl, by simpa [Action.party, Host.step] using ran⟩⟩
  | encode p s ev =>
    obtain ⟨⟨t, h⟩, ran, rfl⟩ := Option.map_eq_some_iff.mp hs
    exact ⟨update_host_other, Or.inr ⟨.encode s ev, rfl, by simp [Action.party, Host.step, ran]⟩⟩
  | decode p s arrival =>
    obtain ⟨⟨r, pos⟩, _, hs⟩ := Option.bind_eq_some_iff.mp hs
    obtain ⟨⟨t, h⟩, ran, rfl⟩ := Option.map_eq_some_iff.mp hs
    exact ⟨update_host_other, Or.inr ⟨.decode s r, rfl, by simp [Action.party, Host.step, ran]⟩⟩
  | settleS2q p s =>
    obtain ⟨h, ran, rfl⟩ := Option.map_eq_some_iff.mp hs
    exact ⟨put_host_other, Or.inr ⟨.settleS2q s, rfl, by simpa [Action.party, Host.step] using ran⟩⟩
  | settleQ2s p s =>
    obtain ⟨h, ran, rfl⟩ := Option.map_eq_some_iff.mp hs
    exact ⟨put_host_other, Or.inr ⟨.settleQ2s s, rfl, by simpa [Action.party, Host.step] using ran⟩⟩
  | evict p id =>
    obtain rfl := Option.some.inj hs
    exact ⟨put_host_other, Or.inr ⟨.evict id, rfl, by simp [Action.party, Host.step]⟩⟩

/-- A step of `p` on the stream `s` leaves the other process and the other streams alone. -/
structure Local (n n' : Net) (p : Party) (s : Nat) : Prop where
  owned : (n'.host p).Owned
  frame : (n.host p).Frame (n'.host p) s
  host : n'.host p.other = n.host p.other
  link : ∀ t, t ≠ s → n'.link t = n.link t
  out : (n.link s p).log <+: (n'.link s p).log
  inc : (n'.link s p.other).log = (n.link s p.other).log

theorem Step.link (h : Step z n a n') {t : Nat} (different : t ≠ a.stream) : n'.link t = n.link t := by
  cases h <;> simp_all [Action.stream]

theorem Step.out (h : Step z n a n') :
    (n.link a.stream a.party).log <+: (n'.link a.stream a.party).log := by
  cases h <;> simp_all [Action.stream, Action.party]

theorem Step.inc (h : Step z n a n') :
    (n'.link a.stream a.party.other).log = (n.link a.stream a.party.other).log := by
  cases h <;> simp [Action.stream, Action.party]

theorem step_local (own : n.Owned) (hs : n.step z a = some n') : Local n n' a.party a.stream := by
  have spec := step_spec own hs
  obtain ⟨host, same | ⟨op, stream, ran⟩⟩ := step_host hs
  · exact ⟨same ▸ own _, same ▸ ⟨fun _ _ => rfl, fun _ _ _ _ _ _ => rfl⟩, host, fun _ => spec.link,
      spec.out, spec.inc⟩
  · exact ⟨Host.step_owned (own _) ran, stream ▸ Host.step_frame (own _) ran, host, fun _ => spec.link,
      spec.out, spec.inc⟩

/-- What holds at both ends of every stream has to be seen again only for the stream that has moved. -/
theorem Local.ends {I : Phase → Link → Link → Prop} {p : Party} {s : Nat} (moved : Local n n' p s)
    (before : ∀ q t, I ((n.host q).sides t) (n.link t q) (n.link t q.other))
    (here : I ((n'.host p).sides s) (n'.link s p) (n'.link s p.other))
    (there : I ((n'.host p.other).sides s) (n'.link s p.other) (n'.link s p)) (q : Party) (t : Nat) :
    I ((n'.host q).sides t) (n'.link t q) (n'.link t q.other) := by
  by_cases same : t = s
  · subst same
    rcases p.eq_or_other q with rfl | rfl
    · exact here
    · rwa [Party.other_other]
  · rw [moved.link t same]
    rcases p.eq_or_other q with rfl | rfl
    · rw [moved.frame.sides t same]
      exact before _ t
    · rw [moved.host]
      exact before _ t

theorem step_owned (own : n.Owned) (hs : n.step z a = some n') : n'.Owned := by
  have moved := step_local own hs
  intro q
  rcases a.party.eq_or_other q with rfl | rfl
  · exact moved.owned
  · rw [moved.host]
    exact own _

/-! ### Two processes in lockstep

The actions of a stream that goes well at both ends, for the concrete runs further on. -/

/-- `left` and `right` are the orders in which the two caches iterate. -/
def handshake (s : Nat) (left right : List (Σ _ : PairId, Ref)) (now : BitVec 128) : List Action :=
  [.scan .left s left, .scan .right s right, .take .left s now 0, .take .right s (now + 1) 0,
    .send .left s, .send .right s, .lookup .left s, .lookup .right s,
    .send .left s, .send .right s, .complete .left s, .complete .right s]

/-- `p` reads `data` and then the end of its local stream; `count` bytes go over the wire. -/
def transfer (p : Party) (s : Nat) (data : Bytes) (count : Nat) : List Action :=
  [.encode p s (.read data .ok), .encode p s (.read [] .ok), .decode p.other s (.bytes count .ok),
    .decode p.other s (.eof .ok true), .settleS2q p s, .settleQ2s p.other s]

end Net
end Rstun.Codec
