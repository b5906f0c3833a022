import Rstun.Base.Run
import Rstun.Codec.Tasks

/-!
# One direction of a codec stream

`run_encoder` on one peer and `run_decoder` on the other, over a transport that delivers the bytes
written in order and in pieces of any size. The transport may also fail a read or a write, or time
out. It reports the end of the stream only after everything was delivered.
-/

namespace Rstun.Codec
open Streaming Transition

/-- `wire` is what the encoder has written and the decoder has not yet read. `read` and `written`
record what went in and came out at the two local streams. -/
structure Flow where
  encoder : Encoder UInt8
  decoder : Decoder UInt8
  wire : Bytes := []
  read : Bytes := []
  written : Bytes := []
  s2q : Option TaskResult := none
  q2s : Option TaskResult := none

inductive FlowAction where
  | encode (ev : EncEvent)
  | deliver (count : Nat) (w : WriteResult)
  | finish (w : WriteResult) (shutdown : Bool)
  | readFails
  | readTimesOut
  deriving DecidableEq

namespace Flow
variable {z : HistoryCodec UInt8} {f g : Flow}

def encode (z : HistoryCodec UInt8) (f : Flow) (ev : EncEvent) : Flow :=
  let t := encoderTurn z f.encoder ev
  { f with encoder := t.encoder, wire := f.wire ++ t.out, read := f.read ++ t.read, s2q := t.result }

def decode (z : HistoryCodec UInt8) (f : Flow) (rest : Bytes) (r : WireRead) : Flow :=
  let t := decoderTurn z f.decoder r
  { f with decoder := t.decoder, wire := rest, written := f.written ++ t.written, q2s := t.result }

def step (z : HistoryCodec UInt8) (f : Flow) : FlowAction → Option Flow
  | .encode ev => if f.s2q = none then some (f.encode z ev) else none
  | .deliver count w =>
    if f.q2s = none ∧ 0 < count ∧ count ≤ f.wire.length then
      some (f.decode z (f.wire.drop count) (.bytes (f.wire.take count) w))
    else none
  | .finish w shutdown =>
    if f.q2s = none ∧ f.wire = [] ∧ f.s2q ≠ none then some (f.decode z [] (.eof w shutdown)) else none
  | .readFails => if f.q2s = none then some (f.decode z f.wire .error) else none
  | .readTimesOut => if f.q2s = none then some (f.decode z f.wire .timeout) else none

def start (e : Encoder UInt8) (d : Decoder UInt8) : Flow := { encoder := e, decoder := d }

/-- `held` was in the encoder before the stream, `lost` is what a failed write kept off the wire, and
`taken` came out of the decoder, whether or not the local writer took it. -/
structure Sound (z : HistoryCodec UInt8) (f : Flow) (held lost taken : Bytes) : Prop where
  carries : Carries z f.encoder.ops f.decoder.consumed (f.wire ++ lost) (held ++ f.read) taken
  drainedEncoder : f.encoder.buf = []
  drainedDecoder : f.decoder.buf = []
  fails : lost = [] ∨ f.s2q = some (.error .writer)
  writes : (f.written = taken ∧ f.q2s ≠ some (.error .writer)) ∨
    (f.written <+: taken ∧ f.q2s = some (.error .writer))
  flushed : f.s2q = some (.ok .cleanEof) → z.Flushed f.encoder.ops
  delivered : f.q2s = some (.ok .cleanEof) → f.wire = [] ∧ f.s2q ≠ none

theorem sound_encode {held lost taken : Bytes} (h : f.Sound z held lost taken) (running : f.s2q = none)
    (ev : EncEvent) : ∃ lost, (f.encode z ev).Sound z held lost taken := by
  obtain rfl : lost = [] := h.fails.resolve_right (by simp [running])
  obtain ⟨lost, turn⟩ := encoderTurn_transmits (z := z) h.drainedEncoder ev
  have carried := h.carries.extend turn.emits turn.takes
  refine ⟨lost, ?_, turn.drained, h.drainedDecoder, turn.fails, h.writes, turn.flushed, fun clean => ?_⟩
  · simpa [encode, List.append_assoc] using carried
  · exact absurd running (h.delivered clean).2

theorem sound_deliver {held lost taken : Bytes} (h : f.Sound z held lost taken) (running : f.q2s = none)
    (count : Nat) (w : WriteResult) :
    ∃ taken, (f.decode z (f.wire.drop count) (.bytes (f.wire.take count) w)).Sound z held lost taken := by
  have split : f.wire ++ lost = f.wire.take count ++ (f.wire.drop count ++ lost) := by
    rw [← List.append_assoc, List.take_append_drop]
  have carried := h.carries
  rw [split] at carried
  obtain ⟨out, carried, ends⟩ := decoderTurn_bytes w h.drainedDecoder carried
  have old : f.written = taken := (h.writes.resolve_right (by simp [running])).1
  have decoder := decoderTurn_bytes_decoder (z := z) (f.wire.take count) w h.drainedDecoder
  refine ⟨taken ++ out, ?_, h.drainedEncoder, ?_, h.fails, ?_, h.flushed, ?_⟩
  · simpa [decode, decoder] using carried
  · simp [decode, decoder]
  · rcases ends with ⟨written, result⟩ | ⟨_, written, result⟩
    · exact Or.inl ⟨by simp [decode, old, written], by simp [decode, result]⟩
    · refine Or.inr ⟨?_, result⟩
      rw [← old]
      exact (List.prefix_append_right_inj _).mpr written
  · intro clean
    rcases ends with ⟨_, result⟩ | ⟨_, _, result⟩
    · exact absurd (result.symm.trans clean) (by simp)
    · exact absurd (result.symm.trans clean) (by simp)

theorem sound_finish {held lost taken : Bytes} (h : f.Sound z held lost taken) (running : f.q2s = none)
    (empty : f.wire = []) (ended : f.s2q ≠ none) (w : WriteResult) (shutdown : Bool) :
    (f.decode z [] (.eof w shutdown)).Sound z held lost taken := by
  have carried := h.carries
  rw [empty] at carried
  have old : f.written = taken := (h.writes.resolve_right (by simp [running])).1
  have turn : decoderTurn z f.decoder (.eof w shutdown) =
      ⟨f.decoder, [], some (if shutdown then .ok .cleanEof else .error .shutdown)⟩ := by
    cases d : f.decoder with
    | mk consumed buf =>
      have drained := h.drainedDecoder
      rw [d] at drained
      simp only at drained
      simp [decoderTurn, writeTurn, Decoder.take, drained]
  refine ⟨?_, h.drainedEncoder, ?_, h.fails, ?_, h.flushed, fun _ => ⟨rfl, ended⟩⟩
  · simpa [decode, turn] using carried
  · simpa [decode, turn] using h.drainedDecoder
  · refine Or.inl ⟨by simp [decode, turn, old], ?_⟩
    simp only [decode, turn, ne_eq, Option.some.injEq]
    cases shutdown <;> simp

theorem sound_stop {held lost taken : Bytes} (h : f.Sound z held lost taken) (running : f.q2s = none)
    {r : WireRead} (outcome : StreamOutcome) (dirty : outcome ≠ .cleanEof)
    (turn : decoderTurn z f.decoder r = ⟨f.decoder, [], some (.ok outcome)⟩) :
    (f.decode z f.wire r).Sound z held lost taken := by
  have old : f.written = taken := (h.writes.resolve_right (by simp [running])).1
  refine ⟨?_, h.drainedEncoder, ?_, h.fails, ?_, h.flushed, ?_⟩
  · simpa [decode, turn] using h.carries
  · simpa [decode, turn] using h.drainedDecoder
  · exact Or.inl ⟨by simp [decode, turn, old], by simp [decode, turn]⟩
  · simp [decode, turn, dirty]

theorem step_sound {a : FlowAction} {held lost taken : Bytes} (h : f.Sound z held lost taken)
    (hs : f.step z a = some g) : ∃ lost taken, g.Sound z held lost taken := by
  cases a with
  | encode ev =>
    simp only [step, Option.ite_none_right_eq_some, Option.some.injEq] at hs
    obtain ⟨running, rfl⟩ := hs
    obtain ⟨lost, sound⟩ := sound_encode h running ev
    exact ⟨lost, taken, sound⟩
  | deliver count w =>
    simp only [step, Option.ite_none_right_eq_some, Option.some.injEq] at hs
    obtain ⟨⟨running, _⟩, rfl⟩ := hs
    obtain ⟨taken, sound⟩ := sound_deliver h running count w
    exact ⟨lost, taken, sound⟩
  | finish w shutdown =>
    simp only [step, Option.ite_none_right_eq_some, Option.some.injEq] at hs
    obtain ⟨⟨running, empty, ended⟩, rfl⟩ := hs
    exact ⟨lost, taken, sound_finish h running empty ended w shutdown⟩
  | readFails =>
    simp only [step, Option.ite_none_right_eq_some, Option.some.injEq] at hs
    obtain ⟨running, rfl⟩ := hs
    exact ⟨lost, taken, sound_stop h running .ioError (by simp) rfl⟩
  | readTimesOut =>
    simp only [step, Option.ite_none_right_eq_some, Option.some.injEq] at hs
    obtain ⟨running, rfl⟩ := hs
    exact ⟨lost, taken, sound_stop h running .timeout (by simp) rfl⟩

/-- The decoder has consumed exactly what the encoder emitted since both were fresh. -/
structure InStep (z : HistoryCodec UInt8) (e : Encoder UInt8) (d : Decoder UInt8) : Prop where
  history : d.consumed = z.emit e.ops
  drainedEncoder : e.buf = []
  drainedDecoder : d.buf = []

/-- It has also put out everything the encoder was given. -/
structure InSync (z : HistoryCodec UInt8) (e : Encoder UInt8) (d : Decoder UInt8) : Prop
    extends InStep z e d where
  reproduced : z.yield d.consumed = some (accepted e.ops)

theorem run_sound {e : Encoder UInt8} {d : Decoder UInt8} {acts : List FlowAction}
    (h : run (step z) (start e d) acts = some f) (ready : InStep z e d) :
    ∃ held, (∃ lost taken, f.Sound z held lost taken) ∧ (z.Flushed e.ops → held = []) := by
  obtain ⟨held, carried, flushed⟩ := Carries.start ready.history
  refine ⟨held, ?_, flushed⟩
  refine run_invariant (I := fun f => ∃ lost taken, f.Sound z held lost taken) ?_ ?_ h
  · rintro f a g ⟨lost, taken, sound⟩ hs
    exact step_sound sound hs
  · refine ⟨[], [], ?_, ready.drainedEncoder, ready.drainedDecoder, Or.inl rfl, ?_, ?_, ?_⟩
    · simpa [start] using carried
    · simp [start]
    · simp [start]
    · simp [start]

/-- The codec is transparent: whatever the reads, the flush ticks and the pieces the transport
delivers, and however the two tasks end. -/
theorem written_prefix_read {e : Encoder UInt8} {d : Decoder UInt8} {acts : List FlowAction}
    (ready : InSync z e d) (h : run (step z) (start e d) acts = some f) :
    f.written <+: f.read ∧
      (f.s2q = some (.ok .cleanEof) → f.q2s = some (.ok .cleanEof) → f.written = f.read) := by
  obtain ⟨held, ⟨lost, taken, sound⟩, nothing⟩ := run_sound h ready.toInStep
  obtain rfl : held = [] := nothing (by rw [HistoryCodec.Flushed, ← ready.history, ready.reproduced])
  have carried := sound.carries
  rw [List.nil_append] at carried
  constructor
  · rcases sound.writes with ⟨all, _⟩ | ⟨some_, _⟩
    · rw [all]
      exact carried.prefix_read
    · exact some_.trans carried.prefix_read
  · intro sent received
    obtain rfl : lost = [] := sound.fails.resolve_right (by simp [sent])
    obtain ⟨all, _⟩ := sound.writes.resolve_right (by simp [received])
    rw [(sound.delivered received).1, List.append_nil] at carried
    rw [all]
    exact carried.complete (sound.flushed sent)

def magic : Bytes := [0x28, 0xB5, 0x2F, 0xFD]

theorem inSync_fresh : InSync z .fresh .fresh := by
  refine ⟨⟨z.emit_nil.symm, rfl, rfl⟩, ?_⟩
  have nothing := z.flushed_nil
  rwa [HistoryCodec.Flushed, z.emit_nil] at nothing

/-- Two reads with a tick between them, delivered in three pieces that cut through the blocks. -/
def chat : List FlowAction :=
  [.encode (.read [1, 2] .ok), .encode (.tick .ok), .deliver 5 .ok, .encode (.read [3] .ok),
    .encode (.read [] .ok), .deliver 1 .ok, .deliver 1 .ok, .finish .ok true]

theorem written_prefix_read_chat : ∃ f, run (step (framed magic)) (start .fresh .fresh) chat = some f ∧
    f.s2q = some (.ok .cleanEof) ∧ f.q2s = some (.ok .cleanEof) ∧ f.read = [1, 2, 3] ∧
    f.written = f.read := by
  have ran : run (step (framed magic)) (start .fresh .fresh) chat = some _ := rfl
  exact ⟨_, ran, rfl, rfl, by decide +kernel, (written_prefix_read inSync_fresh ran).2 rfl rfl⟩

/-! ### Which pairs go back into the tables -/

/-- The end of the s2q task, at the table its pair was taken from. -/
def settleS2q (f : Flow) (lru : CodecLru) (id : PairId) (pair : Ref) : CodecLru :=
  match f.s2q with
  | some result => (lru.modify pair fun p => { p with encoder := f.encoder }).settle id pair result
  | none => lru

def settleQ2s (f : Flow) (lru : CodecLru) (id : PairId) (pair : Ref) : CodecLru :=
  match f.q2s with
  | some result => (lru.modify pair fun p => { p with decoder := f.decoder }).settle id pair result
  | none => lru

theorem settleS2q_back {lru : CodecLru} {id : PairId} {r : Ref} (out : lru.cache.lookup id ≠ some r)
    (back : (f.settleS2q lru id r).cache.lookup id = some r) :
    (∃ outcome, f.s2q = some (.ok outcome)) ∧
      ((f.settleS2q lru id r).pairs r).encoder = f.encoder := by
  unfold settleS2q at back ⊢
  cases ended : f.s2q with
  | none =>
    rw [ended] at back
    exact absurd back out
  | some result =>
    simp only [ended] at back
    obtain ⟨clean | failed, kept⟩ := CodecLru.settle_put_back out back
    · exact ⟨⟨_, by rw [clean]⟩, by rw [kept]⟩
    · exact ⟨⟨_, by rw [failed]⟩, by rw [kept]⟩

theorem settleQ2s_back {lru : CodecLru} {id : PairId} {r : Ref} (out : lru.cache.lookup id ≠ some r)
    (back : (f.settleQ2s lru id r).cache.lookup id = some r) :
    (f.q2s = some (.ok .cleanEof) ∨ f.q2s = some (.ok .ioError)) ∧
      ((f.settleQ2s lru id r).pairs r).decoder = f.decoder := by
  unfold settleQ2s at back ⊢
  cases ended : f.q2s with
  | none =>
    rw [ended] at back
    exact absurd back out
  | some result =>
    simp only [ended] at back
    obtain ⟨result, kept⟩ := CodecLru.settle_put_back out back
    exact ⟨by simpa using result, by rw [kept]⟩

/-- Only a failed read ends the decoder's task with `IoError`. -/
theorem step_ne_ioError {a : FlowAction} (delivers : a ≠ .readFails) (before : f.q2s ≠ some (.ok .ioError))
    (hs : f.step z a = some g) : g.q2s ≠ some (.ok .ioError) := by
  cases a with
  | encode ev =>
    simp only [step, Option.ite_none_right_eq_some, Option.some.injEq] at hs
    obtain ⟨_, rfl⟩ := hs
    exact before
  | deliver count w =>
    simp only [step, Option.ite_none_right_eq_some, Option.some.injEq] at hs
    obtain ⟨_, rfl⟩ := hs
    exact decoderTurn_bytes_ne_ioError _ w
  | finish w shutdown =>
    simp only [step, Option.ite_none_right_eq_some, Option.some.injEq] at hs
    obtain ⟨_, rfl⟩ := hs
    exact decoderTurn_eof_ne_ioError w shutdown
  | readFails => exact absurd rfl delivers
  | readTimesOut =>
    simp only [step, Option.ite_none_right_eq_some, Option.some.injEq] at hs
    obtain ⟨_, rfl⟩ := hs
    simp [decode, decoderTurn]

/-- Over a transport that fails no read, the two halves are in step after every stream whose pair both peers
put back. -/
theorem put_back_in_step {e : Encoder UInt8} {d : Decoder UInt8} {acts : List FlowAction}
    {sender receiver : CodecLru} {id : PairId} {r r' : Ref} (ready : InStep z e d)
    (h : run (step z) (start e d) acts = some f) (delivers : .readFails ∉ acts)
    (out : sender.cache.lookup id ≠ some r) (out' : receiver.cache.lookup id ≠ some r')
    (back : (f.settleS2q sender id r).cache.lookup id = some r)
    (back' : (f.settleQ2s receiver id r').cache.lookup id = some r') :
    ((f.settleQ2s receiver id r').pairs r').decoder.consumed =
      z.emit ((f.settleS2q sender id r).pairs r).encoder.ops := by
  obtain ⟨⟨outcome, sent⟩, encoder⟩ := settleS2q_back out back
  obtain ⟨received, decoder⟩ := settleQ2s_back out' back'
  obtain ⟨held, ⟨lost, taken, sound⟩, _⟩ := run_sound h ready
  obtain rfl : lost = [] := sound.fails.resolve_right (by simp [sent])
  have reads : f.q2s ≠ some (.ok .ioError) :=
    run_along_invariant (C := fun _ a => a ≠ .readFails) (I := fun f : Flow => f.q2s ≠ some (.ok .ioError))
      (fun _ _ _ before delivers stepped => step_ne_ioError delivers before stepped) (by simp [start])
      (along_of_forall (C := (· ≠ FlowAction.readFails)) fun a member same => delivers (same ▸ member)) h
  -- The decoder's task came to the end of the stream, which is behind everything that was written.
  have empty := (sound.delivered (received.resolve_right reads)).1
  have channel := sound.carries.channel
  rw [empty, List.append_nil, List.append_nil] at channel
  rw [encoder, decoder, channel]

theorem put_back_in_step_chat : ∃ f, run (step (framed magic)) (start .fresh .fresh) chat = some f ∧
    .readFails ∉ chat ∧
    (f.settleS2q .new 1 0).cache.lookup 1 = some 0 ∧ (f.settleQ2s .new 1 0).cache.lookup 1 = some 0 ∧
    ((f.settleQ2s .new 1 0).pairs 0).decoder.consumed =
      (framed magic).emit ((f.settleS2q .new 1 0).pairs 0).encoder.ops := by
  have ran : run (step (framed magic)) (start .fresh .fresh) chat = some _ := rfl
  have delivers : .readFails ∉ chat := by decide
  have out : CodecLru.new.cache.lookup 1 ≠ some 0 := by decide +kernel
  refine ⟨_, ran, delivers, by decide +kernel, by decide +kernel, ?_⟩
  exact put_back_in_step inSync_fresh.toInStep ran delivers out out (by decide +kernel) (by decide +kernel)

/-- The connection is lost with the last byte of the first block still on its way. The encoder goes on
to a clean end, and both peers put the pair back. -/
def cutOff : List FlowAction :=
  [.encode (.read [7] .ok), .encode (.tick .ok), .deliver 4 .ok, .readFails, .encode (.read [] .ok)]

theorem put_back_out_of_step : ∃ f, run (step (framed magic)) (start .fresh .fresh) cutOff = some f ∧
    InStep (framed magic) .fresh .fresh ∧ CodecLru.new.cache.lookup 1 ≠ some 0 ∧
    (f.settleS2q .new 1 0).cache.lookup 1 = some 0 ∧ (f.settleQ2s .new 1 0).cache.lookup 1 = some 0 ∧
    ((f.settleQ2s .new 1 0).pairs 0).decoder.consumed ≠
      (framed magic).emit ((f.settleS2q .new 1 0).pairs 0).encoder.ops := by
  refine ⟨_, rfl, inSync_fresh.toInStep, ?_, ?_, ?_, ?_⟩ <;> decide +kernel

end Flow
end Rstun.Codec
