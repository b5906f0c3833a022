import Rstun.Codec.Lru

/-!
# The two tasks of a codec stream

`run_encoder` and `run_decoder` from `codec/mod.rs`, one turn of their loops at a time, and the
decision of `start_flowing_with_codec` whether a pair goes back into the table. An event carries
what the awaited calls of that turn returned.
-/

namespace Rstun.Codec
open Streaming

inductive StreamOutcome where
  | cleanEof | timeout | ioError
  deriving DecidableEq

inductive TaskError where
  | codec | writer | shutdown
  deriving DecidableEq

abbrev TaskResult := Except TaskError StreamOutcome

/-- A `write_all` succeeds, or fails after some of the bytes. -/
inductive WriteResult where
  | ok
  | failed (sent : Nat)
  deriving DecidableEq

/-- A turn of `run_encoder`. In basic mode the read returned, failed or timed out, or the flush
timer fired; in HTTP mode the message reader returned. A read of no bytes is the end of the
stream. -/
inductive EncEvent where
  | read (data : Bytes) (w : WriteResult)
  | readError
  | readTimeout
  | tick (w : WriteResult)
  | message (data : Bytes) (w w' : WriteResult)
  | needMore
  | httpError
  | codecError
  deriving DecidableEq

/-- What a turn of `run_encoder` did: the bytes it put on the writer, those it read, and the value
it returned if it returned. -/
structure EncoderTurn where
  encoder : Encoder UInt8
  out : Bytes
  read : Bytes
  result : Option TaskResult

/-- `write_compressed` and `flush_encoder`: run the encoder, take what it produced and write it. -/
def emitTurn (z : HistoryCodec UInt8) (e : Encoder UInt8) (op : Op UInt8) (read : Bytes)
    (w : WriteResult) (done : Option TaskResult) : EncoderTurn :=
  let (e', produced) := (e.apply z op).take
  if produced.isEmpty then ⟨e', [], read, done⟩
  else
    match w with
    | .ok => ⟨e', produced, read, done⟩
    | .failed sent => ⟨e', produced.take sent, read, some (.error .writer)⟩

def encoderTurn (z : HistoryCodec UInt8) (e : Encoder UInt8) : EncEvent → EncoderTurn
  | .read [] w => emitTurn z e .flush [] w (some (.ok .cleanEof))
  | .read (b :: data) w => emitTurn z e (.write (b :: data)) (b :: data) w none
  | .readError => ⟨e, [], [], some (.ok .ioError)⟩
  | .readTimeout => ⟨e, [], [], some (.ok .timeout)⟩
  | .tick w => emitTurn z e .flush [] w none
  | .message [] w _ => emitTurn z e .flush [] w (some (.ok .cleanEof))
  | .message (b :: data) w w' =>
    let first := emitTurn z e (.write (b :: data)) (b :: data) w none
    match first.result with
    | some _ => first
    | none =>
      let second := emitTurn z first.encoder .flush [] w' none
      { second with out := first.out ++ second.out, read := first.read }
  | .needMore => ⟨e, [], [], none⟩
  | .httpError => ⟨e, [], [], some (.ok .ioError)⟩
  | .codecError => ⟨e, [], [], some (.error .codec)⟩

/-- A turn of `run_decoder`. `read` carries what the local writer did with the produced bytes, and
`eof` also whether its shutdown succeeded. -/
inductive WireRead where
  | bytes (data : Bytes) (w : WriteResult)
  | eof (w : WriteResult) (shutdown : Bool)
  | error
  | timeout

structure DecoderTurn where
  decoder : Decoder UInt8
  written : Bytes
  result : Option TaskResult

def writeTurn (d : Decoder UInt8) (w : WriteResult) (done : Option TaskResult) : DecoderTurn :=
  let (d', produced) := d.take
  if produced.isEmpty then ⟨d', [], done⟩
  else
    match w with
    | .ok => ⟨d', produced, done⟩
    | .failed sent => ⟨d', produced.take sent, some (.error .writer)⟩

def decoderTurn (z : HistoryCodec UInt8) (d : Decoder UInt8) : WireRead → DecoderTurn
  | .bytes data w =>
    match d.feed z data with
    | some d' => writeTurn d' w none
    | none => ⟨{ d with consumed := d.consumed ++ data }, [], some (.error .codec)⟩
  | .eof w shutdown =>
    writeTurn d w (some (if shutdown then .ok .cleanEof else .error .shutdown))
  | .error => ⟨d, [], some (.ok .ioError)⟩
  | .timeout => ⟨d, [], some (.ok .timeout)⟩

/-! ### What a turn of the encoder does to the codec -/

section Encoder
variable {z : HistoryCodec UInt8} {e : Encoder UInt8}

theorem emitTurn_encoder (op : Op UInt8) (read : Bytes) (w : WriteResult) (done : Option TaskResult) :
    (emitTurn z e op read w done).encoder = ⟨e.ops ++ [op], []⟩ := by
  unfold emitTurn Encoder.take Encoder.apply
  dsimp only
  split
  · rfl
  · cases w <;> rfl

theorem emitTurn_read (op : Op UInt8) (read : Bytes) (w : WriteResult) (done : Option TaskResult) :
    (emitTurn z e op read w done).read = read := by
  unfold emitTurn
  dsimp only
  split
  · rfl
  · cases w <;> rfl

theorem emitTurn_out (drained : e.buf = []) (op : Op UInt8) (read : Bytes) (w : WriteResult)
    (done : Option TaskResult) :
    ∃ lost, (emitTurn z e op read w done).out ++ lost = z.output e.ops op ∧
      ((lost = [] ∧ (emitTurn z e op read w done).result = done) ∨
        (w ≠ .ok ∧ (emitTurn z e op read w done).result = some (.error .writer))) := by
  unfold emitTurn Encoder.take Encoder.apply
  simp only [drained, List.nil_append]
  split
  · rename_i empty
    exact ⟨[], by simpa using (List.isEmpty_iff.mp empty).symm, Or.inl ⟨rfl, rfl⟩⟩
  · cases w with
    | ok => exact ⟨[], by simp, Or.inl ⟨rfl, rfl⟩⟩
    | failed sent => exact ⟨_, List.take_append_drop sent _, Or.inr ⟨by simp, rfl⟩⟩

/-- The turn put `t.out ++ lost` out of the encoder, but `lost` never reached the writer. -/
structure Transmits (z : HistoryCodec UInt8) (e : Encoder UInt8) (t : EncoderTurn) (lost : Bytes) :
    Prop where
  drained : t.encoder.buf = []
  emits : z.emit t.encoder.ops = z.emit e.ops ++ (t.out ++ lost)
  takes : accepted t.encoder.ops = accepted e.ops ++ t.read
  fails : lost = [] ∨ t.result = some (.error .writer)
  flushed : t.result = some (.ok .cleanEof) → z.Flushed t.encoder.ops

theorem transmits_idle (drained : e.buf = []) {result : Option TaskResult}
    (running : result ≠ some (.ok .cleanEof)) : Transmits z e ⟨e, [], [], result⟩ [] :=
  ⟨drained, by simp, by simp, Or.inl rfl, fun clean => absurd clean running⟩

theorem transmits_flush (drained : e.buf = []) (w : WriteResult) (done : Option TaskResult) :
    ∃ lost, Transmits z e (emitTurn z e .flush [] w done) lost := by
  obtain ⟨lost, out, ends⟩ := emitTurn_out (z := z) drained .flush [] w done
  refine ⟨lost, ?_, ?_, ?_, ends.imp And.left And.right, fun _ => ?_⟩
  · rw [emitTurn_encoder]
  · rw [emitTurn_encoder, out, z.emit_output]
  · rw [emitTurn_encoder, emitTurn_read, accepted_append, accepted_flush]
  · rw [emitTurn_encoder]
    exact z.flushed_flush e.ops

theorem transmits_write (drained : e.buf = []) (data : Bytes) (w : WriteResult) :
    ∃ lost, Transmits z e (emitTurn z e (.write data) data w none) lost ∧
      ((lost = [] ∧ (emitTurn z e (.write data) data w none).result = none) ∨
        (emitTurn z e (.write data) data w none).result = some (.error .writer)) := by
  obtain ⟨lost, out, ends⟩ := emitTurn_out (z := z) drained (.write data) data w none
  refine ⟨lost, ⟨?_, ?_, ?_, ends.imp And.left And.right, fun clean => ?_⟩, ends.imp_right And.right⟩
  · rw [emitTurn_encoder]
  · rw [emitTurn_encoder, out, z.emit_output]
  · rw [emitTurn_encoder, emitTurn_read, accepted_append, accepted_write]
  · rcases ends with ⟨_, running⟩ | ⟨_, failed⟩
    · exact absurd (running.symm.trans clean) (by simp)
    · exact absurd (failed.symm.trans clean) (by simp)

theorem transmits_message (drained : e.buf = []) (b : UInt8) (data : Bytes) (w w' : WriteResult) :
    ∃ lost, Transmits z e (encoderTurn z e (.message (b :: data) w w')) lost := by
  obtain ⟨lost, written, ends⟩ := transmits_write (z := z) drained (b :: data) w
  rcases ends with ⟨rfl, running⟩ | failed
  · obtain ⟨lost', flushed⟩ := transmits_flush (z := z) written.drained w' none
    refine ⟨lost', ?_⟩
    simp only [encoderTurn, running]
    refine ⟨flushed.drained, ?_, ?_, flushed.fails, flushed.flushed⟩
    · rw [flushed.emits, written.emits]
      simp
    · rw [flushed.takes, written.takes, emitTurn_read, emitTurn_read, List.append_nil]
  · refine ⟨lost, ?_⟩
    simp only [encoderTurn, failed]
    exact written

theorem encoderTurn_transmits (drained : e.buf = []) (ev : EncEvent) :
    ∃ lost, Transmits z e (encoderTurn z e ev) lost := by
  cases ev with
  | read data w =>
    cases data with
    | nil => exact transmits_flush drained w _
    | cons b data =>
      obtain ⟨lost, written, _⟩ := transmits_write (z := z) drained (b :: data) w
      exact ⟨lost, written⟩
  | tick w => exact transmits_flush drained w _
  | message data w w' =>
    cases data with
    | nil => exact transmits_flush drained w _
    | cons b data => exact transmits_message drained b data w w'
  | readError | readTimeout | needMore | httpError | codecError =>
    exact ⟨[], transmits_idle drained (by simp)⟩

end Encoder

/-! ### What a turn of the decoder does to the codec -/

section Decoder
variable {z : HistoryCodec UInt8} {d : Decoder UInt8}

theorem writeTurn_decoder (w : WriteResult) (done : Option TaskResult) :
    (writeTurn d w done).decoder = { d with buf := [] } := by
  unfold writeTurn Decoder.take
  dsimp only
  split
  · rfl
  · cases w <;> rfl

theorem writeTurn_written (w : WriteResult) (done : Option TaskResult) :
    ((writeTurn d w done).written = d.buf ∧ (writeTurn d w done).result = done) ∨
      (w ≠ .ok ∧ (writeTurn d w done).written <+: d.buf ∧
        (writeTurn d w done).result = some (.error .writer)) := by
  unfold writeTurn Decoder.take
  dsimp only
  split
  · rename_i empty
    exact Or.inl ⟨(List.isEmpty_iff.mp empty).symm, rfl⟩
  · cases w with
    | ok => exact Or.inl ⟨rfl, rfl⟩
    | failed sent => exact Or.inr ⟨by simp, List.take_prefix _ _, rfl⟩

theorem decoderTurn_bytes_decoder (data : Bytes) (w : WriteResult) (drained : d.buf = []) :
    (decoderTurn z d (.bytes data w)).decoder = ⟨d.consumed ++ data, []⟩ := by
  unfold decoderTurn Decoder.feed
  dsimp only
  split
  · rename_i d' fed
    split at fed
    · obtain rfl := Option.some.inj fed
      rw [writeTurn_decoder]
    · cases fed
  · simp [drained]

theorem decoderTurn_drained (drained : d.buf = []) (r : WireRead) :
    (decoderTurn z d r).decoder.buf = [] := by
  cases r with
  | bytes data w => rw [decoderTurn_bytes_decoder data w drained]
  | eof w shutdown => exact congrArg Decoder.buf (writeTurn_decoder w _)
  | error => exact drained
  | timeout => exact drained

theorem decoderTurn_bytes_ne_ioError (data : Bytes) (w : WriteResult) :
    (decoderTurn z d (.bytes data w)).result ≠ some (.ok .ioError) := by
  unfold decoderTurn
  dsimp only
  split
  · rename_i d' _
    rcases writeTurn_written (d := d') w none with ⟨_, result⟩ | ⟨_, _, result⟩ <;> simp [result]
  · simp

theorem decoderTurn_eof_ne_ioError (w : WriteResult) (shutdown : Bool) :
    (decoderTurn z d (.eof w shutdown)).result ≠ some (.ok .ioError) := by
  unfold decoderTurn
  dsimp only
  rcases writeTurn_written (d := d) w (some (if shutdown then .ok .cleanEof else .error .shutdown)) with
    ⟨_, result⟩ | ⟨_, _, result⟩
  · rw [result]
    cases shutdown <;> simp
  · simp [result]

theorem decoderTurn_bytes {ops : List (Op UInt8)} {data inflight read taken : Bytes}
    (w : WriteResult) (drained : d.buf = [])
    (h : Carries z ops d.consumed (data ++ inflight) read taken) :
    ∃ out, Carries z ops (d.consumed ++ data) inflight read (taken ++ out) ∧
      (((decoderTurn z d (.bytes data w)).written = out ∧
          (decoderTurn z d (.bytes data w)).result = none) ∨
        (w ≠ .ok ∧ (decoderTurn z d (.bytes data w)).written <+: out ∧
          (decoderTurn z d (.bytes data w)).result = some (.error .writer))) := by
  obtain ⟨before, after, old, new, carried⟩ := h.feed
  refine ⟨_, carried, ?_⟩
  simp only [decoderTurn, Decoder.feed, old, new, drained, List.nil_append]
  exact writeTurn_written w none

end Decoder

/-- The end of the s2q and q2s tasks. -/
def CodecLru.settle (lru : CodecLru) (id : PairId) (pair : Ref) : TaskResult → CodecLru
  | .ok .cleanEof | .ok .ioError => lru.checkin id pair
  | .ok .timeout | .error _ => lru.modify pair .markErrored

/-- Only a clean end or an I/O error puts a pair back, and it leaves the pair as the task did. -/
theorem CodecLru.settle_put_back {lru : CodecLru} {id : PairId} {r : Ref} {result : TaskResult}
    {f : CodecPair → CodecPair} (out : lru.cache.lookup id ≠ some r)
    (back : ((lru.modify r f).settle id r result).cache.lookup id = some r) :
    (result = .ok .cleanEof ∨ result = .ok .ioError) ∧
      ((lru.modify r f).settle id r result).pairs r = f (lru.pairs r) := by
  have kept : ((lru.modify r f).checkin id r).pairs r = f (lru.pairs r) := by
    unfold checkin
    split <;> exact Function.update_self ..
  match result with
  | .ok .cleanEof => exact ⟨Or.inl rfl, kept⟩
  | .ok .ioError => exact ⟨Or.inr rfl, kept⟩
  | .ok .timeout => exact absurd back out
  | .error _ => exact absurd back out

end Rstun.Codec
