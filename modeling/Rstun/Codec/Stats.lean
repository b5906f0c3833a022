import Mathlib.Algebra.BigOperators.Group.List.Basic
import Mathlib.Data.UInt
import Rstun.Codec.Flow
import Rstun.Codec.Net

/-!
# The statistics of the codec

Each end of a stream counts what it reads, compresses, receives and decompresses. `run_encoder` and
`run_decoder` count before they write, so that a failed write does not show in the counters. When both of
its tasks have ended, an end adds its counters to those of its client.
-/

namespace Rstun.Codec
open Streaming Transition

inductive CodecCounter where
  | upRaw
  | upCompressed
  | downCompressed
  | downDecompressed
  deriving DecidableEq

abbrev CodecStats := CodecCounter → UInt64

namespace CodecStats

def default : CodecStats := fun _ => 0

def fetchAdd (stats : CodecStats) (k : CodecCounter) (count : Nat) : CodecStats :=
  Function.update stats k (stats k + UInt64.ofNat count)

/-- What `p` does with its counters in a turn of `run_encoder`, with the counts of that turn. -/
def sends (stats : CodecStats) (counts : Nat × Nat) : CodecStats :=
  (stats.fetchAdd .upRaw counts.1).fetchAdd .upCompressed counts.2

/-- The same for `run_decoder`. -/
def receives (stats : CodecStats) (counts : Nat × Nat) : CodecStats :=
  (stats.fetchAdd .downCompressed counts.1).fetchAdd .downDecompressed counts.2

variable {stats : CodecStats} {counts : Nat × Nat}

@[simp] theorem sends_upRaw : stats.sends counts .upRaw = stats .upRaw + UInt64.ofNat counts.1 := rfl

@[simp] theorem sends_upCompressed :
    stats.sends counts .upCompressed = stats .upCompressed + UInt64.ofNat counts.2 := rfl

@[simp] theorem sends_downCompressed : stats.sends counts .downCompressed = stats .downCompressed := rfl

@[simp] theorem sends_downDecompressed : stats.sends counts .downDecompressed = stats .downDecompressed := rfl

@[simp] theorem receives_upRaw : stats.receives counts .upRaw = stats .upRaw := rfl

@[simp] theorem receives_upCompressed : stats.receives counts .upCompressed = stats .upCompressed := rfl

@[simp] theorem receives_downCompressed :
    stats.receives counts .downCompressed = stats .downCompressed + UInt64.ofNat counts.1 := rfl

@[simp] theorem receives_downDecompressed :
    stats.receives counts .downDecompressed = stats .downDecompressed + UInt64.ofNat counts.2 := rfl

end CodecStats

/-- What `write_compressed` and `flush_encoder` take out of the encoder. -/
def produced (z : HistoryCodec UInt8) (e : Encoder UInt8) (op : Op UInt8) : Bytes := (e.apply z op).take.2

/-- What a turn of `run_encoder` adds to `up_raw` and `up_compressed`. `refused` is the length of what had been
read when the encoder failed. -/
def encoderCounts (z : HistoryCodec UInt8) (e : Encoder UInt8) (refused : Nat) : EncEvent → Nat × Nat
  | .read [] _ | .tick _ | .message [] _ _ => (0, (produced z e .flush).length)
  | .read (b :: data) _ => ((b :: data).length, (produced z e (.write (b :: data))).length)
  | .message (b :: data) w _ =>
    let first := emitTurn z e (.write (b :: data)) (b :: data) w none
    let flushed := match first.result with
      | some _ => 0
      | none => (produced z first.encoder .flush).length
    ((b :: data).length, (produced z e (.write (b :: data))).length + flushed)
  | .codecError => (refused, 0)
  | .readError | .readTimeout | .needMore | .httpError => (0, 0)

/-- What a turn of `run_decoder` adds to `down_compressed` and `down_decompressed`. -/
def decoderCounts (z : HistoryCodec UInt8) (d : Decoder UInt8) : WireRead → Nat × Nat
  | .bytes data _ => (data.length, match d.feed z data with
    | some d' => d'.take.2.length
    | none => 0)
  | .eof _ _ => (0, d.take.2.length)
  | .error | .timeout => (0, 0)

/-- What the encoder has refused in a turn. -/
def refusal (refused : Nat) : EncEvent → Nat
  | .codecError => refused
  | _ => 0

/-- A stream with the codec on at both ends. `flow p` is what `p` sends. The last field is for the record: how many
bytes the encoder of `p` has refused. -/
structure CodecStream where
  flow : Party → Flow
  stats : Party → CodecStats
  refused : Party → Nat

namespace CodecStream

def start (pairs : Party → Encoder UInt8 × Decoder UInt8) : CodecStream where
  flow p := .start (pairs p).1 (pairs p).2
  stats _ := .default
  refused _ := 0

/-- The counters after a step of `flow p`: those of `p` if it has sent something, and those of the other end if
that has received something. -/
def counted (z : HistoryCodec UInt8) (c : CodecStream) (p : Party) (refused : Nat) : FlowAction → Party → CodecStats
  | .encode ev => Function.update c.stats p ((c.stats p).sends (encoderCounts z (c.flow p).encoder refused ev))
  | .deliver count w => received (.bytes ((c.flow p).wire.take count) w)
  | .finish w shutdown => received (.eof w shutdown)
  | .readFails => received .error
  | .readTimesOut => received .timeout
where
  received (r : WireRead) : Party → CodecStats :=
    Function.update c.stats p.other ((c.stats p.other).receives (decoderCounts z (c.flow p).decoder r))

/-- The record after a step of `flow p`. -/
def noted (c : CodecStream) (p : Party) (refused : Nat) : FlowAction → Party → Nat
  | .encode ev => Function.update c.refused p (c.refused p + refusal refused ev)
  | _ => c.refused

def step (z : HistoryCodec UInt8) (c : CodecStream) (p : Party) (refused : Nat) (act : FlowAction) :
    Option CodecStream :=
  ((c.flow p).step z act).map fun f =>
    ⟨Function.update c.flow p f, c.counted z p refused act, c.noted p refused act⟩

/-- Both tasks of the end have returned. -/
def ended (c : CodecStream) (p : Party) : Bool := (c.flow p).s2q.isSome && (c.flow p.other).q2s.isSome

end CodecStream

/-- The streams between two clients. `closed p` lists those that `p` has added to its `codec_stats`. -/
structure Ledger where
  streams : Nat → CodecStream
  closed : Party → List Nat
  codecStats : Party → CodecStats

inductive LedgerAction where
  | flow (s : Nat) (p : Party) (refused : Nat) (act : FlowAction)
  | close (s : Nat) (p : Party)

namespace Ledger

def new (pairs : Nat → Party → Encoder UInt8 × Decoder UInt8) : Ledger where
  streams s := .start (pairs s)
  closed _ := []
  codecStats _ := .default

def step (z : HistoryCodec UInt8) (l : Ledger) : LedgerAction → Option Ledger
  | .flow s p refused act =>
    ((l.streams s).step z p refused act).map fun c => { l with streams := Function.update l.streams s c }
  | .close s p =>
    if s ∉ l.closed p ∧ (l.streams s).ended p = true then
      some { l with
        closed := Function.update l.closed p (s :: l.closed p)
        codecStats := Function.update l.codecStats p fun k => (l.streams s).stats p k + l.codecStats p k }
    else none

end Ledger

/-! ### What a turn counts -/

section Turns
variable {z : HistoryCodec UInt8} {e : Encoder UInt8} {d : Decoder UInt8}

theorem produced_eq (drained : e.buf = []) (op : Op UInt8) : produced z e op = z.output e.ops op := by
  simp [produced, Encoder.apply, Encoder.take, drained]

theorem length_emit (drained : e.buf = []) (op : Op UInt8) :
    (z.emit (e.ops ++ [op])).length = (z.emit e.ops).length + (produced z e op).length := by
  rw [produced_eq drained, ← z.emit_output, List.length_append]

theorem encoderCounts_compressed (drained : e.buf = []) (refused : Nat) (ev : EncEvent) :
    (z.emit (encoderTurn z e ev).encoder.ops).length =
      (z.emit e.ops).length + (encoderCounts z e refused ev).2 := by
  cases ev with
  | read data w =>
    cases data <;> simp only [encoderTurn, encoderCounts, emitTurn_encoder, length_emit drained]
  | tick w => simp only [encoderTurn, encoderCounts, emitTurn_encoder, length_emit drained]
  | message data w w' =>
    cases data with
    | nil => simp only [encoderTurn, encoderCounts, emitTurn_encoder, length_emit drained]
    | cons b data =>
      simp only [encoderTurn, encoderCounts]
      cases (emitTurn z e (.write (b :: data)) (b :: data) w none).result with
      | some result => simp only [emitTurn_encoder, length_emit drained, Nat.add_zero]
      | none =>
        rw [emitTurn_encoder, emitTurn_encoder, length_emit rfl, length_emit drained, Nat.add_assoc]
  | readError | readTimeout | needMore | httpError | codecError => rfl

theorem encoderCounts_raw (refused : Nat) (ev : EncEvent) :
    (encoderCounts z e refused ev).1 = (encoderTurn z e ev).read.length + refusal refused ev ∧
    ((encoderTurn z e ev).result ≠ some (.error .codec) → refusal refused ev = 0) := by
  cases ev with
  | read data w =>
    cases data <;> simp [encoderTurn, encoderCounts, emitTurn_read, refusal]
  | tick w => simp [encoderTurn, encoderCounts, emitTurn_read, refusal]
  | message data w w' =>
    cases data with
    | nil => simp [encoderTurn, encoderCounts, emitTurn_read, refusal]
    | cons b data =>
      simp only [encoderTurn, encoderCounts]
      cases (emitTurn z e (.write (b :: data)) (b :: data) w none).result <;> simp [emitTurn_read, refusal]
  | readError | readTimeout | needMore | httpError => simp [encoderTurn, encoderCounts, refusal]
  | codecError => simp [encoderTurn, encoderCounts, refusal]

theorem decoderCounts_compressed (drained : d.buf = []) (r : WireRead) :
    ∃ got, (decoderTurn z d r).decoder.consumed = d.consumed ++ got ∧ got.length = (decoderCounts z d r).1 := by
  cases r with
  | bytes data w => exact ⟨data, by rw [decoderTurn_bytes_decoder data w drained], rfl⟩
  | eof w shutdown => exact ⟨[], by rw [decoderTurn, writeTurn_decoder, List.append_nil], rfl⟩
  | error | timeout => exact ⟨[], by rw [decoderTurn, List.append_nil], rfl⟩

/-- What the decoder puts out is what its yield grows by. -/
theorem decoderCounts_decompressed (drained : d.buf = []) (r : WireRead) {before after : Bytes}
    (old : z.yield d.consumed = some before) (yields : z.yield (decoderTurn z d r).decoder.consumed = some after) :
    ∃ put, after = before ++ put ∧ put.length = (decoderCounts z d r).2 := by
  cases r with
  | bytes data w =>
    rw [decoderTurn_bytes_decoder data w drained] at yields
    obtain ⟨before', old', put, rfl⟩ := z.yield_mono _ _ _ yields
    obtain rfl := Option.some.inj (old.symm.trans old')
    refine ⟨put, rfl, ?_⟩
    simp only [decoderCounts, Decoder.feed, old, yields, drained, Decoder.take, List.nil_append, List.drop_left]
  | eof w shutdown =>
    rw [decoderTurn, writeTurn_decoder, old] at yields
    exact ⟨[], by simpa using yields.symm, by simp [decoderCounts, Decoder.take, drained]⟩
  | error | timeout =>
    rw [decoderTurn, old] at yields
    exact ⟨[], by simpa using yields.symm, rfl⟩

end Turns

/-! ### What the counters of a direction stand for -/

/-- What has gone through a direction since it began with `e` and `d`: `sent` has come out of the encoder, `got` has
gone into the decoder and `put` has come out of it. -/
structure Passed (z : HistoryCodec UInt8) (e : Encoder UInt8) (d : Decoder UInt8) (f : Flow) (sent got put : Bytes) :
    Prop where
  emitted : z.emit f.encoder.ops = z.emit e.ops ++ sent
  consumed : f.decoder.consumed = d.consumed ++ got
  yielded : ∃ before, z.yield d.consumed = some before ∧ z.yield f.decoder.consumed = some (before ++ put)

/-- The counters of both ends for such a direction. -/
structure Counts (z : HistoryCodec UInt8) (e : Encoder UInt8) (d : Decoder UInt8) (f : Flow) (refused : Nat)
    (up down : CodecStats) : Prop where
  sound : ∃ lost taken, f.Sound z [] lost taken
  given : accepted f.encoder.ops = accepted e.ops ++ f.read
  refuses : f.s2q ≠ some (.error .codec) → refused = 0
  raw : up .upRaw = .ofNat (f.read.length + refused)
  passed : ∃ sent got put, Passed z e d f sent got put ∧ up .upCompressed = .ofNat sent.length ∧
    down .downCompressed = .ofNat got.length ∧ down .downDecompressed = .ofNat put.length

/-- The counters are the lengths of what has gone through, and what has arrived is the first part of what was sent.
As long as the counters of the sender have not wrapped around, those of the receiver are no larger. -/
structure Balanced (z : HistoryCodec UInt8) (e : Encoder UInt8) (d : Decoder UInt8) (f : Flow) (refused : Nat)
    (up down : CodecStats) (sent got put : Bytes) : Prop extends Passed z e d f sent got put where
  upRaw : up .upRaw = .ofNat (f.read.length + refused)
  upCompressed : up .upCompressed = .ofNat sent.length
  downCompressed : down .downCompressed = .ofNat got.length
  downDecompressed : down .downDecompressed = .ofNat put.length
  refuses : f.s2q ≠ some (.error .codec) → refused = 0
  arrives : got <+: sent
  reproduces : put <+: f.read
  compressed : sent.length < UInt64.size → down .downCompressed ≤ up .upCompressed
  decompressed : f.read.length + refused < UInt64.size → down .downDecompressed ≤ up .upRaw

theorem ofNat_le_ofNat {a b : Nat} (le : a ≤ b) (fits : b < UInt64.size) : UInt64.ofNat a ≤ UInt64.ofNat b :=
  (UInt64.ofNat_le_iff_le (Nat.lt_of_le_of_lt le fits) fits).mpr le

namespace Counts
variable {z : HistoryCodec UInt8} {e : Encoder UInt8} {d : Decoder UInt8} {f : Flow} {refused : Nat}
  {up down up' down' : CodecStats}

theorem congr (counts : Counts z e d f refused up down) (raw : up' .upRaw = up .upRaw)
    (compressed : up' .upCompressed = up .upCompressed) (received : down' .downCompressed = down .downCompressed)
    (decompressed : down' .downDecompressed = down .downDecompressed) : Counts z e d f refused up' down' where
  sound := counts.sound
  given := counts.given
  refuses := counts.refuses
  raw := raw.trans counts.raw
  passed := by
    rw [compressed, received, decompressed]
    exact counts.passed

theorem start (ready : Flow.InSync z e d) : Counts z e d (.start e d) 0 .default .default where
  sound := by
    have started : run (Flow.step z) (.start e d) [] = some (.start e d) := rfl
    obtain ⟨held, sound, nothing⟩ := Flow.run_sound started ready.toInStep
    rwa [nothing (by rw [HistoryCodec.Flushed, ← ready.history, ready.reproduced])] at sound
  given := (List.append_nil _).symm
  refuses _ := rfl
  raw := rfl
  passed := by
    refine ⟨[], [], [], ⟨(List.append_nil _).symm, (List.append_nil _).symm, accepted e.ops, ready.reproduced, ?_⟩,
      rfl, rfl, rfl⟩
    rw [List.append_nil]
    exact ready.reproduced

theorem encode (counts : Counts z e d f refused up down) (running : f.s2q = none) (more : Nat) (ev : EncEvent) :
    Counts z e d (f.encode z ev) (refused + refusal more ev) (up.sends (encoderCounts z f.encoder more ev)) down := by
  obtain ⟨lost, taken, sound⟩ := counts.sound
  obtain ⟨unsent, turn⟩ := encoderTurn_transmits (z := z) sound.drainedEncoder ev
  obtain ⟨read, spared⟩ := encoderCounts_raw (z := z) (e := f.encoder) more ev
  refine ⟨?_, ?_, fun sane => ?_, ?_, ?_⟩
  · obtain ⟨lost, sound⟩ := Flow.sound_encode sound running ev
    exact ⟨lost, taken, sound⟩
  · simp only [Flow.encode, turn.takes, counts.given, List.append_assoc]
  · rw [counts.refuses (by simp [running]), spared sane]
  · rw [CodecStats.sends_upRaw, counts.raw, ← UInt64.ofNat_add, read]
    simp only [Flow.encode, List.length_append]
    congr 1
    omega
  · obtain ⟨sent, got, put, passed, compressed, received⟩ := counts.passed
    have length := encoderCounts_compressed (z := z) sound.drainedEncoder more ev
    rw [turn.emits, List.length_append, Nat.add_left_cancel_iff] at length
    refine ⟨sent ++ ((encoderTurn z f.encoder ev).out ++ unsent), got, put, ⟨?_, passed.consumed, passed.yielded⟩, ?_,
      received⟩
    · simp only [Flow.encode]
      rw [turn.emits, passed.emitted, List.append_assoc]
    · rw [CodecStats.sends_upCompressed, compressed, ← UInt64.ofNat_add, ← length, ← List.length_append]

theorem decode {rest : Bytes} {r : WireRead} (counts : Counts z e d f refused up down)
    (sound : ∃ lost taken, (f.decode z rest r).Sound z [] lost taken) :
    Counts z e d (f.decode z rest r) refused up (down.receives (decoderCounts z f.decoder r)) := by
  obtain ⟨_, _, before⟩ := counts.sound
  have ⟨_, _, after⟩ := sound
  obtain ⟨sent, got, put, passed, compressed, received, decompressed⟩ := counts.passed
  obtain ⟨first, began, old⟩ := passed.yielded
  obtain ⟨_, _, yields⟩ := after.carries.ends
  obtain ⟨taken, consumed, taking⟩ := decoderCounts_compressed (z := z) before.drainedDecoder r
  obtain ⟨putting, grown, length⟩ := decoderCounts_decompressed before.drainedDecoder r old yields
  refine ⟨sound, counts.given, counts.refuses, counts.raw, sent, got ++ taken, put ++ putting,
    ⟨passed.emitted, ?_, first, began, ?_⟩, compressed, ?_, ?_⟩
  · simp only [Flow.decode]
    rw [consumed, passed.consumed, List.append_assoc]
  · rw [← List.append_assoc, ← grown]
    exact yields
  · rw [CodecStats.receives_downCompressed, received, ← UInt64.ofNat_add, ← taking, List.length_append]
  · rw [CodecStats.receives_downDecompressed, decompressed, ← UInt64.ofNat_add, ← length, List.length_append]

/-- What has arrived is the first part of what was sent, and all of it once the direction has come to a clean end. -/
theorem agree {sent got put : Bytes} (counts : Counts z e d f refused up down) (ready : Flow.InSync z e d)
    (passed : Passed z e d f sent got put) :
    got <+: sent ∧ put <+: f.read ∧
      (f.s2q = some (.ok .cleanEof) → f.q2s = some (.ok .cleanEof) → got = sent ∧ put = f.read) := by
  obtain ⟨lost, taken, sound⟩ := counts.sound
  obtain ⟨before, began, yields⟩ := passed.yielded
  obtain rfl := Option.some.inj (began.symm.trans ready.reproduced)
  have channel := sound.carries.channel
  have onWire : got ++ (f.wire ++ lost) = sent := by
    rwa [passed.consumed, passed.emitted, ← ready.history, List.append_assoc, List.append_cancel_left_eq] at channel
  obtain ⟨y, yields', sub⟩ := z.yield_sound f.encoder.ops f.decoder.consumed ⟨_, channel⟩
  obtain rfl := Option.some.inj (yields.symm.trans yields')
  rw [counts.given, List.prefix_append_right_inj] at sub
  refine ⟨⟨_, onWire⟩, sub, fun sent arrived => ?_⟩
  obtain rfl : lost = [] := sound.fails.resolve_right (by simp [sent])
  have empty := (sound.delivered arrived).1
  rw [empty, List.append_nil, List.append_nil] at channel onWire
  have flushed := sound.flushed sent
  rw [HistoryCodec.Flushed, ← channel, yields, counts.given, Option.some.injEq, List.append_cancel_left_eq] at flushed
  exact ⟨onWire, flushed⟩

theorem balanced (counts : Counts z e d f refused up down) (ready : Flow.InSync z e d) :
    ∃ sent got put, Balanced z e d f refused up down sent got put := by
  obtain ⟨sent, got, put, passed, upCompressed, downCompressed, downDecompressed⟩ := counts.passed
  obtain ⟨arrives, reproduces, _⟩ := counts.agree ready passed
  refine ⟨sent, got, put, passed, counts.raw, upCompressed, downCompressed, downDecompressed, counts.refuses, arrives,
    reproduces, fun fits => ?_, fun fits => ?_⟩
  · rw [downCompressed, upCompressed]
    exact ofNat_le_ofNat arrives.length_le fits
  · rw [downDecompressed, counts.raw]
    exact ofNat_le_ofNat (reproduces.length_le.trans (Nat.le_add_right ..)) fits

end Counts

/-! ### Both ends -/

namespace CodecStream
variable {z : HistoryCodec UInt8} {pairs : Party → Encoder UInt8 × Decoder UInt8} {c c' : CodecStream} {p q : Party}

def CountsAt (z : HistoryCodec UInt8) (pairs : Party → Encoder UInt8 × Decoder UInt8) (c : CodecStream) (p : Party) :
    Prop :=
  Counts z (pairs p).1 (pairs p).2 (c.flow p) (c.refused p) (c.stats p) (c.stats p.other)

/-- The sender has made a turn, or the receiver has. -/
theorem step_cases {refused : Nat} {act : FlowAction} (h : c.step z p refused act = some c') :
    (∃ ev, (c.flow p).s2q = none ∧ c' = ⟨Function.update c.flow p ((c.flow p).encode z ev),
        Function.update c.stats p ((c.stats p).sends (encoderCounts z (c.flow p).encoder refused ev)),
        Function.update c.refused p (c.refused p + refusal refused ev)⟩) ∨
    (∃ rest r, (c.flow p).q2s = none ∧ (c.flow p).step z act = some ((c.flow p).decode z rest r) ∧
      c' = ⟨Function.update c.flow p ((c.flow p).decode z rest r), Function.update c.stats p.other
        ((c.stats p.other).receives (decoderCounts z (c.flow p).decoder r)), c.refused⟩) := by
  obtain ⟨f, ran, rfl⟩ := Option.map_eq_some_iff.mp h
  have stepped := ran
  cases act with
  | encode ev =>
    simp only [Flow.step, Option.ite_none_right_eq_some, Option.some.injEq] at ran
    obtain ⟨running, rfl⟩ := ran
    exact .inl ⟨ev, running, rfl⟩
  | deliver | finish =>
    simp only [Flow.step, Option.ite_none_right_eq_some, Option.some.injEq] at ran
    obtain ⟨⟨running, _⟩, rfl⟩ := ran
    exact .inr ⟨_, _, running, stepped, rfl⟩
  | readFails | readTimesOut =>
    simp only [Flow.step, Option.ite_none_right_eq_some, Option.some.injEq] at ran
    obtain ⟨running, rfl⟩ := ran
    exact .inr ⟨_, _, running, stepped, rfl⟩

theorem step_counts {refused : Nat} {act : FlowAction} (counts : ∀ q, c.CountsAt z pairs q)
    (h : c.step z p refused act = some c') (q : Party) : c'.CountsAt z pairs q := by
  obtain ⟨ev, running, rfl⟩ | ⟨rest, r, _, stepped, rfl⟩ := step_cases h
  · rcases p.eq_or_other q with rfl | rfl
    · simpa [CountsAt] using (counts q).encode running refused ev
    · refine Counts.congr (by simpa [CountsAt] using counts p.other) ?_ ?_ ?_ ?_ <;> simp
  · obtain ⟨_, _, before⟩ := (counts p).sound
    rcases p.eq_or_other q with rfl | rfl
    · simpa [CountsAt, q.other_ne.symm] using (counts q).decode (Flow.step_sound before stepped)
    · refine Counts.congr (by simpa [CountsAt] using counts p.other) ?_ ?_ ?_ ?_ <;> simp [p.other_ne.symm]

theorem ended_iff : c.ended p = true ↔ (c.flow p).s2q ≠ none ∧ (c.flow p.other).q2s ≠ none := by
  rw [ended, Bool.and_eq_true, Option.isSome_iff_ne_none, Option.isSome_iff_ne_none]

/-- An end that has ended counts nothing any more, whatever the other one still does. -/
theorem step_ended {refused : Nat} {act : FlowAction} (h : c.step z q refused act = some c')
    (before : c.ended p = true) : c'.stats p = c.stats p ∧ c'.ended p = true := by
  rw [ended_iff] at before ⊢
  obtain ⟨ev, running, rfl⟩ | ⟨rest, r, running, _, rfl⟩ := step_cases h
  · rcases p.eq_or_other q with rfl | rfl
    · exact absurd running before.1
    · simpa [p.other_ne.symm, Flow.encode] using before
  · rcases p.eq_or_other q with rfl | rfl
    · simpa [q.other_ne.symm, Flow.decode] using before
    · exact absurd running before.2

end CodecStream

namespace Ledger
variable {z : HistoryCodec UInt8} {pairs : Nat → Party → Encoder UInt8 × Decoder UInt8} {l l' : Ledger}

structure Held (z : HistoryCodec UInt8) (pairs : Nat → Party → Encoder UInt8 × Decoder UInt8) (l : Ledger) : Prop where
  counts : ∀ s p, (l.streams s).CountsAt z (pairs s) p
  ended : ∀ p, ∀ s ∈ l.closed p, (l.streams s).ended p = true
  sums : ∀ p k, l.codecStats p k = ((l.closed p).map fun s => (l.streams s).stats p k).sum

theorem new_held (ready : ∀ s p, Flow.InSync z (pairs s p).1 (pairs s p).2) : (new pairs).Held z pairs where
  counts s p := Counts.start (ready s p)
  ended p s closed := by simp [new] at closed
  sums p k := rfl

theorem step_held {act : LedgerAction} (held : l.Held z pairs) (h : l.step z act = some l') : l'.Held z pairs := by
  cases act with
  | flow s p refused act =>
    obtain ⟨c, ran, rfl⟩ := Option.map_eq_some_iff.mp h
    have quiet : ∀ q, ∀ t ∈ l.closed q, (Function.update l.streams s c t).stats q = (l.streams t).stats q ∧
        (Function.update l.streams s c t).ended q = true := by
      intro q t closed
      by_cases same : t = s
      · subst same
        rw [Function.update_self]
        exact CodecStream.step_ended ran (held.ended q t closed)
      · rw [Function.update_of_ne same]
        exact ⟨rfl, held.ended q t closed⟩
    refine ⟨fun t => ?_, fun q t closed => (quiet q t closed).2, fun q k => ?_⟩
    · by_cases same : t = s
      · subst same
        simpa using CodecStream.step_counts (held.counts t) ran
      · simpa [same] using held.counts t
    · rw [held.sums q k]
      exact congrArg List.sum (List.map_congr_left fun t closed => by rw [(quiet q t closed).1])
  | close s p =>
    simp only [step, Option.ite_none_right_eq_some, Option.some.injEq] at h
    obtain ⟨⟨_, ended⟩, rfl⟩ := h
    refine ⟨held.counts, fun q t closed => ?_, fun q k => ?_⟩
    · by_cases same : q = p
      · subst same
        simp only [Function.update_self] at closed
        rcases List.mem_cons.mp closed with rfl | old
        · exact ended
        · exact held.ended q t old
      · simp only [Function.update_of_ne same] at closed
        exact held.ended q t closed
    · by_cases same : q = p
      · subst same
        simp [held.sums q k]
      · simp [same, held.sums q k]

/-- The stream has come to a clean end in both directions. -/
def Clean (c : CodecStream) : Prop :=
  ∀ p, (c.flow p).s2q = some (.ok .cleanEof) ∧ (c.flow p).q2s = some (.ok .cleanEof)

theorem Held.equal {s : Nat} (held : l.Held z pairs) (ready : ∀ s p, Flow.InSync z (pairs s p).1 (pairs s p).2)
    (clean : Clean (l.streams s)) (p : Party) :
    (l.streams s).stats p .upRaw = (l.streams s).stats p.other .downDecompressed ∧
    (l.streams s).stats p .upCompressed = (l.streams s).stats p.other .downCompressed := by
  have counts := held.counts s p
  obtain ⟨sent, got, put, passed, upCompressed, downCompressed, downDecompressed⟩ := counts.passed
  obtain ⟨_, _, ends⟩ := counts.agree (ready s p) passed
  obtain ⟨rfl, rfl⟩ := ends (clean p).1 (clean p).2
  rw [counts.raw, counts.refuses (by simp [(clean p).1]), upCompressed, downCompressed, downDecompressed]
  exact ⟨rfl, rfl⟩

/-- The counters of the two ends of a direction balance at all times. The totals of a client are the sums over the
streams that it has closed, and those of two clients that have closed the same streams, all of them cleanly, are
the same: what one has compressed the other has decompressed. -/
theorem totals_agree {acts : List LedgerAction} (ready : ∀ s p, Flow.InSync z (pairs s p).1 (pairs s p).2)
    (h : run (step z) (new pairs) acts = some l) :
    (∀ s p, ∃ sent got put, Balanced z (pairs s p).1 (pairs s p).2 ((l.streams s).flow p) ((l.streams s).refused p)
      ((l.streams s).stats p) ((l.streams s).stats p.other) sent got put) ∧
    (∀ p k, l.codecStats p k = ((l.closed p).map fun s => (l.streams s).stats p k).sum) ∧
    ((l.closed .left).Perm (l.closed .right) → (∀ s ∈ l.closed .left, Clean (l.streams s)) → ∀ p,
      l.codecStats p .upRaw = l.codecStats p.other .downDecompressed ∧
      l.codecStats p .upCompressed = l.codecStats p.other .downCompressed) := by
  have held : l.Held z pairs := run_invariant (fun _ _ _ => step_held) (new_held ready) h
  refine ⟨fun s p => (held.counts s p).balanced (ready s p), held.sums, fun same clean p => ?_⟩
  have closed : (l.closed p).Perm (l.closed p.other) := by
    cases p with
    | left => exact same
    | right => exact same.symm
  have equal : ∀ s ∈ l.closed p.other, _ := fun s member =>
    held.equal ready (clean s (by cases p <;> simpa [Party.other, same.mem_iff] using member)) p
  simp only [held.sums]
  rw [(closed.map _).sum_eq, (closed.map _).sum_eq]
  exact ⟨congrArg List.sum (List.map_congr_left fun s member => (equal s member).1),
    congrArg List.sum (List.map_congr_left fun s member => (equal s member).2)⟩

/-- The stream of `chat`, with nothing but the end of the stream in the other direction. -/
def chatClosed : List LedgerAction :=
  Flow.chat.map (.flow 0 .left 0) ++
    [.flow 0 .right 0 (.encode (.read [] .ok)), .flow 0 .right 0 (.deliver 4 .ok), .flow 0 .right 0 (.finish .ok true),
      .close 0 .left, .close 0 .right]

theorem totals_agree_chat :
    ∃ l, run (step (framed Flow.magic)) (new fun _ _ => (.fresh, .fresh)) chatClosed = some l ∧
    l.codecStats .left .upRaw = 3 ∧ l.codecStats .right .downDecompressed = 3 ∧
    l.codecStats .left .upCompressed = l.codecStats .right .downCompressed := by
  obtain ⟨l, ran, left, right, s2q, q2s, back, forth, raw⟩ := run_reaches
    (P := fun l : Ledger => l.closed .left = [0] ∧ l.closed .right = [0] ∧
      ((l.streams 0).flow .left).s2q = some (.ok .cleanEof) ∧ ((l.streams 0).flow .left).q2s = some (.ok .cleanEof) ∧
      ((l.streams 0).flow .right).s2q = some (.ok .cleanEof) ∧ ((l.streams 0).flow .right).q2s = some (.ok .cleanEof) ∧
      l.codecStats .left .upRaw = 3)
    (show (run (step (framed Flow.magic)) (new fun _ _ => (.fresh, .fresh)) chatClosed).any _ = true by decide +kernel)
  obtain ⟨_, _, agree⟩ := totals_agree (fun _ _ => Flow.inSync_fresh) ran
  obtain ⟨same, compressed⟩ := agree (by rw [left, right]) (by
    intro s member p
    rw [left, List.mem_singleton] at member
    subst member
    cases p with
    | left => exact ⟨s2q, q2s⟩
    | right => exact ⟨back, forth⟩) .left
  exact ⟨l, ran, raw, same.symm.trans raw, compressed⟩

end Ledger
end Rstun.Codec
