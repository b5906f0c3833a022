import Rstun.Codec.Flow
import Rstun.Http.Messages

/-!
# The HTTP mode of the encoder

With `http_aware` set, `run_encoder` puts an `HttpMessageReader` before the encoder and flushes it after
each message. A call of `read_message` keeps what it has read in the reader, so that it can be taken apart
into the reads that it waits for.
-/

namespace Rstun.Codec
open Streaming Transition
open Rstun.Http (Httparse HttpMessageReader HttpMessage Read Outcome)

/-- `arrived` is for the record: the bytes that the local stream has given so far. -/
structure HttpFlow where
  reader : HttpMessageReader
  flow : Flow
  arrived : Bytes

/-- A call of `read_message` goes on with some reads, and what it returns is encoded, or the encoder fails.
Or something happens at the other end. -/
inductive HttpFlowAction where
  | read (reads : List Read) (w w' : WriteResult)
  | encoderFails (reads : List Read)
  | wire (act : FlowAction)

namespace HttpFlow

def start (e : Encoder UInt8) (d : Decoder UInt8) : HttpFlow := ⟨.new, .start e d, []⟩

/-- All reads are used up. If they are not enough, the call waits for more. -/
def read (h : Httparse) (checks : Bool) (z : HistoryCodec UInt8) (f : HttpFlow) (reads : List Read)
    (encoded : Bytes → EncEvent) : Option HttpFlow :=
  let arrived := f.arrived ++ reads.flatMap Read.bytes
  if f.flow.s2q = none then
    match f.reader.readMessage h checks reads with
    | (.message data, reader, []) => some ⟨reader, f.flow.encode z (encoded data), arrived⟩
    | (.failed _, reader, []) => some ⟨reader, f.flow.encode z .httpError, arrived⟩
    | (.pending, reader, []) => some ⟨reader, f.flow, arrived⟩
    | _ => none
  else none

def step (h : Httparse) (checks : Bool) (z : HistoryCodec UInt8) (f : HttpFlow) : HttpFlowAction → Option HttpFlow
  | .read reads w w' => f.read h checks z reads fun data => .message data w w'
  | .encoderFails reads => f.read h checks z reads fun _ => .codecError
  | .wire (.encode _) => none
  | .wire act => (f.flow.step z act).map fun flow => { f with flow := flow }

/-! ### What a step does -/

variable {h : Httparse} {checks : Bool} {z : HistoryCodec UInt8} {f g : HttpFlow} {reads : List Read}
  {encoded : Bytes → EncEvent}

/-- A call has returned a message or has failed, or it waits. -/
theorem read_cases (hs : f.read h checks z reads encoded = some g) :
    f.flow.s2q = none ∧ g.arrived = f.arrived ++ reads.flatMap Read.bytes ∧
    ∃ outcome, HttpMessageReader.Calls h checks f.reader reads outcome g.reader [] ∧
      ((∃ data, outcome = .message data ∧ g.flow = f.flow.encode z (encoded data)) ∨
      ((∃ err, outcome = .failed err) ∧ g.flow = f.flow.encode z .httpError) ∨
      (outcome = .pending ∧ g.flow = f.flow)) := by
  have call := HttpMessageReader.readMessage_calls h checks f.reader reads
  unfold read at hs
  dsimp only at hs
  split at hs
  case isFalse => cases hs
  rename_i running
  split at hs <;> cases hs
  · rename_i data reader returned
    rw [returned] at call
    exact ⟨running, rfl, _, call, .inl ⟨data, rfl, rfl⟩⟩
  · rename_i err reader returned
    rw [returned] at call
    exact ⟨running, rfl, _, call, .inr (.inl ⟨⟨err, rfl⟩, rfl⟩)⟩
  · rename_i reader returned
    rw [returned] at call
    exact ⟨running, rfl, _, call, .inr (.inr ⟨rfl, rfl⟩)⟩

end HttpFlow

/-- The other end does not touch what the encoder has. -/
theorem Flow.step_other {z : HistoryCodec UInt8} {f g : Flow} {act : FlowAction} (other : ∀ ev, act ≠ .encode ev)
    (hs : f.step z act = some g) : g.encoder = f.encoder ∧ g.read = f.read ∧ g.s2q = f.s2q := by
  cases act with
  | encode ev => exact absurd rfl (other ev)
  | deliver | finish | readFails | readTimesOut =>
    simp only [Flow.step, Option.ite_none_right_eq_some, Option.some.injEq] at hs
    obtain ⟨_, rfl⟩ := hs
    exact ⟨rfl, rfl, rfl⟩

/-- A turn that does not end the task has taken a message and has flushed the encoder. -/
theorem encoderTurn_message {z : HistoryCodec UInt8} {e : Encoder UInt8} (data : Bytes) (w w' : WriteResult) :
    (encoderTurn z e (.message data w w')).read = data ∧
    ((encoderTurn z e (.message data w w')).result = none → data ≠ [] ∧
      z.Flushed (encoderTurn z e (.message data w w')).encoder.ops) := by
  cases data with
  | nil =>
    refine ⟨emitTurn_read _ _ _ _, fun running => ?_⟩
    simp only [encoderTurn, emitTurn] at running
    split at running
    · cases running
    · cases w <;> cases running
  | cons b data =>
    simp only [encoderTurn]
    split
    · rename_i ended
      exact ⟨emitTurn_read _ _ _ _, fun running => by rw [ended] at running; cases running⟩
    · refine ⟨emitTurn_read _ _ _ _, fun _ => ⟨List.cons_ne_nil _ _, ?_⟩⟩
      dsimp only
      rw [emitTurn_encoder]
      exact z.flushed_flush _

namespace HttpFlow

variable {h : Httparse} {checks : Bool} {z : HistoryCodec UInt8} {f g : HttpFlow} {reads : List Read}

/-- What the encoder was given, and what is still in the reader. If the encoder has failed, the last message
is lost with it. -/
structure Sound (z : HistoryCodec UInt8) (f : HttpFlow) : Prop where
  flow : ∃ lost taken, f.flow.Sound z [] lost taken
  flushed : f.flow.s2q = none → z.Flushed f.flow.encoder.ops
  arrived : ∃ dropped, f.flow.read ++ dropped ++ f.reader.buf = f.arrived ∧ (f.flow.s2q = none → dropped = [])

/-- The bytes of a call that goes on with some reads. -/
theorem calls_bytes {r s : HttpMessageReader} {outcome : Outcome}
    (call : HttpMessageReader.Calls h checks r reads outcome s []) :
    r.buf ++ reads.flatMap Read.bytes = outcome.data ++ s.buf := by
  obtain ⟨taken, split, bytes⟩ := call.conserves.bytes
  rw [List.append_nil] at split
  rw [split, bytes]

theorem read_sound {encoded : Bytes → EncEvent} (sound : f.Sound z) (hs : f.read h checks z reads encoded = some g)
    (takes : ∀ data, encoded data = .codecError ∨ ∃ w w', encoded data = .message data w w') : g.Sound z := by
  obtain ⟨running, arrived, outcome, call, returned⟩ := read_cases hs
  obtain ⟨lost, taken, flow⟩ := sound.flow
  obtain ⟨dropped, before, nothing⟩ := sound.arrived
  obtain rfl := nothing running
  rw [List.append_nil] at before
  have bytes := calls_bytes call
  have all : f.flow.read ++ (outcome.data ++ g.reader.buf) = g.arrived := by
    rw [arrived, ← before, ← bytes, List.append_assoc]
  rcases returned with ⟨data, rfl, same⟩ | ⟨⟨err, rfl⟩, same⟩ | ⟨rfl, same⟩
  · obtain ⟨lost', flow'⟩ := Flow.sound_encode flow running (encoded data)
    rw [← same] at flow'
    rcases takes data with fails | ⟨w, w', message⟩
    · rw [fails] at same
      have ended : g.flow.s2q ≠ none := by simp [same, Flow.encode, encoderTurn]
      refine ⟨⟨_, _, flow'⟩, fun running => absurd running ended, data, ?_, fun running => absurd running ended⟩
      rw [← all, same]
      simp [Flow.encode, encoderTurn, Outcome.data]
    · rw [message] at same
      obtain ⟨read, flushes⟩ := encoderTurn_message (z := z) (e := f.flow.encoder) data w w'
      refine ⟨⟨_, _, flow'⟩, fun goes => ?_, [], ?_, fun _ => rfl⟩
      · rw [same] at goes ⊢
        exact (flushes goes).2
      · rw [← all, same]
        simp [Flow.encode, read, Outcome.data]
  · obtain ⟨lost', flow'⟩ := Flow.sound_encode flow running .httpError
    rw [← same] at flow'
    have ended : g.flow.s2q ≠ none := by simp [same, Flow.encode, encoderTurn]
    refine ⟨⟨_, _, flow'⟩, fun running => absurd running ended, [], ?_, fun _ => rfl⟩
    rw [← all, same]
    simp [Flow.encode, encoderTurn, Outcome.data]
  · refine ⟨⟨lost, taken, same ▸ flow⟩, fun _ => ?_, [], ?_, fun _ => rfl⟩
    · rw [same]
      exact sound.flushed running
    · rw [← all, same]
      simp [Outcome.data]

theorem step_wire {act : FlowAction} (hs : f.step h checks z (.wire act) = some g) :
    ∃ flow, f.flow.step z act = some flow ∧
      (flow.encoder = f.flow.encoder ∧ flow.read = f.flow.read ∧ flow.s2q = f.flow.s2q) ∧
      { f with flow := flow } = g := by
  cases act with
  | encode ev => cases hs
  | deliver | finish | readFails | readTimesOut =>
    obtain ⟨flow, stepped, same⟩ := Option.map_eq_some_iff.mp hs
    exact ⟨flow, stepped, Flow.step_other (fun ev other => by cases other) stepped, same⟩

theorem step_sound {act : HttpFlowAction} (sound : f.Sound z) (hs : f.step h checks z act = some g) : g.Sound z := by
  cases act with
  | read reads w w' => exact read_sound sound hs fun data => .inr ⟨w, w', rfl⟩
  | encoderFails reads => exact read_sound sound hs fun _ => .inl rfl
  | wire act =>
    obtain ⟨flow, stepped, ⟨encoder, read, s2q⟩, rfl⟩ := step_wire hs
    obtain ⟨lost, taken, flowSound⟩ := sound.flow
    refine ⟨Flow.step_sound flowSound stepped, ?_, ?_⟩
    · rw [s2q, encoder]
      exact sound.flushed
    · rw [s2q, read]
      exact sound.arrived

theorem start_sound {e : Encoder UInt8} {d : Decoder UInt8} (ready : Flow.InSync z e d) : (start e d).Sound z := by
  have flushed : z.Flushed e.ops := by rw [HistoryCodec.Flushed, ← ready.history, ready.reproduced]
  have idle : run (Flow.step z) (Flow.start e d) [] = some (Flow.start e d) := rfl
  obtain ⟨held, sound, nothing⟩ := Flow.run_sound idle ready.toInStep
  obtain rfl := nothing flushed
  exact ⟨sound, fun _ => flushed, [], rfl, fun _ => rfl⟩

theorem run_sound {e : Encoder UInt8} {d : Decoder UInt8} {acts : List HttpFlowAction}
    (ready : Flow.InSync z e d) (ran : run (step h checks z) (start e d) acts = some f) : f.Sound z :=
  run_invariant (fun _ _ _ => step_sound) (start_sound ready) ran

/-! ### Streams of messages -/

/-- As long as what arrives is a part of a stream of messages, a call returns the next one of them, or nothing. -/
theorem calls_next {r s : HttpMessageReader} {outcome : Outcome} {rest : List Read} {messages : List (HttpMessage h)}
    (call : HttpMessageReader.Calls h checks r reads outcome s rest) (running : r.drainMode = false)
    (stream : r.buf ++ reads.flatMap Read.bytes <+: messages.flatMap HttpMessage.bytes) :
    s.drainMode = false ∧
      (outcome.data = [] ∨ ∃ m later, messages = m :: later ∧ outcome.data = m.bytes) := by
  induction call with
  | @parsed r s result outcome reads _ parsed returns =>
    obtain ⟨more, stream⟩ := stream
    rw [List.append_assoc] at stream
    cases messages with
    | nil =>
      obtain ⟨empty, _⟩ := List.append_eq_nil_iff.mp stream
      rw [HttpMessageReader.tryParse, if_pos empty] at parsed
      cases parsed
      cases returns
    | cons m later =>
      rw [List.flatMap_cons] at stream
      by_cases short : r.buf.length < m.bytes.length
      · rw [HttpMessageReader.tryParse_part stream short] at parsed
        cases parsed
        cases returns
      · obtain ⟨buf, whole⟩ : m.bytes <+: r.buf := by
          have front : m.bytes <+: r.buf ++ (reads.flatMap Read.bytes ++ more) := by
            rw [stream]
            exact List.prefix_append _ _
          exact List.prefix_of_prefix_length_le front (List.prefix_append _ _) (Nat.le_of_not_lt short)
        rw [HttpMessageReader.tryParse_whole whole.symm] at parsed
        cases parsed
        cases returns
        exact ⟨running, .inr ⟨m, later, rfl, rfl⟩⟩
  | flushed draining _ | passed draining _ =>
    rw [running] at draining
    cases draining
  | @stopped r read rest _ nothing =>
    refine ⟨running, .inl ?_⟩
    cases read with
    | data chunk => exact absurd nothing chunk.nonempty
    | eof =>
      simp only [HttpMessageReader.stopped]
      split <;> rfl
    | error | timeout => rfl
  | waits _ => exact ⟨running, .inl rfl⟩
  | @extended r s chunk reads rest outcome _ _ _ ih =>
    apply ih running
    rw [List.flatMap_cons, ← List.append_assoc] at stream
    exact stream

/-- What the encoder was given are the first of the messages. -/
def Cut (messages : List (HttpMessage h)) (f : HttpFlow) : Prop :=
  f.flow.s2q = none → f.arrived <+: messages.flatMap HttpMessage.bytes →
    f.reader.drainMode = false ∧
    ∃ done later, messages = done ++ later ∧ f.flow.read = done.flatMap HttpMessage.bytes

theorem read_cut {messages : List (HttpMessage h)} {encoded : Bytes → EncEvent} (sound : f.Sound z)
    (cut : f.Cut messages) (hs : f.read h checks z reads encoded = some g)
    (takes : ∀ data, encoded data = .codecError ∨ ∃ w w', encoded data = .message data w w') : g.Cut messages := by
  obtain ⟨running, arrived, outcome, call, returned⟩ := read_cases hs
  intro goes stream
  rw [arrived] at stream
  obtain ⟨undrained, done, later, split, read⟩ := cut running ((List.prefix_append _ _).trans stream)
  obtain ⟨dropped, before, nothing⟩ := sound.arrived
  obtain rfl := nothing running
  rw [List.append_nil, read] at before
  have behind : f.reader.buf ++ reads.flatMap Read.bytes <+: later.flatMap HttpMessage.bytes := by
    rw [← before, split, List.flatMap_append, List.append_assoc] at stream
    exact (List.prefix_append_right_inj _).mp stream
  obtain ⟨still, next⟩ := calls_next call undrained behind
  refine ⟨still, ?_⟩
  rcases returned with ⟨data, rfl, same⟩ | ⟨_, same⟩ | ⟨_, same⟩
  · rcases takes data with fails | ⟨w, w', message⟩
    · rw [same, fails] at goes
      simp [Flow.encode, encoderTurn] at goes
    · rw [message] at same
      obtain ⟨taken, continues⟩ := encoderTurn_message (z := z) (e := f.flow.encoder) data w w'
      have some : data ≠ [] := by
        rw [same] at goes
        exact (continues goes).1
      rcases next with empty | ⟨m, rest, rfl, whole⟩
      · exact absurd empty some
      · refine ⟨done ++ [m], rest, by simp [split], ?_⟩
        have given : data = m.bytes := whole
        rw [same]
        show f.flow.read ++ (encoderTurn z f.flow.encoder (.message data w w')).read = _
        rw [taken, read, given]
        simp
  · rw [same] at goes
    simp [Flow.encode, encoderTurn] at goes
  · refine ⟨done, later, split, ?_⟩
    rw [same, read]

theorem step_cut {act : HttpFlowAction} {messages : List (HttpMessage h)} (sound : f.Sound z)
    (cut : f.Cut messages) (hs : f.step h checks z act = some g) : g.Cut messages := by
  cases act with
  | read reads w w' => exact read_cut sound cut hs fun data => .inr ⟨w, w', rfl⟩
  | encoderFails reads => exact read_cut sound cut hs fun _ => .inl rfl
  | wire act =>
    obtain ⟨flow, _, ⟨_, read, s2q⟩, rfl⟩ := step_wire hs
    intro goes stream
    rw [s2q] at goes
    rw [read]
    exact cut goes stream

theorem run_cut {e : Encoder UInt8} {d : Decoder UInt8} {acts : List HttpFlowAction} (ready : Flow.InSync z e d)
    (ran : run (step h checks z) (start e d) acts = some f) (messages : List (HttpMessage h)) : f.Cut messages := by
  have both : f.Sound z ∧ f.Cut messages := by
    refine run_invariant (I := fun f => f.Sound z ∧ f.Cut messages) ?_ ⟨start_sound ready, ?_⟩ ran
    · intro f act g before stepped
      exact ⟨step_sound before.1 stepped, step_cut before.1 before.2 stepped⟩
    · intro _ _
      exact ⟨rfl, [], messages, rfl, rfl⟩
  exact both.2

/-- What is on the way, and what has come out of the decoder, is what the encoder was given. -/
theorem Sound.written (sound : f.Sound z) : f.flow.written <+: f.flow.read ∧
    (f.flow.s2q = none → f.flow.q2s = none → f.flow.wire = [] → f.flow.written = f.flow.read) := by
  obtain ⟨lost, taken, flow⟩ := sound.flow
  have carried := flow.carries
  rw [List.nil_append] at carried
  constructor
  · rcases flow.writes with ⟨all, _⟩ | ⟨part, _⟩
    · rw [all]
      exact carried.prefix_read
    · exact part.trans carried.prefix_read
  · intro running receiving delivered
    obtain rfl : lost = [] := flow.fails.resolve_right (by simp [running])
    obtain ⟨all, _⟩ := flow.writes.resolve_right (by simp [receiving])
    rw [delivered, List.append_nil] at carried
    rw [all]
    exact carried.complete (sound.flushed running)

/-- When everything on the wire has been delivered, the other end has put out all that has arrived but for
what the reader holds. On a stream of messages that is the part of a message that is not complete, once the
reader waits for more. -/
theorem messages_prompt {e : Encoder UInt8} {d : Decoder UInt8} {acts : List HttpFlowAction}
    (ready : Flow.InSync z e d) (ran : run (step h checks z) (start e d) acts = some f) :
    f.flow.written <+: f.arrived ∧
    (f.flow.s2q = none → f.flow.q2s = none → f.flow.wire = [] →
      f.flow.written ++ f.reader.buf = f.arrived ∧
      ∀ messages : List (HttpMessage h), f.arrived <+: messages.flatMap HttpMessage.bytes →
        f.reader.Asks h checks → ∃ done later, messages = done ++ later ∧
          f.flow.written = done.flatMap HttpMessage.bytes ∧
          ∀ m ∈ later.head?, f.arrived.length < f.flow.written.length + m.bytes.length) := by
  have sound := run_sound ready ran
  obtain ⟨dropped, arrived, nothing⟩ := sound.arrived
  obtain ⟨part, whole⟩ := sound.written
  constructor
  · rw [← arrived, List.append_assoc]
    exact part.trans (List.prefix_append _ _)
  · intro running receiving delivered
    obtain rfl := nothing running
    rw [List.append_nil] at arrived
    have all := whole running receiving delivered
    rw [all]
    refine ⟨arrived, fun messages stream asks => ?_⟩
    obtain ⟨undrained, done, later, split, read⟩ := run_cut ready ran messages running stream
    refine ⟨done, later, split, read, fun m first => ?_⟩
    obtain ⟨rest, rfl⟩ : ∃ rest, later = m :: rest := List.head?_eq_some_iff.mp first
    by_contra complete
    -- A complete message in the buffer would have been returned.
    obtain ⟨more, stream⟩ := stream
    rw [← arrived, read, split, List.flatMap_append, List.append_assoc, List.flatMap_cons] at stream
    have behind := List.append_cancel_left stream
    have front : m.bytes <+: f.reader.buf := by
      have prefixes : m.bytes <+: f.reader.buf ++ more := by
        rw [behind]
        exact List.prefix_append _ _
      refine List.prefix_of_prefix_length_le prefixes (List.prefix_append _ _) ?_
      have total := congrArg List.length arrived
      rw [List.length_append] at total
      omega
    obtain ⟨buf, held⟩ := front
    rcases asks with ⟨draining, _⟩ | ⟨_, asks⟩
    · rw [undrained] at draining
      cases draining
    · rw [HttpMessageReader.tryParse_whole held.symm] at asks
      cases asks

open Http.HttpMessageReader (putMessage getMessage)

/-- One message and the beginning of the next one arrive together. -/
def requests : Http.Chunk := ⟨putMessage.bytes ++ getMessage.bytes.take 10, by decide +kernel, by decide +kernel⟩

def requestsRun : List HttpFlowAction :=
  [.read [.data requests] .ok .ok, .read [] .ok .ok, .wire (.deliver 30 .ok), .wire (.deliver 27 .ok)]

theorem messages_prompt_requests : ∃ f,
    run (step Http.lineParser false (framed Flow.magic)) (start .fresh .fresh) requestsRun = some f ∧
    f.flow.written ++ f.reader.buf = requests.bytes ∧
    ∃ done later, [putMessage, getMessage] = done ++ later ∧ f.flow.written = done.flatMap HttpMessage.bytes ∧
      ∀ m ∈ later.head?, f.arrived.length < f.flow.written.length + m.bytes.length := by
  obtain ⟨f, ran, running, receiving, delivered, arrived, undrained, buf⟩ := run_reaches
    (P := fun f : HttpFlow => f.flow.s2q = none ∧ f.flow.q2s = none ∧ f.flow.wire = [] ∧
      f.arrived = requests.bytes ∧ f.reader.drainMode = false ∧ f.reader.buf = getMessage.bytes.take 10)
    (show (run (step Http.lineParser false (framed Flow.magic)) (start .fresh .fresh) requestsRun).any _ = true by
      decide +kernel)
  obtain ⟨all, complete⟩ := (messages_prompt Flow.inSync_fresh ran).2 running receiving delivered
  have asks : f.reader.tryParse Http.lineParser false = (.needMore, f.reader) := by
    have part : f.reader.buf ++ getMessage.bytes.drop 10 = getMessage.bytes ++ [] := by
      rw [buf, List.take_append_drop, List.append_nil]
    refine HttpMessageReader.tryParse_part part ?_
    rw [buf]
    decide +kernel
  rw [arrived] at all
  refine ⟨f, ran, all, complete [putMessage, getMessage] ?_ (.inr ⟨undrained, asks⟩)⟩
  rw [arrived]
  decide +kernel

end HttpFlow

end Rstun.Codec
