import Mathlib.Data.List.Infix

/-!
# Streaming codecs with a history

An encoder is the list of operations performed since it was fresh, together with the output not
yet taken from it; a decoder is the list of symbols it has consumed since it was fresh, together
with the output not yet taken. A `HistoryCodec` says how the two relate. The encoder may hold input
back until it is flushed, and a decoder is only promised to work on what one encoder emitted since
both were fresh.

`Carries` is the invariant of a pipeline from an encoder over a channel to a decoder. The rules
below say how each operation at either end keeps it, and what it says about the two ends.
-/

namespace Streaming

variable {β : Type}

inductive Op (β : Type) where
  | write (data : List β)
  | flush
  deriving DecidableEq

def accepted : List (Op β) → List β
  | [] => []
  | .write data :: rest => data ++ accepted rest
  | .flush :: rest => accepted rest

@[simp] theorem accepted_append (xs ys : List (Op β)) :
    accepted (xs ++ ys) = accepted xs ++ accepted ys := by
  induction xs with
  | nil => rfl
  | cons op rest ih => cases op <;> simp [accepted, ih]

@[simp] theorem accepted_write (data : List β) : accepted [Op.write data] = data := by
  simp [accepted]

@[simp] theorem accepted_flush : accepted [(Op.flush : Op β)] = [] := rfl

/-- `emit ops` is everything a fresh encoder has put out after `ops`, and `yield c` everything a
fresh decoder has put out after consuming `c`, where `none` is a decoding error. -/
structure HistoryCodec (β : Type) where
  emit : List (Op β) → List β
  yield : List β → Option (List β)
  emit_nil : emit [] = []
  emit_mono : ∀ ops op, emit ops <+: emit (ops ++ [op])
  yield_mono : ∀ c d y, yield (c ++ d) = some y → ∃ x, yield c = some x ∧ x <+: y
  yield_sound : ∀ ops c, c <+: emit ops → ∃ y, yield c = some y ∧ y <+: accepted ops
  yield_flushed : ∀ ops, yield (emit (ops ++ [.flush])) = some (accepted ops)

structure Encoder (β : Type) where
  ops : List (Op β)
  buf : List β
  deriving DecidableEq

structure Decoder (β : Type) where
  consumed : List β
  buf : List β
  deriving DecidableEq

def Encoder.fresh : Encoder β := ⟨[], []⟩

def Decoder.fresh : Decoder β := ⟨[], []⟩

/-- The symbols an encoder with history `ops` puts out for `op`. -/
def HistoryCodec.output (z : HistoryCodec β) (ops : List (Op β)) (op : Op β) : List β :=
  (z.emit (ops ++ [op])).drop (z.emit ops).length

def Encoder.apply (z : HistoryCodec β) (e : Encoder β) (op : Op β) : Encoder β :=
  { ops := e.ops ++ [op], buf := e.buf ++ z.output e.ops op }

def Encoder.take (e : Encoder β) : Encoder β × List β := ({ e with buf := [] }, e.buf)

def Decoder.feed (z : HistoryCodec β) (d : Decoder β) (chunk : List β) : Option (Decoder β) :=
  match z.yield d.consumed, z.yield (d.consumed ++ chunk) with
  | some before, some after =>
    some { consumed := d.consumed ++ chunk, buf := d.buf ++ after.drop before.length }
  | _, _ => none

def Decoder.take (d : Decoder β) : Decoder β × List β := ({ d with buf := [] }, d.buf)

namespace HistoryCodec

variable (z : HistoryCodec β)

theorem emit_output (ops : List (Op β)) (op : Op β) :
    z.emit ops ++ z.output ops op = z.emit (ops ++ [op]) :=
  List.prefix_iff_eq_append.mp (z.emit_mono ops op)

/-- Nothing that the encoder was given is still held back in it. -/
def Flushed (ops : List (Op β)) : Prop := z.yield (z.emit ops) = some (accepted ops)

instance [DecidableEq β] (ops : List (Op β)) : Decidable (z.Flushed ops) :=
  inferInstanceAs (Decidable (_ = _))

theorem flushed_nil : z.Flushed [] := by
  obtain ⟨y, read, sub⟩ := z.yield_sound [] [] (List.nil_prefix)
  rw [List.prefix_nil.mp sub] at read
  simpa [Flushed, z.emit_nil, accepted] using read

theorem flushed_flush (ops : List (Op β)) : z.Flushed (ops ++ [.flush]) := by
  simpa [Flushed] using z.yield_flushed ops

end HistoryCodec

/-- The encoder with history `ops` and the decoder that has consumed `consumed` are connected by a
channel with `inflight` on it. Since both ends were last in step, `read` was given to the encoder
and `written` was taken from the decoder. -/
structure Carries (z : HistoryCodec β) (ops : List (Op β)) (consumed inflight read written : List β) :
    Prop where
  channel : consumed ++ inflight = z.emit ops
  ends : ∃ base, accepted ops = base ++ read ∧ z.yield consumed = some (base ++ written)

namespace Carries

variable {z : HistoryCodec β} {ops : List (Op β)} {consumed inflight read written : List β}

/-- Two ends in step with each other. The encoder may still hold some of its input back, and that
will come out before anything it is given from now on. -/
theorem start (sync : consumed = z.emit ops) :
    ∃ held, Carries z ops consumed [] held [] ∧ (z.Flushed ops → held = []) := by
  obtain ⟨y, decoded, held, given⟩ := z.yield_sound ops consumed (by simp [sync])
  refine ⟨held, ⟨by simp [sync], y, given.symm, by simp [decoded]⟩, fun flushed => ?_⟩
  rw [sync, flushed, ← given] at decoded
  simpa using Option.some.inj decoded

theorem extend (h : Carries z ops consumed inflight read written) {ops' : List (Op β)}
    {out more : List β} (emits : z.emit ops' = z.emit ops ++ out)
    (takes : accepted ops' = accepted ops ++ more) :
    Carries z ops' consumed (inflight ++ out) (read ++ more) written := by
  obtain ⟨channel, base, given, taken⟩ := h
  refine ⟨?_, base, ?_, taken⟩
  · rw [emits, ← channel, List.append_assoc]
  · rw [takes, given, List.append_assoc]

theorem feed {chunk : List β} (h : Carries z ops consumed (chunk ++ inflight) read written) :
    ∃ before after, z.yield consumed = some before ∧ z.yield (consumed ++ chunk) = some after ∧
      Carries z ops (consumed ++ chunk) inflight read (written ++ after.drop before.length) := by
  obtain ⟨channel, base, given, taken⟩ := h
  rw [← List.append_assoc] at channel
  have delivered : consumed ++ chunk <+: z.emit ops := ⟨inflight, channel⟩
  obtain ⟨after, decoded, _⟩ := z.yield_sound ops _ delivered
  obtain ⟨before, same, extends_⟩ := z.yield_mono _ _ _ decoded
  obtain rfl : before = base ++ written := Option.some.inj (same.symm.trans taken)
  refine ⟨_, after, taken, decoded, channel, base, given, ?_⟩
  rw [decoded, ← List.append_assoc, List.prefix_iff_eq_append.mp extends_]

theorem prefix_read (h : Carries z ops consumed inflight read written) : written <+: read := by
  obtain ⟨channel, base, given, taken⟩ := h
  obtain ⟨y, decoded, sub⟩ := z.yield_sound ops consumed ⟨inflight, channel⟩
  obtain rfl : base ++ written = y := Option.some.inj (taken.symm.trans decoded)
  rw [given] at sub
  exact (List.prefix_append_right_inj base).mp sub

/-- Once the channel is empty and the encoder holds nothing back, everything has arrived. -/
theorem complete (h : Carries z ops consumed [] read written) (flushed : z.Flushed ops) :
    written = read := by
  obtain ⟨channel, base, given, taken⟩ := h
  rw [List.append_nil] at channel
  rw [channel, flushed, given] at taken
  exact (List.append_cancel_left (Option.some.inj taken)).symm

end Carries

/-! ### A codec that buffers until it is flushed

It puts out a header before the first block and the blocks as they are. -/

def stage : List β × List β → Op β → List β × List β
  | (out, held), .write data => (out, held ++ data)
  | (out, held), .flush => (out ++ held, [])

def stages (ops : List (Op β)) : List β × List β := ops.foldl stage ([], [])

theorem stages_snoc (ops : List (Op β)) (op : Op β) : stages (ops ++ [op]) = stage (stages ops) op := by
  simp [stages]

theorem stages_accepted (ops : List (Op β)) : (stages ops).1 ++ (stages ops).2 = accepted ops := by
  induction ops using List.reverseRecOn with
  | nil => rfl
  | append_singleton ops op ih =>
    rw [stages_snoc, accepted_append, ← ih]
    cases op <;> simp [stage]

variable [DecidableEq β]

def framedEmit (header : List β) (ops : List (Op β)) : List β :=
  if Op.flush ∈ ops then header ++ (stages ops).1 else []

def framedYield (header : List β) (c : List β) : Option (List β) :=
  if c <+: header then some [] else if header <+: c then some (c.drop header.length) else none

theorem framedYield_append (header c : List β) : framedYield header (header ++ c) = some c := by
  unfold framedYield
  split
  · rename_i short
    have : (header ++ c).length ≤ header.length := short.length_le
    simp only [List.length_append] at this
    simp [List.eq_nil_of_length_eq_zero (show c.length = 0 by omega)]
  · simp

def framed (header : List β) : HistoryCodec β where
  emit := framedEmit header
  yield := framedYield header
  emit_nil := by simp [framedEmit]
  emit_mono ops op := by
    unfold framedEmit
    split
    · rename_i started
      rw [if_pos (List.mem_append_left _ started), stages_snoc]
      cases op <;> simp [stage]
    · exact List.nil_prefix
  yield_mono c d y h := by
    unfold framedYield at h ⊢
    by_cases short : c <+: header
    · exact ⟨[], by simp [short], List.nil_prefix⟩
    · have long : ¬ c ++ d <+: header := fun all => short ((List.prefix_append c d).trans all)
      simp only [long, if_false] at h
      split at h
      · rename_i framed
        rcases List.prefix_or_prefix_of_prefix framed (List.prefix_append c d) with headed | within
        · refine ⟨c.drop header.length, by simp [short, headed], ?_⟩
          obtain ⟨rest, rfl⟩ := headed
          obtain rfl : rest ++ d = y := by simpa using h
          simp
        · exact absurd within short
      · cases h
  yield_sound ops c h := by
    unfold framedEmit at h
    split at h
    · rcases List.prefix_or_prefix_of_prefix h (List.prefix_append header _) with short | ⟨rest, rfl⟩
      · exact ⟨[], by simp [framedYield, short], List.nil_prefix⟩
      · refine ⟨rest, framedYield_append header rest, ?_⟩
        have out := (List.prefix_append_right_inj header).mp h
        rw [← stages_accepted]
        exact out.trans (List.prefix_append _ _)
    · exact ⟨[], by simp [framedYield, List.prefix_nil.mp h], List.nil_prefix⟩
  yield_flushed ops := by
    rw [framedEmit, if_pos (by simp), framedYield_append, stages_snoc, ← stages_accepted]
    rfl

end Streaming
