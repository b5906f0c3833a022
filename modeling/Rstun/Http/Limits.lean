import Mathlib.Tactic.IntervalCases
import Rstun.Http.Framing

/-!
# The limits of the HTTP reader

How much the reader buffers before it returns, and when it rejects a header block for its size. The size
is compared while the end of the block has not been seen yet, so that the answer depends on where the reads
end. A block that `httparse` does not find complete is never judged again.
-/

namespace Rstun.Http
open Rstun.Tunnel

variable {h : Httparse} {checks : Bool} {buf : Bytes}

/-! ### Waiting for more data -/

/-- The end of the header block is there, and `httparse` asks for more nevertheless. -/
def Stalled (h : Httparse) (buf : Bytes) : Prop :=
  ∃ headerEnd, findHeaderEnd buf = some headerEnd ∧ h.parseHeaders (buf.take headerEnd) = .ok none

theorem Stalled.append (stalled : Stalled h buf) (more : Bytes) : Stalled h (buf ++ more) := by
  obtain ⟨headerEnd, ends, asks⟩ := stalled
  refine ⟨headerEnd, findHeaderEnd_append ends more, ?_⟩
  rwa [List.take_append_of_le_length (findHeaderEnd_bounds ends).2]

/-- The buffer has at most one read more than the limit for headers, or than the message that it begins
with. -/
def Bounded (h : Httparse) (buf : Bytes) : Prop :=
  buf.length ≤ maxHeaderSize + readSize ∨
    ∃ headerEnd headers c, Accepted h buf headerEnd headers ∧ contentLength headers = some c ∧
      headerEnd + c < usizeBound ∧ buf.length ≤ headerEnd + c + readSize

namespace HttpMessageReader

variable {r s : HttpMessageReader}

/-- Once the end of the header block is there, the reader waits for the body alone. -/
def Progresses (h : Httparse) (checks : Bool) (r : HttpMessageReader) : Prop :=
  ∀ headerEnd, findHeaderEnd r.buf = some headerEnd → r.tryParse h checks = (.needMore, r) →
    ∃ headers c, Accepted h r.buf headerEnd headers ∧ contentLength headers = some c ∧
      ∀ more, headerEnd + c ≤ (r.buf ++ more).length →
        ({ r with buf := r.buf ++ more }.tryParse h checks).1 = .message ((r.buf ++ more).take (headerEnd + c))

/-- The three reasons to ask for more data. -/
theorem tryParse_asks (asks : r.tryParse h checks = (.needMore, r)) :
    findHeaderEnd r.buf = none ∧ r.buf.length ≤ maxHeaderSize ∨ Stalled h r.buf ∨
      ∃ headerEnd headers c, Accepted h r.buf headerEnd headers ∧ contentLength headers = some c ∧
        headerEnd + c < usizeBound ∧ r.buf.length < headerEnd + c := by
  cases found : findHeaderEnd r.buf with
  | none =>
    rw [tryParse_none found] at asks
    split at asks
    · cases asks
    · rename_i small
      exact .inl ⟨rfl, Nat.le_of_not_lt small⟩
  | some headerEnd =>
    cases parses : h.parseHeaders (r.buf.take headerEnd) with
    | error err =>
      rw [tryParse_some found, parses] at asks
      cases asks
    | ok parsed =>
      cases parsed with
      | none => exact .inr (.inl ⟨headerEnd, found, parses⟩)
      | some headers =>
        have accepted : Accepted h r.buf headerEnd headers := ⟨found, parses⟩
        have bounds := findHeaderEnd_bounds found
        cases known : contentLength headers with
        | none =>
          rw [tryParse_unknown accepted known] at asks
          cases asks
        | some c =>
          refine .inr (.inr ⟨headerEnd, headers, c, accepted, known, ?_⟩)
          by_cases fits : headerEnd + c < usizeBound
          · refine ⟨fits, ?_⟩
            rw [tryParse_fits accepted known fits] at asks
            split at asks
            · assumption
            · cases asks
          · rcases tryParse_overflow accepted known fits with panicked | ⟨_, _, parsed⟩
            · rw [asks] at panicked
              cases panicked
            · rw [asks] at parsed
              cases parsed

theorem progresses_iff : Progresses h checks r ↔ ¬ Stalled h r.buf := by
  constructor
  · rintro progresses ⟨headerEnd, ends, asks⟩
    have parsed : r.tryParse h checks = (.needMore, r) := by
      rw [tryParse_some ends, asks]
    obtain ⟨headers, c, accepted, _⟩ := progresses headerEnd ends parsed
    rw [accepted.parses] at asks
    cases asks
  · intro moves headerEnd ends asks
    rcases tryParse_asks asks with ⟨missing, _⟩ | stalled | ⟨headerEnd', headers, c, accepted, known, fits, _⟩
    · rw [ends] at missing
      cases missing
    · exact absurd stalled moves
    · obtain rfl : headerEnd = headerEnd' := Option.some.inj (ends.symm.trans accepted.ends)
      refine ⟨headers, c, accepted, known, fun more enough => ?_⟩
      rw [tryParse_fits (r := { r with buf := r.buf ++ more }) (accepted.append more) known fits,
        if_neg (Nat.not_lt_of_le enough)]

/-- The buffer grows by one read when the reader waits, and only then. -/
theorem bounded_extend (asks : r.Asks h checks) (moves : ¬ Stalled h r.buf) (chunk : Chunk) :
    Bounded h (r.extend chunk).buf := by
  have read := chunk.bounded
  have grown : (r.extend chunk).buf.length = r.buf.length + chunk.bytes.length := List.length_append
  rcases asks with ⟨_, empty⟩ | ⟨_, asks⟩
  · rw [empty, List.length_nil] at grown
    exact .inl (by omega)
  · rcases tryParse_asks asks with ⟨_, small⟩ | stalled | ⟨headerEnd, headers, c, accepted, known, fits, short⟩
    · exact .inl (by omega)
    · exact absurd stalled moves
    · exact .inr ⟨headerEnd, headers, c, accepted.append _, known, fits, by omega⟩

theorem bounded_tryParse {result : ParseResult} (bounded : Bounded h r.buf)
    (parsed : r.tryParse h checks = (result, s)) : Bounded h s.buf := by
  rcases bounded with small | ⟨headerEnd, headers, c, accepted, known, fits, long⟩
  · have took := tryParse_takes h checks r
    rw [parsed] at took
    refine .inl ?_
    have conserved : result.data.length + s.buf.length = r.buf.length := by
      rw [← List.length_append]
      exact congrArg List.length took.data_append
    omega
  · rw [tryParse_fits accepted known fits] at parsed
    split at parsed
    · cases parsed
      exact .inr ⟨headerEnd, headers, c, accepted, known, fits, long⟩
    · cases parsed
      refine .inl ?_
      rw [List.length_drop]
      omega

theorem Calls.bounded {reads rest : List Read} {outcome : Outcome} (call : Calls h checks r reads outcome s rest)
    (before : Stalled h r.buf ∨ Bounded h r.buf) : Stalled h s.buf ∨ Bounded h s.buf := by
  have empty : Bounded h [] := .inl (Nat.zero_le _)
  induction call with
  | parsed _ parsed returns =>
    rcases before with ⟨headerEnd, ends, asks⟩ | bounded
    · rw [tryParse_some ends, asks] at parsed
      cases parsed
      cases returns
    · exact .inr (bounded_tryParse bounded parsed)
  | flushed _ _ => exact .inr empty
  | passed _ _ | stopped _ _ | waits _ => exact before
  | @extended r _ chunk _ _ _ running asks _ ih =>
    refine ih ?_
    by_cases stalled : Stalled h r.buf
    · exact .inl (stalled.append _)
    · exact .inr (bounded_extend (.inr ⟨running, asks⟩) stalled chunk)

theorem readMessages_bounded (count : Nat) (reads : List Read) (before : Stalled h r.buf ∨ Bounded h r.buf) :
    Stalled h (r.readMessages h checks count reads).2.1.buf ∨
      Bounded h (r.readMessages h checks count reads).2.1.buf := by
  induction count generalizing r reads with
  | zero => exact before
  | succ count ih =>
    have after := (readMessage_calls h checks r reads).bounded before
    simp only [readMessages]
    split
    · exact ih _ after
    · exact after

/-- The reader waits for the body alone, and its buffer is bounded, if and only if `httparse` has not asked
for more data behind the end of the header block. -/
theorem progresses_bounded_iff (h : Httparse) (checks : Bool) (count : Nat) (reads : List Read) :
    let reader := (new.readMessages h checks count reads).2.1
    (Progresses h checks reader ↔ ¬ Stalled h reader.buf) ∧
    (¬ Stalled h reader.buf → Bounded h reader.buf ∧
      (reader.Asks h checks → ∀ chunk, Bounded h (reader.extend chunk).buf)) := by
  refine ⟨progresses_iff, fun moves => ⟨?_, fun asks => bounded_extend asks moves⟩⟩
  have start : Bounded h new.buf := .inl (Nat.zero_le _)
  exact (readMessages_bounded count reads (.inr start)).resolve_left moves

/-- What the documentation of `httparse` says about empty lines in front of a message. -/
structure SkipsEmptyLines (h : Httparse) : Prop where
  blank : ∃ version headers, h.request [] = .ok ⟨.incomplete, version, headers⟩
  skips : ∀ block, h.request (13 :: 10 :: block) = h.request block

theorem stalled_of_blank (documented : SkipsEmptyLines h) (more : Bytes) : Stalled h (crlfCrlf ++ more) := by
  have alone : Stalled h crlfCrlf := by
    refine ⟨4, by decide +kernel, ?_⟩
    obtain ⟨version, headers, blank⟩ := documented.blank
    have request : h.request crlfCrlf = .ok ⟨.incomplete, version, headers⟩ := by
      rw [crlfCrlf, documented.skips, documented.skips, blank]
    show h.parseHeaders crlfCrlf = _
    rw [Httparse.parseHeaders, request]
  exact alone.append more

/-- A stalled reader takes whatever comes. -/
theorem readMessage_stalled (running : r.drainMode = false) (stalled : Stalled h r.buf) (chunks : List Chunk) :
    Calls h checks r (chunks.map .data) .pending ⟨r.buf ++ chunks.flatMap Chunk.bytes, false⟩ [] := by
  have asks : ∀ {t : HttpMessageReader}, Stalled h t.buf → t.tryParse h checks = (.needMore, t) := by
    rintro t ⟨headerEnd, ends, asks⟩
    rw [tryParse_some ends, asks]
  induction chunks generalizing r with
  | nil =>
    obtain ⟨buf, drainMode⟩ := r
    cases running
    rw [List.flatMap_nil, List.append_nil]
    exact .waits (.inr ⟨rfl, asks stalled⟩)
  | cons chunk later ih =>
    refine .extended running (asks stalled) ?_
    rw [List.flatMap_cons, ← List.append_assoc]
    exact ih (r := r.extend chunk) running (stalled.append _)

theorem skipsEmptyLines_lineParser : SkipsEmptyLines lineParser where
  blank := ⟨none, [], rfl⟩
  skips _ := by simp [lineParser, lines]

/-- After two line ends the buffer can be made as large as one likes, one read after the other. -/
theorem buffer_unbounded : SkipsEmptyLines lineParser ∧
    ∀ checks size, ∃ reads : List Read,
      (new.readMessage lineParser checks reads).1 = .pending ∧
      Stalled lineParser (new.readMessage lineParser checks reads).2.1.buf ∧
      ¬ Progresses lineParser checks (new.readMessage lineParser checks reads).2.1 ∧
      size ≤ (new.readMessage lineParser checks reads).2.1.buf.length := by
  refine ⟨skipsEmptyLines_lineParser, fun checks size => ?_⟩
  let first : Chunk := ⟨crlfCrlf, by decide, by decide⟩
  let zero : Chunk := ⟨[0], by decide, by decide⟩
  have begins : new.tryParse lineParser checks = (.needMore, new) := if_pos rfl
  have stalled := stalled_of_blank skipsEmptyLines_lineParser
  have call : Calls lineParser checks new ((first :: List.replicate size zero).map .data) .pending
      ⟨crlfCrlf ++ (List.replicate size zero).flatMap Chunk.bytes, false⟩ [] :=
    .extended rfl begins (readMessage_stalled rfl (stalled []) _)
  refine ⟨(first :: List.replicate size zero).map .data, ?_⟩
  rw [call.eq]
  refine ⟨rfl, stalled _, fun progresses => progresses_iff.mp progresses (stalled _), ?_⟩
  simp [List.flatMap_replicate, zero]

/-! ### The size of the header block -/

/-- The first call rejects the stream because its header block is too long. -/
def RejectsForSize (h : Httparse) (checks : Bool) (chunks : List Chunk) (tail : List Read) : Prop :=
  (new.readMessage h checks (chunks.map .data ++ tail)).1 = .failed .headerTooLarge

theorem parseHeaders_error {block : Bytes} {err : HttpError} (failed : h.parseHeaders block = .error err) :
    err ≠ .headerTooLarge := by
  rintro rfl
  unfold Httparse.parseHeaders at failed
  split at failed
  · split at failed <;> cases failed
  · cases failed
  · split at failed
    · split at failed
      · split at failed <;> cases failed
      · cases failed
    · cases failed
    · cases failed

/-- Behind the end of the header block nothing is rejected for its size. -/
theorem Calls.accepts_size {reads rest : List Read} {outcome : Outcome} {headerEnd : Nat}
    (call : Calls h checks r reads outcome s rest) (running : r.drainMode = false)
    (ends : findHeaderEnd r.buf = some headerEnd) : outcome ≠ .failed .headerTooLarge := by
  induction call with
  | @parsed _ _ result _ _ _ parsed returns =>
    rintro rfl
    have failed : result = .failed .headerTooLarge := by
      cases result <;> cases returns
      rfl
    rw [tryParse_some ends, failed] at parsed
    split at parsed
    · rename_i err failed
      cases parsed
      exact parseHeaders_error failed rfl
    · cases parsed
    · split at parsed
      · split at parsed
        · cases parsed
        · split at parsed <;> cases parsed
      · cases parsed
  | flushed draining _ | passed draining _ => simp [running] at draining
  | @stopped _ read _ _ _ =>
    cases read with
    | eof =>
      simp only [HttpMessageReader.stopped]
      split <;> simp
    | data _ | error | timeout => simp [HttpMessageReader.stopped]
  | waits _ => simp
  | extended _ _ _ ih => exact ih running (findHeaderEnd_append ends _)

/-- One of the reads ends behind the limit and within the header block. -/
def CutsBehindLimit (buf : Bytes) (chunks : List Chunk) (headerEnd : Nat) : Prop :=
  ∃ k, maxHeaderSize < (buf ++ (chunks.take k).flatMap Chunk.bytes).length ∧
    (buf ++ (chunks.take k).flatMap Chunk.bytes).length < headerEnd

theorem not_cutsBehindLimit {chunks : List Chunk} {headerEnd : Nat} (within : headerEnd ≤ buf.length) :
    ¬ CutsBehindLimit buf chunks headerEnd := by
  rintro ⟨k, _, short⟩
  rw [List.length_append] at short
  omega

theorem cutsBehindLimit_cons {chunk : Chunk} {later : List Chunk} {headerEnd : Nat}
    (small : ¬ buf.length > maxHeaderSize) :
    CutsBehindLimit buf (chunk :: later) headerEnd ↔ CutsBehindLimit (buf ++ chunk.bytes) later headerEnd := by
  constructor
  · rintro ⟨k, large, short⟩
    cases k with
    | zero => exact absurd (by simpa using large) small
    | succ k => exact ⟨k, by simpa using large, by simpa using short⟩
  · rintro ⟨k, large, short⟩
    exact ⟨k + 1, by simpa using large, by simpa using short⟩

/-- A header block is rejected for its size if and only if a read ends behind the limit and within the
block. -/
theorem rejects_iff {chunks : List Chunk} {tail : List Read} {headerEnd : Nat} (running : r.drainMode = false)
    (ends : findHeaderEnd (r.buf ++ chunks.flatMap Chunk.bytes) = some headerEnd) :
    (r.readMessage h checks (chunks.map .data ++ tail)).1 = .failed .headerTooLarge ↔
      CutsBehindLimit r.buf chunks headerEnd := by
  induction chunks generalizing r with
  | nil =>
    rw [List.flatMap_nil, List.append_nil] at ends
    exact iff_of_false ((readMessage_calls h checks r _).accepts_size running ends)
      (not_cutsBehindLimit (findHeaderEnd_bounds ends).2)
  | cons chunk later ih =>
    have found := findHeaderEnd_of_append ends
    by_cases within : headerEnd ≤ r.buf.length
    · rw [if_pos within] at found
      exact iff_of_false ((readMessage_calls h checks r _).accepts_size running found)
        (not_cutsBehindLimit within)
    rw [if_neg within] at found
    by_cases large : r.buf.length > maxHeaderSize
    · have call : Calls h checks r ((chunk :: later).map .data ++ tail) (.failed .headerTooLarge) r _ :=
        .parsed running (tryParse_none found) (by rw [if_pos large]; rfl)
      refine iff_of_true (by rw [call.eq]) ⟨0, ?_, ?_⟩
      · simpa using large
      · simpa using within
    · have asks : r.tryParse h checks = (.needMore, r) := by
        rw [tryParse_none found, if_neg large]
      have step : r.readMessage h checks ((chunk :: later).map .data ++ tail) =
          (r.extend chunk).readMessage h checks (later.map .data ++ tail) :=
        (Calls.extended running asks (readMessage_calls h checks (r.extend chunk) _)).eq
      rw [step, cutsBehindLimit_cons large]
      refine ih (r := r.extend chunk) running ?_
      rw [← ends, List.flatMap_cons, ← List.append_assoc]
      rfl

/-- If the stream goes on beyond the limit, some read ends at most one read behind it. -/
theorem exists_cut (chunks : List Chunk) (small : ¬ buf.length > maxHeaderSize)
    (long : maxHeaderSize < (buf ++ chunks.flatMap Chunk.bytes).length) :
    CutsBehindLimit buf chunks (maxHeaderSize + readSize + 1) := by
  induction chunks generalizing buf with
  | nil => exact absurd (by simpa using long) small
  | cons chunk later ih =>
    rw [cutsBehindLimit_cons small]
    by_cases large : (buf ++ chunk.bytes).length > maxHeaderSize
    · have read := chunk.bounded
      refine ⟨0, by simpa using large, ?_⟩
      simp only [List.take_zero, List.flatMap_nil, List.append_nil, List.length_append]
      omega
    · exact ih large (by simpa using long)

/-- A stream that is read byte by byte. -/
def single (b : UInt8) : Chunk := ⟨[b], by simp, by simp [readSize]⟩

theorem flatMap_single (bytes : Bytes) : (bytes.map single).flatMap Chunk.bytes = bytes := by
  induction bytes with
  | nil => rfl
  | cons b rest ih =>
    rw [List.map_cons, List.flatMap_cons, ih]
    rfl

theorem length_reads_le (chunks : List Chunk) : (chunks.flatMap Chunk.bytes).length ≤ chunks.length * readSize := by
  induction chunks with
  | nil => simp
  | cons chunk rest ih =>
    have bounded := chunk.bounded
    rw [List.flatMap_cons, List.length_append, List.length_cons, Nat.add_one_mul]
    omega

theorem cuts_single {stream : Bytes} {headerEnd : Nat} (within : headerEnd ≤ stream.length)
    (large : maxHeaderSize + 1 < headerEnd) : CutsBehindLimit [] (stream.map single) headerEnd := by
  refine ⟨maxHeaderSize + 1, ?_⟩
  rw [← List.map_take, flatMap_single, List.nil_append, List.length_take]
  omega

/-- One read may bring the bytes from the limit to the end of the block. -/
theorem exists_not_cutting {stream : Bytes} {headerEnd : Nat} (within : headerEnd ≤ stream.length)
    (large : maxHeaderSize < headerEnd) (small : headerEnd ≤ maxHeaderSize + readSize) :
    ∃ chunks : List Chunk, chunks.flatMap Chunk.bytes = stream ∧ ¬ CutsBehindLimit [] chunks headerEnd := by
  obtain ⟨before, rest, rfl, full⟩ : ∃ before rest, stream = before ++ rest ∧ before.length = maxHeaderSize :=
    ⟨_, _, (List.take_append_drop maxHeaderSize stream).symm, by rw [List.length_take]; omega⟩
  rw [List.length_append] at within
  obtain ⟨last, later, rfl, length⟩ : ∃ last later, rest = last ++ later ∧ last.length = headerEnd - maxHeaderSize :=
    ⟨_, _, (List.take_append_drop (headerEnd - maxHeaderSize) rest).symm, by rw [List.length_take]; omega⟩
  let chunk : Chunk := ⟨last, by rw [← List.length_pos_iff]; omega, by omega⟩
  refine ⟨before.map single ++ chunk :: later.map single, ?_, ?_⟩
  · rw [List.flatMap_append, List.flatMap_cons, flatMap_single, flatMap_single]
  · rintro ⟨k, behind, short⟩
    rw [List.nil_append, List.take_append, List.flatMap_append, List.length_append, ← List.map_take,
      flatMap_single, List.length_take, List.length_map, full] at behind short
    -- The read that gets behind the limit is the one that ends with the block.
    cases past : k - maxHeaderSize with
    | zero =>
      rw [past, List.take_zero, List.flatMap_nil, List.length_nil] at behind
      omega
    | succ j =>
      rw [past, List.take_succ_cons, List.flatMap_cons, List.length_append, length] at short
      omega

theorem rejectsForSize_iff {stream : Bytes} {headerEnd : Nat} (ends : findHeaderEnd stream = some headerEnd)
    {chunks : List Chunk} {tail : List Read} (split : chunks.flatMap Chunk.bytes = stream) :
    RejectsForSize h checks chunks tail ↔ CutsBehindLimit [] chunks headerEnd :=
  rejects_iff (r := new) rfl (by rw [← ends, ← split]; rfl)

/-- The limit is exact for all splits into reads if and only if the block does not exceed it, or does by
more than a read. The splits agree also on a block that is one byte too long: none of them rejects it. -/
theorem size_verdict_iff (h : Httparse) (checks : Bool) {stream : Bytes} {headerEnd : Nat}
    (ends : findHeaderEnd stream = some headerEnd) :
    ((∀ chunks tail, chunks.flatMap Chunk.bytes = stream →
        (RejectsForSize h checks chunks tail ↔ maxHeaderSize < headerEnd)) ↔
      headerEnd ≤ maxHeaderSize ∨ maxHeaderSize + readSize < headerEnd) ∧
    ((∀ chunks tail chunks' tail', chunks.flatMap Chunk.bytes = stream → chunks'.flatMap Chunk.bytes = stream →
        (RejectsForSize h checks chunks tail ↔ RejectsForSize h checks chunks' tail')) ↔
      headerEnd ≤ maxHeaderSize + 1 ∨ maxHeaderSize + readSize < headerEnd) := by
  have within := (findHeaderEnd_bounds ends).2
  have always : ∀ {chunks : List Chunk}, maxHeaderSize + readSize < headerEnd →
      chunks.flatMap Chunk.bytes = stream → CutsBehindLimit [] chunks headerEnd := by
    intro chunks large split
    have cut : CutsBehindLimit [] chunks (maxHeaderSize + readSize + 1) := by
      refine exists_cut chunks (by simp) ?_
      rw [List.nil_append, split]
      omega
    obtain ⟨k, behind, short⟩ := cut
    exact ⟨k, behind, by omega⟩
  have never : ∀ {chunks : List Chunk}, headerEnd ≤ maxHeaderSize + 1 → ¬ CutsBehindLimit [] chunks headerEnd := by
    rintro chunks small ⟨k, behind, short⟩
    omega
  constructor
  · constructor
    · intro exact
      by_contra between
      obtain ⟨chunks, split, uncut⟩ := exists_not_cutting within (by omega) (by omega)
      have rejected := (exact chunks [] split).mpr (by omega)
      exact uncut ((rejectsForSize_iff ends split).mp rejected)
    · rintro (small | large) chunks tail split
      · exact iff_of_false (fun rejected => never (by omega) ((rejectsForSize_iff ends split).mp rejected)) (by omega)
      · exact iff_of_true ((rejectsForSize_iff ends split).mpr (always large split)) (by omega)
  · constructor
    · intro agree
      by_contra between
      obtain ⟨chunks, split, uncut⟩ := exists_not_cutting within (by omega) (by omega)
      have bytewise := flatMap_single stream
      have cut := cuts_single within (by omega)
      have rejected := (agree chunks [] (stream.map single) [] split bytewise).mpr
        ((rejectsForSize_iff ends bytewise).mpr cut)
      exact uncut ((rejectsForSize_iff ends split).mp rejected)
    · rintro (small | large) chunks tail chunks' tail' split split'
      · rw [rejectsForSize_iff ends split, rejectsForSize_iff ends split']
        exact iff_of_false (never small) (never small)
      · rw [rejectsForSize_iff ends split, rejectsForSize_iff ends split']
        exact iff_of_true (always large split) (always large split')

/-- `GET / HTTP/1.1` and the begin of a field. -/
def requestStart : Bytes :=
  [71, 69, 84, 32, 47, 32, 72, 84, 84, 80, 47, 49, 46, 49, 13, 10, 120, 58, 32]

theorem findHeaderEnd_requestStart (n : Nat) :
    findHeaderEnd (requestStart ++ (List.replicate n 97 ++ crlfCrlf)) = some (n + 23) := by
  have first : Scan.position crlfCrlf (requestStart ++ (List.replicate n 97 ++ crlfCrlf)) = some (19 + n) := by
    refine Scan.position_eq_some_iff.mpr ⟨by simp [requestStart]; omega, ?_, fun j before occurs => ?_⟩
    · rw [show 19 + n = requestStart.length + n from rfl, ← List.drop_drop, List.drop_left]
      simp
    -- The only line end before the last one is followed by the field.
    rcases Nat.lt_or_ge j 19 with early | late
    · unfold requestStart crlfCrlf at occurs
      interval_cases j <;> simp at occurs
    · obtain ⟨i, rfl⟩ := Nat.exists_eq_add_of_le late
      obtain ⟨k, more⟩ : ∃ k, n - i = k + 1 := ⟨n - i - 1, by omega⟩
      rw [show 19 + i = requestStart.length + i from rfl, ← List.drop_drop, List.drop_left,
        List.drop_append_of_le_length (by simp; omega), List.drop_replicate, more, List.replicate_succ,
        List.cons_append, crlfCrlf, List.cons_prefix_cons] at occurs
      exact absurd occurs.1 (by decide)
  rw [findHeaderEnd, first, Option.map_some]
  congr 1
  omega

/-- A read with a part of the field. -/
def filled (front : Bytes) (n : Nat) (back : Bytes) (positive : 0 < front.length + n + back.length)
    (fits : front.length + n + back.length ≤ readSize) : Chunk where
  bytes := front ++ (List.replicate n 97 ++ back)
  nonempty := by
    rw [← List.length_pos_iff]
    simp only [List.length_append, List.length_replicate]
    omega
  bounded := by
    simp only [List.length_append, List.length_replicate]
    omega

/-- The begin of a request with a long field, in reads of full size. -/
def firstReads : List Chunk :=
  filled requestStart 8173 [] (by decide) (by decide) :: List.replicate 6 (filled [] 8192 [] (by decide) (by decide))

theorem flatMap_firstReads : firstReads.flatMap Chunk.bytes = requestStart ++ List.replicate 57325 97 := by
  have middle : (List.replicate 6 (List.replicate 8192 (97 : UInt8))).flatten = List.replicate (6 * 8192) 97 :=
    List.flatten_replicate_replicate
  have field : List.replicate 57325 (97 : UInt8) = List.replicate 8173 97 ++ List.replicate (6 * 8192) 97 := by
    rw [← List.replicate_add]
  rw [field, ← middle]
  simp only [firstReads, filled, List.flatMap_cons, List.flatMap_replicate, List.append_assoc, List.append_nil,
    List.nil_append]

/-- The field goes on in the reads that follow. -/
theorem flatMap_reads {chunks : List Chunk} {n : Nat}
    (more : chunks.flatMap Chunk.bytes = List.replicate n 97 ++ crlfCrlf) :
    (firstReads ++ chunks).flatMap Chunk.bytes = requestStart ++ (List.replicate (57325 + n) 97 ++ crlfCrlf) := by
  rw [List.flatMap_append, flatMap_firstReads, more, List.replicate_add, List.append_assoc, List.append_assoc]

/-- A header block that is as long as the limit allows. -/
def fittingHeader : Bytes := requestStart ++ (List.replicate 65513 97 ++ crlfCrlf)

def fittingReads : List Chunk := firstReads ++ [filled [] 8188 crlfCrlf (by decide) (by decide)]

theorem size_verdict_iff_fitting :
    findHeaderEnd fittingHeader = some maxHeaderSize ∧ fittingReads.flatMap Chunk.bytes = fittingHeader ∧
    ¬ RejectsForSize lineParser false fittingReads [] ∧
    ¬ RejectsForSize lineParser false (fittingHeader.map single) [] := by
  have ends : findHeaderEnd fittingHeader = some maxHeaderSize := findHeaderEnd_requestStart 65513
  have exactly := (size_verdict_iff lineParser false ends).1.mpr (.inl (Nat.le_refl _))
  have reads : fittingReads.flatMap Chunk.bytes = fittingHeader := by
    refine flatMap_reads (n := 8188) ?_
    simp only [filled, List.flatMap_cons, List.flatMap_nil, List.append_nil, List.nil_append]
  refine ⟨ends, reads, fun rejected => ?_, fun rejected => ?_⟩
  · exact Nat.lt_irrefl _ ((exactly _ _ reads).mp rejected)
  · exact Nat.lt_irrefl _ ((exactly _ _ (flatMap_single _)).mp rejected)

/-- A header block that is two bytes too long. -/
def largeHeader : Bytes := requestStart ++ (List.replicate 65515 97 ++ crlfCrlf)

def fullReads : List Chunk :=
  firstReads ++ [filled [] 8190 [13, 10] (by decide) (by decide), filled [] 0 [13, 10] (by decide) (by decide)]

theorem flatMap_fullReads : fullReads.flatMap Chunk.bytes = largeHeader := by
  refine flatMap_reads (n := 8190) ?_
  simp only [filled, crlfCrlf, List.flatMap_cons, List.flatMap_nil, List.replicate_zero, List.append_assoc,
    List.append_nil, List.nil_append, List.cons_append]

/-- Byte by byte the buffer passes the limit before the block is complete. In reads of full size it is at
the limit, and then has the whole block. -/
theorem verdict_depends_on_reads :
    findHeaderEnd largeHeader = some (maxHeaderSize + 2) ∧
    (largeHeader.map single).flatMap Chunk.bytes = largeHeader ∧ fullReads.flatMap Chunk.bytes = largeHeader ∧
    RejectsForSize lineParser false (largeHeader.map single) [] ∧ ¬ RejectsForSize lineParser false fullReads [] := by
  have ends : findHeaderEnd largeHeader = some (maxHeaderSize + 2) := findHeaderEnd_requestStart 65515
  have length : largeHeader.length = maxHeaderSize + 2 := by
    rw [largeHeader, List.length_append, List.length_append, List.length_replicate]
    rfl
  have bytewise := flatMap_single largeHeader
  refine ⟨ends, bytewise, flatMap_fullReads, ?_, ?_⟩
  · exact (rejectsForSize_iff ends bytewise).mpr (cuts_single length.ge (by omega))
  · rw [rejectsForSize_iff ends flatMap_fullReads]
    rintro ⟨k, behind, short⟩
    rw [List.nil_append] at behind short
    rcases Nat.lt_or_ge k 9 with part | all
    · have bound := length_reads_le (fullReads.take k)
      have taken : (fullReads.take k).length ≤ 8 := (List.length_take_le k fullReads).trans (by omega)
      unfold readSize at bound
      unfold maxHeaderSize at behind
      omega
    · rw [List.take_of_length_le all, flatMap_fullReads, length] at short
      exact absurd short (Nat.lt_irrefl _)

end HttpMessageReader

end Rstun.Http
