import Rstun.Base.Scan
import Rstun.Http.Header

/-!
# The HTTP message reader

`HttpMessageReader` of `codec/http.rs` collects the bytes of a stream and returns them message by
message. A message is a header block with as many bytes after it as its `Content-Length` says. Without
one, the reader passes on whatever it reads from then on.
-/

namespace Rstun.Http
open Rstun.Tunnel

def maxHeaderSize : Nat := 64 * 1024

/-- The size of the array that a read fills. -/
def readSize : Nat := 8192

/-- What a read has put into that array. A read of no bytes is the end of the stream. -/
structure Chunk where
  bytes : Bytes
  nonempty : bytes ≠ []
  bounded : bytes.length ≤ readSize
  deriving DecidableEq

inductive Read where
  | data (chunk : Chunk)
  | eof
  | error
  | timeout
  deriving DecidableEq

def Read.bytes : Read → Bytes
  | data chunk => chunk.bytes
  | eof | error | timeout => []

def crlfCrlf : Bytes := [13, 10, 13, 10]

def findHeaderEnd (buf : Bytes) : Option Nat := (Scan.position crlfCrlf buf).map (· + 4)

theorem findHeaderEnd_bounds {buf : Bytes} {headerEnd : Nat} (found : findHeaderEnd buf = some headerEnd) :
    4 ≤ headerEnd ∧ headerEnd ≤ buf.length := by
  obtain ⟨start, position, rfl⟩ := Option.map_eq_some_iff.mp found
  have fits : start + 4 ≤ buf.length := Scan.position_add_length_le position
  exact ⟨by omega, fits⟩

theorem findHeaderEnd_append {buf : Bytes} {headerEnd : Nat} (found : findHeaderEnd buf = some headerEnd)
    (more : Bytes) : findHeaderEnd (buf ++ more) = some headerEnd := by
  obtain ⟨start, position, rfl⟩ := Option.map_eq_some_iff.mp found
  rw [findHeaderEnd, Scan.position_append_left position]
  rfl

/-- The end of the header block is found as soon as the block is there, and not before. -/
theorem findHeaderEnd_of_append {buf more : Bytes} {headerEnd : Nat}
    (found : findHeaderEnd (buf ++ more) = some headerEnd) :
    findHeaderEnd buf = if headerEnd ≤ buf.length then some headerEnd else none := by
  obtain ⟨start, position, rfl⟩ := Option.map_eq_some_iff.mp found
  split
  · rename_i within
    rw [findHeaderEnd, Scan.position_of_append position within]
    rfl
  · rename_i short
    rw [findHeaderEnd, Scan.position_of_append_short position (Nat.lt_of_not_le short)]
    rfl

/-- The sum of two numbers of type `usize`. One that does not fit stops a build that checks for overflow,
and wraps around in the others. -/
def addUsize (checks : Bool) (a b : Nat) : Option Nat :=
  if a + b < usizeBound then some (a + b)
  else if checks then none
  else some ((a + b) % usizeBound)

structure HttpMessageReader where
  buf : Bytes
  drainMode : Bool
  deriving DecidableEq

inductive ParseResult where
  | message (data : Bytes)
  | needMore
  | failed (err : HttpError)
  | panicked

/-- What has come of a call. It is `pending` as long as the read it waits for does not return. -/
inductive Outcome where
  | message (data : Bytes)
  | failed (err : HttpError)
  | panicked
  | pending
  deriving DecidableEq

def ParseResult.data : ParseResult → Bytes
  | message data => data
  | needMore | failed _ | panicked => []

namespace Outcome

def data : Outcome → Bytes
  | message data => data
  | failed _ | panicked | pending => []

def returned : Outcome → Bool
  | message _ | failed _ => true
  | panicked | pending => false

end Outcome

namespace HttpMessageReader

def new : HttpMessageReader := ⟨[], false⟩

def extend (r : HttpMessageReader) (chunk : Chunk) : HttpMessageReader := { r with buf := r.buf ++ chunk.bytes }

def tryParse (h : Httparse) (checks : Bool) (r : HttpMessageReader) : ParseResult × HttpMessageReader :=
  if r.buf = [] then (.needMore, r)
  else
    match findHeaderEnd r.buf with
    | none => if r.buf.length > maxHeaderSize then (.failed .headerTooLarge, r) else (.needMore, r)
    | some headerEnd =>
      match h.parseHeaders (r.buf.take headerEnd) with
      | .error err => (.failed err, r)
      | .ok none => (.needMore, r)
      | .ok (some headers) =>
        match contentLength headers with
        | some cl =>
          match addUsize checks headerEnd cl with
          | none => (.panicked, r)
          | some bodyEnd =>
            if r.buf.length < bodyEnd then (.needMore, r)
            else (.message (r.buf.take bodyEnd), { r with buf := r.buf.drop bodyEnd })
        -- That the buffer is not empty has been seen above.
        | none => (.message r.buf, ⟨[], true⟩)

/-- A call of `read_message` with the results of the reads to come. Those it has not used are left. -/
def readMessage (h : Httparse) (checks : Bool) (r : HttpMessageReader) (reads : List Read) :
    Outcome × HttpMessageReader × List Read :=
  if r.drainMode then
    if r.buf ≠ [] then (.message r.buf, { r with buf := [] }, reads)
    else
      match reads with
      | [] => (.pending, r, [])
      | .data chunk :: rest => (.message chunk.bytes, r, rest)
      | .eof :: rest => (.message [], r, rest)
      | .error :: rest => (.failed .read, r, rest)
      | .timeout :: rest => (.failed .timeout, r, rest)
  else
    match r.tryParse h checks with
    | (.message data, r) => (.message data, r, reads)
    | (.failed err, r) => (.failed err, r, reads)
    | (.panicked, r) => (.panicked, r, reads)
    | (.needMore, r) =>
      match reads with
      | [] => (.pending, r, [])
      | .data chunk :: rest => (r.extend chunk).readMessage h checks rest
      | .eof :: rest => (if r.buf = [] then .message [] else .failed .unexpectedEof, r, rest)
      | .error :: rest => (.failed .read, r, rest)
      | .timeout :: rest => (.failed .timeout, r, rest)

/-- Up to `count` calls, each after the one before has returned. -/
def readMessages (h : Httparse) (checks : Bool) :
    Nat → HttpMessageReader → List Read → List Outcome × HttpMessageReader × List Read
  | 0, r, reads => ([], r, reads)
  | count + 1, r, reads =>
    let (outcome, r, reads) := r.readMessage h checks reads
    if outcome.returned then
      let (outcomes, r, reads) := readMessages h checks count r reads
      (outcome :: outcomes, r, reads)
    else ([outcome], r, reads)

variable {h : Httparse} {checks : Bool} {r s : HttpMessageReader}

/-! ### One attempt to parse the buffer -/

theorem tryParse_none (found : findHeaderEnd r.buf = none) :
    r.tryParse h checks = (if r.buf.length > maxHeaderSize then .failed .headerTooLarge else .needMore, r) := by
  unfold tryParse
  split
  · rename_i empty
    simp [empty]
  · rw [found]
    dsimp only
    split <;> rfl

theorem tryParse_some {headerEnd : Nat} (found : findHeaderEnd r.buf = some headerEnd) :
    r.tryParse h checks =
      match h.parseHeaders (r.buf.take headerEnd) with
      | .error err => (.failed err, r)
      | .ok none => (.needMore, r)
      | .ok (some headers) =>
        match contentLength headers with
        | some cl =>
          match addUsize checks headerEnd cl with
          | none => (.panicked, r)
          | some bodyEnd =>
            if r.buf.length < bodyEnd then (.needMore, r)
            else (.message (r.buf.take bodyEnd), { r with buf := r.buf.drop bodyEnd })
        | none => (.message r.buf, ⟨[], true⟩) := by
  have nonempty : r.buf ≠ [] := by
    intro empty
    rw [empty] at found
    cases found
  rw [tryParse, if_neg nonempty, found]

/-- What an attempt does to the reader: it takes a message off its buffer, it takes all of it and goes
into drain mode, or it leaves the reader alone. -/
inductive Takes (r : HttpMessageReader) : ParseResult → HttpMessageReader → Prop
  | message (bodyEnd : Nat) (within : bodyEnd ≤ r.buf.length) :
      Takes r (.message (r.buf.take bodyEnd)) { r with buf := r.buf.drop bodyEnd }
  | drained : Takes r (.message r.buf) ⟨[], true⟩
  | nothing {result : ParseResult} (empty : result.data = []) : Takes r result r

theorem tryParse_takes (h : Httparse) (checks : Bool) (r : HttpMessageReader) :
    Takes r (r.tryParse h checks).1 (r.tryParse h checks).2 := by
  cases found : findHeaderEnd r.buf with
  | none =>
    rw [tryParse_none found]
    split <;> exact .nothing rfl
  | some headerEnd =>
    rw [tryParse_some found]
    split
    · exact .nothing rfl
    · exact .nothing rfl
    · split
      · split
        · exact .nothing rfl
        · split
          · exact .nothing rfl
          · rename_i long
            exact .message _ (Nat.le_of_not_lt long)
      · exact .drained

theorem Takes.data_append {result : ParseResult} (took : Takes r result s) : result.data ++ s.buf = r.buf := by
  cases took with
  | message bodyEnd _ => exact List.take_append_drop bodyEnd r.buf
  | drained => exact List.append_nil _
  | nothing empty => rw [empty, List.nil_append]

theorem Takes.drain {result : ParseResult} (took : Takes r result s) :
    (r.drainMode = true → s.drainMode = true) ∧ (s.drainMode = true → r.drainMode = true ∨ s.buf = []) := by
  cases took with
  | message _ _ | nothing _ => exact ⟨id, .inl⟩
  | drained => exact ⟨fun _ => rfl, fun _ => .inr rfl⟩

theorem tryParse_needMore (asks : r.tryParse h checks = (.needMore, s)) : s = r := by
  have took := tryParse_takes h checks r
  rw [asks] at took
  cases took
  rfl

/-! ### One call -/

def ParseResult.outcome : ParseResult → Option Outcome
  | .message data => some (.message data)
  | .failed err => some (.failed err)
  | .panicked => some .panicked
  | .needMore => none

/-- The reader cannot go on without another read. -/
def Asks (h : Httparse) (checks : Bool) (r : HttpMessageReader) : Prop :=
  r.drainMode = true ∧ r.buf = [] ∨ r.drainMode = false ∧ r.tryParse h checks = (.needMore, r)

/-- What a read without data makes of a call. -/
def stopped (r : HttpMessageReader) : Read → Outcome
  | .eof => if r.buf = [] then .message [] else .failed .unexpectedEof
  | .error => .failed .read
  | .timeout => .failed .timeout
  | .data _ => .pending

/-- The ways a call can go. -/
inductive Calls (h : Httparse) (checks : Bool) :
    HttpMessageReader → List Read → Outcome → HttpMessageReader → List Read → Prop
  | parsed {r s : HttpMessageReader} {result : ParseResult} {outcome : Outcome} {reads : List Read}
      (running : r.drainMode = false) (parsed : r.tryParse h checks = (result, s))
      (returns : ParseResult.outcome result = some outcome) : Calls h checks r reads outcome s reads
  | flushed {r : HttpMessageReader} {reads : List Read} (draining : r.drainMode = true) (left : r.buf ≠ []) :
      Calls h checks r reads (.message r.buf) { r with buf := [] } reads
  | passed {r : HttpMessageReader} {chunk : Chunk} {rest : List Read} (draining : r.drainMode = true)
      (empty : r.buf = []) : Calls h checks r (.data chunk :: rest) (.message chunk.bytes) r rest
  | stopped {r : HttpMessageReader} {read : Read} {rest : List Read} (asks : r.Asks h checks)
      (nothing : read.bytes = []) : Calls h checks r (read :: rest) (r.stopped read) r rest
  | waits {r : HttpMessageReader} (asks : r.Asks h checks) : Calls h checks r [] .pending r []
  | extended {r s : HttpMessageReader} {chunk : Chunk} {reads rest : List Read} {outcome : Outcome}
      (running : r.drainMode = false) (asks : r.tryParse h checks = (.needMore, r))
      (later : Calls h checks (r.extend chunk) reads outcome s rest) :
      Calls h checks r (.data chunk :: reads) outcome s rest

theorem readMessage_calls (h : Httparse) (checks : Bool) (r : HttpMessageReader) (reads : List Read) :
    Calls h checks r reads (r.readMessage h checks reads).1 (r.readMessage h checks reads).2.1
      (r.readMessage h checks reads).2.2 := by
  fun_induction readMessage h checks r reads with
  | case1 _ _ draining left => exact .flushed draining left
  | case2 _ draining left => exact .waits (.inl ⟨draining, not_not.mp left⟩)
  | case3 _ draining left => exact .passed draining (not_not.mp left)
  | case4 r draining left =>
    have ended : r.stopped .eof = .message [] := if_pos (not_not.mp left)
    rw [← ended]
    exact .stopped (.inl ⟨draining, not_not.mp left⟩) rfl
  | case5 _ draining left | case6 _ draining left => exact .stopped (.inl ⟨draining, not_not.mp left⟩) rfl
  | case7 _ _ running _ _ parsed | case8 _ _ running _ _ parsed | case9 _ _ running _ parsed =>
    exact .parsed (Bool.eq_false_of_not_eq_true running) parsed rfl
  | case10 _ running _ asks =>
    cases tryParse_needMore asks
    exact .waits (.inr ⟨Bool.eq_false_of_not_eq_true running, asks⟩)
  | case11 _ running _ asks _ _ ih =>
    cases tryParse_needMore asks
    exact .extended (Bool.eq_false_of_not_eq_true running) asks ih
  | case12 _ running _ asks | case13 _ running _ asks | case14 _ running _ asks =>
    cases tryParse_needMore asks
    exact .stopped (.inr ⟨Bool.eq_false_of_not_eq_true running, asks⟩) rfl

theorem Calls.eq {reads rest : List Read} {outcome : Outcome} (call : Calls h checks r reads outcome s rest) :
    r.readMessage h checks reads = (outcome, s, rest) := by
  induction call with
  | @parsed _ _ result _ _ running parsed returns =>
    rw [readMessage.eq_def, if_neg (by simp [running]), parsed]
    cases result <;> cases returns <;> rfl
  | flushed draining left => rw [readMessage.eq_def, if_pos draining, if_pos left]
  | passed draining empty => rw [readMessage.eq_def, if_pos draining, if_neg (not_not.mpr empty)]
  | @stopped r read rest asks nothing =>
    rw [readMessage.eq_def]
    rcases asks with ⟨draining, empty⟩ | ⟨running, asks⟩
    · rw [if_pos draining, if_neg (not_not.mpr empty)]
      cases read with
      | data chunk => exact absurd nothing chunk.nonempty
      | eof => simp [HttpMessageReader.stopped, empty]
      | error | timeout => rfl
    · rw [if_neg (by simp [running]), asks]
      cases read with
      | data chunk => exact absurd nothing chunk.nonempty
      | eof | error | timeout => rfl
  | waits asks =>
    rw [readMessage.eq_def]
    rcases asks with ⟨draining, empty⟩ | ⟨running, asks⟩
    · rw [if_pos draining, if_neg (not_not.mpr empty)]
    · rw [if_neg (by simp [running]), asks]
  | extended running asks _ ih =>
    rw [readMessage.eq_def, if_neg (by simp [running]), asks]
    exact ih

/-! ### No byte is lost -/

/-- What was in the buffer and what a call has read is now in its result and in the buffer, in this
order. A reader in drain mode stays so, and its buffer is empty. -/
structure Conserves (r : HttpMessageReader) (reads : List Read) (data : Bytes) (s : HttpMessageReader)
    (rest : List Read) : Prop where
  bytes : ∃ taken, reads = taken ++ rest ∧ r.buf ++ taken.flatMap Read.bytes = data ++ s.buf
  stays : r.drainMode = true → s.drainMode = true
  drained : (r.drainMode = true → r.buf = []) → s.drainMode = true → s.buf = []

theorem Calls.conserves {reads rest : List Read} {outcome : Outcome}
    (call : Calls h checks r reads outcome s rest) : Conserves r reads outcome.data s rest := by
  induction call with
  | @parsed r s result outcome reads running parsed returns =>
    have took := tryParse_takes h checks r
    rw [parsed] at took
    have same : outcome.data = result.data := by
      cases result <;> cases returns <;> rfl
    refine ⟨⟨[], rfl, ?_⟩, by simp [running], fun _ drains => ?_⟩
    · rw [same, took.data_append]
      exact List.append_nil _
    · rcases took.drain.2 drains with already | empty
      · simp [running] at already
      · exact empty
  | flushed draining left =>
    refine ⟨⟨[], rfl, ?_⟩, id, fun before _ => absurd (before draining) left⟩
    simp [Outcome.data]
  | @passed r chunk rest draining empty =>
    refine ⟨⟨[.data chunk], rfl, ?_⟩, id, id⟩
    simp [empty, Outcome.data, Read.bytes]
  | @stopped r read rest asks nothing =>
    refine ⟨⟨[read], rfl, ?_⟩, id, id⟩
    have silent : (r.stopped read).data = [] := by
      cases read with
      | eof =>
        simp only [HttpMessageReader.stopped]
        split <;> rfl
      | data _ | error | timeout => rfl
    simp [silent, nothing]
  | waits asks => exact ⟨⟨[], rfl, by simp [Outcome.data]⟩, id, id⟩
  | @extended r s chunk _ _ _ running asks _ ih =>
    obtain ⟨taken, split, bytes⟩ := ih.bytes
    refine ⟨⟨.data chunk :: taken, by rw [split]; rfl, ?_⟩, by simp [running], fun _ => ih.drained ?_⟩
    · rw [← bytes, List.flatMap_cons, ← List.append_assoc]
      rfl
    · intro drains
      exact absurd drains (by simp [extend, running])

theorem Conserves.trans {t : HttpMessageReader} {reads between rest : List Read} {data more : Bytes}
    (first : Conserves r reads data s between) (second : Conserves s between more t rest) :
    Conserves r reads (data ++ more) t rest := by
  obtain ⟨taken, split, bytes⟩ := first.bytes
  obtain ⟨later, split', bytes'⟩ := second.bytes
  refine ⟨⟨taken ++ later, ?_, ?_⟩, second.stays ∘ first.stays, second.drained ∘ first.drained⟩
  · rw [split, split', List.append_assoc]
  · rw [List.flatMap_append, ← List.append_assoc, bytes, List.append_assoc, bytes', List.append_assoc]

theorem readMessages_conserves (h : Httparse) (checks : Bool) (r : HttpMessageReader) (count : Nat) (reads : List Read) :
    Conserves r reads ((r.readMessages h checks count reads).1.flatMap Outcome.data)
      (r.readMessages h checks count reads).2.1 (r.readMessages h checks count reads).2.2 := by
  induction count generalizing r reads with
  | zero => exact ⟨⟨[], rfl, List.append_nil _⟩, id, id⟩
  | succ count ih =>
    have call := (readMessage_calls h checks r reads).conserves
    simp only [readMessages]
    split
    · rw [List.flatMap_cons]
      exact call.trans (ih _ _)
    · simpa using call

/-- The messages returned so far, followed by the buffer, are the bytes read so far. Once in drain mode
the reader stays there, and its buffer is empty after every call. -/
theorem bytes_conserved (h : Httparse) (checks : Bool) (count : Nat) (reads : List Read) :
    let (outcomes, reader, rest) := new.readMessages h checks count reads
    (∃ taken, reads = taken ++ rest ∧
      outcomes.flatMap Outcome.data ++ reader.buf = taken.flatMap Read.bytes) ∧
    (reader.drainMode = true → reader.buf = [] ∧
      ∀ more, (reader.readMessage h checks more).2.1.drainMode = true ∧
        (reader.readMessage h checks more).2.1.buf = []) := by
  have all := readMessages_conserves h checks new count reads
  dsimp only
  obtain ⟨taken, split, bytes⟩ := all.bytes
  have empty := all.drained fun drains => absurd drains (by decide)
  refine ⟨⟨taken, split, bytes.symm⟩, fun drains => ⟨empty drains, fun more => ?_⟩⟩
  have next := (readMessage_calls h checks (new.readMessages h checks count reads).2.1 more).conserves
  exact ⟨next.stays drains, next.drained empty (next.stays drains)⟩

end HttpMessageReader

end Rstun.Http
