import Rstun.Http.Reader

/-!
# Framing by Content-Length

What an attempt to parse does with a header block that `httparse` accepts. The length of the message is
the sum of two numbers, one of which the peer chooses, and it may overflow. A length that is no number is
taken for none at all.
-/

namespace Rstun.Http
open Rstun.Tunnel

/-- The buffer begins with a header block that `httparse` accepts. -/
structure Accepted (h : Httparse) (buf : Bytes) (headerEnd : Nat) (headers : List Header) : Prop where
  ends : findHeaderEnd buf = some headerEnd
  parses : h.parseHeaders (buf.take headerEnd) = .ok (some headers)

variable {h : Httparse} {checks : Bool} {buf : Bytes} {headerEnd c : Nat} {headers : List Header}

theorem Accepted.append (accepted : Accepted h buf headerEnd headers) (more : Bytes) :
    Accepted h (buf ++ more) headerEnd headers where
  ends := findHeaderEnd_append accepted.ends more
  parses := by
    rw [List.take_append_of_le_length (findHeaderEnd_bounds accepted.ends).2]
    exact accepted.parses

namespace HttpMessageReader

variable {r s : HttpMessageReader}

theorem tryParse_known (accepted : Accepted h r.buf headerEnd headers) (known : contentLength headers = some c) :
    r.tryParse h checks =
      match addUsize checks headerEnd c with
      | none => (.panicked, r)
      | some bodyEnd =>
        if r.buf.length < bodyEnd then (.needMore, r)
        else (.message (r.buf.take bodyEnd), { r with buf := r.buf.drop bodyEnd }) := by
  have parsed := @tryParse_some h checks r headerEnd accepted.ends
  rw [accepted.parses] at parsed
  dsimp only at parsed
  rw [known] at parsed
  exact parsed

theorem tryParse_unknown (accepted : Accepted h r.buf headerEnd headers) (unknown : contentLength headers = none) :
    r.tryParse h checks = (.message r.buf, ⟨[], true⟩) := by
  rw [tryParse_some accepted.ends, accepted.parses]
  dsimp only
  rw [unknown]

theorem tryParse_fits (accepted : Accepted h r.buf headerEnd headers) (known : contentLength headers = some c)
    (fits : headerEnd + c < usizeBound) :
    r.tryParse h checks =
      if r.buf.length < headerEnd + c then (.needMore, r)
      else (.message (r.buf.take (headerEnd + c)), { r with buf := r.buf.drop (headerEnd + c) }) := by
  rw [tryParse_known accepted known, addUsize, if_pos fits]

/-- A sum that wraps around is less than the length of the header block. -/
theorem tryParse_overflow (accepted : Accepted h r.buf headerEnd headers) (known : contentLength headers = some c)
    (overflow : ¬ headerEnd + c < usizeBound) :
    r.tryParse h checks = (.panicked, r) ∨
      ∃ bodyEnd < headerEnd, r.tryParse h checks =
        (.message (r.buf.take bodyEnd), { r with buf := r.buf.drop bodyEnd }) := by
  have bounds := findHeaderEnd_bounds accepted.ends
  have small := contentLength_lt known
  rw [tryParse_known accepted known, addUsize, if_neg overflow]
  cases checks with
  | true => exact .inl rfl
  | false =>
    have wraps : (headerEnd + c) % usizeBound < headerEnd := by
      rw [Nat.mod_eq_sub_mod (Nat.le_of_not_lt overflow)]
      have := Nat.mod_le (headerEnd + c - usizeBound) usizeBound
      omega
    refine .inr ⟨(headerEnd + c) % usizeBound, wraps, ?_⟩
    exact if_neg (by omega)

/-! ### The length of a message -/

/-- The lengths of the header block and of the body have a sum that fits. -/
def Addressable (h : Httparse) (buf : Bytes) : Prop :=
  ∀ headerEnd headers c, Accepted h buf headerEnd headers → contentLength headers = some c →
    headerEnd + c < usizeBound

/-- A message is the header block followed by as many bytes as the header says. -/
def FramesExactly (h : Httparse) (checks : Bool) (r : HttpMessageReader) : Prop :=
  ∀ headerEnd headers c, Accepted h r.buf headerEnd headers → contentLength headers = some c →
    (r.tryParse h checks).1 ≠ .panicked ∧
    ∀ data, (r.tryParse h checks).1 = .message data →
      ∃ body, body.length = c ∧ data = r.buf.take headerEnd ++ body ∧ body <+: r.buf.drop headerEnd

theorem framesExactly_iff : FramesExactly h checks r ↔ Addressable h r.buf := by
  constructor
  · intro exact headerEnd headers c accepted known
    obtain ⟨runs, framed⟩ := exact headerEnd headers c accepted known
    by_contra overflow
    rcases tryParse_overflow accepted known overflow with panicked | ⟨bodyEnd, less, parsed⟩
    · rw [panicked] at runs
      exact runs rfl
    · have bounds := findHeaderEnd_bounds accepted.ends
      rw [parsed] at framed
      obtain ⟨body, _, same, _⟩ := framed _ rfl
      have lengths := congrArg List.length same
      simp only [List.length_take, List.length_append] at lengths
      omega
  · intro addressable headerEnd headers c accepted known
    rw [tryParse_fits accepted known (addressable headerEnd headers c accepted known)]
    split
    · exact ⟨by simp, by simp⟩
    · rename_i long
      refine ⟨by simp, ?_⟩
      rintro _ ⟨⟩
      refine ⟨(r.buf.drop headerEnd).take c, ?_, List.take_add, List.take_prefix _ _⟩
      rw [List.length_take, List.length_drop]
      omega

/-- Only an accepted block lets a message out. -/
theorem tryParse_message {data : Bytes} (parsed : r.tryParse h checks = (.message data, s)) :
    ∃ headerEnd headers, Accepted h r.buf headerEnd headers := by
  cases found : findHeaderEnd r.buf with
  | none =>
    rw [tryParse_none found] at parsed
    split at parsed <;> cases parsed
  | some headerEnd =>
    rw [tryParse_some found] at parsed
    split at parsed
    · cases parsed
    · cases parsed
    · rename_i headers parses
      exact ⟨headerEnd, headers, found, parses⟩

theorem tryParse_message_ne_nil {data : Bytes} (addressable : Addressable h r.buf)
    (parsed : r.tryParse h checks = (.message data, s)) : data ≠ [] := by
  obtain ⟨headerEnd, headers, accepted⟩ := tryParse_message parsed
  have bounds := findHeaderEnd_bounds accepted.ends
  intro empty
  cases known : contentLength headers with
  | none =>
    rw [tryParse_unknown accepted known] at parsed
    cases parsed
    rw [empty] at bounds
    simp at bounds
    omega
  | some c =>
    obtain ⟨_, framed⟩ := framesExactly_iff.mpr addressable headerEnd headers c accepted known
    obtain ⟨body, _, same, _⟩ := framed data (by rw [parsed])
    have lengths := congrArg List.length same
    simp only [empty, List.length_nil, List.length_append, List.length_take] at lengths
    omega

/-- An empty message is the end of the stream. -/
theorem Calls.eof_of_empty {reads rest : List Read} {outcome : Outcome}
    (call : Calls h checks r reads outcome s rest) (empty : outcome = .message [])
    (addressable : ∀ taken, taken <+: reads → Addressable h (r.buf ++ taken.flatMap Read.bytes)) :
    ∃ taken, reads = taken ++ .eof :: rest := by
  induction call with
  | @parsed _ _ result _ _ running parsed returns =>
    have here := addressable [] List.nil_prefix
    rw [List.flatMap_nil, List.append_nil] at here
    cases result with
    | message data =>
      cases returns
      cases empty
      exact absurd rfl (tryParse_message_ne_nil here parsed)
    | needMore | failed _ | panicked => cases returns <;> cases empty
  | flushed draining left => exact absurd (Outcome.message.inj empty) left
  | @passed _ chunk _ _ _ =>
    exact absurd (Outcome.message.inj empty) chunk.nonempty
  | @stopped _ read _ asks nothing =>
    cases read with
    | eof => exact ⟨[], rfl⟩
    | data chunk => exact absurd nothing chunk.nonempty
    | error | timeout => cases empty
  | waits _ => cases empty
  | @extended _ _ chunk _ _ _ running asks _ ih =>
    obtain ⟨taken, split⟩ := ih empty fun taken isPrefix => by
      have here := addressable (.data chunk :: taken) ((List.prefix_cons_inj _).mpr isPrefix)
      rwa [List.flatMap_cons, ← List.append_assoc] at here
    exact ⟨.data chunk :: taken, by rw [split]; rfl⟩

/-- Messages are framed exactly if and only if no sum of lengths overflows. As long as none does, a call
returns an empty message at the end of the stream alone. -/
theorem framing_exact_iff (h : Httparse) (checks : Bool) (r : HttpMessageReader) :
    (FramesExactly h checks r ↔ Addressable h r.buf) ∧
    ∀ reads rest s, (∀ taken, taken <+: reads → Addressable h (r.buf ++ taken.flatMap Read.bytes)) →
      r.readMessage h checks reads = (.message [], s, rest) → ∃ taken, reads = taken ++ .eof :: rest := by
  refine ⟨framesExactly_iff, ?_⟩
  intro reads rest s addressable returned
  have call := readMessage_calls h checks r reads
  rw [returned] at call
  exact call.eof_of_empty rfl addressable

theorem addressable_of_accepted (accepted : Accepted h buf headerEnd headers)
    (fits : ∀ c, contentLength headers = some c → headerEnd + c < usizeBound) : Addressable h buf := by
  intro headerEnd' headers' c accepted' known
  obtain rfl : headerEnd = headerEnd' := Option.some.inj (accepted.ends.symm.trans accepted'.ends)
  obtain rfl : headers = headers' :=
    Option.some.inj (Except.ok.inj (accepted.parses.symm.trans accepted'.parses))
  exact fits c known

def shortRequest : Bytes := hostBytes "PUT / HTTP/1.1\r\nContent-Length: 3\r\n\r\nabc"

theorem accepted_shortRequest :
    Accepted lineParser shortRequest 37 [⟨hostBytes "Content-Length", hostBytes "3"⟩] :=
  ⟨by decide +kernel, by decide +kernel⟩

theorem framing_exact_iff_short :
    FramesExactly lineParser false ⟨shortRequest, false⟩ ∧ ∃ taken, [Read.eof] = taken ++ .eof :: [] := by
  constructor
  · refine (framing_exact_iff lineParser false ⟨shortRequest, false⟩).1.mpr ?_
    exact addressable_of_accepted accepted_shortRequest (by decide +kernel)
  · refine (framing_exact_iff lineParser false new).2 [.eof] [] new ?_ rfl
    intro taken isPrefix headerEnd headers c accepted
    have nothing : taken.flatMap Read.bytes = [] := by
      rw [List.flatMap_eq_nil_iff]
      intro read member
      cases List.mem_singleton.mp (isPrefix.subset member)
      rfl
    have ends := accepted.ends
    rw [nothing] at ends
    cases ends

/-- The length of the header block and the announced length add up to 2 ^ 64. -/
def hugeRequest : Bytes := hostBytes "PUT / HTTP/1.1\r\nContent-Length: 18446744073709551560\r\n\r\nabc"

theorem accepted_hugeRequest :
    Accepted lineParser hugeRequest 56 [⟨hostBytes "Content-Length", hostBytes "18446744073709551560"⟩] :=
  ⟨by decide +kernel, by decide +kernel⟩

/-- The call returns an empty message without any read, which the encoder takes for the end of the
stream. A build that checks for overflow panics. -/
theorem empty_message_before_end :
    (HttpMessageReader.mk hugeRequest false).readMessage lineParser false [] =
      (.message [], ⟨hugeRequest, false⟩, []) ∧
    ((HttpMessageReader.mk hugeRequest false).readMessage lineParser true []).1 = .panicked ∧
    ∀ checks, ¬ FramesExactly lineParser checks ⟨hugeRequest, false⟩ := by
  refine ⟨by decide +kernel, by decide +kernel, fun checks exact => ?_⟩
  have fits := framesExactly_iff.mp exact 56 _ (2 ^ 64 - 56) accepted_hugeRequest (by decide +kernel)
  exact absurd fits (by decide)

/-! ### A malformed length -/

/-- The header that is consulted has a value that is no number. -/
def Malformed (headers : List Header) : Prop :=
  ∃ header, headers.find? Header.isContentLength = some header ∧ usizeOf header.value = none

theorem contentLength_eq_none_iff : contentLength headers = none ↔
    Malformed headers ∨ ∀ header ∈ headers, header.isContentLength = false := by
  unfold contentLength Malformed
  cases found : headers.find? Header.isContentLength with
  | none => simpa using found
  | some header =>
    have present := List.find?_some found
    have member := List.mem_of_find?_eq_some found
    constructor
    · intro unknown
      exact .inl ⟨header, rfl, unknown⟩
    · rintro (⟨_, ⟨⟩, unknown⟩ | absent)
      · exact unknown
      · simp [absent header member] at present

theorem Calls.running_of_known {reads rest : List Read} {outcome : Outcome}
    (call : Calls h checks r reads outcome s rest) (running : r.drainMode = false)
    (accepted : Accepted h r.buf headerEnd headers) (known : contentLength headers = some c) :
    s.drainMode = false := by
  induction call with
  | parsed _ parsed _ =>
    rw [tryParse_known accepted known] at parsed
    split at parsed
    · cases parsed
      exact running
    · split at parsed <;> cases parsed <;> exact running
  | flushed draining _ | passed draining _ => simp [running] at draining
  | stopped _ _ | waits _ => exact running
  | extended _ _ _ ih => exact ih running (accepted.append _)

/-- What the documentation promises: a malformed length is an error, and only without any length does the
reader go into drain mode. -/
def RejectsMalformed (headers : List Header) (outcome : Outcome) (after : HttpMessageReader) : Prop :=
  (Malformed headers → (∃ err, outcome = .failed err) ∧ after.drainMode = false) ∧
    (after.drainMode = true → ∀ header ∈ headers, header.isContentLength = false)

theorem rejectsMalformed_iff {reads : List Read} (running : r.drainMode = false)
    (accepted : Accepted h r.buf headerEnd headers) :
    RejectsMalformed headers (r.readMessage h checks reads).1 (r.readMessage h checks reads).2.1 ↔
      ¬ Malformed headers := by
  constructor
  · rintro ⟨rejects, _⟩ malformed
    have unknown := contentLength_eq_none_iff.mpr (.inl malformed)
    have call : Calls h checks r reads (.message r.buf) ⟨[], true⟩ reads :=
      .parsed running (tryParse_unknown accepted unknown) rfl
    obtain ⟨⟨err, failed⟩, _⟩ := rejects malformed
    rw [call.eq] at failed
    cases failed
  · intro wellFormed
    refine ⟨fun malformed => absurd malformed wellFormed, fun drains => ?_⟩
    cases known : contentLength headers with
    | none => exact (contentLength_eq_none_iff.mp known).resolve_left wellFormed
    | some c =>
      have stays := (readMessage_calls h checks r reads).running_of_known running accepted known
      simp [stays] at drains

theorem rejectsMalformed_iff_short :
    RejectsMalformed [⟨hostBytes "Content-Length", hostBytes "3"⟩]
      ((HttpMessageReader.mk shortRequest false).readMessage lineParser false []).1
      ((HttpMessageReader.mk shortRequest false).readMessage lineParser false []).2.1 := by
  refine (rejectsMalformed_iff rfl accepted_shortRequest).mpr ?_
  rintro ⟨header, found, unknown⟩
  have value : usizeOf (hostBytes "3") = some 3 := by decide +kernel
  cases found
  rw [value] at unknown
  cases unknown

def malformedRequest : Bytes := hostBytes "PUT / HTTP/1.1\r\nContent-Length: 3x\r\n\r\nabc"

/-- The reader returns the header and what is behind it, and goes into drain mode. -/
theorem malformed_length_drained :
    (HttpMessageReader.mk malformedRequest false).readMessage lineParser false [] =
      (.message malformedRequest, ⟨[], true⟩, []) ∧
    Accepted lineParser malformedRequest 38 [⟨hostBytes "Content-Length", hostBytes "3x"⟩] ∧
    ¬ RejectsMalformed [⟨hostBytes "Content-Length", hostBytes "3x"⟩]
      ((HttpMessageReader.mk malformedRequest false).readMessage lineParser false []).1
      ((HttpMessageReader.mk malformedRequest false).readMessage lineParser false []).2.1 := by
  have drained : (HttpMessageReader.mk malformedRequest false).readMessage lineParser false [] =
      (.message malformedRequest, ⟨[], true⟩, []) := by decide +kernel
  refine ⟨drained, ⟨by decide +kernel, by decide +kernel⟩, ?_⟩
  rw [drained]
  rintro ⟨rejects, _⟩
  obtain ⟨_, running⟩ := rejects ⟨_, rfl, by decide +kernel⟩
  cases running

end HttpMessageReader

end Rstun.Http
