import Rstun.Http.Framing

/-!
# Streams of messages

A stream on which messages follow each other, each with its length in the header, is cut into just these
messages, wherever the reads cut it.
-/

namespace Rstun.Http
open Rstun.Tunnel

/-- An HTTP/1.x message whose header block `httparse` accepts. Its only empty line is the one at the end of
the block, and its first `Content-Length` is the length of the body. A message fits into memory. -/
structure HttpMessage (h : Httparse) where
  header : Bytes
  body : Bytes
  headers : List Header
  lengthHeader : Header
  ends : findHeaderEnd header = some header.length
  bounded : header.length ≤ maxHeaderSize
  parses : h.parseHeaders header = .ok (some headers)
  first : headers.find? Header.isContentLength = some lengthHeader
  length : lengthHeader.value = decimal body.length
  addressable : header.length + body.length < usizeBound

namespace HttpMessage

variable {h : Httparse}

def bytes (m : HttpMessage h) : Bytes := m.header ++ m.body

theorem length_bytes (m : HttpMessage h) : m.bytes.length = m.header.length + m.body.length :=
  List.length_append

theorem known (m : HttpMessage h) : contentLength m.headers = some m.body.length := by
  have small : m.body.length < usizeBound := by
    have := m.addressable
    omega
  rw [contentLength, m.first, Option.bind_some, m.length, usizeOf_decimal small]

theorem accepted (m : HttpMessage h) (more : Bytes) : Accepted h (m.header ++ more) m.header.length m.headers where
  ends := findHeaderEnd_append m.ends more
  parses := by rw [List.take_left, m.parses]

end HttpMessage

namespace HttpMessageReader

variable {h : Httparse} {checks : Bool} {r : HttpMessageReader} {m : HttpMessage h} {rest : Bytes}

theorem tryParse_whole (whole : r.buf = m.bytes ++ rest) :
    r.tryParse h checks = (.message m.bytes, { r with buf := rest }) := by
  have accepted : Accepted h r.buf m.header.length m.headers := by
    rw [whole, HttpMessage.bytes, List.append_assoc]
    exact m.accepted _
  have long : ¬ r.buf.length < m.header.length + m.body.length := by
    rw [whole, List.length_append, m.length_bytes]
    omega
  rw [tryParse_fits accepted m.known m.addressable, if_neg long, ← m.length_bytes, whole, List.take_left,
    List.drop_left]

/-- As long as a message is not complete, more data is asked for. -/
theorem tryParse_part {more : Bytes} (part : r.buf ++ more = m.bytes ++ rest)
    (short : r.buf.length < m.bytes.length) : r.tryParse h checks = (.needMore, r) := by
  rw [m.length_bytes] at short
  by_cases inHeader : r.buf.length < m.header.length
  · have ends : findHeaderEnd (r.buf ++ more) = some m.header.length := by
      rw [part, HttpMessage.bytes, List.append_assoc]
      exact findHeaderEnd_append m.ends _
    have missing : findHeaderEnd r.buf = none := by
      rw [findHeaderEnd_of_append ends, if_neg (Nat.not_le_of_lt inHeader)]
    have small : ¬ r.buf.length > maxHeaderSize := by
      have := m.bounded
      omega
    rw [tryParse_none missing, if_neg small]
  · obtain ⟨body, complete⟩ : m.header <+: r.buf := by
      have left : m.header <+: r.buf ++ more := by
        rw [part, HttpMessage.bytes, List.append_assoc]
        exact List.prefix_append _ _
      exact List.prefix_of_prefix_length_le left (List.prefix_append _ _) (Nat.le_of_not_lt inHeader)
    have accepted : Accepted h r.buf m.header.length m.headers := by
      rw [← complete]
      exact m.accepted body
    rw [tryParse_fits accepted m.known m.addressable, if_pos short]

/-- The reads that are left after a message, with the buffer, are what follows it on the stream. -/
theorem readMessage_message {chunks : List Chunk} (tail : List Read) (running : r.drainMode = false)
    (stream : r.buf ++ chunks.flatMap Chunk.bytes = m.bytes ++ rest) :
    ∃ (buf : Bytes) (later : List Chunk),
      Calls h checks r (chunks.map .data ++ tail) (.message m.bytes) ⟨buf, false⟩ (later.map .data ++ tail) ∧
      buf ++ later.flatMap Chunk.bytes = rest := by
  induction chunks generalizing r with
  | nil =>
    rw [List.flatMap_nil, List.append_nil] at stream
    refine ⟨rest, [], ?_, List.append_nil _⟩
    exact .parsed running (by rw [tryParse_whole stream, running]) rfl
  | cons chunk later ih =>
    by_cases short : r.buf.length < m.bytes.length
    · obtain ⟨buf, left, call, follows⟩ := ih (r := r.extend chunk) running (by
        rw [← stream, List.flatMap_cons, ← List.append_assoc]
        rfl)
      exact ⟨buf, left, .extended running (tryParse_part stream short) call, follows⟩
    · obtain ⟨buf, whole⟩ : m.bytes <+: r.buf := by
        have left : m.bytes <+: r.buf ++ (chunk :: later).flatMap Chunk.bytes := by
          rw [stream]
          exact List.prefix_append _ _
        exact List.prefix_of_prefix_length_le left (List.prefix_append _ _) (Nat.le_of_not_lt short)
      refine ⟨buf, chunk :: later, ?_, ?_⟩
      · exact .parsed running (by rw [tryParse_whole whole.symm, running]) rfl
      · rw [← whole, List.append_assoc] at stream
        exact List.append_cancel_left stream

theorem readMessages_messages {messages : List (HttpMessage h)} {chunks : List Chunk} (running : r.drainMode = false)
    (stream : r.buf ++ chunks.flatMap Chunk.bytes = messages.flatMap HttpMessage.bytes) :
    (r.readMessages h checks (messages.length + 1) (chunks.map .data ++ [.eof])).1 =
      messages.map (fun m => .message m.bytes) ++ [.message []] := by
  induction messages generalizing r chunks with
  | nil =>
    obtain ⟨empty, none⟩ := List.append_eq_nil_iff.mp stream
    obtain rfl : chunks = [] := by
      cases chunks with
      | nil => rfl
      | cons chunk _ => exact absurd (List.append_eq_nil_iff.mp none).1 chunk.nonempty
    have asks : r.tryParse h checks = (.needMore, r) := by
      rw [tryParse, if_pos empty]
    have call : Calls h checks r [.eof] (r.stopped .eof) r [] := .stopped (.inr ⟨running, asks⟩) rfl
    have ended : r.stopped .eof = .message [] := if_pos empty
    simp [readMessages, call.eq, ended]
  | cons m later ih =>
    obtain ⟨buf, left, call, follows⟩ := readMessage_message [.eof] running stream
    have others := ih (r := ⟨buf, false⟩) rfl follows
    rw [List.length_cons, readMessages, call.eq]
    simp only [Outcome.returned, if_true, others]
    rfl

/-- Successive calls return the messages of the stream one by one, and then the empty message that says
that it has ended. -/
theorem messages_separated (checks : Bool) (messages : List (HttpMessage h)) (chunks : List Chunk)
    (stream : chunks.flatMap Chunk.bytes = messages.flatMap HttpMessage.bytes) :
    (new.readMessages h checks (messages.length + 1) (chunks.map .data ++ [.eof])).1 =
      messages.map (fun m => .message m.bytes) ++ [.message []] :=
  readMessages_messages rfl (by rw [← stream]; rfl)

def putMessage : HttpMessage lineParser where
  header := hostBytes "PUT /a HTTP/1.1\r\nHost: x\r\ncontent-length: 6\r\n\r\n"
  body := hostBytes "x\r\n\r\ny"
  headers := [⟨hostBytes "Host", hostBytes "x"⟩, ⟨hostBytes "content-length", hostBytes "6"⟩]
  lengthHeader := ⟨hostBytes "content-length", hostBytes "6"⟩
  ends := by decide +kernel
  bounded := by decide +kernel
  parses := by decide +kernel
  first := by decide +kernel
  length := by decide +kernel
  addressable := by decide +kernel

def getMessage : HttpMessage lineParser where
  header := hostBytes "GET /b HTTP/1.1\r\nContent-Length: 0\r\n\r\n"
  body := []
  headers := [⟨hostBytes "Content-Length", hostBytes "0"⟩]
  lengthHeader := ⟨hostBytes "Content-Length", hostBytes "0"⟩
  ends := by decide +kernel
  bounded := by decide +kernel
  parses := by decide +kernel
  first := by decide +kernel
  length := by decide +kernel
  addressable := by decide +kernel

/-- The first read ends within the first body, and the second one brings the rest of both messages. -/
theorem messages_separated_two :
    ∃ chunks : List Chunk, chunks.length = 2 ∧
      (new.readMessages lineParser false 3 (chunks.map .data ++ [.eof])).1 =
        [.message putMessage.bytes, .message getMessage.bytes, .message []] := by
  let stream := putMessage.bytes ++ getMessage.bytes
  refine ⟨[⟨stream.take 50, by decide +kernel, by decide +kernel⟩,
    ⟨stream.drop 50, by decide +kernel, by decide +kernel⟩], rfl, ?_⟩
  exact messages_separated false [putMessage, getMessage] _ (by decide +kernel)

end HttpMessageReader

end Rstun.Http
