import Rstun.Control.Login

/-!
# The control stream

The client logs in over the first stream of a connection and sends heartbeats over it afterwards, and
the server answers: `Client::login` and `client_heartbeat` on one side, `authenticate_connection` and
`server_heartbeat` on the other. Both work on the bytes of the stream, a chunk at a time. Either side may
leave at any point, because of a timeout, of an error or because it is told to stop. It does not come
back to the stream then.
-/

namespace Rstun.Control
open Framing Transition Rstun.Tunnel

/-- What a session depends on: `bincode`, the login of the client, the configuration of the server and
the text of an address. -/
structure Setting where
  encode : TunnelMessage → Bytes
  decode : Bytes → Option TunnelMessage
  info : LoginInfo
  config : Config
  display : SocketAddr → String

/-- Where the client stands. `login` and `ping` have the bytes that are still to be sent, `loginResp` and
`pong` those of the response that have been read. `gone` has left the stream. -/
inductive ClientPhase where
  | login (unsent : Bytes)
  | loginResp (buf : Bytes)
  | tick (seq : UInt64)
  | ping (seq : UInt64) (unsent : Bytes)
  | pong (seq : UInt64) (buf : Bytes)
  | gone
  deriving DecidableEq

inductive ServerPhase where
  | login (buf : Bytes)
  | judging (info : LoginInfo)
  | failure (unsent : Bytes)
  | success (unsent : Bytes)
  | ready (buf : Bytes)
  | reply (seq : UInt64) (unsent : Bytes)
  | gone
  deriving DecidableEq

/-- What the code warns about, or gives up on. -/
inductive Alarm where
  | recvFailed (err : RecvError)
  | unexpectedLoginResponse (msg : TunnelMessage)
  | unexpectedLogin (msg : TunnelMessage)
  | seqMismatch (expected got : UInt64)
  | unexpectedResponse (msg : TunnelMessage)
  | unexpectedRequest (msg : TunnelMessage)
  deriving DecidableEq

/-- `toServer` and `toClient` are the bytes on the way. The rest is for the record: the messages that
the client has begun to send and those that it has received, the same of the server, whether `login`
has succeeded, and the login that the server has accepted. -/
structure Session where
  client : ClientPhase
  server : ServerPhase
  toServer : Bytes
  toClient : Bytes
  asked : List TunnelMessage
  got : List TunnelMessage
  heard : List TunnelMessage
  answered : List TunnelMessage
  connected : Bool
  accepted : Option LoginInfo
  alarms : List Alarm
  deriving DecidableEq

inductive SessionAction where
  | clientSend (count : Nat)
  | clientRecv (count : Nat)
  | clientTick
  | clientLeave
  | serverSend (count : Nat)
  | serverRecv (count : Nat)
  | judge (bound : Option UInt16) (capabilities : ServerCapabilities)
  | serverLeave

namespace ClientPhase

/-- The bytes to be sent, how to go on with the rest of them, and what comes after them. -/
def sending : ClientPhase → Option (Bytes × (Bytes → ClientPhase) × ClientPhase)
  | login unsent => some (unsent, login, loginResp [])
  | ping seq unsent => some (unsent, ping seq, pong seq [])
  | _ => none

def receiving : ClientPhase → Option (Bytes × (Bytes → ClientPhase))
  | loginResp buf => some (buf, loginResp)
  | pong seq buf => some (buf, pong seq)
  | _ => none

end ClientPhase

namespace ServerPhase

def sending : ServerPhase → Option (Bytes × (Bytes → ServerPhase) × ServerPhase)
  | failure unsent => some (unsent, failure, gone)
  | success unsent => some (unsent, success, ready [])
  | reply seq unsent => some (unsent, reply seq, ready [])
  | _ => none

def receiving : ServerPhase → Option (Bytes × (Bytes → ServerPhase))
  | login buf => some (buf, login)
  | ready buf => some (buf, ready)
  | _ => none

end ServerPhase

def failureText (upstreamType : UpstreamType) (addr : String) : String :=
  match upstreamType with
  | .tcp => s!"tcp server failed to bind at: {addr}"
  | .udp => s!"udp server failed to bind at: {addr}"

namespace Session

/-- `login` when the response has arrived. -/
def loginResponse (s : Session) (msg : TunnelMessage) : Session :=
  match msg with
  | .respFailure _ => { s with client := .gone }
  | .respSuccess _ => { s with client := .tick 0, connected := true }
  | msg => { s with client := .gone, alarms := s.alarms ++ [.unexpectedLoginResponse msg] }

def heartbeatResponse (s : Session) (seq : UInt64) (msg : TunnelMessage) : Session :=
  match msg with
  | .respHeartbeat respSeq =>
    if respSeq = seq then { s with client := .tick seq }
    else { s with client := .tick seq, alarms := s.alarms ++ [.seqMismatch seq respSeq] }
  | msg => { s with client := .tick seq, alarms := s.alarms ++ [.unexpectedResponse msg] }

def clientReceived (s : Session) (msg : TunnelMessage) : Session :=
  let s := { s with got := s.got ++ [msg] }
  match s.client with
  | .pong seq _ => s.heartbeatResponse seq msg
  | _ => s.loginResponse msg

/-- The server begins to send a message. -/
def answer (z : Setting) (s : Session) (phase : Bytes → ServerPhase) (msg : TunnelMessage) : Session :=
  { s with server := phase (sendTo z.encode msg), answered := s.answered ++ [msg] }

def loginRequest (s : Session) (msg : TunnelMessage) : Session :=
  match msg with
  | .reqLogin info => { s with server := .judging info }
  | msg => { s with server := .gone, alarms := s.alarms ++ [.unexpectedLogin msg] }

def heartbeatRequest (z : Setting) (s : Session) (msg : TunnelMessage) : Session :=
  match msg with
  | .reqHeartbeat seq => s.answer z (.reply seq) (.respHeartbeat seq)
  | msg => { s with server := .ready [], alarms := s.alarms ++ [.unexpectedRequest msg] }

def serverReceived (z : Setting) (s : Session) (msg : TunnelMessage) : Session :=
  let s := { s with heard := s.heard ++ [msg] }
  match s.server with
  | .login _ => s.loginRequest msg
  | _ => s.heartbeatRequest z msg

def clientSend (s : Session) (count : Nat) : Option Session :=
  match s.client.sending with
  | none => none
  | some (unsent, more, next) =>
    if 0 < count ∧ count ≤ unsent.length then
      some { s with
        toServer := s.toServer ++ unsent.take count
        client := if unsent.drop count = [] then next else more (unsent.drop count) }
    else none

/-- A chunk of the message that is being received, and no more than is missing of it. As long as the
message is not complete, `recvFrom` would wait. -/
def clientRecv (z : Setting) (s : Session) (count : Nat) : Option Session :=
  match s.client.receiving with
  | none => none
  | some (buf, more) =>
    if 0 < count ∧ count ≤ s.toClient.length ∧ count ≤ missing 4 buf then
      let buf := buf ++ s.toClient.take count
      let s := { s with toClient := s.toClient.drop count }
      match recvFrom z.decode ⟨buf, false⟩ with
      | .ok (msg, _) => some (s.clientReceived msg)
      | .error (.read _) => some { s with client := more buf }
      | .error err => some { s with client := .gone, alarms := s.alarms ++ [.recvFailed err] }
    else none

def clientTick (z : Setting) (s : Session) : Option Session :=
  match s.client with
  | .tick seq => some { s with
      client := .ping (seq + 1) (sendTo z.encode (.reqHeartbeat (seq + 1)))
      asked := s.asked ++ [.reqHeartbeat (seq + 1)] }
  | _ => none

def serverSend (s : Session) (count : Nat) : Option Session :=
  match s.server.sending with
  | none => none
  | some (unsent, more, next) =>
    if 0 < count ∧ count ≤ unsent.length then
      some { s with
        toClient := s.toClient ++ unsent.take count
        server := if unsent.drop count = [] then next else more (unsent.drop count) }
    else none

def serverRecv (z : Setting) (s : Session) (count : Nat) : Option Session :=
  match s.server.receiving with
  | none => none
  | some (buf, more) =>
    if 0 < count ∧ count ≤ s.toServer.length ∧ count ≤ missing 4 buf then
      let buf := buf ++ s.toServer.take count
      let s := { s with toServer := s.toServer.drop count }
      match recvFrom z.decode ⟨buf, false⟩ with
      | .ok (msg, _) => some (s.serverReceived z msg)
      | .error (.read _) => some { s with server := more buf }
      | .error err => some { s with server := .gone, alarms := s.alarms ++ [.recvFailed err] }
    else none

/-- What `authenticate_connection` makes of the login. The responses can be sent as long as the
server does not leave. Only a listener that cannot be bound is reported to the client. -/
def judge (z : Setting) (s : Session) (bound : Option UInt16) (capabilities : ServerCapabilities) :
    Option Session :=
  match s.server with
  | .judging info =>
    match (decideLogin z.config ⟨none, bound, true, true⟩ info .none).1 with
    | .ok _ => some ({ s with accepted := some info }.answer z .success (.respSuccess capabilities))
    | .error (.bind upstreamType addr) =>
      some (s.answer z .failure (.respFailure (failureText upstreamType (z.display addr))))
    | .error _ => some { s with server := .gone }
  | _ => none

def step (z : Setting) (s : Session) : SessionAction → Option Session
  | .clientSend count => s.clientSend count
  | .clientRecv count => s.clientRecv z count
  | .clientTick => s.clientTick z
  | .clientLeave => some { s with client := .gone }
  | .serverSend count => s.serverSend count
  | .serverRecv count => s.serverRecv z count
  | .judge bound capabilities => s.judge z bound capabilities
  | .serverLeave => some { s with server := .gone }

def new (z : Setting) : Session where
  client := .login (sendTo z.encode (.reqLogin z.info))
  server := .login []
  toServer := []
  toClient := []
  asked := [.reqLogin z.info]
  got := []
  heard := []
  answered := []
  connected := false
  accepted := none
  alarms := []

end Session

/-! ### Whose turn it is -/

/-- `bincode` inverts itself at a message, and the message is not too large. -/
def Setting.Fits (z : Setting) (msg : TunnelMessage) : Prop :=
  z.decode (z.encode msg) = some msg ∧ (z.encode msg).length ≤ maxTunnelMessageSize

/-- `msg` is the last that the client has begun to send, and `unsent` is to be sent of it. If the client
has left, it never will be. -/
def ClientPhase.Asking (info : LoginInfo) (msg : TunnelMessage) (unsent : Bytes) : ClientPhase → Prop
  | login rest => msg = .reqLogin info ∧ rest = unsent ∧ unsent ≠ []
  | loginResp buf => msg = .reqLogin info ∧ unsent = [] ∧ buf = []
  | ping seq rest => msg = .reqHeartbeat seq ∧ rest = unsent ∧ unsent ≠ []
  | pong seq buf => msg = .reqHeartbeat seq ∧ unsent = [] ∧ buf = []
  | tick _ => False
  | gone => True

/-- `buf` has been read of `msg`, which is what the server waits for. -/
def ServerPhase.Hearing (msg : TunnelMessage) (buf : Bytes) : ServerPhase → Prop
  | login read => (∃ info, msg = .reqLogin info) ∧ read = buf
  | ready read => (∃ seq, msg = .reqHeartbeat seq) ∧ read = buf
  | gone => True
  | _ => False

def ServerPhase.Answering (msg : TunnelMessage) (unsent : Bytes) : ServerPhase → Prop
  | failure rest => (∃ text, msg = .respFailure text) ∧ rest = unsent ∧ unsent ≠ []
  | success rest => (∃ capabilities, msg = .respSuccess capabilities) ∧ rest = unsent ∧ unsent ≠ []
  | reply seq rest => msg = .respHeartbeat seq ∧ rest = unsent ∧ unsent ≠ []
  | ready buf => unsent = [] ∧ buf = []
  | gone => True
  | _ => False

def ClientPhase.Waiting (msg : TunnelMessage) (buf : Bytes) : ClientPhase → Prop
  | loginResp read =>
    ((∃ text, msg = .respFailure text) ∨ ∃ capabilities, msg = .respSuccess capabilities) ∧ read = buf
  | pong seq read => msg = .respHeartbeat seq ∧ read = buf
  | gone => True
  | _ => False

/-- A message is on its way to the server, or it is a login that the server decides about, or a message
is on its way to the client, or all is quiet. -/
inductive Turn (z : Setting) (s : Session) : Prop
  | request (msg : TunnelMessage) (buf unsent : Bytes) (asked : s.asked = s.heard ++ [msg])
      (got : s.got = s.answered) (even : s.heard.length = s.answered.length)
      (client : s.client.Asking z.info msg unsent) (server : s.server.Hearing msg buf)
      (passing : Passing 4 (z.encode msg) buf s.toServer unsent) (still : s.toClient = [])
  | judging (asked : s.asked = s.heard) (got : s.got = s.answered)
      (odd : s.heard.length = s.answered.length + 1)
      (client : s.client = .loginResp [] ∨ s.client = .gone)
      (server : s.server = .judging z.info ∨ s.server = .gone)
      (still : s.toServer = [] ∧ s.toClient = [])
  | response (msg : TunnelMessage) (buf unsent : Bytes) (asked : s.asked = s.heard)
      (answered : s.answered = s.got ++ [msg]) (even : s.heard.length = s.answered.length)
      (client : s.client.Waiting msg buf) (server : s.server.Answering msg unsent)
      (passing : Passing 4 (z.encode msg) buf s.toClient unsent) (still : s.toServer = [])
  | quiet (asked : s.asked = s.heard) (got : s.got = s.answered)
      (even : s.heard.length = s.answered.length)
      (client : (∃ seq, s.client = .tick seq) ∨ s.client = .gone)
      (server : s.server = .ready [] ∨ s.server = .gone)
      (still : s.toServer = [] ∧ s.toClient = [])

/-- What is on record about the login, and that nothing has gone wrong. -/
structure Sound (z : Setting) (asked answered : List TunnelMessage) (connected : Bool)
    (accepted : Option LoginInfo) (alarms : List Alarm) : Prop where
  login : ∀ info, .reqLogin info ∈ asked → info = z.info
  alarms : alarms = []
  connected : connected = true → accepted = some z.info
  success : ∀ capabilities, .respSuccess capabilities ∈ answered → accepted = some z.info

structure Session.InStep (z : Setting) (s : Session) : Prop where
  turn : Turn z s
  sound : Sound z s.asked s.answered s.connected s.accepted s.alarms

section Phases

variable {info : LoginInfo} {msg : TunnelMessage} {buf unsent rest : Bytes}

theorem ClientPhase.Asking.sending {c next : ClientPhase} {more : Bytes → ClientPhase}
    (asking : c.Asking info msg unsent) (h : c.sending = some (rest, more, next)) :
    rest = unsent ∧ (∀ left, left ≠ [] → (more left).Asking info msg left) ∧ next.Asking info msg [] := by
  cases c with
  | login _ | ping _ _ =>
    obtain ⟨rfl, rfl, _⟩ := asking
    cases h
    exact ⟨rfl, fun left some => ⟨rfl, rfl, some⟩, rfl, rfl, rfl⟩
  | loginResp _ | tick _ | pong _ _ | gone => cases h

theorem ClientPhase.Waiting.receiving {c : ClientPhase} {more : Bytes → ClientPhase}
    (waiting : c.Waiting msg buf) (h : c.receiving = some (rest, more)) :
    rest = buf ∧ ∀ read, (more read).Waiting msg read := by
  cases c with
  | loginResp _ | pong _ _ =>
    obtain ⟨kind, rfl⟩ := waiting
    cases h
    exact ⟨rfl, fun read => ⟨kind, rfl⟩⟩
  | login _ | tick _ | ping _ _ | gone => cases h

theorem ClientPhase.Waiting.sending {c : ClientPhase} (waiting : c.Waiting msg buf) : c.sending = none := by
  cases c with
  | loginResp _ | pong _ _ | gone => rfl
  | login _ | tick _ | ping _ _ => exact waiting.elim

theorem ServerPhase.Answering.sending {c next : ServerPhase} {more : Bytes → ServerPhase}
    (answering : c.Answering msg unsent) (h : c.sending = some (rest, more, next)) :
    rest = unsent ∧ (∀ left, left ≠ [] → (more left).Answering msg left) ∧ next.Answering msg [] := by
  cases c with
  | failure _ =>
    obtain ⟨kind, rfl, _⟩ := answering
    cases h
    exact ⟨rfl, fun left some => ⟨kind, rfl, some⟩, trivial⟩
  | success _ | reply _ _ =>
    obtain ⟨kind, rfl, _⟩ := answering
    cases h
    exact ⟨rfl, fun left some => ⟨kind, rfl, some⟩, rfl, rfl⟩
  | login _ | judging _ | ready _ | gone => cases h

theorem ServerPhase.Hearing.receiving {c : ServerPhase} {more : Bytes → ServerPhase}
    (hearing : c.Hearing msg buf) (h : c.receiving = some (rest, more)) :
    rest = buf ∧ ∀ read, (more read).Hearing msg read := by
  cases c with
  | login _ | ready _ =>
    obtain ⟨kind, rfl⟩ := hearing
    cases h
    exact ⟨rfl, fun read => ⟨kind, rfl⟩⟩
  | judging _ | failure _ | success _ | reply _ _ | gone => cases h

theorem ServerPhase.Hearing.sending {c : ServerPhase} (hearing : c.Hearing msg buf) : c.sending = none := by
  cases c with
  | login _ | ready _ | gone => rfl
  | judging _ | failure _ | success _ | reply _ _ => exact hearing.elim

/-- A response that has been sent whole leaves the responder at its next request. -/
theorem ServerPhase.Answering.sent {c : ServerPhase} (answering : c.Answering msg []) :
    c = .ready [] ∨ c = .gone := by
  cases c with
  | failure _ | success _ | reply _ _ => exact absurd rfl answering.2.2
  | ready _ =>
    obtain ⟨_, rfl⟩ := answering
    exact Or.inl rfl
  | gone => exact Or.inr rfl
  | login _ | judging _ => exact answering.elim

/-- A request that has been sent whole leaves the client waiting for its response. -/
theorem ClientPhase.Asking.sent {c : ClientPhase} (asking : c.Asking info msg []) :
    (msg = .reqLogin info ∧ c = .loginResp []) ∨ (∃ seq, msg = .reqHeartbeat seq ∧ c = .pong seq []) ∨
      c = .gone := by
  cases c with
  | login _ | ping _ _ => exact absurd rfl asking.2.2
  | loginResp _ =>
    obtain ⟨rfl, _, rfl⟩ := asking
    exact Or.inl ⟨rfl, rfl⟩
  | pong seq _ =>
    obtain ⟨rfl, _, rfl⟩ := asking
    exact Or.inr (Or.inl ⟨seq, rfl, rfl⟩)
  | tick _ => exact asking.elim
  | gone => exact Or.inr (Or.inr rfl)

end Phases

namespace Session

variable {z : Setting} {s t : Session}

theorem sendTo_ne_nil (encode : TunnelMessage → Bytes) (msg : TunnelMessage) : sendTo encode msg ≠ [] := by
  apply List.ne_nil_of_length_pos
  rw [sendTo, length_frame]
  omega

theorem inStep_new (z : Setting) : (new z).InStep z := by
  refine ⟨?_, ?_, rfl, nofun, nofun⟩
  · apply Turn.request (.reqLogin z.info) [] (sendTo z.encode (.reqLogin z.info)) rfl rfl rfl
    · exact ⟨rfl, rfl, sendTo_ne_nil z.encode _⟩
    · exact ⟨⟨z.info, rfl⟩, rfl⟩
    · exact Passing.start 4 _
    · rfl
  · intro info sent
    cases List.mem_singleton.mp sent
    rfl

theorem clientSend_inStep {count : Nat} (now : s.InStep z) (h : s.clientSend count = some t) :
    t.InStep z := by
  unfold clientSend at h
  split at h
  · cases h
  rename_i unsent more next phase
  split at h
  case isFalse => cases h
  obtain rfl := Option.some.inj h
  refine ⟨?_, now.sound⟩
  cases now.turn with
  | request msg buf _ asked got even client server passing still =>
    obtain ⟨rfl, onward, after⟩ := client.sending phase
    rw [← List.take_append_drop count unsent] at passing
    refine Turn.request msg buf (unsent.drop count) asked got even ?_ server passing.push still
    dsimp only
    split
    · rename_i done
      rw [done]
      exact after
    · rename_i some
      exact onward _ some
  | judging _ _ _ client =>
    rcases client with client | client <;> rw [client] at phase <;> cases phase
  | response _ _ _ _ _ _ client =>
    rw [client.sending] at phase
    cases phase
  | quiet _ _ _ client =>
    rcases client with ⟨seq, client⟩ | client <;> rw [client] at phase <;> cases phase

theorem serverSend_inStep {count : Nat} (now : s.InStep z) (h : s.serverSend count = some t) :
    t.InStep z := by
  unfold serverSend at h
  split at h
  · cases h
  rename_i unsent more next phase
  split at h
  case isFalse => cases h
  obtain rfl := Option.some.inj h
  refine ⟨?_, now.sound⟩
  cases now.turn with
  | response msg buf _ asked answered even client server passing still =>
    obtain ⟨rfl, onward, after⟩ := server.sending phase
    rw [← List.take_append_drop count unsent] at passing
    refine Turn.response msg buf (unsent.drop count) asked answered even client ?_ passing.push still
    dsimp only
    split
    · rename_i done
      rw [done]
      exact after
    · rename_i some
      exact onward _ some
  | request _ _ _ _ _ _ _ server =>
    rw [server.sending] at phase
    cases phase
  | judging _ _ _ _ server | quiet _ _ _ _ server =>
    rcases server with server | server <;> rw [server] at phase <;> cases phase

theorem clientTick_inStep (now : s.InStep z) (h : s.clientTick z = some t) : t.InStep z := by
  unfold clientTick at h
  split at h
  case h_2 => cases h
  rename_i seq phase
  obtain rfl := Option.some.inj h
  refine ⟨?_, ?_, now.sound.alarms, now.sound.connected, now.sound.success⟩
  · cases now.turn with
    | request _ _ _ _ _ _ client =>
      rw [phase] at client
      exact client.elim
    | judging _ _ _ client =>
      rw [phase] at client
      rcases client with client | client <;> cases client
    | response _ _ _ _ _ _ client =>
      rw [phase] at client
      exact client.elim
    | quiet asked got even _ server still =>
      apply Turn.request (.reqHeartbeat (seq + 1)) [] (sendTo z.encode (.reqHeartbeat (seq + 1)))
      · exact congrArg (· ++ _) asked
      · exact got
      · exact even
      · exact ⟨rfl, rfl, sendTo_ne_nil z.encode _⟩
      · rcases server with server | server <;> simp only [server]
        exact ⟨⟨_, rfl⟩, rfl⟩
        trivial
      · simp only [still.1]
        exact Passing.start 4 _
      · exact still.2
  · intro info sent
    rcases List.mem_append.mp sent with before | last
    · exact now.sound.login info before
    · cases List.mem_singleton.mp last

/-- The client has its response. -/
theorem clientReceived_inStep {msg : TunnelMessage} {buf : Bytes} (now : Sound z s.asked s.answered s.connected s.accepted s.alarms)
    (asked : s.asked = s.heard) (answered : s.answered = s.got ++ [msg])
    (even : s.heard.length = s.answered.length) (client : s.client.Waiting msg buf)
    (server : s.server = .ready [] ∨ s.server = .gone) (still : s.toServer = [] ∧ s.toClient = [])
    (awake : s.client ≠ .gone) : (s.clientReceived msg).InStep z := by
  cases phase : s.client with
  | loginResp read =>
    rw [phase] at client
    rcases client.1 with ⟨text, rfl⟩ | ⟨capabilities, rfl⟩
    · have result : s.clientReceived (.respFailure text) =
          { s with got := s.got ++ [.respFailure text], client := .gone } := by
        simp [clientReceived, phase, loginResponse]
      rw [result]
      exact ⟨.quiet asked answered.symm even (.inr rfl) server still, now⟩
    · have result : s.clientReceived (.respSuccess capabilities) =
          { s with got := s.got ++ [.respSuccess capabilities], client := .tick 0, connected := true } := by
        simp [clientReceived, phase, loginResponse]
      rw [result]
      have accepted : s.accepted = some z.info := now.success capabilities (by simp [answered])
      exact ⟨.quiet asked answered.symm even (.inl ⟨0, rfl⟩) server still, now.login, now.alarms,
        fun _ => accepted, now.success⟩
  | pong seq read =>
    rw [phase] at client
    obtain ⟨rfl, _⟩ := client
    have result : s.clientReceived (.respHeartbeat seq) =
        { s with got := s.got ++ [.respHeartbeat seq], client := .tick seq } := by
      simp [clientReceived, phase, heartbeatResponse]
    rw [result]
    exact ⟨.quiet asked answered.symm even (.inl ⟨seq, rfl⟩) server still, now⟩
  | gone => exact absurd phase awake
  | login _ | tick _ | ping _ _ =>
    rw [phase] at client
    exact client.elim

theorem clientRecv_inStep {count : Nat} (now : s.InStep z) (fits : ∀ msg ∈ s.answered, z.Fits msg)
    (h : s.clientRecv z count = some t) : t.InStep z := by
  unfold clientRecv at h
  split at h
  · cases h
  rename_i read more phase
  split at h
  case isFalse => cases h
  rename_i guard
  have some : s.toClient ≠ [] := List.ne_nil_of_length_pos (by omega)
  -- Only a response puts bytes on the way to the client.
  cases now.turn with
  | request _ _ _ _ _ _ _ _ _ still => exact absurd still some
  | judging _ _ _ _ _ still | quiet _ _ _ _ _ still => exact absurd still.2 some
  | response msg buf unsent asked answered even client server passing still =>
    obtain ⟨rfl, onward⟩ := client.receiving phase
    obtain ⟨inverse, small⟩ := fits msg (by simp [answered])
    rw [← List.take_append_drop count s.toClient] at passing
    rcases recvFrom_passing passing.pull inverse small with ⟨empty, rfl, received⟩ | waits
    · simp only [received] at h
      obtain rfl := Option.some.inj h
      refine clientReceived_inStep now.sound asked answered even client server.sent ⟨still, empty⟩ ?_
      intro gone
      dsimp only at gone
      rw [gone] at phase
      cases phase
    · simp only [waits] at h
      obtain rfl := Option.some.inj h
      exact ⟨.response msg _ unsent asked answered even (onward _) server passing.pull still,
        now.sound⟩

/-- The server has its request. -/
theorem serverReceived_inStep {msg : TunnelMessage} {buf : Bytes} (now : Sound z s.asked s.answered s.connected s.accepted s.alarms)
    (asked : s.asked = s.heard ++ [msg]) (got : s.got = s.answered)
    (even : s.heard.length = s.answered.length) (client : s.client.Asking z.info msg [])
    (server : s.server.Hearing msg buf) (still : s.toServer = [] ∧ s.toClient = [])
    (awake : s.server ≠ .gone) : (s.serverReceived z msg).InStep z := by
  cases phase : s.server with
  | login read =>
    rw [phase] at server
    obtain ⟨⟨info, rfl⟩, _⟩ := server
    obtain rfl : info = z.info := now.login info (by simp [asked])
    have result : s.serverReceived z (.reqLogin z.info) =
        { s with heard := s.heard ++ [.reqLogin z.info], server := .judging z.info } := by
      simp [serverReceived, phase, loginRequest]
    rw [result]
    refine ⟨.judging asked got ?_ ?_ (.inl rfl) still, now⟩
    · simp [even]
    · rcases client.sent with ⟨_, waits⟩ | ⟨seq, other, _⟩ | gone
      · exact .inl waits
      · cases other
      · exact .inr gone
  | ready read =>
    rw [phase] at server
    obtain ⟨⟨seq, rfl⟩, _⟩ := server
    have result : s.serverReceived z (.reqHeartbeat seq) =
        { s with
          heard := s.heard ++ [.reqHeartbeat seq]
          server := .reply seq (sendTo z.encode (.respHeartbeat seq))
          answered := s.answered ++ [.respHeartbeat seq] } := by
      simp [serverReceived, phase, heartbeatRequest, answer]
    rw [result]
    refine ⟨.response (.respHeartbeat seq) [] (sendTo z.encode (.respHeartbeat seq)) asked ?_ ?_ ?_ ?_ ?_
      still.1, now.login, now.alarms, now.connected, ?_⟩
    · simp [got]
    · simp [even]
    · dsimp only
      rcases client.sent with ⟨other, _⟩ | ⟨_, same, waits⟩ | gone
      · cases other
      · obtain rfl := TunnelMessage.reqHeartbeat.inj same
        rw [waits]
        exact ⟨rfl, rfl⟩
      · rw [gone]
        trivial
    · exact ⟨rfl, rfl, sendTo_ne_nil z.encode _⟩
    · simp only [still.2]
      exact Passing.start 4 _
    · intro capabilities sent
      rcases List.mem_append.mp sent with before | last
      · exact now.success capabilities before
      · cases List.mem_singleton.mp last
  | gone => exact absurd phase awake
  | judging _ | failure _ | success _ | reply _ _ =>
    rw [phase] at server
    exact server.elim

theorem serverRecv_inStep {count : Nat} (now : s.InStep z) (fits : ∀ msg ∈ s.asked, z.Fits msg)
    (h : s.serverRecv z count = some t) : t.InStep z := by
  unfold serverRecv at h
  split at h
  · cases h
  rename_i read more phase
  split at h
  case isFalse => cases h
  rename_i guard
  have some : s.toServer ≠ [] := List.ne_nil_of_length_pos (by omega)
  cases now.turn with
  | response _ _ _ _ _ _ _ _ _ still => exact absurd still some
  | judging _ _ _ _ _ still | quiet _ _ _ _ _ still => exact absurd still.1 some
  | request msg buf unsent asked got even client server passing still =>
    obtain ⟨rfl, onward⟩ := server.receiving phase
    obtain ⟨inverse, small⟩ := fits msg (by simp [asked])
    rw [← List.take_append_drop count s.toServer] at passing
    rcases recvFrom_passing passing.pull inverse small with ⟨empty, rfl, received⟩ | waits
    · simp only [received] at h
      obtain rfl := Option.some.inj h
      refine serverReceived_inStep now.sound asked got even client server ⟨empty, still⟩ ?_
      intro gone
      dsimp only at gone
      rw [gone] at phase
      cases phase
    · simp only [waits] at h
      obtain rfl := Option.some.inj h
      exact ⟨.request msg _ unsent asked got even client (onward _) passing.pull still,
        now.sound⟩

/-- The server answers a login, with success only if it accepts the login of this client. -/
theorem answer_turn {msg : TunnelMessage} {phase : Bytes → ServerPhase} (asked : s.asked = s.heard)
    (got : s.got = s.answered) (odd : s.heard.length = s.answered.length + 1)
    (client : s.client = .loginResp [] ∨ s.client = .gone) (still : s.toServer = [] ∧ s.toClient = [])
    (kind : (∃ text, msg = .respFailure text) ∨ ∃ capabilities, msg = .respSuccess capabilities)
    (server : (phase (sendTo z.encode msg)).Answering msg (sendTo z.encode msg)) :
    Turn z (s.answer z phase msg) := by
  refine .response msg [] (sendTo z.encode msg) asked ?_ ?_ ?_ server ?_ still.1
  · simp [answer, got]
  · simp [answer, odd]
  · show ClientPhase.Waiting msg [] s.client
    rcases client with waits | gone
    · rw [waits]
      exact ⟨kind, rfl⟩
    · rw [gone]
      trivial
  · show Passing 4 (z.encode msg) [] s.toClient (sendTo z.encode msg)
    rw [still.2]
    exact Passing.start 4 _

theorem judge_inStep {bound : Option UInt16} {capabilities : ServerCapabilities} (now : s.InStep z)
    (h : s.judge z bound capabilities = some t) : t.InStep z := by
  unfold judge at h
  split at h
  case h_2 => cases h
  rename_i info phase
  cases now.turn with
  | request _ _ _ _ _ _ _ server =>
    rw [phase] at server
    exact server.elim
  | response _ _ _ _ _ _ _ server =>
    rw [phase] at server
    exact server.elim
  | quiet _ _ _ _ server =>
    rw [phase] at server
    rcases server with server | server <;> cases server
  | judging asked got odd client server still =>
    obtain rfl : info = z.info := by
      rw [phase] at server
      rcases server with server | server
      · exact ServerPhase.judging.inj server
      · cases server
    split at h
    · obtain rfl := Option.some.inj h
      exact ⟨answer_turn asked got odd client still (.inr ⟨capabilities, rfl⟩)
        ⟨⟨capabilities, rfl⟩, rfl, sendTo_ne_nil z.encode _⟩, now.sound.login, now.sound.alarms,
        fun _ => rfl, fun _ _ => rfl⟩
    · rename_i upstreamType addr _
      obtain rfl := Option.some.inj h
      refine ⟨answer_turn asked got odd client still (.inl ⟨_, rfl⟩)
        ⟨⟨_, rfl⟩, rfl, sendTo_ne_nil z.encode _⟩, now.sound.login, now.sound.alarms,
        now.sound.connected, ?_⟩
      intro capabilities sent
      rcases List.mem_append.mp sent with before | last
      · exact now.sound.success capabilities before
      · cases List.mem_singleton.mp last
    · obtain rfl := Option.some.inj h
      exact ⟨.judging asked got odd client (.inr rfl) still, now.sound⟩

theorem leave_inStep (now : s.InStep z) :
    InStep z { s with client := .gone } ∧ InStep z { s with server := .gone } := by
  constructor
  · refine ⟨?_, now.sound⟩
    cases now.turn with
    | request msg buf unsent asked got even _ server passing still =>
      exact .request msg buf unsent asked got even trivial server passing still
    | judging asked got odd _ server still => exact .judging asked got odd (.inr rfl) server still
    | response msg buf unsent asked answered even _ server passing still =>
      exact .response msg buf unsent asked answered even trivial server passing still
    | quiet asked got even _ server still => exact .quiet asked got even (.inr rfl) server still
  · refine ⟨?_, now.sound⟩
    cases now.turn with
    | request msg buf unsent asked got even client _ passing still =>
      exact .request msg buf unsent asked got even client trivial passing still
    | judging asked got odd client _ still => exact .judging asked got odd client (.inr rfl) still
    | response msg buf unsent asked answered even client _ passing still =>
      exact .response msg buf unsent asked answered even client trivial passing still
    | quiet asked got even client _ still => exact .quiet asked got even client (.inr rfl) still

theorem loginResponse_records (s : Session) (msg : TunnelMessage) :
    (s.loginResponse msg).asked = s.asked ∧ (s.loginResponse msg).answered = s.answered := by
  unfold loginResponse
  split <;> exact ⟨rfl, rfl⟩

theorem heartbeatResponse_records (s : Session) (seq : UInt64) (msg : TunnelMessage) :
    (s.heartbeatResponse seq msg).asked = s.asked ∧ (s.heartbeatResponse seq msg).answered = s.answered := by
  unfold heartbeatResponse
  split
  · split <;> exact ⟨rfl, rfl⟩
  · exact ⟨rfl, rfl⟩

theorem clientReceived_records (s : Session) (msg : TunnelMessage) :
    (s.clientReceived msg).asked = s.asked ∧ (s.clientReceived msg).answered = s.answered := by
  unfold clientReceived
  dsimp only
  split
  · exact heartbeatResponse_records _ _ _
  · exact loginResponse_records _ _

theorem serverReceived_records (z : Setting) (s : Session) (msg : TunnelMessage) :
    (s.serverReceived z msg).asked = s.asked ∧ s.answered <+: (s.serverReceived z msg).answered := by
  unfold serverReceived
  dsimp only
  split
  · unfold loginRequest
    split <;> exact ⟨rfl, List.prefix_rfl⟩
  · unfold heartbeatRequest
    split
    · exact ⟨rfl, List.prefix_append _ _⟩
    · exact ⟨rfl, List.prefix_rfl⟩

/-- What has been sent stays on the record. -/
theorem step_records {act : SessionAction} (h : s.step z act = some t) :
    s.asked <+: t.asked ∧ s.answered <+: t.answered := by
  cases act with
  | clientSend count | serverSend count =>
    simp only [step, clientSend, serverSend] at h
    split at h
    · cases h
    split at h
    · cases h
      exact ⟨List.prefix_rfl, List.prefix_rfl⟩
    · cases h
  | clientRecv count =>
    simp only [step, clientRecv] at h
    split at h
    · cases h
    split at h
    case isFalse => cases h
    split at h <;> cases h
    · rename_i msg _ _
      obtain ⟨asked, answered⟩ := clientReceived_records { s with toClient := s.toClient.drop count } msg
      rw [asked, answered]
      exact ⟨List.prefix_rfl, List.prefix_rfl⟩
    · exact ⟨List.prefix_rfl, List.prefix_rfl⟩
    · exact ⟨List.prefix_rfl, List.prefix_rfl⟩
  | serverRecv count =>
    simp only [step, serverRecv] at h
    split at h
    · cases h
    split at h
    case isFalse => cases h
    split at h <;> cases h
    · rename_i msg _ _
      obtain ⟨asked, answered⟩ := serverReceived_records z { s with toServer := s.toServer.drop count } msg
      rw [asked]
      exact ⟨List.prefix_rfl, answered⟩
    · exact ⟨List.prefix_rfl, List.prefix_rfl⟩
    · exact ⟨List.prefix_rfl, List.prefix_rfl⟩
  | clientTick =>
    simp only [step, clientTick] at h
    split at h <;> cases h
    exact ⟨List.prefix_append _ _, List.prefix_rfl⟩
  | judge bound capabilities =>
    simp only [step, judge] at h
    split at h
    case h_2 => cases h
    split at h <;> cases h
    · exact ⟨List.prefix_rfl, List.prefix_append _ _⟩
    · exact ⟨List.prefix_rfl, List.prefix_append _ _⟩
    · exact ⟨List.prefix_rfl, List.prefix_rfl⟩
  | clientLeave | serverLeave =>
    cases h
    exact ⟨List.prefix_rfl, List.prefix_rfl⟩

theorem step_inStep {act : SessionAction} (now : s.InStep z)
    (fits : ∀ msg ∈ s.asked ++ s.answered, z.Fits msg) (h : s.step z act = some t) : t.InStep z := by
  cases act with
  | clientSend count => exact clientSend_inStep now h
  | clientRecv count =>
    exact clientRecv_inStep now (fun msg sent => fits msg (List.mem_append_right _ sent)) h
  | clientTick => exact clientTick_inStep now h
  | clientLeave =>
    obtain rfl := Option.some.inj h
    exact (leave_inStep now).1
  | serverSend count => exact serverSend_inStep now h
  | serverRecv count =>
    exact serverRecv_inStep now (fun msg sent => fits msg (List.mem_append_left _ sent)) h
  | judge bound capabilities => exact judge_inStep now h
  | serverLeave =>
    obtain rfl := Option.some.inj h
    exact (leave_inStep now).2

theorem run_inStep {acts : List SessionAction} (h : run (step z) (new z) acts = some s)
    (fits : ∀ msg ∈ s.asked ++ s.answered, z.Fits msg) : s.InStep z := by
  -- The messages sent by an earlier state are among those of the last one, so that they fit as well.
  refine run_invariant (I := fun s => (∀ msg ∈ s.asked ++ s.answered, z.Fits msg) → s.InStep z)
    ?_ (fun _ => inStep_new z) h fits
  intro s act t before stepped fits
  obtain ⟨asked, answered⟩ := step_records stepped
  have earlier : ∀ msg ∈ s.asked ++ s.answered, z.Fits msg := by
    intro msg sent
    apply fits
    rcases List.mem_append.mp sent with inAsked | inAnswered
    · exact List.mem_append_left _ (asked.subset inAsked)
    · exact List.mem_append_right _ (answered.subset inAnswered)
  exact step_inStep (before earlier) earlier stepped

theorem inStep_records (turn : Turn z s) :
    s.heard <+: s.asked ∧ s.got <+: s.answered ∧ s.asked.length ≤ s.got.length + 1 := by
  cases turn with
  | request msg _ _ asked got even =>
    rw [asked, got]
    exact ⟨List.prefix_append _ _, List.prefix_rfl, by simp [even]⟩
  | judging asked got odd =>
    rw [asked, got]
    exact ⟨List.prefix_rfl, List.prefix_rfl, odd.le⟩
  | response msg _ _ asked answered even =>
    rw [asked, even, answered]
    exact ⟨List.prefix_rfl, List.prefix_append _ _, by simp⟩
  | quiet asked got even =>
    rw [asked, got, even]
    exact ⟨List.prefix_rfl, List.prefix_rfl, Nat.le_succ _⟩

/-- Each side receives what the other has sent, message by message. Nothing is garbled, mismatched or
unexpected, no request is sent before the last one is answered, and a client that is logged in has been
accepted. -/
theorem control_stream_in_step {acts : List SessionAction} (h : run (step z) (new z) acts = some s)
    (fits : ∀ msg ∈ s.asked ++ s.answered, z.Fits msg) :
    s.heard <+: s.asked ∧ s.got <+: s.answered ∧ s.asked.length ≤ s.got.length + 1 ∧ s.alarms = [] ∧
      (s.connected = true → s.accepted = some z.info) := by
  have inStep := run_inStep h fits
  obtain ⟨heard, got, outstanding⟩ := inStep_records inStep.turn
  exact ⟨heard, got, outstanding, inStep.sound.alarms, inStep.sound.connected⟩

/-- A client logs in with `inboundLogin`. The sequence numbers are small. -/
def inboundSetting : Setting where
  encode
    | .reqLogin _ => inboundLoginBytes
    | .reqHeartbeat seq => [1, seq.toUInt8]
    | .respHeartbeat seq => [2, seq.toUInt8]
    | .respFailure _ => [3, 0]
    | .respSuccess capabilities => [4, if capabilities.ipv6Supported then 1 else 0]
  decode
    | [1, seq] => some (.reqHeartbeat seq.toUInt64)
    | [2, seq] => some (.respHeartbeat seq.toUInt64)
    | [3, 0] => some (.respFailure "")
    | [4, flag] => some (.respSuccess ⟨flag = 1⟩)
    | bytes => decodeInboundLogin bytes
  info := inboundLogin
  config := bareConfig
  display := fun _ => "127.0.0.1:8080"

instance (z : Setting) (msg : TunnelMessage) : Decidable (z.Fits msg) :=
  inferInstanceAs (Decidable (_ ∧ _))

/-- The client is logged in and its first heartbeat is answered, with the bytes in chunks. -/
def heartbeatRun : List SessionAction :=
  [.clientSend 3, .serverRecv 2, .clientSend 18, .serverRecv 1, .serverRecv 1, .serverRecv 17,
    .judge (some 0) ⟨true⟩, .serverSend 6, .clientRecv 4, .clientRecv 2,
    .clientTick, .clientSend 6, .serverRecv 4, .serverRecv 2, .serverSend 6, .clientRecv 4, .clientRecv 2]

theorem control_stream_in_step_heartbeat :
    ∃ s, run (step inboundSetting) (new inboundSetting) heartbeatRun = some s ∧
      s.got = [.respSuccess ⟨true⟩, .respHeartbeat 1] ∧ s.connected = true ∧
      (∀ msg ∈ s.asked ++ s.answered, inboundSetting.Fits msg) ∧
      s.heard <+: s.asked ∧ s.got <+: s.answered ∧ s.asked.length ≤ s.got.length + 1 ∧ s.alarms = [] ∧
      (s.connected = true → s.accepted = some inboundSetting.info) := by
  obtain ⟨s, ran, got, connected, fits⟩ := run_reaches
    (P := fun s : Session => s.got = [.respSuccess ⟨true⟩, .respHeartbeat 1] ∧ s.connected = true ∧
      ∀ msg ∈ s.asked ++ s.answered, inboundSetting.Fits msg)
    (show (run (step inboundSetting) (new inboundSetting) heartbeatRun).any _ = true by decide +kernel)
  exact ⟨s, ran, got, connected, fits, control_stream_in_step ran fits⟩

end Session

end Rstun.Control
