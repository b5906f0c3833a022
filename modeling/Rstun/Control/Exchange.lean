import Rstun.Control.Session

/-!
# The exchanges of the control stream

An exchange that has begun can always go on: as long as neither side leaves, there are bytes to be moved or a
login to be decided about, and each such step brings the response nearer. All that is asked of `bincode` is
that it inverts itself at the messages that the two sides can say.
-/

namespace Rstun.Control
open BigEndian Framing Transition Rstun.Tunnel

/-! ### What is said -/

/-- What the two sides can say. -/
inductive Said (z : Setting) : TunnelMessage → Prop
  | login : Said z (.reqLogin z.info)
  | ping (seq : UInt64) : Said z (.reqHeartbeat seq)
  | pong (seq : UInt64) : Said z (.respHeartbeat seq)
  | success (capabilities : ServerCapabilities) : Said z (.respSuccess capabilities)
  | failure (upstreamType : UpstreamType) (addr : SocketAddr) :
      Said z (.respFailure (failureText upstreamType (z.display addr)))

/-- The reader of a message has less than the whole of it. -/
def Incomplete (decode : Bytes → Option TunnelMessage) (buf : Bytes) : Prop :=
  ∃ err, recvFrom decode ⟨buf, false⟩ = .error (.read err)

theorem incomplete_nil (decode : Bytes → Option TunnelMessage) : Incomplete decode [] :=
  ⟨.timeoutError, by simp [recvFrom, readExact]⟩

namespace Session

variable {z : Setting} {s t : Session}

structure Held (z : Setting) (s : Session) : Prop where
  asked : ∀ msg ∈ s.asked, Said z msg
  answered : ∀ msg ∈ s.answered, Said z msg
  client : ∀ buf more, s.client.receiving = some (buf, more) → Incomplete z.decode buf
  server : ∀ buf more, s.server.receiving = some (buf, more) → Incomplete z.decode buf

theorem held_new (z : Setting) : (new z).Held z where
  asked msg sent := by
    obtain rfl := List.mem_singleton.mp sent
    exact .login
  answered msg sent := by cases sent
  client buf more receives := by cases receives
  server buf more receives := by
    obtain ⟨rfl, _⟩ := Prod.mk.inj (Option.some.inj receives)
    exact incomplete_nil z.decode

end Session

/-- What comes after the bytes that are being sent: the rest of them, or a phase in which nothing is sent and
in which nothing has been received. -/
theorem ClientPhase.sending_next {c next : ClientPhase} {more : Bytes → ClientPhase} {unsent : Bytes}
    (h : c.sending = some (unsent, more, next)) :
    (∀ rest, ∃ onward, (more rest).sending = some (rest, onward)) ∧ (∀ rest, (more rest).receiving = none) ∧
    next.sending = none ∧ ∀ buf onward, next.receiving = some (buf, onward) → buf = [] := by
  cases c <;> cases h <;> refine ⟨fun _ => ⟨_, rfl⟩, fun _ => rfl, rfl, ?_⟩ <;> intro buf onward receives <;>
    exact (Prod.mk.inj (Option.some.inj receives)).1.symm

theorem ServerPhase.sending_next {c next : ServerPhase} {more : Bytes → ServerPhase} {unsent : Bytes}
    (h : c.sending = some (unsent, more, next)) :
    (∀ rest, ∃ onward, (more rest).sending = some (rest, onward)) ∧ (∀ rest, (more rest).receiving = none) ∧
    next.sending = none ∧ ∀ buf onward, next.receiving = some (buf, onward) → buf = [] := by
  cases c <;> cases h <;> refine ⟨fun _ => ⟨_, rfl⟩, fun _ => rfl, rfl, ?_⟩ <;> intro buf onward receives <;>
    cases receives <;> rfl

theorem ClientPhase.receiving_next {c : ClientPhase} {more : Bytes → ClientPhase} {buf : Bytes}
    (h : c.receiving = some (buf, more)) :
    c.sending = none ∧ ∀ buf', (more buf').sending = none ∧ (more buf').receiving = some (buf', more) := by
  cases c <;> cases h <;> exact ⟨rfl, fun _ => ⟨rfl, rfl⟩⟩

theorem ServerPhase.receiving_next {c : ServerPhase} {more : Bytes → ServerPhase} {buf : Bytes}
    (h : c.receiving = some (buf, more)) :
    c.sending = none ∧ ∀ buf', (more buf').sending = none ∧ (more buf').receiving = some (buf', more) := by
  cases c <;> cases h <;> exact ⟨rfl, fun _ => ⟨rfl, rfl⟩⟩

namespace Session

variable {z : Setting} {s t : Session} {count : Nat}

/-! ### What a step does -/

theorem clientSend_cases (h : s.clientSend count = some t) :
    ∃ unsent more next, s.client.sending = some (unsent, more, next) ∧ 0 < count ∧ count ≤ unsent.length ∧
      t = { s with
        toServer := s.toServer ++ unsent.take count
        client := if unsent.drop count = [] then next else more (unsent.drop count) } := by
  unfold clientSend at h
  split at h
  · cases h
  · rename_i unsent more next sending
    split at h
    · rename_i guard
      exact ⟨unsent, more, next, sending, guard.1, guard.2, (Option.some.inj h).symm⟩
    · cases h

theorem serverSend_cases (h : s.serverSend count = some t) :
    ∃ unsent more next, s.server.sending = some (unsent, more, next) ∧ 0 < count ∧ count ≤ unsent.length ∧
      t = { s with
        toClient := s.toClient ++ unsent.take count
        server := if unsent.drop count = [] then next else more (unsent.drop count) } := by
  unfold serverSend at h
  split at h
  · cases h
  · rename_i unsent more next sending
    split at h
    · rename_i guard
      exact ⟨unsent, more, next, sending, guard.1, guard.2, (Option.some.inj h).symm⟩
    · cases h

/-- The client has its message, waits for the rest of it, or gives up. -/
theorem clientRecv_cases (h : s.clientRecv z count = some t) :
    ∃ buf more, s.client.receiving = some (buf, more) ∧ 0 < count ∧ count ≤ s.toClient.length ∧
      ((∃ msg, t = clientReceived { s with toClient := s.toClient.drop count } msg) ∨
      (Incomplete z.decode (buf ++ s.toClient.take count) ∧
        t = { s with toClient := s.toClient.drop count, client := more (buf ++ s.toClient.take count) }) ∨
      ∃ err, t = { s with
        toClient := s.toClient.drop count, client := .gone, alarms := s.alarms ++ [.recvFailed err] }) := by
  unfold clientRecv at h
  split at h
  · cases h
  · rename_i buf more receiving
    split at h
    case isFalse => cases h
    rename_i guard
    refine ⟨buf, more, receiving, guard.1, guard.2.1, ?_⟩
    dsimp only at h
    split at h <;> cases h
    · exact .inl ⟨_, rfl⟩
    · rename_i err waits
      exact .inr (.inl ⟨⟨err, waits⟩, rfl⟩)
    · exact .inr (.inr ⟨_, rfl⟩)

theorem serverRecv_cases (h : s.serverRecv z count = some t) :
    ∃ buf more, s.server.receiving = some (buf, more) ∧ 0 < count ∧ count ≤ s.toServer.length ∧
      ((∃ msg, t = serverReceived z { s with toServer := s.toServer.drop count } msg) ∨
      (Incomplete z.decode (buf ++ s.toServer.take count) ∧
        t = { s with toServer := s.toServer.drop count, server := more (buf ++ s.toServer.take count) }) ∨
      ∃ err, t = { s with
        toServer := s.toServer.drop count, server := .gone, alarms := s.alarms ++ [.recvFailed err] }) := by
  unfold serverRecv at h
  split at h
  · cases h
  · rename_i buf more receiving
    split at h
    case isFalse => cases h
    rename_i guard
    refine ⟨buf, more, receiving, guard.1, guard.2.1, ?_⟩
    dsimp only at h
    split at h <;> cases h
    · exact .inl ⟨_, rfl⟩
    · rename_i err waits
      exact .inr (.inl ⟨⟨err, waits⟩, rfl⟩)
    · exact .inr (.inr ⟨_, rfl⟩)

/-- After a message the client waits for the next tick, or leaves. -/
theorem clientReceived_cases (s : Session) (msg : TunnelMessage) :
    (∃ client connected alarms, s.clientReceived msg =
      { s with got := s.got ++ [msg], client := client, connected := connected, alarms := alarms } ∧
      client.sending = none ∧ client.receiving = none) := by
  unfold clientReceived
  dsimp only
  split
  · unfold heartbeatResponse
    split
    · split <;> exact ⟨_, _, _, rfl, rfl, rfl⟩
    · exact ⟨_, _, _, rfl, rfl, rfl⟩
  · unfold loginResponse
    split <;> exact ⟨_, _, _, rfl, rfl, rfl⟩

/-- After a message the server decides about a login, leaves, answers a heartbeat, or waits for the next. -/
theorem serverReceived_cases (z : Setting) (s : Session) (msg : TunnelMessage) :
    (∃ server alarms, s.serverReceived z msg =
      { s with heard := s.heard ++ [msg], server := server, alarms := alarms } ∧
      ((∃ info, server = .judging info) ∨ server = .gone ∨ server = .ready [])) ∨
    ∃ seq, s.serverReceived z msg =
      answer z { s with heard := s.heard ++ [msg] } (.reply seq) (.respHeartbeat seq) := by
  unfold serverReceived
  dsimp only
  split
  · unfold loginRequest
    split
    · exact .inl ⟨_, _, rfl, .inl ⟨_, rfl⟩⟩
    · exact .inl ⟨_, _, rfl, .inr (.inl rfl)⟩
  · unfold heartbeatRequest
    split
    · exact .inr ⟨_, rfl⟩
    · exact .inl ⟨_, _, rfl, .inr (.inr rfl)⟩

theorem judge_cases {bound : Option UInt16} {capabilities : ServerCapabilities}
    (h : s.judge z bound capabilities = some t) :
    ∃ info, s.server = .judging info ∧
      (t = answer z { s with accepted := some info } .success (.respSuccess capabilities) ∨
      (∃ upstreamType addr,
        t = s.answer z .failure (.respFailure (failureText upstreamType (z.display addr)))) ∨
      t = { s with server := .gone }) := by
  unfold judge at h
  split at h
  case h_2 => cases h
  rename_i info judging
  refine ⟨info, judging, ?_⟩
  split at h <;> cases h
  · exact .inl rfl
  · exact .inr (.inl ⟨_, _, rfl⟩)
  · exact .inr (.inr rfl)

theorem step_held {act : SessionAction} (held : s.Held z) (h : s.step z act = some t) : t.Held z := by
  cases act with
  | clientSend count =>
    obtain ⟨unsent, more, next, sending, _, _, rfl⟩ := clientSend_cases h
    obtain ⟨_, onward, _, fresh⟩ := ClientPhase.sending_next sending
    refine { held with client := ?_ }
    intro buf more' receives
    dsimp only at receives
    split at receives
    · rw [fresh buf more' receives]
      exact incomplete_nil z.decode
    · rw [onward] at receives
      cases receives
  | serverSend count =>
    obtain ⟨unsent, more, next, sending, _, _, rfl⟩ := serverSend_cases h
    obtain ⟨_, onward, _, fresh⟩ := ServerPhase.sending_next sending
    refine { held with server := ?_ }
    intro buf more' receives
    dsimp only at receives
    split at receives
    · rw [fresh buf more' receives]
      exact incomplete_nil z.decode
    · rw [onward] at receives
      cases receives
  | clientRecv count =>
    obtain ⟨buf, more, receiving, _, _, taken | waits | fails⟩ := clientRecv_cases h
    · obtain ⟨msg, rfl⟩ := taken
      obtain ⟨client, connected, alarms, same, _, receives⟩ :=
        clientReceived_cases { s with toClient := s.toClient.drop count } msg
      rw [same]
      exact { held with client := fun _ _ again => by rw [receives] at again; cases again }
    · obtain ⟨incomplete, rfl⟩ := waits
      refine { held with client := ?_ }
      intro buf' more' receives
      rw [(ClientPhase.receiving_next receiving).2 _ |>.2] at receives
      obtain ⟨rfl, _⟩ := Prod.mk.inj (Option.some.inj receives)
      exact incomplete
    · obtain ⟨err, rfl⟩ := fails
      exact { held with client := fun _ _ again => by cases again }
  | serverRecv count =>
    obtain ⟨buf, more, receiving, _, _, taken | waits | fails⟩ := serverRecv_cases h
    · obtain ⟨msg, rfl⟩ := taken
      rcases serverReceived_cases z { s with toServer := s.toServer.drop count } msg with
        ⟨server, alarms, same, phase⟩ | ⟨seq, same⟩
      · rw [same]
        refine { held with server := ?_ }
        intro buf' more' receives
        rcases phase with ⟨info, rfl⟩ | rfl | rfl <;> cases receives
        exact incomplete_nil z.decode
      · rw [same]
        refine { held with answered := ?_, server := fun _ _ again => by cases again }
        intro msg sent
        rcases List.mem_append.mp sent with before | last
        · exact held.answered msg before
        · obtain rfl := List.mem_singleton.mp last
          exact .pong seq
    · obtain ⟨incomplete, rfl⟩ := waits
      refine { held with server := ?_ }
      intro buf' more' receives
      rw [(ServerPhase.receiving_next receiving).2 _ |>.2] at receives
      obtain ⟨rfl, _⟩ := Prod.mk.inj (Option.some.inj receives)
      exact incomplete
    · obtain ⟨err, rfl⟩ := fails
      exact { held with server := fun _ _ again => by cases again }
  | clientTick =>
    simp only [step, clientTick] at h
    split at h <;> cases h
    refine { held with asked := ?_, client := fun _ _ again => by cases again }
    intro msg sent
    rcases List.mem_append.mp sent with before | last
    · exact held.asked msg before
    · obtain rfl := List.mem_singleton.mp last
      exact .ping _
  | judge bound capabilities =>
    have answers : ∀ {phase : Bytes → ServerPhase} {msg : TunnelMessage}, Said z msg →
        (phase (sendTo z.encode msg)).receiving = none → (s.answer z phase msg).Held z := by
      intro phase msg said silent
      refine { held with answered := ?_, server := fun _ _ again => by rw [answer, silent] at again; cases again }
      intro msg' sent
      rcases List.mem_append.mp sent with before | last
      · exact held.answered msg' before
      · obtain rfl := List.mem_singleton.mp last
        exact said
    obtain ⟨info, _, rfl | ⟨upstreamType, addr, rfl⟩ | rfl⟩ := judge_cases h
    · have success : (s.answer z .success (.respSuccess capabilities)).Held z := answers (.success capabilities) rfl
      exact { success with }
    · exact answers (.failure upstreamType addr) rfl
    · exact { held with server := fun _ _ again => by cases again }
  | clientLeave =>
    cases h
    exact { held with client := fun _ _ again => by cases again }
  | serverLeave =>
    cases h
    exact { held with server := fun _ _ again => by cases again }

theorem run_held {acts : List SessionAction} (h : run (step z) (new z) acts = some s) : s.Held z :=
  run_invariant (fun _ _ _ held stepped => step_held held stepped) (held_new z) h

end Session

/-! ### How much is left to be done -/

def ClientPhase.unsent (c : ClientPhase) : Nat :=
  match c.sending with
  | some (rest, _) => rest.length
  | none => 0

def ServerPhase.unsent (c : ServerPhase) : Nat :=
  match c.sending with
  | some (rest, _) => rest.length
  | none => 0

def ServerPhase.undecided : ServerPhase → Nat
  | judging _ => 1
  | _ => 0

theorem ClientPhase.unsent_of_sending {c : ClientPhase} {rest : Bytes} {onward : (Bytes → ClientPhase) × ClientPhase}
    (h : c.sending = some (rest, onward)) : c.unsent = rest.length := by
  simp only [unsent, h]

theorem ClientPhase.unsent_of_none {c : ClientPhase} (h : c.sending = none) : c.unsent = 0 := by
  simp only [unsent, h]

theorem ServerPhase.unsent_of_sending {c : ServerPhase} {rest : Bytes} {onward : (Bytes → ServerPhase) × ServerPhase}
    (h : c.sending = some (rest, onward)) : c.unsent = rest.length ∧ c.undecided = 0 := by
  refine ⟨by simp only [unsent, h], ?_⟩
  cases c <;> first | rfl | cases h

theorem ServerPhase.unsent_of_receiving {c : ServerPhase} {buf : Bytes} {more : Bytes → ServerPhase}
    (h : c.receiving = some (buf, more)) : c.unsent = 0 ∧ c.undecided = 0 := by
  cases c <;> first | exact ⟨rfl, rfl⟩ | cases h

/-- The actions that bring an exchange forward. -/
def SessionAction.moves : SessionAction → Bool
  | clientSend _ | clientRecv _ | serverSend _ | serverRecv _ | judge _ _ => true
  | clientTick | clientLeave | serverLeave => false

def maxFrame : Nat := 4 + maxTunnelMessageSize

namespace Session

variable {z : Setting} {s t : Session}

/-- A byte has to be sent and to be received. The response counts as long as it can be, until it is known. -/
def todo (s : Session) : Nat :=
  2 * s.client.unsent + s.toServer.length + 2 * s.server.unsent + s.toClient.length + s.server.undecided +
    2 * maxFrame * ((s.asked.length - s.heard.length) + (s.asked.length - s.answered.length))

theorem clientSend_todo {count : Nat} (h : s.clientSend count = some t) : t.todo < s.todo := by
  obtain ⟨unsent, more, next, sending, some, enough, rfl⟩ := clientSend_cases h
  obtain ⟨onward, _, last, _⟩ := ClientPhase.sending_next sending
  have after : ClientPhase.unsent (if unsent.drop count = [] then next else more (unsent.drop count)) =
      unsent.length - count := by
    split
    · rename_i done
      have short : unsent.length - count = 0 := by rw [← List.length_drop, done, List.length_nil]
      rw [ClientPhase.unsent_of_none last, short]
    · obtain ⟨_, sending'⟩ := onward (unsent.drop count)
      rw [ClientPhase.unsent_of_sending sending', List.length_drop]
  have before := ClientPhase.unsent_of_sending sending
  simp only [todo, after, before, List.length_append, List.length_take]
  omega

theorem serverSend_todo {count : Nat} (h : s.serverSend count = some t) : t.todo < s.todo := by
  obtain ⟨unsent, more, next, sending, some, enough, rfl⟩ := serverSend_cases h
  obtain ⟨onward, _, last, _⟩ := ServerPhase.sending_next sending
  have decided : next.undecided = 0 := by
    cases server : s.server <;> rw [server] at sending <;> cases sending <;> rfl
  have after : ServerPhase.unsent (if unsent.drop count = [] then next else more (unsent.drop count)) =
        unsent.length - count ∧
      ServerPhase.undecided (if unsent.drop count = [] then next else more (unsent.drop count)) = 0 := by
    split
    · rename_i done
      have short : unsent.length - count = 0 := by rw [← List.length_drop, done, List.length_nil]
      simp only [ServerPhase.unsent, last, short, decided, and_self]
    · obtain ⟨_, sending'⟩ := onward (unsent.drop count)
      rw [← List.length_drop]
      exact ServerPhase.unsent_of_sending sending'
  have before := (ServerPhase.unsent_of_sending sending).1
  simp only [todo, after.1, after.2, before, List.length_append, List.length_take]
  omega

theorem clientRecv_todo {count : Nat} (h : s.clientRecv z count = some t) : t.todo < s.todo := by
  obtain ⟨buf, more, receiving, some, enough, taken | waits | fails⟩ := clientRecv_cases h
  all_goals have before := ClientPhase.unsent_of_none (ClientPhase.receiving_next receiving).1
  · obtain ⟨msg, rfl⟩ := taken
    obtain ⟨client, connected, alarms, same, silent, _⟩ :=
      clientReceived_cases { s with toClient := s.toClient.drop count } msg
    rw [same]
    simp only [todo, before, ClientPhase.unsent_of_none silent, List.length_drop]
    omega
  · obtain ⟨_, rfl⟩ := waits
    have silent := ((ClientPhase.receiving_next receiving).2 (buf ++ s.toClient.take count)).1
    simp only [todo, before, ClientPhase.unsent_of_none silent, List.length_drop]
    omega
  · obtain ⟨err, rfl⟩ := fails
    have silent : ClientPhase.unsent .gone = 0 := rfl
    simp only [todo, before, silent, List.length_drop]
    omega

theorem length_sendTo_le {msg : TunnelMessage} (fits : z.Fits msg) : (sendTo z.encode msg).length ≤ maxFrame := by
  have small := fits.2
  rw [sendTo, length_frame, maxFrame]
  omega

theorem serverRecv_todo {count : Nat} (now : s.InStep z) (fits : ∀ msg ∈ t.answered, z.Fits msg)
    (h : s.serverRecv z count = some t) : t.todo < s.todo := by
  obtain ⟨buf, more, receiving, some, enough, cases⟩ := serverRecv_cases h
  obtain ⟨silent, decided⟩ := ServerPhase.unsent_of_receiving receiving
  -- There is something on the way to the server, so that it has not yet heard the last request.
  obtain ⟨asked, even⟩ : s.asked.length = s.heard.length + 1 ∧ s.heard.length = s.answered.length := by
    have present : s.toServer ≠ [] := List.ne_nil_of_length_pos (by omega)
    cases now.turn with
    | request msg _ _ asked _ even => exact ⟨by simp [asked], even⟩
    | response _ _ _ _ _ _ _ _ _ still => exact absurd still present
    | judging _ _ _ _ _ still | quiet _ _ _ _ _ still => exact absurd still.1 present
  have wide : 0 < maxFrame := by decide
  rcases cases with ⟨msg, rfl⟩ | ⟨_, rfl⟩ | ⟨err, rfl⟩
  · rcases serverReceived_cases z { s with toServer := s.toServer.drop count } msg with
      ⟨server, alarms, same, phase⟩ | ⟨seq, same⟩
    · have after : server.unsent = 0 ∧ server.undecided ≤ 1 := by
        rcases phase with ⟨info, rfl⟩ | rfl | rfl
        · exact ⟨rfl, Nat.le_refl 1⟩
        · exact ⟨rfl, Nat.zero_le 1⟩
        · exact ⟨rfl, Nat.zero_le 1⟩
      rw [same]
      simp only [todo, silent, decided, after.1, List.length_drop, List.length_append, List.length_singleton, asked,
        even, Nat.sub_self, Nat.add_sub_cancel_left]
      omega
    · have fit : z.Fits (.respHeartbeat seq) := fits _ (by rw [same]; simp [answer])
      have frame := length_sendTo_le fit
      have after : ServerPhase.unsent (.reply seq (sendTo z.encode (.respHeartbeat seq))) =
          (sendTo z.encode (.respHeartbeat seq)).length := rfl
      have known : ServerPhase.undecided (.reply seq (sendTo z.encode (.respHeartbeat seq))) = 0 := rfl
      rw [same]
      simp only [todo, answer, silent, decided, after, known, List.length_drop, List.length_append,
        List.length_singleton, asked, even, Nat.sub_self, Nat.add_sub_cancel_left]
      omega
  · obtain ⟨unsent, undecided⟩ := ServerPhase.unsent_of_receiving
      ((ServerPhase.receiving_next receiving).2 (buf ++ s.toServer.take count)).2
    simp only [todo, silent, decided, unsent, undecided, List.length_drop]
    omega
  · have after : ServerPhase.unsent .gone = 0 ∧ ServerPhase.undecided .gone = 0 := ⟨rfl, rfl⟩
    simp only [todo, silent, decided, after.1, after.2, List.length_drop]
    omega

/-- The response to a login is not longer than the longest one. -/
theorem answer_todo {msg : TunnelMessage} {phase : Bytes → ServerPhase} (fits : z.Fits msg)
    (sending : (phase (sendTo z.encode msg)).unsent = (sendTo z.encode msg).length)
    (decided : (phase (sendTo z.encode msg)).undecided = 0)
    (before : s.server.unsent = 0 ∧ s.server.undecided = 1) (asked : s.asked.length = s.heard.length)
    (odd : s.heard.length = s.answered.length + 1) : (s.answer z phase msg).todo < s.todo := by
  have frame := length_sendTo_le fits
  simp only [todo, answer, sending, decided, before.1, before.2, List.length_append, List.length_singleton, asked,
    odd, Nat.sub_self, Nat.add_sub_cancel_left]
  omega

theorem judge_todo {bound : Option UInt16} {capabilities : ServerCapabilities} (now : s.InStep z)
    (fits : ∀ msg ∈ t.answered, z.Fits msg) (h : s.judge z bound capabilities = some t) : t.todo < s.todo := by
  obtain ⟨info, judging, outcome⟩ := judge_cases h
  obtain ⟨asked, odd⟩ : s.asked.length = s.heard.length ∧ s.heard.length = s.answered.length + 1 := by
    cases now.turn with
    | judging asked _ odd => exact ⟨by rw [asked], odd⟩
    | request _ _ _ _ _ _ _ server | response _ _ _ _ _ _ _ server =>
      rw [judging] at server
      exact server.elim
    | quiet _ _ _ _ server =>
      rw [judging] at server
      rcases server with server | server <;> cases server
  have before : s.server.unsent = 0 ∧ s.server.undecided = 1 := by
    rw [judging]
    exact ⟨rfl, rfl⟩
  rcases outcome with rfl | ⟨upstreamType, addr, rfl⟩ | rfl
  · exact answer_todo (s := { s with accepted := some info }) (fits _ (by simp [answer])) rfl rfl before asked odd
  · exact answer_todo (fits _ (by simp [answer])) rfl rfl before asked odd
  · have after : ServerPhase.unsent .gone = 0 ∧ ServerPhase.undecided .gone = 0 := ⟨rfl, rfl⟩
    simp only [todo, before.1, before.2, after.1, after.2]
    omega

theorem step_todo {act : SessionAction} (now : s.InStep z) (fits : ∀ msg ∈ t.answered, z.Fits msg)
    (moves : act.moves = true) (h : s.step z act = some t) : t.todo < s.todo := by
  cases act with
  | clientSend count => exact clientSend_todo h
  | clientRecv count => exact clientRecv_todo h
  | serverSend count => exact serverSend_todo h
  | serverRecv count => exact serverRecv_todo now fits h
  | judge bound capabilities => exact judge_todo now fits h
  | clientTick | clientLeave | serverLeave => cases moves

/-! ### There is always something to do -/

theorem clientSend_isSome {unsent : Bytes} {onward : (Bytes → ClientPhase) × ClientPhase}
    (sending : s.client.sending = some (unsent, onward)) (more : unsent ≠ []) : (s.clientSend 1).isSome := by
  have length : 1 ≤ unsent.length := List.length_pos_iff.mpr more
  simp [clientSend, sending, length]

theorem serverSend_isSome {unsent : Bytes} {onward : (Bytes → ServerPhase) × ServerPhase}
    (sending : s.server.sending = some (unsent, onward)) (more : unsent ≠ []) : (s.serverSend 1).isSome := by
  have length : 1 ≤ unsent.length := List.length_pos_iff.mpr more
  simp [serverSend, sending, length]

theorem clientRecv_isSome {buf : Bytes} {more : Bytes → ClientPhase} (z : Setting)
    (receiving : s.client.receiving = some (buf, more)) (arrived : s.toClient ≠ []) (short : 0 < missing 4 buf) :
    (s.clientRecv z 1).isSome := by
  have length : 1 ≤ s.toClient.length := List.length_pos_iff.mpr arrived
  unfold clientRecv
  rw [receiving]
  dsimp only
  rw [if_pos ⟨Nat.one_pos, length, short⟩]
  split <;> rfl

theorem serverRecv_isSome {buf : Bytes} {more : Bytes → ServerPhase} (z : Setting)
    (receiving : s.server.receiving = some (buf, more)) (arrived : s.toServer ≠ []) (short : 0 < missing 4 buf) :
    (s.serverRecv z 1).isSome := by
  have length : 1 ≤ s.toServer.length := List.length_pos_iff.mpr arrived
  unfold serverRecv
  rw [receiving]
  dsimp only
  rw [if_pos ⟨Nat.one_pos, length, short⟩]
  split <;> rfl

theorem judge_isSome (z : Setting) {info : LoginInfo} (judging : s.server = .judging info) :
    (s.judge z none ⟨false⟩).isSome := by
  unfold judge
  rw [judging]
  dsimp only
  split <;> rfl

/-- What a reader waits for of a message that has been sent is on its way. -/
theorem arriving {msg : TunnelMessage} {buf inflight : Bytes} (fits : z.Fits msg)
    (passing : Passing 4 (z.encode msg) buf inflight []) (incomplete : Incomplete z.decode buf) :
    inflight ≠ [] ∧ 0 < missing 4 buf := by
  obtain ⟨inverse, small⟩ := fits
  have present : inflight ≠ [] := by
    rintro rfl
    obtain ⟨err, waits⟩ := incomplete
    have whole : buf = sendTo z.encode msg := by simpa [Passing, sendTo] using passing
    have received := recvFrom_sendTo inverse small ⟨[], false⟩
    rw [List.append_nil, ← whole, waits] at received
    cases received
  refine ⟨present, ?_⟩
  have total := passing.length_eq
  have some : 0 < inflight.length := List.length_pos_iff.mpr present
  unfold missing
  split
  · omega
  · rename_i header
    have fits : (z.encode msg).length < 256 ^ 4 := Nat.lt_of_le_of_lt small (by decide)
    rw [passing.length_read fits (by omega)]
    simp only [List.length_nil] at total
    omega

theorem can_move (now : s.InStep z) (held : s.Held z) (fits : ∀ msg, Said z msg → z.Fits msg)
    (client : s.client ≠ .gone) (server : s.server ≠ .gone) :
    (∃ seq, s.client = .tick seq) ∨ ∃ act, act.moves = true ∧ (s.step z act).isSome := by
  cases now.turn with
  | request msg buf unsent asked _ _ asking hearing passing still =>
    right
    have fit : z.Fits msg := fits msg (held.asked msg (by simp [asked]))
    by_cases sent : unsent = []
    · subst sent
      obtain ⟨more, receiving⟩ : ∃ more, s.server.receiving = some (buf, more) := by
        cases phase : s.server with
        | login read | ready read =>
          rw [phase] at hearing
          obtain ⟨_, rfl⟩ := hearing
          exact ⟨_, rfl⟩
        | gone => exact absurd phase server
        | judging _ | failure _ | success _ | reply _ _ =>
          rw [phase] at hearing
          exact hearing.elim
      obtain ⟨arrived, short⟩ := arriving fit passing (held.server buf more receiving)
      exact ⟨.serverRecv 1, rfl, serverRecv_isSome z receiving arrived short⟩
    · obtain ⟨onward, sending⟩ : ∃ onward, s.client.sending = some (unsent, onward) := by
        cases phase : s.client with
        | login rest | ping seq rest =>
          rw [phase] at asking
          obtain ⟨_, rfl, _⟩ := asking
          exact ⟨_, rfl⟩
        | gone => exact absurd phase client
        | loginResp _ | pong _ _ =>
          rw [phase] at asking
          exact absurd asking.2.1 sent
        | tick _ =>
          rw [phase] at asking
          exact asking.elim
      exact ⟨.clientSend 1, rfl, clientSend_isSome sending sent⟩
  | judging _ _ _ _ judging =>
    right
    rcases judging with judging | gone
    · exact ⟨.judge none ⟨false⟩, rfl, judge_isSome z judging⟩
    · exact absurd gone server
  | response msg buf unsent _ answered _ waiting answering passing still =>
    right
    have fit : z.Fits msg := fits msg (held.answered msg (by simp [answered]))
    by_cases sent : unsent = []
    · subst sent
      obtain ⟨more, receiving⟩ : ∃ more, s.client.receiving = some (buf, more) := by
        cases phase : s.client with
        | loginResp read | pong seq read =>
          rw [phase] at waiting
          obtain ⟨_, rfl⟩ := waiting
          exact ⟨_, rfl⟩
        | gone => exact absurd phase client
        | login _ | tick _ | ping _ _ =>
          rw [phase] at waiting
          exact waiting.elim
      obtain ⟨arrived, short⟩ := arriving fit passing (held.client buf more receiving)
      exact ⟨.clientRecv 1, rfl, clientRecv_isSome z receiving arrived short⟩
    · obtain ⟨onward, sending⟩ : ∃ onward, s.server.sending = some (unsent, onward) := by
        cases phase : s.server with
        | failure rest | success rest | reply seq rest =>
          rw [phase] at answering
          obtain ⟨_, rfl, _⟩ := answering
          exact ⟨_, rfl⟩
        | gone => exact absurd phase server
        | ready _ =>
          rw [phase] at answering
          exact absurd answering.1 sent
        | login _ | judging _ =>
          rw [phase] at answering
          exact answering.elim
      exact ⟨.serverSend 1, rfl, serverSend_isSome sending sent⟩
  | quiet _ _ _ resting =>
    rcases resting with ticking | gone
    · exact .inl ticking
    · exact absurd gone client

theorem run_todo {acts : List SessionAction} (now : s.InStep z) (held : s.Held z)
    (fits : ∀ msg, Said z msg → z.Fits msg) (moves : ∀ act ∈ acts, act.moves = true)
    (h : run (step z) s acts = some t) : t.todo + acts.length ≤ s.todo := by
  refine run_decreases (I := fun s : Session => s.InStep z ∧ s.Held z) (C := fun act => act.moves = true) ?_ ?_
    ⟨now, held⟩ moves h
  · rintro s act t ⟨now, held⟩ _ stepped
    have sent : ∀ msg ∈ s.asked ++ s.answered, z.Fits msg := fun msg said =>
      fits msg ((List.mem_append.mp said).elim (held.asked msg) (held.answered msg))
    exact ⟨step_inStep now sent stepped, step_held held stepped⟩
  · rintro s act t ⟨now, held⟩ moves stepped
    exact step_todo now (fun msg said => fits msg ((step_held held stepped).answered msg said)) moves stepped

/-- A client that waits for its next tick has the responses to all of its requests. -/
theorem answered_of_tick {seq : UInt64} (turn : Turn z s) (ticks : s.client = .tick seq) :
    s.got.length = s.asked.length := by
  cases turn with
  | request _ _ _ _ _ _ client | response _ _ _ _ _ _ client =>
    rw [ticks] at client
    exact client.elim
  | judging _ _ _ client =>
    rw [ticks] at client
    rcases client with client | client <;> cases client
  | quiet asked got even => rw [got, asked, even]

/-- As long as both sides are there, the client is between two exchanges, with every request answered, or the
exchange can go on, and it cannot go on for ever. -/
theorem exchanges_complete {acts : List SessionAction} (fits : ∀ msg, Said z msg → z.Fits msg)
    (h : run (step z) (new z) acts = some s) :
    (∀ seq, s.client = .tick seq → s.got.length = s.asked.length) ∧
    (s.client ≠ .gone → s.server ≠ .gone →
      (∃ seq, s.client = .tick seq) ∨ ∃ act, act.moves = true ∧ (s.step z act).isSome) ∧
    ∀ more t, (∀ act ∈ more, act.moves = true) → run (step z) s more = some t → t.todo + more.length ≤ s.todo := by
  have held := run_held h
  have now := run_inStep h fun msg sent =>
    fits msg ((List.mem_append.mp sent).elim (held.asked msg) (held.answered msg))
  refine ⟨fun seq ticks => answered_of_tick now.turn ticks, can_move now held fits, ?_⟩
  intro more t moves ran
  exact run_todo now held fits moves ran

end Session

/-- A codec that inverts itself at all that is said after `inboundLogin`. -/
def inboundCodec : Setting where
  encode
    | .reqLogin _ => inboundLoginBytes
    | .reqHeartbeat seq => 1 :: beBytes 8 seq.toNat
    | .respHeartbeat seq => 2 :: beBytes 8 seq.toNat
    | .respFailure text => [3, if text = failureText .tcp "127.0.0.1:8080" then 0 else 1]
    | .respSuccess capabilities => [4, if capabilities.ipv6Supported then 1 else 0]
  decode
    | 1 :: seq => some (.reqHeartbeat (UInt64.ofNat (ofBe seq)))
    | 2 :: seq => some (.respHeartbeat (UInt64.ofNat (ofBe seq)))
    | [3, kind] => some (.respFailure (failureText (if kind = 0 then .tcp else .udp) "127.0.0.1:8080"))
    | [4, flag] => some (.respSuccess ⟨flag = 1⟩)
    | bytes => decodeInboundLogin bytes
  info := inboundLogin
  config := bareConfig
  display := fun _ => "127.0.0.1:8080"

theorem inboundCodec_fits {msg : TunnelMessage} (said : Said inboundCodec msg) : inboundCodec.Fits msg := by
  cases said with
  | login => decide +kernel
  | ping seq | pong seq =>
    have value : ofBe (beBytes 8 seq.toNat) = seq.toNat := ofBe_beBytes seq.toNat_lt
    exact ⟨by simp [inboundCodec, value], by simp [inboundCodec, maxTunnelMessageSize]⟩
  | success capabilities => cases capabilities with
    | mk supported => cases supported <;> decide +kernel
  | failure upstreamType addr =>
    change inboundCodec.Fits (.respFailure (failureText upstreamType "127.0.0.1:8080"))
    cases upstreamType <;> decide +kernel

namespace Session

/-- The login of `heartbeatRun`, and a heartbeat with its sequence number in eight bytes. -/
def answeredPing : List SessionAction :=
  heartbeatRun.take 10 ++ [.clientTick, .clientSend 13, .serverRecv 4, .serverRecv 9, .serverSend 13, .clientRecv 4,
    .clientRecv 9]

theorem exchanges_complete_heartbeat :
    ∃ s, run (step inboundCodec) (new inboundCodec) answeredPing = some s ∧ s.client = .tick 1 ∧
      s.got = [.respSuccess ⟨true⟩, .respHeartbeat 1] ∧ s.got.length = s.asked.length := by
  obtain ⟨s, ran, ticks, got⟩ := run_reaches
    (P := fun s : Session => s.client = .tick 1 ∧ s.got = [.respSuccess ⟨true⟩, .respHeartbeat 1])
    (show (run (step inboundCodec) (new inboundCodec) answeredPing).any _ = true by decide +kernel)
  exact ⟨s, ran, ticks, got, (exchanges_complete (fun _ => inboundCodec_fits) ran).1 1 ticks⟩

end Session

end Rstun.Control
