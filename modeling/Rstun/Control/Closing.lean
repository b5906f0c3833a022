import Rstun.Config.Create
import Rstun.Control.Heartbeat

/-!
# The control stream and its connection

Who fails on the control stream closes the connection. A client that has nothing more to say on it drops its
ends of the stream instead, which `quinn` finishes and stops for it, and the connection stays open. That is so
when the client is told to stop, and when its heartbeat is disabled. The responder of the server does not know
the difference: to it the end of the stream is an error. What else closes a connection, and how long it takes
for the other side to hear of it, is not followed here.
-/

namespace Rstun.Control
open BigEndian Framing Transition Rstun.Tunnel

/-- The code and the reason that both heartbeat tasks close a connection with. -/
def heartbeatFailed : Nat × String := (1, "heartbeat failed")

/-- A connection that nobody holds any more is closed by `quinn`. -/
def dropped : Nat × String := (0, "")

/-- The responder is running. -/
def ServerPhase.beating : ServerPhase → Bool
  | ready _ | reply _ _ => true
  | _ => false

/-- Before its heartbeat task runs, a side that fails only lets go of the connection. -/
def ClientPhase.reason (c : ClientPhase) : Nat × String := if c.beating then heartbeatFailed else dropped

def ServerPhase.reason (c : ServerPhase) : Nat × String := if c.beating then heartbeatFailed else dropped

/-- The steps of the session that are not about leaving. Without a heartbeat there are no ticks. -/
def SessionAction.allowed (heartbeat : Option HeartbeatConfig) : SessionAction → Bool
  | clientTick => heartbeat.isSome
  | clientLeave | serverLeave => false
  | _ => true

structure ControlConn where
  session : Session
  closed : Option (Nat × String)
  deriving DecidableEq

/-- `clientEnds` is a client that drops the stream, and `clientFails` one that gets an error or a timeout. What
the server fails on is a client that is gone. -/
inductive ConnAction where
  | session (act : SessionAction)
  | clientEnds
  | clientFails
  | serverFails

namespace ControlConn

def start (z : Setting) : ControlConn := ⟨Session.new z, none⟩

/-- A side that leaves in the course of a step has failed. -/
def closing (before after : Session) : Option (Nat × String) :=
  if after.client = .gone ∧ before.client ≠ .gone then some before.client.reason
  else if after.server = .gone ∧ before.server ≠ .gone then some before.server.reason
  else none

def clientEnds (c : ControlConn) : Option ControlConn :=
  match c.session.client with
  | .tick _ => some { c with session := { c.session with client := .gone } }
  | _ => none

def clientFails (c : ControlConn) : Option ControlConn :=
  match c.session.client with
  | .tick _ | .gone => none
  | phase => some ⟨{ c.session with client := .gone }, some phase.reason⟩

/-- What has been sent to the server before the stream was finished is still read. A response can no longer
be sent. -/
def serverFails (c : ControlConn) : Option ControlConn :=
  if c.session.client = .gone ∧
      (c.session.server.sending.isSome ∨ c.session.server.receiving.isSome ∧ c.session.toServer = []) then
    some ⟨{ c.session with server := .gone }, some c.session.server.reason⟩
  else none

def step (heartbeat : Option HeartbeatConfig) (z : Setting) (c : ControlConn) (act : ConnAction) :
    Option ControlConn :=
  if c.closed.isSome then none
  else match act with
    | .session act =>
      if act.allowed heartbeat then (c.session.step z act).map fun s => ⟨s, closing c.session s⟩ else none
    | .clientEnds => c.clientEnds
    | .clientFails => c.clientFails
    | .serverFails => c.serverFails

end ControlConn

/-! ### Both sides after the login -/

namespace Session

variable {z : Setting} {s t : Session}

/-- Once the client is connected, both heartbeat tasks are running, as far as they have not ended. -/
structure Joined (s : Session) : Prop where
  client : s.connected = true → s.client.beating = true ∨ s.client = .gone
  server : s.connected = true → s.server.beating = true ∨ s.server = .gone

theorem joined_new (z : Setting) : (new z).Joined where
  client connected := by cases connected
  server connected := by cases connected

theorem clientTick_gone (z : Setting) (gone : s.client = .gone) : s.clientTick z = none := by
  simp only [clientTick, gone]

theorem clientReceived_connected (s : Session) (msg : TunnelMessage) :
    (s.clientReceived msg).connected = true →
      s.connected = true ∨ (s.clientReceived msg).client = .tick 0 ∧ (s.clientReceived msg).server = s.server := by
  intro connected
  unfold clientReceived at connected ⊢
  dsimp only at connected ⊢
  split at connected
  · left
    unfold heartbeatResponse at connected
    split at connected
    · split at connected <;> exact connected
    · exact connected
  · unfold loginResponse at connected ⊢
    split at connected
    · exact .inl connected
    · exact .inr ⟨rfl, rfl⟩
    · exact .inl connected

/-- A client becomes connected between two exchanges. -/
theorem step_connected {act : SessionAction} (h : s.step z act = some t) (connected : t.connected = true) :
    s.connected = true ∨ t.client = .tick 0 ∧ t.server = s.server := by
  cases act with
  | clientSend count =>
    obtain ⟨_, _, _, _, _, _, rfl⟩ := clientSend_cases h
    exact .inl connected
  | clientRecv count =>
    obtain ⟨_, _, _, _, _, ⟨msg, rfl⟩ | ⟨_, rfl⟩ | ⟨_, rfl⟩⟩ := clientRecv_cases h
    · exact clientReceived_connected { s with toClient := s.toClient.drop count } msg connected
    · exact .inl connected
    · exact .inl connected
  | clientTick =>
    simp only [step, clientTick] at h
    split at h <;> cases h
    exact .inl connected
  | serverSend count =>
    obtain ⟨_, _, _, _, _, _, rfl⟩ := serverSend_cases h
    exact .inl connected
  | serverRecv count =>
    obtain ⟨_, _, _, _, _, ⟨msg, rfl⟩ | ⟨_, rfl⟩ | ⟨_, rfl⟩⟩ := serverRecv_cases h
    · obtain ⟨_, _, received, _⟩ | ⟨_, received⟩ :=
        serverReceived_cases z { s with toServer := s.toServer.drop count } msg
      all_goals
        rw [received] at connected
        exact .inl connected
    · exact .inl connected
    · exact .inl connected
  | judge bound capabilities =>
    obtain ⟨_, _, rfl | ⟨_, _, rfl⟩ | rfl⟩ := judge_cases h <;> exact .inl connected
  | clientLeave | serverLeave =>
    cases h
    exact .inl connected

theorem step_client_beating {act : SessionAction} (h : s.step z act = some t)
    (beats : s.client.beating = true ∨ s.client = .gone) : t.client.beating = true ∨ t.client = .gone := by
  by_cases untimed : act ≠ .clientTick ∧ act ≠ .clientLeave
  · have goes := step_goes h untimed
    revert beats goes
    generalize s.client = before
    generalize t.client = after
    intro beats goes
    cases goes with
    | stay _ => exact beats
    | login _ _ | asked _ | loginResp _ _ => rcases beats with beats | gone <;> contradiction
    | connected _ | ping _ _ _ | pinged _ _ | pong _ _ _ | answered _ _ => exact .inl rfl
    | refused _ | failed _ _ => exact .inr rfl
  · cases act with
    | clientTick =>
      simp only [step, clientTick] at h
      split at h <;> cases h
      exact .inl rfl
    | clientLeave =>
      cases h
      exact .inr rfl
    | _ => exact absurd ⟨(by simp), (by simp)⟩ untimed

theorem step_server_beating {act : SessionAction} (h : s.step z act = some t)
    (beats : s.server.beating = true ∨ s.server = .gone) : t.server.beating = true ∨ t.server = .gone := by
  cases act with
  | clientSend count =>
    obtain ⟨_, _, _, _, _, _, rfl⟩ := clientSend_cases h
    exact beats
  | clientRecv count =>
    obtain ⟨_, _, _, _, _, ⟨msg, rfl⟩ | ⟨_, rfl⟩ | ⟨_, rfl⟩⟩ := clientRecv_cases h
    · obtain ⟨_, _, _, received, _⟩ := clientReceived_cases { s with toClient := s.toClient.drop count } msg
      rw [received]
      exact beats
    · exact beats
    · exact beats
  | clientTick =>
    simp only [step, clientTick] at h
    split at h <;> cases h
    exact beats
  | serverSend count =>
    obtain ⟨unsent, more, next, sending, _, _, rfl⟩ := serverSend_cases h
    dsimp only
    cases phase : s.server with
    | reply seq rest =>
      rw [phase] at sending
      cases sending
      split <;> exact .inl rfl
    | failure _ | success _ => rw [phase] at beats; rcases beats with beats | gone <;> contradiction
    | login _ | judging _ | ready _ | gone => rw [phase] at sending; cases sending
  | serverRecv count =>
    obtain ⟨buf, more, receiving, _, _, outcome⟩ := serverRecv_cases h
    cases phase : s.server with
    | ready read =>
      rw [phase] at receiving
      cases receiving
      rcases outcome with ⟨msg, rfl⟩ | ⟨_, rfl⟩ | ⟨_, rfl⟩
      · unfold serverReceived heartbeatRequest
        simp only [phase]
        split <;> exact .inl rfl
      · exact .inl rfl
      · exact .inr rfl
    | login _ => rw [phase] at beats; rcases beats with beats | gone <;> contradiction
    | judging _ | failure _ | success _ | reply _ _ | gone => rw [phase] at receiving; cases receiving
  | judge bound capabilities =>
    obtain ⟨info, judging, _⟩ := judge_cases h
    rw [judging] at beats
    rcases beats with beats | gone <;> contradiction
  | clientLeave =>
    cases h
    exact beats
  | serverLeave =>
    cases h
    exact .inr rfl

/-- When the client becomes connected, the server has sent its response and waits for the next request. -/
theorem step_joined {act : SessionAction} (joined : s.Joined) (next : t.InStep z) (h : s.step z act = some t) :
    t.Joined := by
  constructor
  · intro connected
    rcases step_connected h connected with before | ⟨fresh, _⟩
    · exact step_client_beating h (joined.client before)
    · rw [fresh]
      exact .inl rfl
  · intro connected
    rcases step_connected h connected with before | ⟨fresh, _⟩
    · exact step_server_beating h (joined.server before)
    · cases next.turn with
      | request _ _ _ _ _ _ client | response _ _ _ _ _ _ client =>
        rw [fresh] at client
        exact client.elim
      | judging _ _ _ client => rw [fresh] at client; rcases client with client | client <;> cases client
      | quiet _ _ _ _ server =>
        rcases server with ready | gone
        · rw [ready]
          exact .inl rfl
        · exact .inr gone

end Session

/-! ### What holds until the connection is closed -/

theorem Incomplete.missing_pos {decode : Bytes → Option TunnelMessage} {buf : Bytes}
    (incomplete : Incomplete decode buf) : 0 < missing 4 buf := by
  obtain ⟨err, waits⟩ := incomplete
  unfold missing
  split
  · omega
  · rename_i header
    have long : 4 ≤ buf.length := by omega
    simp only [recvFrom, readExact, long, if_true] at waits
    split at waits
    · cases waits
    · by_cases whole : ofBe (buf.take 4) ≤ (buf.drop 4).length
      · simp only [whole, if_true] at waits
        split at waits <;> cases waits
      · rw [List.length_drop] at whole
        omega

namespace ControlConn

variable {heartbeat : Option HeartbeatConfig} {z : Setting} {c t : ControlConn} {act : ConnAction}

theorem clientFails_spec (h : c.clientFails = some t) :
    c.session.client ≠ .gone ∧ t = ⟨{ c.session with client := .gone }, some c.session.client.reason⟩ := by
  cases phase : c.session.client with
  | tick | gone =>
    rw [clientFails, phase] at h
    cases h
  | _ =>
    rw [clientFails, phase] at h
    obtain rfl := Option.some.inj h
    exact ⟨by simp, rfl⟩

/-- A session step after which the connection is closed if a side has failed, a client that drops the stream,
or a failure. -/
theorem step_cases (h : step heartbeat z c act = some t) :
    c.closed = none ∧
    ((∃ act s, SessionAction.allowed heartbeat act = true ∧ c.session.step z act = some s ∧
        t = ⟨s, closing c.session s⟩) ∨
      (∃ seq, c.session.client = .tick seq ∧ t = ⟨{ c.session with client := .gone }, none⟩) ∨
      (c.session.client ≠ .gone ∧ t = ⟨{ c.session with client := .gone }, some c.session.client.reason⟩) ∨
      (c.session.server ≠ .gone ∧ t = ⟨{ c.session with server := .gone }, some c.session.server.reason⟩)) := by
  unfold step at h
  split at h
  · cases h
  rename_i still
  have still : c.closed = none := by simpa using still
  refine ⟨still, ?_⟩
  cases act with
  | session act =>
    dsimp only at h
    split at h
    · rename_i allowed
      obtain ⟨s, stepped, rfl⟩ := Option.map_eq_some_iff.mp h
      exact .inl ⟨act, s, allowed, stepped, rfl⟩
    · cases h
  | clientEnds =>
    change c.clientEnds = some t at h
    unfold clientEnds at h
    split at h <;> cases h
    rename_i seq phase
    exact .inr (.inl ⟨seq, phase, by rw [still]⟩)
  | clientFails =>
    exact .inr (.inr (.inl (clientFails_spec h)))
  | serverFails =>
    change c.serverFails = some t at h
    unfold serverFails at h
    split at h <;> cases h
    rename_i guard
    refine .inr (.inr (.inr ⟨?_, rfl⟩))
    intro gone
    rw [gone] at guard
    rcases guard.2 with sends | ⟨receives, _⟩ <;> contradiction

/-- As far as the two sides are concerned, every step is one of the session. -/
theorem step_session (h : step heartbeat z c act = some t) : ∃ act, c.session.step z act = some t.session := by
  obtain ⟨_, ⟨act, s, _, stepped, rfl⟩ | ⟨_, _, rfl⟩ | ⟨_, rfl⟩ | ⟨_, rfl⟩⟩ := step_cases h
  · exact ⟨act, stepped⟩
  · exact ⟨.clientLeave, rfl⟩
  · exact ⟨.clientLeave, rfl⟩
  · exact ⟨.serverLeave, rfl⟩

theorem closing_none {before after : Session} (h : closing before after = none) (present : before.server ≠ .gone) :
    after.server ≠ .gone := by
  unfold closing at h
  split at h
  · cases h
  split at h
  · cases h
  rename_i stays
  exact fun gone => stays ⟨gone, present⟩

theorem closing_some {before after : Session} {reason : Nat × String} (h : closing before after = some reason) :
    (after.client = .gone ∧ before.client ≠ .gone ∧ reason = before.client.reason) ∨
    (after.server = .gone ∧ before.server ≠ .gone ∧ reason = before.server.reason) := by
  unfold closing at h
  split at h
  · rename_i fails
    exact .inl ⟨fails.1, fails.2, (Option.some.inj h).symm⟩
  split at h
  · rename_i fails
    exact .inr ⟨fails.1, fails.2, (Option.some.inj h).symm⟩
  · cases h

structure Kept (z : Setting) (c : ControlConn) : Prop where
  now : c.session.InStep z
  held : c.session.Held z
  joined : c.session.Joined
  server : c.closed = none → c.session.server ≠ .gone
  closed : ∀ reason, c.closed = some reason → (c.session.client = .gone ∨ c.session.server = .gone) ∧
    (c.session.connected = true → reason = heartbeatFailed)

theorem kept_start (z : Setting) : (start z).Kept z where
  now := Session.inStep_new z
  held := Session.held_new z
  joined := Session.joined_new z
  server _ gone := by cases gone
  closed reason closed := by cases closed

theorem step_kept (fits : ∀ msg, Said z msg → z.Fits msg) (kept : c.Kept z) (h : step heartbeat z c act = some t) :
    t.Kept z := by
  obtain ⟨act', stepped⟩ := step_session h
  have sent : ∀ msg ∈ c.session.asked ++ c.session.answered, z.Fits msg := fun msg said =>
    fits msg ((List.mem_append.mp said).elim (kept.held.asked msg) (kept.held.answered msg))
  have now := Session.step_inStep kept.now sent stepped
  have joined := Session.step_joined kept.joined now stepped
  -- A side that fails after the login is one whose heartbeat task runs.
  have client : c.session.client ≠ .gone → c.session.connected = true → c.session.client.reason = heartbeatFailed := by
    intro present connected
    rw [ClientPhase.reason, (kept.joined.client connected).resolve_right present, if_pos rfl]
  have server : c.session.server ≠ .gone → c.session.connected = true → c.session.server.reason = heartbeatFailed := by
    intro present connected
    rw [ServerPhase.reason, (kept.joined.server connected).resolve_right present, if_pos rfl]
  refine ⟨now, Session.step_held kept.held stepped, joined, ?_, ?_⟩
  · obtain ⟨still, ⟨_, s, _, _, rfl⟩ | ⟨_, _, rfl⟩ | ⟨_, rfl⟩ | ⟨_, rfl⟩⟩ := step_cases h
    · exact fun none => closing_none none (kept.server still)
    · exact fun _ => kept.server still
    · exact fun none => by cases none
    · exact fun none => by cases none
  · obtain ⟨still, ⟨_, s, _, within, rfl⟩ | ⟨_, _, rfl⟩ | ⟨present, rfl⟩ | ⟨present, rfl⟩⟩ := step_cases h
    · intro reason closed
      rcases closing_some closed with ⟨gone, present, rfl⟩ | ⟨gone, present, rfl⟩
      · refine ⟨.inl gone, fun connected => ?_⟩
        rcases Session.step_connected within connected with before | ⟨ticks, _⟩
        · exact client present before
        · cases gone.symm.trans ticks
      · refine ⟨.inr gone, fun connected => ?_⟩
        rcases Session.step_connected within connected with before | ⟨_, same⟩
        · exact server present before
        · exact absurd (same.symm.trans gone) present
    · intro reason closed
      cases closed
    · intro reason closed
      cases closed
      exact ⟨.inl rfl, client present⟩
    · intro reason closed
      cases closed
      exact ⟨.inr rfl, server present⟩

/-! ### A stream that the client has dropped -/

theorem step_client_gone (gone : c.session.client = .gone) (h : step heartbeat z c act = some t) :
    t.session.client = .gone := by
  obtain ⟨_, ⟨act, s, allowed, stepped, rfl⟩ | ⟨_, _, rfl⟩ | ⟨_, rfl⟩ | ⟨_, rfl⟩⟩ := step_cases h
  · by_cases untimed : act ≠ .clientTick ∧ act ≠ .clientLeave
    · have goes := Session.step_goes stepped untimed
      rw [gone] at goes
      generalize s.client = after at goes ⊢
      cases goes
      rfl
    · cases act with
      | clientTick =>
        exact absurd stepped (by simp [Session.step, Session.clientTick_gone z gone])
      | clientLeave => cases allowed
      | _ => exact absurd ⟨(by simp), (by simp)⟩ untimed
  · rfl
  · rfl
  · exact gone

/-- The closing itself counts, and so does the client that is still there. -/
def todo (c : ControlConn) : Nat :=
  if c.closed.isSome then 0
  else c.session.todo + 1 + (if c.session.client = .gone then 0 else 1)

theorem todo_closed (session : Session) (reason : Nat × String) : todo ⟨session, some reason⟩ = 0 := rfl

theorem todo_open (session : Session) :
    todo ⟨session, none⟩ = session.todo + 1 + (if session.client = .gone then 0 else 1) := rfl

/-- Without ticks there is nothing to begin. -/
theorem step_todo (fits : ∀ msg, Said z msg → z.Fits msg) (kept : c.Kept z)
    (ends : heartbeat = none ∨ c.session.client = .gone) (h : step heartbeat z c act = some t) : t.todo < c.todo := by
  have after := step_kept fits kept h
  have stays := fun gone => step_client_gone gone h
  obtain ⟨session, closed⟩ := c
  obtain ⟨rfl, ⟨act, s, allowed, stepped, rfl⟩ | ⟨seq, ticks, rfl⟩ | ⟨_, rfl⟩ | ⟨_, rfl⟩⟩ := step_cases h
  · have moves : act.moves = true := by
      cases act with
      | clientTick =>
        rcases ends with rfl | gone
        · cases allowed
        · exact absurd stepped (by simp [Session.step, Session.clientTick_gone z gone])
      | clientLeave | serverLeave => cases allowed
      | _ => rfl
    have less : s.todo < session.todo :=
      Session.step_todo kept.now (fun msg said => fits msg (after.held.answered msg said)) moves stepped
    cases reason : closing session s with
    | some reason =>
      rw [todo_closed, todo_open]
      omega
    | none =>
      have fewer : (if s.client = .gone then 0 else 1) ≤ if session.client = .gone then 0 else 1 := by
        split
        · exact Nat.zero_le _
        · rename_i present
          rw [if_neg fun gone => present (stays gone)]
      rw [todo_open, todo_open]
      omega
  · have same : Session.todo { session with client := .gone } = session.todo := by
      have before : session.client.unsent = 0 := ClientPhase.unsent_of_none (by rw [ticks]; rfl)
      have gone : ClientPhase.unsent .gone = 0 := rfl
      simp only [Session.todo, before, gone]
    have present : session.client ≠ .gone := by
      rw [ticks]
      exact ClientPhase.noConfusion
    rw [todo_open, todo_open, same, if_pos rfl, if_neg present]
    omega
  · rw [todo_closed, todo_open]
    omega
  · rw [todo_closed, todo_open]
    omega

/-- The server reads what has come and then finds the end of the stream. -/
theorem server_goes_on (kept : c.Kept z) (still : c.closed = none) (gone : c.session.client = .gone) :
    ∃ act, (step heartbeat z c act).isSome := by
  have fails : c.session.server.sending.isSome ∨ c.session.server.receiving.isSome ∧ c.session.toServer = [] →
      (step heartbeat z c .serverFails).isSome := by
    intro guard
    simp [step, still, serverFails, gone, guard]
  cases phase : c.session.server with
  | login buf | ready buf =>
    have receiving : ∃ more, c.session.server.receiving = some (buf, more) := by rw [phase]; exact ⟨_, rfl⟩
    obtain ⟨more, receiving⟩ := receiving
    by_cases drained : c.session.toServer = []
    · exact ⟨.serverFails, fails (.inr ⟨by rw [receiving]; rfl, drained⟩)⟩
    · have reads := Session.serverRecv_isSome z receiving drained (kept.held.server buf more receiving).missing_pos
      refine ⟨.session (.serverRecv 1), ?_⟩
      simpa [step, still, SessionAction.allowed, Session.step] using reads
  | judging info =>
    have decides := Session.judge_isSome z phase
    refine ⟨.session (.judge none ⟨false⟩), ?_⟩
    simpa [step, still, SessionAction.allowed, Session.step] using decides
  | failure rest | success rest | reply seq rest => exact ⟨.serverFails, fails (.inl (by rw [phase]; rfl))⟩
  | gone => exact absurd phase (kept.server still)

theorem can_go_on (fits : ∀ msg, Said z msg → z.Fits msg) (kept : c.Kept z) (still : c.closed = none) :
    ∃ act, (step heartbeat z c act).isSome := by
  by_cases gone : c.session.client = .gone
  · exact server_goes_on kept still gone
  · rcases Session.can_move kept.now kept.held fits gone (kept.server still) with ⟨seq, ticks⟩ | ⟨act, moves, can⟩
    · exact ⟨.clientEnds, by simp [step, still, clientEnds, ticks]⟩
    · have allowed : act.allowed heartbeat = true := by
        cases act <;> first | rfl | cases moves
      exact ⟨.session act, by simpa [step, still, allowed] using can⟩

/-- The login of a client whose heartbeat is disabled, and what comes of it. -/
def disabledRun : List ConnAction :=
  (Session.heartbeatRun.take 10).map .session ++ [.clientEnds, .serverFails]

end ControlConn

end Rstun.Control
