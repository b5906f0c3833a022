import Rstun.Base.Timer
import Rstun.Control.Exchange

/-!
# The heartbeat and the clock

The control stream with the clock of the client. `client_heartbeat` waits for the ticks of an interval that
skips missed ones, writes a request and waits for the response under a timeout. Writing has no timeout. The
task of the heartbeat also ends when the connection is closed, and it closes the connection when
`client_heartbeat` fails. The clock counts nanoseconds.
-/

namespace Rstun.Control
open Transition Timer Rstun.Tunnel

structure HeartbeatConfig where
  interval : Nat
  timeout : Nat
  interval_pos : 0 < interval
  timeout_pos : 0 < timeout

/-- `start_heartbeat_task` starts nothing if one of the two is 0. -/
def startHeartbeatTask (heartbeatIntervalMs heartbeatTimeoutMs : UInt64) : Option HeartbeatConfig :=
  if h : heartbeatIntervalMs.toNat = 0 ∨ heartbeatTimeoutMs.toNat = 0 then none
  else some ⟨heartbeatIntervalMs.toNat * 1000000, heartbeatTimeoutMs.toNat * 1000000, by omega, by omega⟩

/-- An interval of `tokio` takes a tick that is not later than this to be in time. -/
def tickSlack : Nat := 5000000

/-- The clock and the timers. `since` is when the present phase of the client began, and `ticker` is when the
interval is due, which is made when the task runs first. The rest is for the record: when the client was told
to stop, when the login succeeded, when the last message came, when the last heartbeat was begun, how long it
took to be written and how many there were, the heartbeat that was not answered in time, and how the
connection was closed. -/
structure Watch where
  now : Nat
  since : Nat
  ticker : Option Nat
  stopping : Option Nat
  began : Nat
  heard : Nat
  pinged : Option Nat
  writing : Nat
  pings : Nat
  timedOut : Option UInt64
  closed : Option (Nat × String)
  deriving DecidableEq

structure TimedSession where
  session : Session
  watch : Watch
  deriving DecidableEq

/-- `session` is a step of the client or of the server that no timer decides about. `fails` is an error of the
stream. -/
inductive TimedAction where
  | pass (duration : Nat)
  | session (act : SessionAction)
  | interval
  | tick
  | timeout
  | fails
  | connClosed
  | stop

/-- The task of the heartbeat is running. -/
def ClientPhase.beating : ClientPhase → Bool
  | tick _ | ping _ _ | pong _ _ => true
  | _ => false

namespace Watch

/-- What the clock makes of a step from one phase of the client to another. -/
def enter (w : Watch) (before after : ClientPhase) : Watch :=
  match before, after with
  | .loginResp _, .tick _ => { w with since := w.now, began := w.now, heard := w.now }
  | .ping _ _, .pong _ _ => { w with since := w.now, writing := w.now - w.since }
  | .pong _ _, .tick _ => { w with since := w.now, heard := w.now }
  | .pong _ _, .gone => { w with closed := some (1, "heartbeat failed") }
  | _, _ => w

theorem pings_enter (w : Watch) (before after : ClientPhase) : (w.enter before after).pings = w.pings := by
  unfold enter
  split <;> rfl

/-- Until when the client stays in its phase if nothing else comes. -/
def due (config : HeartbeatConfig) (lag : Nat) (w : Watch) : ClientPhase → Option Nat
  | .tick _ => some (latest lag w.since (w.ticker.getD w.since))
  | .pong _ _ => some (latest lag w.since (w.since + config.timeout))
  | _ => none

/-- How long the last heartbeat took to be written, so far. -/
def blocked (w : Watch) : ClientPhase → Nat
  | .ping _ _ => w.now - w.since
  | _ => w.writing

end Watch

namespace TimedSession

def start (z : Setting) : TimedSession where
  session := Session.new z
  watch := ⟨0, 0, none, none, 0, 0, none, 0, 0, none, none⟩

def leave (t : TimedSession) : TimedSession := { t with session := { t.session with client := .gone } }

/-- The tick and what follows it up to the next `await`. -/
def tick (config : HeartbeatConfig) (z : Setting) (t : TimedSession) : Option TimedSession :=
  match t.session.client, t.watch.ticker with
  | .tick _, some deadline =>
    if deadline ≤ t.watch.now then
      if t.watch.stopping.isSome then some t.leave
      else (t.session.clientTick z).map fun session =>
        { session := session
          watch := { t.watch with
            since := t.watch.now
            ticker := some (skip tickSlack config.interval deadline t.watch.now)
            pinged := some t.watch.now
            pings := t.watch.pings + 1 } }
    else none
  | _, _ => none

def timeout (config : HeartbeatConfig) (t : TimedSession) : Option TimedSession :=
  match t.session.client with
  | .pong seq _ =>
    if t.watch.since + config.timeout ≤ t.watch.now then
      some { t.leave with watch := { t.watch with timedOut := some seq, closed := some (1, "heartbeat failed") } }
    else none
  | _ => none

def step (config : HeartbeatConfig) (lag : Nat) (z : Setting) (t : TimedSession) : TimedAction → Option TimedSession
  | .pass duration =>
    if ∀ due ∈ t.watch.due config lag t.session.client, t.watch.now + duration ≤ due then
      some { t with watch := { t.watch with now := t.watch.now + duration } }
    else none
  | .session act =>
    match act with
    | .clientTick | .clientLeave => none
    | act => (t.session.step z act).map fun session =>
        ⟨session, t.watch.enter t.session.client session.client⟩
  | .interval =>
    match t.session.client, t.watch.ticker with
    | .tick _, none => some { t with watch := { t.watch with ticker := some t.watch.now } }
    | _, _ => none
  | .tick => t.tick config z
  | .timeout => t.timeout config
  | .fails =>
    match t.session.client with
    | .ping _ _ | .pong _ _ => some { t.leave with watch := { t.watch with closed := some (1, "heartbeat failed") } }
    | _ => none
  | .connClosed => if t.session.client.beating then some t.leave else none
  | .stop =>
    if t.watch.stopping = none then some { t with watch := { t.watch with stopping := some t.watch.now } } else none

end TimedSession

/-! ### The steps of the client -/

/-- How the client goes on with neither a tick nor leaving. -/
inductive ClientPhase.Goes : ClientPhase → ClientPhase → Prop
  | stay (c : ClientPhase) : Goes c c
  | login (unsent rest : Bytes) : Goes (.login unsent) (.login rest)
  | asked (unsent : Bytes) : Goes (.login unsent) (.loginResp [])
  | loginResp (buf more : Bytes) : Goes (.loginResp buf) (.loginResp more)
  | connected (buf : Bytes) : Goes (.loginResp buf) (.tick 0)
  | refused (buf : Bytes) : Goes (.loginResp buf) .gone
  | ping (seq : UInt64) (unsent rest : Bytes) : Goes (.ping seq unsent) (.ping seq rest)
  | pinged (seq : UInt64) (unsent : Bytes) : Goes (.ping seq unsent) (.pong seq [])
  | pong (seq : UInt64) (buf more : Bytes) : Goes (.pong seq buf) (.pong seq more)
  | answered (seq : UInt64) (buf : Bytes) : Goes (.pong seq buf) (.tick seq)
  | failed (seq : UInt64) (buf : Bytes) : Goes (.pong seq buf) .gone

section Steps
open ClientPhase

variable {z : Setting} {s s' : Session} {count : Nat}

theorem Session.clientSend_goes (h : s.clientSend count = some s') : Goes s.client s'.client := by
  obtain ⟨unsent, more, next, sending, _, _, rfl⟩ := clientSend_cases h
  dsimp only
  cases phase : s.client with
  | login unsent =>
    rw [phase] at sending
    cases sending
    split
    · exact .asked _
    · exact .login ..
  | ping seq unsent =>
    rw [phase] at sending
    cases sending
    split
    · exact .pinged ..
    · exact .ping ..
  | _ =>
    rw [phase] at sending
    cases sending

theorem Session.clientReceived_goes {buf : Bytes} {more : Bytes → ClientPhase} (msg : TunnelMessage)
    (receiving : s.client.receiving = some (buf, more)) : Goes s.client (s.clientReceived msg).client := by
  unfold clientReceived
  cases phase : s.client with
  | loginResp buf =>
    dsimp only
    unfold loginResponse
    split
    · exact .refused _
    · exact .connected _
    · exact .refused _
  | pong seq buf =>
    dsimp only
    unfold heartbeatResponse
    split
    · split <;> exact .answered ..
    · exact .answered ..
  | _ =>
    rw [phase] at receiving
    cases receiving

theorem Session.clientRecv_goes (h : s.clientRecv z count = some s') : Goes s.client s'.client := by
  obtain ⟨buf, more, receiving, _, _, ⟨msg, rfl⟩ | ⟨_, rfl⟩ | ⟨err, rfl⟩⟩ := clientRecv_cases h
  · exact clientReceived_goes (s := { s with toClient := s.toClient.drop count }) msg receiving
  all_goals
    cases phase : s.client <;> rw [phase] at receiving <;> cases receiving
  · exact .loginResp ..
  · exact .pong ..
  · exact .refused _
  · exact .failed ..

/-- The server leaves the client where it is. -/
theorem Session.server_goes (h : s'.client = s.client) : Goes s.client s'.client := by
  rw [h]
  exact .stay _

theorem Session.step_goes {act : SessionAction} (h : s.step z act = some s')
    (untimed : act ≠ .clientTick ∧ act ≠ .clientLeave) : Goes s.client s'.client := by
  cases act with
  | clientSend count => exact clientSend_goes h
  | clientRecv count => exact clientRecv_goes h
  | clientTick => exact absurd rfl untimed.1
  | clientLeave => exact absurd rfl untimed.2
  | serverSend count =>
    obtain ⟨_, _, _, _, _, _, rfl⟩ := serverSend_cases h
    exact server_goes rfl
  | serverRecv count =>
    obtain ⟨_, _, _, _, _, ⟨msg, rfl⟩ | ⟨_, rfl⟩ | ⟨_, rfl⟩⟩ := serverRecv_cases h
    · apply server_goes
      obtain ⟨_, _, received, _⟩ | ⟨_, received⟩ :=
        serverReceived_cases z { s with toServer := s.toServer.drop count } msg
      all_goals rw [received]
      rfl
    · exact server_goes rfl
    · exact server_goes rfl
  | judge bound capabilities =>
    obtain ⟨_, _, rfl | ⟨_, _, rfl⟩ | rfl⟩ := judge_cases h <;> exact server_goes rfl
  | serverLeave =>
    cases h
    exact server_goes rfl

end Steps

/-! ### What the clock keeps to -/

namespace Watch

variable {config : HeartbeatConfig} {lag : Nat} {w : Watch} {c d : ClientPhase}

/-- How far the clock can be ahead of the last message. -/
def Near (config : HeartbeatConfig) (lag : Nat) (w : Watch) : ClientPhase → Prop
  | .login _ | .loginResp _ => w.ticker = none ∧ w.timedOut = none
  | .tick _ => w.since = w.heard ∧ (w.ticker = none → w.since = w.began) ∧
      (∀ deadline ∈ w.ticker, deadline ≤ w.heard + config.interval + lag) ∧
      w.now ≤ latest lag w.since (w.ticker.getD w.since) ∧ w.timedOut = none
  | .ping _ _ => w.heard ≤ w.since ∧ w.since ≤ w.heard + config.interval + 2 * lag ∧
      w.ticker ≠ none ∧ w.timedOut = none
  | .pong _ _ => w.heard ≤ w.since ∧ w.since ≤ w.heard + config.interval + 2 * lag + w.writing ∧
      w.now ≤ latest lag w.since (w.since + config.timeout) ∧ w.ticker ≠ none ∧ w.timedOut = none
  | .gone => ∀ seq ∈ w.timedOut, w.heard ≤ w.since ∧ w.since + config.timeout ≤ w.now ∧
      w.closed = some (1, "heartbeat failed")

/-- How far the client can have come since it was told to stop, or since the task began. -/
def Quits (config : HeartbeatConfig) (lag : Nat) (w : Watch) (stop : Nat) : ClientPhase → Prop
  | .tick _ => w.since ≤ max stop w.began + w.writing + config.timeout + lag
  | .ping _ _ => w.since ≤ max stop w.began
  | .pong _ _ => w.since ≤ max stop w.began + w.writing
  | _ => True

structure Kept (config : HeartbeatConfig) (lag : Nat) (c : ClientPhase) (w : Watch) : Prop where
  past : w.since ≤ w.now ∧ w.heard ≤ w.now ∧ w.began ≤ w.now
  pinged : ∀ time ∈ w.pinged, time ≤ w.now
  stopped : ∀ stop ∈ w.stopping, stop ≤ w.now ∧ ∀ time ∈ w.pinged, time ≤ stop
  fresh : w.ticker = none → w.pings = 0
  ticker : ∀ deadline ∈ w.ticker,
    w.began + w.pings * config.interval ≤ deadline ∧ deadline ≤ w.now + config.interval
  near : w.Near config lag c
  quits : ∀ stop ∈ w.stopping, w.Quits config lag stop c ∧
    ∀ deadline ∈ w.ticker, deadline ≤ max stop w.began + config.interval + lag

theorem kept_start (z : Setting) : Kept config lag (Session.new z).client (TimedSession.start z).watch where
  past := ⟨Nat.le_refl _, Nat.le_refl _, Nat.le_refl _⟩
  pinged := by simp [TimedSession.start]
  stopped := by simp [TimedSession.start]
  fresh _ := rfl
  ticker := by simp [TimedSession.start]
  near := ⟨rfl, rfl⟩
  quits := by simp [TimedSession.start]

/-- Time passes, but not beyond what the present phase waits for. -/
theorem Kept.pass (kept : Kept config lag c w) {duration : Nat}
    (due : ∀ due ∈ w.due config lag c, w.now + duration ≤ due) :
    Kept config lag c { w with now := w.now + duration } := by
  obtain ⟨past, pinged, stopped, fresh, ticker, near, quits⟩ := kept
  refine ⟨by dsimp only; omega, ?_, ?_, fresh, ?_, ?_, ?_⟩
  · intro time member
    exact Nat.le_trans (pinged time member) (Nat.le_add_right ..)
  · intro stop member
    exact ⟨Nat.le_trans (stopped stop member).1 (Nat.le_add_right ..), (stopped stop member).2⟩
  · intro deadline member
    have bounds := ticker deadline member
    dsimp only
    omega
  · cases c with
    | tick seq => exact ⟨near.1, near.2.1, near.2.2.1, due _ rfl, near.2.2.2.2⟩
    | pong seq buf => exact ⟨near.1, near.2.1, due _ rfl, near.2.2.2⟩
    | gone =>
      intro seq member
      obtain ⟨heard, waited, closed⟩ := near seq member
      exact ⟨heard, Nat.le_trans waited (Nat.le_add_right ..), closed⟩
    | _ => exact near
  · intro stop member
    refine ⟨?_, (quits stop member).2⟩
    cases c <;> exact (quits stop member).1

/-- The client goes from one phase to the next. -/
theorem Kept.enter (kept : Kept config lag c w) (goes : c.Goes d) : Kept config lag d (w.enter c d) := by
  obtain ⟨past, pinged, stopped, fresh, ticker, near, quits⟩ := kept
  cases goes with
  | stay =>
    have same : w.enter c c = w := by cases c <;> rfl
    rw [same]
    exact ⟨past, pinged, stopped, fresh, ticker, near, quits⟩
  | login | asked | loginResp | ping | pong => exact ⟨past, pinged, stopped, fresh, ticker, near, quits⟩
  | connected =>
    obtain ⟨none, quiet⟩ := near
    have never : ∀ deadline, deadline ∉ w.ticker := by simp [none]
    refine ⟨⟨Nat.le_refl _, Nat.le_refl _, Nat.le_refl _⟩, pinged, stopped, fresh, ?_, ?_, ?_⟩
    · exact fun deadline member => absurd member (never deadline)
    · exact ⟨rfl, fun _ => rfl, fun deadline member => absurd member (never deadline), by
        simp only [Watch.enter, latest]; omega, quiet⟩
    · intro stop member
      refine ⟨?_, fun deadline member => absurd member (never deadline)⟩
      simp only [Quits, Watch.enter]
      omega
  | refused =>
    exact ⟨past, pinged, stopped, fresh, ticker, by simp [Near, Watch.enter, near.2],
      fun stop member => ⟨trivial, (quits stop member).2⟩⟩
  | pinged seq unsent =>
    refine ⟨⟨Nat.le_refl _, past.2⟩, pinged, stopped, fresh, ticker, ?_, ?_⟩
    · obtain ⟨_, soon, made, quiet⟩ := near
      refine ⟨past.2.1, ?_, ?_, made, quiet⟩
      · simp only [Watch.enter]
        omega
      · simp only [Watch.enter, latest]
        omega
    · intro stop member
      have before := (quits stop member).1
      refine ⟨?_, (quits stop member).2⟩
      simp only [Quits, Watch.enter] at before ⊢
      omega
  | answered seq buf =>
    refine ⟨⟨Nat.le_refl _, Nat.le_refl _, past.2.2⟩, pinged, stopped, fresh, ticker, ?_, ?_⟩
    · obtain ⟨_, _, _, made, quiet⟩ := near
      refine ⟨rfl, fun none => absurd none made, ?_, ?_, quiet⟩
      · intro deadline member
        exact Nat.le_trans (ticker deadline member).2 (Nat.le_add_right ..)
      · simp only [Watch.enter, latest]
        omega
    · intro stop member
      have before := (quits stop member).1
      refine ⟨?_, (quits stop member).2⟩
      simp only [Quits, Watch.enter, Near, latest] at before near ⊢
      omega
  | failed seq buf =>
    exact ⟨past, pinged, stopped, fresh, ticker, by simp [Near, Watch.enter, near.2.2.2.2],
      fun stop member => ⟨trivial, (quits stop member).2⟩⟩

/-- The task ends. Only a timeout leaves something to be kept to. -/
theorem Kept.leave (kept : Kept config lag c w) {closed : Option (Nat × String)} (quiet : w.timedOut = none) :
    Kept config lag .gone { w with closed := closed } :=
  ⟨kept.past, kept.pinged, kept.stopped, kept.fresh, kept.ticker, by simp [Near, quiet],
    fun stop member => ⟨trivial, (kept.quits stop member).2⟩⟩

theorem Kept.quiet (kept : Kept config lag c w) (beating : c.beating = true) : w.timedOut = none := by
  cases c with
  | tick seq => exact kept.near.2.2.2.2
  | ping seq unsent => exact kept.near.2.2.2
  | pong seq buf => exact kept.near.2.2.2.2
  | _ => cases beating

theorem Kept.timeout {seq : UInt64} {buf : Bytes} (kept : Kept config lag (.pong seq buf) w)
    (due : w.since + config.timeout ≤ w.now) :
    Kept config lag .gone { w with timedOut := some seq, closed := some (1, "heartbeat failed") } :=
  ⟨kept.past, kept.pinged, kept.stopped, kept.fresh, kept.ticker, fun _ _ => ⟨kept.near.1, due, rfl⟩,
    fun stop member => ⟨trivial, (kept.quits stop member).2⟩⟩

/-- The interval is made, and is due at once. -/
theorem Kept.interval {seq : UInt64} (kept : Kept config lag (.tick seq) w) (none : w.ticker = none) :
    Kept config lag (.tick seq) { w with ticker := some w.now } := by
  obtain ⟨past, pinged, stopped, fresh, ticker, ⟨answered, began, _, soon, quiet⟩, quits⟩ := kept
  simp only [none, Option.getD_none, latest] at soon
  have first := began none
  refine ⟨past, pinged, stopped, (by simp), ?_, ⟨answered, (by simp), ?_, ?_, quiet⟩, ?_⟩
  · rintro deadline ⟨⟩
    simp only [fresh none]
    omega
  · rintro deadline ⟨⟩
    dsimp only
    omega
  · simp only [Option.getD_some, latest]
    omega
  · intro stop member
    refine ⟨(quits stop member).1, ?_⟩
    rintro deadline ⟨⟩
    dsimp only
    omega

/-- The tick is taken by a client that goes on. -/
theorem Kept.tick {seq seq' : UInt64} {unsent : Bytes} {deadline : Nat} (kept : Kept config lag (.tick seq) w)
    (made : w.ticker = some deadline) (due : deadline ≤ w.now) (running : w.stopping = none) :
    Kept config lag (.ping seq' unsent) { w with
      since := w.now
      ticker := some (skip tickSlack config.interval deadline w.now)
      pinged := some w.now
      pings := w.pings + 1 } := by
  obtain ⟨past, pinged, stopped, fresh, ticker, ⟨answered, began, near, soon, quiet⟩, quits⟩ := kept
  have never : ∀ stop, stop ∉ w.stopping := by simp [running]
  have later : deadline + config.interval ≤ skip tickSlack config.interval deadline w.now := le_skip due
  have next : skip tickSlack config.interval deadline w.now ≤ w.now + config.interval := skip_le due
  have bounds := ticker deadline made
  have close := near deadline made
  simp only [made, Option.getD_some, latest] at soon
  refine ⟨⟨Nat.le_refl _, past.2⟩, ?_, fun stop member => absurd member (never stop), (by simp),
    ?_, ⟨past.2.1, ?_, (by simp), quiet⟩, fun stop member => absurd member (never stop)⟩
  · rintro time ⟨⟩
    exact Nat.le_refl _
  · rintro after ⟨⟩
    dsimp only
    rw [Nat.succ_mul]
    omega
  · dsimp only
    omega

/-- The client is told to stop. -/
theorem Kept.stop (kept : Kept config lag c w) : Kept config lag c { w with stopping := some w.now } := by
  obtain ⟨past, pinged, stopped, fresh, ticker, near, quits⟩ := kept
  refine ⟨past, pinged, ?_, fresh, ticker, ?_, ?_⟩
  · rintro stop ⟨⟩
    exact ⟨Nat.le_refl _, pinged⟩
  · cases c <;> exact near
  · rintro stop ⟨⟩
    refine ⟨?_, ?_⟩
    · cases c with
      | tick _ | ping _ _ | pong _ _ =>
        simp only [Quits]
        omega
      | _ => trivial
    · intro deadline member
      have bounds := ticker deadline member
      dsimp only
      omega

/-- The last message is not long ago while the task is running. -/
theorem Kept.silence (kept : Kept config lag c w) (beating : c.beating = true) :
    w.now ≤ w.heard + config.interval + config.timeout + 3 * lag + w.blocked c := by
  obtain ⟨past, _, _, _, _, near, _⟩ := kept
  cases c with
  | tick seq =>
    obtain ⟨answered, _, close, soon, _⟩ := near
    cases made : w.ticker with
    | none =>
      simp only [made, Option.getD_none, latest] at soon
      omega
    | some deadline =>
      have bound := close deadline made
      simp only [made, Option.getD_some, latest] at soon
      omega
  | ping seq unsent =>
    simp only [Near, blocked] at near ⊢
    omega
  | pong seq buf =>
    simp only [Near, blocked, latest] at near ⊢
    omega
  | _ => cases beating

/-- And neither is the time when it was told to stop. -/
theorem Kept.stopping (kept : Kept config lag c w) (beating : c.beating = true) {stop : Nat}
    (told : w.stopping = some stop) :
    w.now ≤ max stop w.began + max config.interval config.timeout + 2 * lag + w.blocked c := by
  obtain ⟨quits, close⟩ := kept.quits stop told
  obtain ⟨past, _, _, _, _, near, _⟩ := kept
  cases c with
  | tick seq =>
    obtain ⟨answered, began, _, soon, _⟩ := near
    simp only [Quits, blocked] at quits ⊢
    cases made : w.ticker with
    | none =>
      have first := began made
      simp only [made, Option.getD_none, latest] at soon
      omega
    | some deadline =>
      have bound := close deadline made
      simp only [made, Option.getD_some, latest] at soon
      omega
  | ping seq unsent =>
    simp only [Quits, blocked] at quits ⊢
    omega
  | pong seq buf =>
    simp only [Near, Quits, blocked, latest] at near quits ⊢
    omega
  | _ => cases beating

/-- The heartbeats do not come closer to each other than the interval in the long run. -/
theorem Kept.rate (kept : Kept config lag c w) : w.began + w.pings * config.interval ≤ w.now + config.interval := by
  cases made : w.ticker with
  | none =>
    have past := kept.past
    rw [kept.fresh made]
    omega
  | some deadline =>
    have bounds := kept.ticker deadline made
    omega

end Watch

/-! ### Whole runs -/

section Asked
variable {z : Setting} {s s' : Session}

/-- Only a tick makes the client ask. -/
theorem Session.step_asked {act : SessionAction} (h : s.step z act = some s') (untimed : act ≠ .clientTick) :
    s'.asked = s.asked := by
  cases act with
  | clientSend count =>
    obtain ⟨_, _, _, _, _, _, rfl⟩ := clientSend_cases h
    rfl
  | clientRecv count =>
    obtain ⟨_, _, _, _, _, ⟨msg, rfl⟩ | ⟨_, rfl⟩ | ⟨_, rfl⟩⟩ := clientRecv_cases h
    · obtain ⟨_, _, _, received, _⟩ := clientReceived_cases { s with toClient := s.toClient.drop count } msg
      rw [received]
    · rfl
    · rfl
  | clientTick => exact absurd rfl untimed
  | clientLeave =>
    cases h
    rfl
  | serverSend count =>
    obtain ⟨_, _, _, _, _, _, rfl⟩ := serverSend_cases h
    rfl
  | serverRecv count =>
    obtain ⟨_, _, _, _, _, ⟨msg, rfl⟩ | ⟨_, rfl⟩ | ⟨_, rfl⟩⟩ := serverRecv_cases h
    · obtain ⟨_, _, received, _⟩ | ⟨_, received⟩ :=
        serverReceived_cases z { s with toServer := s.toServer.drop count } msg
      all_goals rw [received]
      rfl
    · rfl
    · rfl
  | judge bound capabilities =>
    obtain ⟨_, _, rfl | ⟨_, _, rfl⟩ | rfl⟩ := judge_cases h <;> rfl
  | serverLeave =>
    cases h
    rfl

end Asked

namespace TimedSession

variable {config : HeartbeatConfig} {lag : Nat} {z : Setting} {t u : TimedSession} {act : TimedAction}

/-- The clock goes with the session: the client asks for the login first, and then for each heartbeat. -/
structure Kept (config : HeartbeatConfig) (lag : Nat) (t : TimedSession) : Prop where
  watch : t.watch.Kept config lag t.session.client
  asked : t.session.asked.length = t.watch.pings + 1

theorem tick_kept (kept : t.Kept config lag) (h : t.tick config z = some u) : u.Kept config lag := by
  obtain ⟨watch, asked⟩ := kept
  unfold tick at h
  split at h
  case h_2 => cases h
  rename_i seq deadline phase made
  rw [phase] at watch
  split at h
  case isFalse => cases h
  rename_i due
  split at h
  · cases h
    exact ⟨watch.leave (watch.quiet rfl), asked⟩
  · rename_i running
    simp only [Session.clientTick, phase, Option.map_some, Option.some.injEq] at h
    subst h
    refine ⟨watch.tick made due (by simpa using running), ?_⟩
    rw [List.length_append, asked]
    rfl

theorem timeout_kept (kept : t.Kept config lag) (h : t.timeout config = some u) : u.Kept config lag := by
  obtain ⟨watch, asked⟩ := kept
  unfold timeout at h
  split at h
  · rename_i seq buf phase
    rw [phase] at watch
    split at h <;> cases h
    rename_i due
    exact ⟨watch.timeout due, asked⟩
  · cases h

theorem step_kept (kept : t.Kept config lag) (h : step config lag z t act = some u) : u.Kept config lag := by
  cases act with
  | pass duration =>
    simp only [step] at h
    split at h <;> cases h
    rename_i due
    exact ⟨kept.watch.pass due, kept.asked⟩
  | session act =>
    simp only [step] at h
    split at h
    · cases h
    · cases h
    · rename_i ticks leaves
      obtain ⟨session, stepped, rfl⟩ := Option.map_eq_some_iff.mp h
      refine ⟨kept.watch.enter (Session.step_goes stepped ⟨ticks, leaves⟩), ?_⟩
      rw [Session.step_asked stepped ticks, kept.asked, Watch.pings_enter]
  | interval =>
    obtain ⟨watch, asked⟩ := kept
    simp only [step] at h
    split at h <;> cases h
    rename_i phase none
    rw [phase] at watch
    exact ⟨phase ▸ watch.interval none, asked⟩
  | tick => exact tick_kept kept h
  | timeout => exact timeout_kept kept h
  | fails =>
    obtain ⟨watch, asked⟩ := kept
    simp only [step] at h
    split at h <;> cases h
    all_goals
      rename_i phase
      rw [phase] at watch
      exact ⟨watch.leave (watch.quiet rfl), asked⟩
  | connClosed =>
    simp only [step] at h
    split at h <;> cases h
    rename_i beating
    exact ⟨kept.watch.leave (kept.watch.quiet beating), kept.asked⟩
  | stop =>
    simp only [step] at h
    split at h <;> cases h
    exact ⟨kept.watch.stop, kept.asked⟩

theorem run_kept {acts : List TimedAction} (h : run (step config lag z) (start z) acts = some t) :
    t.Kept config lag :=
  run_invariant (fun _ _ _ => step_kept) ⟨Watch.kept_start z, rfl⟩ h

/-- The clock is held up by a timer only, and then the client can act on it. -/
theorem can_go_on (config : HeartbeatConfig) (lag : Nat) (z : Setting) (t : TimedSession) :
    ∃ act ∈ [TimedAction.pass 1, .interval, .tick, .timeout], (step config lag z t act).isSome := by
  by_cases free : ∀ due ∈ t.watch.due config lag t.session.client, t.watch.now + 1 ≤ due
  · refine ⟨.pass 1, by simp, ?_⟩
    rw [step, if_pos free]
    rfl
  have held : ∃ due ∈ t.watch.due config lag t.session.client, due < t.watch.now + 1 := by
    simpa using free
  obtain ⟨due, waits, reached⟩ := held
  cases phase : t.session.client with
  | tick seq =>
    rw [phase] at waits
    cases made : t.watch.ticker with
    | none => exact ⟨.interval, by simp, by simp [step, phase, made]⟩
    | some deadline =>
      simp only [Watch.due, made, Option.getD_some, Option.mem_def, Option.some.injEq, latest] at waits
      have passed : deadline ≤ t.watch.now := by omega
      refine ⟨.tick, by simp, ?_⟩
      simp only [step, tick, phase, made, passed, if_true]
      split
      · rfl
      · simp [Session.clientTick, phase]
  | pong seq buf =>
    rw [phase] at waits
    simp only [Watch.due, Option.mem_def, Option.some.injEq, latest] at waits
    have passed : t.watch.since + config.timeout ≤ t.watch.now := by omega
    exact ⟨.timeout, by simp, by simp [step, timeout, phase, passed]⟩
  | _ =>
    rw [phase] at waits
    cases waits

/-- While the heartbeat is running, the server was heard of within the interval and the timeout, but for the
time that the request takes to be written and the lag of the timers. It gives up only if there is no response
for the timeout. A client that is told to stop begins no heartbeat any more and leaves in time. -/
theorem silence_bounded {acts : List TimedAction} (ran : run (step config lag z) (start z) acts = some t) :
    (t.session.client.beating = true → t.watch.now ≤
      t.watch.heard + config.interval + config.timeout + 3 * lag + t.watch.blocked t.session.client) ∧
    (∀ seq ∈ t.watch.timedOut,
      t.watch.heard ≤ t.watch.since ∧ t.watch.since + config.timeout ≤ t.watch.now ∧
      t.session.client = .gone ∧ t.watch.closed = some (1, "heartbeat failed")) ∧
    t.watch.began + (t.session.asked.length - 1) * config.interval ≤ t.watch.now + config.interval ∧
    (∀ stop ∈ t.watch.stopping, (∀ time ∈ t.watch.pinged, time ≤ stop) ∧
      (t.session.client.beating = true → t.watch.now ≤ max stop t.watch.began +
        max config.interval config.timeout + 2 * lag + t.watch.blocked t.session.client)) ∧
    ∃ act ∈ [TimedAction.pass 1, .interval, .tick, .timeout], (step config lag z t act).isSome := by
  obtain ⟨kept, asked⟩ := run_kept ran
  refine ⟨kept.silence, ?_, ?_, ?_, can_go_on config lag z t⟩
  · intro seq late
    cases phase : t.session.client with
    | gone =>
      rw [phase] at kept
      obtain ⟨heard, waited, closed⟩ := kept.near seq late
      exact ⟨heard, waited, rfl, closed⟩
    | login _ | loginResp _ =>
      rw [phase] at kept
      rw [kept.near.2] at late
      cases late
    | tick _ | ping _ _ | pong _ _ =>
      rw [phase] at kept
      rw [kept.quiet rfl] at late
      cases late
  · rw [asked]
    exact kept.rate
  · intro stop told
    exact ⟨(kept.stopped stop told).2, fun beating => kept.stopping beating told⟩

def heartbeatConfig : HeartbeatConfig := ⟨5000000000, 15000000000, by decide, by decide⟩

/-- The first heartbeat is answered, and the second one is not. -/
def silentRun : List TimedAction :=
  (Session.heartbeatRun.take 10).map .session ++ [.pass 2000, .interval, .tick] ++
    (Session.heartbeatRun.drop 11).map .session ++
    [.pass 5000500000, .tick, .pass 700, .session (.clientSend 6), .pass 15000200000, .timeout]

theorem silence_bounded_silent : ∃ t,
    startHeartbeatTask 5000 15000 = some heartbeatConfig ∧
    run (step heartbeatConfig 1000000 Session.inboundSetting) (start Session.inboundSetting) silentRun = some t ∧
    t.watch.timedOut = some 2 ∧ t.watch.heard + 20000000000 ≤ t.watch.now ∧
    t.watch.heard ≤ t.watch.since ∧ t.watch.since + heartbeatConfig.timeout ≤ t.watch.now := by
  obtain ⟨t, ran, late, heard⟩ := run_reaches
    (P := fun t : TimedSession => t.watch.timedOut = some 2 ∧ t.watch.heard + 20000000000 ≤ t.watch.now)
    (show (run (step heartbeatConfig 1000000 Session.inboundSetting) (start Session.inboundSetting)
      silentRun).any _ = true by decide +kernel)
  obtain ⟨before, waited, _⟩ := (silence_bounded ran).2.1 2 late
  exact ⟨t, rfl, ran, late, heard, before, waited⟩

end TimedSession

end Rstun.Control
