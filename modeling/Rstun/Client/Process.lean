import Rstun.Base.Run
import Rstun.Tunnel.Target

/-!
# The client and its tunnels

Every tunnel of the client has a task that runs `connect_and_serve`: it connects, serves the tunnel until
its connection is closed, and begins again. The tasks share the state behind one lock, and `stop_async`
works on it as well. Between two uses of the lock a task is in one of the phases below. The heartbeat and
the migration of the endpoint do not change that state.
-/

namespace Rstun.Client
open Rstun.Tunnel

inductive ClientState where
  | idle
  | stopping
  | terminated
  deriving DecidableEq

/-- The fields of the source's `State` that decide about connections, with the keys alone of its maps of
servers and receivers. Endpoints and connections are numbered as they come up. The last four fields are
what the client could ask them for: the family of an endpoint, whether a connection is closed, and on
which endpoint it has been made. -/
structure State where
  clientState : ClientState
  endpoint : Option Nat
  connections : List Nat
  tcpServers : List SocketAddr
  udpServers : List SocketAddr
  tcpReceivers : List SocketAddr
  nextEndpoint : Nat
  nextConn : Nat
  isIpv6 : Nat → Bool
  closed : Nat → Bool
  endpointOf : Nat → Nat

/-- What serving a tunnel needs: only an outbound one has a local server. -/
inductive TunnelKind where
  | inboundOrChannel
  | outboundTcp (localServerAddr : SocketAddr)
  | outboundUdp (localServerAddr : SocketAddr)
  deriving DecidableEq

/-- Up to `retrying` the task is in `connect_once` or between two calls of it. From `passed` on it has a
connection and has seen that the client is not stopping. `registered` to `taking` set up the servers. -/
inductive Phase where
  | preparing
  | mismatch (endpoint : Nat) (ipv6 : Bool)
  | creating (ipv6 : Bool)
  | created (endpoint : Nat)
  | loggingIn (endpoint : Nat)
  | failed
  | clearing
  | retrying
  | passed (conn : Nat)
  | registered (conn : Nat)
  | binding (conn : Nat)
  | bound (conn : Nat)
  | taking (conn : Nat)
  | serving (conn : Nat)
  | leaving (conn : Nat)
  | removed
  | quit
  deriving DecidableEq

inductive TaskAction where
  | prepareFails
  | lookup (ipv6 : Bool) (hasLocalAddr : Bool)
  | reset
  | createFails
  | create
  | store
  | loginFails
  | loginOk
  | inspect
  | clear
  | retry
  | register
  | findServer
  | bind
  | insertServer
  | takeReceiver
  | tunnelEnds
  | connClosed
  | remove
  | recheck
  deriving DecidableEq

namespace State

def new : State where
  clientState := .idle
  endpoint := none
  connections := []
  tcpServers := []
  udpServers := []
  tcpReceivers := []
  nextEndpoint := 0
  nextConn := 0
  isIpv6 := fun _ => false
  closed := fun _ => false
  endpointOf := fun _ => 0

def shouldQuit (s : State) : Bool := s.clientState = .stopping ∨ s.clientState = .terminated

def clearCachedEndpointIfIdle (s : State) : State × Bool :=
  if s.connections ≠ [] then (s, false)
  else ({ s with endpoint := none }, s.endpoint.isSome)

def close (s : State) (conn : Nat) : State := { s with closed := Function.update s.closed conn true }

def createClientEndpoint (s : State) (ipv6 : Bool) : State :=
  { s with nextEndpoint := s.nextEndpoint + 1, isIpv6 := Function.update s.isIpv6 s.nextEndpoint ipv6 }

def connect (s : State) (endpoint : Nat) : State :=
  { s with
    nextConn := s.nextConn + 1
    closed := Function.update s.closed s.nextConn false
    endpointOf := Function.update s.endpointOf s.nextConn endpoint }

variable {s : State} {conn other endpoint : Nat}

theorem closed_close : (s.close conn).closed conn = true := Function.update_self ..

theorem closed_close_of_ne (different : other ≠ conn) : (s.close conn).closed other = s.closed other :=
  Function.update_of_ne different ..

theorem closed_connect (below : conn < s.nextConn) : (s.connect endpoint).closed conn = s.closed conn :=
  Function.update_of_ne (Nat.ne_of_lt below) ..

theorem endpointOf_connect (below : conn < s.nextConn) :
    (s.connect endpoint).endpointOf conn = s.endpointOf conn :=
  Function.update_of_ne (Nat.ne_of_lt below) ..

end State

/-- The phase after the local server has been found or bound. -/
def afterServer (conn : Nat) : TunnelKind → Phase
  | .outboundTcp _ => .taking conn
  | .inboundOrChannel | .outboundUdp _ => .serving conn

def findServer (s : State) (conn : Nat) : TunnelKind → Phase
  | .inboundOrChannel => .serving conn
  | .outboundTcp addr => if addr ∈ s.tcpServers then .taking conn else .binding conn
  | .outboundUdp addr => if addr ∈ s.udpServers then .serving conn else .binding conn

def insertServer (s : State) : TunnelKind → State
  | .inboundOrChannel => s
  | .outboundTcp addr => { s with tcpServers := s.tcpServers.insert addr }
  | .outboundUdp addr => { s with udpServers := s.udpServers.insert addr }

def getOrInitTcpReceiver (s : State) : TunnelKind → State
  | .outboundTcp addr => { s with tcpReceivers := s.tcpReceivers.insert addr }
  | .inboundOrChannel | .outboundUdp _ => s

/-- One step of a task, up to its next use of the lock. `loginOk` is the end of `connect_once` together
with `should_quit`, which comes before anything else is done with the connection. A connection that is
not held by a phase any more has been dropped. -/
def Phase.step (kind : TunnelKind) (s : State) (phase : Phase) (act : TaskAction) : Option (State × Phase) :=
  match phase, act with
  | preparing, .prepareFails => some (s, failed)
  | preparing, .lookup ipv6 hasLocalAddr =>
    match s.endpoint with
    | some endpoint =>
      if hasLocalAddr ∧ s.isIpv6 endpoint = ipv6 then some (s, loggingIn endpoint)
      else some (s, mismatch endpoint ipv6)
    | none => some (s, creating ipv6)
  | mismatch endpoint ipv6, .reset =>
    let (s, reset) := s.clearCachedEndpointIfIdle
    some (s, if reset then creating ipv6 else loggingIn endpoint)
  | creating _, .createFails => some (s, failed)
  | creating ipv6, .create => some (s.createClientEndpoint ipv6, created s.nextEndpoint)
  | created endpoint, .store => some ({ s with endpoint := some endpoint }, loggingIn endpoint)
  | loggingIn _, .loginFails => some (s, failed)
  | loggingIn endpoint, .loginOk =>
    some (s.connect endpoint, if s.shouldQuit then quit else passed s.nextConn)
  | failed, .inspect => some (s, if s.shouldQuit then retrying else clearing)
  | clearing, .clear => some (s.clearCachedEndpointIfIdle.1, retrying)
  | retrying, .retry => some (s, if s.shouldQuit then quit else preparing)
  | passed conn, .register => some ({ s with connections := conn :: s.connections }, registered conn)
  | registered conn, .findServer => some (s, Rstun.Client.findServer s conn kind)
  -- What follows a successful bind is not interrupted, since nothing is awaited before the insertion.
  | binding conn, .bind => some (s, bound conn)
  | bound conn, .insertServer => some (Rstun.Client.insertServer s kind, afterServer conn kind)
  | taking conn, .takeReceiver => some (getOrInitTcpReceiver s kind, serving conn)
  | registered conn, .tunnelEnds | binding conn, .tunnelEnds | taking conn, .tunnelEnds
  | serving conn, .tunnelEnds => some (s.close conn, leaving conn)
  | registered conn, .connClosed | binding conn, .connClosed | taking conn, .connClosed
  | serving conn, .connClosed => if s.closed conn then some (s, leaving conn) else none
  | leaving conn, .remove =>
    some ({ s with connections := s.connections.filter (· ≠ conn) }, removed)
  | removed, .recheck => some (s, if s.shouldQuit then quit else preparing)
  | _, _ => none

/-- The connection that a task has. -/
def Phase.conn : Phase → Option Nat
  | passed conn | registered conn | binding conn | bound conn | taking conn | serving conn | leaving conn =>
    some conn
  | _ => none

/-- The endpoint that a task connects on. -/
def Phase.endpoint : Phase → Option Nat
  | mismatch endpoint _ | loggingIn endpoint => some endpoint
  | _ => none

/-- The task is going to enter a server or a receiver into the state. -/
def Phase.settingUp : Phase → Bool
  | registered _ | binding _ | bound _ | taking _ => true
  | _ => false

/-- What the steps of a task do. Most of them leave the state alone and have no connection. -/
inductive Moves (s : State) : Phase → TaskAction → State → Phase → Prop
  | idle {phase phase' : Phase} {act : TaskAction} (before : phase.conn = none) (after : phase'.conn = none)
      (free : phase'.endpoint = none) : Moves s phase act s phase'
  | found {endpoint : Nat} {phase' : Phase} {act : TaskAction} (cached : s.endpoint = some endpoint)
      (after : phase'.conn = none) (taken : phase'.endpoint = some endpoint) : Moves s .preparing act s phase'
  | kept (endpoint : Nat) (ipv6 : Bool) : Moves s (.mismatch endpoint ipv6) .reset s (.loggingIn endpoint)
  | dropped {phase phase' : Phase} {act : TaskAction} (reset : act = .reset ∨ act = .clear)
      (unused : s.connections = []) (before : phase.conn = none) (after : phase'.conn = none)
      (free : phase'.endpoint = none) : Moves s phase act { s with endpoint := none } phase'
  | created (ipv6 : Bool) :
      Moves s (.creating ipv6) .create (s.createClientEndpoint ipv6) (.created s.nextEndpoint)
  | stored (endpoint : Nat) :
      Moves s (.created endpoint) .store { s with endpoint := some endpoint } (.loggingIn endpoint)
  | gaveUp (endpoint : Nat) (stopping : s.shouldQuit = true) :
      Moves s (.loggingIn endpoint) .loginOk (s.connect endpoint) .quit
  | passed (endpoint : Nat) (running : s.shouldQuit = false) :
      Moves s (.loggingIn endpoint) .loginOk (s.connect endpoint) (.passed s.nextConn)
  | entered (conn : Nat) :
      Moves s (.passed conn) .register { s with connections := conn :: s.connections } (.registered conn)
  | setUp {phase phase' : Phase} {act : TaskAction} {conn : Nat} (tcp udp receivers : List SocketAddr)
      (before : phase.settingUp = true) (had : phase.conn = some conn)
      (after : phase'.settingUp = true ∨ phase' = .serving conn) (has : phase'.conn = some conn) :
      Moves s phase act { s with tcpServers := tcp, udpServers := udp, tcpReceivers := receivers } phase'
  | ended {phase : Phase} {act : TaskAction} {conn : Nat} (before : phase.settingUp = true ∨ phase = .serving conn)
      (had : phase.conn = some conn) : Moves s phase act (s.close conn) (.leaving conn)
  | removed (conn : Nat) : Moves s (.leaving conn) .remove
      { s with connections := s.connections.filter (· ≠ conn) } .removed

theorem State.clearCachedEndpointIfIdle_spec (s : State) :
    s.clearCachedEndpointIfIdle = (s, false) ∨
      s.connections = [] ∧ s.clearCachedEndpointIfIdle = ({ s with endpoint := none }, true) := by
  unfold clearCachedEndpointIfIdle
  split
  · exact .inl rfl
  · rename_i unused
    cases cached : s.endpoint with
    | some _ => exact .inr ⟨not_not.mp unused, rfl⟩
    | none =>
      have same : { s with endpoint := none } = s := by rw [← cached]
      rw [same]
      exact .inl rfl

theorem Moves.closed {s : State} {phase : Phase} {act : TaskAction} {conn : Nat}
    (before : phase.settingUp = true ∨ phase = .serving conn) (had : phase.conn = some conn)
    (closed : s.closed conn = true) : Moves s phase act s (.leaving conn) := by
  have same : s.close conn = s := by
    rw [State.close, ← closed, Function.update_eq_self]
  have ended : Moves s phase act (s.close conn) (.leaving conn) := .ended before had
  rwa [same] at ended

theorem Phase.step_moves {kind : TunnelKind} {s s' : State} {phase phase' : Phase} {act : TaskAction}
    (h : phase.step kind s act = some (s', phase')) : Moves s phase act s' phase' := by
  unfold Phase.step at h
  split at h
  · cases h
    exact .idle rfl rfl rfl
  · split at h
    · rename_i endpoint cached
      split at h <;> cases h <;> exact .found cached rfl rfl
    · cases h
      exact .idle rfl rfl rfl
  · rename_i endpoint ipv6
    rcases s.clearCachedEndpointIfIdle_spec with kept | ⟨unused, dropped⟩
    · rw [kept] at h
      cases h
      exact .kept endpoint ipv6
    · rw [dropped] at h
      cases h
      exact .dropped (.inl rfl) unused rfl rfl rfl
  · cases h
    exact .idle rfl rfl rfl
  · cases h
    exact .created _
  · cases h
    exact .stored _
  · cases h
    exact .idle rfl rfl rfl
  · rename_i endpoint
    cases h
    cases quits : s.shouldQuit
    · exact .passed endpoint quits
    · exact .gaveUp endpoint quits
  · cases h
    cases s.shouldQuit <;> exact .idle rfl rfl rfl
  · rcases s.clearCachedEndpointIfIdle_spec with kept | ⟨unused, dropped⟩
    · rw [kept] at h
      cases h
      exact .idle rfl rfl rfl
    · rw [dropped] at h
      cases h
      exact .dropped (.inr rfl) unused rfl rfl rfl
  · cases h
    cases s.shouldQuit <;> exact .idle rfl rfl rfl
  · cases h
    exact .entered _
  · cases h
    cases kind with
    | inboundOrChannel => exact .setUp _ _ _ rfl rfl (.inr rfl) rfl
    | outboundTcp addr =>
      unfold Rstun.Client.findServer
      dsimp only
      split <;> exact .setUp _ _ _ rfl rfl (.inl rfl) rfl
    | outboundUdp addr =>
      unfold Rstun.Client.findServer
      dsimp only
      split
      · exact .setUp _ _ _ rfl rfl (.inr rfl) rfl
      · exact .setUp _ _ _ rfl rfl (.inl rfl) rfl
  · cases h
    exact .setUp _ _ _ rfl rfl (.inl rfl) rfl
  · cases h
    cases kind with
    | inboundOrChannel | outboundUdp _ => exact .setUp _ _ _ rfl rfl (.inr rfl) rfl
    | outboundTcp addr => exact .setUp _ _ _ rfl rfl (.inl rfl) rfl
  · cases h
    cases kind <;> exact .setUp _ _ _ rfl rfl (.inr rfl) rfl
  iterate 3
    · cases h
      exact .ended (.inl rfl) rfl
  · cases h
    exact .ended (.inr rfl) rfl
  iterate 3
    · split at h <;> cases h
      rename_i closed
      exact .closed (.inl rfl) rfl closed
  · split at h <;> cases h
    rename_i closed
    exact .closed (.inr rfl) rfl closed
  · cases h
    exact .removed _
  · cases h
    cases s.shouldQuit <;> exact .idle rfl rfl rfl
  · cases h

/-- `stop_async` has set the state to `Stopping`, then it has taken all connections and closes them. -/
inductive StopPhase where
  | idle
  | stopping
  | closing (conns : List Nat)
  | done
  deriving DecidableEq

structure Process where
  state : State
  count : Nat
  tasks : Nat → Phase
  stop : StopPhase

inductive Action where
  | task (tid : Nat) (act : TaskAction)
  | connLost (conn : Nat)
  | stop
  | closeAll
  | closeOne
  | terminate

namespace Process

def new (count : Nat) : Process := ⟨.new, count, fun _ => .preparing, .idle⟩

/-- What `stop_async` does under the lock once it has announced the stop. -/
def closeAll (s : State) : State :=
  { s with tcpServers := [], udpServers := [], tcpReceivers := [], connections := [] }

def step (kinds : Nat → TunnelKind) (p : Process) : Action → Option Process
  | .task tid act =>
    if tid < p.count then
      match (p.tasks tid).step (kinds tid) p.state act with
      | some (state, phase) => some { p with state := state, tasks := Function.update p.tasks tid phase }
      | none => none
    else none
  | .connLost conn => some { p with state := p.state.close conn }
  | .stop =>
    match p.stop with
    | .idle => some { p with state := { p.state with clientState := .stopping }, stop := .stopping }
    | _ => none
  | .closeAll =>
    match p.stop with
    | .stopping => some { p with state := closeAll p.state, stop := .closing p.state.connections }
    | _ => none
  | .closeOne =>
    match p.stop with
    | .closing (conn :: conns) => some { p with state := p.state.close conn, stop := .closing conns }
    | _ => none
  | .terminate =>
    match p.stop with
    | .closing [] => some { p with state := { p.state with clientState := .terminated }, stop := .done }
    | _ => none

theorem step_task {kinds : Nat → TunnelKind} {p q : Process} {tid : Nat} {act : TaskAction}
    (h : p.step kinds (.task tid act) = some q) : ∃ state phase, tid < p.count ∧
      (p.tasks tid).step (kinds tid) p.state act = some (state, phase) ∧
      q = { p with state := state, tasks := Function.update p.tasks tid phase } := by
  simp only [step] at h
  split at h
  case isFalse => cases h
  rename_i member
  split at h
  · rename_i state phase stepped
    exact ⟨state, phase, member, stepped, (Option.some.inj h).symm⟩
  · cases h

/-- What a step outside the tasks leaves alone. A stop that has been announced stays so. -/
structure Outside (p q : Process) : Prop where
  tasks : q.tasks = p.tasks
  count : q.count = p.count
  nextConn : q.state.nextConn = p.state.nextConn
  connections : q.state.connections = p.state.connections ∨ q.state.connections = []
  quits : q.state.shouldQuit = p.state.shouldQuit ∨ q.state.shouldQuit = true

theorem step_outside {kinds : Nat → TunnelKind} {p q : Process} {act : Action}
    (h : p.step kinds act = some q) (outside : ∀ tid task, act ≠ .task tid task) : Outside p q := by
  cases act with
  | task tid task => exact absurd rfl (outside tid task)
  | connLost conn =>
    obtain rfl := Option.some.inj h
    exact ⟨rfl, rfl, rfl, .inl rfl, .inl rfl⟩
  | stop | terminate =>
    simp only [step] at h
    split at h
    · obtain rfl := Option.some.inj h
      exact ⟨rfl, rfl, rfl, .inl rfl, .inr rfl⟩
    · cases h
  | closeAll =>
    simp only [step] at h
    split at h
    · obtain rfl := Option.some.inj h
      exact ⟨rfl, rfl, rfl, .inr rfl, .inl rfl⟩
    · cases h
  | closeOne =>
    simp only [step] at h
    split at h
    · obtain rfl := Option.some.inj h
      exact ⟨rfl, rfl, rfl, .inl rfl, .inl rfl⟩
    · cases h

/-- No two tasks have the same connection. -/
structure Owned (p : Process) : Prop where
  known : ∀ tid < p.count, ∀ conn, (p.tasks tid).conn = some conn → conn < p.state.nextConn
  apart : ∀ tid < p.count, ∀ other < p.count, ∀ conn, (p.tasks tid).conn = some conn →
    (p.tasks other).conn = some conn → tid = other

/-- A task keeps its connection, or it gets a new one. -/
theorem Owned.update {p : Process} {s : State} {tid : Nat} {phase : Phase} (inv : p.Owned) (member : tid < p.count)
    (nextConn : p.state.nextConn ≤ s.nextConn)
    (own : ∀ conn, phase.conn = some conn →
      (p.tasks tid).conn = some conn ∨ conn = p.state.nextConn ∧ conn < s.nextConn) :
    Owned { p with state := s, tasks := Function.update p.tasks tid phase } := by
  have fresh : ∀ other < p.count, other ≠ tid → ∀ conn, phase.conn = some conn →
      (p.tasks other).conn ≠ some conn := by
    intro other opened different conn has has'
    rcases own conn has with had | ⟨rfl, _⟩
    · exact different (inv.apart other opened tid member conn has' had)
    · exact Nat.lt_irrefl _ (inv.known other opened _ has')
  constructor
  · apply (Function.forall_update_iff p.tasks fun other phase => other < p.count →
      ∀ conn, phase.conn = some conn → conn < s.nextConn).mpr
    refine ⟨fun opened conn has => ?_, fun other _ opened conn has => ?_⟩
    · rcases own conn has with had | ⟨_, below⟩
      · exact (inv.known tid opened conn had).trans_le nextConn
      · exact below
    · exact (inv.known other opened conn has).trans_le nextConn
  · intro one opened other opened' conn
    by_cases this : one = tid <;> by_cases that : other = tid
    · exact fun _ _ => this.trans that.symm
    · subst this
      simp only [Function.update_self, Function.update_of_ne that]
      exact fun has has' => absurd has' (fresh other opened' that conn has)
    · subst that
      simp only [Function.update_self, Function.update_of_ne this]
      exact fun has has' => absurd has (fresh one opened this conn has')
    · simp only [Function.update_of_ne this, Function.update_of_ne that]
      exact inv.apart one opened other opened' conn

end Process

end Rstun.Client
