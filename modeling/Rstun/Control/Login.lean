import Rstun.Base.Run
import Rstun.Control.Message

/-!
# Logging in

`Server::authenticate_connection` and what `Server::serve` does with its result. For an inbound tunnel
the server binds a listener in the middle of the login. A `TcpServer` or `UdpServer` runs until it is
told to quit: its background task has a share of its own in the state, so that dropping the handle
does not end it.
-/

namespace Rstun.Control
open BigEndian Framing Transition Rstun.Tunnel

structure Config extends ServerConfig where
  password : String
  tcpTimeoutMs : UInt64
  udpTimeoutMs : UInt64
  defaultUdpUpstream : Option SocketAddr
  channelUdpConnector : Bool

def Config.defaultUpstream (config : Config) : UpstreamType → Option SocketAddr
  | .tcp => config.defaultTcpUpstream
  | .udp => config.defaultUdpUpstream

/-! ### Listeners -/

/-- The background task of a `TcpServer` or `UdpServer`. -/
structure Listener where
  id : Nat
  upstreamType : UpstreamType
  addr : SocketAddr
  deriving DecidableEq

structure Listeners where
  running : List Listener
  next : Nat
  below : ∀ listener ∈ running, listener.id < next

namespace Listeners

def none : Listeners := ⟨[], 0, by simp⟩

theorem not_running (listeners : Listeners) (upstreamType : UpstreamType) (addr : SocketAddr) :
    ⟨listeners.next, upstreamType, addr⟩ ∉ listeners.running := by
  intro member
  exact Nat.lt_irrefl _ (listeners.below _ member)

/-- `bound` is the port that the system assigns if none is asked for, and nothing if the address
cannot be bound. -/
def bindAndStart (listeners : Listeners) (upstreamType : UpstreamType) (addr : SocketAddr)
    (bound : Option UInt16) : Option Listener × Listeners :=
  match bound with
  | Option.none => (Option.none, listeners)
  | some port =>
    let server : Listener :=
      ⟨listeners.next, upstreamType, if addr.port = 0 then addr.setPort port else addr⟩
    (some server,
      { running := server :: listeners.running
        next := listeners.next + 1
        below := by
          intro listener member
          rcases List.mem_cons.mp member with same | old
          · subst same
            exact Nat.lt_succ_self _
          · exact Nat.lt_succ_of_lt (listeners.below listener old) })

def shutdown (listeners : Listeners) (server : Listener) : Listeners where
  running := listeners.running.filter (· ≠ server)
  next := listeners.next
  below := by
    intro listener member
    exact listeners.below listener (List.mem_filter.mp member).1

end Listeners

/-! ### Authentication -/

/-- `out`, `inbound` and `dynamicUpstreamOut` stand for the variants of either protocol: `TcpOut` is
`out .tcp`. The connection, which they all carry, is left out. -/
inductive TunnelType where
  | out (upstreamType : UpstreamType) (upstreamAddr : SocketAddr)
  | inbound (upstreamType : UpstreamType) (server : Listener)
  | dynamicUpstreamOut (upstreamType : UpstreamType)
  deriving DecidableEq

structure TimeoutConfig where
  tcpTimeoutMs : UInt64
  udpTimeoutMs : UInt64
  deriving DecidableEq

/-- What happens to one connection: its first stream, if the client opens one, the outcome of binding,
and whether the two responses can be sent. -/
structure LoginEnv where
  stream : Option Incoming
  bound : Option UInt16
  failureSent : Bool
  successSent : Bool

inductive AuthError where
  | noStream
  | recv (err : RecvError)
  | unexpectedMessage
  | passwordsDontMatch
  | upstream (err : LoginError)
  | bind (upstreamType : UpstreamType) (addr : SocketAddr)
  | sendFailure
  | sendSuccess
  deriving DecidableEq

def deriveTunnelType (env : LoginEnv) (tunnelConfig : TunnelConfig) (config : Config)
    (listeners : Listeners) : Except AuthError TunnelType × Listeners :=
  match obtainUpstreamAddr tunnelConfig.mode tunnelConfig.upstreamAddr
      (config.defaultUpstream tunnelConfig.upstreamType) with
  | .error err => (.error (.upstream err), listeners)
  | .ok upstreamAddr =>
    match tunnelConfig.mode with
    | .outbound => (.ok (.out tunnelConfig.upstreamType upstreamAddr), listeners)
    | .inbound =>
      match listeners.bindAndStart tunnelConfig.upstreamType upstreamAddr env.bound with
      | (some server, listeners) => (.ok (.inbound tunnelConfig.upstreamType server), listeners)
      | (none, listeners) =>
        (.error (if env.failureSent then .bind tunnelConfig.upstreamType upstreamAddr else .sendFailure),
          listeners)

def effectiveTimeout (login server : UInt64) : UInt64 := if login > 0 then max login server else server

/-- What is done once the login has been received. -/
def decideLogin (config : Config) (env : LoginEnv) (info : LoginInfo) (listeners : Listeners) :
    Except AuthError TunnelType × Listeners :=
  if config.password ≠ info.password then (.error .passwordsDontMatch, listeners)
  else match info.tunnel with
    | .networkBased tunnelConfig => deriveTunnelType env tunnelConfig config listeners
    | .channelBased upstreamType => (.ok (.dynamicUpstreamOut upstreamType), listeners)

def authenticateConnection (decode : Bytes → Option TunnelMessage) (config : Config) (env : LoginEnv)
    (listeners : Listeners) : Except AuthError (TunnelType × TimeoutConfig) × Listeners :=
  match env.stream with
  | none => (.error .noStream, listeners)
  | some stream =>
    match recvFrom decode stream with
    | .error err => (.error (.recv err), listeners)
    | .ok (.reqLogin info, _) =>
      match decideLogin config env info listeners with
      | (.error err, listeners) => (.error err, listeners)
      | (.ok tunnelType, listeners) =>
        if env.successSent then
          (.ok (tunnelType, ⟨effectiveTimeout info.tcpTimeoutMs config.tcpTimeoutMs,
            effectiveTimeout info.udpTimeoutMs config.udpTimeoutMs⟩), listeners)
        else (.error .sendSuccess, listeners)
    | .ok _ => (.error .unexpectedMessage, listeners)

/-! ### What an authentication does -/

/-- What the login and the configuration say about the tunnel that is set up. -/
def Permitted (config : Config) (info : LoginInfo) : TunnelType → Prop
  | .out upstreamType upstreamAddr => ∃ tunnelConfig, info.tunnel = .networkBased tunnelConfig ∧
      tunnelConfig.mode = .outbound ∧ tunnelConfig.upstreamType = upstreamType ∧
      (tunnelConfig.upstreamAddr = some upstreamAddr ∨
        tunnelConfig.upstreamAddr = none ∧ config.defaultUpstream upstreamType = some upstreamAddr)
  | .inbound upstreamType server => ∃ tunnelConfig addr, info.tunnel = .networkBased tunnelConfig ∧
      tunnelConfig.mode = .inbound ∧ tunnelConfig.upstreamType = upstreamType ∧
      server.upstreamType = upstreamType ∧ tunnelConfig.upstreamAddr = some addr ∧ addr.Local ∧
      (server.addr = addr ∨ addr.port = 0 ∧ ∃ port, server.addr = addr.setPort port)
  | .dynamicUpstreamOut upstreamType => info.tunnel = .channelBased upstreamType

/-- The login asks for a listener that it may have and that can be bound. -/
def Binds (config : Config) (env : LoginEnv) (info : LoginInfo) : Prop :=
  config.password = info.password ∧ ∃ tunnelConfig addr, info.tunnel = .networkBased tunnelConfig ∧
    tunnelConfig.mode = .inbound ∧ tunnelConfig.upstreamAddr = some addr ∧ addr.Local ∧
    env.bound.isSome

inductive Admits (config : Config) (env : LoginEnv) (info : LoginInfo) (before : Listeners) :
    Except AuthError TunnelType × Listeners → Prop
  | refused (err : AuthError) (unbound : ¬ Binds config env info) : Admits config env info before (.error err, before)
  | plain (tunnelType : TunnelType) (password : config.password = info.password)
      (permitted : Permitted config info tunnelType) (other : ∀ t server, tunnelType ≠ .inbound t server)
      (unbound : ¬ Binds config env info) : Admits config env info before (.ok tunnelType, before)
  | bound (upstreamType : UpstreamType) (server : Listener) (after : Listeners)
      (binds : Binds config env info) (permitted : Permitted config info (.inbound upstreamType server))
      (new : server ∉ before.running) (running : after.running = server :: before.running) :
      Admits config env info before (.ok (.inbound upstreamType server), after)

variable {config : Config} {env : LoginEnv} {info : LoginInfo} {listeners : Listeners}

theorem deriveTunnelType_admits {tunnelConfig : TunnelConfig} (password : config.password = info.password)
    (tunnel : info.tunnel = .networkBased tunnelConfig) :
    Admits config env info listeners (deriveTunnelType env tunnelConfig config listeners) := by
  have asked : ∀ {other}, info.tunnel = .networkBased other → other = tunnelConfig := by
    intro other same
    exact (Tunnel.networkBased.inj (tunnel.symm.trans same)).symm
  unfold deriveTunnelType
  split
  · rename_i err failed
    refine .refused _ ?_
    rintro ⟨_, _, addr, same, _, given, isLocal, _⟩
    rw [asked same] at given
    have allowed : obtainUpstreamAddr tunnelConfig.mode tunnelConfig.upstreamAddr
        (config.defaultUpstream tunnelConfig.upstreamType) = .ok addr :=
      obtainUpstreamAddr_ok.mpr (Or.inl ⟨given, fun _ => isLocal⟩)
    rw [failed] at allowed
    cases allowed
  · rename_i upstreamAddr obtained
    replace obtained := obtainUpstreamAddr_ok.mp obtained
    split
    · rename_i outbound
      refine .plain _ password ⟨tunnelConfig, tunnel, outbound, rfl, ?_⟩ (by simp) ?_
      · rcases obtained with ⟨given, _⟩ | ⟨absent, _, default⟩
        · exact Or.inl given
        · exact Or.inr ⟨absent, default⟩
      · rintro ⟨_, _, addr, same, inbound, _⟩
        rw [asked same, outbound] at inbound
        cases inbound
    · rename_i inbound
      have given : tunnelConfig.upstreamAddr = some upstreamAddr ∧ upstreamAddr.Local := by
        rcases obtained with ⟨given, isLocal⟩ | ⟨_, outbound, _⟩
        · exact ⟨given, isLocal inbound⟩
        · rw [inbound] at outbound
          cases outbound
      cases bound : env.bound with
      | none =>
        refine .refused _ ?_
        rintro ⟨_, _, _, _, _, _, _, isSome⟩
        simp [bound] at isSome
      | some port =>
        refine .bound _ _ _ ⟨password, tunnelConfig, upstreamAddr, tunnel, inbound, given.1, given.2, ?_⟩
          ⟨tunnelConfig, upstreamAddr, tunnel, inbound, rfl, rfl, given.1, given.2, ?_⟩
          (listeners.not_running _ _) rfl
        · simp [bound]
        · dsimp only
          split
          · rename_i zero
            exact Or.inr ⟨zero, port, rfl⟩
          · exact Or.inl rfl

theorem decideLogin_admits : Admits config env info listeners (decideLogin config env info listeners) := by
  unfold decideLogin
  split
  · rename_i wrong
    exact .refused _ fun binds => wrong binds.1
  · rename_i right
    replace right := not_not.mp right
    split
    · rename_i tunnelConfig tunnel
      exact deriveTunnelType_admits right tunnel
    · rename_i upstreamType tunnel
      refine .plain _ right tunnel (by simp) ?_
      rintro ⟨_, _, _, same, _⟩
      rw [tunnel] at same
      cases same

variable {decode : Bytes → Option TunnelMessage}

/-- The client sends this login. -/
def LogsIn (decode : Bytes → Option TunnelMessage) (env : LoginEnv) (info : LoginInfo) : Prop :=
  ∃ stream rest, env.stream = some stream ∧ recvFrom decode stream = .ok (.reqLogin info, rest)

theorem LogsIn.unique {other : LoginInfo} (h : LogsIn decode env info) (h' : LogsIn decode env other) :
    info = other := by
  obtain ⟨stream, rest, present, received⟩ := h
  obtain ⟨stream', rest', present', received'⟩ := h'
  obtain rfl := Option.some.inj (present.symm.trans present')
  have same := Prod.mk.inj (Except.ok.inj (received.symm.trans received'))
  exact TunnelMessage.reqLogin.inj same.1

theorem authenticateConnection_of_not_logsIn (config : Config) (listeners : Listeners)
    (silent : ∀ info, ¬ LogsIn decode env info) :
    ∃ err, authenticateConnection decode config env listeners = (.error err, listeners) := by
  unfold authenticateConnection
  split
  · exact ⟨_, rfl⟩
  · rename_i stream present
    split
    · exact ⟨_, rfl⟩
    · rename_i info rest received
      exact absurd ⟨stream, rest, present, received⟩ (silent info)
    · exact ⟨_, rfl⟩

theorem authenticateConnection_of_logsIn (h : LogsIn decode env info) :
    authenticateConnection decode config env listeners =
      match decideLogin config env info listeners with
      | (.error err, listeners) => (.error err, listeners)
      | (.ok tunnelType, listeners) =>
        if env.successSent then
          (.ok (tunnelType, ⟨effectiveTimeout info.tcpTimeoutMs config.tcpTimeoutMs,
            effectiveTimeout info.udpTimeoutMs config.udpTimeoutMs⟩), listeners)
        else (.error .sendSuccess, listeners) := by
  obtain ⟨stream, rest, present, received⟩ := h
  unfold authenticateConnection
  simp only [present, received]

/-- What is to be said of the listeners after a call. -/
def LeavesListeners (before : Listeners) : Except AuthError (TunnelType × TimeoutConfig) × Listeners → Prop
  | (.ok (.inbound _ server, _), after) =>
    server ∉ before.running ∧ after.running = server :: before.running
  | (_, after) => after.running = before.running

/-- The listener has been bound when it turns out that the client cannot be told. -/
def BindsInVain (decode : Bytes → Option TunnelMessage) (config : Config) (env : LoginEnv) : Prop :=
  env.successSent = false ∧ ∃ info, LogsIn decode env info ∧ Binds config env info

/-- A call that fails leaves the listeners as they were, and one that succeeds adds exactly the one it
returns, except if the client cannot be told that its listener has been bound. -/
theorem leavesListeners_iff : LeavesListeners listeners (authenticateConnection decode config env listeners) ↔
    ¬ BindsInVain decode config env := by
  by_cases login : ∃ info, LogsIn decode env info
  · obtain ⟨info, logsIn⟩ := login
    have vain : BindsInVain decode config env ↔ env.successSent = false ∧ Binds config env info := by
      constructor
      · rintro ⟨unsent, other, logsIn', binds⟩
        rw [logsIn.unique logsIn']
        exact ⟨unsent, binds⟩
      · rintro ⟨unsent, binds⟩
        exact ⟨unsent, info, logsIn, binds⟩
    rw [authenticateConnection_of_logsIn logsIn, vain]
    have admits : Admits config env info listeners (decideLogin config env info listeners) := decideLogin_admits
    generalize decideLogin config env info listeners = result at admits
    cases admits with
    | refused err unbound => simp [LeavesListeners, unbound]
    | plain tunnelType password permitted other unbound =>
      cases tunnelType with
      | inbound upstreamType server => exact absurd rfl (other upstreamType server)
      | out _ _ | dynamicUpstreamOut _ => cases env.successSent <;> simp [LeavesListeners, unbound]
    | bound upstreamType server after binds permitted new running =>
      cases env.successSent <;> simp [LeavesListeners, binds, new, running]
  · obtain ⟨err, failed⟩ := authenticateConnection_of_not_logsIn config listeners (not_exists.mp login)
    rw [failed]
    simp only [LeavesListeners, true_iff]
    rintro ⟨_, info, logsIn, _⟩
    exact login ⟨info, logsIn⟩

/-- A login for an inbound tunnel on port 8080, and its bytes. -/
def inboundLogin : LoginInfo :=
  ⟨"", .networkBased ⟨.inbound, none, some (.v4 0x7F000001 8080), .tcp⟩, 0, 0⟩

def inboundLoginBytes : Bytes := [0, 0, 0, 0, 0, 1, 0, 127, 0, 0, 1, 251, 144, 31, 0, 0, 0]

def decodeInboundLogin (bytes : Bytes) : Option TunnelMessage :=
  if bytes = inboundLoginBytes then some (.reqLogin inboundLogin) else none

def bareConfig : Config := ⟨⟨none, false⟩, "", 0, 0, none, false⟩

/-- The connection is lost while the response is sent. -/
def unanswered : LoginEnv := ⟨some ⟨frame 4 inboundLoginBytes, false⟩, some 0, true, false⟩

theorem listener_left_bound :
    (authenticateConnection decodeInboundLogin bareConfig unanswered .none).1 = .error .sendSuccess ∧
    (authenticateConnection decodeInboundLogin bareConfig unanswered .none).2.running =
      [⟨0, .tcp, .v4 0x7F000001 8080⟩] ∧
    ¬ LeavesListeners .none (authenticateConnection decodeInboundLogin bareConfig unanswered .none) := by
  refine ⟨rfl, rfl, fun leaves => ?_⟩
  have same : [(⟨0, .tcp, .v4 0x7F000001 8080⟩ : Listener)] = [] := leaves
  cases same

/-- The first frame that the client sends is a login with the right password. -/
def Authenticated (decode : Bytes → Option TunnelMessage) (config : Config) (env : LoginEnv)
    (info : LoginInfo) : Prop :=
  ∃ stream header payload rest, env.stream = some stream ∧ stream.bytes = header ++ payload ++ rest ∧
    header.length = 4 ∧ ofBe header = payload.length ∧ payload.length ≤ maxTunnelMessageSize ∧
    decode payload = some (.reqLogin info) ∧ info.password = config.password

theorem LogsIn.authenticated (h : LogsIn decode env info) (password : config.password = info.password) :
    Authenticated decode config env info := by
  obtain ⟨stream, rest, present, received⟩ := h
  obtain ⟨header, payload, split, size, length, small, decoded⟩ := recvFrom_ok received
  exact ⟨stream, header, payload, rest.bytes, present, split, size, length, small, decoded, password.symm⟩

theorem Permitted.upstreamType {upstreamType : UpstreamType} {server : Listener}
    (h : Permitted config info (.inbound upstreamType server)) : server.upstreamType = upstreamType := by
  obtain ⟨_, _, _, _, _, same, _⟩ := h
  exact same

/-- A listener that is new after a call and a tunnel that it returns belong to a client that has
authenticated itself, and are what it may have. -/
theorem authenticateConnection_guarded (decode : Bytes → Option TunnelMessage) (config : Config)
    (env : LoginEnv) (listeners : Listeners) :
    (∀ server ∈ (authenticateConnection decode config env listeners).2.running, server ∈ listeners.running ∨
      ∃ info, Authenticated decode config env info ∧
        Permitted config info (.inbound server.upstreamType server)) ∧
    (∀ tunnelType timeouts, (authenticateConnection decode config env listeners).1 = .ok (tunnelType, timeouts) →
      ∃ info, Authenticated decode config env info ∧ Permitted config info tunnelType) := by
  by_cases login : ∃ info, LogsIn decode env info
  · obtain ⟨info, logsIn⟩ := login
    rw [authenticateConnection_of_logsIn logsIn]
    have admits : Admits config env info listeners (decideLogin config env info listeners) := decideLogin_admits
    generalize decideLogin config env info listeners = result at admits
    cases admits with
    | refused err unbound => exact ⟨fun server member => Or.inl member, by simp⟩
    | plain tunnelType password permitted other unbound =>
      dsimp only
      split
      · refine ⟨fun server member => Or.inl member, ?_⟩
        intro tunnelType' timeouts same
        obtain ⟨rfl, _⟩ := Prod.mk.inj (Except.ok.inj same)
        exact ⟨info, logsIn.authenticated password, permitted⟩
      · exact ⟨fun server member => Or.inl member, by simp⟩
    | bound upstreamType server after binds permitted new running =>
      have known : ∀ other ∈ after.running, other ∈ listeners.running ∨
          ∃ info, Authenticated decode config env info ∧
            Permitted config info (.inbound other.upstreamType other) := by
        intro other member
        rw [running] at member
        rcases List.mem_cons.mp member with same | old
        · subst same
          refine Or.inr ⟨info, logsIn.authenticated binds.1, ?_⟩
          rw [permitted.upstreamType]
          exact permitted
        · exact Or.inl old
      dsimp only
      split
      · refine ⟨known, ?_⟩
        intro tunnelType' timeouts same
        obtain ⟨rfl, _⟩ := Prod.mk.inj (Except.ok.inj same)
        exact ⟨info, logsIn.authenticated binds.1, permitted⟩
      · exact ⟨known, by simp⟩
  · obtain ⟨err, failed⟩ := authenticateConnection_of_not_logsIn config listeners (not_exists.mp login)
    rw [failed]
    exact ⟨fun server member => Or.inl member, by simp⟩

/-! ### The server -/

theorem Listeners.foldl_running_subset {α : Type} {f : Listeners → α → Listeners}
    (sub : ∀ listeners a, (f listeners a).running ⊆ listeners.running) (xs : List α) (listeners : Listeners) :
    (xs.foldl f listeners).running ⊆ listeners.running := by
  induction xs generalizing listeners with
  | nil => exact List.Subset.refl _
  | cons x rest ih => exact List.Subset.trans (ih (f listeners x)) (sub listeners x)

theorem Listeners.shutdown_running_subset (listeners : Listeners) (server : Listener) :
    (listeners.shutdown server).running ⊆ listeners.running :=
  List.filter_subset_self _

/-- A session of an inbound tunnel. `tcp_sessions` and `udp_sessions` are told apart by the protocol of
the listener. -/
structure ConnectedInSession where
  conn : Nat
  server : Listener

/-- `tunnels` are those that have been started and have not ended. -/
structure Server where
  listeners : Listeners
  connections : List Nat
  sessions : List ConnectedInSession
  tunnels : List (Nat × TunnelType × TimeoutConfig)

/-- What can happen at a server: a client connects, a tunnel ends, and the sessions of a connection
that has been closed are cleared. -/
inductive ServerAction where
  | accept (conn : Nat) (env : LoginEnv)
  | finish (conn : Nat)
  | clearExpired (conn : Nat)

namespace Server

def new : Server := ⟨.none, [], [], []⟩

def serve (decode : Bytes → Option TunnelMessage) (config : Config) (srv : Server) (conn : Nat)
    (env : LoginEnv) : Server :=
  match authenticateConnection decode config env srv.listeners with
  | (.error _, listeners) => { srv with listeners := listeners }
  | (.ok (tunnelType, timeouts), listeners) =>
    { listeners := listeners
      connections := srv.connections ++ [conn]
      sessions := match tunnelType with
        | .inbound _ server => srv.sessions ++ [⟨conn, server⟩]
        | _ => srv.sessions
      tunnels := srv.tunnels ++ [(conn, tunnelType, timeouts)] }

/-- The end of `start_serving` or `start_accepting`. -/
def finish (srv : Server) (conn : Nat) : Server :=
  { srv with
    listeners := srv.tunnels.foldl (fun listeners tunnel =>
      match tunnel with
      | (owner, .inbound _ server, _) => if owner = conn then listeners.shutdown server else listeners
      | _ => listeners) srv.listeners
    tunnels := srv.tunnels.filter (·.1 ≠ conn) }

/-- A UDP listener quits at once when its session is cleared. A TCP listener passes the request on to
`start_serving`, which then ends. -/
def clearExpired (srv : Server) (conn : Nat) : Server :=
  { srv with
    listeners := srv.sessions.foldl (fun listeners session =>
      if session.conn = conn ∧ session.server.upstreamType = .udp then listeners.shutdown session.server
      else listeners) srv.listeners
    connections := srv.connections.filter (· ≠ conn)
    sessions := srv.sessions.filter (·.conn ≠ conn) }

def step (decode : Bytes → Option TunnelMessage) (config : Config) (srv : Server) :
    ServerAction → Option Server
  | .accept conn env => some (srv.serve decode config conn env)
  | .finish conn => some (srv.finish conn)
  | .clearExpired conn => some (srv.clearExpired conn)

/-- The client of this connection has sent such a login. -/
def Origin (decode : Bytes → Option TunnelMessage) (config : Config) (acts : List ServerAction) (conn : Nat)
    (info : LoginInfo) : Prop :=
  ∃ env, .accept conn env ∈ acts ∧ Authenticated decode config env info

structure Guarded (decode : Bytes → Option TunnelMessage) (config : Config) (acts : List ServerAction)
    (srv : Server) : Prop where
  connections : ∀ conn ∈ srv.connections, ∃ info, Origin decode config acts conn info
  tunnels : ∀ conn tunnelType timeouts, (conn, tunnelType, timeouts) ∈ srv.tunnels →
    ∃ info, Origin decode config acts conn info ∧ Permitted config info tunnelType
  sessions : ∀ session ∈ srv.sessions, ∃ info, Origin decode config acts session.conn info
  listeners : ∀ server ∈ srv.listeners.running, ∃ conn info, Origin decode config acts conn info ∧
    Permitted config info (.inbound server.upstreamType server)

variable {srv srv' : Server} {acts : List ServerAction}

theorem Origin.mono {conn : Nat} {a : ServerAction} (h : Origin decode config acts conn info) :
    Origin decode config (acts ++ [a]) conn info := by
  obtain ⟨env, member, authenticated⟩ := h
  exact ⟨env, List.mem_append_left _ member, authenticated⟩

theorem Guarded.mono {a : ServerAction} (h : Guarded decode config acts srv)
    (connections : srv'.connections ⊆ srv.connections) (tunnels : srv'.tunnels ⊆ srv.tunnels)
    (sessions : srv'.sessions ⊆ srv.sessions)
    (listeners : srv'.listeners.running ⊆ srv.listeners.running) :
    Guarded decode config (acts ++ [a]) srv' where
  connections conn member := by
    obtain ⟨info, origin⟩ := h.connections conn (connections member)
    exact ⟨info, origin.mono⟩
  tunnels conn tunnelType timeouts member := by
    obtain ⟨info, origin, permitted⟩ := h.tunnels conn tunnelType timeouts (tunnels member)
    exact ⟨info, origin.mono, permitted⟩
  sessions session member := by
    obtain ⟨info, origin⟩ := h.sessions session (sessions member)
    exact ⟨info, origin.mono⟩
  listeners server member := by
    obtain ⟨conn, info, origin, permitted⟩ := h.listeners server (listeners member)
    exact ⟨conn, info, origin.mono, permitted⟩

theorem serve_guarded (h : Guarded decode config acts srv) (conn : Nat) (env : LoginEnv) :
    Guarded decode config (acts ++ [.accept conn env]) (srv.serve decode config conn env) := by
  obtain ⟨listeners, tunnel⟩ := authenticateConnection_guarded decode config env srv.listeners
  have accepted : ServerAction.accept conn env ∈ acts ++ [.accept conn env] := by simp
  have before : Guarded decode config (acts ++ [.accept conn env]) srv :=
    h.mono (fun _ => id) (fun _ => id) (fun _ => id) fun _ => id
  have running : ∀ server ∈ (authenticateConnection decode config env srv.listeners).2.running,
      ∃ conn' info, Origin decode config (acts ++ [.accept conn env]) conn' info ∧
        Permitted config info (.inbound server.upstreamType server) := by
    intro server member
    rcases listeners server member with old | ⟨info, authenticated, permitted⟩
    · exact before.listeners server old
    · exact ⟨conn, info, ⟨env, accepted, authenticated⟩, permitted⟩
  unfold serve
  split
  · rename_i err after failed
    rw [failed] at running
    exact { before with listeners := running }
  · rename_i tunnelType timeouts after succeeded
    rw [succeeded] at running
    obtain ⟨info, authenticated, permitted⟩ := tunnel tunnelType timeouts (by rw [succeeded])
    have origin : Origin decode config (acts ++ [.accept conn env]) conn info := ⟨env, accepted, authenticated⟩
    refine ⟨?_, ?_, ?_, running⟩
    · intro conn' member
      rcases List.mem_append.mp member with old | new
      · exact before.connections conn' old
      · obtain rfl := List.mem_singleton.mp new
        exact ⟨info, origin⟩
    · intro conn' tunnelType' timeouts' member
      rcases List.mem_append.mp member with old | new
      · exact before.tunnels conn' tunnelType' timeouts' old
      · obtain ⟨rfl, same⟩ := Prod.mk.inj (List.mem_singleton.mp new)
        obtain ⟨rfl, _⟩ := Prod.mk.inj same
        exact ⟨info, origin, permitted⟩
    · intro session member
      cases tunnelType with
      | inbound upstreamType server =>
        rcases List.mem_append.mp member with old | new
        · exact before.sessions session old
        · obtain rfl := List.mem_singleton.mp new
          exact ⟨info, origin⟩
      | out _ _ | dynamicUpstreamOut _ => exact before.sessions session member

theorem finish_guarded (h : Guarded decode config acts srv) (conn : Nat) {a : ServerAction} :
    Guarded decode config (acts ++ [a]) (srv.finish conn) := by
  refine h.mono (fun _ => id) (List.filter_subset_self _) (fun _ => id) ?_
  apply Listeners.foldl_running_subset
  intro listeners tunnel
  split
  · split
    · exact listeners.shutdown_running_subset _
    · exact List.Subset.refl _
  · exact List.Subset.refl _

theorem clearExpired_guarded (h : Guarded decode config acts srv) (conn : Nat) {a : ServerAction} :
    Guarded decode config (acts ++ [a]) (srv.clearExpired conn) := by
  refine h.mono (List.filter_subset_self _) (fun _ => id) (List.filter_subset_self _) ?_
  apply Listeners.foldl_running_subset
  intro listeners session
  split
  · exact listeners.shutdown_running_subset _
  · exact List.Subset.refl _

theorem step_guarded {a : ServerAction} (h : Guarded decode config acts srv)
    (hs : srv.step decode config a = some srv') : Guarded decode config (acts ++ [a]) srv' := by
  cases a with
  | accept conn env =>
    obtain rfl := Option.some.inj hs
    exact serve_guarded h conn env
  | finish conn =>
    obtain rfl := Option.some.inj hs
    exact finish_guarded h conn
  | clearExpired conn =>
    obtain rfl := Option.some.inj hs
    exact clearExpired_guarded h conn

/-- Whatever any number of clients send, each connection, tunnel, session and listener that the server
has belongs to a client that has authenticated itself and is one that it may have. -/
theorem admits_authenticated (h : run (step decode config) new acts = some srv) :
    Guarded decode config acts srv :=
  run_history (fun _ _ _ _ guarded => step_guarded guarded)
    ⟨by simp [new], by simp [new], by simp [new], by simp [new, Listeners.none]⟩ h

theorem admits_authenticated_inbound : ∃ srv,
    run (step decodeInboundLogin bareConfig) new
      [.accept 7 ⟨some ⟨frame 4 inboundLoginBytes, false⟩, some 0, true, true⟩] = some srv ∧
    srv.connections = [7] ∧ srv.listeners.running = [⟨0, .tcp, .v4 0x7F000001 8080⟩] ∧
    Guarded decodeInboundLogin bareConfig
      [.accept 7 ⟨some ⟨frame 4 inboundLoginBytes, false⟩, some 0, true, true⟩] srv :=
  ⟨_, rfl, rfl, rfl, admits_authenticated rfl⟩

end Server

end Rstun.Control
