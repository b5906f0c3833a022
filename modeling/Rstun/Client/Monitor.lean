import Mathlib.Data.Fintype.Defs
import Mathlib.Data.UInt
import Rstun.Client.Process

/-!
# What a client reports

The task of a tunnel posts the states that the tunnel goes through. When the connection is gone the task
says so, reads the statistics of the connection, adds them to the total and takes the connection out of
the state. Each of these is a use of the lock of its own, or none. A background task reports the traffic
at every tick of a timer: it adds up the connections in the state and the total.
-/

namespace Rstun.Client
open Transition

inductive TunnelState where
  | connecting
  | connected
  | tunneling
  | reconnecting
  deriving DecidableEq

/-! ### Statistics -/

structure UdpStats where
  datagrams : UInt64
  bytes : UInt64

structure PathStats where
  rttNanos : Nat
  cwnd : UInt64
  congestionEvents : UInt64
  lostPackets : UInt64
  lostBytes : UInt64
  sentPackets : UInt64
  blackHolesDetected : UInt64
  currentMtu : UInt16

/-- What `Connection::stats` returns. -/
structure ConnectionStats where
  udpTx : UdpStats
  udpRx : UdpStats
  path : PathStats

/-- The cumulative fields of `TunnelStat`. -/
inductive Counter where
  | rxBytes
  | txBytes
  | rxDgrams
  | txDgrams
  | sentPackets
  | lostPackets
  | lostBytes
  | congestionEvents
  | blackHoles
  deriving DecidableEq

instance : Fintype Counter where
  elems := {.rxBytes, .txBytes, .rxDgrams, .txDgrams, .sentPackets, .lostPackets, .lostBytes, .congestionEvents,
    .blackHoles}
  complete := by
    intro k
    cases k <;> decide

/-- The field of a connection's statistics that a counter is fed from. -/
def ConnectionStats.counter (stats : ConnectionStats) : Counter → UInt64
  | .rxBytes => stats.udpRx.bytes
  | .txBytes => stats.udpTx.bytes
  | .rxDgrams => stats.udpRx.datagrams
  | .txDgrams => stats.udpTx.datagrams
  | .sentPackets => stats.path.sentPackets
  | .lostPackets => stats.path.lostPackets
  | .lostBytes => stats.path.lostBytes
  | .congestionEvents => stats.path.congestionEvents
  | .blackHoles => stats.path.blackHolesDetected

def ConnectionStats.zero : ConnectionStats := ⟨⟨0, 0⟩, ⟨0, 0⟩, ⟨0, 0, 0, 0, 0, 0, 0, 0⟩⟩

structure TunnelStat where
  counters : Counter → UInt64
  activeConns : UInt32
  rttMs : UInt64
  cwndBytes : UInt64
  currentMtu : UInt16

namespace TunnelStat

/-- `TunnelStat::default` -/
def zero : TunnelStat := ⟨fun _ => 0, 0, 0, 0, 0⟩

def addConnectionStatsToTotal (stat : TunnelStat) (stats : ConnectionStats) : TunnelStat :=
  { stat with counters := fun k => stat.counters k + stats.counter k }

def appendConnStatsToTunnelStat (stat : TunnelStat) (stats : ConnectionStats) : TunnelStat where
  counters := fun k => stat.counters k + stats.counter k
  activeConns := stat.activeConns + 1
  rttMs := max stat.rttMs (UInt64.ofNat (stats.path.rttNanos / 1000000))
  cwndBytes := max stat.cwndBytes stats.path.cwnd
  currentMtu := max stat.currentMtu stats.path.currentMtu

end TunnelStat

/-! ### The machine -/

/-- How far a task has come that has left the tunnel: `Reconnecting` has been posted if need be, the
statistics have been read, they have been added to the total. -/
inductive Exit where
  | entered
  | announced
  | read (stats : ConnectionStats)
  | counted

def Exit.isEntered : Exit → Bool
  | entered => true
  | _ => false

def Exit.isRead : Exit → Bool
  | read _ => true
  | _ => false

def Exit.isCounted : Exit → Bool
  | counted => true
  | _ => false

/-- The fields `registered` and `counted` are records: all connections that have been entered into the
state, and those that have been added to the total, with the statistics that have been added. -/
structure Monitor where
  process : Process
  exit : Nat → Exit
  events : Nat → List TunnelState
  stats : Nat → ConnectionStats
  tunnelStat : TunnelStat
  reporting : Bool
  reports : List TunnelStat
  registered : List Nat
  counted : List (Nat × ConnectionStats)

inductive MonitorAction where
  | process (act : Action)
  | announce (tid : Nat)
  | readStats (tid : Nat)
  | addStats (tid : Nat)
  | grow (conn : Nat) (stats : ConnectionStats)
  | tick

/-- The events of a step that ends in the given phase. `login` begins with `Connecting` and ends with
`Connected`, and nothing is awaited between the last use of the lock and `Tunneling`. -/
def posts : Phase → TaskAction → List TunnelState
  | .loggingIn _, _ => [.connecting]
  | _, .loginOk => [.connected]
  | .serving _, _ => [.tunneling]
  | _, _ => []

def enters : Phase → TaskAction → List Nat
  | .registered conn, .register => [conn]
  | _, _ => []

namespace Monitor

def new (count : Nat) : Monitor where
  process := .new count
  exit := fun _ => .entered
  events := fun _ => []
  stats := fun _ => .zero
  tunnelStat := .zero
  reporting := true
  reports := []
  registered := []
  counted := []

def post (m : Monitor) (tid : Nat) (states : List TunnelState) : Nat → List TunnelState :=
  Function.update m.events tid (m.events tid ++ states)

def afterTask (m : Monitor) (tid : Nat) (act : TaskAction) (p : Process) : Monitor :=
  { m with
    process := p
    exit := Function.update m.exit tid .entered
    events := m.post tid (posts (p.tasks tid) act)
    registered := m.registered ++ enters (p.tasks tid) act }

/-- What `report_traffic_data_in_background` adds up at a tick. -/
def report (m : Monitor) : TunnelStat :=
  let stat := m.process.state.connections.foldl
    (fun stat conn => TunnelStat.appendConnStatsToTunnelStat stat (m.stats conn)) TunnelStat.zero
  { stat with counters := fun k => stat.counters k + m.tunnelStat.counters k }

/-- The counters of a connection may grow at any time. A connection is removed by its task once it has
been added to the total. The reporter ends after a tick at which the client is stopping. -/
def step (kinds : Nat → TunnelKind) (m : Monitor) : MonitorAction → Option Monitor
  | .process (.task tid act) =>
    if act = .remove ∧ (m.exit tid).isCounted = false then none
    else (m.process.step kinds (.task tid act)).map (m.afterTask tid act)
  | .process act => (m.process.step kinds act).map fun p => { m with process := p }
  | .announce tid =>
    match m.process.tasks tid, m.exit tid with
    | .leaving _, .entered =>
      let states := if m.process.state.shouldQuit then [] else [.reconnecting]
      some { m with exit := Function.update m.exit tid .announced, events := m.post tid states }
    | _, _ => none
  | .readStats tid =>
    match m.process.tasks tid, m.exit tid with
    | .leaving conn, .announced => some { m with exit := Function.update m.exit tid (.read (m.stats conn)) }
    | _, _ => none
  | .addStats tid =>
    match m.process.tasks tid, m.exit tid with
    | .leaving conn, .read stats =>
      some { m with
        exit := Function.update m.exit tid .counted
        tunnelStat := m.tunnelStat.addConnectionStatsToTotal stats
        counted := m.counted ++ [(conn, stats)] }
    | _, _ => none
  | .grow conn stats =>
    if ∀ k, (m.stats conn).counter k ≤ stats.counter k then
      some { m with stats := Function.update m.stats conn stats }
    else none
  | .tick =>
    if m.reporting then
      some { m with reports := m.reports ++ [m.report], reporting := !m.process.state.shouldQuit }
    else none

/-- What the steps do. -/
inductive Steps (kinds : Nat → TunnelKind) (m : Monitor) : MonitorAction → Monitor → Prop
  | task {tid : Nat} {act : TaskAction} {state : State} {phase : Phase} (member : tid < m.process.count)
      (counted : act = .remove → (m.exit tid).isCounted = true)
      (stepped : (m.process.tasks tid).step (kinds tid) m.process.state act = some (state, phase)) :
      Steps kinds m (.process (.task tid act)) (m.afterTask tid act
        { m.process with state := state, tasks := Function.update m.process.tasks tid phase })
  | outside {act : Action} {p : Process} (stepped : m.process.step kinds act = some p)
      (outside : ∀ tid task, act ≠ .task tid task) : Steps kinds m (.process act) { m with process := p }
  | announced {tid conn : Nat} (leaving : m.process.tasks tid = .leaving conn) (entered : m.exit tid = .entered) :
      Steps kinds m (.announce tid) { m with
        exit := Function.update m.exit tid .announced
        events := m.post tid (if m.process.state.shouldQuit then [] else [.reconnecting]) }
  | read {tid conn : Nat} (leaving : m.process.tasks tid = .leaving conn) (announced : m.exit tid = .announced) :
      Steps kinds m (.readStats tid) { m with exit := Function.update m.exit tid (.read (m.stats conn)) }
  | added {tid conn : Nat} {stats : ConnectionStats} (leaving : m.process.tasks tid = .leaving conn)
      (read : m.exit tid = .read stats) :
      Steps kinds m (.addStats tid) { m with
        exit := Function.update m.exit tid .counted
        tunnelStat := m.tunnelStat.addConnectionStatsToTotal stats
        counted := m.counted ++ [(conn, stats)] }
  | grown {conn : Nat} {stats : ConnectionStats} (more : ∀ k, (m.stats conn).counter k ≤ stats.counter k) :
      Steps kinds m (.grow conn stats) { m with stats := Function.update m.stats conn stats }
  | ticked (reporting : m.reporting = true) :
      Steps kinds m .tick
        { m with reports := m.reports ++ [m.report], reporting := !m.process.state.shouldQuit }

variable {kinds : Nat → TunnelKind} {m n : Monitor} {act : MonitorAction} {acts : List MonitorAction} {count : Nat}

theorem step_outside {p : Process} {act : Action} (stepped : m.process.step kinds act = some p)
    (outside : ∀ tid task, act ≠ .task tid task) (h : { m with process := p } = n) :
    Steps kinds m (.process act) n := by
  subst h
  exact .outside stepped outside

theorem step_spec (h : m.step kinds act = some n) : Steps kinds m act n := by
  cases act with
  | process act =>
    cases act with
    | task tid act =>
      simp only [step] at h
      split at h
      · cases h
      · rename_i removes
        obtain ⟨p, stepped, rfl⟩ := Option.map_eq_some_iff.mp h
        obtain ⟨state, phase, member, moved, rfl⟩ := Process.step_task stepped
        refine .task member (fun remove => ?_) moved
        simpa [remove] using removes
    | _ =>
      simp only [step] at h
      obtain ⟨p, stepped, result⟩ := Option.map_eq_some_iff.mp h
      exact step_outside stepped (by simp) result
  | announce tid =>
    simp only [step] at h
    split at h
    · rename_i leaving entered
      obtain rfl := Option.some.inj h
      exact .announced leaving entered
    · cases h
  | readStats tid =>
    simp only [step] at h
    split at h
    · rename_i leaving announced
      obtain rfl := Option.some.inj h
      exact .read leaving announced
    · cases h
  | addStats tid =>
    simp only [step] at h
    split at h
    · rename_i leaving read
      obtain rfl := Option.some.inj h
      exact .added leaving read
    · cases h
  | grow conn stats =>
    simp only [step] at h
    split at h
    · rename_i more
      obtain rfl := Option.some.inj h
      exact .grown more
    · cases h
  | tick =>
    simp only [step] at h
    split at h
    · rename_i reporting
      obtain rfl := Option.some.inj h
      exact .ticked reporting
    · cases h

theorem step_process (h : m.step kinds act = some n) :
    n.process = m.process ∨ ∃ act, m.process.step kinds act = some n.process := by
  cases step_spec h with
  | @task tid act _ _ member counted stepped =>
    refine .inr ⟨.task tid act, ?_⟩
    simp only [Process.step, if_pos member, stepped]
    rfl
  | outside stepped => exact .inr ⟨_, stepped⟩
  | announced | read | added | grown | ticked => exact .inl rfl

/-- The monitor only watches: its runs are runs of the client and its tunnels. -/
theorem run_process (h : run (step kinds) (new count) acts = some m) :
    ∃ acts', run (Process.step kinds) (.new count) acts' = some m.process := by
  refine run_invariant (I := fun m => ∃ acts', run (Process.step kinds) (.new count) acts' = some m.process) ?_
    ⟨[], rfl⟩ h
  rintro m act n ⟨acts', before⟩ stepped
  rcases step_process stepped with same | ⟨act', stepped⟩
  · exact ⟨acts', by rw [same, before]⟩
  · refine ⟨acts' ++ [act'], run_append.mpr ⟨m.process, before, ?_⟩⟩
    simp [run, stepped]

end Monitor

end Rstun.Client
