import Mathlib.Algebra.BigOperators.Group.List.Basic
import Mathlib.Algebra.Order.BigOperators.Group.List
import Rstun.Client.Monitor

/-!
# The reported traffic

A connection is reported from the state as long as it is there, and from the total once it has been added
to it. Between the addition and its removal it is in both, and a client that is stopping takes it out of
the state before it is added.
-/

namespace Rstun.Client
open Transition

/-- The connection that a task has entered into the state. -/
def Phase.entered : Phase → Option Nat
  | passed _ => none
  | phase => phase.conn

def Phase.isLeaving : Phase → Bool
  | leaving _ => true
  | _ => false

theorem Phase.conn_of_entered {phase : Phase} {conn : Nat} (h : phase.entered = some conn) : phase.conn = some conn := by
  cases phase <;> first | exact h | cases h

theorem Phase.entered_of_conn {phase : Phase} (h : phase.conn = none) : phase.entered = none := by
  cases phase <;> first | rfl | exact h

theorem Phase.entered_of_settingUp {phase : Phase} {conn : Nat} (h : phase.settingUp = true ∨ phase = .serving conn) :
    phase.entered = phase.conn ∧ phase.isLeaving = false := by
  rcases h with settingUp | rfl
  · cases phase <;> first | exact ⟨rfl, rfl⟩ | cases settingUp
  · exact ⟨rfl, rfl⟩

/-- What a step of a task does with connections. -/
inductive Handles (s : State) : Phase → TaskAction → State → Phase → Prop
  | none {phase phase' : Phase} {act : TaskAction} {s' : State} (before : phase.conn = none)
      (after : phase'.conn = none) (connections : s'.connections = s.connections)
      (nextConn : s.nextConn ≤ s'.nextConn) : Handles s phase act s' phase'
  | connects {phase : Phase} {act : TaskAction} {s' : State} (before : phase.conn = none)
      (connections : s'.connections = s.connections) (nextConn : s'.nextConn = s.nextConn + 1) :
      Handles s phase act s' (.passed s.nextConn)
  | enters (conn : Nat) :
      Handles s (.passed conn) .register { s with connections := conn :: s.connections } (.registered conn)
  | keeps {phase phase' : Phase} {act : TaskAction} {s' : State} (conn : Nat) (had : phase.entered = some conn)
      (has : phase'.entered = some conn) (staying : phase.isLeaving = false) (silent : enters phase' act = [])
      (connections : s'.connections = s.connections) (nextConn : s'.nextConn = s.nextConn) :
      Handles s phase act s' phase'
  | leaves (conn : Nat) : Handles s (.leaving conn) .remove
      { s with connections := s.connections.filter (· ≠ conn) } .removed

theorem enters_of_ne {phase : Phase} {act : TaskAction} (h : act ≠ .register) : enters phase act = [] := by
  cases phase <;> cases act <;> first | rfl | exact absurd rfl h

theorem enters_of_conn {phase : Phase} {act : TaskAction} (h : phase.conn = none) : enters phase act = [] := by
  cases phase <;> first | rfl | cases h

theorem enters_nodup (phase : Phase) (act : TaskAction) : (enters phase act).Nodup := by
  unfold enters
  split <;> simp

theorem enters_entered {phase : Phase} {act : TaskAction} {conn : Nat} (h : conn ∈ enters phase act) :
    phase.entered = some conn := by
  unfold enters at h
  split at h
  · rw [List.mem_singleton.mp h]
    rfl
  · cases h

theorem Phase.step_register {kind : TunnelKind} {s s' : State} {phase phase' : Phase}
    (h : phase.step kind s .register = some (s', phase')) : Handles s phase .register s' phase' := by
  cases phase <;> simp only [step] at h <;> try cases h
  exact .enters _

theorem Phase.step_handles {kind : TunnelKind} {s s' : State} {phase phase' : Phase} {act : TaskAction}
    (h : phase.step kind s act = some (s', phase')) : Handles s phase act s' phase' := by
  by_cases register : act = .register
  · subst register
    exact step_register h
  have silent : enters phase' act = [] := enters_of_ne register
  cases step_moves h with
  | idle before after | dropped _ _ before after => exact .none before after rfl (Nat.le_refl _)
  | found _ after => exact .none rfl after rfl (Nat.le_refl _)
  | kept | created | stored => exact .none rfl rfl rfl (Nat.le_refl _)
  | gaveUp => exact .none rfl rfl rfl (Nat.le_succ _)
  | passed => exact .connects rfl rfl rfl
  | entered => exact absurd rfl register
  | @setUp _ _ _ conn _ _ _ before had after has =>
    obtain ⟨entered, staying⟩ := @entered_of_settingUp _ conn (.inl before)
    exact .keeps conn (entered.trans had) ((entered_of_settingUp after).1.trans has) staying silent rfl rfl
  | @ended _ _ conn before had =>
    obtain ⟨entered, staying⟩ := entered_of_settingUp before
    exact .keeps conn (entered.trans had) rfl staying silent rfl rfl
  | removed conn => exact .leaves conn

namespace Monitor

/-- The sum over all connections that have been registered, each with its counter as it is now. -/
def total (m : Monitor) (k : Counter) : UInt64 := (m.registered.map fun conn => (m.stats conn).counter k).sum

/-- The connections that have been added to the total. -/
def finished (m : Monitor) : List Nat := m.counted.map Prod.fst

/-- Every registered connection is with its task or has been added to the total. -/
structure Accounts (m : Monitor) : Prop where
  owned : m.process.Owned
  opened : ∀ tid, (m.process.tasks tid).isLeaving = true → tid < m.process.count
  listed : ∀ conn ∈ m.process.state.connections, ∃ tid < m.process.count, (m.process.tasks tid).entered = some conn
  connections : m.process.state.connections.Nodup
  registered : m.registered.Nodup
  finished : m.finished.Nodup
  below : ∀ conn ∈ m.registered, conn < m.process.state.nextConn
  subset : ∀ conn ∈ m.finished, conn ∈ m.registered
  waiting : ∀ tid < m.process.count, ∀ conn, m.process.tasks tid = .passed conn → conn ∉ m.registered
  entered : ∀ tid < m.process.count, ∀ conn, (m.process.tasks tid).entered = some conn →
    conn ∈ m.registered ∧ (conn ∈ m.finished ↔ (m.exit tid).isCounted = true)
  held : ∀ conn ∈ m.registered, conn ∉ m.finished →
    ∃ tid < m.process.count, (m.process.tasks tid).entered = some conn
  resting : ∀ tid < m.process.count, (m.process.tasks tid).isLeaving = false → m.exit tid = .entered
  sum : ∀ k, m.tunnelStat.counters k = (m.counted.map fun entry => entry.2.counter k).sum

variable {kinds : Nat → TunnelKind} {m n : Monitor} {act : MonitorAction} {acts : List MonitorAction} {count tid : Nat}
  {s : State} {phase : Phase} {task : TaskAction}

theorem accounts_new (count : Nat) : (new count).Accounts := by
  constructor <;> try simp [new, Monitor.finished, Process.new, State.new, Phase.entered, Phase.conn,
    Phase.isLeaving, TunnelStat.zero]
  exact ⟨by simp [Phase.conn], by simp [Phase.conn]⟩

/-- A step of a task, with what it has to respect. -/
theorem Accounts.update (inv : m.Accounts) (member : tid < m.process.count)
    (nextConn : m.process.state.nextConn ≤ s.nextConn)
    (own : ∀ conn, phase.conn = some conn → (m.process.tasks tid).conn = some conn ∨
      conn = m.process.state.nextConn ∧ conn < s.nextConn)
    (listed : ∀ conn ∈ s.connections, phase.entered = some conn ∨
      conn ∈ m.process.state.connections ∧ (m.process.tasks tid).entered ≠ some conn)
    (connections : s.connections.Nodup)
    (fresh : ∀ conn ∈ enters phase task, (m.process.tasks tid).conn = some conn ∧ conn ∉ m.registered)
    (waiting : ∀ conn, phase = .passed conn → conn ∉ m.registered)
    (entered : ∀ conn, phase.entered = some conn → conn ∈ m.registered ++ enters phase task ∧ conn ∉ m.finished)
    (left : ∀ conn, (m.process.tasks tid).entered = some conn → phase.entered = some conn ∨ conn ∈ m.finished) :
    Accounts (m.afterTask tid task
      { m.process with state := s, tasks := Function.update m.process.tasks tid phase }) := by
  have others : ∀ {other conn}, other ≠ tid → (m.process.tasks other).entered = some conn →
      (Function.update m.process.tasks tid phase other).entered = some conn := by
    intro other conn this has
    rwa [Function.update_of_ne this]
  unfold afterTask
  simp only [Function.update_self]
  constructor
  case owned => exact inv.owned.update member nextConn own
  case opened =>
    intro other leaving
    by_cases this : other = tid
    · rwa [this]
    · dsimp only at leaving
      rw [Function.update_of_ne this] at leaving
      exact inv.opened other leaving
  case listed =>
    dsimp only
    intro conn inside
    rcases listed conn inside with has | ⟨before, left⟩
    · exact ⟨tid, member, by rwa [Function.update_self]⟩
    · obtain ⟨other, opened, has⟩ := inv.listed conn before
      exact ⟨other, opened, others (by rintro rfl; exact left has) has⟩
  case connections => exact connections
  case registered =>
    refine List.nodup_append.mpr ⟨inv.registered, enters_nodup phase task, ?_⟩
    rintro conn before _ new rfl
    exact (fresh conn new).2 before
  case finished => exact inv.finished
  case below =>
    intro conn registered
    refine Nat.lt_of_lt_of_le ?_ nextConn
    rcases List.mem_append.mp registered with before | new
    · exact inv.below conn before
    · exact inv.owned.known tid member conn (fresh conn new).1
  case subset => exact fun conn finished => List.mem_append_left _ (inv.subset conn finished)
  case waiting =>
    dsimp only
    intro other opened conn passed registered
    by_cases this : other = tid
    · subst this
      rw [Function.update_self] at passed
      subst passed
      rw [show enters (.passed conn) task = [] from rfl, List.append_nil] at registered
      exact waiting conn rfl registered
    · rw [Function.update_of_ne this] at passed
      rcases List.mem_append.mp registered with before | new
      · exact inv.waiting other opened conn passed before
      · exact this (inv.owned.apart other opened tid member conn (by rw [passed]; rfl) (fresh conn new).1)
  case entered =>
    dsimp only
    intro other opened conn has
    by_cases this : other = tid
    · subst this
      rw [Function.update_self] at has
      simp only [Function.update_self]
      obtain ⟨registered, pending⟩ := entered conn has
      exact ⟨registered, iff_of_false pending Bool.false_ne_true⟩
    · rw [Function.update_of_ne this] at has
      simp only [Function.update_of_ne this]
      obtain ⟨registered, counted⟩ := inv.entered other opened conn has
      exact ⟨List.mem_append_left _ registered, counted⟩
  case held =>
    dsimp only
    intro conn registered pending
    rcases List.mem_append.mp registered with before | new
    · obtain ⟨other, opened, has⟩ := inv.held conn before pending
      by_cases this : other = tid
      · subst this
        rcases left conn has with still | finished
        · exact ⟨other, opened, by rwa [Function.update_self]⟩
        · exact absurd finished pending
      · exact ⟨other, opened, others this has⟩
    · exact ⟨tid, member, by rw [Function.update_self, enters_entered new]⟩
  case resting =>
    dsimp only
    intro other opened staying
    by_cases this : other = tid
    · simp only [this, Function.update_self]
    · simp only [Function.update_of_ne this] at staying ⊢
      exact inv.resting other opened staying
  case sum => exact inv.sum

theorem task_accounts (inv : m.Accounts) (member : tid < m.process.count)
    (counted : task = .remove → (m.exit tid).isCounted = true)
    (handles : Handles m.process.state (m.process.tasks tid) task s phase) :
    Accounts (m.afterTask tid task
      { m.process with state := s, tasks := Function.update m.process.tasks tid phase }) := by
  generalize was : m.process.tasks tid = before at handles
  cases handles with
  | none none after connections nextConn =>
    have free : before.entered = .none := Phase.entered_of_conn none
    refine inv.update member nextConn ?_ ?_ (connections ▸ inv.connections) ?_ ?_ ?_ ?_
    · simp [after]
    · rw [connections, was, free]
      exact fun conn inside => .inr ⟨inside, (Option.some_ne_none conn).symm⟩
    · simp [enters_of_conn after]
    · rintro conn rfl
      cases after
    · simp [Phase.entered_of_conn after]
    · simp [was, free]
  | connects none connections nextConn =>
    have free : before.entered = .none := Phase.entered_of_conn none
    refine inv.update member (by omega) ?_ ?_ (connections ▸ inv.connections) ?_ ?_ ?_ ?_
    · rintro conn ⟨⟩
      exact .inr ⟨rfl, by omega⟩
    · rw [connections, was, free]
      exact fun conn inside => .inr ⟨inside, (Option.some_ne_none conn).symm⟩
    · simp [enters]
    · rintro conn ⟨⟩ registered
      exact Nat.lt_irrefl _ (inv.below _ registered)
    · simp [Phase.entered]
    · simp [was, free]
  | enters conn =>
    have fresh := inv.waiting tid member conn was
    have outside : conn ∉ m.process.state.connections := by
      intro inside
      obtain ⟨other, opened, has⟩ := inv.listed conn inside
      exact fresh (inv.entered other opened conn has).1
    refine inv.update member (Nat.le_refl _) ?_ ?_ (List.nodup_cons.mpr ⟨outside, inv.connections⟩) ?_ ?_ ?_ ?_
    · rintro _ ⟨⟩
      exact .inl (by rw [was]; rfl)
    · rintro other inside
      rcases List.mem_cons.mp inside with rfl | before
      · exact .inl rfl
      · exact .inr ⟨before, by simp [was, Phase.entered]⟩
    · rintro _ ⟨⟩
      · exact ⟨by rw [was]; rfl, fresh⟩
      · contradiction
    · rintro _ ⟨⟩
    · rintro _ ⟨⟩
      exact ⟨List.mem_append_right _ List.mem_cons_self, fun finished => fresh (inv.subset conn finished)⟩
    · simp [was, Phase.entered]
  | keeps conn had has staying silent connections nextConn =>
    obtain ⟨registered, counted⟩ := inv.entered tid member conn (by rw [was, had])
    have pending : conn ∉ m.finished := by
      rw [counted, inv.resting tid member (by rw [was, staying])]
      exact Bool.false_ne_true
    refine inv.update member (Nat.le_of_eq nextConn.symm) ?_ ?_ (connections ▸ inv.connections) ?_ ?_ ?_ ?_
    · intro other has'
      rw [Phase.conn_of_entered has] at has'
      rw [was, Phase.conn_of_entered had]
      exact .inl has'
    · intro other inside
      rw [was, had, has, connections] at *
      by_cases same : some conn = some other
      · exact .inl same
      · exact .inr ⟨inside, same⟩
    · simp [silent]
    · rintro other rfl
      cases has
    · intro other has'
      obtain rfl := Option.some.inj (has.symm.trans has')
      exact ⟨List.mem_append_left _ registered, pending⟩
    · rw [was, had, has]
      exact fun _ => .inl
  | leaves conn =>
    refine inv.update member (Nat.le_refl _) ?_ ?_ (inv.connections.filter _) ?_ ?_ ?_ ?_
    · rintro _ ⟨⟩
    · intro other inside
      obtain ⟨before, different⟩ := List.mem_filter.mp inside
      refine .inr ⟨before, ?_⟩
      rw [was]
      rintro ⟨⟩
      simp at different
    · simp [enters]
    · rintro _ ⟨⟩
    · rintro _ ⟨⟩
    · rw [was]
      rintro _ ⟨⟩
      exact .inr ((inv.entered tid member conn (by rw [was]; rfl)).2.mpr (counted rfl))

theorem Accounts.resting_exit {conn : Nat} {next : Exit} (inv : m.Accounts)
    (leaving : m.process.tasks tid = .leaving conn) : ∀ other < m.process.count,
      (m.process.tasks other).isLeaving = false → Function.update m.exit tid next other = .entered := by
  intro other opened staying
  have this : other ≠ tid := by
    rintro rfl
    rw [leaving] at staying
    cases staying
  rw [Function.update_of_ne this, inv.resting other opened staying]

/-- A task that has left its tunnel goes on, without having been counted before. -/
theorem Accounts.exit {conn : Nat} {next : Exit} (inv : m.Accounts) (leaving : m.process.tasks tid = .leaving conn)
    (before : (m.exit tid).isCounted = false) (after : next.isCounted = false) {events : Nat → List TunnelState} :
    Accounts { m with exit := Function.update m.exit tid next, events := events } := by
  refine { inv with entered := ?_, resting := inv.resting_exit leaving }
  intro other opened conn has
  obtain ⟨registered, counted⟩ := inv.entered other opened conn has
  refine ⟨registered, counted.trans ?_⟩
  by_cases this : other = tid
  · simp [this, before, after]
  · simp [Function.update_of_ne this]

theorem Accounts.outside {p : Process} (inv : m.Accounts) (same : m.process.Outside p) :
    Accounts { m with process := p } := by
  obtain ⟨state, count, tasks, stop⟩ := p
  obtain ⟨rfl, rfl, nextConn, connections, _⟩ := same
  dsimp only at nextConn connections
  have known : Process.Owned ⟨state, m.process.count, m.process.tasks, stop⟩ :=
    ⟨by simpa only [nextConn] using inv.owned.known, inv.owned.apart⟩
  refine { inv with owned := known, listed := ?_, connections := ?_, below := ?_ }
  · rcases connections with same | cleared
    · simpa only [same] using inv.listed
    · simp [cleared]
  · rcases connections with same | cleared
    · simpa only [same] using inv.connections
    · simp [cleared]
  · simpa only [nextConn] using inv.below

theorem Accounts.add {conn : Nat} {stats : ConnectionStats} (inv : m.Accounts)
    (leaving : m.process.tasks tid = .leaving conn) (pending : (m.exit tid).isCounted = false) :
    Accounts { m with
      exit := Function.update m.exit tid .counted
      tunnelStat := m.tunnelStat.addConnectionStatsToTotal stats
      counted := m.counted ++ [(conn, stats)] } := by
  have member : tid < m.process.count := inv.opened tid (by rw [leaving]; rfl)
  have has : (m.process.tasks tid).entered = some conn := by rw [leaving]; rfl
  obtain ⟨registered, counted⟩ := inv.entered tid member conn has
  have fresh : conn ∉ m.finished := by rw [counted, pending]; exact Bool.false_ne_true
  have finished : (m.counted ++ [(conn, stats)]).map Prod.fst = m.finished ++ [conn] := List.map_append
  refine { inv with
    finished := ?_, subset := ?_, entered := ?_, held := ?_, resting := inv.resting_exit leaving, sum := ?_ }
  · rw [Monitor.finished, finished, List.nodup_append]
    refine ⟨inv.finished, List.nodup_singleton conn, ?_⟩
    rintro other before _ new rfl
    rw [List.mem_singleton.mp new] at before
    exact fresh before
  · rw [Monitor.finished, finished]
    intro other member
    rcases List.mem_append.mp member with before | new
    · exact inv.subset other before
    · rwa [List.mem_singleton.mp new]
  · rw [Monitor.finished, finished]
    intro other opened conn' has'
    by_cases this : other = tid
    · subst this
      obtain rfl : conn = conn' := Option.some.inj (has.symm.trans has')
      simp only [Function.update_self]
      exact ⟨registered, iff_of_true (by simp) rfl⟩
    · obtain ⟨registered', counted'⟩ := inv.entered other opened conn' has'
      have different : conn' ≠ conn := by
        rintro rfl
        exact this (inv.owned.apart other opened tid member _ (Phase.conn_of_entered has') (Phase.conn_of_entered has))
      refine ⟨registered', ?_⟩
      simp only [Function.update_of_ne this]
      rw [← counted']
      simp [different]
  · rw [Monitor.finished, finished]
    intro other registered pending
    exact inv.held other registered fun before => pending (List.mem_append_left _ before)
  · intro k
    simp [TunnelStat.addConnectionStatsToTotal, inv.sum k]

theorem step_accounts (inv : m.Accounts) (h : m.step kinds act = some n) : n.Accounts := by
  cases step_spec h with
  | task member counted stepped => exact task_accounts inv member counted (Phase.step_handles stepped)
  | outside stepped outside => exact inv.outside (Process.step_outside stepped outside)
  | announced leaving entered => exact inv.exit leaving (by rw [entered]; rfl) rfl
  | read leaving announced => exact inv.exit leaving (by rw [announced]; rfl) rfl
  | added leaving read => exact inv.add leaving (by rw [read]; rfl)
  | grown | ticked => exact { inv with }

theorem run_accounts (h : run (step kinds) (new count) acts = some m) : m.Accounts :=
  run_invariant (fun _ _ _ => step_accounts) (accounts_new count) h

/-! ### One tick -/

theorem foldl_counters (conns : List Nat) (stat : TunnelStat) (k : Counter) :
    (conns.foldl (fun stat conn => TunnelStat.appendConnStatsToTunnelStat stat (m.stats conn)) stat).counters k =
      stat.counters k + (conns.map fun conn => (m.stats conn).counter k).sum := by
  induction conns generalizing stat with
  | nil => simp
  | cons conn rest ih =>
    rw [List.foldl_cons, ih, List.map_cons, List.sum_cons, ← add_assoc]
    rfl

theorem report_counters (k : Counter) : m.report.counters k =
    (m.process.state.connections.map fun conn => (m.stats conn).counter k).sum + m.tunnelStat.counters k := by
  simp [report, foldl_counters, TunnelStat.zero]

/-- A connection that a task has entered is in the state if and only if it has not been added to the
total. -/
def Separate (m : Monitor) : Prop :=
  ∀ tid < m.process.count, ∀ conn ∈ (m.process.tasks tid).entered,
    (conn ∈ m.process.state.connections ↔ (m.exit tid).isCounted = false)

/-- This is the case if and only if every registered connection is reported once. -/
theorem separate_iff (inv : m.Accounts) :
    m.Separate ↔ (m.process.state.connections ++ m.finished).Perm m.registered := by
  constructor
  · intro separate
    have disjoint : ∀ conn ∈ m.process.state.connections, conn ∉ m.finished := by
      intro conn inside finished
      obtain ⟨tid, member, has⟩ := inv.listed conn inside
      have pending := (separate tid member conn has).mp inside
      rw [(inv.entered tid member conn has).2, pending] at finished
      cases finished
    have nodup : (m.process.state.connections ++ m.finished).Nodup := by
      refine List.nodup_append.mpr ⟨inv.connections, inv.finished, ?_⟩
      rintro conn inside _ finished rfl
      exact disjoint conn inside finished
    refine (List.perm_ext_iff_of_nodup nodup inv.registered).mpr fun conn => ⟨fun reported => ?_, fun registered => ?_⟩
    · rcases List.mem_append.mp reported with inside | finished
      · obtain ⟨tid, member, has⟩ := inv.listed conn inside
        exact (inv.entered tid member conn has).1
      · exact inv.subset conn finished
    · by_cases finished : conn ∈ m.finished
      · exact List.mem_append_right _ finished
      · obtain ⟨tid, member, has⟩ := inv.held conn registered finished
        rw [(inv.entered tid member conn has).2, Bool.not_eq_true] at finished
        exact List.mem_append_left _ ((separate tid member conn has).mpr finished)
  · intro once tid member conn has
    obtain ⟨registered, counted⟩ := inv.entered tid member conn has
    have disjoint := (List.nodup_append.mp (once.nodup_iff.mpr inv.registered)).2.2
    rw [← Bool.not_eq_true, ← counted]
    constructor
    · exact fun inside finished => disjoint conn inside conn finished rfl
    · intro pending
      rcases List.mem_append.mp (once.mem_iff.mpr registered) with inside | finished
      · exact inside
      · exact absurd finished pending

/-- The statistics that have been read are still those of the connection. -/
structure Current (m : Monitor) : Prop where
  counted : ∀ entry ∈ m.counted, m.stats entry.1 = entry.2
  read : ∀ tid conn stats, m.process.tasks tid = .leaving conn → m.exit tid = .read stats → m.stats conn = stats

theorem report_exact (inv : m.Accounts) (current : m.Current) (separate : m.Separate) (k : Counter) :
    m.report.counters k = m.total k := by
  have counted : (m.counted.map fun entry => entry.2.counter k) = m.finished.map fun conn => (m.stats conn).counter k := by
    rw [Monitor.finished, List.map_map]
    exact List.map_congr_left fun entry member => by rw [Function.comp, current.counted entry member]
  rw [report_counters, inv.sum k, counted, ← List.sum_append, ← List.map_append]
  exact (((separate_iff inv).mp separate).map _).sum_eq

/-! ### Whole runs -/

/-- A tick sees every connection once, and a connection does not grow any more once its statistics have
been read. -/
def Undisturbed (m : Monitor) : MonitorAction → Prop
  | .tick => m.Separate
  | .grow conn _ => conn ∉ m.finished ∧
      ∀ tid < m.process.count, m.process.tasks tid = .leaving conn → (m.exit tid).isRead = false
  | _ => True

theorem Current.exit {next : Exit} (inv : m.Current)
    (own : ∀ conn stats, m.process.tasks tid = .leaving conn → next = .read stats → m.stats conn = stats) :
    ∀ other conn stats, m.process.tasks other = .leaving conn →
      Function.update m.exit tid next other = .read stats → m.stats conn = stats := by
  intro other conn stats leaving read
  by_cases this : other = tid
  · subst this
    rw [Function.update_self] at read
    exact own conn stats leaving read
  · rw [Function.update_of_ne this] at read
    exact inv.read other conn stats leaving read

theorem step_current (accounts : m.Accounts) (inv : m.Current) (undisturbed : m.Undisturbed act)
    (h : m.step kinds act = some n) : n.Current := by
  cases step_spec h with
  | @task tid task state phase member counted stepped =>
    refine ⟨inv.counted, fun other conn stats leaving read => ?_⟩
    by_cases this : other = tid
    · subst this
      simp [afterTask] at read
    · simp only [afterTask, Function.update_of_ne this] at leaving read
      exact inv.read other conn stats leaving read
  | outside stepped outside =>
    refine ⟨inv.counted, fun other conn stats leaving read => ?_⟩
    dsimp only at leaving
    rw [(Process.step_outside stepped outside).tasks] at leaving
    exact inv.read other conn stats leaving read
  | announced leaving entered => exact ⟨inv.counted, inv.exit (by rintro _ _ _ ⟨⟩)⟩
  | @read tid conn leaving announced =>
    refine ⟨inv.counted, inv.exit fun conn' stats leaving' read => ?_⟩
    obtain rfl : conn = conn' := Phase.leaving.inj (leaving.symm.trans leaving')
    exact Exit.read.inj read
  | @added tid conn stats leaving read =>
    refine ⟨fun entry member => ?_, inv.exit (by rintro _ _ _ ⟨⟩)⟩
    rcases List.mem_append.mp member with before | new
    · exact inv.counted entry before
    · rw [List.mem_singleton.mp new]
      exact inv.read tid conn stats leaving read
  | @grown conn stats more =>
    obtain ⟨fresh, unread⟩ := undisturbed
    refine ⟨fun entry member => ?_, fun other conn' stats' leaving read => ?_⟩
    · have different : entry.1 ≠ conn := by
        rintro rfl
        exact fresh (List.mem_map_of_mem member)
      exact (Function.update_of_ne different ..).trans (inv.counted entry member)
    · have different : conn' ≠ conn := by
        rintro rfl
        have opened := accounts.opened other (by rw [leaving]; rfl)
        have unread := unread other opened leaving
        rw [show m.exit other = .read stats' from read] at unread
        cases unread
      exact (Function.update_of_ne different ..).trans (inv.read other conn' stats' leaving read)
  | ticked => exact ⟨inv.counted, inv.read⟩

/-- The same sum without a bound on its size. -/
def traffic (m : Monitor) (k : Counter) : Nat :=
  (m.registered.map fun conn => ((m.stats conn).counter k).toNat).sum

theorem total_toNat (k : Counter) : (m.total k).toNat = m.traffic k % 2 ^ 64 := by
  unfold total traffic
  induction m.registered with
  | nil => rfl
  | cons conn rest ih => rw [List.map_cons, List.sum_cons, UInt64.toNat_add, ih, Nat.add_mod_mod, List.map_cons, List.sum_cons]

theorem step_traffic (h : m.step kinds act = some n) (k : Counter) : m.traffic k ≤ n.traffic k := by
  cases step_spec h with
  | task =>
    simp only [traffic, afterTask, List.map_append, List.sum_append]
    exact Nat.le_add_right ..
  | @grown conn stats more =>
    refine List.sum_le_sum fun other _ => ?_
    by_cases same : other = conn
    · subst same
      simp only [Function.update_self]
      exact more k
    · simp only [Function.update_of_ne same]
      exact Nat.le_refl _
  | outside | announced | read | added | ticked => exact Nat.le_refl _

/-- No report is above what there is now, and each is above those before it. -/
structure Rising (m : Monitor) : Prop where
  bounded : ∀ stat ∈ m.reports, ∀ k, (stat.counters k).toNat ≤ m.traffic k
  sorted : ∀ k, m.traffic k < 2 ^ 64 →
    m.reports.Pairwise fun earlier later => earlier.counters k ≤ later.counters k

theorem Rising.idle (inv : m.Rising) (traffic : ∀ k, m.traffic k ≤ n.traffic k) (reports : n.reports = m.reports) :
    n.Rising := by
  constructor
  · intro stat member k
    rw [reports] at member
    exact (inv.bounded stat member k).trans (traffic k)
  · intro k fits
    rw [reports]
    exact inv.sorted k ((traffic k).trans_lt fits)

theorem step_rising (inv : m.Rising) (complete : act = .tick → ∀ k, m.report.counters k = m.total k)
    (h : m.step kinds act = some n) : n.Rising := by
  have traffic := step_traffic h
  cases step_spec h with
  | ticked =>
    have reported : ∀ k, (m.report.counters k).toNat = m.traffic k % 2 ^ 64 := by
      intro k
      rw [complete rfl k, total_toNat]
    constructor
    · intro stat member k
      rcases List.mem_append.mp member with before | new
      · exact inv.bounded stat before k
      · rw [List.mem_singleton.mp new, reported k]
        exact Nat.mod_le ..
    · intro k (fits : m.traffic k < 2 ^ 64)
      refine List.pairwise_append.mpr ⟨inv.sorted k fits, List.pairwise_singleton .., ?_⟩
      intro stat before last new
      rw [List.mem_singleton.mp new, UInt64.le_iff_toNat_le, reported k, Nat.mod_eq_of_lt fits]
      exact inv.bounded stat before k
  | task | outside | announced | read | added | grown => exact inv.idle traffic rfl

/-- What holds as long as the reporter is not disturbed. -/
structure Exact (m : Monitor) : Prop where
  accounts : m.Accounts
  current : m.Current
  rising : m.Rising

theorem Exact.tick (inv : m.Exact) (undisturbed : m.Undisturbed .tick) (k : Counter) :
    m.report.counters k = m.total k := report_exact inv.accounts inv.current undisturbed k

theorem exact_new (count : Nat) : (new count).Exact where
  accounts := accounts_new count
  current := ⟨by simp [new], by simp [new]⟩
  rising := ⟨by simp [new], by simp [new]⟩

theorem step_exact (inv : m.Exact) (undisturbed : m.Undisturbed act) (h : m.step kinds act = some n) : n.Exact where
  accounts := step_accounts inv.accounts h
  current := step_current inv.accounts inv.current undisturbed h
  rising := step_rising inv.rising (fun ticks => inv.tick (ticks ▸ undisturbed)) h

/-- Every registered connection is in a report once if and only if none is between the addition to the
total and its removal, or taken out of the state by a stop before the addition. If this is so at every
tick, and no connection grows after its statistics have been read, then every report is exact and no
counter goes down. -/
theorem reports_exact (h : run (step kinds) (new count) acts = some m) :
    (m.Separate ↔ (m.process.state.connections ++ m.finished).Perm m.registered) ∧
    (Along (step kinds) Undisturbed (new count) acts →
      (∀ before later m', acts = before ++ .tick :: later → run (step kinds) (new count) before = some m' →
        ∀ k, m'.report.counters k = m'.total k) ∧
      ∀ k, m.traffic k < 2 ^ 64 →
        m.reports.Pairwise fun earlier later => earlier.counters k ≤ later.counters k) := by
  refine ⟨separate_iff (run_accounts h), fun along => ⟨?_, ?_⟩⟩
  · rintro before later m' rfl ran
    obtain ⟨first, rest⟩ := along_append along
    have inv : m'.Exact := run_along_invariant (fun _ _ _ => step_exact) (exact_new count) first ran
    exact inv.tick (rest m' ran).1
  · have inv : m.Exact := run_along_invariant (fun _ _ _ => step_exact) (exact_new count) along h
    exact inv.rising.sorted

instance (m : Monitor) (act : MonitorAction) : Decidable (Undisturbed m act) := by
  unfold Undisturbed Separate
  split <;> infer_instance

def received (bytes : UInt64) : ConnectionStats := { ConnectionStats.zero with udpRx := ⟨0, bytes⟩ }

/-- A tunnel receives a hundred bytes, then its connection is lost and counted. -/
def counts : List MonitorAction :=
  [.process (.task 0 (.lookup false true)), .process (.task 0 .create), .process (.task 0 .store),
   .process (.task 0 .loginOk), .process (.task 0 .register), .process (.task 0 .findServer),
   .grow 0 (received 100), .tick, .process (.connLost 0), .process (.task 0 .connClosed), .announce 0,
   .readStats 0, .addStats 0]

theorem reports_exact_counts :
    ∃ m, run (step fun _ => .inboundOrChannel) (new 1) (counts ++ [.process (.task 0 .remove), .tick]) = some m ∧
      m.reports.map (fun stat => stat.counters .rxBytes) = [100, 100] ∧
      m.reports.Pairwise fun earlier later => earlier.counters .rxBytes ≤ later.counters .rxBytes := by
  obtain ⟨m, ran, reported, small⟩ := run_reaches
    (P := fun m : Monitor => m.reports.map (fun stat => stat.counters .rxBytes) = [100, 100] ∧
      m.traffic .rxBytes < 2 ^ 64)
    (show (run (step fun _ => .inboundOrChannel) (new 1) (counts ++ [.process (.task 0 .remove), .tick])).any _ = true by
      decide +kernel)
  exact ⟨m, ran, reported, ((reports_exact ran).2 (by decide +kernel)).2 .rxBytes small⟩

/-- A tick before the connection is removed reports it twice, and the next one reports less. The client
is not being stopped. -/
theorem reported_twice :
    ∃ m, run (step fun _ => .inboundOrChannel) (new 1) (counts ++ [.tick, .process (.task 0 .remove), .tick]) = some m ∧
      m.process.stop = .idle ∧ m.registered = [0] ∧ (m.stats 0).counter .rxBytes = 100 ∧
      m.reports.map (fun stat => stat.counters .rxBytes) = [100, 200, 100] := by
  obtain ⟨m, ran, twice⟩ := run_reaches
    (P := fun m : Monitor => m.process.stop = .idle ∧ m.registered = [0] ∧ (m.stats 0).counter .rxBytes = 100 ∧
      m.reports.map (fun stat => stat.counters .rxBytes) = [100, 200, 100])
    (show (run (step fun _ => .inboundOrChannel) (new 1) (counts ++ [.tick, .process (.task 0 .remove), .tick])).any
      _ = true by decide +kernel)
  exact ⟨m, ran, twice⟩

end Monitor

end Rstun.Client
