import Rstun.Client.Process

/-!
# The cached endpoint

The client keeps one endpoint in its state for all its connections. A task looks at it, logs in on it and
enters the connection into the state, each under a lock of its own. In between, another task may replace
the endpoint.
-/

namespace Rstun.Client
open Transition

/-- A task that is about to use an endpoint: it connects on it, or its connection is yet to be entered. -/
def Phase.carries : Phase → Bool
  | mismatch _ _ | loggingIn _ | passed _ => true
  | _ => false

namespace Process

/-- A new endpoint is stored only if there is none, and the endpoint is taken away only if no other task
is about to use it. -/
def KeepsEndpoint (p : Process) : Action → Prop
  | .task _ .store => p.state.endpoint = none
  | .task tid .reset | .task tid .clear => p.state.connections = [] →
      ∀ other < p.count, other ≠ tid → (p.tasks other).carries = false
  | _ => True

instance (p : Process) (act : Action) : Decidable (KeepsEndpoint p act) := by
  unfold KeepsEndpoint
  split <;> infer_instance

/-- Whoever uses an endpoint uses the one in the state. -/
structure Agrees (p : Process) : Prop where
  connecting : ∀ tid < p.count, ∀ endpoint, (p.tasks tid).endpoint = some endpoint →
    p.state.endpoint = some endpoint
  passed : ∀ tid < p.count, ∀ conn, p.tasks tid = .passed conn →
    conn < p.state.nextConn ∧ p.state.endpoint = some (p.state.endpointOf conn)
  registered : ∀ conn ∈ p.state.connections, conn < p.state.nextConn ∧
    (p.state.closed conn = false → p.state.endpoint = some (p.state.endpointOf conn))

variable {kinds : Nat → TunnelKind} {p q : Process} {tid : Nat} {s : State} {phase : Phase}

theorem agrees_new (count : Nat) : (new count).Agrees := ⟨nofun, nofun, nofun⟩

/-- A step that leaves the endpoint as it is, and the connections that there are. -/
theorem Agrees.update (inv : p.Agrees) (member : tid < p.count) (same : s.endpoint = p.state.endpoint)
    (endpointOf : ∀ conn < p.state.nextConn, s.endpointOf conn = p.state.endpointOf conn)
    (nextConn : p.state.nextConn ≤ s.nextConn)
    (closed : ∀ conn < p.state.nextConn, s.closed conn = false → p.state.closed conn = false)
    (connections : ∀ conn ∈ s.connections, conn ∈ p.state.connections ∨ p.tasks tid = .passed conn)
    (connecting : ∀ endpoint, phase.endpoint = some endpoint → p.state.endpoint = some endpoint)
    (passed : ∀ conn, phase = .passed conn →
      conn < s.nextConn ∧ p.state.endpoint = some (s.endpointOf conn)) :
    Agrees { p with state := s, tasks := Function.update p.tasks tid phase } := by
  refine ⟨?_, ?_, ?_⟩
  · apply (Function.forall_update_iff p.tasks fun other phase => other < p.count →
      ∀ endpoint, phase.endpoint = some endpoint → s.endpoint = some endpoint).mpr
    rw [same]
    exact ⟨fun _ => connecting, fun other _ => inv.connecting other⟩
  · apply (Function.forall_update_iff p.tasks fun other phase => other < p.count →
      ∀ conn, phase = .passed conn → conn < s.nextConn ∧ s.endpoint = some (s.endpointOf conn)).mpr
    rw [same]
    refine ⟨fun _ => passed, fun other _ opened conn has => ?_⟩
    obtain ⟨below, agrees⟩ := inv.passed other opened conn has
    exact ⟨below.trans_le nextConn, by rw [endpointOf conn below, agrees]⟩
  · intro conn entered
    simp only [same]
    rcases connections conn entered with before | has
    · obtain ⟨below, agrees⟩ := inv.registered conn before
      refine ⟨below.trans_le nextConn, fun isOpen => ?_⟩
      rw [endpointOf conn below]
      exact agrees (closed conn below isOpen)
    · obtain ⟨below, agrees⟩ := inv.passed tid member conn has
      exact ⟨below.trans_le nextConn, fun _ => by rw [endpointOf conn below, agrees]⟩

theorem open_before_close {conn other : Nat} (h : (s.close conn).closed other = false) :
    s.closed other = false := by
  by_cases this : other = conn
  · rw [this, State.closed_close] at h
    cases h
  · rwa [State.closed_close_of_ne this] at h

/-- The endpoint is taken away while nobody uses it. -/
theorem agrees_drop (unused : p.state.connections = [])
    (others : ∀ other < p.count, other ≠ tid → (p.tasks other).carries = false)
    (before : phase.endpoint = none) (fresh : phase.conn = none) :
    Agrees { p with state := { p.state with endpoint := none }, tasks := Function.update p.tasks tid phase } := by
  refine ⟨?_, ?_, ?_⟩
  · apply (Function.forall_update_iff p.tasks fun other phase => other < p.count →
      ∀ endpoint, phase.endpoint = some endpoint → none = some endpoint).mpr
    refine ⟨fun _ endpoint carried => before.symm.trans carried, fun other this opened endpoint carried => ?_⟩
    have idle := others other opened this
    cases phase : p.tasks other <;> simp [phase, Phase.endpoint, Phase.carries] at carried idle
  · apply (Function.forall_update_iff p.tasks fun other phase => other < p.count → ∀ conn,
      phase = .passed conn → conn < p.state.nextConn ∧ none = some (p.state.endpointOf conn)).mpr
    constructor
    · rintro _ conn rfl
      cases fresh
    · intro other this opened conn has
      have idle := others other opened this
      rw [has] at idle
      cases idle
  · intro conn entered
    rw [show p.state.connections = [] from unused] at entered
    cases entered

/-- Without an endpoint nobody uses one, and any may be stored. -/
theorem Agrees.store (inv : p.Agrees) (none : p.state.endpoint = none) (endpoint : Nat) :
    Agrees { p with
      state := { p.state with endpoint := some endpoint }
      tasks := Function.update p.tasks tid (.loggingIn endpoint) } := by
  refine ⟨?_, ?_, ?_⟩
  · apply (Function.forall_update_iff p.tasks fun other phase => other < p.count →
      ∀ carried, phase.endpoint = some carried → some endpoint = some carried).mpr
    refine ⟨fun _ _ => id, fun other _ opened carried has => ?_⟩
    cases none.symm.trans (inv.connecting other opened carried has)
  · apply (Function.forall_update_iff p.tasks fun other phase => other < p.count → ∀ conn,
      phase = .passed conn → conn < p.state.nextConn ∧ some endpoint = some (p.state.endpointOf conn)).mpr
    refine ⟨fun _ _ has => (by cases has), fun other _ opened conn has => ?_⟩
    cases none.symm.trans (inv.passed other opened conn has).2
  · intro conn entered
    obtain ⟨below, agrees⟩ := inv.registered conn entered
    exact ⟨below, fun isOpen => nomatch none.symm.trans (agrees isOpen)⟩

theorem task_agrees {act : TaskAction} (inv : p.Agrees) (keeps : KeepsEndpoint p (.task tid act))
    (member : tid < p.count) (moves : Moves p.state (p.tasks tid) act s phase) :
    Agrees { p with state := s, tasks := Function.update p.tasks tid phase } := by
  generalize was : p.tasks tid = before at moves
  cases moves with
  | idle _ after free =>
    refine inv.update member rfl (fun _ _ => rfl) (Nat.le_refl _) (fun _ _ => id) (fun _ => .inl) ?_ ?_
    · intro endpoint carried
      cases free.symm.trans carried
    · rintro conn rfl
      cases after
  | found cached after taken =>
    refine inv.update member rfl (fun _ _ => rfl) (Nat.le_refl _) (fun _ _ => id) (fun _ => .inl) ?_ ?_
    · intro endpoint carried
      rw [cached, ← taken, carried]
    · rintro conn rfl
      cases after
  | kept endpoint ipv6 =>
    refine inv.update member rfl (fun _ _ => rfl) (Nat.le_refl _) (fun _ _ => id) (fun _ => .inl) ?_ nofun
    intro other carried
    exact inv.connecting tid member other (by rw [was]; exact carried)
  | dropped reset unused _ after free =>
    have others : ∀ other < p.count, other ≠ tid → (p.tasks other).carries = false := by
      rcases reset with rfl | rfl
      · exact keeps unused
      · exact keeps unused
    exact agrees_drop unused others free after
  | created ipv6 =>
    exact inv.update member rfl (fun _ _ => rfl) (Nat.le_refl _) (fun _ _ => id) (fun _ => .inl) nofun nofun
  | stored endpoint => exact inv.store keeps endpoint
  | gaveUp endpoint _ =>
    refine inv.update member rfl (fun _ => State.endpointOf_connect) (Nat.le_succ _) ?_ (fun _ => .inl)
      nofun nofun
    intro conn below
    rw [State.closed_connect below]
    exact id
  | passed endpoint _ =>
    refine inv.update member rfl (fun _ => State.endpointOf_connect) (Nat.le_succ _) ?_ (fun _ => .inl)
      nofun ?_
    · intro conn below
      rw [State.closed_connect below]
      exact id
    · rintro _ ⟨⟩
      have on := inv.connecting tid member endpoint (by rw [was]; rfl)
      exact ⟨Nat.lt_succ_self _, by simp only [State.connect, Function.update_self, on]⟩
  | entered conn =>
    refine inv.update member rfl (fun _ _ => rfl) (Nat.le_refl _) (fun _ _ => id) ?_ nofun nofun
    intro other entered
    rcases List.mem_cons.mp entered with rfl | before
    · exact .inr was
    · exact .inl before
  | setUp _ _ _ _ _ after has =>
    refine inv.update member rfl (fun _ _ => rfl) (Nat.le_refl _) (fun _ _ => id) (fun _ => .inl) ?_ ?_
    · intro endpoint carried
      cases phase <;> cases carried <;> cases has
    · rintro conn rfl
      rcases after with after | after <;> cases after
  | ended _ _ =>
    exact inv.update member rfl (fun _ _ => rfl) (Nat.le_refl _) (fun _ _ => open_before_close) (fun _ => .inl)
      nofun nofun
  | removed conn =>
    refine inv.update member rfl (fun _ _ => rfl) (Nat.le_refl _) (fun _ _ => id) ?_ nofun nofun
    exact fun other kept => .inl (List.mem_of_mem_filter kept)

/-- A connection is closed, by the peer or by `stop_async`. -/
theorem Agrees.close (inv : p.Agrees) (conn : Nat) (stop : StopPhase) :
    Agrees { p with state := p.state.close conn, stop := stop } := by
  refine ⟨inv.connecting, inv.passed, fun other entered => ?_⟩
  obtain ⟨below, agrees⟩ := inv.registered other entered
  exact ⟨below, fun isOpen => agrees (open_before_close isOpen)⟩

theorem step_agrees {act : Action} (inv : p.Agrees) (keeps : KeepsEndpoint p act)
    (h : p.step kinds act = some q) : q.Agrees := by
  cases act with
  | task tid act =>
    obtain ⟨state, phase, member, stepped, rfl⟩ := step_task h
    exact task_agrees inv keeps member (Phase.step_moves stepped)
  | connLost conn =>
    cases h
    exact inv.close conn p.stop
  | stop =>
    simp only [step] at h
    split at h <;> cases h
    exact ⟨inv.connecting, inv.passed, inv.registered⟩
  | closeAll =>
    simp only [step] at h
    split at h <;> cases h
    exact ⟨inv.connecting, inv.passed, fun _ entered => by cases entered⟩
  | closeOne =>
    simp only [step] at h
    split at h <;> cases h
    exact inv.close _ _
  | terminate =>
    simp only [step] at h
    split at h <;> cases h
    exact ⟨inv.connecting, inv.passed, inv.registered⟩

/-- If no endpoint is replaced and none is taken away that another task is about to use, every registered
connection that is still open has been made on the cached endpoint. -/
theorem connections_on_cached_endpoint {count : Nat} {acts : List Action}
    (keeps : Along (step kinds) KeepsEndpoint (new count) acts)
    (h : run (step kinds) (new count) acts = some p) :
    ∀ conn ∈ p.state.connections, p.state.closed conn = false →
      p.state.endpoint = some (p.state.endpointOf conn) := by
  have inv : p.Agrees :=
    run_along_invariant (fun _ _ _ inv keeps stepped => step_agrees inv keeps stepped) (agrees_new count) keeps h
  exact fun conn entered => (inv.registered conn entered).2

/-- A task connects on an endpoint that it has to create, or on the cached one. -/
def connects (tid : Nat) (first : Bool) : List Action :=
  (if first then [.lookup false true, .create, .store, .loginOk, .register]
    else [.lookup false true, .loginOk, .register]).map (.task tid)

theorem connections_on_cached_endpoint_two :
    ∃ p, run (step fun _ => .inboundOrChannel) (new 2) (connects 0 true ++ connects 1 false) = some p ∧
      p.state.connections = [1, 0] ∧
      ∀ conn ∈ p.state.connections, p.state.closed conn = false →
        p.state.endpoint = some (p.state.endpointOf conn) := by
  have keeps : Along (step fun _ => .inboundOrChannel) KeepsEndpoint (new 2)
      (connects 0 true ++ connects 1 false) := by decide +kernel
  exact ⟨_, rfl, by decide, connections_on_cached_endpoint keeps rfl⟩

/-- Two tasks find no endpoint. The first creates one and connects on it, then the second stores another. -/
theorem endpoint_replaced :
    ∃ p, run (step fun _ => .inboundOrChannel) (new 2)
        ([.task 1 (.lookup false true)] ++ connects 0 true ++ [.task 1 .create, .task 1 .store]) = some p ∧
      p.state.connections = [0] ∧ p.state.closed 0 = false ∧ p.state.endpointOf 0 = 0 ∧
      p.state.endpoint = some 1 ∧
      ¬ ∀ conn ∈ p.state.connections, p.state.closed conn = false →
        p.state.endpoint = some (p.state.endpointOf conn) :=
  ⟨_, rfl, by decide, by decide, by decide, by decide, by decide⟩

end Process

end Rstun.Client
