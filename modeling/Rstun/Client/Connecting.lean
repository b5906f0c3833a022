import Rstun.Base.Run
import Rstun.Base.Timer

/-!
# Connecting and the clock

`connect_and_serve` with the clock. An attempt to connect prepares a configuration, which has no timeout, and
takes four stages, each under the timeout of the attempt and a look at every `STOP_CHECK_INTERVAL_MS` whether
the client is stopping. After a failure the task sleeps for a delay up to a maximum, with some jitter, and
nothing wakes it before. The clock counts nanoseconds.
-/

namespace Rstun.Client
open Transition Timer

def millis (ms : Nat) : Nat := ms * 1000000

def stopCheckIntervalMs : Nat := 100
def retryBackoffMinMs : Nat := 300
def connectTimeoutMinSecs : Nat := 3
def connectTimeoutMaxSecs : Nat := 15

def saturatingMul (a b : Nat) : Nat := min (a * b) (2 ^ 64 - 1)

/-- In seconds. -/
def connectAttemptTimeoutFor (attempt : Nat) : Nat :=
  let shift := min attempt 63
  min (saturatingMul connectTimeoutMinSecs (1 <<< shift)) connectTimeoutMaxSecs

/-- The timeout doubles with every attempt up to its maximum, and the multiplication never saturates before. -/
theorem connectAttemptTimeoutFor_eq (attempt : Nat) :
    connectAttemptTimeoutFor attempt = min (3 * 2 ^ attempt) 15 := by
  simp only [connectAttemptTimeoutFor, saturatingMul, connectTimeoutMinSecs, connectTimeoutMaxSecs,
    Nat.one_shiftLeft]
  rcases Nat.lt_or_ge attempt 3 with small | large
  · obtain rfl | rfl | rfl : attempt = 0 ∨ attempt = 1 ∨ attempt = 2 := by omega
    all_goals decide
  · have enough : 2 ^ 3 ≤ 2 ^ attempt := Nat.pow_le_pow_right (by decide) large
    have cut : 2 ^ 3 ≤ 2 ^ min attempt 63 := Nat.pow_le_pow_right (by decide) (by omega)
    omega

/-- The delays of `ExponentialBuilder`, of which only the bound is known: `next` is the delay that follows another
one, or the first. -/
structure Backoff where
  maxDelay : Nat
  maxJitter : Nat
  next : Option Nat → Nat
  next_le : ∀ current, next current ≤ maxDelay

def retryMinBackoffDelay : Nat := millis retryBackoffMinMs

def retryMaxBackoffDelay (waitBeforeRetryMs : UInt64) : Nat := millis (max waitBeforeRetryMs.toNat retryBackoffMinMs)

/-- What `connect_and_serve` sets as the maximum. -/
def maxRetryDelay (waitBeforeRetryMs : UInt64) : Nat :=
  max (retryMaxBackoffDelay waitBeforeRetryMs) retryMinBackoffDelay

inductive LoginStage where
  | connect
  | openBi
  | sendLogin
  | recvResponse
  deriving DecidableEq

namespace LoginStage

def next : LoginStage → Option LoginStage
  | connect => some openBi
  | openBi => some sendLogin
  | sendLogin => some recvResponse
  | recvResponse => none

/-- How many stages come before. -/
def index : LoginStage → Nat
  | connect => 0
  | openBi => 1
  | sendLogin => 2
  | recvResponse => 3

theorem index_next {stage stage' : LoginStage} (h : stage.next = some stage') : stage'.index = stage.index + 1 := by
  cases stage <;> cases h <;> rfl

theorem index_le (stage : LoginStage) : stage.index ≤ 3 := by
  cases stage <;> decide

end LoginStage

inductive ConnectPhase where
  | preparing
  | login (stage : LoginStage)
  | sleeping (wake : Nat)
  | serving
  | quit
  deriving DecidableEq

/-- `attempt` and `delay` are those of the present `retry`, and `check` is when `wait_until_stopping` looks
next. The rest is for the record: when the client was told to stop, when the present login began, how many
attempts began after the client was told to stop, and how long it was preparing or serving after that. -/
structure Connecting where
  phase : ConnectPhase
  now : Nat
  since : Nat
  check : Nat
  attempt : Nat
  delay : Option Nat
  stopping : Option Nat
  loginBegan : Nat
  late : Nat
  untimed : Nat
  deriving DecidableEq

/-- What a failure needs is the jitter of the delay that follows. `fails` is a stage that ends with an error,
or a response that is none. -/
inductive ConnectAction where
  | pass (duration : Nat)
  | stop
  | prepareFails (jitter : Nat)
  | prepared
  | ready
  | fails (jitter : Nat)
  | timeout (jitter : Nat)
  | check (jitter : Nat)
  | wake
  | connClosed
  deriving DecidableEq

namespace Connecting

def start : Connecting := ⟨.preparing, 0, 0, 0, 0, none, none, 0, 0, 0⟩

def connectTimeout (s : Connecting) : Nat := connectAttemptTimeoutFor s.attempt * 1000000000

/-- The stage that a login is in begins, with a look at the state. -/
def enter (s : Connecting) (stage : LoginStage) : Connecting :=
  { s with phase := .login stage, since := s.now, check := s.now }

/-- `when` decides whether there is another attempt. -/
def retry (b : Backoff) (s : Connecting) (jitter : Nat) : Option Connecting :=
  if jitter ≤ b.maxJitter then
    if s.stopping.isSome then some { s with phase := .quit }
    else some { s with
      phase := .sleeping (s.now + b.next s.delay + jitter)
      since := s.now
      delay := some (b.next s.delay) }
  else none

/-- The task is waiting for a timer no longer than this. -/
def due (lag : Nat) (s : Connecting) : List Nat :=
  match s.phase with
  | .login _ => [latest lag s.since (s.since + s.connectTimeout), latest lag s.since s.check]
  | .sleeping wake => [latest lag s.since wake]
  | _ => []

def pass (lag : Nat) (s : Connecting) (duration : Nat) : Option Connecting :=
  if ∀ due ∈ s.due lag, s.now + duration ≤ due then
    let untimed := if s.stopping.isSome ∧ s.phase ∈ [.preparing, .serving] then duration else 0
    some { s with now := s.now + duration, untimed := s.untimed + untimed }
  else none

def ready (s : Connecting) (stage : LoginStage) : Connecting :=
  match stage.next with
  | some stage => s.enter stage
  | none => { s with phase := if s.stopping.isSome then .quit else .serving, since := s.now }

def step (b : Backoff) (lag : Nat) (s : Connecting) (act : ConnectAction) : Option Connecting :=
  match s.phase, act with
  | _, .pass duration => s.pass lag duration
  | _, .stop => if s.stopping = none then some { s with stopping := some s.now } else none
  | .preparing, .prepareFails jitter => s.retry b jitter
  | .preparing, .prepared => some ({ s with loginBegan := s.now }.enter .connect)
  | .login stage, .ready => some (s.ready stage)
  | .login _, .fails jitter => s.retry b jitter
  | .login _, .timeout jitter => if s.since + s.connectTimeout ≤ s.now then s.retry b jitter else none
  | .login _, .check jitter =>
    if s.check ≤ s.now then
      if s.stopping.isSome then s.retry b jitter
      else some { s with check := s.now + millis stopCheckIntervalMs }
    else none
  | .sleeping wake, .wake =>
    if wake ≤ s.now then
      some { s with
        phase := .preparing
        since := s.now
        attempt := s.attempt + 1
        late := if s.stopping.isSome then s.late + 1 else s.late }
    else none
  | .serving, .connClosed =>
    if s.stopping.isSome then some { s with phase := .quit }
    else some { s with phase := .preparing, since := s.now, attempt := 0, delay := none }
  | _, _ => none

/-! ### What the clock keeps to -/

variable {b : Backoff} {lag : Nat} {s t : Connecting} {act : ConnectAction}

/-- How long the present phase can have lasted. -/
def Timed (b : Backoff) (lag : Nat) (s : Connecting) : Prop :=
  match s.phase with
  | .login stage =>
    s.since ≤ s.loginBegan + stage.index * (s.connectTimeout + lag) ∧
    s.now ≤ latest lag s.since (s.since + s.connectTimeout) ∧ s.now ≤ latest lag s.since s.check ∧
    s.check ≤ s.now + millis stopCheckIntervalMs
  | .sleeping wake =>
    s.since ≤ wake ∧ wake ≤ s.since + b.maxDelay + b.maxJitter ∧ s.now ≤ latest lag s.since wake
  | .quit => s.stopping ≠ none
  | _ => True

/-- How far the task can have come since the client was told to stop. A task that sleeps has not begun
another attempt since then. -/
def Quits (b : Backoff) (lag : Nat) (s : Connecting) (stop : Nat) : Prop :=
  match s.phase with
  | .preparing | .serving => s.late ≤ 1 ∧ s.now ≤ stop + b.maxDelay + b.maxJitter + lag + s.untimed
  | .login stage => s.late ≤ 1 ∧ max s.since s.check ≤
      stop + b.maxDelay + b.maxJitter + millis stopCheckIntervalMs + (stage.index + 1) * lag + s.untimed
  | .sleeping wake => s.late = 0 ∧ wake ≤ stop + b.maxDelay + b.maxJitter
  | .quit => s.late ≤ 1

structure Kept (b : Backoff) (lag : Nat) (s : Connecting) : Prop where
  past : s.since ≤ s.now ∧ s.loginBegan ≤ s.now
  fresh : s.stopping = none → s.late = 0
  timed : s.Timed b lag
  stopped : ∀ stop ∈ s.stopping, stop ≤ s.now ∧ s.Quits b lag stop

theorem kept_start (b : Backoff) (lag : Nat) : start.Kept b lag :=
  ⟨⟨Nat.le_refl _, Nat.le_refl _⟩, fun _ => rfl, trivial, by simp [start]⟩

theorem Kept.late_le (kept : s.Kept b lag) : s.late ≤ 1 := by
  cases told : s.stopping with
  | none =>
    rw [kept.fresh told]
    exact Nat.zero_le _
  | some stop =>
    have quits := (kept.stopped stop told).2
    unfold Quits at quits
    split at quits
    · exact quits.1
    · exact quits.1
    · exact quits.1
    · rw [quits.1]
      exact Nat.zero_le _
    · exact quits

theorem pass_kept {duration : Nat} (kept : s.Kept b lag) (h : s.pass lag duration = some t) : t.Kept b lag := by
  unfold pass at h
  split at h
  case isFalse => cases h
  rename_i due
  obtain ⟨past, fresh, timed, stopped⟩ := kept
  cases h
  refine ⟨by dsimp only; omega, fresh, ?_, ?_⟩
  · cases phase : s.phase with
    | login stage =>
      simp only [Timed, phase] at timed ⊢
      simp only [Connecting.due, phase, List.mem_cons, List.not_mem_nil, or_false, forall_eq_or_imp, forall_eq] at due
      exact ⟨timed.1, due.1, due.2, Nat.le_trans timed.2.2.2 (by omega)⟩
    | sleeping wake =>
      simp only [Timed, phase] at timed ⊢
      simp only [Connecting.due, phase, List.mem_cons, List.not_mem_nil, or_false, forall_eq] at due
      exact ⟨timed.1, timed.2.1, due⟩
    | quit =>
      simp only [Timed, phase] at timed ⊢
      exact timed
    | preparing | serving => simp only [Timed]
  · intro stop told
    obtain ⟨before, quits⟩ := stopped stop told
    refine ⟨Nat.le_trans before (Nat.le_add_right ..), ?_⟩
    have stopping : s.stopping = some stop := told
    cases phase : s.phase with
    | preparing | serving =>
      simp only [Quits, phase] at quits ⊢
      simp [stopping]
      omega
    | login stage =>
      simp only [Quits, phase] at quits ⊢
      exact ⟨quits.1, Nat.le_trans quits.2 (by omega)⟩
    | _ =>
      simp only [Quits, phase] at quits ⊢
      exact quits

theorem stop_kept (kept : s.Kept b lag) (running : s.stopping = none) :
    { s with stopping := some s.now }.Kept b lag := by
  have fresh := kept.fresh running
  obtain ⟨past, _, timed, _⟩ := kept
  refine ⟨past, (by simp), ?_, ?_⟩
  · unfold Timed at timed ⊢
    dsimp only
    split at timed <;> first | exact timed | simp
  · rintro stop ⟨⟩
    refine ⟨Nat.le_refl _, ?_⟩
    cases phase : s.phase with
    | login stage =>
      simp only [Timed, Quits, phase] at timed ⊢
      have checked := timed.2.2.2
      generalize (stage.index + 1) * lag = lags
      omega
    | sleeping wake =>
      simp only [Timed, Quits, phase] at timed ⊢
      omega
    | _ =>
      simp only [Quits]
      omega

theorem quit_kept (kept : s.Kept b lag) (told : s.stopping ≠ none) : { s with phase := .quit }.Kept b lag :=
  ⟨kept.past, kept.fresh, told, fun stop member => ⟨(kept.stopped stop member).1, kept.late_le⟩⟩

theorem retry_kept {jitter : Nat} (kept : s.Kept b lag) (h : s.retry b jitter = some t) : t.Kept b lag := by
  unfold retry at h
  split at h
  case isFalse => cases h
  rename_i small
  split at h <;> cases h
  · rename_i told
    exact quit_kept kept (by simpa [Option.isSome_iff_ne_none] using told)
  · rename_i running
    have never : s.stopping = none := by simpa using running
    have delay := b.next_le s.delay
    refine ⟨⟨Nat.le_refl _, kept.past.2⟩, kept.fresh, ?_, by simp [never]⟩
    simp only [Timed, latest]
    omega

/-- A stage begins right after the one before it. -/
theorem enter_kept {stage : LoginStage} (past : s.loginBegan ≤ s.now) (fresh : s.stopping = none → s.late = 0)
    (soon : s.now ≤ s.loginBegan + stage.index * (s.connectTimeout + lag))
    (stopped : ∀ stop ∈ s.stopping, stop ≤ s.now ∧ s.late ≤ 1 ∧ s.now ≤
      stop + b.maxDelay + b.maxJitter + millis stopCheckIntervalMs + (stage.index + 1) * lag + s.untimed) :
    (s.enter stage).Kept b lag := by
  refine ⟨⟨Nat.le_refl _, past⟩, fresh, ?_, ?_⟩
  · simp only [Timed, enter, latest]
    refine ⟨soon, ?_, ?_, ?_⟩ <;> omega
  · intro stop told
    obtain ⟨before, late, bound⟩ := stopped stop told
    refine ⟨before, ?_⟩
    simp only [Quits, enter, Nat.max_self]
    exact ⟨late, bound⟩

theorem ready_kept {stage : LoginStage} (kept : s.Kept b lag) (phase : s.phase = .login stage) :
    (s.ready stage).Kept b lag := by
  have timed := kept.timed
  simp only [Timed, phase, latest] at timed
  unfold ready
  cases next : stage.next with
  | some stage' =>
    have index := LoginStage.index_next next
    refine enter_kept kept.past.2 kept.fresh ?_ ?_
    · rw [index, Nat.succ_mul]
      omega
    · intro stop told
      obtain ⟨before, quits⟩ := kept.stopped stop told
      simp only [Quits, phase] at quits
      refine ⟨before, quits.1, ?_⟩
      rw [index, Nat.succ_mul]
      omega
  | none =>
    dsimp only
    split
    · rename_i told
      have quit := quit_kept kept (Option.isSome_iff_ne_none.mp told)
      exact ⟨⟨Nat.le_refl _, quit.past.2⟩, quit.fresh, quit.timed, quit.stopped⟩
    · rename_i running
      have never : s.stopping = none := by simpa using running
      exact ⟨⟨Nat.le_refl _, kept.past.2⟩, kept.fresh, trivial, by simp [never]⟩

theorem prepared_kept (kept : s.Kept b lag) (phase : s.phase = .preparing) :
    ({ s with loginBegan := s.now }.enter .connect).Kept b lag := by
  refine enter_kept (Nat.le_refl _) kept.fresh (Nat.le_add_right ..) ?_
  intro stop told
  obtain ⟨before, quits⟩ := kept.stopped stop told
  simp only [Quits, phase] at quits
  refine ⟨before, quits.1, ?_⟩
  simp only [LoginStage.index]
  omega

/-- The state is looked at while the client goes on. -/
theorem check_kept {stage : LoginStage} (kept : s.Kept b lag) (phase : s.phase = .login stage)
    (running : s.stopping = none) : { s with check := s.now + millis stopCheckIntervalMs }.Kept b lag := by
  have timed := kept.timed
  simp only [Timed, phase] at timed
  refine ⟨kept.past, kept.fresh, ?_, by simp [running]⟩
  simp only [Timed, phase]
  refine ⟨timed.1, timed.2.1, ?_, Nat.le_refl _⟩
  simp only [latest]
  omega

/-- Sleeping is the only thing that a client that is stopping goes on from with another attempt. -/
theorem wake_kept {wake : Nat} (kept : s.Kept b lag) (phase : s.phase = .sleeping wake) :
    { s with
      phase := .preparing
      since := s.now
      attempt := s.attempt + 1
      late := if s.stopping.isSome then s.late + 1 else s.late }.Kept b lag := by
  have timed := kept.timed
  simp only [Timed, phase, latest] at timed
  refine ⟨⟨Nat.le_refl _, kept.past.2⟩, ?_, trivial, ?_⟩
  · intro never
    have never : s.stopping = none := never
    simp [never, kept.fresh never]
  · intro stop told
    have told : s.stopping = some stop := told
    obtain ⟨before, quits⟩ := kept.stopped stop told
    simp only [Quits, phase] at quits
    refine ⟨before, ?_⟩
    simp only [Quits, told, Option.isSome_some, if_true]
    omega

theorem connClosed_kept (kept : s.Kept b lag) (running : s.stopping = none) :
    { s with phase := .preparing, since := s.now, attempt := 0, delay := none }.Kept b lag :=
  ⟨⟨Nat.le_refl _, kept.past.2⟩, kept.fresh, trivial, by simp [running]⟩

theorem step_kept (kept : s.Kept b lag) (h : step b lag s act = some t) : t.Kept b lag := by
  unfold step at h
  split at h
  · exact pass_kept kept h
  · split at h <;> cases h
    rename_i running
    exact stop_kept kept running
  · exact retry_kept kept h
  · rename_i phase
    cases h
    exact prepared_kept kept phase
  · rename_i stage phase
    cases h
    exact ready_kept kept phase
  · exact retry_kept kept h
  · split at h
    · exact retry_kept kept h
    · cases h
  · rename_i stage jitter phase
    split at h
    case isFalse => cases h
    split at h
    · exact retry_kept kept h
    · rename_i running
      cases h
      exact check_kept kept phase (by simpa using running)
  · rename_i wake phase
    split at h <;> cases h
    exact wake_kept kept phase
  · split at h <;> cases h
    · rename_i told
      exact quit_kept kept (Option.isSome_iff_ne_none.mp told)
    · rename_i running
      exact connClosed_kept kept (by simpa using running)
  · cases h

theorem run_kept {acts : List ConnectAction} (ran : run (step b lag) start acts = some s) : s.Kept b lag :=
  run_invariant (fun _ _ _ => step_kept) (kept_start b lag) ran

/-- The clock is held up by a timer only, and then the task can act on it. -/
theorem can_go_on (b : Backoff) (lag : Nat) (s : Connecting) :
    ∃ act ∈ [ConnectAction.pass 1, .timeout 0, .check 0, .wake], (step b lag s act).isSome := by
  by_cases free : ∀ due ∈ s.due lag, s.now + 1 ≤ due
  · refine ⟨.pass 1, by simp, ?_⟩
    simp only [step, pass, if_pos free]
    rfl
  have held : ∃ due ∈ s.due lag, due < s.now + 1 := by simpa using free
  obtain ⟨due, waits, reached⟩ := held
  have retries : (s.retry b 0).isSome := by
    unfold retry
    rw [if_pos (Nat.zero_le _)]
    split <;> rfl
  cases phase : s.phase with
  | login stage =>
    simp only [Connecting.due, phase, latest, List.mem_cons, List.not_mem_nil, or_false] at waits
    rcases waits with rfl | rfl
    · have passed : s.since + s.connectTimeout ≤ s.now := by omega
      refine ⟨.timeout 0, by simp, ?_⟩
      simp only [step, phase, if_pos passed, retries]
    · have passed : s.check ≤ s.now := by omega
      refine ⟨.check 0, by simp, ?_⟩
      simp only [step, phase, if_pos passed]
      split
      · exact retries
      · rfl
  | sleeping wake =>
    simp only [Connecting.due, phase, latest, List.mem_cons, List.not_mem_nil, or_false] at waits
    have passed : wake ≤ s.now := by omega
    refine ⟨.wake, by simp, ?_⟩
    simp only [step, phase, if_pos passed]
    rfl
  | _ =>
    simp only [Connecting.due, phase] at waits
    cases waits

/-- A login takes no longer than its stages may take, which is at most 15 seconds for each. The task quits
only if the client was told to stop. It begins at most one more attempt then, and it quits in time: after the
longest delay at most, and a look at the state. -/
theorem connecting_bounded {acts : List ConnectAction} (ran : run (step b lag) start acts = some s) :
    (∀ stage, s.phase = .login stage →
      s.now ≤ s.loginBegan + (stage.index + 1) * (min (3 * 2 ^ s.attempt) 15 * 1000000000 + lag)) ∧
    (s.phase = .quit → s.stopping ≠ none) ∧
    (∀ stop ∈ s.stopping, s.late ≤ 1 ∧ (s.phase ≠ .quit → s.now ≤
      stop + b.maxDelay + b.maxJitter + millis stopCheckIntervalMs + 5 * lag + s.untimed)) ∧
    ∃ act ∈ [ConnectAction.pass 1, .timeout 0, .check 0, .wake], (step b lag s act).isSome := by
  have kept := run_kept ran
  have timed := kept.timed
  refine ⟨?_, ?_, ?_, can_go_on b lag s⟩
  · intro stage phase
    have timeout : s.connectTimeout = min (3 * 2 ^ s.attempt) 15 * 1000000000 := by
      rw [connectTimeout, connectAttemptTimeoutFor_eq]
    simp only [Timed, phase, latest] at timed
    rw [← timeout, Nat.succ_mul]
    omega
  · intro phase
    simp only [Timed, phase] at timed
    exact timed
  · intro stop told
    refine ⟨kept.late_le, fun running => ?_⟩
    have quits := (kept.stopped stop told).2
    cases phase : s.phase with
    | login stage =>
      have last : (stage.index + 1) * lag ≤ 4 * lag := Nat.mul_le_mul_right lag (by have := stage.index_le; omega)
      simp only [Timed, Quits, phase, latest] at timed quits
      omega
    | sleeping wake =>
      simp only [Timed, Quits, phase, latest] at timed quits
      omega
    | preparing | serving =>
      simp only [Quits, phase] at quits
      omega
    | quit => exact absurd phase running

/-- The first attempt times out and the client is told to stop while the task sleeps. -/
def stopRun : List ConnectAction :=
  (.prepared :: (List.replicate 30 [.check 0, .pass 100000000]).flatten) ++
    [.timeout 200000000, .pass 400000000, .stop, .pass 100000000, .wake, .pass 5000000, .prepared]

/-- A delay that doubles, for clients that wait five seconds at most. -/
def fiveSecondBackoff : Backoff where
  maxDelay := maxRetryDelay 5000
  maxJitter := maxRetryDelay 5000
  next
    | none => retryMinBackoffDelay
    | some delay => min (2 * delay) (maxRetryDelay 5000)
  next_le
    | none => Nat.le_max_right ..
    | some _ => Nat.min_le_right ..

theorem connecting_bounded_stop : ∃ s, run (step fiveSecondBackoff 1000000) start stopRun = some s ∧
    s.phase = .login .connect ∧ s.stopping = some 3400000000 ∧ s.late = 1 ∧
    run (step fiveSecondBackoff 1000000) s [.check 0] = some { s with phase := .quit } ∧
    s.now ≤ 3400000000 + fiveSecondBackoff.maxDelay + fiveSecondBackoff.maxJitter +
      millis stopCheckIntervalMs + 5 * 1000000 + s.untimed := by
  obtain ⟨s, ran, phase, stopping, late, quits⟩ := run_reaches
    (P := fun s : Connecting => s.phase = .login .connect ∧ s.stopping = some 3400000000 ∧ s.late = 1 ∧
      run (step fiveSecondBackoff 1000000) s [.check 0] = some { s with phase := .quit })
    (show (run (step fiveSecondBackoff 1000000) start stopRun).any _ = true by decide +kernel)
  have running : s.phase ≠ .quit := by rw [phase]; decide
  exact ⟨s, ran, phase, stopping, late, quits, ((connecting_bounded ran).2.2.1 _ stopping).2 running⟩

end Connecting

end Rstun.Client
