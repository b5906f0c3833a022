import Mathlib.Data.List.Nodup
import Mathlib.Data.List.TakeWhile
import Mathlib.Logic.Function.Basic
import Rstun.Base.Run

/-!
# Tunnels that share a local address

The TCP OUT tunnels of a client that listen at the same address take their requests from one receiver,
which `get_or_init_tcp_receiver` puts into a mutex. `start_serving` holds the mutex while it waits for a
request. The mutexes of `tokio` are fair: who comes first has it first. When a connection is closed its
tunnel is dropped wherever it waits. `ι` is the type of the tunnels, `ρ` that of the requests. That the
client stops is left out.
-/

namespace Rstun.Tunnel
open Transition

/-- Where `start_serving` waits. A tunnel without a connection is `away`. -/
inductive ServePhase (ρ : Type) where
  | away
  | locking
  | receiving
  | opening (request : ρ)
  | writing (request : ρ)
  deriving DecidableEq

/-- What has become of a request: handed on to `start_flowing_with_codec`, or dropped with its tunnel. -/
inductive Fate where
  | started
  | dropped
  deriving DecidableEq

structure Member (ρ : Type) where
  phase : ServePhase ρ
  pending : Option ρ
  settled : List (ρ × Fate)
  deriving DecidableEq

/-- Who is in the line waits for the mutex, and the first has it. -/
structure Shared (ι ρ : Type) where
  queue : List ρ
  line : List ι
  members : ι → Member ρ
  arrived : List ρ
  taken : List (ι × ρ)

inductive SharedAction (ι ρ : Type) where
  | arrive (request : ρ)
  | connect (i : ι)
  | enter (i : ι)
  | recv (i : ι)
  | openBi (i : ι) (ok : Bool)
  | write (i : ι) (ok : Bool)
  | close (i : ι)

variable {ι ρ : Type}

/-- One of the tunnels that `who` says takes a request. -/
def SharedAction.takes (who : ι → Bool) : SharedAction ι ρ → Bool
  | recv i => who i
  | _ => false

/-- The request that the tunnel has. -/
def Member.hand (m : Member ρ) : Option ρ :=
  match m.phase with
  | .opening request | .writing request => some request
  | _ => m.pending

def Member.settle (m : Member ρ) (request : ρ) (fate : Fate) : Member ρ :=
  { m with settled := m.settled ++ [(request, fate)] }

namespace Shared

variable [DecidableEq ι]

def new : Shared ι ρ := ⟨[], [], fun _ => ⟨.away, none, []⟩, [], []⟩

def set (s : Shared ι ρ) (i : ι) (m : Member ρ) : Shared ι ρ :=
  { s with members := Function.update s.members i m }

/-- The beginning of the loop. A request that is pending needs no lock. -/
def next (s : Shared ι ρ) (i : ι) (m : Member ρ) : Shared ι ρ :=
  match m.pending with
  | some request => s.set i { m with phase := .opening request, pending := none }
  | none => { s.set i { m with phase := .locking } with line := s.line ++ [i] }

def connect (s : Shared ι ρ) (i : ι) : Option (Shared ι ρ) :=
  match (s.members i).phase with
  | .away => some (s.next i (s.members i))
  | _ => none

def enter (s : Shared ι ρ) (i : ι) : Option (Shared ι ρ) :=
  match (s.members i).phase with
  | .locking => if s.line.head? = some i then some (s.set i { s.members i with phase := .receiving }) else none
  | _ => none

/-- The lock is released with the request. -/
def recv (s : Shared ι ρ) (i : ι) : Option (Shared ι ρ) :=
  match (s.members i).phase, s.queue with
  | .receiving, request :: queue => some { s.set i { s.members i with phase := .opening request } with
      queue := queue
      line := s.line.erase i
      taken := s.taken ++ [(i, request)] }
  | _, _ => none

/-- Without a stream the loop ends, and with it the connection. -/
def openBi (s : Shared ι ρ) (i : ι) (ok : Bool) : Option (Shared ι ρ) :=
  match (s.members i).phase with
  | .opening request =>
    if ok then some (s.set i { s.members i with phase := .writing request })
    else some (s.set i { s.members i with phase := .away, pending := some request })
  | _ => none

/-- A request whose target could not be written is pending when the loop begins again. -/
def write (s : Shared ι ρ) (i : ι) (ok : Bool) : Option (Shared ι ρ) :=
  match (s.members i).phase with
  | .writing request =>
    if ok then some (s.next i ((s.members i).settle request .started))
    else some (s.next i { s.members i with pending := some request })
  | _ => none

/-- A request that has been taken out of `pending_request` goes with the tunnel. -/
def close (s : Shared ι ρ) (i : ι) : Option (Shared ι ρ) :=
  match (s.members i).phase with
  | .away => none
  | .locking | .receiving => some { s.set i { s.members i with phase := .away } with line := s.line.erase i }
  | .opening request | .writing request =>
    some (s.set i { (s.members i).settle request .dropped with phase := .away })

def step (s : Shared ι ρ) : SharedAction ι ρ → Option (Shared ι ρ)
  | .arrive request => some { s with queue := s.queue ++ [request], arrived := s.arrived ++ [request] }
  | .connect i => s.connect i
  | .enter i => s.enter i
  | .recv i => s.recv i
  | .openBi i ok => s.openBi i ok
  | .write i ok => s.write i ok
  | .close i => s.close i

end Shared

/-! ### What a step does -/

/-- In the line for the mutex. -/
def ServePhase.queued : ServePhase ρ → Bool
  | locking | receiving => true
  | _ => false

/-- All requests that the tunnel has had, the last one perhaps still in its hands. -/
def Member.account (m : Member ρ) : List ρ := m.settled.map Prod.fst ++ m.hand.toList

/-- A request is left pending only when the connection is gone. -/
def Member.Sound (m : Member ρ) : Prop := m.phase ≠ .away → m.pending = none

namespace Shared

variable [DecidableEq ι] {s t : Shared ι ρ} {act : SharedAction ι ρ} {i j : ι}

inductive Change (s : Shared ι ρ) : SharedAction ι ρ → Shared ι ρ → Prop
  | arrive (request : ρ) :
      Change s (.arrive request) { s with queue := s.queue ++ [request], arrived := s.arrived ++ [request] }
  | stay {act : SharedAction ι ρ} (i : ι) (m : Member ρ) (untaken : ∀ j, act ≠ .recv j)
      (phase : m.phase.queued = (s.members i).phase.queued) (first : m.phase = .receiving → s.line.head? = some i)
      (sound : m.Sound) (same : m.account = (s.members i).account) : Change s act (s.set i m)
  | join {act : SharedAction ι ρ} (i : ι) (m : Member ρ) (untaken : ∀ j, act ≠ .recv j)
      (before : (s.members i).phase.queued = false) (phase : m.phase = .locking) (sound : m.Sound)
      (same : m.account = (s.members i).account) : Change s act { s.set i m with line := s.line ++ [i] }
  | leave (i : ι) (m : Member ρ) (phase : m.phase = .away) (same : m.account = (s.members i).account) :
      Change s (.close i) { s.set i m with line := s.line.erase i }
  | recv (i : ι) (m : Member ρ) (request : ρ) (queue : List ρ) (before : (s.members i).phase = .receiving)
      (waiting : s.queue = request :: queue) (phase : m.phase = .opening request) (sound : m.Sound)
      (more : m.account = (s.members i).account ++ [request]) :
      Change s (.recv i) { s.set i m with
        queue := queue, line := s.line.erase i, taken := s.taken ++ [(i, request)] }

theorem next_change {m : Member ρ} (untaken : ∀ j, act ≠ .recv j) (before : (s.members i).phase.queued = false)
    (same : m.settled.map Prod.fst ++ m.pending.toList = (s.members i).account) : Change s act (s.next i m) := by
  unfold next
  split
  · rename_i request pending
    rw [pending] at same
    exact .stay i _ untaken before.symm (by simp) (fun _ => rfl) same
  · rename_i pending
    rw [pending] at same
    exact .join i _ untaken before rfl (fun _ => pending) (by rw [← same, Member.account, Member.hand, pending])

theorem step_change (sound : ∀ i, (s.members i).Sound) (h : s.step act = some t) : Change s act t := by
  -- What a tunnel has in its hands, by its phase.
  have hand : ∀ i, (s.members i).account = (s.members i).settled.map Prod.fst ++ (s.members i).hand.toList :=
    fun _ => rfl
  cases act with
  | arrive request =>
    cases h
    exact .arrive request
  | connect i =>
    simp only [step, connect] at h
    split at h <;> cases h
    rename_i phase
    refine next_change (by simp) (by rw [phase]; rfl) ?_
    rw [hand, Member.hand, phase]
  | enter i =>
    simp only [step, enter] at h
    split at h
    case h_2 => cases h
    rename_i phase
    split at h <;> cases h
    rename_i first
    refine .stay i _ (by simp) (by rw [phase]; rfl) (fun _ => first) ?_ ?_
    · exact fun _ => sound i (by simp [phase])
    · rw [hand, Member.hand, phase]
      rfl
  | recv i =>
    simp only [step, recv] at h
    split at h <;> cases h
    rename_i request queue phase waiting
    have none := sound i (by simp [phase])
    refine .recv i _ request queue phase waiting rfl (fun _ => none) ?_
    rw [hand, Member.hand, phase, Member.account, Member.hand]
    simp [none]
  | openBi i ok =>
    simp only [step, openBi] at h
    split at h
    case h_2 => cases h
    rename_i request phase
    split at h <;> cases h
    · refine .stay i _ (by simp) (by rw [phase]; rfl) (by simp) (fun _ => ?_) ?_
      · exact sound i (by simp [phase])
      · rw [hand, Member.hand, phase]
        rfl
    · refine .stay i _ (by simp) (by rw [phase]; rfl) (by simp) (fun away => absurd rfl away) ?_
      rw [hand, Member.hand, phase]
      rfl
  | write i ok =>
    simp only [step, write] at h
    split at h
    case h_2 => cases h
    rename_i request phase
    have none := sound i (by simp [phase])
    split at h <;> cases h
    · refine next_change (by simp) (by rw [phase]; rfl) ?_
      rw [hand, Member.hand, phase]
      simp [Member.settle, none]
    · refine next_change (by simp) (by rw [phase]; rfl) ?_
      rw [hand, Member.hand, phase]
  | close i =>
    simp only [step, close] at h
    split at h <;> cases h
    · rename_i phase
      exact .leave i _ rfl (by rw [hand, Member.hand, phase]; rfl)
    · rename_i phase
      exact .leave i _ rfl (by rw [hand, Member.hand, phase]; rfl)
    · rename_i request phase
      have none := sound i (by simp [phase])
      refine .stay i _ (by simp) (by rw [phase]; rfl) (by simp) (fun away => absurd rfl away) ?_
      rw [hand, Member.hand, phase]
      simp [Member.settle, Member.account, Member.hand, none]
    · rename_i request phase
      have none := sound i (by simp [phase])
      refine .stay i _ (by simp) (by rw [phase]; rfl) (by simp) (fun away => absurd rfl away) ?_
      rw [hand, Member.hand, phase]
      simp [Member.settle, Member.account, Member.hand, none]

/-! ### What holds at all times -/

/-- The requests that the tunnel has taken from the queue. -/
def requestsOf (s : Shared ι ρ) (i : ι) : List ρ := (s.taken.filter fun taken => taken.1 = i).map Prod.snd

structure Held (s : Shared ι ρ) : Prop where
  nodup : s.line.Nodup
  queued : ∀ i, i ∈ s.line ↔ (s.members i).phase.queued = true
  first : ∀ i, (s.members i).phase = .receiving → s.line.head? = some i
  sound : ∀ i, (s.members i).Sound
  arrived : s.arrived = s.taken.map Prod.snd ++ s.queue
  accounts : ∀ i, s.requestsOf i = (s.members i).account

theorem held_new : (new : Shared ι ρ).Held where
  nodup := List.nodup_nil
  queued i := by simp [new, ServePhase.queued]
  first i receiving := by cases receiving
  sound i away := absurd rfl away
  arrived := rfl
  accounts i := rfl

/-- What is known about each tunnel stays known when one of them goes on. -/
theorem forall_set {P : ι → Member ρ → Prop} (all : ∀ j, P j (s.members j)) {m : Member ρ} (this : P i m) (j : ι) :
    P j ((s.set i m).members j) := by
  by_cases same : j = i
  · subst same
    simpa [set] using this
  · simpa [set, Function.update_of_ne same] using all j

theorem requestsOf_snoc (taken : List (ι × ρ)) (request : ρ) (j : ι) :
    ((taken ++ [(i, request)]).filter fun taken => taken.1 = j).map Prod.snd =
      ((taken.filter fun taken => taken.1 = j).map Prod.snd) ++ if i = j then [request] else [] := by
  split <;> simp_all

/-- Only the first in the line waits for a request. -/
theorem Held.front (held : s.Held) (receiving : (s.members i).phase = .receiving) : ∃ rest, s.line = i :: rest :=
  List.head?_eq_some_iff.mp (held.first i receiving)

theorem Held.queued_erase (held : s.Held) {m : Member ρ} (out : m.phase.queued = false) (j : ι) :
    j ∈ s.line.erase i ↔ ((s.set i m).members j).phase.queued = true := by
  rw [held.nodup.mem_erase_iff]
  by_cases same : j = i
  · subst same
    simp [set, out]
  · simp [set, same, held.queued]

theorem change_held (held : s.Held) (change : Change s act t) : t.Held := by
  cases change with
  | arrive request =>
    refine { held with arrived := ?_ }
    rw [held.arrived, List.append_assoc]
  | stay i m untaken phase first sound same =>
    refine ⟨held.nodup, ?_, ?_, forall_set held.sound sound, held.arrived, ?_⟩
    · exact forall_set (P := fun j m => j ∈ s.line ↔ m.phase.queued = true) held.queued (by rw [held.queued, phase])
    · exact forall_set (P := fun j m => m.phase = .receiving → s.line.head? = some j) held.first first
    · exact forall_set (P := fun j m => s.requestsOf j = m.account) held.accounts (by rw [held.accounts, same])
  | join i m untaken before phase sound same =>
    have absent : i ∉ s.line := by
      rw [held.queued, before]
      exact Bool.false_ne_true
    refine ⟨?_, ?_, ?_, forall_set held.sound sound, held.arrived, ?_⟩
    · rw [← List.concat_eq_append]
      exact held.nodup.concat absent
    · intro j
      by_cases same : j = i
      · subst same
        simp [set, phase, ServePhase.queued]
      · simp [set, same, held.queued]
    · refine forall_set (P := fun j m => m.phase = .receiving → (s.line ++ [i]).head? = some j) ?_ (by simp [phase])
      intro j receiving
      obtain ⟨rest, front⟩ := held.front receiving
      rw [front]
      rfl
    · exact forall_set (P := fun j m => s.requestsOf j = m.account) held.accounts (by rw [held.accounts, same])
  | leave i m phase same =>
    refine ⟨held.nodup.erase i, ?_, ?_, forall_set held.sound fun away => absurd phase away, held.arrived, ?_⟩
    · exact held.queued_erase (by rw [phase]; rfl)
    · intro j receiving
      by_cases same : j = i
      · subst same
        simp [set, phase] at receiving
      · simp only [set, Function.update_of_ne same] at receiving
        obtain ⟨rest, front⟩ := held.front receiving
        simp [front, List.erase_cons_tail, same]
    · exact forall_set (P := fun j m => s.requestsOf j = m.account) held.accounts (by rw [held.accounts, same])
  | recv i m request queue before waiting phase sound more =>
    obtain ⟨rest, front⟩ := held.front before
    refine ⟨held.nodup.erase i, ?_, ?_, forall_set held.sound sound, ?_, ?_⟩
    · exact held.queued_erase (by rw [phase]; rfl)
    · intro j receiving
      by_cases same : j = i
      · subst same
        simp [set, phase] at receiving
      · simp only [set, Function.update_of_ne same] at receiving
        have other := held.first j receiving
        rw [front] at other
        exact absurd (Option.some.inj other).symm same
    · simp [set, held.arrived, waiting]
    · intro j
      show ((s.taken ++ [(i, request)]).filter fun taken => taken.1 = j).map Prod.snd = _
      rw [requestsOf_snoc]
      by_cases same : j = i
      · subst same
        rw [if_pos rfl]
        simp only [set, Function.update_self, more, ← held.accounts j, requestsOf]
      · rw [if_neg (Ne.symm same), List.append_nil]
        simp only [set, Function.update_of_ne same, ← held.accounts j, requestsOf]

theorem run_held {acts : List (SharedAction ι ρ)} (h : run step new acts = some s) : s.Held :=
  run_invariant (fun _ _ _ held stepped => change_held held (step_change held.sound stepped)) held_new h

/-- The first in the line can always go on when there is a request. -/
theorem Held.served (held : s.Held) (line : s.line ≠ []) (queue : s.queue ≠ []) :
    ∃ i, (s.step (.enter i)).isSome ∨ (s.step (.recv i)).isSome := by
  obtain ⟨i, rest, front⟩ := List.exists_cons_of_ne_nil line
  obtain ⟨request, requests, waiting⟩ := List.exists_cons_of_ne_nil queue
  have queued := (held.queued i).mp (by simp [front])
  refine ⟨i, ?_⟩
  cases phase : (s.members i).phase with
  | locking => exact .inl (by simp [step, enter, phase, front])
  | receiving => exact .inr (by simp [step, recv, phase, waiting])
  | away | opening _ | writing _ =>
    rw [phase] at queued
    cases queued

theorem Held.connected (held : s.Held) (there : (s.members i).phase ≠ .away) :
    (s.members i).hand.isSome ∨ i ∈ s.line := by
  rw [held.queued]
  cases phase : (s.members i).phase with
  | locking | receiving => exact .inr rfl
  | opening _ | writing _ => exact .inl (by simp [Member.hand, phase])
  | away => exact absurd phase there

/-- However many tunnels share the receiver and whenever their connections come and go, one of them at a time
waits for a request, the requests are taken in the order in which they came, and each of them by one tunnel,
which starts it, loses it or has it still. A tunnel that is connected has a request or is in the line, and a
request waits for no tunnel that is gone. -/
theorem requests_shared {acts : List (SharedAction ι ρ)} (h : run step new acts = some s) :
    (∀ i j, (s.members i).phase = .receiving → (s.members j).phase = .receiving → i = j) ∧
    s.arrived = s.taken.map Prod.snd ++ s.queue ∧
    (∀ i, s.requestsOf i = (s.members i).settled.map Prod.fst ++ (s.members i).hand.toList) ∧
    (∀ i, (s.members i).phase ≠ .away → (s.members i).hand.isSome ∨ i ∈ s.line) ∧
    (s.line ≠ [] → s.queue ≠ [] → ∃ i, (s.step (.enter i)).isSome ∨ (s.step (.recv i)).isSome) := by
  have held := run_held h
  refine ⟨?_, held.arrived, held.accounts, fun i => held.connected, held.served⟩
  intro i j here there
  exact Option.some.inj ((held.first i here).symm.trans (held.first j there))

/-- Two tunnels. The first loses its connection with a request in its hands, and the second has the next one
pending when it loses its own. -/
def handedOver : List (SharedAction Bool Nat) :=
  [.connect false, .connect true, .arrive 0, .arrive 1, .enter false, .recv false, .enter true, .recv true,
    .close false, .openBi true false, .connect true, .openBi true true, .write true true, .arrive 2]

theorem requests_shared_handedOver : ∃ s : Shared Bool Nat, run step new handedOver = some s ∧
    s.taken = [(false, 0), (true, 1)] ∧ s.arrived = [0, 1, 2] ∧ (s.members true).settled = [(1, .started)] ∧
    (s.members false).settled = [(0, .dropped)] ∧ ∃ i, (s.step (.enter i)).isSome ∨ (s.step (.recv i)).isSome := by
  obtain ⟨s, ran, taken, arrived, started, lost, line, queue⟩ := run_reaches
    (P := fun s : Shared Bool Nat => s.taken = [(false, 0), (true, 1)] ∧ s.arrived = [0, 1, 2] ∧
      (s.members true).settled = [(1, .started)] ∧ (s.members false).settled = [(0, .dropped)] ∧ s.line ≠ [] ∧
      s.queue ≠ [])
    (show (run step new handedOver).any _ = true by decide +kernel)
  exact ⟨s, ran, taken, arrived, started, lost, (requests_shared ran).2.2.2.2 line queue⟩

/-! ### Turns -/

/-- Who has the mutex before `j`. -/
def ahead (s : Shared ι ρ) (j : ι) : List ι := s.line.takeWhile (· ≠ j)

theorem takeWhile_erase {line : List ι} (other : j ≠ i) :
    ((line.erase i).takeWhile (· ≠ j)).Sublist (line.takeWhile (· ≠ j)) := by
  induction line with
  | nil => exact List.Sublist.refl _
  | cons k rest ih =>
    by_cases same : k = i
    · subst same
      simp [Ne.symm other]
    · rw [List.erase_cons_tail (by simpa using same)]
      by_cases this : k = j
      · simp [this]
      · simpa [this] using ih

theorem change_ahead (held : s.Held) (waits : j ∈ s.line) (stays : act ≠ .recv j ∧ act ≠ .close j)
    (change : Change s act t) :
    j ∈ t.line ∧ ((∃ i, act = .recv i ∧ s.ahead j = i :: t.ahead j) ∨
      (∀ i, act ≠ .recv i) ∧ (t.ahead j).Sublist (s.ahead j)) := by
  cases change with
  | arrive request => exact ⟨waits, .inr ⟨by simp, List.Sublist.refl _⟩⟩
  | stay i m untaken => exact ⟨waits, .inr ⟨untaken, List.Sublist.refl _⟩⟩
  | join i m untaken =>
    refine ⟨List.mem_append_left _ waits, .inr ⟨untaken, ?_⟩⟩
    -- The end of the line is behind `j`.
    have behind : (s.line ++ [i]).takeWhile (· ≠ j) = s.line.takeWhile (· ≠ j) := by
      rw [List.takeWhile_append, if_neg]
      intro all
      have inside := List.takeWhile_eq_self_iff.mp (List.takeWhile_prefix _ |>.eq_of_length all) j waits
      simp at inside
    simp only [ahead, behind]
    exact List.Sublist.refl _
  | leave i m =>
    have other : j ≠ i := fun same => stays.2 (by rw [same])
    exact ⟨(List.mem_erase_of_ne other).mpr waits, .inr ⟨by simp, takeWhile_erase other⟩⟩
  | recv i m request queue before =>
    have other : j ≠ i := fun same => stays.1 (by rw [same])
    obtain ⟨rest, front⟩ := held.front before
    refine ⟨(List.mem_erase_of_ne other).mpr waits, .inl ⟨i, rfl, ?_⟩⟩
    simp [ahead, front, Ne.symm other]

/-- While a tunnel is in the line, requests are taken only by those before it, and by each of them once. -/
theorem turns_taken (held : s.Held) (waits : j ∈ s.line) (who : ι → Bool) {more : List (SharedAction ι ρ)}
    (stays : ∀ act ∈ more, act ≠ .recv j ∧ act ≠ .close j) (ran : run step s more = some t) :
    (t.ahead j).countP who + more.countP (SharedAction.takes who) ≤ (s.ahead j).countP who := by
  refine run_uses (m := fun s : Shared ι ρ => (s.ahead j).countP who) (I := fun s : Shared ι ρ => s.Held ∧ j ∈ s.line)
    (C := fun act : SharedAction ι ρ => act ≠ .recv j ∧ act ≠ .close j) ?_ ?_ ⟨held, waits⟩ stays ran
  · rintro s act t ⟨held, waits⟩ stays stepped
    have change := step_change held.sound stepped
    exact ⟨change_held held change, (change_ahead held waits stays change).1⟩
  · rintro s act t ⟨held, waits⟩ stays stepped
    obtain ⟨_, ⟨i, rfl, front⟩ | ⟨untaken, fewer⟩⟩ := change_ahead held waits stays (step_change held.sound stepped)
    · rw [front, List.countP_cons]
      exact Nat.le_refl _
    · have idle : act.takes who = false := by
        cases act with
        | recv i => exact absurd rfl (untaken i)
        | _ => rfl
      simpa [idle] using fewer.countP_le

/-- No tunnel is passed over. As long as one waits for its turn, no other tunnel takes more than one request,
and all of them together no more than there are tunnels before it. -/
theorem turns_fair {acts more : List (SharedAction ι ρ)} (h : run step new acts = some s) (waits : j ∈ s.line)
    (stays : ∀ act ∈ more, act ≠ .recv j ∧ act ≠ .close j) (ran : run step s more = some t) :
    (∀ i, more.countP (SharedAction.takes fun k => k = i) ≤ 1) ∧
    (t.ahead j).length + more.countP (SharedAction.takes fun _ => true) ≤ (s.ahead j).length := by
  have held := run_held h
  constructor
  · intro i
    have bound := turns_taken held waits (fun k => k = i) stays ran
    have once : (s.ahead j).countP (fun k => k = i) ≤ 1 := by
      have nodup : (s.ahead j).Nodup := held.nodup.sublist (List.takeWhile_sublist _)
      have count := List.nodup_iff_count_le_one.mp nodup i
      rwa [List.count_eq_countP] at count
    omega
  · simpa using turns_taken held waits (fun _ => true) stays ran

/-- A third tunnel waits behind two others, and each of them has its turn. -/
def threeTunnels : List (SharedAction Nat Nat) :=
  [.connect 0, .connect 1, .connect 2, .arrive 0, .arrive 1, .arrive 2]

def twoTurns : List (SharedAction Nat Nat) :=
  [.enter 0, .recv 0, .openBi 0 true, .write 0 true, .enter 1, .recv 1, .enter 2]

theorem turns_fair_twoTurns : ∃ s t : Shared Nat Nat, run step new threeTunnels = some s ∧ 2 ∈ s.line ∧
    run step s twoTurns = some t ∧ t.line = [2, 0] ∧ (s.ahead 2).length = 2 ∧
    ∀ i, twoTurns.countP (SharedAction.takes fun k => k = i) ≤ 1 := by
  obtain ⟨t, ran, line⟩ := run_reaches (P := fun t : Shared Nat Nat => t.line = [2, 0])
    (show (run step new (threeTunnels ++ twoTurns)).any _ = true by decide +kernel)
  obtain ⟨s, first, last⟩ := run_append.mp ran
  obtain ⟨s', first', before⟩ := run_reaches (P := fun s : Shared Nat Nat => 2 ∈ s.line ∧ (s.ahead 2).length = 2)
    (show (run step new threeTunnels).any _ = true by decide +kernel)
  obtain rfl : s = s' := Option.some.inj (first.symm.trans first')
  exact ⟨s, t, first, before.1, last, line, before.2, (turns_fair first before.1 (by simp [twoTurns]) last).1⟩

end Shared

end Rstun.Tunnel
