import Mathlib.Algebra.GroupWithZero.Nat
import Mathlib.Data.List.Nodup
import Mathlib.Logic.Function.Basic
import Rstun.Base.Run

/-!
# The event bus

`TunnelEventBus` hands every event to every listener. A listener is the sender of a channel, and whoever
has registered it holds the receiver. When the receiver is gone the listener is dropped with the next
event. All clones of a bus share the list of listeners behind one lock.
-/

namespace Rstun.Events
open Transition

variable {E : Type}

/-- Channels are numbered in the order of registration. `alive` says that the receiver has not been
dropped, and `sent` is what has been put into the channel. -/
structure TunnelEventBus (E : Type) where
  listeners : List Nat
  channels : Nat
  alive : Nat → Bool
  sent : Nat → List E

inductive BusAction (E : Type) where
  | register
  | post (event : E)
  | drop (id : Nat)
  deriving DecidableEq

namespace TunnelEventBus

def new : TunnelEventBus E := ⟨[], 0, fun _ => false, fun _ => []⟩

def register (b : TunnelEventBus E) : TunnelEventBus E :=
  { b with
    listeners := b.listeners ++ [b.channels]
    channels := b.channels + 1
    alive := Function.update b.alive b.channels true }

def hasListeners (b : TunnelEventBus E) : Bool := !b.listeners.isEmpty

/-- `Sender::send` fails if and only if the receiver is gone. -/
def send (b : TunnelEventBus E) (id : Nat) (event : E) : Bool × TunnelEventBus E :=
  if b.alive id then (true, { b with sent := Function.update b.sent id (b.sent id ++ [event]) })
  else (false, b)

/-- The pass of `Vec::retain` over the listeners. -/
def retain (event : E) : List Nat → TunnelEventBus E → List Nat × TunnelEventBus E
  | [], b => ([], b)
  | id :: rest, b =>
    let (ok, b) := b.send id event
    let (kept, b) := retain event rest b
    (if ok then id :: kept else kept, b)

def post (b : TunnelEventBus E) (event : E) : TunnelEventBus E :=
  let (kept, b) := retain event b.listeners b
  { b with listeners := kept }

def dropReceiver (b : TunnelEventBus E) (id : Nat) : TunnelEventBus E :=
  { b with alive := Function.update b.alive id false }

/-- A receiver can be dropped once. -/
def step (b : TunnelEventBus E) : BusAction E → Option (TunnelEventBus E)
  | .register => some b.register
  | .post event => some (b.post event)
  | .drop id => if b.alive id then some (b.dropReceiver id) else none

variable {b c : TunnelEventBus E} {id : Nat} {event : E} {act : BusAction E} {acts : List (BusAction E)}

theorem alive_register (different : id ≠ b.channels) : b.register.alive id = b.alive id :=
  Function.update_of_ne different ..

theorem alive_dropReceiver {other : Nat} (different : id ≠ other) : (b.dropReceiver other).alive id = b.alive id :=
  Function.update_of_ne different ..

theorem dropped (id : Nat) : (b.dropReceiver id).alive id = false := Function.update_self ..

theorem step_drop (h : b.step (.drop id) = some c) : c = b.dropReceiver id := by
  simp only [step] at h
  split at h
  · exact (Option.some.inj h).symm
  · cases h

/-! ### One event -/

/-- An event goes to the listeners that are alive, and these are kept. -/
def posted (b : TunnelEventBus E) (event : E) : TunnelEventBus E :=
  { b with
    listeners := b.listeners.filter b.alive
    sent := fun id => if id ∈ b.listeners ∧ b.alive id then b.sent id ++ [event] else b.sent id }

theorem retain_eq {listeners : List Nat} (nodup : listeners.Nodup) :
    retain event listeners b = (listeners.filter b.alive,
      { b with sent := fun id => if id ∈ listeners ∧ b.alive id then b.sent id ++ [event] else b.sent id }) := by
  induction listeners generalizing b with
  | nil => simp [retain]
  | cons id rest ih =>
    obtain ⟨fresh, nodup⟩ := List.nodup_cons.mp nodup
    cases live : b.alive id with
    | false =>
      simp only [retain, send, live, Bool.false_eq_true, if_false, ih nodup, List.filter_cons, Prod.mk.injEq,
        TunnelEventBus.mk.injEq, true_and]
      funext j
      by_cases same : j = id
      · simp [same, live]
      · simp [same]
    | true =>
      simp only [retain, send, live, if_true, ih nodup, List.filter_cons, Prod.mk.injEq,
        TunnelEventBus.mk.injEq, true_and]
      funext j
      by_cases same : j = id
      · simp [same, fresh, live]
      · simp [same]

theorem post_eq (nodup : b.listeners.Nodup) : b.post event = b.posted event := by
  rw [post, retain_eq nodup]
  rfl

/-! ### Delivery over a whole run -/

/-- Every receiver that is alive has its sender on the list. What is not registered yet has not been
sent anything. -/
structure Complete (b : TunnelEventBus E) : Prop where
  nodup : b.listeners.Nodup
  known : ∀ id ∈ b.listeners, id < b.channels
  entered : ∀ id < b.channels, b.alive id = true → id ∈ b.listeners
  later : ∀ id, b.channels ≤ id → b.alive id = false ∧ b.sent id = []

theorem complete_new : (new : TunnelEventBus E).Complete := by
  constructor <;> simp [new]

theorem step_complete (inv : b.Complete) (h : b.step act = some c) : c.Complete := by
  cases act with
  | register =>
    obtain rfl := Option.some.inj h
    have fresh : b.channels ∉ b.listeners := fun member => Nat.lt_irrefl _ (inv.known _ member)
    refine ⟨?_, ?_, ?_, ?_⟩
    · exact List.nodup_append.mpr ⟨inv.nodup, List.nodup_singleton _, fun id member other last same =>
        fresh (by rwa [← List.mem_singleton.mp last, ← same])⟩
    · intro id member
      rcases List.mem_append.mp member with before | last
      · exact Nat.lt_succ_of_lt (inv.known id before)
      · rw [List.mem_singleton.mp last]
        exact Nat.lt_succ_self _
    · intro id below live
      rcases Nat.lt_succ_iff_lt_or_eq.mp below with old | rfl
      · rw [alive_register (Nat.ne_of_lt old)] at live
        exact List.mem_append_left _ (inv.entered id old live)
      · exact List.mem_append_right _ List.mem_cons_self
    · intro id above
      rw [alive_register (Nat.ne_of_gt above)]
      exact inv.later id (Nat.le_of_lt above)
  | post event =>
    obtain rfl := Option.some.inj h
    rw [post_eq inv.nodup]
    refine ⟨inv.nodup.filter _, ?_, ?_, ?_⟩
    · exact fun id member => inv.known id (List.mem_of_mem_filter member)
    · exact fun id below live => List.mem_filter.mpr ⟨inv.entered id below live, live⟩
    · intro id above
      obtain ⟨gone, nothing⟩ := inv.later id above
      simp [posted, gone, nothing]
  | drop id =>
    obtain rfl := step_drop h
    refine ⟨inv.nodup, inv.known, ?_, ?_⟩
    · intro other below live
      by_cases same : other = id
      · rw [same, dropped] at live
        cases live
      · rw [alive_dropReceiver same] at live
        exact inv.entered other below live
    · intro other above
      obtain ⟨gone, nothing⟩ := inv.later other above
      refine ⟨?_, nothing⟩
      by_cases same : other = id
      · rw [same, dropped]
      · rwa [alive_dropReceiver same]

end TunnelEventBus

namespace BusAction

def registers : BusAction E → Nat
  | register => 1
  | post _ | drop _ => 0

def events : BusAction E → List E
  | post event => [event]
  | register | drop _ => []

def drops (id : Nat) : BusAction E → Bool
  | drop other => other = id
  | register | post _ => false

end BusAction

namespace TunnelEventBus

variable {b c : TunnelEventBus E} {id : Nat} {event : E} {act : BusAction E} {acts : List (BusAction E)}

def registrations (acts : List (BusAction E)) : Nat := (acts.map BusAction.registers).sum

theorem registrations_append (xs ys : List (BusAction E)) :
    registrations (xs ++ ys) = registrations xs + registrations ys := by
  simp [registrations]

theorem step_channels (inv : b.Complete) (h : b.step act = some c) :
    c.channels = b.channels + act.registers := by
  cases act with
  | register =>
    obtain rfl := Option.some.inj h
    rfl
  | post event =>
    obtain rfl := Option.some.inj h
    rw [post_eq inv.nodup]
    rfl
  | drop id =>
    obtain rfl := step_drop h
    rfl

/-- A registered receiver that is alive after a step was so before, and gets the events of the step. -/
theorem step_sent (inv : b.Complete) (h : b.step act = some c) (below : id < b.channels)
    (live : c.alive id = true) : b.alive id = true ∧ c.sent id = b.sent id ++ act.events := by
  cases act with
  | register =>
    obtain rfl := Option.some.inj h
    rw [alive_register (Nat.ne_of_lt below)] at live
    exact ⟨live, (List.append_nil _).symm⟩
  | post event =>
    obtain rfl := Option.some.inj h
    rw [post_eq inv.nodup] at live ⊢
    exact ⟨live, if_pos ⟨inv.entered id below live, live⟩⟩
  | drop other =>
    obtain rfl := step_drop h
    have different : id ≠ other := by
      rintro rfl
      rw [dropped] at live
      cases live
    rw [alive_dropReceiver different] at live
    exact ⟨live, (List.append_nil _).symm⟩

/-- A listener has been sent the events since its registration, as long as its receiver is there. -/
structure Delivers (acts : List (BusAction E)) (b : TunnelEventBus E) : Prop where
  complete : b.Complete
  channels : b.channels = registrations acts
  sent : ∀ before after, acts = before ++ .register :: after → b.alive (registrations before) = true →
    b.sent (registrations before) = after.flatMap BusAction.events

theorem run_delivers (h : run step new acts = some b) : Delivers acts b := by
  refine run_history (I := Delivers) ?_ ⟨complete_new, rfl, fun before after none => by simp at none⟩ h
  intro acts b act c inv stepped
  have channels : c.channels = registrations (acts ++ [act]) := by
    rw [registrations_append, step_channels inv.complete stepped, inv.channels]
    rfl
  refine ⟨step_complete inv.complete stepped, channels, fun before after split live => ?_⟩
  -- The registration is the last action, or the last action comes after it.
  rcases List.eq_nil_or_concat' after with rfl | ⟨earlier, last, rfl⟩
  · obtain ⟨rfl, registers⟩ := List.append_inj' split rfl
    cases registers
    obtain rfl := Option.some.inj stepped
    rw [← inv.channels]
    exact (inv.complete.later _ (Nat.le_refl _)).2
  · rw [← List.cons_append, ← List.append_assoc] at split
    obtain ⟨rfl, same⟩ := List.append_inj' split rfl
    cases same
    have below : registrations before < b.channels := by
      rw [inv.channels, registrations_append]
      have first : registrations (.register :: earlier) = 1 + registrations earlier := by
        simp [registrations, BusAction.registers]
      omega
    obtain ⟨lived, sent⟩ := step_sent inv.complete stepped below live
    rw [sent, inv.sent before earlier rfl lived]
    simp

/-! ### A receiver that is dropped -/

/-- The two buses differ at most in one listener. -/
structure SameBut (id : Nat) (b c : TunnelEventBus E) : Prop where
  channels : b.channels = c.channels
  listeners : b.listeners.filter (· ≠ id) = c.listeners.filter (· ≠ id)
  alive : ∀ other, other ≠ id → b.alive other = c.alive other
  sent : ∀ other, other ≠ id → b.sent other = c.sent other

theorem SameBut.posted (same : SameBut id b c) : SameBut id (b.posted event) (c.posted event) where
  channels := same.channels
  listeners := by
    have alike : (b.listeners.filter (· ≠ id)).filter b.alive = (b.listeners.filter (· ≠ id)).filter c.alive := by
      refine List.filter_congr fun other member => same.alive other ?_
      simpa using (List.mem_filter.mp member).2
    show (b.listeners.filter b.alive).filter (· ≠ id) = (c.listeners.filter c.alive).filter (· ≠ id)
    rw [List.filter_comm, alike, same.listeners, List.filter_comm]
  alive := same.alive
  sent := by
    intro other different
    have member : other ∈ b.listeners ↔ other ∈ c.listeners := by
      have := congrArg (other ∈ ·) same.listeners
      simpa [different] using this
    simp only [TunnelEventBus.posted, member, same.alive other different, same.sent other different]

theorem SameBut.register (same : SameBut id b c) : SameBut id b.register c.register where
  channels := congrArg (· + 1) same.channels
  listeners := by
    simp only [TunnelEventBus.register, List.filter_append, same.listeners, same.channels]
  alive := by
    intro other different
    simp only [TunnelEventBus.register, same.channels]
    by_cases last : other = c.channels
    · rw [last, Function.update_self, Function.update_self]
    · rw [Function.update_of_ne last, Function.update_of_ne last, same.alive other different]
  sent := same.sent

theorem SameBut.dropReceiver (same : SameBut id b c) (dropped : Nat) :
    SameBut id (b.dropReceiver dropped) (c.dropReceiver dropped) where
  channels := same.channels
  listeners := same.listeners
  alive := by
    intro other different
    by_cases gone : other = dropped
    · rw [gone, TunnelEventBus.dropped, TunnelEventBus.dropped]
    · rw [alive_dropReceiver gone, alive_dropReceiver gone, same.alive other different]
  sent := same.sent

theorem step_sameBut {b' : TunnelEventBus E} (same : SameBut id b c) (complete : b.Complete) (complete' : c.Complete)
    (keeps : act.drops id = false) (h : b.step act = some b') :
    ∃ c', c.step act = some c' ∧ SameBut id b' c' := by
  cases act with
  | register =>
    obtain rfl := Option.some.inj h
    exact ⟨_, rfl, same.register⟩
  | post event =>
    obtain rfl := Option.some.inj h
    refine ⟨_, rfl, ?_⟩
    rw [post_eq complete.nodup, post_eq complete'.nodup]
    exact same.posted
  | drop other =>
    have different : other ≠ id := by simpa [BusAction.drops] using keeps
    simp only [step, same.alive other different] at h ⊢
    split at h
    · obtain rfl := Option.some.inj h
      exact ⟨_, if_pos ‹_›, same.dropReceiver other⟩
    · cases h

theorem run_sameBut {b' : TunnelEventBus E} (same : SameBut id b c) (complete : b.Complete) (complete' : c.Complete)
    (h : run step b acts = some b') :
    ∃ c', run step c (acts.filter fun act => !act.drops id) = some c' ∧ SameBut id b' c' := by
  induction acts generalizing b c with
  | nil =>
    obtain rfl : b = b' := Option.some.inj h
    exact ⟨c, rfl, same⟩
  | cons act rest ih =>
    obtain ⟨b₁, stepped, tail⟩ := run_cons h
    have complete₁ := step_complete complete stepped
    cases keeps : act.drops id with
    | false =>
      obtain ⟨c₁, stepped', same₁⟩ := step_sameBut same complete complete' keeps stepped
      obtain ⟨c', ran, same'⟩ := ih same₁ complete₁ (step_complete complete' stepped') tail
      exact ⟨c', by simp [keeps, run, stepped', ran], same'⟩
    | true =>
      obtain rfl : act = .drop id := by
        cases act <;> simp_all [BusAction.drops]
      obtain rfl := step_drop stepped
      have same₁ : SameBut id (b.dropReceiver id) c :=
        ⟨same.channels, same.listeners,
          fun other different => (alive_dropReceiver different).trans (same.alive other different), same.sent⟩
      obtain ⟨c', ran, same'⟩ := ih same₁ complete₁ complete' tail
      exact ⟨c', by simp [keeps, ran], same'⟩

/-- Every listener whose receiver is alive has been sent the events since its registration, in their
order. Without the drop of one receiver the others get the same. There are no listeners only if all
receivers have been dropped. -/
theorem events_delivered (h : run step new acts = some b) :
    (∀ before after, acts = before ++ .register :: after → b.alive (registrations before) = true →
      b.sent (registrations before) = after.flatMap BusAction.events) ∧
    (∀ id, ∃ c, run step new (acts.filter fun act => !act.drops id) = some c ∧
      ∀ other ≠ id, c.sent other = b.sent other ∧ c.alive other = b.alive other) ∧
    (b.hasListeners = false → ∀ id < registrations acts, b.alive id = false) := by
  have delivers := run_delivers h
  refine ⟨delivers.sent, fun id => ?_, fun none id below => ?_⟩
  · have start : SameBut id (new : TunnelEventBus E) new := ⟨rfl, rfl, fun _ _ => rfl, fun _ _ => rfl⟩
    obtain ⟨c, ran, same⟩ := run_sameBut start complete_new complete_new h
    exact ⟨c, ran, fun other different => ⟨(same.sent other different).symm, (same.alive other different).symm⟩⟩
  · have empty : b.listeners = [] := by simpa [hasListeners] using none
    by_contra live
    have member := delivers.complete.entered id (by rwa [delivers.channels]) (by simpa using live)
    rw [empty] at member
    cases member

/-- Two listeners, one of which goes away between two events. -/
def twoListeners : List (BusAction Nat) :=
  [.register, .post 1, .register, .post 2, .drop 0, .post 3]

theorem events_delivered_two :
    ∃ b, run step new twoListeners = some b ∧ b.alive 1 = true ∧ b.sent 1 = [2, 3] ∧ b.sent 0 = [1, 2] ∧
      b.listeners = [1] ∧ b.sent 1 = [BusAction.post 2, .drop 0, .post 3].flatMap BusAction.events := by
  obtain ⟨b, ran, live, second, first, kept⟩ := run_reaches
    (P := fun b : TunnelEventBus Nat => b.alive 1 = true ∧ b.sent 1 = [2, 3] ∧ b.sent 0 = [1, 2] ∧ b.listeners = [1])
    (show (run step new twoListeners).any _ = true by decide +kernel)
  exact ⟨b, ran, live, second, first, kept,
    (events_delivered ran).1 [.register, .post 1] [.post 2, .drop 0, .post 3] rfl live⟩

end TunnelEventBus

end Rstun.Events
