import Rstun.Base.Run
import Rstun.Tunnel.Waiting

/-!
# The requests of a TCP OUT tunnel

`TcpTunnel::start_serving` takes one request after the other from the receiver, opens a stream for it
and hands it to `start_flowing_with_codec`. It runs in the race of `handle_channel_based_tunnel`, or in
two races when it serves a local server. A request for which no stream could be opened is left in
`pending_request`, which outlives the connection. `ρ` is the type of the requests.
-/

namespace Rstun.Tunnel
open Async Transition

variable {ρ : Type}

/-- `bound` says that `tcp_servers` and `tcp_receivers` have an entry for the local address. The other
fields but `pendingRequest` are for the record: the requests taken from the receiver, those handed to
`start_flowing_with_codec`, and for the current connection the request that was pending when it was
made and those for which `open_bi` was called. -/
structure Requests (ρ : Type) where
  bound : Bool
  pendingRequest : Option ρ
  taken : List ρ
  started : List ρ
  owed : Option ρ
  tried : List ρ

abbrev TcpConn (ρ : Type) := Conn (Requests ρ)

/-- The await at which the loop of `start_serving` stands. -/
inductive Await (ρ : Type) where
  | receiving
  | opening (request : ρ)
  | writing (request : ρ)

def Await.hand : Await ρ → Option ρ
  | receiving => none
  | opening request | writing request => some request

/-- What becomes ready during a poll, in this order. A message other than a request is `none`, as is
the end of the channel. -/
inductive Io (ρ : Type) where
  | recv (message : Option ρ)
  | openBi (ok : Bool)
  | write (ok : Bool)

namespace TcpConn

def receive (c : TcpConn ρ) (request : ρ) : TcpConn ρ :=
  { c with state := { c.state with taken := c.state.taken ++ [request] } }

def save (c : TcpConn ρ) (request : ρ) : TcpConn ρ :=
  { c with state := { c.state with pendingRequest := some request } }

def attempt (c : TcpConn ρ) (request : ρ) : TcpConn ρ :=
  { c with state := { c.state with tried := c.state.tried ++ [request] } }

def start (c : TcpConn ρ) (request : ρ) : TcpConn ρ :=
  { c with state := { c.state with started := c.state.started ++ [request] } }

/-- The head of the loop, up to the first await. -/
def next (c : TcpConn ρ) : TcpConn ρ × Await ρ :=
  match c.state.pendingRequest with
  | some request =>
    (attempt { c with state := { c.state with pendingRequest := none } } request, .opening request)
  | none => (c, .receiving)

/-- The loop, from the await at which it stands to the one at which nothing is ready. Over a closed
connection `open_bi` and the writing of the target fail at once. -/
def loop : List (Io ρ) → Poll (TcpConn ρ) (Await ρ)
  | ios, c, .opening request =>
    if c.closed then (c.save request, none)
    else match ios with
      | .openBi true :: ios => loop ios c (.writing request)
      | .openBi false :: _ => (c.save request, none)
      | _ => (c, some (.opening request))
  | ios, c, .writing request =>
    let (again, opening) := (c.save request).next
    -- the write fails and the request is tried again, which fails as well
    if c.closed then (again.save request, none)
    else match ios with
      | .write true :: ios => loop ios (c.start request).next.1 (c.start request).next.2
      | .write false :: ios => loop ios again opening
      | _ => (c, some (.writing request))
  | .recv (some request) :: ios, c, .receiving =>
    loop ios ((c.receive request).attempt request) (.opening request)
  | .recv none :: _, c, .receiving => (c, none)
  | _, c, .receiving => (c, some .receiving)

end TcpConn

/-- `none` before `start_serving` is first polled. -/
abbrev StartServing (ρ : Type) := Option (Await ρ)

/-- Where the tunnel's task stands. A channel-based tunnel is serving from the beginning. -/
inductive ServeTcp (ρ : Type) where
  | start
  | binding
  | serving (loop : StartServing ρ)

def ServeTcp.hand : ServeTcp ρ → Option ρ
  | start | binding => none
  | serving loop => loop.bind Await.hand

inductive TunnelKind where
  | networkBased
  | channelBased
  deriving DecidableEq

/-- `bound` is `none` while the local server is being bound, and `some false` when that has failed
for good. -/
structure TcpPoll (ρ : Type) where
  outer : Race
  inner : Race
  bound : Option Bool
  ios : List (Io ρ)

namespace TcpPoll
variable (p : TcpPoll ρ)

def startServing : Poll (TcpConn ρ) (StartServing ρ)
  | c, none => (TcpConn.loop p.ios c.next.1 c.next.2).map id (Option.map some)
  | c, some await => (TcpConn.loop p.ios c await).map id (Option.map some)

def serve (c : TcpConn ρ) (loop : StartServing ρ) : TcpConn ρ × Option (ServeTcp ρ) :=
  (waitForConnectionClose p.inner p.startServing c loop).map id (Option.map .serving)

def startTcpServer (c : TcpConn ρ) : TcpConn ρ × Option (ServeTcp ρ) :=
  match p.bound with
  | none => (c, some .binding)
  | some false => (c, none)
  | some true => p.serve { c with state := { c.state with bound := true } } none

def serveOutboundTcp : Poll (TcpConn ρ) (ServeTcp ρ)
  | c, .start => if c.state.bound then p.serve c none else p.startTcpServer c
  | c, .binding => p.startTcpServer c
  | c, .serving loop => p.serve c loop

def serveChannel : Poll (TcpConn ρ) (ServeTcp ρ)
  | c, .serving loop => (p.startServing c loop).map id (Option.map .serving)
  | c, task => (c, some task)

def handleTunnel : TunnelKind → Poll (TcpConn ρ) (ServeTcp ρ)
  | .networkBased => waitForConnectionClose p.outer p.serveOutboundTcp
  | .channelBased => waitForConnectionClose p.outer p.serveChannel

end TcpPoll

structure TcpOut (ρ : Type) where
  conn : TcpConn ρ
  task : Option (ServeTcp ρ)

inductive TcpAction (ρ : Type) where
  | connect
  | close
  | poll (p : TcpPoll ρ)

namespace TcpOut

def new : TcpOut ρ := ⟨⟨true, ⟨false, none, [], [], none, []⟩⟩, none⟩

def step (kind : TunnelKind) (t : TcpOut ρ) : TcpAction ρ → Option (TcpOut ρ)
  | .connect =>
    let state := { t.conn.state with owed := t.conn.state.pendingRequest, tried := [] }
    if t.task.isNone then
      some ⟨⟨false, state⟩, some (match kind with | .networkBased => .start | .channelBased => .serving none)⟩
    else none
  | .close => some { t with conn := t.conn.close }
  | .poll p => t.task.map fun task =>
    match p.handleTunnel kind t.conn task with
    | (conn, task) => ⟨conn, task⟩

def hand (t : TcpOut ρ) : Option ρ := t.task.bind ServeTcp.hand

/-- No request is in hand and none comes in. -/
def Idle (t : TcpOut ρ) (p : TcpPoll ρ) : Prop :=
  p.ios = [] ∧ t.hand = none ∧ t.conn.state.pendingRequest = none

instance (t : TcpOut ρ) (p : TcpPoll ρ) : Decidable (t.Idle p) := inferInstanceAs (Decidable (_ ∧ _ ∧ _))

/-- While there is a request in hand, the end of the connection is noticed by `start_serving` first. -/
def Yields (kind : TunnelKind) (t : TcpOut ρ) : TcpAction ρ → Prop
  | .connect | .close => True
  | .poll p => t.Idle p ∨
    p.outer.Patient t.conn.closed ∧ (kind = .networkBased → p.inner.Patient t.conn.closed)

instance (kind : TunnelKind) (t : TcpOut ρ) : DecidablePred (t.Yields kind)
  | .connect | .close => isTrue trivial
  | .poll _ => inferInstanceAs (Decidable (_ ∨ _ ∧ _))

end TcpOut

/-! ### Accounting for the requests -/

namespace Requests

/-- The request that was pending when the connection was made is the first to be tried. -/
def OwedFirst (s : Requests ρ) : Prop :=
  ∀ request ∈ s.owed, s.tried.head? = some request ∨ (s.tried = [] ∧ s.pendingRequest = some request)

structure Resting (s : Requests ρ) : Prop where
  all : s.taken = s.started ++ s.pendingRequest.toList
  first : s.OwedFirst

structure Looping (s : Requests ρ) (await : Await ρ) : Prop where
  nothing : s.pendingRequest = none
  all : s.taken = s.started ++ await.hand.toList
  first : ∀ request ∈ s.owed, s.tried.head? = some request

theorem Looping.resting {s : Requests ρ} {await : Await ρ} (h : s.Looping await) (idle : await.hand = none) :
    s.Resting :=
  ⟨by simp [h.all, idle, h.nothing], fun request owed => Or.inl (h.first request owed)⟩

end Requests

namespace TcpConn
open Requests
variable {c : TcpConn ρ} {request : ρ}

theorem next_looping (h : c.state.Resting) : c.next.1.state.Looping c.next.2 := by
  obtain ⟨all, first⟩ := h
  unfold next
  split <;> rename_i pending
  · refine ⟨rfl, by simpa [pending, attempt, Await.hand] using all, fun r owed => ?_⟩
    rcases first r owed with head | ⟨empty, same⟩
    · simp [attempt, List.head?_append, head]
    · simpa [attempt, empty] using Option.some.inj (pending.symm.trans same)
  · refine ⟨pending, by simpa [pending, Await.hand] using all, fun r owed => ?_⟩
    rcases first r owed with head | ⟨_, same⟩
    · exact head
    · exact absurd (pending.symm.trans same) (by simp)

theorem save_resting {await : Await ρ} (h : c.state.Looping await) (held : await.hand = some request) :
    (c.save request).state.Resting :=
  ⟨by simpa [save, held] using h.all, fun r owed => Or.inl (h.first r owed)⟩

theorem start_resting (h : c.state.Looping (.writing request)) : (c.start request).state.Resting :=
  ⟨by simpa [start, h.nothing, Await.hand] using h.all, fun r owed => Or.inl (h.first r owed)⟩

theorem receive_looping (h : c.state.Looping .receiving) :
    ((c.receive request).attempt request).state.Looping (.opening request) :=
  ⟨h.nothing, by simpa [receive, attempt, Await.hand] using h.all,
    fun r owed => by simp [receive, attempt, List.head?_append, h.first r owed]⟩

@[simp] theorem next_closed : c.next.1.closed = c.closed := by
  unfold next
  split <;> rfl

/-- The loop keeps account of the requests. Over a closed connection it does not stop with a request
in hand. -/
theorem loop_accounts {ios : List (Io ρ)} {await : Await ρ} (h : c.state.Looping await) :
    Leaves
      (fun d await => d.state.Looping await ∧ d.closed = c.closed ∧ (c.closed = true → await.hand = none))
      (fun d => d.state.Resting) (loop ios c await) := by
  -- over what becomes ready, in the order of the loop's branches
  fun_induction loop ios c await with
  | case1 => exact save_resting h rfl
  | case2 _ _ _ _ ih => exact ih ⟨h.nothing, h.all, h.first⟩
  | case3 => exact save_resting h rfl
  | case4 _ _ _ opened => exact ⟨h, rfl, fun closed => absurd closed opened⟩
  | case5 _ c request again opening retried _ =>
    have looping := next_looping (save_resting h rfl)
    rw [retried] at looping
    exact save_resting looping (by rw [← congrArg Prod.snd retried]; rfl)
  | case6 c request _ _ _ _ _ ih => simpa [start] using ih (next_looping (start_resting h))
  | case7 c request again opening retried _ _ ih =>
    have looping := next_looping (save_resting h rfl)
    rw [retried] at looping
    obtain rfl : again = (c.save request).next.1 := by rw [retried]
    simpa [save] using ih looping
  | case8 _ _ _ _ _ _ opened => exact ⟨h, rfl, fun closed => absurd closed opened⟩
  | case9 _ _ _ ih => exact ih (receive_looping h)
  | case10 => exact h.resting rfl
  | case11 => exact ⟨h, rfl, fun _ => rfl⟩

end TcpConn
def ServeTcp.Accounts (s : Requests ρ) : ServeTcp ρ → Prop
  | start | binding | serving none => s.Resting
  | serving (some await) => s.Looping await

theorem ServeTcp.Accounts.resting {s : Requests ρ} {task : ServeTcp ρ} (h : task.Accounts s)
    (idle : task.hand = none) : s.Resting := by
  cases task with
  | start | binding => exact h
  | serving loop =>
    cases loop with
    | none => exact h
    | some await => exact Requests.Looping.resting h idle

theorem ServeTcp.Accounts.all {s : Requests ρ} {task : ServeTcp ρ} (h : task.Accounts s) :
    s.taken = s.started ++ s.pendingRequest.toList ++ task.hand.toList := by
  rcases task with _ | _ | _ | await
  · simpa [ServeTcp.hand] using Requests.Resting.all h
  · simpa [ServeTcp.hand] using Requests.Resting.all h
  · simpa [ServeTcp.hand] using Requests.Resting.all h
  · simpa [ServeTcp.hand, Requests.Looping.nothing h] using Requests.Looping.all h

theorem ServeTcp.Accounts.first {s : Requests ρ} {task : ServeTcp ρ} (h : task.Accounts s) : s.OwedFirst := by
  rcases task with _ | _ | _ | await
  · exact Requests.Resting.first h
  · exact Requests.Resting.first h
  · exact Requests.Resting.first h
  · exact fun request owed => Or.inl (Requests.Looping.first h request owed)

namespace TcpPoll
variable {p : TcpPoll ρ} {c : TcpConn ρ} {idle : Prop}

/-- How a poll leaves the task suspended that began with `c`. -/
def Suspends (c : TcpConn ρ) (idle : Prop) (d : TcpConn ρ) (task : ServeTcp ρ) : Prop :=
  task.Accounts d.state ∧ d.closed = c.closed ∧ (c.closed = true ∨ idle → task.hand = none)

theorem startServing_accounts {loop : StartServing ρ} (h : (ServeTcp.serving loop).Accounts c.state)
    (quiet : idle → p.ios = [] ∧ loop.bind Await.hand = none ∧ c.state.pendingRequest = none) :
    Leaves (fun d loop => Suspends c idle d (.serving loop)) (fun d => d.state.Resting)
      (p.startServing c loop) := by
  have start : ∀ {e : TcpConn ρ} {await : Await ρ}, e.state.Looping await → e.closed = c.closed →
      (idle → await = .receiving) → Leaves (fun d loop => Suspends c idle d (.serving loop))
        (fun d => d.state.Resting) ((TcpConn.loop p.ios e await).map id (Option.map some)) := by
    intro e await looping closed waits
    -- an idle loop finds nothing ready and stays where it is
    by_cases still : idle
    · obtain rfl := waits still
      rw [(quiet still).1]
      exact ⟨looping, closed, fun _ => rfl⟩
    · refine leaves_map.mpr ((TcpConn.loop_accounts looping).mono (fun d await suspended => ?_) fun _ => id)
      obtain ⟨looping, same, empty⟩ := suspended
      exact ⟨looping, same.trans closed, fun harmless => empty (closed.trans (harmless.resolve_right still))⟩
  cases loop with
  | none =>
    refine start (TcpConn.next_looping h) TcpConn.next_closed fun still => ?_
    simp [TcpConn.next, (quiet still).2.2]
  | some await =>
    refine start h rfl fun still => ?_
    have empty := (quiet still).2.1
    cases await with
    | receiving => rfl
    | opening | writing => cases empty

theorem Suspends.dropped {d : TcpConn ρ} {task : ServeTcp ρ} (h : Suspends c idle d task)
    (harmless : c.closed = true ∨ d.closed = true ∨ idle) : d.state.Resting := by
  refine h.1.resting (h.2.2 ?_)
  rcases harmless with closed | closed | still
  · exact Or.inl closed
  · exact Or.inl (h.2.1 ▸ closed)
  · exact Or.inr still

theorem race_accounts {φ : Type} {race : Race} {poll : Poll (TcpConn ρ) φ} {f : φ} (task : φ → ServeTcp ρ)
    (safe : race.Patient c.closed ∨ idle) (unpolled : idle → c.state.Resting)
    (polled : Leaves (fun d f => Suspends c idle d (task f)) (fun d => d.state.Resting) (poll c f)) :
    Leaves (fun d f => Suspends c idle d (task f)) (fun d => d.state.Resting)
      (waitForConnectionClose race poll c f) :=
  waitForConnectionClose_leaves (Q := fun d => d.state.Resting) safe unpolled
    (polled.mono (fun _ _ suspends => ⟨suspends, suspends.dropped⟩) fun _ => id)

theorem serve_accounts {loop : StartServing ρ} (h : (ServeTcp.serving loop).Accounts c.state)
    (safe : p.inner.Patient c.closed ∨ idle)
    (quiet : idle → p.ios = [] ∧ loop.bind Await.hand = none ∧ c.state.pendingRequest = none) :
    Leaves (Suspends c idle) (fun d => d.state.Resting) (p.serve c loop) :=
  leaves_map.mpr (race_accounts .serving safe (fun still => h.resting (quiet still).2.1)
    (startServing_accounts h quiet))

theorem serveOutboundTcp_accounts {task : ServeTcp ρ} (h : task.Accounts c.state)
    (safe : p.inner.Patient c.closed ∨ idle)
    (quiet : idle → p.ios = [] ∧ task.hand = none ∧ c.state.pendingRequest = none) :
    Leaves (Suspends c idle) (fun d => d.state.Resting) (p.serveOutboundTcp c task) := by
  have binds : c.state.Resting → (idle → p.ios = [] ∧ c.state.pendingRequest = none) →
      Leaves (Suspends c idle) (fun d => d.state.Resting) (p.startTcpServer c) := by
    intro resting quiet
    unfold startTcpServer
    split
    · exact ⟨resting, rfl, fun _ => rfl⟩
    · exact resting
    · exact serve_accounts (c := { c with state := { c.state with bound := true } })
        ⟨resting.all, resting.first⟩ safe fun still => ⟨(quiet still).1, rfl, (quiet still).2⟩
  cases task with
  | start =>
    rw [serveOutboundTcp]
    split
    · refine serve_accounts h safe fun still => ⟨(quiet still).1, rfl, (quiet still).2.2⟩
    · exact binds h fun still => ⟨(quiet still).1, (quiet still).2.2⟩
  | binding => exact binds h fun still => ⟨(quiet still).1, (quiet still).2.2⟩
  | serving loop => exact serve_accounts h safe quiet

theorem handleTunnel_accounts {kind : TunnelKind} {task : ServeTcp ρ} (h : task.Accounts c.state)
    (outer : p.outer.Patient c.closed ∨ idle) (inner : kind = .networkBased → p.inner.Patient c.closed ∨ idle)
    (quiet : idle → p.ios = [] ∧ task.hand = none ∧ c.state.pendingRequest = none) :
    Leaves (Suspends c idle) (fun d => d.state.Resting) (p.handleTunnel kind c task) := by
  have unpolled : idle → c.state.Resting := fun still => h.resting (quiet still).2.1
  cases kind with
  | networkBased => exact race_accounts id outer unpolled (serveOutboundTcp_accounts h (inner rfl) quiet)
  | channelBased =>
    refine race_accounts id outer unpolled ?_
    cases task with
    | start | binding => exact ⟨h, rfl, fun _ => rfl⟩
    | serving loop => exact leaves_map.mpr (startServing_accounts h quiet)

end TcpPoll

namespace TcpOut
variable {kind : TunnelKind} {t t' : TcpOut ρ}

def Accounted (t : TcpOut ρ) : Prop :=
  match t.task with
  | none => t.conn.state.Resting
  | some task => task.Accounts t.conn.state

theorem step_accounted (h : t.Accounted) {a : TcpAction ρ} (yields : t.Yields kind a)
    (hs : t.step kind a = some t') : t'.Accounted := by
  cases a with
  | connect =>
    simp only [step, Option.ite_none_right_eq_some, Option.isNone_iff_eq_none] at hs
    obtain ⟨disconnected, made⟩ := hs
    obtain rfl := Option.some.inj made
    rw [Accounted, disconnected] at h
    have resting : Requests.Resting { t.conn.state with owed := t.conn.state.pendingRequest, tried := [] } :=
      ⟨h.all, fun request owed => Or.inr ⟨rfl, owed⟩⟩
    cases kind <;> exact resting
  | close =>
    obtain rfl := Option.some.inj hs
    exact h
  | poll p =>
    obtain ⟨task, running, rfl⟩ := Option.map_eq_some_iff.mp hs
    rw [Accounted, running] at h
    have leaves : Leaves (TcpPoll.Suspends t.conn (t.Idle p)) (fun d => d.state.Resting)
        (p.handleTunnel kind t.conn task) := TcpPoll.handleTunnel_accounts h (yields.symm.imp_left And.left)
      (fun network => yields.symm.imp_left fun patient => patient.2 network)
      fun still => by simpa [Idle, hand, running] using still
    rcases polled : p.handleTunnel kind t.conn task with ⟨conn, _ | task⟩ <;> rw [polled] at leaves
    · exact leaves
    · exact leaves.1

theorem new_accounted : (new : TcpOut ρ).Accounted := ⟨rfl, by simp [new, Requests.OwedFirst]⟩

/-- Every request taken from the receiver was handed on once and in order, but for the one that is
pending or in hand; and the one that was pending when the connection was made is tried first. -/
theorem no_request_lost {acts : List (TcpAction ρ)} (h : run (step kind) new acts = some t)
    (yields : Along (step kind) (Yields kind) new acts) :
    t.conn.state.taken = t.conn.state.started ++ t.conn.state.pendingRequest.toList ++ t.hand.toList ∧
      t.conn.state.OwedFirst := by
  have accounted : t.Accounted := run_along_invariant (I := Accounted)
    (fun _ _ _ accounted yields => step_accounted accounted yields) new_accounted yields h
  unfold Accounted at accounted
  split at accounted <;> rename_i running
  · exact ⟨by simpa [hand, running] using accounted.all, accounted.first⟩
  · exact ⟨by simpa [hand, running] using accounted.all, accounted.first⟩

/-- The connection closes while `open_bi` is pending, both races poll their task first, and the request
is handed on over the next connection. -/
def carriedOver : List (TcpAction Nat) :=
  [.connect, .poll ⟨⟨false, false⟩, ⟨false, false⟩, some true, [.recv (some 7)]⟩, .close,
    .poll ⟨⟨false, false⟩, ⟨false, false⟩, none, []⟩, .connect,
    .poll ⟨⟨false, false⟩, ⟨false, false⟩, none, [.openBi true, .write true]⟩]

theorem no_request_lost_carriedOver : ∃ t, run (step .networkBased) new carriedOver = some t ∧
    t.conn.state.owed = some 7 ∧ t.conn.state.started = [7] ∧
    t.conn.state.taken = t.conn.state.started ++ t.conn.state.pendingRequest.toList ++ t.hand.toList ∧
    t.conn.state.OwedFirst := by
  have ran : run (step .networkBased) new carriedOver = some _ := rfl
  exact ⟨_, ran, rfl, rfl, no_request_lost ran (by decide)⟩

/-- The same, but the outer race looks at the connection first. -/
def droppedRequest : List (TcpAction Nat) :=
  [.connect, .poll ⟨⟨false, false⟩, ⟨false, false⟩, some true, [.recv (some 7)]⟩, .close,
    .poll ⟨⟨true, false⟩, ⟨false, false⟩, none, []⟩]

theorem request_lost : ∃ t, run (step .networkBased) new droppedRequest = some t ∧ t.task = none ∧
    t.conn.state.taken = [7] ∧ t.conn.state.started = [] ∧ t.conn.state.pendingRequest = none :=
  ⟨_, rfl, rfl, rfl, rfl, rfl⟩

end TcpOut
end Rstun.Tunnel
