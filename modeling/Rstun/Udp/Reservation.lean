import Rstun.Udp.Channel

/-!
# Reserving a local address

`reserve_channel_local_addr` without concurrent callers. It makes 65535 tries, from the port at which the
counter stands. That is one less than the counter has values.
-/

namespace Rstun.Udp
open Transition Rstun.Tunnel

section Reserve
variable {V : Type} (ipv6 : Bool) (replyTx : V)

/-- The loop with so many tries left. -/
def reserveLoop : Nat → UInt16 → (SocketAddr → Option V) → Except String SocketAddr × UInt16 × (SocketAddr → Option V)
  | 0, nextLocalPort, replyMap => (.error "no free synthetic udp channel local_addr available", nextLocalPort, replyMap)
  | tries + 1, port, replyMap =>
    if port = 0 then reserveLoop tries (port + 1) replyMap
    else
      let localAddr := channelLocalAddrForPort port ipv6
      match replyMap localAddr with
      | some _ => reserveLoop tries (port + 1) replyMap
      | none => (.ok localAddr, port + 1, Function.update replyMap localAddr (some replyTx))

def reserveChannelLocalAddr (nextLocalPort : UInt16) (replyMap : SocketAddr → Option V) :
    Except String SocketAddr × UInt16 × (SocketAddr → Option V) :=
  reserveLoop ipv6 replyTx 65535 nextLocalPort replyMap

variable {ipv6 replyTx} {replyMap : SocketAddr → Option V}

/-- A try at this port succeeds. -/
def Vacant (ipv6 : Bool) (replyMap : SocketAddr → Option V) (port : UInt16) : Prop :=
  port ≠ 0 ∧ replyMap (channelLocalAddrForPort port ipv6) = none

theorem reserveLoop_vacant {port : UInt16} (vacant : Vacant ipv6 replyMap port) (tries : Nat) :
    reserveLoop ipv6 replyTx (tries + 1) port replyMap = (.ok (channelLocalAddrForPort port ipv6), port + 1,
      Function.update replyMap (channelLocalAddrForPort port ipv6) (some replyTx)) := by
  simp only [reserveLoop, vacant.1, vacant.2, if_false]

theorem reserveLoop_taken {port : UInt16} (taken : ¬ Vacant ipv6 replyMap port) (tries : Nat) :
    reserveLoop ipv6 replyTx (tries + 1) port replyMap = reserveLoop ipv6 replyTx tries (port + 1) replyMap := by
  rw [reserveLoop]
  by_cases zero : port = 0
  · rw [if_pos zero]
  · obtain ⟨other, key⟩ := Option.ne_none_iff_exists'.mp fun free => taken ⟨zero, free⟩
    simp only [zero, key, if_false]

theorem add_ofNat_succ (port : UInt16) (i : Nat) : port + 1 + UInt16.ofNat i = port + UInt16.ofNat (i + 1) := by
  rw [Nat.add_comm i, UInt16.ofNat_add, UInt16.add_assoc]
  rfl

/-- The loop stops at the first vacant port, or after the last try. -/
theorem reserveLoop_spec (tries : Nat) (next : UInt16) :
    (∃ i < tries, Vacant ipv6 replyMap (next + UInt16.ofNat i) ∧
      ∃ next', reserveLoop ipv6 replyTx tries next replyMap =
        (.ok (channelLocalAddrForPort (next + UInt16.ofNat i) ipv6), next',
          Function.update replyMap (channelLocalAddrForPort (next + UInt16.ofNat i) ipv6) (some replyTx))) ∨
    ((∀ i < tries, ¬ Vacant ipv6 replyMap (next + UInt16.ofNat i)) ∧
      ∃ err next', reserveLoop ipv6 replyTx tries next replyMap = (.error err, next', replyMap)) := by
  induction tries generalizing next with
  | zero => exact Or.inr ⟨by omega, _, _, rfl⟩
  | succ tries ih =>
    by_cases vacant : Vacant ipv6 replyMap next
    · have first : next + UInt16.ofNat 0 = next := UInt16.add_zero next
      refine Or.inl ⟨0, by omega, ?_⟩
      rw [first]
      exact ⟨vacant, _, reserveLoop_vacant vacant tries⟩
    · rw [reserveLoop_taken vacant]
      rcases ih (next + 1) with ⟨i, within, free, next', reserved⟩ | ⟨full, err, next', failed⟩
      · rw [add_ofNat_succ] at free reserved
        exact Or.inl ⟨i + 1, by omega, free, next', reserved⟩
      · refine Or.inr ⟨fun i within => ?_, err, next', failed⟩
        cases i with
        | zero => rwa [show next + UInt16.ofNat 0 = next from UInt16.add_zero next]
        | succ i =>
          rw [← add_ofNat_succ]
          exact full i (by omega)

/-- The ports that are tried are all but the one before the counter. -/
theorem tried_iff (next port : UInt16) : (∃ i < 65535, port = next + UInt16.ofNat i) ↔ port ≠ next - 1 := by
  have range := port.toNat_lt
  have start := next.toNat_lt
  have before : (next - 1).toNat = (65535 + next.toNat) % 65536 := by
    rw [UInt16.toNat_sub]; rfl
  constructor
  · rintro ⟨i, within, rfl⟩ same
    have values := congrArg UInt16.toNat same
    rw [before, UInt16.toNat_add, UInt16.toNat_ofNat'] at values
    omega
  · intro tried
    have values : port.toNat ≠ (next - 1).toNat := fun same => tried (UInt16.toNat_inj.mp same)
    rw [before] at values
    refine ⟨(65536 + port.toNat - next.toNat) % 65536, by omega, ?_⟩
    apply UInt16.toNat_inj.mp
    rw [UInt16.toNat_add, UInt16.toNat_ofNat']
    omega

/-- Only the port that is not tried is free. -/
def OnlyLastFree (ipv6 : Bool) (replyMap : SocketAddr → Option V) (next : UInt16) : Prop :=
  Vacant ipv6 replyMap (next - 1) ∧ ∀ port, Vacant ipv6 replyMap port → port = next - 1

theorem reserve_of_onlyLastFree {next : UInt16} (last : OnlyLastFree ipv6 replyMap next) :
    ∃ err next', reserveChannelLocalAddr ipv6 replyTx next replyMap = (.error err, next', replyMap) := by
  rcases reserveLoop_spec 65535 next with ⟨i, within, vacant, _⟩ | ⟨_, failed⟩
  · exact absurd (last.2 _ vacant) ((tried_iff next _).mp ⟨i, within, rfl⟩)
  · exact failed

structure Complete (ipv6 : Bool) (replyTx : V) (next : UInt16) (replyMap : SocketAddr → Option V) : Prop where
  success : ∀ addr next' map', reserveChannelLocalAddr ipv6 replyTx next replyMap = (.ok addr, next', map') →
    addr.port ≠ 0 ∧ addr.isIpv6 = ipv6 ∧ replyMap addr = none ∧ map' = Function.update replyMap addr (some replyTx)
  failure : ∀ err next' map', reserveChannelLocalAddr ipv6 replyTx next replyMap = (.error err, next', map') →
    map' = replyMap ∧ ∀ port ≠ 0, replyMap (channelLocalAddrForPort port ipv6) ≠ none

theorem complete_of_not_onlyLastFree {next : UInt16} (other : ¬ OnlyLastFree ipv6 replyMap next) :
    Complete ipv6 replyTx next replyMap := by
  rcases reserveLoop_spec 65535 next with ⟨i, within, ⟨nonzero, free⟩, _, reserved⟩ | ⟨full, _, _, failed⟩
  · constructor
    · intro addr next' map' result
      cases reserved.symm.trans result
      obtain ⟨port, family⟩ := channelLocalAddrForPort_spec (next + UInt16.ofNat i) ipv6
      exact ⟨by rwa [port], family, free, rfl⟩
    · intro err next' map' result
      cases reserved.symm.trans result
  · constructor
    · intro addr next' map' result
      cases failed.symm.trans result
    · intro err next' map' result
      cases failed.symm.trans result
      refine ⟨rfl, fun port nonzero free => other ?_⟩
      -- what is vacant has not been tried
      have last : ∀ port, Vacant ipv6 replyMap port → port = next - 1 := by
        intro port vacant
        by_contra tried
        obtain ⟨i, within, rfl⟩ := (tried_iff next port).mpr tried
        exact full i within vacant
      exact ⟨last port ⟨nonzero, free⟩ ▸ ⟨nonzero, free⟩, last⟩

/-- The reservation is complete unless the port before the counter is the only free one. -/
theorem reservation_complete_iff (ipv6 : Bool) (replyTx : V) (next : UInt16) (replyMap : SocketAddr → Option V) :
    Complete ipv6 replyTx next replyMap ↔ ¬ OnlyLastFree ipv6 replyMap next := by
  refine ⟨fun complete last => ?_, complete_of_not_onlyLastFree⟩
  obtain ⟨err, next', failed⟩ := reserve_of_onlyLastFree last
  exact (complete.failure _ _ _ failed).2 _ last.1.1 last.1.2

/-- The addresses that are made for a port are all in use but the one whose port is before the counter. -/
def nearlyFull (addr : SocketAddr) : Option Nat :=
  if addr = channelLocalAddrForPort addr.port false ∧ addr.port ≠ 0 ∧ addr.port ≠ 9999 then some 1 else none

theorem nearlyFull_not_reserved :
    (∃ err next', reserveChannelLocalAddr false 2 10000 nearlyFull = (.error err, next', nearlyFull)) ∧
      nearlyFull (channelLocalAddrForPort 9999 false) = none := by
  refine ⟨reserve_of_onlyLastFree ⟨⟨by decide, by decide⟩, fun port vacant => ?_⟩, by decide⟩
  by_contra other
  have free := vacant.2
  rw [nearlyFull, (channelLocalAddrForPort_spec port false).1, if_pos ⟨rfl, vacant.1, other⟩] at free
  cases free

end Reserve

/-! ### The stream's part in it -/

namespace Bridge

/-- The stream when its reservation has returned. -/
def reserved (stream : ChannelStream) (payload : Bytes) : Except String SocketAddr → ChannelStream
  | .ok localAddr => { stream with localAddr := some localAddr, phase := .forwarding localAddr payload }
  | .error _ => { stream with phase := .gone }

section Run
variable (defaultUpstream : Option SocketAddr) {sid tries left : Nat} {payload : Bytes} {s : Bridge}

theorem draw_zero (reserving : (s.streams sid).phase = .reserving payload tries) (more : tries < 65535)
    (zero : s.nextLocalPort = 0) :
    s.draw sid = some (setStream { s with nextLocalPort := s.nextLocalPort + 1 } sid
      { s.streams sid with phase := .reserving payload (tries + 1) }) := by
  simp [draw, reserving, more, zero]

theorem draw_port (reserving : (s.streams sid).phase = .reserving payload tries) (more : tries < 65535)
    (nonzero : s.nextLocalPort ≠ 0) :
    s.draw sid = some (setStream { s with nextLocalPort := s.nextLocalPort + 1 } sid
      { s.streams sid with phase := .trying payload tries s.nextLocalPort }) := by
  simp [draw, reserving, more, nonzero]

variable {ipv6 : Bool}

theorem run_taken (reserving : (s.streams sid).phase = .reserving payload tries) (more : tries < 65535)
    (family : targetFamilyIsIpv6 (s.streams sid).target defaultUpstream = ipv6)
    (taken : ¬ Vacant ipv6 s.replyMap s.nextLocalPort) :
    ∃ acts t, run (step defaultUpstream) s acts = some t ∧ t.nextLocalPort = s.nextLocalPort + 1 ∧
      t.replyMap = s.replyMap ∧
      t.streams sid = { s.streams sid with phase := .reserving payload (tries + 1) } := by
  by_cases zero : s.nextLocalPort = 0
  · have drawn : run (step defaultUpstream) s [.draw sid] = _ :=
      congrArg (Option.bind · some) (draw_zero reserving more zero)
    exact ⟨_, _, drawn, rfl, rfl, Function.update_self ..⟩
  · obtain ⟨other, key⟩ := Option.ne_none_iff_exists'.mp fun free => taken ⟨zero, free⟩
    refine ⟨[.draw sid, .enter sid], setStream (setStream { s with nextLocalPort := s.nextLocalPort + 1 } sid
      { s.streams sid with phase := .trying payload tries s.nextLocalPort }) sid
      { s.streams sid with phase := .reserving payload (tries + 1) }, ?_, rfl, rfl, Function.update_self ..⟩
    simp only [run, step, draw_port reserving more zero, Option.bind_some]
    simp [enter, setStream, family, key]

theorem run_vacant (reserving : (s.streams sid).phase = .reserving payload tries) (more : tries < 65535)
    (family : targetFamilyIsIpv6 (s.streams sid).target defaultUpstream = ipv6)
    (vacant : Vacant ipv6 s.replyMap s.nextLocalPort) :
    ∃ acts t, run (step defaultUpstream) s acts = some t ∧ t.nextLocalPort = s.nextLocalPort + 1 ∧
      t.replyMap = Function.update s.replyMap (channelLocalAddrForPort s.nextLocalPort ipv6) (some sid) ∧
      t.streams sid = reserved (s.streams sid) payload (.ok (channelLocalAddrForPort s.nextLocalPort ipv6)) := by
  obtain ⟨nonzero, free⟩ := vacant
  refine ⟨[.draw sid, .enter sid], { setStream (setStream { s with nextLocalPort := s.nextLocalPort + 1 } sid
      { s.streams sid with phase := .trying payload tries s.nextLocalPort }) sid
      (reserved (s.streams sid) payload (.ok (channelLocalAddrForPort s.nextLocalPort ipv6))) with
      replyMap := Function.update s.replyMap (channelLocalAddrForPort s.nextLocalPort ipv6) (some sid) },
    ?_, rfl, rfl, Function.update_self ..⟩
  simp only [run, step, draw_port reserving more nonzero, Option.bind_some]
  simp [enter, setStream, reserved, family, free]

/-- While no other stream does anything, a stream that reserves an address runs the loop. -/
theorem run_reserveLoop (reserving : (s.streams sid).phase = .reserving payload tries)
    (family : targetFamilyIsIpv6 (s.streams sid).target defaultUpstream = ipv6) (count : tries + left = 65535)
    {result : Except String SocketAddr} {next : UInt16} {replyMap : SocketAddr → Option Nat}
    (returns : reserveLoop ipv6 sid left s.nextLocalPort s.replyMap = (result, next, replyMap)) :
    ∃ acts t, run (step defaultUpstream) s acts = some t ∧ t.nextLocalPort = next ∧ t.replyMap = replyMap ∧
      t.streams sid = reserved (s.streams sid) payload result := by
  induction left generalizing s tries with
  | zero =>
    cases returns
    refine ⟨[.draw sid], s.setStream sid { s.streams sid with phase := .gone }, ?_, rfl, rfl, Function.update_self ..⟩
    have last : ¬ tries < 65535 := by omega
    simp [run, step, draw, reserving, last]
  | succ left ih =>
    by_cases vacant : Vacant ipv6 s.replyMap s.nextLocalPort
    · rw [reserveLoop_vacant vacant] at returns
      cases returns
      exact run_vacant defaultUpstream reserving (by omega) family vacant
    · rw [reserveLoop_taken vacant] at returns
      obtain ⟨acts, t, ran, advanced, same, stream⟩ := run_taken defaultUpstream reserving (by omega) family vacant
      have again : (t.streams sid).phase = .reserving payload (tries + 1) := by rw [stream]
      obtain ⟨acts', u, ran', next', map', stream'⟩ :=
        ih again (by rwa [stream]) (by omega) (by rwa [advanced, same])
      refine ⟨acts ++ acts', u, run_append.mpr ⟨t, ran, ran'⟩, next', map', ?_⟩
      rw [stream', stream]
      cases result <;> rfl

end Run

end Bridge
end Rstun.Udp
