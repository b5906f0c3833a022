import Rstun.Config.Create

/-!
# The timers of a connection

`build_quic_transport_config` sets the idle timeout and the interval of the keep-alives from one number.
-/

namespace Rstun.Config

inductive Congestion where
  | cubic
  | newReno
  | bbr
  deriving DecidableEq

/-- What is set of quinn's `TransportConfig`. The times are in milliseconds. -/
structure TransportConfig where
  streamReceiveWindow : UInt32
  receiveWindow : UInt32
  sendWindow : UInt64
  congestion : Congestion
  maxConcurrentBidiStreams : UInt32
  maxIdleTimeout : Option UInt32
  keepAliveInterval : Option UInt64
  deriving DecidableEq

def quicStreamReceiveWindowBytes : UInt32 := 32 * 1024 * 1024

def quicReceiveWindowBytes : UInt32 := 64 * 1024 * 1024

def quicSendWindowBytes : UInt64 := 64 * 1024 * 1024

def quicMaxConcurrentBidiStreams : UInt32 := 1024

/-- `none` is a panic, which only a build with overflow checks has. -/
def doubleU64 (overflowChecks : Bool) (n : UInt64) : Option UInt64 :=
  if overflowChecks ∧ 2 ^ 64 ≤ n.toNat * 2 then none else some (n * 2)

/-- `default` is that of quinn. -/
def buildQuicTransportConfig (overflowChecks : Bool) (default : TransportConfig) (quicTimeoutMs : UInt64)
    (quicReceiveWindow streamReceiveWindow : UInt32) (quicSendWindow : UInt64) : Option TransportConfig :=
  let transportCfg := { default with
    streamReceiveWindow := if streamReceiveWindow > 0 then streamReceiveWindow else quicStreamReceiveWindowBytes
    receiveWindow := if quicReceiveWindow > 0 then quicReceiveWindow else quicReceiveWindowBytes
    sendWindow := if quicSendWindow > 0 then quicSendWindow else quicSendWindowBytes
    congestion := .bbr
    maxConcurrentBidiStreams := quicMaxConcurrentBidiStreams }
  if quicTimeoutMs > 0 then
    (doubleU64 overflowChecks quicTimeoutMs).map fun doubled => { transportCfg with
      maxIdleTimeout := some quicTimeoutMs.toUInt32
      keepAliveInterval := some (doubled / 3) }
  else some transportCfg

/-- The fields that `load_quinn_server_config` reads here. -/
structure ServerConfig where
  quicTimeoutMs : UInt64
  quicReceiveWindow : UInt32
  streamReceiveWindow : UInt32
  quicSendWindow : UInt64

/-- In `prepare_login_config`. -/
def ClientConfig.transport (config : ClientConfig) (overflowChecks : Bool) (default : TransportConfig) :
    Option TransportConfig :=
  buildQuicTransportConfig overflowChecks default config.quicTimeoutMs config.quicReceiveWindow
    config.streamReceiveWindow config.quicSendWindow

/-- In `load_quinn_server_config`. -/
def ServerConfig.transport (config : ServerConfig) (overflowChecks : Bool) (default : TransportConfig) :
    Option TransportConfig :=
  buildQuicTransportConfig overflowChecks default config.quicTimeoutMs config.quicReceiveWindow
    config.streamReceiveWindow config.quicSendWindow

/-- A connection on which nothing else is sent does not run into its timeout. -/
structure KeepsAlive (quicTimeoutMs : UInt64) (built : Option TransportConfig) : Prop where
  noOverflow : quicTimeoutMs.toNat * 2 < 2 ^ 64
  timers : ∃ config idle keepAlive, built = some config ∧ config.maxIdleTimeout = some idle ∧
    config.keepAliveInterval = some keepAlive ∧ idle.toNat = quicTimeoutMs.toNat ∧ 0 < keepAlive.toNat ∧
    keepAlive.toNat < idle.toNat

section Build
variable {overflowChecks : Bool} {default : TransportConfig} {quicTimeoutMs : UInt64}
  {quicReceiveWindow streamReceiveWindow : UInt32} {quicSendWindow : UInt64}

theorem build_timers (positive : 0 < quicTimeoutMs) (noOverflow : quicTimeoutMs.toNat * 2 < 2 ^ 64) :
    ∃ config keepAlive, buildQuicTransportConfig overflowChecks default quicTimeoutMs quicReceiveWindow
      streamReceiveWindow quicSendWindow = some config ∧ config.maxIdleTimeout = some quicTimeoutMs.toUInt32 ∧
      config.keepAliveInterval = some keepAlive ∧ keepAlive.toNat = quicTimeoutMs.toNat * 2 / 3 := by
  have doubled : doubleU64 overflowChecks quicTimeoutMs = some (quicTimeoutMs * 2) := if_neg (by omega)
  rw [buildQuicTransportConfig, if_pos positive, doubled]
  refine ⟨_, _, rfl, rfl, rfl, ?_⟩
  rw [UInt64.toNat_div, UInt64.toNat_mul]
  show quicTimeoutMs.toNat * 2 % 2 ^ 64 / 3 = _
  rw [Nat.mod_eq_of_lt noOverflow]

theorem keepsAlive_iff (positive : 0 < quicTimeoutMs) :
    KeepsAlive quicTimeoutMs (buildQuicTransportConfig overflowChecks default quicTimeoutMs quicReceiveWindow
      streamReceiveWindow quicSendWindow) ↔ 2 ≤ quicTimeoutMs.toNat ∧ quicTimeoutMs.toNat < 2 ^ 32 := by
  constructor
  · rintro ⟨noOverflow, config, idle, keepAlive, built, idleSet, keepAliveSet, same, some, _⟩
    have range := idle.toNat_lt
    obtain ⟨config', keepAlive', built', _, keepAliveSet', value⟩ := build_timers positive noOverflow
    obtain rfl := Option.some.inj (built.symm.trans built')
    obtain rfl := Option.some.inj (keepAliveSet.symm.trans keepAliveSet')
    omega
  · rintro ⟨least, fits⟩
    obtain ⟨config, keepAlive, built, idleSet, keepAliveSet, value⟩ := build_timers positive (by omega)
    have idle : quicTimeoutMs.toUInt32.toNat = quicTimeoutMs.toNat := by
      rw [UInt64.toNat_toUInt32]
      omega
    exact ⟨by omega, config, _, keepAlive, built, idleSet, keepAliveSet, idle, by omega, by omega⟩

theorem keepsAlive_unless_zero_iff :
    (0 < quicTimeoutMs → KeepsAlive quicTimeoutMs (buildQuicTransportConfig overflowChecks default quicTimeoutMs
      quicReceiveWindow streamReceiveWindow quicSendWindow)) ↔
      quicTimeoutMs ≠ 1 ∧ quicTimeoutMs.toNat < 2 ^ 32 := by
  have one : quicTimeoutMs ≠ 1 ↔ quicTimeoutMs.toNat ≠ 1 := by
    rw [ne_eq, ← UInt64.toNat_inj]
    rfl
  have zero : 0 < quicTimeoutMs ↔ 0 < quicTimeoutMs.toNat := UInt64.lt_iff_toNat_lt
  rw [one]
  constructor
  · intro keeps
    by_cases positive : 0 < quicTimeoutMs
    · have := (keepsAlive_iff positive).mp (keeps positive)
      omega
    · rw [zero] at positive
      omega
  · rintro ⟨other, fits⟩ positive
    have := zero.mp positive
    exact (keepsAlive_iff positive).mpr ⟨by omega, fits⟩

end Build

/-- At either end, a timeout above zero does what it should unless it is 1 or does not fit into 32 bits. -/
theorem keepAlive_beats_idle_iff (overflowChecks : Bool) (default : TransportConfig) (client : ClientConfig)
    (server : ServerConfig) :
    ((0 < client.quicTimeoutMs → KeepsAlive client.quicTimeoutMs (client.transport overflowChecks default)) ↔
      client.quicTimeoutMs ≠ 1 ∧ client.quicTimeoutMs.toNat < 2 ^ 32) ∧
    ((0 < server.quicTimeoutMs → KeepsAlive server.quicTimeoutMs (server.transport overflowChecks default)) ↔
      server.quicTimeoutMs ≠ 1 ∧ server.quicTimeoutMs.toNat < 2 ^ 32) :=
  ⟨keepsAlive_unless_zero_iff, keepsAlive_unless_zero_iff⟩

/-- `--quic-timeout-ms 1` is accepted, and the interval is zero then. With 2 ^ 32 the idle timeout is zero,
and with 2 ^ 63 a build with overflow checks panics. -/
theorem extreme_timeouts :
    (∃ config, create (fun _ => some .dnsName) 4 { defaultArgs with quicTimeoutMs := 1 } = .ok config ∧
      ∀ overflowChecks default, (config.transport overflowChecks default).map
        (fun built => (built.maxIdleTimeout, built.keepAliveInterval)) = some (some 1, some 0)) ∧
    (∃ config, create (fun _ => some .dnsName) 4 { defaultArgs with quicTimeoutMs := 4294967296 } = .ok config ∧
      ∀ overflowChecks default, (config.transport overflowChecks default).map
        (fun built => (built.maxIdleTimeout, built.keepAliveInterval)) = some (some 0, some 2863311530)) ∧
    (∃ config,
      create (fun _ => some .dnsName) 4 { defaultArgs with quicTimeoutMs := 9223372036854775808 } = .ok config ∧
      ∀ default, config.transport true default = none) := by
  refine ⟨⟨_, create_twoTunnels rfl rfl rfl, fun overflowChecks default => ?_⟩,
    ⟨_, create_twoTunnels rfl rfl rfl, fun overflowChecks default => ?_⟩,
    ⟨_, create_twoTunnels rfl rfl rfl, fun default => rfl⟩⟩
  · cases overflowChecks <;> rfl
  · cases overflowChecks <;> rfl

end Rstun.Config
