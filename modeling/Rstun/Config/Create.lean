import Mathlib.Data.List.Forall2
import Rstun.Config.Addr
import Rstun.Control.Message
import Rstun.Tunnel.Format

/-!
# The client's configuration

`ClientConfig::create` with the strings that it takes apart. What `rustls` thinks of a host name and the
number of processors are parameters.
-/

namespace Rstun.Config
open Rstun.Tunnel Rstun.Control Rstun.Http

inductive ServerName where
  | dnsName
  | ipAddress
  deriving DecidableEq

/-- What `create` is given. -/
structure ClientArgs where
  serverAddr : Text
  password : Text
  cert : Text
  tcpMappings : Text
  udpMappings : Text
  dot : Text
  dns : Text
  sni : Text
  workers : Nat
  waitBeforeRetryMs : UInt64
  quicTimeoutMs : UInt64
  tcpTimeoutMs : UInt64
  udpTimeoutMs : UInt64
  heartbeatIntervalMs : UInt64
  heartbeatTimeoutMs : UInt64
  hopIntervalMs : UInt64
  zstd : Bool
  http : Bool
  zstdLevel : Int32
  zstdWindowLog : UInt32
  zstdDict : Text
  zstdPairTtlSecs : UInt64
  zstdFlushIntervalMs : UInt64

structure ClientConfig where
  certPath : Text
  serverAddr : Text
  password : Text
  waitBeforeRetryMs : UInt64
  quicTimeoutMs : UInt64
  tcpTimeoutMs : UInt64
  udpTimeoutMs : UInt64
  heartbeatIntervalMs : UInt64
  heartbeatTimeoutMs : UInt64
  hopIntervalMs : UInt64
  tunnels : List TunnelConfig
  dotServers : List Text
  dnsServers : List Text
  workers : Nat
  quicReceiveWindow : UInt32
  streamReceiveWindow : UInt32
  quicSendWindow : UInt64
  sniNames : List Text
  zstd : Bool
  http : Bool
  zstdLevel : Int32
  zstdWindowLog : UInt32
  zstdDict : Text
  zstdPairTtlSecs : UInt64
  zstdFlushIntervalMs : UInt64

/-! ### The strings -/

def parseSniNames (serverName : Text → Option ServerName) (sni : Text) : Except String (List Text) :=
  (sni.splitOn ',').foldlM (fun names raw =>
    let name := trim raw
    if name = [] then .ok names
    else match serverName name with
      | some .dnsName => .ok (names ++ [name])
      | some .ipAddress =>
        .error ("custom SNI must be a DNS hostname, not an IP literal: " ++ String.ofList name)
      | none => .error ("invalid custom SNI hostname: " ++ String.ofList name)) []

def any : Text := "ANY".toList

def localhost : BitVec 32 := 0x7f000001#32

/-- The closure of `parse_addr_mappings`. -/
def parseAddr (addr : Text) : Except String (Option SocketAddr) :=
  if addr = any then .ok none
  else match parseU16 addr with
    | some port => .ok (some (.v4 localhost port))
    | none => match parseSocketAddr addr with
      | some addr => .ok (some addr)
      | none => .error ("Invalid address format '" ++ String.ofList addr ++ "', expected IP:PORT or PORT")

def parseMapping (upstreamType : UpstreamType) (mapping : Text) : Except String TunnelConfig :=
  match mapping.splitOn '^' with
  | [tunnelMode, localServerAddr, upstreamAddr] =>
    if tunnelMode ≠ "OUT".toList ∧ tunnelMode ≠ "IN".toList then .error "Invalid tunnel type, expected OUT or IN"
    else match parseAddr localServerAddr with
      | .error err => .error err
      | .ok none => .error "'ANY' is not allowed as local_server_addr"
      | .ok (some localServerAddr) => match parseAddr upstreamAddr with
        | .error err => .error err
        | .ok upstreamAddr =>
          .ok ⟨if tunnelMode = "IN".toList then .inbound else .outbound, some localServerAddr, upstreamAddr,
            upstreamType⟩
  | _ => .error "Invalid mapping format, expected TYPE^SRC^DEST"

def parseAddrMappings (mappings : Text) (upstreamType : UpstreamType) (v : List TunnelConfig) :
    Except String (List TunnelConfig) :=
  if mappings = [] then .ok v
  else (mappings.splitOn ',').foldlM
    (fun v mapping => (parseMapping upstreamType mapping).map fun config => v ++ [config]) v

/-! ### `create` -/

def saturatingDouble (n : UInt64) : UInt64 := if n.toNat * 2 < 2 ^ 64 then n * 2 else 0xffffffffffffffff

/-- The interval and the timeout. -/
def heartbeat (intervalMs timeoutMs : UInt64) : UInt64 × UInt64 :=
  if intervalMs = 0 ∧ timeoutMs = 0 then (5000, 15000)
  else if intervalMs = 0 ∨ timeoutMs = 0 then (0, 0)
  else if timeoutMs < intervalMs then (intervalMs, saturatingDouble intervalMs)
  else (intervalMs, timeoutMs)

def orDefault (value default : UInt64) : UInt64 := if value = 0 then default else value

def fullServerAddr (serverAddr : Text) : Text :=
  if ':' ∈ serverAddr then serverAddr else "127.0.0.1:".toList ++ serverAddr

/-- The configuration before the mappings are parsed. -/
def baseConfig (cpus : Nat) (args : ClientArgs) (sniNames : List Text) : ClientConfig where
  certPath := args.cert
  serverAddr := fullServerAddr args.serverAddr
  password := args.password
  waitBeforeRetryMs := args.waitBeforeRetryMs
  quicTimeoutMs := orDefault args.quicTimeoutMs 30000
  tcpTimeoutMs := orDefault args.tcpTimeoutMs 30000
  udpTimeoutMs := orDefault args.udpTimeoutMs 5000
  heartbeatIntervalMs := (heartbeat args.heartbeatIntervalMs args.heartbeatTimeoutMs).1
  heartbeatTimeoutMs := (heartbeat args.heartbeatIntervalMs args.heartbeatTimeoutMs).2
  hopIntervalMs := if args.hopIntervalMs ≠ 0 ∧ args.hopIntervalMs < 5000 then 5000 else args.hopIntervalMs
  tunnels := []
  dotServers := args.dot.splitOn ','
  dnsServers := args.dns.splitOn ','
  workers := if 0 < args.workers then args.workers else cpus
  quicReceiveWindow := 0
  streamReceiveWindow := 0
  quicSendWindow := 0
  sniNames := sniNames
  zstd := args.zstd
  http := args.http
  zstdLevel := args.zstdLevel
  zstdWindowLog := args.zstdWindowLog
  zstdDict := args.zstdDict
  zstdPairTtlSecs := orDefault args.zstdPairTtlSecs (5 * 3600)
  zstdFlushIntervalMs := orDefault args.zstdFlushIntervalMs 150

def create (serverName : Text → Option ServerName) (cpus : Nat) (args : ClientArgs) : Except String ClientConfig :=
  if args.tcpMappings = [] ∧ args.udpMappings = [] then
    .error "must specify either --tcp-mappings or --udp-mappings, or both"
  else do
    let sniNames ← parseSniNames serverName args.sni
    let tunnels ← parseAddrMappings args.tcpMappings .tcp []
    let tunnels ← parseAddrMappings args.udpMappings .udp tunnels
    return { baseConfig cpus args sniNames with tunnels }

/-! ### What a mapping says -/

/-- A port alone is one of the local host. -/
def Written (text : Text) (addr : SocketAddr) : Prop :=
  (∃ port, parseU16 text = some port ∧ addr = .v4 localhost port) ∨ parseSocketAddr text = some addr

theorem parseAddr_eq_none {text : Text} : parseAddr text = .ok none ↔ text = any := by
  unfold parseAddr
  split
  · simp_all
  · split
    · simp_all
    · split <;> simp_all

theorem written_ne_any {text : Text} {addr : SocketAddr} (written : Written text addr) : text ≠ any := by
  rintro rfl
  rcases written with ⟨port, parsed, _⟩ | parsed
  · exact absurd parsed (by rw [parseU16_eq_none (c := 'A') (by decide) (by decide)]; simp)
  · exact absurd (mem_of_parseSocketAddr parsed) (by decide)

theorem parseAddr_eq_some {text : Text} {addr : SocketAddr} : parseAddr text = .ok (some addr) ↔ Written text addr := by
  constructor
  · intro parsed
    unfold parseAddr at parsed
    split at parsed
    · cases parsed
    · split at parsed
      · rename_i port read
        cases parsed
        exact Or.inl ⟨port, read, rfl⟩
      · split at parsed
        · rename_i read
          cases parsed
          exact Or.inr read
        · cases parsed
  · intro written
    rw [parseAddr, if_neg (written_ne_any written)]
    rcases written with ⟨port, read, rfl⟩ | read
    · rw [read]
    · rw [parseU16_of_parseSocketAddr read, read]

/-- What the item of a mapping string has to look like, and the configuration that it stands for. -/
structure Describes (upstreamType : UpstreamType) (config : TunnelConfig)
    (tunnelMode localServerAddr upstreamAddr : Text) : Prop where
  mode : tunnelMode = "IN".toList ∧ config.mode = .inbound ∨ tunnelMode = "OUT".toList ∧ config.mode = .outbound
  localAddr : ∃ addr, config.localServerAddr = some addr ∧ Written localServerAddr addr
  upstream : upstreamAddr = any ∧ config.upstreamAddr = none ∨
    ∃ addr, config.upstreamAddr = some addr ∧ Written upstreamAddr addr
  kind : config.upstreamType = upstreamType

/-- It has exactly three fields. -/
def Item (upstreamType : UpstreamType) (mapping : Text) (config : TunnelConfig) : Prop :=
  ∃ tunnelMode localServerAddr upstreamAddr, mapping.splitOn '^' = [tunnelMode, localServerAddr, upstreamAddr] ∧
    Describes upstreamType config tunnelMode localServerAddr upstreamAddr

theorem parseAddr_eq_ok {text : Text} {addr : Option SocketAddr} :
    parseAddr text = .ok addr ↔ text = any ∧ addr = none ∨ ∃ given, addr = some given ∧ Written text given := by
  cases addr with
  | none => simp [parseAddr_eq_none]
  | some addr => simp [parseAddr_eq_some]

theorem parseMapping_eq_ok {upstreamType : UpstreamType} {mapping : Text} {config : TunnelConfig} :
    parseMapping upstreamType mapping = .ok config ↔ Item upstreamType mapping config := by
  constructor
  · intro parsed
    unfold parseMapping at parsed
    split at parsed
    · rename_i tunnelMode localServerAddr upstreamAddr fields
      split at parsed
      · cases parsed
      rename_i known
      split at parsed
      · cases parsed
      · cases parsed
      rename_i addr localRead
      split at parsed
      · cases parsed
      rename_i upstream upstreamRead
      cases parsed
      refine ⟨_, _, _, fields, ?_, ⟨addr, rfl, parseAddr_eq_some.mp localRead⟩, parseAddr_eq_ok.mp upstreamRead, rfl⟩
      by_cases inbound : tunnelMode = "IN".toList
      · exact Or.inl ⟨inbound, if_pos inbound⟩
      · rw [not_and_or, not_not, not_not] at known
        exact Or.inr ⟨known.resolve_right inbound, if_neg inbound⟩
    · cases parsed
  · rintro ⟨tunnelMode, localServerAddr, upstreamAddr, fields, mode, ⟨addr, localAddr, read⟩, upstream, kind⟩
    obtain ⟨configMode, _, configUpstream, _⟩ := config
    simp only at mode localAddr upstream kind
    subst localAddr kind
    unfold parseMapping
    rw [fields]
    simp only [parseAddr_eq_some.mpr read, parseAddr_eq_ok.mpr upstream]
    rcases mode with ⟨rfl, rfl⟩ | ⟨rfl, rfl⟩
    · rfl
    · rfl

/-- The items of a mapping string. -/
def items (mappings : Text) : List Text := if mappings = [] then [] else mappings.splitOn ','

theorem parseAddrMappings_eq_ok {mappings : Text} {upstreamType : UpstreamType} {v result : List TunnelConfig} :
    parseAddrMappings mappings upstreamType v = .ok result ↔
      ∃ configs, result = v ++ configs ∧ List.Forall₂ (Item upstreamType) (items mappings) configs := by
  unfold parseAddrMappings items
  split
  · simp [eq_comm]
  · generalize mappings.splitOn ',' = texts
    induction texts generalizing v with
    | nil => simp [eq_comm, pure, Except.pure]
    | cons text texts ih =>
      rw [List.foldlM_cons]
      cases parsed : parseMapping upstreamType text with
      | error err =>
        refine iff_of_false (by rintro ⟨⟩) ?_
        rintro ⟨_, _, _ | ⟨item, _⟩⟩
        cases parsed.symm.trans (parseMapping_eq_ok.mpr item)
      | ok config =>
        show texts.foldlM _ (v ++ [config]) = _ ↔ _
        rw [ih]
        constructor
        · rintro ⟨configs, rfl, all⟩
          exact ⟨config :: configs, by simp, .cons (parseMapping_eq_ok.mp parsed) all⟩
        · rintro ⟨_, rfl, _ | @⟨_, other, _, configs, item, all⟩⟩
          obtain rfl : config = other := Except.ok.inj (parsed.symm.trans (parseMapping_eq_ok.mpr item))
          exact ⟨configs, by simp, all⟩

/-! ### Writing mappings -/

def modeText : TunnelMode → Text
  | .inbound => "IN".toList
  | .outbound => "OUT".toList

section Render
variable (display : SocketAddr → Text)

def renderAddr (addr : Option SocketAddr) : Text := (addr.map display).getD any

def render (config : TunnelConfig) : Text :=
  modeText config.mode ++ '^' :: (renderAddr display config.localServerAddr ++ '^' ::
    renderAddr display config.upstreamAddr)

def renderAll (configs : List TunnelConfig) : Text := [','].intercalate (configs.map (render display))

/-- The address is displayed in such a way that it is read again. -/
def Shows (addr : SocketAddr) : Prop :=
  Written (display addr) addr ∧ ',' ∉ display addr ∧ '^' ∉ display addr

structure Renders (upstreamType : UpstreamType) (config : TunnelConfig) : Prop where
  kind : config.upstreamType = upstreamType
  localAddr : ∃ addr, config.localServerAddr = some addr
  shows : ∀ addr, config.localServerAddr = some addr ∨ config.upstreamAddr = some addr → Shows display addr

variable {display} {upstreamType : UpstreamType} {config : TunnelConfig}

theorem modeText_plain (mode : TunnelMode) : ',' ∉ modeText mode ∧ '^' ∉ modeText mode := by
  cases mode <;> decide

theorem renderAddr_plain {addr : Option SocketAddr} (shows : ∀ given ∈ addr, Shows display given) :
    ',' ∉ renderAddr display addr ∧ '^' ∉ renderAddr display addr := by
  cases addr with
  | none =>
    show ',' ∉ any ∧ '^' ∉ any
    decide
  | some given => exact (shows given rfl).2

namespace Renders

theorem localPlain (renders : Renders display upstreamType config) :
    ',' ∉ renderAddr display config.localServerAddr ∧ '^' ∉ renderAddr display config.localServerAddr :=
  renderAddr_plain fun given same => renders.shows given (Or.inl same)

theorem upstreamPlain (renders : Renders display upstreamType config) :
    ',' ∉ renderAddr display config.upstreamAddr ∧ '^' ∉ renderAddr display config.upstreamAddr :=
  renderAddr_plain fun given same => renders.shows given (Or.inr same)

theorem fields (renders : Renders display upstreamType config) :
    (render display config).splitOn '^' =
      [modeText config.mode, renderAddr display config.localServerAddr, renderAddr display config.upstreamAddr] := by
  have joined : render display config = ['^'].intercalate
      [modeText config.mode, renderAddr display config.localServerAddr, renderAddr display config.upstreamAddr] := by
    simp [render, List.intercalate]
  rw [joined]
  apply List.splitOn_intercalate _ _ (by simp)
  intro field member
  simp only [List.mem_cons, List.not_mem_nil, or_false] at member
  rcases member with rfl | rfl | rfl
  · exact (modeText_plain config.mode).2
  · exact renders.localPlain.2
  · exact renders.upstreamPlain.2

theorem item (renders : Renders display upstreamType config) : Item upstreamType (render display config) config := by
  refine ⟨_, _, _, renders.fields, ?_, ?_, ?_, renders.kind⟩
  · cases config.mode with
    | inbound => exact Or.inl ⟨rfl, rfl⟩
    | outbound => exact Or.inr ⟨rfl, rfl⟩
  · obtain ⟨addr, present⟩ := renders.localAddr
    refine ⟨addr, present, ?_⟩
    rw [present]
    exact (renders.shows addr (Or.inl present)).1
  · cases present : config.upstreamAddr with
    | none => exact Or.inl ⟨rfl, rfl⟩
    | some addr => exact Or.inr ⟨addr, rfl, (renders.shows addr (Or.inr present)).1⟩

theorem plain (renders : Renders display upstreamType config) : ',' ∉ render display config := by
  have mode := (modeText_plain config.mode).1
  have localAddr := renders.localPlain.1
  have upstream := renders.upstreamPlain.1
  simp [render, mode, localAddr, upstream]

end Renders

theorem items_renderAll {configs : List TunnelConfig}
    (renders : ∀ config ∈ configs, Renders display upstreamType config) :
    items (renderAll display configs) = configs.map (render display) := by
  cases configs with
  | nil => rfl
  | cons config configs =>
    have split : (renderAll display (config :: configs)).splitOn ',' = (config :: configs).map (render display) := by
      apply List.splitOn_intercalate _ _ (by simp)
      intro text member
      obtain ⟨other, present, rfl⟩ := List.mem_map.mp member
      exact (renders other present).plain
    have nonempty : renderAll display (config :: configs) ≠ [] := by
      intro empty
      rw [empty, List.map_cons] at split
      have first : [] = render display config := (List.cons.inj split).1
      exact absurd (congrArg ('^' ∈ ·) first) (by simp [render])
    rw [items, if_neg nonempty, split]

theorem eq_nil_of_renderAll {configs : List TunnelConfig}
    (renders : ∀ config ∈ configs, Renders display upstreamType config) (empty : renderAll display configs = []) :
    configs = [] := by
  have all := items_renderAll renders
  rw [empty] at all
  exact List.map_eq_nil_iff.mp all.symm

theorem parseAddrMappings_renderAll {configs : List TunnelConfig}
    (renders : ∀ config ∈ configs, Renders display upstreamType config) (v : List TunnelConfig) :
    parseAddrMappings (renderAll display configs) upstreamType v = .ok (v ++ configs) := by
  rw [parseAddrMappings_eq_ok, items_renderAll renders]
  refine ⟨configs, rfl, ?_⟩
  rw [List.forall₂_map_left_iff, List.forall₂_same]
  exact fun config member => (renders config member).item

end Render

/-! ### Both ways -/

theorem create_eq_ok {serverName : Text → Option ServerName} {cpus : Nat} {args : ClientArgs} {config : ClientConfig}
    (created : create serverName cpus args = .ok config) :
    ∃ sniNames tcp udp, config = { baseConfig cpus args sniNames with tunnels := tcp ++ udp } ∧
      List.Forall₂ (Item .tcp) (items args.tcpMappings) tcp ∧
      List.Forall₂ (Item .udp) (items args.udpMappings) udp := by
  unfold create at created
  split at created
  · cases created
  obtain ⟨sniNames, _, created⟩ := bind_eq_ok created
  obtain ⟨tunnels, tcpRead, created⟩ := bind_eq_ok created
  obtain ⟨all, udpRead, created⟩ := bind_eq_ok created
  cases created
  obtain ⟨tcp, rfl, tcpItems⟩ := parseAddrMappings_eq_ok.mp tcpRead
  obtain ⟨udp, rfl, udpItems⟩ := parseAddrMappings_eq_ok.mp udpRead
  exact ⟨sniNames, _, udp, rfl, tcpItems, udpItems⟩

/-- The settings of a configuration are within their ranges. -/
structure Sane (config : ClientConfig) : Prop where
  timeouts : config.quicTimeoutMs ≠ 0 ∧ config.tcpTimeoutMs ≠ 0 ∧ config.udpTimeoutMs ≠ 0
  heartbeat : config.heartbeatIntervalMs = 0 ∧ config.heartbeatTimeoutMs = 0 ∨
    0 < config.heartbeatIntervalMs ∧ config.heartbeatIntervalMs ≤ config.heartbeatTimeoutMs
  hop : config.hopIntervalMs = 0 ∨ 5000 ≤ config.hopIntervalMs
  zstd : config.zstdPairTtlSecs ≠ 0 ∧ config.zstdFlushIntervalMs ≠ 0
  serverAddr : ':' ∈ config.serverAddr

theorem orDefault_ne_zero (value : UInt64) {default : UInt64} (nonzero : default ≠ 0) :
    orDefault value default ≠ 0 := by
  unfold orDefault
  split
  · exact nonzero
  · assumption

theorem le_saturatingDouble (n : UInt64) : n ≤ saturatingDouble n := by
  have range := n.toNat_lt
  unfold saturatingDouble
  split <;> rw [UInt64.le_iff_toNat_le]
  · rw [UInt64.toNat_mul]
    show n.toNat ≤ n.toNat * 2 % 2 ^ 64
    omega
  · show n.toNat ≤ 18446744073709551615
    omega

theorem heartbeat_ordered (intervalMs timeoutMs : UInt64) :
    (heartbeat intervalMs timeoutMs).1 = 0 ∧ (heartbeat intervalMs timeoutMs).2 = 0 ∨
      0 < (heartbeat intervalMs timeoutMs).1 ∧
        (heartbeat intervalMs timeoutMs).1 ≤ (heartbeat intervalMs timeoutMs).2 := by
  unfold heartbeat
  split
  · exact Or.inr ⟨by decide, by decide⟩
  split
  · exact Or.inl ⟨rfl, rfl⟩
  rename_i some
  have positive : 0 < intervalMs := UInt64.pos_iff_ne_zero.mpr fun zero => some (Or.inl zero)
  split
  · exact Or.inr ⟨positive, le_saturatingDouble intervalMs⟩
  · rename_i ordered
    exact Or.inr ⟨positive, UInt64.not_lt.mp ordered⟩

theorem create_sane {serverName : Text → Option ServerName} {cpus : Nat} {args : ClientArgs} {config : ClientConfig}
    (created : create serverName cpus args = .ok config) : Sane config := by
  obtain ⟨sniNames, tcp, udp, rfl, _⟩ := create_eq_ok created
  constructor
  · exact ⟨orDefault_ne_zero _ (by decide), orDefault_ne_zero _ (by decide), orDefault_ne_zero _ (by decide)⟩
  · exact heartbeat_ordered args.heartbeatIntervalMs args.heartbeatTimeoutMs
  · show (if _ then _ else _) = (0 : UInt64) ∨ (5000 : UInt64) ≤ if _ then _ else _
    split
    · exact Or.inr (by decide)
    · rename_i free
      rw [not_and_or, not_not, UInt64.not_lt] at free
      exact free
  · exact ⟨orDefault_ne_zero _ (by decide), orDefault_ne_zero _ (by decide)⟩
  · show ':' ∈ fullServerAddr args.serverAddr
    unfold fullServerAddr
    split
    · assumption
    · simp

theorem create_renderAll {serverName : Text → Option ServerName} {cpus : Nat} {args : ClientArgs}
    {display : SocketAddr → Text} {tcp udp : List TunnelConfig} (nonempty : tcp ≠ [] ∨ udp ≠ [])
    (tcpRenders : ∀ config ∈ tcp, Renders display .tcp config)
    (udpRenders : ∀ config ∈ udp, Renders display .udp config)
    (tcpText : args.tcpMappings = renderAll display tcp) (udpText : args.udpMappings = renderAll display udp) :
    create serverName cpus args = (parseSniNames serverName args.sni).map fun sniNames =>
      { baseConfig cpus args sniNames with tunnels := tcp ++ udp } := by
  have given : ¬ (args.tcpMappings = [] ∧ args.udpMappings = []) := by
    rintro ⟨tcpEmpty, udpEmpty⟩
    rcases nonempty with tcpGiven | udpGiven
    · exact tcpGiven (eq_nil_of_renderAll tcpRenders (tcpText.symm.trans tcpEmpty))
    · exact udpGiven (eq_nil_of_renderAll udpRenders (udpText.symm.trans udpEmpty))
  rw [create, if_neg given, tcpText, udpText]
  cases parseSniNames serverName args.sni with
  | error err => rfl
  | ok sniNames =>
    show (parseAddrMappings _ _ _ >>= _ : Except String ClientConfig) = _
    rw [parseAddrMappings_renderAll tcpRenders [], List.nil_append]
    show (parseAddrMappings _ _ _ >>= _ : Except String ClientConfig) = _
    rw [parseAddrMappings_renderAll udpRenders tcp]
    rfl

/-- Tunnels that are written as mappings come back in their order, whatever else is configured. What is
accepted is made of such items, one for each tunnel. -/
theorem mappings_correspond (serverName : Text → Option ServerName) (cpus : Nat) (args : ClientArgs) :
    (∀ display tcp udp, (tcp ≠ [] ∨ udp ≠ []) → (∀ config ∈ tcp, Renders display .tcp config) →
      (∀ config ∈ udp, Renders display .udp config) → args.tcpMappings = renderAll display tcp →
      args.udpMappings = renderAll display udp →
      (create serverName cpus args).map ClientConfig.tunnels =
        (parseSniNames serverName args.sni).map fun _ => tcp ++ udp) ∧
    (∀ config, create serverName cpus args = .ok config →
      ∃ tcp udp, config.tunnels = tcp ++ udp ∧ List.Forall₂ (Item .tcp) (items args.tcpMappings) tcp ∧
        List.Forall₂ (Item .udp) (items args.udpMappings) udp) := by
  refine ⟨fun display tcp udp nonempty tcpRenders udpRenders tcpText udpText => ?_, fun config created => ?_⟩
  · rw [create_renderAll nonempty tcpRenders udpRenders tcpText udpText]
    cases parseSniNames serverName args.sni <;> rfl
  · obtain ⟨_, tcp, udp, rfl, tcpItems, udpItems⟩ := create_eq_ok created
    exact ⟨tcp, udp, rfl, tcpItems, udpItems⟩

/-- An IPv6 address has all its groups here. -/
def displayed : SocketAddr → Text
  | .v4 ip port =>
    ['.'].intercalate ((BigEndian.beBytes 4 ip.toNat).map fun octet => Nat.toDigits 10 octet.toNat) ++
      ':' :: Nat.toDigits 10 port.toNat
  | .v6 ip port _ _ =>
    '[' :: [':'].intercalate ((List.range 8).map fun i => Nat.toDigits 16 (ip.toNat / 65536 ^ (7 - i) % 65536)) ++
      ']' :: ':' :: Nat.toDigits 10 port.toNat

def twoTunnels : List TunnelConfig :=
  [⟨.outbound, some (.v4 localhost 8080), none, .tcp⟩,
    ⟨.inbound, some (.v4 0x0a000001#32 90), some (.v6 1#128 443 0 0), .tcp⟩]

def defaultArgs : ClientArgs where
  serverAddr := "3515".toList
  password := "123456".toList
  cert := []
  tcpMappings := renderAll displayed twoTunnels
  udpMappings := []
  dot := []
  dns := []
  sni := []
  workers := 0
  waitBeforeRetryMs := 5000
  quicTimeoutMs := 30000
  tcpTimeoutMs := 30000
  udpTimeoutMs := 5000
  heartbeatIntervalMs := 5000
  heartbeatTimeoutMs := 15000
  hopIntervalMs := 0
  zstd := false
  http := false
  zstdLevel := 9
  zstdWindowLog := 24
  zstdDict := []
  zstdPairTtlSecs := 0
  zstdFlushIntervalMs := 0

theorem shows_twoTunnels : Shows displayed (.v4 localhost 8080) ∧ Shows displayed (.v4 0x0a000001#32 90) ∧
    Shows displayed (.v6 1#128 443 0 0) :=
  ⟨⟨Or.inr (by decide +kernel), by decide +kernel⟩, ⟨Or.inr (by decide +kernel), by decide +kernel⟩,
    Or.inr (by decide +kernel), by decide +kernel⟩

theorem renders_twoTunnels : ∀ config ∈ twoTunnels, Renders displayed .tcp config := by
  obtain ⟨first, second, third⟩ := shows_twoTunnels
  intro config member
  simp only [twoTunnels, List.mem_cons, List.not_mem_nil, or_false] at member
  rcases member with rfl | rfl
  · refine ⟨rfl, ⟨_, rfl⟩, ?_⟩
    rintro addr (same | same)
    · exact Option.some.inj same ▸ first
    · cases same
  · refine ⟨rfl, ⟨_, rfl⟩, ?_⟩
    rintro addr (same | same)
    · exact Option.some.inj same ▸ second
    · exact Option.some.inj same ▸ third

theorem mappings_correspond_twoTunnels :
    (create (fun _ => some .dnsName) 4 defaultArgs).map ClientConfig.tunnels = .ok twoTunnels ∧
      ∃ config, create (fun _ => some .dnsName) 4 defaultArgs = .ok config ∧
        ∃ tcp udp, config.tunnels = tcp ++ udp ∧ List.Forall₂ (Item .tcp) (items defaultArgs.tcpMappings) tcp ∧
          List.Forall₂ (Item .udp) (items defaultArgs.udpMappings) udp := by
  obtain ⟨forth, back⟩ := mappings_correspond (fun _ => some .dnsName) 4 defaultArgs
  have tunnels := forth displayed twoTunnels [] (Or.inl (by simp [twoTunnels])) renders_twoTunnels (by simp) rfl rfl
  refine ⟨tunnels, ?_⟩
  cases created : create (fun _ => some .dnsName) 4 defaultArgs with
  | error err =>
    rw [created] at tunnels
    cases tunnels
  | ok config => exact ⟨config, rfl, back config created⟩

theorem create_twoTunnels {args : ClientArgs} (tcpText : args.tcpMappings = renderAll displayed twoTunnels)
    (udpText : args.udpMappings = []) (sni : args.sni = []) :
    create (fun _ => some .dnsName) 4 args = .ok { baseConfig 4 args [] with tunnels := twoTunnels } := by
  have nonempty : twoTunnels ≠ [] ∨ ([] : List TunnelConfig) ≠ [] := Or.inl (by simp [twoTunnels])
  rw [create_renderAll nonempty renders_twoTunnels (by simp) tcpText udpText, sni]
  rfl

end Rstun.Config
