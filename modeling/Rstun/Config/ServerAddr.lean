import Rstun.Config.Create

/-!
# The server's address

The string is looked at three times: `create` completes it, `parse_server_addr` says where to connect to,
and `parse_client_config_and_domain` says which name the certificate has to have.
-/

namespace Rstun.Config
open Parsing Rstun.Tunnel

def defaultServerPort : UInt16 := 3515

/-- The index of the last one. -/
def rfind (target : Char) : Text → Option Nat
  | [] => none
  | c :: text =>
    match rfind target text with
    | some pos => some (pos + 1)
    | none => if c = target then some 0 else none

/-! ### `parse_server_addr` -/

/-- `lookup_server_ip`, from the domain, the DoT server and the name servers. -/
abbrev Lookup := Text → Text → List Text → Except String IpAddr

def lookupAll (lookupServerIp : Lookup) (config : ClientConfig) (domain : Text) : Option IpAddr :=
  config.dotServers.findSome? (fun dot => (lookupServerIp domain dot []).toOption) <|>
    (lookupServerIp domain [] config.dnsServers).toOption <|> (lookupServerIp domain [] []).toOption

def domainAndPort (addr : Text) : Except String (Text × UInt16) :=
  match rfind ':' addr with
  | some pos => match parseU16 (addr.drop (pos + 1)) with
    | some port => .ok (addr.take pos, port)
    | none => .error ("invalid address: " ++ String.ofList addr)
  | none => .ok (addr, defaultServerPort)

def parseServerAddr (lookupServerIp : Lookup) (config : ClientConfig) : Except String SocketAddr :=
  match parseSocketAddr config.serverAddr with
  | some sockAddr => .ok sockAddr
  | none => do
    let (domain, port) ← domainAndPort config.serverAddr
    match lookupAll lookupServerIp config domain with
    | some ip => .ok (ip.socketAddr port)
    | none => .error ("failed to resolve domain: " ++ String.ofList domain)

/-! ### `parse_client_config_and_domain` -/

inductive Verifier where
  | platform
  | insecure
  | roots
  | customSni (inner : Verifier) (realName : Text)
  deriving DecidableEq

/-- What `rustls`, the platform and the file system answer. A certificate is known by its number. -/
structure TlsEnv where
  platformVerifier : Except String Unit
  loadCertificatesFromPem : Text → Except String (List Nat)
  addRoot : Nat → Except String Unit
  buildVerifier : Except String Unit
  serverName : Text → Option ServerName

def beforeColon (addr : Text) : Text :=
  match rfind ':' addr with
  | some colonIndex => addr.take colonIndex
  | none => addr

def isIpAddr (addr : Text) : Bool := (parseSocketAddr addr).isSome

namespace TlsEnv
variable (env : TlsEnv)

def wrapWithCustomSniVerifier (inner : Verifier) (verifyName : Text) : Except String Verifier :=
  match env.serverName verifyName with
  | some _ => .ok (.customSni inner verifyName)
  | none => .error ("invalid server name for verification: " ++ String.ofList verifyName)

def platformConfig (sniNames : List Text) (domain : Text) : Except String Verifier := do
  env.platformVerifier
  if sniNames = [] then return .platform else env.wrapWithCustomSniVerifier .platform domain

def rootsConfig (certPath : Text) (sniNames : List Text) (domainOrIp : Text) : Except String Verifier := do
  let certs ← (env.loadCertificatesFromPem certPath).mapError fun _ => "failed to read from cert file"
  if certs = [] then .error ("No certificates found in provided file: " ++ String.ofList certPath)
  else do
    certs.forM fun cert =>
      (env.addRoot cert).mapError fun _ => "failed to add certificate from file: " ++ String.ofList certPath
    if sniNames = [] then return .roots
    else do
      env.buildVerifier.mapError fun _ => "failed to build certificate verifier"
      env.wrapWithCustomSniVerifier .roots domainOrIp

def parseClientConfigAndDomain (config : ClientConfig) : Except String (Verifier × Text) :=
  if config.certPath = [] then
    if !isIpAddr config.serverAddr then do
      let domain := beforeColon config.serverAddr
      return (← env.platformConfig config.sniNames domain, domain)
    else .ok (.insecure, "localhost".toList)
  else do
    let domainOrIp := beforeColon config.serverAddr
    return (← env.rootsConfig config.certPath config.sniNames domainOrIp, domainOrIp)

end TlsEnv

def selectSniName (config : ClientConfig) (rotation : Nat) (verifyName : Text) : Text :=
  if config.sniNames = [] then verifyName
  else config.sniNames.getD (rotation % config.sniNames.length) []

/-- The name that the certificate is checked for. `sniName` is that of the connection. -/
def verifiedName (sniName : Text) : Verifier → Option Text
  | .platform | .roots => some sniName
  | .insecure => none
  | .customSni _ realName => some realName

/-! ### The documented forms -/

/-- A host name. It is neither an address nor a port. -/
structure IsDomain (name : Text) : Prop where
  colon : ':' ∉ name
  bracket : '[' ∉ name
  notAddr : parseIpv4Addr name = none
  notPort : parseU16 name = none

inductive Host where
  | domain (name : Text) (valid : IsDomain name)
  | ipv4 (text : Text) (ip : BitVec 32) (valid : parseIpv4Addr text = some ip)
  | ipv6 (text : Text) (ip : BitVec 128) (valid : parseIpv6Addr text = some ip)

/-- An IPv6 address without a port may also stand without brackets. -/
inductive ServerAddrArg where
  | barePort (port : PortText)
  | host (host : Host) (port : Option PortText)
  | bareIpv6 (text : Text) (ip : BitVec 128) (valid : parseIpv6Addr text = some ip)

def Host.text : Host → Text
  | domain name _ => name
  | ipv4 text _ _ => text
  | ipv6 text _ _ => '[' :: (text ++ [']'])

def Host.ip (resolve : Text → IpAddr) : Host → IpAddr
  | domain name _ => resolve name
  | ipv4 _ ip _ => .v4 ip
  | ipv6 _ ip _ => .v6 ip

namespace ServerAddrArg

def text : ServerAddrArg → Text
  | barePort port => port.digits
  | host given none => given.text
  | host given (some port) => given.text ++ ':' :: port.digits
  | bareIpv6 text _ _ => text

/-- Where the client should connect to. -/
def means (resolve : Text → IpAddr) : ServerAddrArg → SocketAddr
  | barePort port => .v4 localhost port.value
  | host given port => (given.ip resolve).socketAddr ((port.map PortText.value).getD defaultServerPort)
  | bareIpv6 _ ip _ => .v6 ip defaultServerPort 0 0

def domain? : ServerAddrArg → Option Text
  | host (.domain name _) _ => some name
  | _ => none

def hasPort : ServerAddrArg → Bool
  | barePort _ => true
  | host _ port => port.isSome
  | bareIpv6 _ _ _ => false

end ServerAddrArg

structure Right (config : ClientConfig) (arg : ServerAddrArg) : Prop where
  contacts : ∀ resolve, parseServerAddr (fun domain _ _ => .ok (resolve domain)) config = .ok (arg.means resolve)
  verifies : ∀ name, arg.domain? = some name → ∀ (env : TlsEnv) rotation verifier verifyName,
    env.parseClientConfigAndDomain config = .ok (verifier, verifyName) →
      verifiedName (selectSniName config rotation verifyName) verifier = some name

/-! ### The string is completed -/

theorem rfind_eq_none {target : Char} {text : Text} (absent : target ∉ text) : rfind target text = none := by
  induction text with
  | nil => rfl
  | cons c text ih =>
    rw [List.mem_cons, not_or] at absent
    rw [rfind, ih absent.2]
    exact if_neg (Ne.symm absent.1)

theorem rfind_append {target : Char} {after : Text} (absent : target ∉ after) (before : Text) :
    rfind target (before ++ target :: after) = some before.length := by
  induction before with
  | nil =>
    rw [List.nil_append, rfind, rfind_eq_none absent]
    exact if_pos rfl
  | cons c before ih =>
    rw [List.cons_append, rfind, ih]
    rfl

theorem fullServerAddr_append (before after : Text) :
    fullServerAddr (before ++ ':' :: after) = before ++ ':' :: after :=
  if_pos (by simp)

theorem fullServerAddr_plain {text : Text} (colon : ':' ∉ text) :
    fullServerAddr text = "127.0.0.1".toList ++ ':' :: text :=
  if_neg colon

theorem create_serverAddr {serverName : Text → Option ServerName} {cpus : Nat} {args : ClientArgs}
    {config : ClientConfig} (created : create serverName cpus args = .ok config) :
    config.serverAddr = fullServerAddr args.serverAddr := by
  obtain ⟨_, _, _, rfl, _⟩ := create_eq_ok created
  rfl

theorem PortText.not_mem (port : PortText) {c : Char} (other : c.isDigit = false) : c ∉ port.digits := by
  intro member
  rw [port.decimal c member] at other
  cases other

/-! ### With a port -/

section Right
variable {config : ClientConfig}

theorem lookupAll_ok (resolve : Text → IpAddr) (domain : Text) :
    lookupAll (fun domain _ _ => .ok (resolve domain)) config domain = some (resolve domain) := by
  unfold lookupAll
  cases config.dotServers <;> rfl

theorem parseServerAddr_literal {addr : SocketAddr} (literal : parseSocketAddr config.serverAddr = some addr)
    (lookupServerIp : Lookup) : parseServerAddr lookupServerIp config = .ok addr := by
  rw [parseServerAddr, literal]

theorem parseServerAddr_append {before after : Text} (addr : config.serverAddr = before ++ ':' :: after)
    (named : parseSocketAddr config.serverAddr = none) (colon : ':' ∉ after) (resolve : Text → IpAddr) :
    parseServerAddr (fun domain _ _ => .ok (resolve domain)) config =
      match parseU16 after with
      | some port => .ok ((resolve before).socketAddr port)
      | none => .error ("invalid address: " ++ String.ofList config.serverAddr) := by
  have behind : (before ++ ':' :: after).drop (before.length + 1) = after := by simp
  rw [parseServerAddr, named, domainAndPort, addr, rfind_append colon]
  simp only [behind, List.take_left']
  cases parseU16 after with
  | none => rfl
  | some port =>
    show (match lookupAll _ config before with | some _ => _ | none => _) = _
    rw [lookupAll_ok]

/-- The certificate is checked for `name`, by way of the connection's name or past it. -/
def Checks (sniNames : List Text) (name : Text) (verifier : Verifier) : Prop :=
  sniNames = [] ∧ (verifier = .platform ∨ verifier = .roots) ∨ ∃ inner, verifier = .customSni inner name

theorem wrapWithCustomSniVerifier_checks {env : TlsEnv} {inner verifier : Verifier} {name : Text} (sniNames : List Text)
    (wrapped : env.wrapWithCustomSniVerifier inner name = .ok verifier) : Checks sniNames name verifier := by
  unfold TlsEnv.wrapWithCustomSniVerifier at wrapped
  split at wrapped
  · cases wrapped
    exact Or.inr ⟨inner, rfl⟩
  · cases wrapped

theorem platformConfig_checks {env : TlsEnv} {sniNames : List Text} {name : Text} {verifier : Verifier}
    (made : env.platformConfig sniNames name = .ok verifier) : Checks sniNames name verifier := by
  obtain ⟨_, _, made⟩ := bind_eq_ok made
  split at made
  · rename_i empty
    cases made
    exact Or.inl ⟨empty, Or.inl rfl⟩
  · exact wrapWithCustomSniVerifier_checks sniNames made

theorem rootsConfig_checks {env : TlsEnv} {certPath : Text} {sniNames : List Text} {name : Text} {verifier : Verifier}
    (made : env.rootsConfig certPath sniNames name = .ok verifier) : Checks sniNames name verifier := by
  obtain ⟨certs, _, made⟩ := bind_eq_ok made
  split at made
  · cases made
  obtain ⟨_, _, made⟩ := bind_eq_ok made
  split at made
  · rename_i empty
    cases made
    exact Or.inl ⟨empty, Or.inr rfl⟩
  · obtain ⟨_, _, made⟩ := bind_eq_ok made
    exact wrapWithCustomSniVerifier_checks sniNames made

theorem Checks.verifiedName {verifier : Verifier} {name : Text} (checks : Checks config.sniNames name verifier)
    (rotation : Nat) : verifiedName (selectSniName config rotation name) verifier = some name := by
  rcases checks with ⟨empty, rfl | rfl⟩ | ⟨inner, rfl⟩
  · rw [selectSniName, if_pos empty]
    rfl
  · rw [selectSniName, if_pos empty]
    rfl
  · rfl

/-- What stands before the last colon is the name that is checked, unless the whole is an address. -/
theorem verifiedName_beforeColon {env : TlsEnv} {verifier : Verifier} {verifyName : Text} (rotation : Nat)
    (named : isIpAddr config.serverAddr = false)
    (parsed : env.parseClientConfigAndDomain config = .ok (verifier, verifyName)) :
    verifiedName (selectSniName config rotation verifyName) verifier = some (beforeColon config.serverAddr) := by
  unfold TlsEnv.parseClientConfigAndDomain at parsed
  rw [named] at parsed
  split at parsed
  · obtain ⟨_, made, same⟩ := bind_eq_ok parsed
    cases same
    exact (platformConfig_checks made).verifiedName rotation
  · obtain ⟨_, made, same⟩ := bind_eq_ok parsed
    cases same
    exact (rootsConfig_checks made).verifiedName rotation

theorem right_literal {arg : ServerAddrArg} {addr : SocketAddr}
    (literal : parseSocketAddr config.serverAddr = some addr) (means : ∀ resolve, arg.means resolve = addr)
    (unnamed : arg.domain? = none) : Right config arg where
  contacts resolve := by rw [parseServerAddr_literal literal, means]
  verifies name same := by rw [unnamed] at same; cases same

theorem right_domain {name : Text} (valid : IsDomain name) (port : PortText)
    (addr : config.serverAddr = name ++ ':' :: port.digits) :
    Right config (.host (.domain name valid) (some port)) := by
  have named : parseSocketAddr config.serverAddr = none := by
    rw [addr, Option.eq_none_iff_forall_ne_some]
    intro sockAddr parsed
    obtain ⟨ip, _, found, _⟩ := (parseSocketAddr_append valid.colon valid.bracket).mp parsed
    rw [valid.notAddr] at found
    cases found
  have colon : ':' ∉ port.digits := port.not_mem (by decide)
  constructor
  · intro resolve
    rw [parseServerAddr_append addr named colon, parseU16_digits]
    rfl
  · rintro _ ⟨⟩ env rotation verifier verifyName parsed
    rw [verifiedName_beforeColon rotation (by rw [isIpAddr, named]; rfl) parsed]
    rw [beforeColon, addr, rfind_append colon]
    simp

theorem right_of_hasPort {arg : ServerAddrArg} (addr : config.serverAddr = fullServerAddr arg.text)
    (hasPort : arg.hasPort = true) : Right config arg := by
  rcases arg with port | ⟨host, _ | port⟩ | ⟨text, ip, valid⟩
  · rw [ServerAddrArg.text, fullServerAddr_plain (port.not_mem (by decide))] at addr
    exact right_literal (addr ▸ parseSocketAddr_ipv4 (by decide +kernel) port) (fun _ => rfl) rfl
  · cases hasPort
  · rw [ServerAddrArg.text, fullServerAddr_append] at addr
    cases host with
    | domain name valid => exact right_domain valid port addr
    | ipv4 text ip valid => exact right_literal (addr ▸ parseSocketAddr_ipv4 valid port) (fun _ => rfl) rfl
    | ipv6 text ip valid =>
      have literal : parseSocketAddr config.serverAddr = some (.v6 ip port.value 0 0) := by
        rw [addr, Host.text, List.cons_append, List.append_assoc, List.singleton_append, parseSocketAddr_bracket valid,
          parseWith_eq_some.mpr (readPort_eq_some.mpr ⟨port, rfl, rfl⟩)]
        rfl
      exact right_literal literal (fun _ => rfl) rfl
  · cases hasPort

/-! ### Without a port -/

/-- What has no colon is taken for a port of the local host. -/
theorem not_right_plain {text : Text} {arg : ServerAddrArg} (addr : config.serverAddr = fullServerAddr text)
    (colon : ':' ∉ text) (notPort : parseU16 text = none) : ¬ Right config arg := by
  intro right
  rw [fullServerAddr_plain colon] at addr
  have named : parseSocketAddr config.serverAddr = none := by
    rw [addr, Option.eq_none_iff_forall_ne_some]
    intro sockAddr parsed
    obtain ⟨_, _, _, read, _⟩ := (parseSocketAddr_append (by decide) (by decide)).mp parsed
    rw [parseU16_of_readPort read] at notPort
    cases notPort
  have contacts := right.contacts fun _ => .v4 0
  rw [parseServerAddr_append addr named colon, notPort] at contacts
  cases contacts

theorem literal_of_v6 {ip : BitVec 128} {port : UInt16}
    (contacts : parseServerAddr (fun _ _ _ => .ok (.v4 0)) config = .ok (.v6 ip port 0 0)) :
    parseSocketAddr config.serverAddr = some (.v6 ip port 0 0) := by
  rw [parseServerAddr] at contacts
  split at contacts
  · rename_i addr literal
    rw [literal, Except.ok.inj contacts]
  · obtain ⟨⟨domain, other⟩, _, contacts⟩ := bind_eq_ok contacts
    dsimp only at contacts
    rw [lookupAll_ok fun _ => .v4 0] at contacts
    cases contacts

/-- Only brackets lead to an IPv6 address that was not looked up. -/
theorem not_right_ipv6 {text : Text} {arg : ServerAddrArg} {ip : BitVec 128} {port : UInt16}
    (addr : config.serverAddr = fullServerAddr text) (means : ∀ resolve, arg.means resolve = .v6 ip port 0 0)
    (unread : ∀ rest, text = '[' :: rest → parseSocketAddr text = none) : ¬ Right config arg := by
  intro right
  have literal := literal_of_v6 ((right.contacts fun _ => .v4 0).trans (congrArg _ (means _)))
  obtain ⟨rest, bracket⟩ := bracket_of_v6 literal
  rw [addr, fullServerAddr] at literal bracket
  split at bracket
  · rename_i colon
    rw [if_pos colon, unread rest bracket] at literal
    cases literal
  · cases bracket

theorem not_right_of_not_hasPort {arg : ServerAddrArg} (addr : config.serverAddr = fullServerAddr arg.text)
    (noPort : arg.hasPort = false) : ¬ Right config arg := by
  rcases arg with port | ⟨host, _ | port⟩ | ⟨text, ip, valid⟩
  · cases noPort
  · cases host with
    | domain name valid => exact not_right_plain addr valid.colon valid.notPort
    | ipv4 text ip valid =>
      exact not_right_plain addr (not_mem_of_parseIpv4Addr valid (by decide)) (parseU16_of_parseIpv4Addr valid)
    | ipv6 text ip valid =>
      refine not_right_ipv6 addr (fun _ => rfl) fun _ _ => ?_
      rw [ServerAddrArg.text, Host.text, parseSocketAddr_bracket valid]
      rfl
  · cases noPort
  · refine not_right_ipv6 addr (fun _ => rfl) fun rest bracket => ?_
    have read := parseWith_eq_some.mp valid
    rw [show text = '[' :: rest from bracket, readIpv6Addr_bracket] at read
    cases read

/-- The client does what the address says if and only if there is a port in it. -/
theorem serverAddr_right_iff {serverName : Text → Option ServerName} {cpus : Nat} {args : ClientArgs}
    {arg : ServerAddrArg} (created : create serverName cpus args = .ok config) (written : args.serverAddr = arg.text) :
    Right config arg ↔ arg.hasPort = true := by
  have addr : config.serverAddr = fullServerAddr arg.text := by rw [create_serverAddr created, written]
  refine ⟨fun right => ?_, right_of_hasPort addr⟩
  by_contra noPort
  exact not_right_of_not_hasPort addr (by simpa using noPort) right

end Right

def exampleDomain : Text := "example.com".toList

theorem exampleDomain_valid : IsDomain exampleDomain :=
  ⟨by decide +kernel, by decide +kernel, by decide +kernel, by decide +kernel⟩

/-- `example.com:443` -/
def withPort : ServerAddrArg :=
  .host (.domain exampleDomain exampleDomain_valid)
    (some ⟨"443".toList, by decide, List.all_eq_true.mp (by decide), by decide⟩)

theorem serverAddr_right_iff_withPort : ∃ config,
    create (fun _ => some .dnsName) 4 { defaultArgs with serverAddr := withPort.text } = .ok config ∧
      Right config withPort :=
  ⟨_, create_twoTunnels rfl rfl rfl, (serverAddr_right_iff (create_twoTunnels rfl rfl rfl) rfl).mpr rfl⟩

/-- Without a port the name is taken for one. -/
theorem domain_taken_for_port : ∃ config,
    create (fun _ => some .dnsName) 4 { defaultArgs with serverAddr := exampleDomain } = .ok config ∧
      ∀ resolve : Text → IpAddr, parseServerAddr (fun domain _ _ => .ok (resolve domain)) config =
        .error "invalid address: 127.0.0.1:example.com" := by
  refine ⟨_, create_twoTunnels rfl rfl rfl, fun resolve => ?_⟩
  have taken : fullServerAddr exampleDomain = "127.0.0.1".toList ++ ':' :: exampleDomain := rfl
  rw [parseServerAddr_append taken (by decide +kernel) (by decide), exampleDomain_valid.notPort]
  rfl

end Rstun.Config
