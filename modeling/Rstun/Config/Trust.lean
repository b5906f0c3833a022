import Mathlib.Data.List.GetD
import Mathlib.Data.List.Rotate
import Rstun.Base.Run
import Rstun.Config.ServerAddr

/-!
# Whom the client trusts

`prepare_login_config` is called for every login. The platform, the files and the resolver may answer
differently each time. If there are custom SNI names, the tunnels of a client use them in turn, by one
counter, while the certificate is still checked for the server's own name.
-/

namespace Rstun.Config
open Parsing Transition Rstun.Http Rstun.Tunnel

/-- `Client::new` drops the names that are not host names. -/
def sanitizeSniNames (serverName : Text → Option ServerName) (names : List Text) : List Text :=
  names.filterMap fun name =>
    let trimmed := trim name
    if trimmed = [] then none
    else match serverName trimmed with
      | some .dnsName => some trimmed
      | _ => none

/-- The configuration that a client works with. -/
def newClient (serverName : Text → Option ServerName) (config : ClientConfig) : ClientConfig :=
  { config with sniNames := sanitizeSniNames serverName config.sniNames }

/-- The verifier stands for the client configuration of `quinn`. -/
structure LoginConfig where
  localAddr : SocketAddr
  remoteAddr : SocketAddr
  verifier : Verifier
  sniName : Text
  deriving DecidableEq

/-- What a call finds. `quic` is what `QuicClientConfig` says to the configuration. -/
structure Answers where
  tls : TlsEnv
  quic : Except String Unit
  lookupServerIp : Lookup

/-- `selected` and `prepared` are for the record. -/
structure Logins where
  sniRotation : UInt64
  selected : List Text
  prepared : List LoginConfig
  deriving DecidableEq

namespace Logins

def new : Logins := ⟨0, [], []⟩

/-- `select_sni_name` with its counter, which wraps around. -/
def select (config : ClientConfig) (s : Logins) (verifyName : Text) : Text × Logins :=
  let sniName := selectSniName config s.sniRotation.toNat verifyName
  if config.sniNames = [] then (sniName, s)
  else (sniName, { s with sniRotation := s.sniRotation + 1, selected := s.selected ++ [sniName] })

def prepareLoginConfig (config : ClientConfig) (s : Logins) (answers : Answers) : Except String LoginConfig × Logins :=
  match answers.tls.parseClientConfigAndDomain config, answers.quic with
  | .error err, _ | .ok _, .error err => (.error err, s)
  | .ok (verifier, verifyName), .ok () =>
    let (sniName, s) := s.select config verifyName
    match parseServerAddr answers.lookupServerIp config with
    | .error err => (.error err, s)
    | .ok remoteAddr =>
      (.ok ⟨socketAddrWithUnspecifiedIpPort remoteAddr.isIpv6, remoteAddr, verifier, sniName⟩, s)

def login (config : ClientConfig) (s : Logins) (answers : Answers) : Option Logins :=
  match s.prepareLoginConfig config answers with
  | (.ok prepared, s) => some { s with prepared := s.prepared ++ [prepared] }
  | (.error _, s) => some s

/-! ### The name that is checked -/

variable {config : ClientConfig} {s t : Logins} {answers : Answers}

/-- No certificate is given and the server is named by its address. -/
def Unverified (config : ClientConfig) : Prop := config.certPath = [] ∧ isIpAddr config.serverAddr = true

instance (config : ClientConfig) : Decidable (Unverified config) := inferInstanceAs (Decidable (_ ∧ _))

def expectedName (config : ClientConfig) : Option Text :=
  if Unverified config then none else some (beforeColon config.serverAddr)

theorem verifiedName_eq {env : TlsEnv} {verifier : Verifier} {verifyName : Text} (rotation : Nat)
    (parsed : env.parseClientConfigAndDomain config = .ok (verifier, verifyName)) :
    verifiedName (selectSniName config rotation verifyName) verifier = expectedName config := by
  unfold expectedName
  split
  · rename_i unverified
    rw [TlsEnv.parseClientConfigAndDomain, if_pos unverified.1, unverified.2] at parsed
    cases parsed
    rfl
  · rename_i verified
    by_cases named : isIpAddr config.serverAddr = false
    · exact verifiedName_beforeColon rotation named parsed
    · have given : config.certPath ≠ [] := fun empty => verified ⟨empty, by simpa using named⟩
      rw [TlsEnv.parseClientConfigAndDomain, if_neg given] at parsed
      obtain ⟨_, made, same⟩ := bind_eq_ok parsed
      cases same
      exact (rootsConfig_checks made).verifiedName rotation

theorem select_cases (config : ClientConfig) (s : Logins) (verifyName : Text) :
    (s.select config verifyName).1 = selectSniName config s.sniRotation.toNat verifyName ∧
    (config.sniNames = [] ∧ (s.select config verifyName).2 = s ∨
      config.sniNames ≠ [] ∧ (s.select config verifyName).2 =
        { s with
          sniRotation := s.sniRotation + 1
          selected := s.selected ++ [selectSniName config s.sniRotation.toNat verifyName] }) := by
  unfold select
  dsimp only
  split
  · rename_i empty
    exact ⟨rfl, .inl ⟨empty, rfl⟩⟩
  · rename_i given
    exact ⟨rfl, .inr ⟨given, rfl⟩⟩

/-- A login that fails early does nothing. Otherwise a name is selected, and the login is prepared or fails. -/
theorem login_cases (h : s.login config answers = some t) :
    t = s ∨ ∃ verifier verifyName, answers.tls.parseClientConfigAndDomain config = .ok (verifier, verifyName) ∧
      (t = (s.select config verifyName).2 ∨ ∃ remoteAddr, t = { (s.select config verifyName).2 with
        prepared := (s.select config verifyName).2.prepared ++ [⟨socketAddrWithUnspecifiedIpPort remoteAddr.isIpv6,
          remoteAddr, verifier, (s.select config verifyName).1⟩] }) := by
  unfold login prepareLoginConfig at h
  cases parsed : answers.tls.parseClientConfigAndDomain config with
  | error err =>
    rw [parsed] at h
    exact .inl (Option.some.inj h).symm
  | ok both =>
    obtain ⟨verifier, verifyName⟩ := both
    rw [parsed] at h
    cases quic : answers.quic with
    | error err =>
      rw [quic] at h
      exact .inl (Option.some.inj h).symm
    | ok _ =>
      rw [quic] at h
      refine .inr ⟨verifier, verifyName, rfl, ?_⟩
      cases addr : parseServerAddr answers.lookupServerIp config with
      | error err =>
        rw [addr] at h
        exact .inl (Option.some.inj h).symm
      | ok remoteAddr =>
        rw [addr] at h
        exact .inr ⟨remoteAddr, (Option.some.inj h).symm⟩

/-- What is known about a login that has been prepared. -/
structure Prepared (config : ClientConfig) (login : LoginConfig) : Prop where
  verified : verifiedName login.sniName login.verifier = expectedName config
  family : login.localAddr = socketAddrWithUnspecifiedIpPort login.remoteAddr.isIpv6
  named : config.sniNames ≠ [] → login.sniName ∈ config.sniNames

theorem selectSniName_mem (given : config.sniNames ≠ []) (rotation : Nat) (verifyName : Text) :
    selectSniName config rotation verifyName ∈ config.sniNames := by
  have below : rotation % config.sniNames.length < config.sniNames.length :=
    Nat.mod_lt _ (List.length_pos_iff.mpr given)
  rw [selectSniName, if_neg given, List.getD_eq_getElem _ _ below]
  exact List.getElem_mem below

theorem login_prepared (before : ∀ login ∈ s.prepared, Prepared config login) (h : s.login config answers = some t) :
    ∀ login ∈ t.prepared, Prepared config login := by
  obtain rfl | ⟨verifier, verifyName, parsed, outcome⟩ := login_cases h
  · exact before
  obtain ⟨name, selected⟩ := select_cases config s verifyName
  have kept : (s.select config verifyName).2.prepared = s.prepared := by
    rcases selected with ⟨_, same⟩ | ⟨_, more⟩
    · rw [same]
    · rw [more]
  rcases outcome with rfl | ⟨remoteAddr, rfl⟩
  · rw [kept]
    exact before
  · intro login member
    rcases List.mem_append.mp member with old | last
    · rw [kept] at old
      exact before login old
    · obtain rfl := List.mem_singleton.mp last
      refine ⟨?_, rfl, fun given => ?_⟩
      · rw [name]
        exact verifiedName_eq _ parsed
      · rw [name]
        exact selectSniName_mem given _ _

theorem sanitizeSniNames_valid {serverName : Text → Option ServerName} {names : List Text} {name : Text}
    (member : name ∈ sanitizeSniNames serverName names) : serverName name = some .dnsName := by
  obtain ⟨raw, _, kept⟩ := List.mem_filterMap.mp member
  dsimp only at kept
  split at kept
  · cases kept
  · split at kept <;> cases kept
    assumption

/-- A server with a name, and two names to be sent in its place. -/
def disguised : ClientConfig :=
  baseConfig 4 { defaultArgs with serverAddr := withPort.text } ["a.org".toList, " b.org".toList]

def reachable : Answers where
  tls := ⟨.ok (), fun _ => .ok [], fun _ => .ok (), .ok (), fun _ => some .dnsName⟩
  quic := .ok ()
  lookupServerIp := fun _ _ _ => .ok (.v4 0x5db8d822)

/-- The names that are selected next. The counter has 64 bits. -/
def upcoming (config : ClientConfig) (rotation : UInt64) (count : Nat) : List Text :=
  (List.range count).map fun k =>
    config.sniNames.getD ((rotation + UInt64.ofNat k).toNat % config.sniNames.length) []

theorem login_selects (h : s.login config answers = some t) :
    (t.selected = s.selected ∧ t.sniRotation = s.sniRotation) ∨
    (t.selected = s.selected ++ [config.sniNames.getD (s.sniRotation.toNat % config.sniNames.length) []] ∧
      t.sniRotation = s.sniRotation + 1) := by
  obtain rfl | ⟨verifier, verifyName, _, outcome⟩ := login_cases h
  · exact .inl ⟨rfl, rfl⟩
  have same : t.selected = (s.select config verifyName).2.selected ∧
      t.sniRotation = (s.select config verifyName).2.sniRotation := by
    rcases outcome with rfl | ⟨_, rfl⟩ <;> exact ⟨rfl, rfl⟩
  obtain ⟨_, ⟨_, unchanged⟩ | ⟨given, more⟩⟩ := select_cases config s verifyName
  · rw [unchanged] at same
    exact .inl same
  · rw [more, selectSniName, if_neg given] at same
    exact .inr same

theorem run_selects {calls : List Answers} (h : run (login config) s calls = some t) :
    ∃ count, t.selected = s.selected ++ upcoming config s.sniRotation count ∧
      t.sniRotation = s.sniRotation + UInt64.ofNat count := by
  refine run_invariant (I := fun t : Logins => ∃ count, t.selected = s.selected ++ upcoming config s.sniRotation count ∧
    t.sniRotation = s.sniRotation + UInt64.ofNat count) ?_ ⟨0, by simp [upcoming], by simp⟩ h
  rintro u answers t ⟨count, selected, rotation⟩ stepped
  rcases login_selects stepped with ⟨same, still⟩ | ⟨more, next⟩
  · exact ⟨count, same.trans selected, still.trans rotation⟩
  · refine ⟨count + 1, ?_, ?_⟩
    · rw [more, selected, rotation, upcoming, upcoming, List.range_succ, List.map_append, List.append_assoc]
      rfl
    · rw [next, rotation, UInt64.ofNat_add, UInt64.add_assoc]
      rfl

theorem upcoming_rotate {rotation : UInt64} (room : rotation.toNat + config.sniNames.length ≤ 2 ^ 64) :
    upcoming config rotation config.sniNames.length = config.sniNames.rotate rotation.toNat := by
  apply List.ext_getElem
  · simp [upcoming]
  · intro k below _
    have inside : k < config.sniNames.length := by simpa [upcoming] using below
    have counted : (rotation + UInt64.ofNat k).toNat = rotation.toNat + k := by
      rw [UInt64.toNat_add, UInt64.toNat_ofNat']
      omega
    have index : (rotation.toNat + k) % config.sniNames.length < config.sniNames.length := Nat.mod_lt _ (by omega)
    simp only [upcoming, List.getElem_map, List.getElem_range, counted, List.getElem_rotate]
    rw [List.getD_eq_getElem _ _ index]
    simp only [Nat.add_comm]

/-- As many logins in a row as there are custom SNI names send each of them once, whichever tunnels they are
for and whichever of them fail. -/
theorem sni_names_in_turn {calls : List Answers} (h : run (login config) s calls = some t)
    (all : t.selected.length = s.selected.length + config.sniNames.length)
    (room : s.sniRotation.toNat + config.sniNames.length ≤ 2 ^ 64) :
    ∃ names, t.selected = s.selected ++ names ∧ names.Perm config.sniNames := by
  obtain ⟨count, selected, _⟩ := run_selects h
  have enough : count = config.sniNames.length := by
    rw [selected] at all
    simpa [upcoming] using all
  rw [enough, upcoming_rotate room] at selected
  exact ⟨_, selected, List.rotate_perm _ _⟩

theorem sni_names_in_turn_disguised : ∃ s t,
    run (login disguised) new [reachable] = some s ∧ run (login disguised) s [reachable, reachable] = some t ∧
    ∃ names, t.selected = s.selected ++ names ∧ names.Perm disguised.sniNames := by
  obtain ⟨s, first, one⟩ := run_reaches
    (P := fun s : Logins => s.selected.length = 1 ∧ s.sniRotation = 1 ∧
      (run (login disguised) s [reachable, reachable]).any (fun t => t.selected.length = 3) = true)
    (show (run (login disguised) new [reachable]).any _ = true by decide +kernel)
  obtain ⟨t, last, three⟩ := run_reaches (P := fun t : Logins => t.selected.length = 3) one.2.2
  refine ⟨s, t, first, last, sni_names_in_turn last ?_ ?_⟩
  · rw [three, one.1]
    rfl
  · rw [one.2.1]
    decide +kernel

end Logins

end Rstun.Config
