import Rstun.Base.Parser
import Rstun.Http.Header

/-!
# Addresses in text

The parsers of the standard library for `u16`, for IP addresses and for socket addresses. The latter two
are those of `core::net::parser`, function by function. A text is the list of its characters.
-/

namespace Rstun.Config
open Parsing Rstun.Tunnel Rstun.Http

abbrev Text := List Char

inductive IpAddr where
  | v4 (ip : BitVec 32)
  | v6 (ip : BitVec 128)
  deriving DecidableEq

def IpAddr.socketAddr : IpAddr → UInt16 → SocketAddr
  | v4 ip, port => .v4 ip port
  | v6 ip, port => .v6 ip port 0 0

/-- `str::parse::<u16>` reads like that for `usize`, with another bound. -/
def parseU16 (text : Text) : Option UInt16 :=
  (parseUsize text).bind fun n => if n < 65536 then some (UInt16.ofNat n) else none

/-! ### `core::net::parser` -/

def toDigit (radix : Nat) (c : Char) : Option Nat :=
  let value :=
    if c.isDigit then c.toNat - 48
    else if c.isLower then c.toNat - 97 + 10
    else if c.isUpper then c.toNat - 65 + 10
    else radix
  if value < radix then some value else none

def digitsValue (radix : Nat) (digits : Text) : Nat :=
  digits.foldl (fun value c => value * radix + (toDigit radix c).getD 0) 0

/-- `bound` stands for the type of the number. -/
def readNumber (radix : Nat) (maxDigits : Option Nat) (allowZeroPrefix : Bool) (bound : Nat) : Parser Char Nat := do
  let digits ← run fun c => (toDigit radix c).isSome
  let value := digitsValue radix digits
  lift (
    if maxDigits.any (· < digits.length) then none
    else if digits = [] then none
    else if !allowZeroPrefix && digits.head? = some '0' && 1 < digits.length then none
    else if value < bound then some value
    else none)

def readSeparator {α : Type} (separator : Char) (index : Nat) (inner : Parser Char α) : Parser Char α := do
  if 0 < index then given separator
  inner

theorem readSeparator_zero {α : Type} (separator : Char) (inner : Parser Char α) :
    readSeparator separator 0 inner = inner := rfl

def readIpv4Addr : Parser Char (BitVec 32) := do
  let a ← readSeparator '.' 0 (readNumber 10 (some 3) false 256)
  let b ← readSeparator '.' 1 (readNumber 10 (some 3) false 256)
  let c ← readSeparator '.' 2 (readNumber 10 (some 3) false 256)
  let d ← readSeparator '.' 3 (readNumber 10 (some 3) false 256)
  pure (BitVec.ofNat 32 (((a * 256 + b) * 256 + c) * 256 + d))

/-- The groups that could be read, with room for `left` more, and whether the last two are an IPv4 address. -/
def readGroups : (left index : Nat) → Parser Char (List Nat × Bool)
  | 0, _ => pure ([], false)
  | left + 1, index =>
    (if 0 < left then do
      let ipv4 ← readSeparator ':' index readIpv4Addr
      pure ([ipv4.toNat / 65536, ipv4.toNat % 65536], true)
    else failure) <|>
    (do
      let group ← readSeparator ':' index (readNumber 16 (some 4) true 65536)
      let (groups, ipv4) ← readGroups left (index + 1)
      pure (group :: groups, ipv4)) <|>
    pure ([], false)

def ofGroups (groups : List Nat) : BitVec 128 :=
  BitVec.ofNat 128 (groups.foldl (fun value group => value * 65536 + group) 0)

def readIpv6Addr : Parser Char (BitVec 128) := do
  let (head, headIpv4) ← readGroups 8 0
  if head.length = 8 then pure (ofGroups head)
  else if headIpv4 then failure
  else do
    given ':'
    given ':'
    let (tail, _) ← readGroups (8 - (head.length + 1)) 0
    pure (ofGroups (head ++ List.replicate (8 - head.length - tail.length) 0 ++ tail))

def readPort : Parser Char UInt16 := do
  given ':'
  let port ← readNumber 10 none true 65536
  pure (UInt16.ofNat port)

def readScopeId : Parser Char UInt32 := do
  given '%'
  let scopeId ← readNumber 10 none true (2 ^ 32)
  pure (UInt32.ofNat scopeId)

def readSocketAddrV4 : Parser Char SocketAddr := do
  let ip ← readIpv4Addr
  let port ← readPort
  pure (.v4 ip port)

def readSocketAddrV6 : Parser Char SocketAddr := do
  given '['
  let ip ← readIpv6Addr
  let scopeId ← readScopeId <|> pure 0
  given ']'
  let port ← readPort
  pure (.v6 ip port 0 scopeId)

def parseIpv4Addr : Text → Option (BitVec 32) := parseWith readIpv4Addr

def parseIpv6Addr : Text → Option (BitVec 128) := parseWith readIpv6Addr

def parseSocketAddr : Text → Option SocketAddr := parseWith (readSocketAddrV4 <|> readSocketAddrV6)

/-! ### How far they read -/

theorem toDigit_ten (c : Char) : toDigit 10 c = if c.isDigit then some (c.toNat - 48) else none := by
  unfold toDigit
  cases digit : c.isDigit with
  | true =>
    have range := isDigit_range digit
    exact if_pos (by rw [if_pos rfl]; omega)
  | false =>
    simp only [Bool.false_eq_true, if_false]
    refine if_neg ?_
    split
    · omega
    · split <;> omega

theorem toDigit_ten_of_sixteen {c : Char} (other : toDigit 16 c = none) : toDigit 10 c = none := by
  rw [toDigit_ten]
  refine if_neg fun digit => ?_
  have range := isDigit_range digit
  have value : toDigit 16 c = some (c.toNat - 48) := by
    unfold toDigit
    rw [digit]
    exact if_pos (by rw [if_pos rfl]; omega)
  cases other.symm.trans value

section Local
variable {stop : Char → Prop} {α : Type}

theorem local_readNumber {radix : Nat} (maxDigits : Option Nat) (allowZeroPrefix : Bool) (bound : Nat)
    (other : ∀ c, stop c → toDigit radix c = none) :
    Local stop (readNumber radix maxDigits allowZeroPrefix bound) :=
  (local_run fun c stops => by rw [other c stops]; rfl).bind fun _ => local_lift _

theorem local_readSeparator {separator : Char} (index : Nat) {inner : Parser Char α}
    (other : ∀ c, stop c → c ≠ separator) (reads : Local stop inner) :
    Local stop (readSeparator separator index inner) := by
  unfold readSeparator
  split
  · exact (local_given other).bind fun _ => reads
  · exact (local_pure ()).bind fun _ => reads

theorem local_readIpv4Addr (digits : ∀ c, stop c → toDigit 10 c = none) (dot : ∀ c, stop c → c ≠ '.') :
    Local stop readIpv4Addr := by
  have octet := fun index => local_readSeparator index dot (local_readNumber (some 3) false 256 digits)
  exact (octet 0).bind fun _ => (octet 1).bind fun _ => (octet 2).bind fun _ => (octet 3).bind fun _ => local_pure _

/-- The characters that end an IPv6 address. -/
def EndsIpv6 (c : Char) : Prop := toDigit 16 c = none ∧ c ≠ ':' ∧ c ≠ '.'

theorem local_readGroups (left index : Nat) : Local EndsIpv6 (readGroups left index) := by
  induction left generalizing index with
  | zero => exact local_pure _
  | succ left ih =>
    have ipv4 : Local EndsIpv6 readIpv4Addr :=
      local_readIpv4Addr (fun c ends => toDigit_ten_of_sixteen ends.1) fun c ends => ends.2.2
    have number : Local EndsIpv6 (readNumber 16 (some 4) true 65536) :=
      local_readNumber (some 4) true 65536 fun c ends => ends.1
    have colon : ∀ c, EndsIpv6 c → c ≠ ':' := fun c ends => ends.2.1
    refine Local.orElse ?_ (Local.orElse ?_ (local_pure _))
    · split
      · exact (local_readSeparator index colon ipv4).bind fun _ => local_pure _
      · exact local_failure
    · exact (local_readSeparator index colon number).bind fun _ => (ih (index + 1)).bind fun _ => local_pure _

theorem local_readIpv6Addr : Local EndsIpv6 readIpv6Addr := by
  refine (local_readGroups 8 0).bind fun ⟨head, headIpv4⟩ => ?_
  have colon : Local EndsIpv6 (given ':') := local_given fun c ends => ends.2.1
  dsimp only
  split
  · exact local_pure _
  · split
    · exact local_failure
    · exact colon.bind fun _ => colon.bind fun _ => (local_readGroups _ 0).bind fun _ => local_pure _

end Local

/-! ### What they read -/

section Consumes
variable {P : Char → Prop} {α : Type}

theorem consumes_readNumber {radix : Nat} (maxDigits : Option Nat) (allowZeroPrefix : Bool) (bound : Nat)
    (digits : ∀ c, (toDigit radix c).isSome → P c) :
    Consumes P (readNumber radix maxDigits allowZeroPrefix bound) :=
  (consumes_run digits).bind fun _ => consumes_lift _

theorem consumes_readSeparator {separator : Char} (index : Nat) {inner : Parser Char α} (holds : P separator)
    (reads : Consumes P inner) : Consumes P (readSeparator separator index inner) := by
  unfold readSeparator
  split
  · exact (consumes_given holds).bind fun _ => reads
  · exact (consumes_pure ()).bind fun _ => reads

theorem consumes_readIpv4Addr (digits : ∀ c, (toDigit 10 c).isSome → P c) (dot : P '.') : Consumes P readIpv4Addr := by
  have octet := fun index => consumes_readSeparator index dot (consumes_readNumber (some 3) false 256 digits)
  exact (octet 0).bind fun _ => (octet 1).bind fun _ => (octet 2).bind fun _ => (octet 3).bind fun _ =>
    consumes_pure _

/-- How much a parser reads is not asked here. -/
abbrev Suffixes (p : Parser Char α) : Prop := Consumes (fun _ => True) p

theorem suffixes_readGroups (left index : Nat) : Suffixes (readGroups left index) := by
  induction left generalizing index with
  | zero => exact consumes_pure _
  | succ left ih =>
    refine Consumes.orElse ?_ (Consumes.orElse ?_ (consumes_pure _))
    · split
      · exact (consumes_readSeparator index trivial (consumes_readIpv4Addr (fun _ _ => trivial) trivial)).bind
          fun _ => consumes_pure _
      · exact consumes_failure
    · exact (consumes_readSeparator index trivial (consumes_readNumber (some 4) true 65536 fun _ _ => trivial)).bind
        fun _ => (ih (index + 1)).bind fun _ => consumes_pure _

theorem suffixes_readIpv6Addr : Suffixes readIpv6Addr := by
  refine (suffixes_readGroups 8 0).bind fun ⟨head, headIpv4⟩ => ?_
  have colon : Suffixes (given ':') := consumes_given trivial
  dsimp only
  split
  · exact consumes_pure _
  · split
    · exact consumes_failure
    · exact colon.bind fun _ => colon.bind fun _ => (suffixes_readGroups _ 0).bind fun _ => consumes_pure _

end Consumes

theorem includes_readIpv4Addr : Includes '.' readIpv4Addr := by
  have octet : Suffixes (readSeparator '.' 0 (readNumber 10 (some 3) false 256)) :=
    consumes_readSeparator 0 trivial (consumes_readNumber (some 3) false 256 fun _ _ => trivial)
  exact octet.includes_bind fun _ => Includes.bind (Includes.bind (includes_given '.') _) _

theorem includes_readPort : Includes ':' readPort := Includes.bind (includes_given ':') _

theorem mem_of_parseSocketAddr {text : Text} {addr : SocketAddr} (parsed : parseSocketAddr text = some addr) :
    ':' ∈ text := by
  have v4 : Includes ':' readSocketAddrV4 :=
    (consumes_readIpv4Addr (P := fun _ => True) (fun _ _ => trivial) trivial).includes_bind fun ip =>
      Includes.bind includes_readPort _
  have scope : Suffixes (readScopeId <|> pure 0) :=
    Consumes.orElse ((consumes_given trivial).bind fun _ =>
      (consumes_readNumber none true (2 ^ 32) fun _ _ => trivial).bind fun _ => consumes_pure _) (consumes_pure _)
  have v6 : Includes ':' readSocketAddrV6 :=
    (consumes_given (P := fun _ => True) trivial).includes_bind fun _ => suffixes_readIpv6Addr.includes_bind fun _ =>
      scope.includes_bind fun _ => (consumes_given (P := fun _ => True) trivial).includes_bind fun _ =>
        Includes.bind includes_readPort _
  exact (v4.orElse v6) text addr [] (parseWith_eq_some.mp parsed)

/-! ### Ports -/

/-- A port in decimal digits, leading zeros included. -/
structure PortText where
  digits : Text
  nonempty : digits ≠ []
  decimal : ∀ c ∈ digits, c.isDigit = true
  fits : Nat.ofDigitChars 10 digits 0 < 65536

def PortText.value (port : PortText) : UInt16 := UInt16.ofNat (Nat.ofDigitChars 10 port.digits 0)

theorem parseU16_digits (port : PortText) : parseU16 port.digits = some port.value := by
  have parsed : parseUsize port.digits = some (Nat.ofDigitChars 10 port.digits 0) := by
    rw [parseUsize, stripPlus_of_digits port.decimal]
    exact if_pos ⟨port.nonempty, List.all_eq_true.mpr port.decimal, Nat.lt_trans port.fits (by decide)⟩
  rw [parseU16, parsed, Option.bind_some, if_pos port.fits]
  rfl

theorem digitsValue_ten {digits : Text} (decimal : ∀ c ∈ digits, c.isDigit = true) :
    digitsValue 10 digits = Nat.ofDigitChars 10 digits 0 := by
  refine List.foldl_ext _ _ 0 fun value c member => ?_
  rw [toDigit_ten, if_pos (decimal c member), Nat.mul_comm]
  rfl

theorem readPort_cons (text : Text) :
    readPort (':' :: text) =
      if text.takeWhile Char.isDigit ≠ [] ∧ digitsValue 10 (text.takeWhile Char.isDigit) < 65536 then
        some (UInt16.ofNat (digitsValue 10 (text.takeWhile Char.isDigit)), text.dropWhile Char.isDigit)
      else none := by
  have digit : (fun c => (toDigit 10 c).isSome) = Char.isDigit := by
    funext c
    rw [toDigit_ten]
    cases c.isDigit <;> rfl
  show ((readNumber 10 none true 65536 text).bind fun (port, rest) => some (UInt16.ofNat port, rest)) = _
  unfold readNumber
  rw [digit]
  show ((Option.map _ _).bind _) = _
  by_cases empty : text.takeWhile Char.isDigit = []
  · simp [empty]
  · by_cases fits : digitsValue 10 (text.takeWhile Char.isDigit) < 65536 <;> simp [empty, fits]

/-- A number that is read to the end of the text is a port. -/
theorem readPort_eq_some {text : Text} {value : UInt16} :
    readPort (':' :: text) = some (value, []) ↔ ∃ port : PortText, port.digits = text ∧ port.value = value := by
  rw [readPort_cons, Option.ite_none_right_eq_some]
  constructor
  · rintro ⟨⟨nonempty, fits⟩, same⟩
    have all : ∀ c ∈ text, c.isDigit = true := List.dropWhile_eq_nil_iff.mp (Prod.mk.inj (Option.some.inj same)).2
    rw [List.takeWhile_eq_self_iff.mpr all] at nonempty fits same
    rw [digitsValue_ten all] at fits same
    exact ⟨⟨text, nonempty, all, fits⟩, rfl, (Prod.mk.inj (Option.some.inj same)).1⟩
  · rintro ⟨port, rfl, rfl⟩
    rw [List.takeWhile_eq_self_iff.mpr port.decimal, List.dropWhile_eq_nil_iff.mpr port.decimal,
      digitsValue_ten port.decimal]
    exact ⟨⟨port.nonempty, port.fits⟩, rfl⟩

theorem parseU16_of_readPort {text : Text} {value : UInt16} (read : readPort (':' :: text) = some (value, [])) :
    parseU16 text = some value := by
  obtain ⟨port, rfl, rfl⟩ := readPort_eq_some.mp read
  exact parseU16_digits port

/-! ### Socket addresses -/

section SocketAddr
variable {host text : Text}

theorem readPort_of_ne {c : Char} (other : c ≠ ':') (text : Text) : readPort (c :: text) = none :=
  bind_of_none (given_of_ne other text) _

theorem readSocketAddrV4_append (colon : ':' ∉ host) :
    readSocketAddrV4 (host ++ ':' :: text) = (parseIpv4Addr host).bind fun ip =>
      (readPort (':' :: text)).map fun (port, rest) => (.v4 ip port, rest) := by
  have reads : readIpv4Addr (host ++ ':' :: text) =
      (readIpv4Addr host).map fun (ip, rest) => (ip, rest ++ ':' :: text) := by
    refine (?_ : Local (· = ':') readIpv4Addr) host (':' :: text) (by simp)
    exact local_readIpv4Addr (by rintro _ rfl; decide) (by rintro _ rfl; decide)
  show (readIpv4Addr (host ++ ':' :: text)).bind (fun (ip, rest) => (readPort rest).bind fun (port, rest) =>
    some (SocketAddr.v4 ip port, rest)) = _
  rw [reads, parseIpv4Addr, parseWith]
  rcases read : readIpv4Addr host with _ | ⟨ip, _ | ⟨c, rest⟩⟩
  · rfl
  · show (readPort (':' :: text)).bind _ = (readPort (':' :: text)).map _
    cases readPort (':' :: text) <;> rfl
  · obtain ⟨front, rfl, _⟩ := consumes_readIpv4Addr (P := fun _ => True) (fun _ _ => trivial) trivial host ip _ read
    have other : c ≠ ':' := by
      rintro rfl
      exact colon (by simp)
    show (readPort (c :: (rest ++ ':' :: text))).bind _ = none
    rw [readPort_of_ne other]
    rfl

theorem readSocketAddrV6_of_ne {c : Char} (other : c ≠ '[') (text : Text) : readSocketAddrV6 (c :: text) = none :=
  bind_of_none (given_of_ne other text) _

theorem readSocketAddrV6_append (bracket : '[' ∉ host) : readSocketAddrV6 (host ++ ':' :: text) = none := by
  cases host with
  | nil => exact readSocketAddrV6_of_ne (by decide) text
  | cons c host =>
    apply readSocketAddrV6_of_ne
    rintro rfl
    exact bracket List.mem_cons_self

theorem parseSocketAddr_append (colon : ':' ∉ host) (bracket : '[' ∉ host) {addr : SocketAddr} :
    parseSocketAddr (host ++ ':' :: text) = some addr ↔
      ∃ ip port, parseIpv4Addr host = some ip ∧ readPort (':' :: text) = some (port, []) ∧ addr = .v4 ip port := by
  rw [parseSocketAddr, parseWith_eq_some]
  show (readSocketAddrV4 (host ++ ':' :: text) <|> readSocketAddrV6 (host ++ ':' :: text)) = _ ↔ _
  rw [readSocketAddrV4_append colon, readSocketAddrV6_append bracket]
  cases parseIpv4Addr host with
  | none => simp
  | some ip =>
    rcases readPort (':' :: text) with _ | ⟨port, rest⟩
    · simp
    · simp [eq_comm, and_comm]

theorem plain_of_parseIpv4Addr {ip : BitVec 32} (parsed : parseIpv4Addr host = some ip) :
    ∀ c ∈ host, c.isDigit = true ∨ c = '.' := by
  have digits : ∀ c, (toDigit 10 c).isSome → c.isDigit = true ∨ c = '.' := by
    intro c digit
    rw [toDigit_ten] at digit
    split at digit
    · exact Or.inl ‹_›
    · cases digit
  obtain ⟨front, same, plain⟩ := consumes_readIpv4Addr digits (Or.inr rfl) host ip [] (parseWith_eq_some.mp parsed)
  rwa [same, List.append_nil]

theorem not_mem_of_parseIpv4Addr {ip : BitVec 32} (parsed : parseIpv4Addr host = some ip) {c : Char}
    (other : c.isDigit = false ∧ c ≠ '.') : c ∉ host := by
  intro member
  rcases plain_of_parseIpv4Addr parsed c member with digit | dot
  · rw [other.1] at digit
    cases digit
  · exact other.2 dot

theorem parseSocketAddr_ipv4 {ip : BitVec 32} (parsed : parseIpv4Addr host = some ip) (port : PortText) :
    parseSocketAddr (host ++ ':' :: port.digits) = some (.v4 ip port.value) :=
  (parseSocketAddr_append (not_mem_of_parseIpv4Addr parsed (by decide))
    (not_mem_of_parseIpv4Addr parsed (by decide))).mpr
    ⟨ip, port.value, parsed, readPort_eq_some.mpr ⟨port, rfl, rfl⟩, rfl⟩

theorem plain_of_parseU16 {port : UInt16} (parsed : parseU16 text = some port) :
    ∀ c ∈ text, c.isDigit = true ∨ c = '+' := by
  obtain ⟨n, read, _⟩ := Option.bind_eq_some_iff.mp parsed
  obtain ⟨⟨_, all, _⟩, _⟩ := Option.ite_none_right_eq_some.mp read
  have digits := List.all_eq_true.mp all
  intro c member
  cases text with
  | nil => cases member
  | cons first text =>
    by_cases sign : first = '+'
    · subst sign
      rcases List.mem_cons.mp member with rfl | later
      · exact Or.inr rfl
      · exact Or.inl (digits c later)
    · have whole : stripPlus (first :: text) = first :: text := by
        unfold stripPlus
        split
        · rename_i same
          exact absurd (List.cons.inj same).1 sign
        · rfl
      rw [whole] at digits
      exact Or.inl (digits c member)

theorem parseU16_eq_none {c : Char} (member : c ∈ text) (other : c.isDigit = false ∧ c ≠ '+') :
    parseU16 text = none := by
  rw [Option.eq_none_iff_forall_ne_some]
  intro port parsed
  rcases plain_of_parseU16 parsed c member with digit | sign
  · rw [other.1] at digit
    cases digit
  · exact other.2 sign

theorem parseU16_of_parseIpv4Addr {ip : BitVec 32} (parsed : parseIpv4Addr host = some ip) : parseU16 host = none :=
  parseU16_eq_none (includes_readIpv4Addr host ip [] (parseWith_eq_some.mp parsed)) (by decide)

theorem parseU16_of_parseSocketAddr {addr : SocketAddr} (parsed : parseSocketAddr text = some addr) :
    parseU16 text = none :=
  parseU16_eq_none (mem_of_parseSocketAddr parsed) (by decide)

/-! ### IPv6 -/

theorem readNumber_of_other {radix : Nat} {c : Char} (other : toDigit radix c = none) (maxDigits : Option Nat)
    (allowZeroPrefix : Bool) (bound : Nat) (text : Text) :
    readNumber radix maxDigits allowZeroPrefix bound (c :: text) = none := by
  have empty : (c :: text).takeWhile (fun c => (toDigit radix c).isSome) = [] := by simp [other]
  show (Option.map _ _) = none
  rw [empty, Option.map_eq_none_iff]
  simp

theorem readIpv6Addr_bracket (text : Text) : readIpv6Addr ('[' :: text) = none := by
  have number := fun radix (other : toDigit radix '[' = none) maxDigits zero bound =>
    readNumber_of_other other maxDigits zero bound text
  have ipv4 : readIpv4Addr ('[' :: text) = none := bind_of_none (number 10 (by decide) (some 3) false 256) _
  have groups : readGroups 8 0 ('[' :: text) = some (([], false), '[' :: text) := by
    rw [readGroups, if_pos (by decide), readSeparator_zero, readSeparator_zero,
      orElse_of_none (bind_of_none ipv4 _), orElse_of_none (bind_of_none (number 16 (by decide) (some 4) true 65536) _)]
    rfl
  rw [readIpv6Addr, bind_of_some groups]
  exact bind_of_none (given_of_ne (by decide) text) _

theorem bracket_of_v6 {ip : BitVec 128} {port : UInt16} {flowinfo scopeId : UInt32}
    (parsed : parseSocketAddr text = some (.v6 ip port flowinfo scopeId)) : ∃ rest, text = '[' :: rest := by
  rcases of_orElse (parseWith_eq_some.mp parsed) with v4 | v6
  · obtain ⟨_, _, read⟩ := Option.bind_eq_some_iff.mp v4
    obtain ⟨_, _, made⟩ := Option.bind_eq_some_iff.mp read
    cases made
  · cases text with
    | nil => cases v6
    | cons c rest =>
      by_cases bracket : c = '['
      · exact ⟨rest, by rw [bracket]⟩
      · rw [readSocketAddrV6_of_ne bracket] at v6
        cases v6

theorem readSocketAddrV6_bracket {ip : BitVec 128} (parsed : parseIpv6Addr host = some ip) (text : Text) :
    readSocketAddrV6 ('[' :: (host ++ ']' :: text)) =
      (readPort text).map fun (port, rest) => (.v6 ip port 0 0, rest) := by
  have reads : readIpv6Addr (host ++ ']' :: text) = some (ip, ']' :: text) := by
    have whole := parseWith_eq_some.mp parsed
    rw [local_readIpv6Addr host (']' :: text) (by rintro _ ⟨⟩; exact ⟨by decide, by decide, by decide⟩), whole]
    rfl
  have scope : (readScopeId <|> pure 0) (']' :: text) = some (0, ']' :: text) := rfl
  rw [readSocketAddrV6, bind_of_some (given_self '[' _), bind_of_some reads, bind_of_some scope,
    bind_of_some (given_self ']' _)]
  show (readPort text).bind _ = _
  cases readPort text <;> rfl

theorem parseSocketAddr_bracket {ip : BitVec 128} (parsed : parseIpv6Addr host = some ip) (text : Text) :
    parseSocketAddr ('[' :: (host ++ ']' :: text)) = (parseWith readPort text).map fun port => .v6 ip port 0 0 := by
  have v4 : readSocketAddrV4 ('[' :: (host ++ ']' :: text)) = none :=
    bind_of_none (bind_of_none (readNumber_of_other (by decide) (some 3) false 256 _) _) _
  rw [parseSocketAddr, parseWith, orElse_of_none v4, readSocketAddrV6_bracket parsed, parseWith]
  rcases readPort text with _ | ⟨port, _ | ⟨c, rest⟩⟩ <;> rfl

end SocketAddr

example : parseSocketAddr "[2001:db8::1.2.3.4%7]:443".toList =
    some (.v6 0x20010db8000000000000000001020304#128 443 0 7) := by decide +kernel

end Rstun.Config
