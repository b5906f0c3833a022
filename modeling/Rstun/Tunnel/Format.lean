import Rstun.Tunnel.Target

/-!
# The format of the target header

The header of a stream says itself where it ends. What can be written is read back, and what can be read
is what would have been written. A host that is empty or longer than 255 bytes cannot be written.
-/

namespace Rstun.Tunnel
open BigEndian

/-- A stream that begins with these bytes. -/
def Incoming.behind (header : Bytes) (s : Incoming) : Incoming := ⟨header ++ s.bytes, s.ended⟩

/-- The values that satisfy `valid` go with the byte strings that a reader accepts. The reader takes
exactly the encoding of a value, whatever follows it, and fails if the bytes begin with none. -/
structure Delimits {T : Type} (valid : T → Prop) (encode : T → Except String (Option Bytes))
    (read : Incoming → Except TransferError (T × Incoming)) : Prop where
  reads : ∀ value header rest, valid value → encode value = .ok (some header) →
    read (rest.behind header) = .ok (value, rest)
  writes : ∀ s value rest, read s = .ok (value, rest) →
    valid value ∧ ∃ header, encode value = .ok (some header) ∧ s = rest.behind header
  rejects : ∀ s, (∀ value header, valid value → encode value = .ok (some header) → ¬ header <+: s.bytes) →
    ∃ err, read s = .error err

/-- That a reader fails otherwise follows from what it accepts. -/
theorem Delimits.intro {T : Type} {valid : T → Prop} {encode : T → Except String (Option Bytes)}
    {read : Incoming → Except TransferError (T × Incoming)}
    (reads : ∀ value header rest, valid value → encode value = .ok (some header) →
      read (rest.behind header) = .ok (value, rest))
    (writes : ∀ s value rest, read s = .ok (value, rest) →
      valid value ∧ ∃ header, encode value = .ok (some header) ∧ s = rest.behind header) :
    Delimits valid encode read := by
  refine ⟨reads, writes, fun s none => ?_⟩
  cases result : read s with
  | error err => exact ⟨err, rfl⟩
  | ok found =>
    obtain ⟨value, rest⟩ := found
    obtain ⟨ok, header, encoded, rfl⟩ := writes s value rest result
    exact absurd (List.prefix_append header rest.bytes) (none value header ok encoded)

/-! ### What can be written -/

/-- The header has room for the target. -/
def TunnelTarget.Fits : TunnelTarget → Prop
  | addr _ => True
  | domain host _ => host ≠ "" ∧ (hostBytes host).length ≤ 255

instance : DecidablePred TunnelTarget.Fits
  | .addr _ => isTrue trivial
  | .domain _ _ => inferInstanceAs (Decidable (_ ∧ _))

theorem hostBytes_eq_nil_iff {host : String} : hostBytes host = [] ↔ host = "" := by
  constructor
  · intro empty
    have same := fromUTF8_hostBytes host
    rw [empty] at same
    exact Option.some.inj (same.symm.trans (fromUTF8_hostBytes ""))
  · rintro rfl
    rfl

theorem encodeTunnelTarget_domain {host : String} {port : UInt16} (markNone : Bool)
    (fits : (TunnelTarget.domain host port).Fits) :
    encodeTunnelTarget (some (.domain host port)) markNone =
      .ok (some (3 :: UInt8.ofNat (hostBytes host).length :: (hostBytes host ++ portBytes port))) := by
  have positive : (hostBytes host).length ≠ 0 := by
    rw [ne_eq, List.length_eq_zero_iff, hostBytes_eq_nil_iff]
    exact fits.1
  have short := fits.2
  rw [encodeTunnelTarget, if_neg (by omega)]

theorem encodeTunnelTarget_of_fits {target : TunnelTarget} (markNone : Bool) (fits : target.Fits) :
    ∃ header, encodeTunnelTarget (some target) markNone = .ok (some header) := by
  cases target with
  | addr addr => cases addr <;> exact ⟨_, rfl⟩
  | domain host port => exact ⟨_, encodeTunnelTarget_domain markNone fits⟩

theorem encodeTunnelTarget_of_not_fits {target : TunnelTarget} (markNone : Bool) (unfit : ¬ target.Fits) :
    ∃ err, encodeTunnelTarget (some target) markNone = .error err := by
  cases target with
  | addr addr => exact absurd trivial unfit
  | domain host port =>
    have wrong : (hostBytes host).length = 0 ∨ (hostBytes host).length > 255 := by
      rw [List.length_eq_zero_iff, hostBytes_eq_nil_iff]
      by_contra neither
      rw [not_or] at neither
      exact unfit ⟨neither.1, by omega⟩
    exact ⟨_, by rw [encodeTunnelTarget, if_pos wrong]⟩

theorem encodeTunnelTarget_error_iff {target : Option TunnelTarget} :
    (∃ err, encodeTunnelTarget target true = .error err) ↔ ∃ requested, target = some requested ∧ ¬ requested.Fits := by
  constructor
  · rintro ⟨err, failed⟩
    cases target with
    | none => cases failed
    | some requested =>
      refine ⟨requested, rfl, fun fits => ?_⟩
      obtain ⟨header, written⟩ := encodeTunnelTarget_of_fits true fits
      rw [written] at failed
      cases failed
  · rintro ⟨requested, rfl, unfit⟩
    exact encodeTunnelTarget_of_not_fits true unfit

/-! ### What can be read -/

theorem readExact_eq_ok {length : Nat} {s rest : Incoming} {bytes : Bytes}
    (h : readExact length s = .ok (bytes, rest)) : s = rest.behind bytes ∧ bytes.length = length := by
  obtain ⟨split, size⟩ := readExact_ok h
  refine ⟨?_, size⟩
  unfold readExact at h
  split at h
  · obtain ⟨rfl, rfl⟩ := Prod.mk.inj (Except.ok.inj h)
    rw [Incoming.behind, ← split]
  · split at h <;> cases h

theorem portBytes_portOf {bytes : Bytes} (two : bytes.length = 2) : portBytes (portOf bytes) = bytes := by
  have small := ofBe_lt bytes
  rw [two] at small
  rw [portBytes, portOf, UInt16.toNat_ofNat', Nat.mod_eq_of_lt (show ofBe bytes < 2 ^ 16 from small), ← two,
    beBytes_ofBe]

theorem beBytes_ofNat_ofBe {width : Nat} {bytes : Bytes} (size : bytes.length = width) :
    beBytes width (BitVec.ofNat (8 * width) (ofBe bytes)).toNat = bytes := by
  have small := ofBe_lt bytes
  rw [size] at small
  rw [BitVec.toNat_ofNat, Nat.mod_eq_of_lt (by rw [Nat.pow_mul]; exact small), ← size, beBytes_ofBe]

theorem hostBytes_of_fromUTF8 {bytes : Bytes} {host : String}
    (h : String.fromUTF8? ⟨bytes.toArray⟩ = some host) : hostBytes host = bytes := by
  unfold String.fromUTF8? at h
  split at h
  · obtain rfl := Option.some.inj h
    rfl
  · cases h

theorem bind_eq_ok {ε α β : Type} {x : Except ε α} {f : α → Except ε β} {result : β} (h : (x >>= f) = .ok result) :
    ∃ value, x = .ok value ∧ f value = .ok result := by
  cases x with
  | error err => cases h
  | ok value => exact ⟨value, rfl, h⟩

/-- An address and a port are the bytes they have been read from. -/
theorem readExact_address {width : Nat} {s rest : Incoming} {buf : Bytes}
    (h : readExact (width + 2) s = .ok (buf, rest)) :
    s = rest.behind buf ∧ beBytes width (BitVec.ofNat (8 * width) (ofBe (buf.take width))).toNat ++
      portBytes (portOf (buf.drop width)) = buf := by
  obtain ⟨whole, size⟩ := readExact_eq_ok h
  have ip : (buf.take width).length = width := by
    rw [List.length_take, size]
    exact Nat.min_eq_left (Nat.le_add_right _ _)
  have port : (buf.drop width).length = 2 := by
    rw [List.length_drop, size]
    exact Nat.add_sub_cancel_left _ _
  exact ⟨whole, by rw [beBytes_ofNat_ofBe ip, portBytes_portOf port, List.take_append_drop]⟩

theorem readTunnelTargetBody_domain {s rest : Incoming} {target : TunnelTarget} (markNone : Bool)
    (h : readTunnelTargetBody 3 s = .ok (target, rest)) :
    target.Plain ∧ ∃ body, encodeTunnelTarget (some target) markNone = .ok (some (3 :: body)) ∧
      s = rest.behind body := by
  obtain ⟨⟨len, afterLen⟩, readLen, found⟩ := bind_eq_ok h
  obtain ⟨rfl, one⟩ := readExact_eq_ok readLen
  obtain ⟨b, rfl⟩ := List.length_eq_one_iff.mp one
  dsimp only at found
  rw [List.headD_cons] at found
  by_cases zero : b.toNat = 0
  · rw [if_pos zero] at found
    cases found
  rw [if_neg zero] at found
  obtain ⟨⟨buf, after⟩, read, last⟩ := bind_eq_ok found
  obtain ⟨rfl, size⟩ := readExact_eq_ok read
  dsimp only at last
  split at last
  case h_2 => cases last
  rename_i host decoded
  obtain ⟨rfl, rfl⟩ := Prod.mk.inj (Except.ok.inj last)
  have bytes := hostBytes_of_fromUTF8 decoded
  have length : (hostBytes host).length = b.toNat := by
    rw [bytes, List.length_take, size]
    exact Nat.min_eq_left (Nat.le_add_right _ _)
  have port : (buf.drop b.toNat).length = 2 := by
    rw [List.length_drop, size]
    exact Nat.add_sub_cancel_left _ _
  have fits : (TunnelTarget.domain host (portOf (buf.drop b.toNat))).Fits := by
    refine ⟨fun empty => zero ?_, by rw [length]; exact Nat.le_of_lt_succ b.toNat_lt⟩
    rw [← length, empty]
    rfl
  refine ⟨rfl, b :: buf, ?_, rfl⟩
  rw [encodeTunnelTarget_domain markNone fits, length, UInt8.ofNat_toNat, bytes, portBytes_portOf port,
    List.take_append_drop]

theorem readTunnelTargetBody_writes {family : UInt8} {s rest : Incoming} {target : TunnelTarget} (markNone : Bool)
    (h : readTunnelTargetBody family s = .ok (target, rest)) :
    target.Plain ∧ ∃ body, encodeTunnelTarget (some target) markNone = .ok (some (family :: body)) ∧
      s = rest.behind body := by
  by_cases four : family = 4
  · subst four
    obtain ⟨⟨buf, after⟩, read, found⟩ := bind_eq_ok h
    obtain ⟨rfl, rfl⟩ := Prod.mk.inj (Except.ok.inj found)
    obtain ⟨whole, address⟩ := readExact_address read
    exact ⟨rfl, buf, congrArg (fun body => Except.ok (some (4 :: body))) address, whole⟩
  by_cases six : family = 6
  · subst six
    obtain ⟨⟨buf, after⟩, read, found⟩ := bind_eq_ok h
    obtain ⟨rfl, rfl⟩ := Prod.mk.inj (Except.ok.inj found)
    obtain ⟨whole, address⟩ := readExact_address read
    exact ⟨rfl, buf, congrArg (fun body => Except.ok (some (6 :: body))) address, whole⟩
  by_cases three : family = 3
  · subst three
    exact readTunnelTargetBody_domain markNone h
  · rw [readTunnelTargetBody, if_neg four, if_neg six, if_neg three] at h
    cases h

theorem readTargetFamily_eq_ok {s rest : Incoming} {family : UInt8} (h : readTargetFamily s = .ok (family, rest)) :
    s = rest.behind [family] := by
  obtain ⟨⟨bytes, after⟩, read, found⟩ := bind_eq_ok h
  obtain ⟨rfl, one⟩ := readExact_eq_ok read
  obtain ⟨b, rfl⟩ := List.length_eq_one_iff.mp one
  obtain ⟨rfl, rfl⟩ := Prod.mk.inj (Except.ok.inj found)
  rfl

/-- The end that expects a target reads nothing else. -/
theorem delimits_readTunnelTarget (markNone : Bool) :
    Delimits TunnelTarget.Plain (fun target => encodeTunnelTarget (some target) markNone) readTunnelTarget := by
  apply Delimits.intro
  · intro target header rest plain written
    rw [Incoming.behind, readTunnelTarget_encode written, plain]
  · intro s target rest read
    obtain ⟨⟨family, after⟩, first, body⟩ := bind_eq_ok read
    obtain rfl := readTargetFamily_eq_ok first
    obtain ⟨plain, bytes, written, rfl⟩ := readTunnelTargetBody_writes markNone body
    exact ⟨plain, _, written, rfl⟩

theorem delimits_readOptionalTunnelTarget :
    Delimits (fun target => ∀ requested, target = some requested → requested.Plain)
      (fun target => encodeTunnelTarget target true) readOptionalTunnelTarget := by
  apply Delimits.intro
  · intro target header rest plain written
    rw [Incoming.behind, readOptionalTunnelTarget_encode written]
    cases target with
    | none => rfl
    | some requested => rw [Option.map_some, plain requested rfl]
  · intro s target rest read
    obtain ⟨⟨family, after⟩, first, body⟩ := bind_eq_ok read
    obtain rfl := readTargetFamily_eq_ok first
    dsimp only at body
    split at body
    · rename_i zero
      obtain ⟨rfl, rfl⟩ := Prod.mk.inj (Except.ok.inj body)
      exact ⟨by rintro _ ⟨⟩, [0], rfl, by rw [zero]⟩
    · obtain ⟨⟨requested, last⟩, found, made⟩ := bind_eq_ok body
      obtain ⟨rfl, rfl⟩ := Prod.mk.inj (Except.ok.inj made)
      obtain ⟨plain, bytes, written, rfl⟩ := readTunnelTargetBody_writes true found
      refine ⟨?_, _, written, rfl⟩
      rintro _ ⟨⟩
      exact plain

/-- A target cannot be written exactly if its host is empty or too long. The others and the mark for the
absence of a target are read back, and only what would have been written is accepted. -/
theorem target_format :
    (∀ target, (∃ err, encodeTunnelTarget target true = .error err) ↔
      ∃ host port, target = some (.domain host port) ∧ (host = "" ∨ 255 < (hostBytes host).length)) ∧
    (∀ target, (∃ err, encodeTunnelTarget target true = .error err) ∨
      ∃ header, encodeTunnelTarget target true = .ok (some header)) ∧
    Delimits (fun target => ∀ requested, target = some requested → requested.Plain)
      (fun target => encodeTunnelTarget target true) readOptionalTunnelTarget ∧
    Delimits TunnelTarget.Plain (fun target => encodeTunnelTarget (some target) true) readTunnelTarget ∧
    ∀ rest, readTunnelTarget (Incoming.behind [0] rest) = .error .invalidIPFamily := by
  refine ⟨fun target => ?_, fun target => ?_, delimits_readOptionalTunnelTarget, delimits_readTunnelTarget true,
    fun rest => rfl⟩
  · rw [encodeTunnelTarget_error_iff]
    constructor
    · rintro ⟨requested, rfl, unfit⟩
      cases requested with
      | addr addr => exact absurd trivial unfit
      | domain host port =>
        refine ⟨host, port, rfl, ?_⟩
        by_contra neither
        rw [not_or, Nat.not_lt] at neither
        exact unfit neither
    · rintro ⟨host, port, rfl, wrong⟩
      refine ⟨_, rfl, fun fits => ?_⟩
      rcases wrong with empty | long
      · exact fits.1 empty
      · exact absurd fits.2 (Nat.not_le.mpr long)
  · cases target with
    | none => exact .inr ⟨[0], rfl⟩
    | some requested =>
      by_cases fits : requested.Fits
      · exact .inr (encodeTunnelTarget_of_fits true fits)
      · exact .inl (encodeTunnelTarget_of_not_fits true fits)

end Rstun.Tunnel
