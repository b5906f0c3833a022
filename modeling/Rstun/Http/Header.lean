import Mathlib.Data.List.DropRight
import Rstun.Tunnel.Target

/-!
# HTTP header blocks

What `codec/http.rs` takes from a header block: whether `httparse` accepts it as a request or as a
response, and the value of its first `Content-Length` header. `httparse` itself is a parameter.
-/

namespace Rstun.Http
open Rstun.Tunnel

structure Header where
  name : Bytes
  value : Bytes
  deriving DecidableEq

/-! ### Content-Length -/

def toAsciiLowercase (b : UInt8) : UInt8 := if 65 ≤ b ∧ b ≤ 90 then b + 32 else b

def Header.isContentLength (header : Header) : Bool :=
  header.name.map toAsciiLowercase = hostBytes "content-length"

/-- The characters that `str::trim` takes away. -/
def isWhiteSpace (c : Char) : Bool :=
  let n := c.toNat
  (0x9 ≤ n ∧ n ≤ 0xd) ∨ n = 0x20 ∨ n = 0x85 ∨ n = 0xa0 ∨ n = 0x1680 ∨ (0x2000 ≤ n ∧ n ≤ 0x200a) ∨
    n = 0x2028 ∨ n = 0x2029 ∨ n = 0x202f ∨ n = 0x205f ∨ n = 0x3000

def trim (text : List Char) : List Char := (text.dropWhile isWhiteSpace).rdropWhile isWhiteSpace

def usizeBound : Nat := 2 ^ 64

def stripPlus : List Char → List Char
  | '+' :: rest => rest
  | text => text

/-- `str::parse::<usize>`: a sign may be there, but only a plus, and the number has to fit. -/
def parseUsize (text : List Char) : Option Nat :=
  let digits := stripPlus text
  if digits ≠ [] ∧ digits.all Char.isDigit ∧ Nat.ofDigitChars 10 digits 0 < usizeBound then
    some (Nat.ofDigitChars 10 digits 0)
  else none

def usizeOf (value : Bytes) : Option Nat := do
  let text ← String.fromUTF8? ⟨value.toArray⟩
  parseUsize (trim text.toList)

def contentLength (headers : List Header) : Option Nat :=
  (headers.find? Header.isContentLength).bind fun header => usizeOf header.value

def decimal (n : Nat) : Bytes := hostBytes (toString n)

theorem parseUsize_lt {text : List Char} {n : Nat} (h : parseUsize text = some n) : n < usizeBound := by
  simp only [parseUsize] at h
  split at h
  · rename_i parses
    cases h
    exact parses.2.2
  · cases h

theorem contentLength_lt {headers : List Header} {n : Nat} (h : contentLength headers = some n) :
    n < usizeBound := by
  obtain ⟨header, _, parsed⟩ := Option.bind_eq_some_iff.mp h
  obtain ⟨text, _, parsed⟩ := Option.bind_eq_some_iff.mp parsed
  exact parseUsize_lt parsed

theorem isDigit_range {c : Char} (digit : c.isDigit = true) : 48 ≤ c.toNat ∧ c.toNat ≤ 57 := by
  simpa [Char.isDigit, UInt32.le_iff_toNat_le] using digit

theorem isWhiteSpace_of_isDigit {c : Char} (digit : c.isDigit = true) : isWhiteSpace c = false := by
  obtain ⟨low, high⟩ := isDigit_range digit
  simp only [isWhiteSpace, decide_eq_false_iff_not]
  omega

theorem trim_of_digits {text : List Char} (digits : ∀ c ∈ text, c.isDigit = true) : trim text = text := by
  have plain : ∀ c ∈ text, isWhiteSpace c = false := fun c member => isWhiteSpace_of_isDigit (digits c member)
  have front : text.dropWhile isWhiteSpace = text := by
    rw [List.dropWhile_eq_self_iff]
    intro nonempty
    simp [plain _ (List.getElem_mem nonempty)]
  rw [trim, front, List.rdropWhile_eq_self_iff]
  intro nonempty
  simp [plain _ (List.getLast_mem nonempty)]

theorem stripPlus_of_digits {text : List Char} (digits : ∀ c ∈ text, c.isDigit = true) : stripPlus text = text := by
  unfold stripPlus
  split
  · have sign := digits '+' List.mem_cons_self
    exact absurd sign (by decide)
  · rfl

/-- The decimal digits of a length are read back as that length. -/
theorem usizeOf_decimal {n : Nat} (fits : n < usizeBound) : usizeOf (decimal n) = some n := by
  have digits : ∀ c ∈ Nat.toDigits 10 n, c.isDigit = true := fun c =>
    Nat.isDigit_of_mem_toDigits (by decide) (by decide)
  have value : Nat.ofDigitChars 10 (Nat.toDigits 10 n) 0 = n := Nat.ofDigitChars_toDigits (by decide) (by decide)
  have text : (toString n).toList = Nat.toDigits 10 n := Nat.toList_repr
  rw [usizeOf, decimal, fromUTF8_hostBytes, Option.bind_eq_bind, Option.bind_some, text, trim_of_digits digits]
  simp only [parseUsize, stripPlus_of_digits digits, value]
  exact if_pos ⟨Nat.toDigits_ne_nil, List.all_eq_true.mpr digits, fits⟩

/-! ### httparse -/

inductive Status where
  | complete
  | incomplete
  deriving DecidableEq

/-- What a parser of `httparse` holds after it has seen a block. -/
structure Parsed where
  status : Status
  version : Option UInt8
  headers : List Header
  deriving DecidableEq

/-- The two parsers of `httparse`. An error is its text. -/
structure Httparse where
  request : Bytes → Except String Parsed
  response : Bytes → Except String Parsed

inductive HttpError where
  | headerTooLarge
  | unsupportedVersion (version : Option UInt8)
  | parse (err : String)
  | reparse (err : String)
  | timeout
  | read
  | unexpectedEof
  deriving DecidableEq

def supported (version : Option UInt8) : Bool := version = some 0 ∨ version = some 1

/-- The part of `try_parse` that has to do with `httparse`. A block that is no request may be a response.
Without headers, more data is asked for. -/
def Httparse.parseHeaders (h : Httparse) (block : Bytes) : Except HttpError (Option (List Header)) :=
  match h.request block with
  | .ok ⟨.complete, version, headers⟩ =>
    if supported version then .ok (some headers) else .error (.unsupportedVersion version)
  | .ok ⟨.incomplete, _, _⟩ => .ok none
  | .error _ =>
    match h.response block with
    | .ok ⟨.complete, version, _⟩ =>
      if supported version then
        -- The headers of a response are those of another parse of the same block.
        match h.response block with
        | .ok again => .ok (some again.headers)
        | .error err => .error (.reparse err)
      else .error (.unsupportedVersion version)
    | .ok ⟨.incomplete, _, _⟩ => .ok none
    | .error err => .error (.parse err)

/-! ### A small parser

It stands for `httparse` where an example needs one: it skips empty lines and takes whatever follows
for a request. -/

def lines : Bytes → List Bytes
  | [] => []
  | 13 :: 10 :: rest => [] :: lines rest
  | b :: rest =>
    match lines rest with
    | [] => [[b]]
    | line :: more => (b :: line) :: more

def headerOf (line : Bytes) : Header :=
  ⟨line.takeWhile (· ≠ 58), ((line.dropWhile (· ≠ 58)).drop 1).dropWhile (· = 32)⟩

def lineParser : Httparse where
  request block :=
    match (lines block).dropWhile (· = []) with
    | [] => .ok ⟨.incomplete, none, []⟩
    | _ :: fields => .ok ⟨.complete, some 1, (fields.takeWhile (· ≠ [])).map headerOf⟩
  response _ := .error "no response"

end Rstun.Http
