import Mathlib.Data.List.Infix
import Rstun.Base.BigEndian

/-!
# Length-prefixed frames

A frame is a payload behind its length. A reader collects the bytes of a frame in chunks of any size
and never asks for more than are missing. `Passing` says that a frame is on its way, with a part of it
in the reader's hands, a part on the wire and a part not yet sent.
-/

namespace Framing
open BigEndian

variable {width : Nat} {payload buf inflight unsent : List UInt8}

def frame (width : Nat) (payload : List UInt8) : List UInt8 := beBytes width payload.length ++ payload

/-- How many bytes of a frame a reader still waits for. It learns the length only from the first
`width` of them. -/
def missing (width : Nat) (buf : List UInt8) : Nat :=
  if buf.length < width then width - buf.length else width + ofBe (buf.take width) - buf.length

theorem length_frame (width : Nat) (payload : List UInt8) :
    (frame width payload).length = width + payload.length := by
  simp [frame]

def Passing (width : Nat) (payload buf inflight unsent : List UInt8) : Prop :=
  buf ++ inflight ++ unsent = frame width payload

namespace Passing

theorem start (width : Nat) (payload : List UInt8) : Passing width payload [] [] (frame width payload) := rfl

theorem push {chunk more : List UInt8} (h : Passing width payload buf inflight (chunk ++ more)) :
    Passing width payload buf (inflight ++ chunk) more := by
  simpa [Passing] using h

theorem pull {chunk more : List UInt8} (h : Passing width payload buf (chunk ++ more) unsent) :
    Passing width payload (buf ++ chunk) more unsent := by
  simpa [Passing] using h

/-- Once the header has arrived, it says how long the payload is. -/
theorem length_read (h : Passing width payload buf inflight unsent) (small : payload.length < 256 ^ width)
    (header : width ≤ buf.length) : ofBe (buf.take width) = payload.length := by
  have taken : (frame width payload).take width = buf.take width := by
    rw [← h, List.append_assoc, List.take_append_of_le_length header]
  rw [← taken, frame, List.take_left' (length_beBytes width _), ofBe_beBytes small]

theorem length_eq (h : Passing width payload buf inflight unsent) :
    buf.length + inflight.length + unsent.length = width + payload.length := by
  have same := congrArg List.length h
  simpa only [List.length_append, length_frame] using same

end Passing

/-! ### Reading frame after frame -/

/-- What is read as a frame from the beginning of a sequence of frames is the first of them. -/
theorem frame_first {payloads : List (List UInt8)} {bytes header data rest : List UInt8}
    (written : bytes <+: payloads.flatMap (frame width)) (small : ∀ payload ∈ payloads, payload.length < 256 ^ width)
    (read : bytes = header ++ data ++ rest) (size : header.length = width) (positive : 0 < width)
    (length : ofBe header = data.length) : ∃ later, payloads = data :: later ∧ header ++ data = frame width data := by
  cases payloads with
  | nil =>
    have empty := List.prefix_nil.mp written
    rw [empty] at read
    simp only [List.nil_eq, List.append_eq_nil_iff] at read
    rw [read.1.1] at size
    simp only [List.length_nil] at size
    omega
  | cons payload later =>
    obtain ⟨behind, whole⟩ := written
    rw [read, List.flatMap_cons, frame, List.append_assoc, List.append_assoc, List.append_assoc] at whole
    obtain ⟨rfl, tail⟩ := List.append_inj whole (by rw [size, length_beBytes])
    rw [ofBe_beBytes (small payload List.mem_cons_self)] at length
    obtain ⟨rfl, _⟩ := List.append_inj tail length.symm
    exact ⟨later, rfl, rfl⟩

/-- A reader of a stream that begins with `header` and goes on with the frames of `payloads`: it has come
to the end of one of them. -/
structure Cursor (width : Nat) (header : List UInt8) (payloads : List (List UInt8)) (wire : List UInt8)
    (position : Nat) (read : List (List UInt8)) : Prop where
  inside : position ≤ wire.length
  behind : wire.take position = header ++ read.flatMap (frame width)
  read : read <+: payloads

namespace Cursor

variable {header wire data rest : List UInt8} {payloads read : List (List UInt8)} {position : Nat}

theorem grow {wire' : List UInt8} {payloads' : List (List UInt8)} (inv : Cursor width header payloads wire position read)
    (longer : wire <+: wire') (more : payloads <+: payloads') : Cursor width header payloads' wire' position read := by
  obtain ⟨added, rfl⟩ := longer
  refine ⟨inv.inside.trans (by simp), ?_, inv.read.trans more⟩
  rw [List.take_append_of_le_length inv.inside, inv.behind]

theorem next {length : List UInt8} (inv : Cursor width header payloads wire position read)
    (written : wire <+: header ++ payloads.flatMap (frame width))
    (small : ∀ payload ∈ payloads, payload.length < 256 ^ width) (positive : 0 < width)
    (taken : wire.drop position = length ++ data ++ rest) (size : length.length = width)
    (announced : ofBe length = data.length) :
    Cursor width header payloads wire (wire.length - rest.length) (read ++ [data]) := by
  obtain ⟨later, rfl⟩ := inv.read
  have split : wire = header ++ read.flatMap (frame width) ++ wire.drop position := by
    rw [← inv.behind, List.take_append_drop]
  have ahead : wire.drop position <+: later.flatMap (frame width) := by
    rw [split, List.flatMap_append, ← List.append_assoc] at written
    exact (List.prefix_append_right_inj _).mp written
  obtain ⟨later', rfl, framed⟩ := frame_first ahead (fun payload member => small payload (List.mem_append_right _ member))
    taken size positive announced
  have whole : wire = (header ++ (read ++ [data]).flatMap (frame width)) ++ rest := by
    rw [split, taken, framed]
    simp
  refine ⟨Nat.sub_le .., ?_, List.prefix_append_right_inj _ |>.mpr (List.prefix_append [data] later')⟩
  rw [whole, List.length_append, Nat.add_sub_cancel, List.take_left]

end Cursor

end Framing
