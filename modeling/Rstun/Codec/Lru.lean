import Mathlib.Data.List.AList
import Rstun.Base.HistoryCodec

/-!
# The table of codec pairs

`CodecLru` from `codec/lru.rs`, over the heap of `Arc<CodecPair>` objects of one process: a `Ref`
is the identity of a pair, and an object that nothing refers to any more is never read again. The
encoder and the decoder of a pair are zstd streams seen through their history. Dictionary, level
and window log are the same for every pair of a table and only choose the codec.
-/

namespace Rstun.Codec
open Streaming

abbrev Bytes := List UInt8
abbrev PairId := BitVec 128
abbrev Ref := Nat

structure CodecPair where
  encoder : Encoder UInt8
  decoder : Decoder UInt8
  errored : Bool
  deriving DecidableEq

namespace CodecPair

def new : CodecPair := ⟨.fresh, .fresh, false⟩

def markErrored (p : CodecPair) : CodecPair := { p with errored := true }

def resetEncoder (p : CodecPair) : CodecPair := { p with encoder := .fresh }

def resetDecoder (p : CodecPair) : CodecPair := { p with decoder := .fresh }

end CodecPair

/-- The cache keeps its keys distinct. Its capacity and time-to-idle are left to `evict`. -/
structure CodecLru where
  cache : AList fun _ : PairId => Ref
  pairs : Ref → CodecPair
  next : Ref

inductive LookupResult where
  | hit (id : PairId) (pair : Ref)
  | miss (id : PairId) (pair : Ref)

/-- The id drawn from the clock and the hash of the thread id. -/
def randId (now tidHash : BitVec 128) : PairId :=
  let x := now ^^^ tidHash.rotateLeft 37
  let x := x ^^^ (x <<< 13)
  let x := x ^^^ (x >>> 7)
  let x := x ^^^ (x <<< 17)
  if x = 0 then 1 else x

theorem randId_ne_zero (now tidHash : BitVec 128) : randId now tidHash ≠ 0 := by
  unfold randId
  dsimp only
  split
  · decide
  · assumption

namespace CodecLru

def new : CodecLru := ⟨∅, fun _ => .new, 0⟩

def modify (lru : CodecLru) (r : Ref) (f : CodecPair → CodecPair) : CodecLru :=
  { lru with pairs := Function.update lru.pairs r (f (lru.pairs r)) }

def alloc (lru : CodecLru) : Ref × CodecLru :=
  (lru.next, { lru with pairs := Function.update lru.pairs lru.next .new, next := lru.next + 1 })

def remove (lru : CodecLru) (id : PairId) : Option Ref × CodecLru :=
  (lru.cache.lookup id, { lru with cache := lru.cache.erase id })

/-- The first half of `checkout`: the first healthy pair, in the order `iter` in which the cache
happens to iterate. -/
def scan (lru : CodecLru) (iter : List (Σ _ : PairId, Ref)) : Option PairId :=
  (iter.find? fun entry => !(lru.pairs entry.2).errored).map Sigma.fst

/-- The second half of `checkout`: remove the pair found, if it is still there and healthy, or
create one under the id `drawn`. -/
def takeOut (lru : CodecLru) (reuse : Option PairId) (drawn : PairId) : (PairId × Ref) × CodecLru :=
  let create (lru : CodecLru) := ((drawn, lru.alloc.1), lru.alloc.2)
  match reuse with
  | some id =>
    match lru.remove id with
    | (some pair, lru') => if !(lru'.pairs pair).errored then ((id, pair), lru') else create lru'
    | (none, lru') => create lru'
  | none => create lru

def lookup (lru : CodecLru) (id : PairId) : LookupResult × CodecLru :=
  let miss (lru : CodecLru) := (LookupResult.miss id lru.alloc.1, lru.alloc.2)
  if id = 0 then miss lru
  else
    match lru.remove id with
    | (some pair, lru') => if !(lru'.pairs pair).errored then (.hit id pair, lru') else miss lru'
    | (none, lru') => miss lru'

def checkin (lru : CodecLru) (id : PairId) (pair : Ref) : CodecLru :=
  if id = 0 ∨ (lru.pairs pair).errored then lru
  else { lru with cache := lru.cache.insert id pair }

def evict (lru : CodecLru) (id : PairId) : CodecLru := (lru.remove id).2

def Healthy (lru : CodecLru) : Prop :=
  ∀ id r, lru.cache.lookup id = some r → (lru.pairs r).errored = false

theorem erase_of_lookup_none {cache : AList fun _ : PairId => Ref} {id : PairId}
    (absent : cache.lookup id = none) : cache.erase id = cache := by
  apply AList.ext
  have notKey : id ∉ cache.entries.keys := AList.lookup_eq_none.mp absent
  exact List.kerase_of_notMem_keys notKey

theorem takeOut_cases {lru lru' : CodecLru} {reuse : Option PairId} {drawn id : PairId} {r : Ref}
    (healthy : lru.Healthy) (h : lru.takeOut reuse drawn = ((id, r), lru')) :
    (lru.cache.lookup id = some r ∧ lru' = lru.evict id) ∨
    (id = drawn ∧ r = lru.next ∧ lru' = lru.alloc.2) := by
  unfold takeOut at h
  cases reuse with
  | none =>
    simp only [Prod.mk.injEq] at h
    obtain ⟨⟨rfl, rfl⟩, rfl⟩ := h
    exact Or.inr ⟨rfl, rfl, rfl⟩
  | some found =>
    simp only [remove] at h
    cases present : lru.cache.lookup found with
    | none =>
      rw [present, erase_of_lookup_none present] at h
      simp only [Prod.mk.injEq] at h
      obtain ⟨⟨rfl, rfl⟩, rfl⟩ := h
      exact Or.inr ⟨rfl, rfl, rfl⟩
    | some pair =>
      rw [present] at h
      simp only [healthy found pair present, Bool.not_false, if_true, Prod.mk.injEq] at h
      obtain ⟨⟨rfl, rfl⟩, rfl⟩ := h
      exact Or.inl ⟨present, rfl⟩

theorem lookup_cases {lru lru' : CodecLru} {id : PairId} {result : LookupResult}
    (healthy : lru.Healthy) (nonzero : lru.cache.lookup 0 = none)
    (h : lru.lookup id = (result, lru')) :
    (∃ r, id ≠ 0 ∧ lru.cache.lookup id = some r ∧ result = .hit id r ∧ lru' = lru.evict id) ∨
    (lru.cache.lookup id = none ∧ result = .miss id lru.next ∧ lru' = lru.alloc.2) := by
  unfold lookup at h
  by_cases zero : id = 0
  · subst zero
    simp only [if_true, Prod.mk.injEq] at h
    exact Or.inr ⟨nonzero, h.1.symm, h.2.symm⟩
  · simp only [zero, if_false, remove] at h
    cases present : lru.cache.lookup id with
    | none =>
      rw [present, erase_of_lookup_none present] at h
      simp only [Prod.mk.injEq] at h
      exact Or.inr ⟨rfl, h.1.symm, h.2.symm⟩
    | some pair =>
      rw [present] at h
      simp only [healthy id pair present, Bool.not_false, if_true, Prod.mk.injEq] at h
      exact Or.inl ⟨pair, zero, rfl, h.1.symm, h.2.symm⟩

end CodecLru

end Rstun.Codec
