import Vmstated.Library.Call
import Vmstated.Library.Memory

/-! libutils/transmit_collect.c: buffers kept for transmission. Allocations and
the mutex do not fail. -/
namespace Vmstated.Libutils
open Library

structure SocketTransmissionCollector where
  items : List (List UInt8)

def stcNew : SocketTransmissionCollector := ⟨[]⟩

def stcStoreTransmit (buffer : List UInt8) : StateM SocketTransmissionCollector Int := do
  if buffer.length = 0 then
    return -1
  modify fun stc => { stc with items := stc.items ++ [buffer] }
  return 0

theorem stcStoreTransmit_of_ne {buffer : List UInt8} (hne : buffer ≠ [])
    (stc : SocketTransmissionCollector) :
    stcStoreTransmit buffer stc = (0, ⟨stc.items ++ [buffer]⟩) := by
  have hlength : buffer.length ≠ 0 := by simpa using hne
  unfold stcStoreTransmit
  rw [if_neg hlength]
  rfl

def stcGetbuffercount (stc : SocketTransmissionCollector) : Nat := stc.items.length

def stcGetbuffersize (stc : SocketTransmissionCollector) : Nat := (stc.items.map List.length).sum

def sizeofSizeT : Nat := 8

/-- The loop of `stc_collect`, from `offset` and `counter` on. -/
def copyItems : List (List UInt8) → Nat → Nat → List UInt8 → List Nat → List UInt8 × List Nat
  | [], _, _, buffer, bufferLens => (buffer, bufferLens)
  | item :: items, offset, counter, buffer, bufferLens =>
    copyItems items (offset + item.length) (counter + 1) (overlay offset item buffer)
      (bufferLens.set counter item.length)

/-- The result, and what `buffer` and `bufferLens` hold afterwards.
`bufferLenslen` is the size of `bufferLens` in bytes. -/
def stcCollect (stc : SocketTransmissionCollector) (buffer : List UInt8) (bufferlen : Int)
    (bufferLens : List Nat) (bufferLenslen : Nat) : Int × List UInt8 × List Nat :=
  if bufferlen = 0 ∨ bufferLenslen = 0 then (-1, buffer, bufferLens)
  else if bufferlen < stcGetbuffersize stc ∨
      bufferLenslen < sizeofSizeT * stcGetbuffercount stc then (-1, buffer, bufferLens)
  else (0, copyItems stc.items 0 0 buffer bufferLens)

theorem copyItems_eq {items : List (List UInt8)} {old : List UInt8} {oldLens : List Nat}
    (front tail : List UInt8) (lens tailLens : List Nat) (hold : old.length = items.flatten.length)
    (hlens : oldLens.length = items.length) :
    copyItems items front.length lens.length (front ++ old ++ tail) (lens ++ oldLens ++ tailLens) =
      (front ++ items.flatten ++ tail, lens ++ items.map List.length ++ tailLens) := by
  induction items generalizing front old lens oldLens with
  | nil =>
    rw [List.flatten_nil, List.length_nil, List.length_eq_zero_iff] at hold
    rw [List.length_nil, List.length_eq_zero_iff] at hlens
    subst hold hlens
    rfl
  | cons item items ih =>
    obtain ⟨first, later, rfl, hfirst⟩ : ∃ first later,
        old = first ++ later ∧ first.length = item.length := by
      refine ⟨old.take item.length, old.drop item.length, (List.take_append_drop _ _).symm, ?_⟩
      rw [List.flatten_cons, List.length_append] at hold
      rw [List.length_take]
      omega
    obtain ⟨len, laterLens, rfl⟩ : ∃ len laterLens, oldLens = len :: laterLens := by
      cases oldLens with
      | nil => simp at hlens
      | cons len laterLens => exact ⟨len, laterLens, rfl⟩
    have hcopied : overlay front.length item (front ++ (first ++ later) ++ tail) =
        (front ++ item) ++ later ++ tail := by
      simpa using overlay_append front (later ++ tail) hfirst.symm
    have hset : (lens ++ len :: laterLens ++ tailLens).set lens.length item.length =
        (lens ++ [item.length]) ++ laterLens ++ tailLens := by
      simp
    have hlater : later.length = items.flatten.length := by
      simp only [List.length_append, List.flatten_cons] at hold
      omega
    have hrest := ih (front ++ item) (lens ++ [item.length]) hlater (by simpa using hlens)
    rw [copyItems, hcopied, hset]
    rw [List.length_append, List.length_append, List.length_singleton] at hrest
    rw [hrest]
    simp

theorem stcGetbuffersize_eq (stc : SocketTransmissionCollector) :
    stcGetbuffersize stc = stc.items.flatten.length := by
  rw [stcGetbuffersize, List.length_flatten]

theorem stcCollect_room {stc : SocketTransmissionCollector} {buffer : List UInt8} {bufferlen : Int}
    {bufferLens : List Nat} {bufferLenslen : Nat} (hne : bufferlen ≠ 0 ∧ bufferLenslen ≠ 0)
    (hbytes : (stcGetbuffersize stc : Int) ≤ bufferlen) (hfits : bufferlen ≤ buffer.length)
    (hcount : sizeofSizeT * stcGetbuffercount stc ≤ bufferLenslen)
    (hlens : stc.items.length ≤ bufferLens.length) :
    stcCollect stc buffer bufferlen bufferLens bufferLenslen =
      (0, stc.items.flatten ++ buffer.drop stc.items.flatten.length,
        stc.items.map List.length ++ bufferLens.drop stc.items.length) := by
  rw [stcGetbuffersize_eq] at hbytes
  have hcopied :=
    copyItems_eq [] (buffer.drop stc.items.flatten.length) [] (bufferLens.drop stc.items.length)
      (List.length_take_of_le (by omega : stc.items.flatten.length ≤ buffer.length))
      (List.length_take_of_le hlens)
  simp only [List.nil_append, List.length_nil, List.take_append_drop] at hcopied
  have hroom : ¬(bufferlen < stcGetbuffersize stc ∨
      bufferLenslen < sizeofSizeT * stcGetbuffercount stc) := by
    rw [stcGetbuffersize_eq]
    omega
  rw [stcCollect, if_neg (not_or.mpr hne), if_neg hroom, hcopied]

theorem stcCollect_small {stc : SocketTransmissionCollector} {buffer : List UInt8} {bufferlen : Int}
    {bufferLens : List Nat} {bufferLenslen : Nat}
    (hsmall : ¬((bufferlen ≠ 0 ∧ bufferLenslen ≠ 0) ∧ (stcGetbuffersize stc : Int) ≤ bufferlen ∧
      sizeofSizeT * stcGetbuffercount stc ≤ bufferLenslen)) :
    stcCollect stc buffer bufferlen bufferLens bufferLenslen = (-1, buffer, bufferLens) := by
  unfold stcCollect
  by_cases hzero : bufferlen = 0 ∨ bufferLenslen = 0
  · rw [if_pos hzero]
  · rw [if_neg hzero, if_pos (by omega)]

theorem stcCollect_exact {stc : SocketTransmissionCollector} (hne : stc.items.flatten ≠ [])
    {buffer : List UInt8} {bufferLens : List Nat} (hbuffer : buffer.length = stcGetbuffersize stc)
    (hlens : bufferLens.length = stcGetbuffercount stc) :
    stcCollect stc buffer (stcGetbuffersize stc) bufferLens (sizeofSizeT * stcGetbuffercount stc) =
      (0, stc.items.flatten, stc.items.map List.length) := by
  have hpos : 0 < stc.items.flatten.length := List.length_pos_iff.mpr hne
  have hcount : 0 < stc.items.length := by
    rw [List.length_pos_iff]
    rintro hnil
    rw [hnil] at hne
    exact hne rfl
  have hnonzero : ((stcGetbuffersize stc : Int) ≠ 0 ∧ sizeofSizeT * stcGetbuffercount stc ≠ 0) := by
    rw [stcGetbuffersize_eq, stcGetbuffercount, sizeofSizeT]
    omega
  have hsize : (stcGetbuffersize stc : Int) ≤ buffer.length :=
    Int.ofNat_le.mpr (Nat.le_of_eq hbuffer.symm)
  have hroom :=
    stcCollect_room hnonzero (Int.le_refl _) hsize (Nat.le_refl _) (Nat.le_of_eq hlens.symm)
  rw [stcGetbuffersize_eq] at hbuffer
  rw [stcGetbuffercount] at hlens
  rw [hroom, List.drop_of_length_le (Nat.le_of_eq hbuffer),
    List.drop_of_length_le (Nat.le_of_eq hlens), List.append_nil, List.append_nil]

end Vmstated.Libutils
