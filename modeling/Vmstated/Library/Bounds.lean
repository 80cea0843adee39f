import Mathlib.Data.List.GetD
import Vmstated.Library.Memory

/-! Accesses to C memory that stay inside of it, and arithmetic on `size_t`
that does not wrap. -/
namespace Vmstated.Library

def load (offset count : Nat) (memory : List UInt8) : Option (List UInt8) :=
  if offset + count ≤ memory.length then some ((memory.drop offset).take count) else none

def store (offset : Nat) (bytes memory : List UInt8) : Option (List UInt8) :=
  if offset + bytes.length ≤ memory.length then some (overlay offset bytes memory) else none

/-- The string at the front of the memory, which has to end inside of it. -/
def loadString (memory : List UInt8) : Option (List UInt8) :=
  if 0 ∈ memory then some (cString memory) else none

def plus (left right : Nat) : Option Nat :=
  if left + right < 2 ^ 64 then some (left + right) else none

def minus (left right : Nat) : Option Nat :=
  if right ≤ left then some (left - right) else none

section
variable {memory : List UInt8}

theorem load_eq {offset count : Nat} (h : offset + count ≤ memory.length) :
    load offset count memory = some ((memory.drop offset).take count) := if_pos h

theorem store_eq {offset : Nat} {bytes : List UInt8} (h : offset + bytes.length ≤ memory.length) :
    store offset bytes memory = some (overlay offset bytes memory) := if_pos h

theorem loadString_eq (h : 0 ∈ memory) : loadString memory = some (cString memory) := if_pos h

end

theorem plus_eq {left right : Nat} (h : left + right < 2 ^ 64) :
    plus left right = some (left + right) :=
  if_pos h

theorem minus_eq {left right : Nat} (h : right ≤ left) : minus left right = some (left - right) :=
  if_pos h

theorem getD_take {memory : List UInt8} {count i : Nat} (h : i < count) :
    (memory.take count).getD i 0 = memory.getD i 0 := by
  rw [List.getD_eq_getElem?_getD, List.getElem?_take_of_lt h, List.getD_eq_getElem?_getD]

theorem getD_drop (memory : List UInt8) (count i : Nat) :
    (memory.drop count).getD i 0 = memory.getD (count + i) 0 := by
  rw [List.getD_eq_getElem?_getD, List.getElem?_drop, List.getD_eq_getElem?_getD]

theorem getD_zeros (count i : Nat) : (zeros count).getD i 0 = 0 := by
  rw [zeros]
  rcases Nat.lt_or_ge i count with h | h
  · exact List.getD_replicate 0 h
  · exact List.getD_eq_default _ _ (by rw [List.length_replicate]; exact h)

theorem overlay_getD {offset : Nat} {bytes memory : List UInt8}
    (hfits : offset + bytes.length ≤ memory.length) (i : Nat) :
    (overlay offset bytes memory).getD i 0 =
      if offset ≤ i ∧ i < offset + bytes.length then bytes.getD (i - offset) 0
      else memory.getD i 0 := by
  have hfront : (memory.take offset).length = offset := by
    rw [List.length_take]
    omega
  have hwritten : (memory.take offset ++ bytes).length = offset + bytes.length := by
    rw [List.length_append, hfront]
  unfold overlay
  by_cases hbefore : i < offset
  · rw [if_neg (by omega), List.getD_append _ _ _ _ (by omega), List.getD_append _ _ _ _ (by omega),
      getD_take hbefore]
  · by_cases hin : i < offset + bytes.length
    · rw [if_pos (by omega), List.getD_append _ _ _ _ (by omega),
        List.getD_append_right _ _ _ _ (by omega), hfront]
    · rw [if_neg (by omega), List.getD_append_right _ _ _ _ (by omega), hwritten, getD_drop]
      congr 1
      omega

theorem memchrZero_lt {memory : List UInt8} {index : Nat} (h : memchrZero memory = some index) :
    index < memory.length :=
  (List.findIdx?_eq_some_iff_getElem.mp h).1

theorem memchrZero_mem {memory : List UInt8} {index : Nat} (h : memchrZero memory = some index) :
    0 ∈ memory := by
  by_contra hnone
  rw [memchrZero_of_not_mem hnone] at h
  contradiction

end Vmstated.Library
