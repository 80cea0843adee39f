import Mathlib.Algebra.Ring.Int.Defs
import Mathlib.Algebra.Ring.Nat
import Mathlib.Data.List.TakeWhile
import Mathlib.Tactic.Common

/-! C memory as a list of bytes, and the functions of string.h on it. -/
namespace Vmstated.Library

def overlay (offset : Nat) (bytes memory : List UInt8) : List UInt8 :=
  memory.take offset ++ bytes ++ memory.drop (offset + bytes.length)

def memchrZero (memory : List UInt8) : Option Nat := memory.findIdx? (· == 0)

/-- The string that begins at the front of the memory, and `strlen` of it. -/
def cString (memory : List UInt8) : List UInt8 := memory.takeWhile (· != 0)

def strlen (memory : List UInt8) : Nat := (cString memory).length

def zeros (count : Nat) : List UInt8 := List.replicate count 0

def ascii (text : String) : List UInt8 := text.toList.map fun c => UInt8.ofNat c.toNat

def sizeT (value : Int) : Nat := (value % 2 ^ 64).toNat

/-- `snprintf` leaves room for the final zero byte, which is not shown here. -/
def snprintf (size : Nat) (text : List UInt8) : List UInt8 := text.take (size - 1)

theorem overlay_length {offset : Nat} {bytes memory : List UInt8}
    (h : offset + bytes.length ≤ memory.length) :
    (overlay offset bytes memory).length = memory.length := by
  simp only [overlay, List.length_append, List.length_take, List.length_drop]
  omega

theorem overlay_append (front tail : List UInt8) {old bytes : List UInt8}
    (h : bytes.length = old.length) :
    overlay front.length bytes (front ++ old ++ tail) = front ++ bytes ++ tail := by
  rw [overlay, h, ← List.length_append, List.drop_left,
    List.append_assoc front old tail, List.take_left]

theorem overlay_overlay {offset : Nat} (first second : List UInt8) {memory : List UInt8}
    (h : offset ≤ memory.length) :
    overlay (offset + first.length) second (overlay offset first memory) =
      overlay offset (first ++ second) memory := by
  have hfront : (memory.take offset ++ first).length = offset + first.length := by
    simp [h]
  have htake : (memory.take offset ++ first ++ memory.drop (offset + first.length)).take
      (offset + first.length) = memory.take offset ++ first := by
    rw [← hfront, List.take_left]
  have hdrop : (memory.take offset ++ first ++ memory.drop (offset + first.length)).drop
      (offset + first.length + second.length) =
        memory.drop (offset + (first ++ second).length) := by
    rw [← List.drop_drop, ← hfront, List.drop_left, hfront, List.drop_drop, List.length_append,
      Nat.add_assoc]
  unfold overlay
  rw [htake, hdrop, List.append_assoc (memory.take offset)]

theorem overlay_getElem? {offset : Nat} {memory : List UInt8}
    (h : offset ≤ memory.length) (byte : UInt8)
    (bytes : List UInt8) : (overlay offset (byte :: bytes) memory)[offset]? = some byte := by
  have hfront : (memory.take offset).length = offset := by
    rw [List.length_take]
    omega
  unfold overlay
  rw [List.append_assoc, List.getElem?_append_right (by omega), hfront, Nat.sub_self]
  rfl

@[simp] theorem overlay_nil (offset : Nat) (memory : List UInt8) :
    overlay offset [] memory = memory := by
  simp [overlay]

@[simp] theorem zeros_length (count : Nat) : (zeros count).length = count := List.length_replicate

theorem sizeT_of_nat {n : Nat} (h : n < 2 ^ 64) : sizeT n = n := by
  unfold sizeT
  omega

section
variable {bytes : List UInt8} (hbytes : ∀ byte ∈ bytes, byte ≠ 0)
include hbytes

theorem memchrZero_append (rest : List UInt8) :
    memchrZero (bytes ++ 0 :: rest) = some bytes.length := by
  unfold memchrZero
  rw [List.findIdx?_append]
  have hnone : bytes.findIdx? (· == 0) = none := by
    rw [List.findIdx?_eq_none_iff]
    intro byte hbyte
    simpa using hbytes byte hbyte
  rw [hnone, List.findIdx?_cons]
  simp

theorem memchrZero_of_ne : memchrZero bytes = none := by
  unfold memchrZero
  rw [List.findIdx?_eq_none_iff]
  intro byte hbyte
  simpa using hbytes byte hbyte

theorem cString_append (rest : List UInt8) : cString (bytes ++ 0 :: rest) = bytes := by
  unfold cString
  rw [List.takeWhile_append_of_pos (by simpa using hbytes)]
  simp

end

/-- The first zero byte ends the string. -/
theorem append_zero_inj {left right : List UInt8} (hleft : ∀ byte ∈ left, byte ≠ 0)
    (hright : ∀ byte ∈ right, byte ≠ 0) {more rest : List UInt8}
    (h : left ++ 0 :: more = right ++ 0 :: rest) :
    left = right ∧ more = rest := by
  have hstring := congrArg cString h
  rw [cString_append hleft, cString_append hright] at hstring
  subst hstring
  exact ⟨rfl, (List.cons.inj (List.append_cancel_left h)).2⟩

theorem cString_ne_zero (memory : List UInt8) : ∀ byte ∈ cString memory, byte ≠ 0 := by
  intro byte hbyte
  have h := List.mem_takeWhile_imp hbyte
  simpa using h

theorem cString_length_le (memory : List UInt8) : (cString memory).length ≤ memory.length :=
  (List.takeWhile_prefix _).length_le

theorem eq_cString_append {memory : List UInt8} (h : 0 ∈ memory) :
    ∃ rest, memory = cString memory ++ 0 :: rest := by
  refine ⟨(memory.dropWhile (· != 0)).tail, ?_⟩
  have hsplit := List.takeWhile_append_dropWhile (p := (· != (0 : UInt8))) (l := memory)
  have hne : memory.dropWhile (· != 0) ≠ [] := by
    intro hnil
    rw [hnil, List.append_nil] at hsplit
    have hzero := cString_ne_zero memory 0 (by rw [cString, hsplit]; exact h)
    exact hzero rfl
  have hhead : (memory.dropWhile (· != 0)).head hne = 0 := by
    simpa using List.head_dropWhile_not (· != (0 : UInt8)) hne
  conv_lhs => rw [← hsplit, ← List.cons_head_tail hne, hhead]
  rfl

theorem strlen_lt_of_mem {memory : List UInt8} (h : 0 ∈ memory) :
    strlen memory < memory.length := by
  obtain ⟨rest, hmemory⟩ := eq_cString_append h
  have hlength := congrArg List.length hmemory
  rw [List.length_append, List.length_cons] at hlength
  unfold strlen
  omega

theorem memchrZero_of_mem {memory : List UInt8} (h : 0 ∈ memory) :
    memchrZero memory = some (strlen memory) := by
  obtain ⟨rest, hmemory⟩ := eq_cString_append h
  conv_lhs => rw [hmemory]
  exact memchrZero_append (cString_ne_zero memory) rest

theorem memchrZero_of_not_mem {memory : List UInt8} (h : 0 ∉ memory) :
    memchrZero memory = none := by
  apply memchrZero_of_ne
  rintro byte hbyte rfl
  exact h hbyte

theorem cString_append_of_not_mem {front : List UInt8} (h : 0 ∉ front) (rest : List UInt8) :
    cString (front ++ rest) = front ++ cString rest := by
  unfold cString
  apply List.takeWhile_append_of_pos
  intro byte hbyte
  have hne : byte ≠ 0 := by
    rintro rfl
    exact h hbyte
  simpa using hne

theorem strlen_of_not_mem {memory : List UInt8} (h : 0 ∉ memory) :
    strlen memory = memory.length := by
  have hstring := cString_append_of_not_mem h []
  rw [List.append_nil] at hstring
  rw [strlen, hstring, cString, List.takeWhile_nil, List.append_nil]

theorem cString_append_of_mem {front : List UInt8} (h : 0 ∈ front) (rest : List UInt8) :
    cString (front ++ rest) = cString front := by
  obtain ⟨more, hfront⟩ := eq_cString_append h
  conv_lhs => rw [hfront]
  rw [List.append_assoc, List.cons_append, cString_append (cString_ne_zero front)]

end Vmstated.Library
