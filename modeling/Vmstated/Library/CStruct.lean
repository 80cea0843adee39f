import Mathlib.Algebra.Order.Ring.Nat
import Mathlib.Tactic.Common

/-! A C structure as memory: little-endian numbers by their bytes, and pointers
to strings, which lie in other places than the numbers. -/
namespace Vmstated.Library

inductive Pointer where
  | null
  | string (text : List UInt8)
  /-- No address of a string. -/
  | wild
deriving DecidableEq, Repr

structure CStruct where
  bytes : Nat → UInt8
  pointers : Nat → Pointer

namespace CStruct

def zeroed : CStruct := ⟨fun _ => 0, fun _ => .null⟩

def readNumber (s : CStruct) (offset : Nat) : Nat → Nat
  | 0 => 0
  | width + 1 => (s.bytes offset).toNat + 256 * s.readNumber (offset + 1) width

/-- A value that is too large loses its high bytes. -/
def writeNumber (s : CStruct) (offset width value : Nat) : CStruct :=
  { s with bytes := fun i =>
      if offset ≤ i ∧ i < offset + width then UInt8.ofNat (value / 256 ^ (i - offset))
      else s.bytes i }

def readBytes (s : CStruct) (offset size : Nat) : List UInt8 :=
  (List.range size).map fun i => s.bytes (offset + i)

def writeBytes (s : CStruct) (offset : Nat) (bytes : List UInt8) : CStruct :=
  { s with bytes := fun i => if offset ≤ i then bytes.getD (i - offset) (s.bytes i) else s.bytes i }

def setPointer (s : CStruct) (offset : Nat) (pointer : Pointer) : CStruct :=
  { s with pointers := fun i => if i = offset then pointer else s.pointers i }

variable (s : CStruct)

@[simp] theorem writeNumber_pointers (offset width value : Nat) :
    (s.writeNumber offset width value).pointers = s.pointers := rfl

@[simp] theorem setPointer_pointers (offset other : Nat) (pointer : Pointer) :
    (s.setPointer offset pointer).pointers other = if other = offset then pointer
      else s.pointers other := rfl

@[simp] theorem readNumber_setPointer (offset place width : Nat) (pointer : Pointer) :
    (s.setPointer place pointer).readNumber offset width = s.readNumber offset width := by
  induction width generalizing offset with
  | zero => rfl
  | succ width ih => rw [readNumber, ih, readNumber, setPointer]

@[simp] theorem setPointer_zeroed (offset : Nat) : zeroed.setPointer offset .null = zeroed := by
  rw [setPointer, zeroed]
  congr 1
  funext i
  exact ite_self _

@[simp] theorem readNumber_zeroed (offset width : Nat) : zeroed.readNumber offset width = 0 := by
  induction width generalizing offset with
  | zero => rfl
  | succ width ih =>
    rw [readNumber, ih]
    rfl

theorem readBytes_zeroed (offset size : Nat) :
    zeroed.readBytes offset size = List.replicate size 0 := by
  rw [readBytes, List.eq_replicate_iff]
  refine ⟨by rw [List.length_map, List.length_range], ?_⟩
  intro byte hbyte
  obtain ⟨i, -, rfl⟩ := List.mem_map.mp hbyte
  rfl

theorem readNumber_lt (offset width : Nat) : s.readNumber offset width < 256 ^ width := by
  induction width generalizing offset with
  | zero => exact Nat.one_pos
  | succ width ih =>
    have hrest := ih (offset + 1)
    have hbyte := (s.bytes offset).toNat_lt
    rw [readNumber, Nat.pow_succ']
    omega

theorem readNumber_writeNumber {first width size : Nat}
    (offset value : Nat) (hpart : first + width ≤ size) :
    (s.writeNumber offset size value).readNumber (offset + first) width =
      value / 256 ^ first % 256 ^ width := by
  induction width generalizing first with
  | zero => rw [readNumber, Nat.pow_zero, Nat.mod_one]
  | succ width ih =>
    have hbyte : ((s.writeNumber offset size value).bytes (offset + first)).toNat =
        value / 256 ^ first % 256 := by
      simp only [writeNumber]
      rw [if_pos (by omega), Nat.add_sub_cancel_left, UInt8.toNat_ofNat']
    rw [readNumber, hbyte, Nat.add_assoc, ih (by omega), Nat.pow_succ 256 first,
      ← Nat.div_div_eq_div_mul, Nat.pow_succ' (n := width), Nat.mod_mul]

theorem readNumber_writeNumber_self (offset : Nat) {width value : Nat}
    (hvalue : value < 256 ^ width) :
    (s.writeNumber offset width value).readNumber offset width = value := by
  have hpart := readNumber_writeNumber s offset value (Nat.le_of_eq (Nat.zero_add width))
  rw [Nat.add_zero, Nat.pow_zero, Nat.div_one, Nat.mod_eq_of_lt hvalue] at hpart
  exact hpart

theorem readNumber_writeNumber_of_disjoint {offset width start size : Nat} (value : Nat)
    (h : offset + width ≤ start ∨ start + size ≤ offset) :
    (s.writeNumber start size value).readNumber offset width = s.readNumber offset width := by
  induction width generalizing offset with
  | zero => rfl
  | succ width ih =>
    rw [readNumber, readNumber, ih (by omega), writeNumber]
    dsimp only
    rw [if_neg (by omega)]

theorem readNumber_add (offset low high : Nat) :
    s.readNumber offset (low + high) = s.readNumber offset low + 256 ^ low * s.readNumber
      (offset + low) high := by
  induction low generalizing offset with
  | zero => simp [readNumber]
  | succ low ih =>
    have hnext : offset + 1 + low = offset + (low + 1) := by omega
    rw [Nat.succ_add, readNumber, ih, readNumber, hnext, Nat.pow_succ',
      Nat.mul_add, Nat.mul_assoc, Nat.add_assoc]

theorem readNumber_copy (source : CStruct) {first width size : Nat}
    (offset : Nat) (hpart : first + width ≤ size) :
    (s.writeNumber offset size (source.readNumber offset size)).readNumber (offset + first) width =
      source.readNumber (offset + first) width := by
  obtain ⟨rest, rfl⟩ : ∃ rest, size = first + (width + rest) := ⟨size - first - width, by omega⟩
  rw [readNumber_writeNumber s offset _ hpart, readNumber_add source offset first,
    Nat.add_mul_div_left _ _ (Nat.pow_pos (by decide)),
      Nat.div_eq_of_lt (source.readNumber_lt offset first),
    Nat.zero_add, readNumber_add source (offset + first) width, Nat.add_mul_mod_self_left,
    Nat.mod_eq_of_lt (source.readNumber_lt _ width)]

end CStruct

end Vmstated.Library
