import Vmstated.Library.CharArray
import Vmstated.Library.Decimal

/-! libconfig/parser_offsets.c: the filter for the memory size in a
configuration file. -/
namespace Vmstated.Libconfig
open Library

def toupper (byte : UInt8) : UInt8 := if 97 ≤ byte && byte ≤ 122 then byte - 32 else byte

def memoryMultiplier (sizing : UInt8) : Option UInt16 :=
  if sizing = 71 then some 1024 else none

/-- What is behind the pointer that is returned, if it is not `NULL`. Nothing is
left of a call with an empty text, which reads and writes in front of it. -/
def poFilterMemory : Option CString → Option (Option UInt64)
  | none => some none
  | some val =>
    match val.val.getLast? with
    | none => none
    | some sizing =>
      match memoryMultiplier (toupper sizing) with
      | none => some none
      | some _multiplier =>
        -- the multiplier is not used again
        let (number, range) := strtoll val.val.dropLast
        some (if range then none else some (UInt64.ofInt number))

section
variable {text : CString} {digits : List UInt8} {sizing : UInt8}

theorem poFilterMemory_of_unknown (htext : text.val = digits ++ [sizing])
    (hsizing : memoryMultiplier (toupper sizing) = none) :
    poFilterMemory (some text) = some none := by
  unfold poFilterMemory
  simp only [htext, List.getLast?_append_cons, List.getLast?_singleton, hsizing]

theorem poFilterMemory_of_gigabytes (htext : text.val = digits ++ [sizing])
    (hsizing : memoryMultiplier (toupper sizing) = some 1024)
    (hdigits : ∀ byte ∈ digits, isDigit byte = true)
    (hne : digits ≠ []) (hvalue : digitsValue digits < 2 ^ 63) :
    poFilterMemory (some text) = some (some (UInt64.ofNat (digitsValue digits))) := by
  have hnumber : strtoll digits = ((digitsValue digits : Int), false) := by
    rw [← List.append_nil digits, strtoll_digits hdigits hne hvalue (by simp), List.append_nil]
  have hword : UInt64.ofInt (digitsValue digits) = UInt64.ofNat (digitsValue digits) := by
    rw [UInt64.ofInt, Int.emod_eq_of_lt (by omega) (by omega), Int.toNat_natCast]
  unfold poFilterMemory
  simp only [htext, List.getLast?_append_cons, List.getLast?_singleton,
    hsizing, List.dropLast_concat, hnumber, hword, Bool.false_eq_true, if_false]

end

end Vmstated.Libconfig
