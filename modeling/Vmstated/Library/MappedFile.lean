import Vmstated.Library.Memory

/-! A file in memory: zero bytes fill its last page. -/
namespace Vmstated.Library

def padding (base : List UInt8) : Nat := (4096 - base.length % 4096) % 4096

theorem padding_eq_zero {base : List UInt8} : padding base = 0 ↔ base.length % 4096 = 0 := by
  have hlt := Nat.mod_lt base.length (by decide : 0 < 4096)
  unfold padding
  omega

theorem mem_padded {base : List UInt8} : 0 ∈ base ++ zeros (padding base) ↔
    0 ∈ base ∨ base.length % 4096 ≠ 0 := by
  rw [List.mem_append, zeros, List.mem_replicate, and_iff_left rfl, Ne, padding_eq_zero]

theorem cString_eq_self {base : List UInt8} (hfree : 0 ∉ base) : cString base = base := by
  have hstring := cString_append_of_not_mem hfree []
  rw [List.append_nil] at hstring
  exact hstring.trans (List.append_nil base)

theorem cString_padded_base (base : List UInt8) :
    cString (base ++ zeros (padding base)) = cString base := by
  have hnothing : cString (zeros (padding base)) = [] := by
    rw [cString, zeros]
    cases padding base <;> rfl
  by_cases hzero : 0 ∈ base
  · exact cString_append_of_mem hzero _
  · rw [cString_append_of_not_mem hzero, hnothing, List.append_nil, cString_eq_self hzero]

end Vmstated.Library
