import Vmstated.Library.Memory

/-! Strings of C, and arrays of `char` that hold them as `strncpy` leaves them. -/
namespace Vmstated.Library

abbrev CString := { text : List UInt8 // 0 ∉ text }

def CString.ofMemory (memory : List UInt8) : Option CString :=
  if 0 ∈ memory then some ⟨cString memory, fun hzero => cString_ne_zero memory 0 hzero rfl⟩
  else none

theorem zero_not_mem_nil : (0 : UInt8) ∉ ([] : List UInt8) := List.not_mem_nil

def literal (text : String) (h : (0 : UInt8) ∉ ascii text := by decide) : CString := ⟨ascii text, h⟩

structure CharArray (n : Nat) where
  bytes : List UInt8
  length_eq : bytes.length = n
deriving DecidableEq

def CharArray.zeroed (n : Nat) : CharArray n := ⟨zeros n, zeros_length n⟩

/-! What `strncpy` writes into `n` bytes. -/

theorem strncpy_length (text : List UInt8) (n : Nat) :
    (text.take n ++ zeros (n - text.length)).length = n := by
  rw [List.length_append, List.length_take, zeros_length]
  omega

theorem cString_padded {text : List UInt8} (htext : ∀ byte ∈ text, byte ≠ 0)
    {n : Nat} (hlt : text.length < n)
    (rest : List UInt8) : cString (text.take n ++ zeros (n - text.length) ++ rest) = text := by
  obtain ⟨more, hmore⟩ : ∃ more, n - text.length = more + 1 := ⟨n - text.length - 1, by omega⟩
  rw [List.take_of_length_le (Nat.le_of_lt hlt), hmore, zeros,
    List.replicate_succ, List.append_assoc, List.cons_append, cString_append htext]

/-- All of the array is written. A text that fills it has no end there. -/
def strncpy (n : Nat) (text : CString) : CharArray n :=
  ⟨text.val.take n ++ zeros (n - text.val.length), strncpy_length text.val n⟩

theorem strncpy_bytes (n : Nat) (text : CString) :
    (strncpy n text).bytes = text.val.take n ++ zeros (n - text.val.length) := rfl

theorem strncpy_nil (n : Nat) (h : (0 : UInt8) ∉ ([] : List UInt8)) :
    strncpy n ⟨[], h⟩ = .zeroed n := by
  rw [strncpy, CharArray.zeroed]
  simp

theorem CString.ne_zero (text : CString) : ∀ byte ∈ text.val, byte ≠ 0 := by
  rintro byte hbyte rfl
  exact text.property hbyte

theorem zero_mem_strncpy {n : Nat} {text : CString} :
    0 ∈ (strncpy n text).bytes ↔ text.val.length < n := by
  rw [strncpy_bytes, List.mem_append,
    or_iff_right fun hmem => text.property (List.mem_of_mem_take hmem), zeros,
    List.mem_replicate, and_iff_left rfl]
  omega

theorem strncpy_headD_eq_zero {n : Nat} (hn : 0 < n) {text : CString} :
    (strncpy n text).bytes.headD 0 = 0 ↔ text.val = [] := by
  obtain ⟨m, rfl⟩ : ∃ m, n = m + 1 := ⟨n - 1, by omega⟩
  obtain ⟨bytes, hbytes⟩ := text
  cases bytes with
  | nil => exact iff_of_true rfl rfl
  | cons byte bytes =>
    have hne : byte ≠ 0 := by
      rintro rfl
      exact hbytes List.mem_cons_self
    exact iff_of_false hne (List.cons_ne_nil _ _)

/-! The string that begins at the array, and may go on behind it. -/

section
variable {n : Nat} {text : CString}

theorem cString_strncpy_of_lt (hlt : text.val.length < n) (rest : List UInt8) :
    cString ((strncpy n text).bytes ++ rest) = text.val := cString_padded text.ne_zero hlt rest

theorem cString_strncpy_of_le (hle : n ≤ text.val.length) (rest : List UInt8) :
    cString ((strncpy n text).bytes ++ rest) = text.val.take n ++ cString rest := by
  rw [strncpy_bytes, Nat.sub_eq_zero_of_le hle, zeros, List.replicate_zero, List.append_nil,
    cString_append_of_not_mem fun hmem => text.property (List.mem_of_mem_take hmem)]

theorem cString_strncpy_zero (rest : List UInt8) :
    cString ((strncpy n text).bytes ++ 0 :: rest) = text.val.take n := by
  by_cases hlt : text.val.length < n
  · rw [cString_strncpy_of_lt hlt, List.take_of_length_le (Nat.le_of_lt hlt)]
  · have hend : cString (0 :: rest) = [] := rfl
    rw [cString_strncpy_of_le (Nat.le_of_not_lt hlt), hend, List.append_nil]

theorem cString_strncpy_eq_iff (rest : List UInt8) :
    cString ((strncpy n text).bytes ++ rest) = text.val ↔
    text.val.length < n ∨ text.val.drop n = cString rest := by
  by_cases hlt : text.val.length < n
  · exact iff_of_true (cString_strncpy_of_lt hlt rest) (Or.inl hlt)
  · rw [or_iff_right hlt, cString_strncpy_of_le (Nat.le_of_not_lt hlt)]
    conv_lhs => rhs; rw [← List.take_append_drop n text.val]
    rw [List.append_cancel_left_eq]
    exact eq_comm

end

@[simp] theorem cString_zeroed {n : Nat} (hn : 0 < n) (rest : List UInt8) :
    cString ((CharArray.zeroed n).bytes ++ rest) = [] := by
  obtain ⟨m, rfl⟩ : ∃ m, n = m + 1 := ⟨n - 1, by omega⟩
  rfl

end Vmstated.Library
