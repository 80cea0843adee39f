import Vmstated.Libconfig.OutputSpec
import Vmstated.Libconfig.ParserOffsets

/-! The filter for memory sizes and what is written for them. -/
namespace Vmstated.Properties
open Library Libconfig

structure Numeral where
  digits : List UInt8
  isDigit : ∀ byte ∈ digits, isDigit byte = true
  ne_nil : digits ≠ []

abbrev Numeral.value (number : Numeral) : Nat := digitsValue number.digits

/-- An amount of memory: of parameters that are written out, or in gigabytes. -/
inductive MemorySize where
  | written (obc : OutputBhyveCore) (hpos : obc.bpc.memory > 0)
  | gigabytes (number : Numeral) (lowercase : Bool) (hfits : number.value * 1024 < 2 ^ 63)

/-- In megabytes. -/
def MemorySize.amount : MemorySize → Nat
  | .written obc _ => obc.bpc.memory.toNat
  | .gigabytes number _ _ => number.value * 1024

def MemorySize.HasText : MemorySize → CString → Prop
  | .written obc _, text => obcSetMemory obc = obcAdd obc (ascii "memory.size") text.val
  | .gigabytes number lowercase _, text =>
    text.val = number.digits ++ [if lowercase then 103 else 71]

def FiltersBack (size : MemorySize) : Prop :=
  ∀ text : CString, size.HasText text →
    poFilterMemory (some text) = some (some (UInt64.ofNat size.amount))

section
variable {obc : OutputBhyveCore}

theorem written_text {hpos : obc.bpc.memory > 0} {text : CString} :
    (MemorySize.written obc hpos).HasText text ↔
      text.val = printInt (asInt obc.bpc.memory) ++ ascii "M" := by
  have hset : obcSetMemory obc = obcAdd obc (ascii "memory.size") (memoryText obc.bpc.memory) :=
    if_pos hpos
  rw [MemorySize.HasText, hset, ← memoryText_eq]
  constructor
  · intro h
    have hlines := congrArg OutputBhyveCore.lines h
    rw [obcAdd, obcAdd, List.cons.injEq, configline, configline,
      List.append_cancel_left_eq, List.cons.injEq] at hlines
    exact hlines.1.2.symm
  · intro h
    rw [h]

theorem memoryText_nonzero (memory : UInt32) : 0 ∉ printInt (asInt memory) ++ ascii "M" := by
  rw [printInt_eq]
  have hdigits : (0 : UInt8) ∉ decimal (asInt memory).natAbs := digits_not_mem (by decide) _
  have hrest : (0 : UInt8) ∉ ascii "M" := by decide
  split <;> simp [hdigits, hrest]

theorem written_refused (hpos : obc.bpc.memory > 0) : ¬FiltersBack (.written obc hpos) := by
  intro hback
  let text : CString := ⟨_, memoryText_nonzero obc.bpc.memory⟩
  have hrefused : poFilterMemory (some text) = some none := poFilterMemory_of_unknown rfl rfl
  rw [hback text (written_text.mpr rfl)] at hrefused
  exact absurd hrefused (by simp)

theorem gigabytes_iff (number : Numeral) (lowercase : Bool) (hfits : number.value * 1024 < 2 ^ 63) :
    FiltersBack (.gigabytes number lowercase hfits) ↔ number.value = 0 := by
  have hunit : memoryMultiplier (toupper (if lowercase then 103 else 71)) = some 1024 := by
    cases lowercase <;> rfl
  have hnumber : digitsValue number.digits < 2 ^ 63 := by
    rw [← Numeral.value]
    omega
  have hfilter {text : CString}
      (htext : text.val = number.digits ++ [if lowercase then 103 else 71]) :
      poFilterMemory (some text) = some (some (UInt64.ofNat number.value)) :=
    poFilterMemory_of_gigabytes htext hunit number.isDigit number.ne_nil hnumber
  constructor
  · intro hback
    have hnonzero : 0 ∉ number.digits ++ [if lowercase then 103 else 71] := by
      rw [List.mem_append, List.mem_singleton]
      rintro (hdigit | hsizing)
      · exact absurd (number.isDigit 0 hdigit) (by decide)
      · exact absurd hsizing (by cases lowercase <;> decide)
    have hvalue := hback ⟨_, hnonzero⟩ rfl
    rw [hfilter rfl, Option.some_inj, Option.some_inj, MemorySize.amount] at hvalue
    have hnat := congrArg UInt64.toNat hvalue
    rw [UInt64.toNat_ofNat', UInt64.toNat_ofNat'] at hnat
    omega
  · intro hzero text htext
    rw [hfilter htext, MemorySize.amount, hzero]

theorem filtersBack_iff (size : MemorySize) : FiltersBack size ↔ size.amount = 0 := by
  cases size with
  | written obc hpos =>
    refine iff_of_false (written_refused hpos) ?_
    have hmemory : 0 < obc.bpc.memory.toNat := UInt32.lt_iff_toNat_lt.mp hpos
    exact Nat.ne_of_gt hmemory
  | gigabytes number lowercase hfits =>
    rw [gigabytes_iff, MemorySize.amount]
    omega

end

def four : Numeral := ⟨decimal 4, decimal_isDigit 4, decimal_ne_nil 4⟩

theorem not_filtersBack : ¬∀ size : MemorySize, FiltersBack size := by
  intro hall
  have hvalue : four.value = 4 := digitsValue_decimal 4
  have hback := hall (.gigabytes four false (by rw [hvalue]; decide))
  rw [gigabytes_iff, hvalue] at hback
  exact absurd hback (by decide)

end Vmstated.Properties
