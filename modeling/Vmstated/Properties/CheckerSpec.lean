import Mathlib.Data.Fintype.Card
import Mathlib.Data.Fintype.Prod
import Vmstated.Libconfig.Check

/-! What the rules for parameters amount to. -/
namespace Vmstated.Properties
open Library Libconfig

abbrev slotsOfType (bpc : BhyveParametersCore) (slotType : PcislotType) :
    List BhyveParametersPcislot :=
  bpc.pcislots.filter fun bpp => bpp.slotType = slotType

structure WellFormed (bpc : BhyveParametersCore) : Prop where
  named : cString bpc.vmname.bytes ≠ []
  bootrom : cString bpc.bootrom.bootrom.bytes ≠ []
  hostbridge : ∃ bpp, slotsOfType bpc .hostbridge = [bpp] ∧ bpp.pciid = (0, 0, 0)
  isabridge : ∃ bpp, slotsOfType bpc .isabridge = [bpp] ∧ bpp.bus = 0
  distinct : (bpc.pcislots.map BhyveParametersPcislot.pciid).Nodup

/-! The strings. -/

theorem cString_eq_nil {memory : List UInt8} : cString memory = [] ↔ memory.headD 0 = 0 := by
  cases memory with
  | nil => exact iff_of_true rfl rfl
  | cons byte memory => simp [cString]

theorem rule_eq_zero {broken : Prop} [Decidable broken] :
    (if broken then (-1 : Int) else 0) = 0 ↔ ¬broken := by
  by_cases hbroken : broken
  · simp [hbroken]
  · simp [hbroken]

section
variable {bpc : BhyveParametersCore}

theorem checkBpcName_eq_zero : checkBpcName bpc = 0 ↔ cString bpc.vmname.bytes ≠ [] := by
  rw [checkBpcName, rule_eq_zero, ne_eq, cString_eq_nil]

theorem checkBpcBootrom_eq_zero : checkBpcBootrom bpc = 0 ↔
    cString bpc.bootrom.bootrom.bytes ≠ [] := by
  rw [checkBpcBootrom, rule_eq_zero, ne_eq, cString_eq_nil]

/-! The bridges. -/

theorem pcislots_length_le (hdistinct : (bpc.pcislots.map BhyveParametersPcislot.pciid).Nodup) :
    bpc.pcislots.length ≤ 256 * (256 * 256) := by
  let place (id : UInt8 × UInt8 × UInt8) : Fin 256 × Fin 256 × Fin 256 :=
    (id.1.toFin, id.2.1.toFin, id.2.2.toFin)
  have hplace : Function.Injective place := by
    intro id other h
    rw [Prod.mk.injEq, Prod.mk.injEq, UInt8.toFin_inj, UInt8.toFin_inj, UInt8.toFin_inj] at h
    exact Prod.ext h.1 (Prod.ext h.2.1 h.2.2)
  have hcard := (hdistinct.map hplace).length_le_card
  simp only [List.length_map, Fintype.card_prod, Fintype.card_fin] at hcard
  exact hcard

theorem checkBpcCounthostbridge_eq
    (hdistinct : (bpc.pcislots.map BhyveParametersPcislot.pciid).Nodup) :
    checkBpcCounthostbridge bpc = ((slotsOfType bpc .hostbridge).length : Int) := by
  have hlength := pcislots_length_le hdistinct
  have hcount : bpc.pcislots.countP (fun bpp => bpp.slotType = .hostbridge) ≤ bpc.pcislots.length :=
    List.countP_le_length
  unfold checkBpcCounthostbridge
  rw [slotsOfType, ← List.countP_eq_length_filter]
  apply Int.bmod_eq_of_le
  · norm_num
  · norm_num
    omega

theorem checkBpcHostbridgeslot_eq : checkBpcHostbridgeslot bpc =
    match (slotsOfType bpc .hostbridge).head? with
    | none => 0
    | some bpp => if bpp.pciid = (0, 0, 0) then 0 else -1 := by
  rw [checkBpcHostbridgeslot, List.head?_filter]
  cases bpc.pcislots.find? fun bpp => bpp.slotType = .hostbridge with
  | none => rfl
  | some bpp =>
    have hplace : (bpp.bus ≠ 0 ∨ bpp.pcislot ≠ 0 ∨ bpp.function ≠ 0) ↔ ¬bpp.pciid = (0, 0, 0) := by
      rw [BhyveParametersPcislot.pciid, Prod.mk.injEq, Prod.mk.injEq, not_and_or, not_and_or]
    simp only [hplace, ite_not]

theorem hostbridge_checked (hdistinct : (bpc.pcislots.map BhyveParametersPcislot.pciid).Nodup) :
    (checkBpcHostbridge bpc = 0 ∧ checkBpcSinglehostbridge bpc = 0 ∧
      checkBpcHostbridgeslot bpc = 0) ↔
      ∃ bpp, slotsOfType bpc .hostbridge = [bpp] ∧ bpp.pciid = (0, 0, 0) := by
  rw [checkBpcHostbridge, checkBpcSinglehostbridge, checkBpcCounthostbridge_eq hdistinct,
    checkBpcHostbridgeslot_eq]
  match slotsOfType bpc .hostbridge with
  | [] => simp
  | [bpp] => simp
  | bpp :: other :: more => simp

theorem checkBpcCountisabridge_eq :
    checkBpcCountisabridge bpc = (slotsOfType bpc .isabridge).length :=
  List.countP_eq_length_filter

theorem checkBpcIsabridgebus_eq : checkBpcIsabridgebus bpc =
    if (slotsOfType bpc .isabridge).any fun bpp => bpp.bus != 0 then -1 else 0 := by
  rw [checkBpcIsabridgebus, List.any_filter]

theorem isabridge_checked :
    (checkBpcCountisabridge bpc ≠ 0 ∧ checkBpcSingleisabridge bpc = 0 ∧
      checkBpcIsabridgebus bpc = 0) ↔ ∃ bpp, slotsOfType bpc .isabridge = [bpp] ∧ bpp.bus = 0 := by
  rw [checkBpcSingleisabridge, checkBpcCountisabridge_eq, checkBpcIsabridgebus_eq]
  match slotsOfType bpc .isabridge with
  | [] => simp
  | [bpp] => simp
  | bpp :: other :: more => simp

theorem checkBpcBootromwithisa_eq_zero (hbootrom : checkBpcBootrom bpc = 0) :
    checkBpcBootromwithisa bpc = 0 ↔ checkBpcCountisabridge bpc ≠ 0 := by
  rw [checkBpcBootromwithisa, if_neg (not_not_intro hbootrom), rule_eq_zero]

theorem checkBpcComwithisa_eq_zero (hisa : checkBpcCountisabridge bpc ≠ 0) :
    checkBpcComwithisa bpc = 0 := by
  rw [checkBpcComwithisa, if_neg hisa]
  exact ite_self 0

end

theorem checkParametersOk_iff (bpc : BhyveParametersCore) :
    checkParametersOk (some bpc) = some none ↔ WellFormed bpc := by
  rw [checkParametersOk_eq_ok]
  constructor
  · rintro ⟨hname, hhost, hsingle, hplace, hsingleIsa, -, hwithisa, hrom, hbus, hpciid⟩
    have hdistinct := checkBpcPciidconflict_eq_zero.mp hpciid
    have hisa := (checkBpcBootromwithisa_eq_zero hrom).mp hwithisa
    exact ⟨checkBpcName_eq_zero.mp hname, checkBpcBootrom_eq_zero.mp hrom,
      (hostbridge_checked hdistinct).mp ⟨hhost, hsingle, hplace⟩,
      isabridge_checked.mp ⟨hisa, hsingleIsa, hbus⟩, hdistinct⟩
  · rintro ⟨hname, hrom, hhost, hisa, hdistinct⟩
    have hrom := checkBpcBootrom_eq_zero.mpr hrom
    obtain ⟨hhost, hsingle, hplace⟩ := (hostbridge_checked hdistinct).mpr hhost
    obtain ⟨hisa, hsingleIsa, hbus⟩ := isabridge_checked.mpr hisa
    exact ⟨checkBpcName_eq_zero.mpr hname, hhost, hsingle, hplace,
      hsingleIsa, checkBpcComwithisa_eq_zero hisa,
      (checkBpcBootromwithisa_eq_zero hrom).mpr hisa, hrom, hbus,
        checkBpcPciidconflict_eq_zero.mpr hdistinct⟩

end Vmstated.Properties
