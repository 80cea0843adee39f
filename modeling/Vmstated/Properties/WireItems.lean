import Vmstated.Libcommand.VmInfoSpec

/-! The items that are packed of a machine, by their names. -/
namespace Vmstated.Properties
open Library Libcommand

def textItem : Option (List UInt8) → NvValue
  | none => .null
  | some text => .string text

def fieldItems (bvmi : BhyveVmInfo) : List (List UInt8 × NvValue) :=
  [(ascii "vmname", textItem bvmi.vmname),
   (ascii "os", textItem bvmi.os),
   (ascii "osversion", textItem bvmi.osversion),
   (ascii "vmstate", .number bvmi.vmstate.toUInt64),
   (ascii "pid", .number bvmi.pid.toInt64.toUInt64),
   (ascii "lastboot", .number bvmi.lastboot.toUInt64),
   (ascii "owner", textItem bvmi.owner),
   (ascii "group", textItem bvmi.group),
   (ascii "description", textItem bvmi.description)]

def CarriesFields (nv : Libnv) (bvmi : BhyveVmInfo) : Prop :=
  ∃ nvl, bvmiEncodenvlist nv bvmi nv.create = some (0, nvl) ∧
    ∀ item ∈ fieldItems bvmi, nv.get nvl item.1 = some item.2

theorem encodeItem_text {offset : Nat} {name : List UInt8}
    {s : CStruct} {text : Option (List UInt8)}
    (hpointer : s.pointers offset = Pointer.ofOption text) :
    encodeItem ⟨offset, .dynamicstring, 8, name⟩ s = some (textItem text) := by
  unfold encodeItem
  dsimp only
  rw [hpointer]
  cases text <;> rfl

theorem memory_pidItem (bvmi : BhyveVmInfo) :
    bvmi.memory.readNumber 24 8 = bvmi.vmstate.toNat + 2 ^ 32 * bvmi.pid.toUInt32.toNat := by
  rw [CStruct.readNumber_add _ 24 4 4, bvmi.memory_vmstate, bvmi.memory_pid]
  rfl

theorem bvmiEncodenvlist_items (nv : Libnv) (bvmi : BhyveVmInfo) :
    ∃ nvl, bvmiEncodenvlist nv bvmi nv.create = some (0, nvl) ∧
      (∀ item ∈ fieldItems bvmi,
        item = (ascii "pid", .number bvmi.pid.toInt64.toUInt64) ∨ nv.get nvl item.1 = some item.2) ∧
      nv.get nvl (ascii "pid") =
        some (.number (.ofNat (bvmi.vmstate.toNat + 2 ^ 32 * bvmi.pid.toUInt32.toNat))) := by
  obtain ⟨nvl, hencode, hget, -⟩ :=
    @bcmdEncodenvlist_get nv vminfoitem2nvlist bvmi.memory nv.create (by decide)
      (fun mapping _ => nv.get_create mapping.varname) bvmi.encodeItem_memory
  refine ⟨nvl, hencode, ?_, ?_⟩
  · simp only [vminfoitem2nvlist, List.forall_mem_cons] at hget
    obtain ⟨hvmname, hos, hosversion, hvmstate, -, hlastboot, howner, hgroup, hdescription, -⟩ :=
      hget
    simp only [fieldItems, List.forall_mem_cons]
    refine ⟨Or.inr ?_, Or.inr ?_, Or.inr ?_, Or.inr ?_, Or.inl trivial,
      Or.inr ?_, Or.inr ?_, Or.inr ?_, Or.inr ?_, fun _ hnone => absurd hnone List.not_mem_nil⟩
    · rw [hvmname, encodeItem_text rfl]
    · rw [hos, encodeItem_text rfl]
    · rw [hosversion, encodeItem_text rfl]
    · rw [hvmstate, encodeItem, bvmi.memory_vmstate, UInt64.ofNat_uInt32ToNat]
    · rw [hlastboot, encodeItem, bvmi.memory_lastboot, UInt64.ofNat_toNat]
    · rw [howner, encodeItem_text rfl]
    · rw [hgroup, encodeItem_text rfl]
    · rw [hdescription, encodeItem_text rfl]
  · rw [hget ⟨24, .uint64, 8, ascii "pid"⟩ (by decide), encodeItem]
    dsimp only
    rw [memory_pidItem]

theorem pid_toNat (pid : Int32) : pid.toInt64.toUInt64.toNat =
    pid.toUInt32.toNat + if 2 ^ 31 ≤ pid.toUInt32.toNat then 2 ^ 64 - 2 ^ 32 else 0 := by
  have h : pid.toInt64.toUInt64.toBitVec = pid.toBitVec.signExtend 64 := rfl
  have h2 : pid.toUInt32.toNat = pid.toBitVec.toNat := rfl
  rw [← UInt64.toNat_toBitVec, h, BitVec.toNat_signExtend, h2, BitVec.msb_eq_decide]
  simp
  omega

theorem pidItem_eq_iff (vmstate : UInt32) (pid : Int32) :
    UInt64.ofNat (vmstate.toNat + 2 ^ 32 * pid.toUInt32.toNat) = pid.toInt64.toUInt64 ↔
      (vmstate = 0 ∧ pid = 0) ∨ (vmstate = 0xFFFFFFFF ∧ pid = -1) := by
  have hstate := vmstate.toNat_lt
  have hpid := pid.toUInt32.toNat_lt
  have hnumber : (UInt64.ofNat (vmstate.toNat + 2 ^ 32 * pid.toUInt32.toNat)).toNat =
      vmstate.toNat + 2 ^ 32 * pid.toUInt32.toNat := by
    rw [UInt64.toNat_ofNat', Nat.mod_eq_of_lt (by omega)]
  have hpidNat (other : Int32) : pid = other ↔ pid.toUInt32.toNat = other.toUInt32.toNat := by
    rw [UInt32.toNat_inj, ← Int32.toBitVec_inj, ← UInt32.toBitVec_inj]
    rfl
  have hzero : pid = 0 ↔ pid.toUInt32.toNat = 0 := by
    rw [hpidNat]
    rfl
  have hneg : pid = -1 ↔ pid.toUInt32.toNat = 2 ^ 32 - 1 := by
    rw [hpidNat]
    rfl
  rw [← UInt64.toNat_inj, hnumber, pid_toNat, hzero, hneg, ← UInt32.toNat_inj, ← UInt32.toNat_inj]
  have hall : (0xFFFFFFFF : UInt32).toNat = 2 ^ 32 - 1 := rfl
  rw [UInt32.toNat_zero, hall]
  split <;> omega

theorem carriesFields_iff_pid (nv : Libnv) (bvmi : BhyveVmInfo) :
    CarriesFields nv bvmi ↔
      UInt64.ofNat (bvmi.vmstate.toNat + 2 ^ 32 * bvmi.pid.toUInt32.toNat) =
        bvmi.pid.toInt64.toUInt64 := by
  obtain ⟨nvl, hencode, hothers, hpid⟩ := bvmiEncodenvlist_items nv bvmi
  constructor
  · rintro ⟨found, hfound, hitems⟩
    obtain rfl : nvl = found := (Prod.mk.inj (Option.some.inj (hencode.symm.trans hfound))).2
    have hfield : (ascii "pid", NvValue.number bvmi.pid.toInt64.toUInt64) ∈ fieldItems bvmi := by
      simp [fieldItems]
    exact NvValue.number.inj (Option.some.inj (hpid.symm.trans (hitems _ hfield)))
  · intro hvalue
    refine ⟨nvl, hencode, ?_⟩
    intro item hitem
    rcases hothers item hitem with rfl | hget
    · rw [← hvalue]
      exact hpid
    · exact hget

/-- Each item carries its field just where the state and the pid are both all
zeros or both all ones. -/
theorem carriesFields_iff (nv : Libnv) (bvmi : BhyveVmInfo) :
    CarriesFields nv bvmi ↔
      (bvmi.vmstate = 0 ∧ bvmi.pid = 0) ∨ (bvmi.vmstate = 0xFFFFFFFF ∧ bvmi.pid = -1) := by
  rw [carriesFields_iff_pid, pidItem_eq_iff]

theorem not_carriesFields :
    ¬CarriesFields nvpacked ⟨some [97], none, none, 3, 1234, 0, none, none, none⟩ := by
  rw [carriesFields_iff_pid, pidItem_eq_iff]
  decide

end Vmstated.Properties
