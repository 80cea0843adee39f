import Vmstated.Libcommand.VmInfo

/-! What is packed about the machines is unpacked again. -/
namespace Vmstated.Libcommand
open Library Libutils

theorem Pointer.ofOption_ne_wild (text : Option (List UInt8)) : Pointer.ofOption text ≠ .wild := by
  cases text <;> exact Pointer.noConfusion

theorem Pointer.toOption_ofOption (text : Option (List UInt8)) :
    Pointer.toOption (Pointer.ofOption text) = text := by
  cases text <;> rfl

/-! One machine. -/

namespace BhyveVmInfo
variable (bvmi : BhyveVmInfo)

theorem tame_memory : Tame bvmi.memory := by
  unfold memory
  repeat' first
    | apply tame_setPointer _ _ (Pointer.ofOption_ne_wild _)
    | exact tame_zeroed

theorem encodeItem_memory :
    ∀ mapping ∈ vminfoitem2nvlist, encodeItem mapping bvmi.memory ≠ none := by
  intro mapping hmapping
  have htypes : ∀ mapping ∈ vminfoitem2nvlist, mapping.valueType ≠ .fixedstring := by decide
  exact encodeItem_of_tame bvmi.tame_memory (htypes mapping hmapping)

theorem memory_vmstate : bvmi.memory.readNumber 24 4 = bvmi.vmstate.toNat := by
  unfold memory
  simp only [CStruct.readNumber_setPointer]
  rw [CStruct.readNumber_writeNumber_of_disjoint _ _ (by omega),
    CStruct.readNumber_writeNumber_of_disjoint _ _ (by omega),
    CStruct.readNumber_writeNumber_self _ _ bvmi.vmstate.toNat_lt]

theorem memory_pid : bvmi.memory.readNumber 28 4 = bvmi.pid.toUInt32.toNat := by
  unfold memory
  simp only [CStruct.readNumber_setPointer]
  rw [CStruct.readNumber_writeNumber_of_disjoint _ _ (by omega),
    CStruct.readNumber_writeNumber_self _ _ bvmi.pid.toUInt32.toNat_lt]

theorem memory_lastboot : bvmi.memory.readNumber 32 8 = bvmi.lastboot.toUInt64.toNat := by
  unfold memory
  simp only [CStruct.readNumber_setPointer]
  rw [CStruct.readNumber_writeNumber_self _ _ bvmi.lastboot.toUInt64.toNat_lt]

theorem ofMemory_memory : ofMemory bvmi.memory = bvmi := by
  unfold ofMemory
  rw [memory_vmstate, memory_pid, memory_lastboot]
  simp [memory, Pointer.toOption_ofOption]

/-- The item `pid` copies the four bytes of the state with those of the pid. -/
theorem ofMemory_copied (source : CStruct) :
    ofMemory (vminfoitem2nvlist.foldl (copyItem source) .zeroed) = ofMemory source := by
  have hstate (s : CStruct) := s.readNumber_copy source 24 (by decide : 0 + 4 ≤ 8)
  have hpid (s : CStruct) := s.readNumber_copy source 24 (by decide : 4 + 4 ≤ 8)
  have hboot (s : CStruct) := s.readNumber_copy source 32 (by decide : 0 + 8 ≤ 8)
  unfold ofMemory vminfoitem2nvlist
  simp only [List.foldl_cons, List.foldl_nil, copyItem, CStruct.readNumber_setPointer]
  rw [CStruct.readNumber_writeNumber_of_disjoint _ _ (by omega), hstate,
    CStruct.readNumber_writeNumber_of_disjoint _ _ (by omega), hpid, hboot]
  rfl

end BhyveVmInfo

/-! The count and the number of messages. -/

namespace BhyveVmManagerInfo
variable (bvmmi : BhyveVmManagerInfo)

theorem memory_vmCount : bvmmi.memory.readNumber 8 4 = bvmmi.vmCount % 2 ^ 32 := by
  unfold memory
  rw [CStruct.readNumber_writeNumber_of_disjoint _ _ (by omega)]
  have hlow (s : CStruct) := s.readNumber_writeNumber 8 bvmmi.vmCount (by decide : 0 + 4 ≤ 8)
  rw [hlow, Nat.pow_zero, Nat.div_one]
  rfl

theorem memory_msgcount : bvmmi.memory.readNumber 16 8 = bvmmi.msgcount.toUInt64.toNat := by
  unfold memory
  rw [CStruct.readNumber_writeNumber_self _ _ bvmmi.msgcount.toUInt64.toNat_lt]

theorem encodeItem_memory : ∀ mapping ∈ vminfo2nvlist, encodeItem mapping bvmmi.memory ≠ none := by
  intro mapping hmapping
  have htypes : ∀ mapping ∈ vminfo2nvlist, mapping.valueType ≠ .fixedstring := by decide
  exact encodeItem_of_tame tame_zeroed (htypes mapping hmapping)

/-- Only the low half of `vm_count` is copied; the high one stays zero. -/
theorem copied_vmCount (source : CStruct) :
    (vminfo2nvlist.foldl (copyItem source) .zeroed).readNumber 8 8 = source.readNumber 8 4 := by
  have hlow (s : CStruct) := s.readNumber_copy source 8 (by decide : 0 + 4 ≤ 4)
  have hhigh : CStruct.zeroed.readNumber 12 4 = 0 := by decide
  simp only [vminfo2nvlist, List.foldl_cons, List.foldl_nil, copyItem]
  rw [CStruct.readNumber_writeNumber_of_disjoint _ _ (by omega),
    CStruct.readNumber_add _ 8 4 4, hlow,
    CStruct.readNumber_writeNumber_of_disjoint _ _ (by omega), hhigh, Nat.mul_zero, Nat.add_zero]

theorem copied_msgcount (source : CStruct) :
    (vminfo2nvlist.foldl (copyItem source) .zeroed).readNumber 16 8 = source.readNumber 16 8 := by
  have hcopy (s : CStruct) := s.readNumber_copy source 16 (by decide : 0 + 8 ≤ 8)
  simp only [vminfo2nvlist, List.foldl_cons, List.foldl_nil, copyItem]
  rw [hcopy]

end BhyveVmManagerInfo

variable (nv : Libnv)

def packInfo (bvmi : BhyveVmInfo) : List UInt8 :=
  match bvmiEncodenvlist nv bvmi nv.create with
  | some (_, itemnvl) => nv.pack itemnvl
  | none => []

theorem packInfo_spec (bvmi : BhyveVmInfo) :
    ∃ itemnvl s, bvmiEncodenvlist nv bvmi nv.create = some (0, itemnvl) ∧
      packInfo nv bvmi = nv.pack itemnvl ∧
      bvmiDecodenvlist nv itemnvl .zeroed = some (0, s) ∧ BhyveVmInfo.ofMemory s = bvmi := by
  obtain ⟨itemnvl, hencode, -, hdecode⟩ :=
    @encode_decode nv vminfoitem2nvlist bvmi.memory nv.create (by decide)
      (fun mapping _ => nv.get_create mapping.varname) bvmi.encodeItem_memory
  refine ⟨itemnvl, _, hencode, ?_,
    hdecode itemnvl (fun _ _ => rfl) .zeroed (owned_of_tame tame_zeroed _), ?_⟩
  · unfold packInfo bvmiEncodenvlist
    rw [hencode]
  · rw [BhyveVmInfo.ofMemory_copied, BhyveVmInfo.ofMemory_memory]

theorem packInfo_ne_nil (bvmi : BhyveVmInfo) : packInfo nv bvmi ≠ [] := by
  obtain ⟨itemnvl, _, _, hpack, _⟩ := packInfo_spec nv bvmi
  rw [hpack]
  exact nv.pack_ne_nil itemnvl

/-! The machines one after the other. -/

theorem packInfos_eq (infos : List BhyveVmInfo) (stc : SocketTransmissionCollector) :
    packInfos nv infos stc = some (0, ⟨stc.items ++ infos.map (packInfo nv)⟩) := by
  induction infos generalizing stc with
  | nil => rw [List.map_nil, List.append_nil]; rfl
  | cons bvmi infos ih =>
    obtain ⟨itemnvl, _, hencode, hpack, _⟩ := packInfo_spec nv bvmi
    have hstore : stcStoreTransmit (nv.pack itemnvl) stc =
        (0, ⟨stc.items ++ [packInfo nv bvmi]⟩) := by
      rw [hpack, stcStoreTransmit_of_ne (nv.pack_ne_nil itemnvl)]
    rw [packInfos, hencode, Option.bind_eq_bind, Option.bind_some]
    dsimp only
    rw [hstore]
    dsimp only
    rw [if_neg (by decide), ih, List.append_assoc, List.singleton_append, List.map_cons]

theorem unpackInfos_flatten (infos : List BhyveVmInfo) (front : List UInt8)
    (hmemory : (front ++ (infos.map (packInfo nv)).flatten).length < 2 ^ 64) :
    unpackInfos nv (front ++ (infos.map (packInfo nv)).flatten)
      ((infos.map (packInfo nv)).map fun item => UInt64.ofNat item.length) front.length =
        some (0, infos) := by
  induction infos generalizing front with
  | nil => rfl
  | cons bvmi infos ih =>
    obtain ⟨itemnvl, s, _, hpack, hdecode, hmade⟩ := packInfo_spec nv bvmi
    rw [List.map_cons, List.flatten_cons, ← List.append_assoc] at hmemory ⊢
    have hlength := hmemory
    simp only [List.length_append] at hlength
    have hslice :
        ((front ++ packInfo nv bvmi ++ (infos.map (packInfo nv)).flatten).drop front.length).take
        (packInfo nv bvmi).length = packInfo nv bvmi := by
      rw [List.append_assoc, List.drop_left, List.take_left]
    have hnumber : (UInt64.ofNat (packInfo nv bvmi).length).toNat = (packInfo nv bvmi).length := by
      rw [UInt64.toNat_ofNat', Nat.mod_eq_of_lt (by omega)]
    have hnext : sizeT (front.length + (packInfo nv bvmi).length) =
        (front ++ packInfo nv bvmi).length := by
      rw [List.length_append, ← Int.natCast_add, sizeT_of_nat (by omega)]
    rw [List.map_cons, unpackInfos, hnumber, if_neg (by simp only [List.length_append]; omega),
      hslice, hpack, nv.unpack_pack]
    dsimp only
    rw [hdecode, Option.bind_eq_bind, Option.bind_some]
    dsimp only
    rw [if_neg (by decide), ← hpack, hnext, ih _ hmemory, Option.bind_eq_bind,
      Option.bind_some, hmade]
    rfl

/-! All of it. -/

/-- The infos in memory, in one block. -/
def packedInfos (infos : List BhyveVmInfo) : List UInt8 := (infos.map (packInfo nv)).flatten

theorem stcCollect_packed {infos : List BhyveVmInfo} (hne : infos ≠ []) :
    stcCollect ⟨infos.map (packInfo nv)⟩ (zeros (stcGetbuffersize ⟨infos.map (packInfo nv)⟩))
        (stcGetbuffersize ⟨infos.map (packInfo nv)⟩) (List.replicate infos.length 0)
        (sizeofSizeT * infos.length) =
      (0, packedInfos nv infos, (infos.map (packInfo nv)).map List.length) := by
  have hcount : stcGetbuffercount ⟨infos.map (packInfo nv)⟩ = infos.length := List.length_map _
  have hflatten : (infos.map (packInfo nv)).flatten ≠ [] := by
    obtain ⟨first, rest, rfl⟩ := List.exists_cons_of_ne_nil hne
    simp [packInfo_ne_nil]
  rw [← hcount]
  exact @stcCollect_exact ⟨infos.map (packInfo nv)⟩ hflatten _ _
    (zeros_length _) List.length_replicate

section
variable (infos : List BhyveVmInfo) (msgcount : Int64)

theorem bvmmiEncodenvlist_eq (hne : infos ≠ []) :
    ∃ nvl, bvmmiEncodenvlist nv ⟨infos, infos.length, msgcount⟩ nv.create = some (0, nvl) ∧
      nv.get nvl (ascii "vm_infos") = some (.binary (packedInfos nv infos)) ∧
      nv.get nvl (ascii "vm_infos.lengths") =
        some (.numberArray ((infos.map (packInfo nv)).map fun item => UInt64.ofNat item.length)) ∧
      ∃ s, bcmdDecodenvlist nv vminfo2nvlist .zeroed nvl = some (0, s) ∧
        s.readNumber 8 8 = infos.length % 2 ^ 32 ∧ s.readNumber 16 8 = msgcount.toUInt64.toNat := by
  obtain ⟨table, hencode, hframe, hdecode⟩ := @encode_decode nv vminfo2nvlist
    (BhyveVmManagerInfo.mk infos infos.length msgcount).memory nv.create (by decide)
    (fun mapping _ => nv.get_create mapping.varname) (BhyveVmManagerInfo.encodeItem_memory _)
  let lengths := (infos.map (packInfo nv)).map fun item => UInt64.ofNat item.length
  let blob := nv.add table (ascii "vm_infos") (.binary (packedInfos nv infos))
  have hcollect := stcCollect_packed nv hne
  have hother : ∀ mapping ∈ vminfo2nvlist, mapping.varname ≠ ascii "vm_infos" ∧
      mapping.varname ≠ ascii "vm_infos.lengths" := by decide
  refine ⟨nv.add blob (ascii "vm_infos.lengths") (.numberArray lengths), ?_, ?_, ?_, _,
    hdecode _ ?_ .zeroed (owned_of_tame tame_zeroed _), ?_, ?_⟩
  · unfold bvmmiEncodenvlist
    rw [hencode, Option.bind_eq_bind, Option.bind_some]
    dsimp only
    rw [if_neg (by decide), packInfos_eq, Option.bind_eq_bind, Option.bind_some]
    simp only [stcNew, List.nil_append, hcollect]
    rw [if_neg (by decide), List.map_map]
    rfl
  · have hdistinct : ascii "vm_infos" ≠ ascii "vm_infos.lengths" := by decide
    rw [nv.get_add_other _ _ _ _ hdistinct]
    apply nv.get_add_self
    rw [hframe _ (by decide), nv.get_create]
  · apply nv.get_add_self
    rw [nv.get_add_other _ _ _ _ (by decide), hframe _ (by decide), nv.get_create]
  · intro mapping hmapping
    rw [nv.get_add_other _ _ _ _ (hother mapping hmapping).2,
      nv.get_add_other _ _ _ _ (hother mapping hmapping).1]
  · rw [BhyveVmManagerInfo.copied_vmCount, BhyveVmManagerInfo.memory_vmCount]
  · rw [BhyveVmManagerInfo.copied_msgcount, BhyveVmManagerInfo.memory_msgcount]

/-- Without machines there is nothing to collect, which is an error. -/
theorem bvmmiEncodebinary_nil : bvmmiEncodebinary nv ⟨[], 0, msgcount⟩ = some (-1, none) := by
  obtain ⟨table, hencode, -⟩ := @encode_decode nv vminfo2nvlist
    (BhyveVmManagerInfo.mk [] 0 msgcount).memory nv.create (by decide)
    (fun mapping _ => nv.get_create mapping.varname) (BhyveVmManagerInfo.encodeItem_memory _)
  unfold bvmmiEncodebinary bvmmiEncodenvlist
  rw [hencode]
  -- `stc_collect` is called with a buffer of no bytes
  rfl

theorem lengths_toNat {items : List (List UInt8)} (hmemory : items.flatten.length < 2 ^ 64) :
    (items.map fun item => UInt64.ofNat item.length).map UInt64.toNat = items.map List.length := by
  rw [List.map_map]
  apply List.map_congr_left
  intro item hitem
  have hle := (List.sublist_flatten_of_mem hitem).length_le
  rw [Function.comp_apply, UInt64.toNat_ofNat', Nat.mod_eq_of_lt (by omega)]

/-- The way from the director to the client. The item `vm_count` has 32 bits,
and with more machines an assertion of the client fails. -/
theorem bvmmiEncodebinary_eq (hne : infos ≠ []) :
    ∃ buffer, bvmmiEncodebinary nv ⟨infos, infos.length, msgcount⟩ = some (0, some buffer) ∧
      buffer ≠ [] ∧ (2 ^ 32 ≤ infos.length → bvmmiDecodebinary nv buffer = none) ∧
      (infos.length < 2 ^ 32 → (packedInfos nv infos).length < 2 ^ 64 →
        bvmmiDecodebinary nv buffer = some (0, some ⟨infos, infos.length, msgcount⟩)) := by
  obtain ⟨nvl, hencode, hblob, hlengths, s, hdecode, hcount, hmsgcount⟩ :=
    bvmmiEncodenvlist_eq nv infos msgcount hne
  refine ⟨nv.pack nvl, ?_, nv.pack_ne_nil nvl, ?_, ?_⟩
  · unfold bvmmiEncodebinary
    rw [hencode, Option.bind_eq_bind, Option.bind_some]
    rfl
  · intro hmany
    unfold bvmmiDecodebinary bvmmiDecodenvlist
    rw [nv.unpack_pack]
    dsimp only
    rw [hdecode, Option.bind_eq_bind, Option.bind_some]
    dsimp only
    rw [if_neg (by decide), hlengths, hcount]
    dsimp only
    rw [if_pos (by rw [List.length_map, List.length_map]; omega)]
    rfl
  · intro hfew hmemory
    have htotal : sizeT ((infos.map (packInfo nv)).flatten.length : Nat) =
        (packedInfos nv infos).length :=
      sizeT_of_nat hmemory
    have hinfos := unpackInfos_flatten nv infos [] hmemory
    rw [List.nil_append, List.length_nil] at hinfos
    unfold bvmmiDecodebinary bvmmiDecodenvlist
    rw [nv.unpack_pack]
    dsimp only
    rw [hdecode, Option.bind_eq_bind, Option.bind_some]
    dsimp only
    rw [if_neg (by decide), hlengths, hcount, hblob, hmsgcount]
    dsimp only
    rw [if_neg (by rw [List.length_map, List.length_map]; omega),
      lengths_toNat hmemory, ← List.length_flatten,
      if_neg (not_not.mpr htotal), packedInfos, hinfos, Nat.mod_eq_of_lt hfew]
    simp

end

end Vmstated.Libcommand
