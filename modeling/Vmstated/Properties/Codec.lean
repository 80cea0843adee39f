import Vmstated.Libcommand.TableCodec
import Vmstated.Libcommand.VmInfoSpec

/-! What is encoded is decoded again. -/
namespace Vmstated.Properties
open Library Libcommand

/-! Any structure, by any table. -/

/-- The fields arrive, and the rest of the structure stays as it is. -/
theorem table_round_trip (nv : Libnv) {mappings : List ParserMapping} {source : CStruct}
    (hdistinct : (mappings.map ParserMapping.varname).Nodup)
    (hapart : mappings.Pairwise fun a b => a.region.Apart b.region)
    (htyped : ∀ mapping ∈ mappings, Typed mapping source) {buffer : CStruct}
    (howned : Owned mappings buffer) :
    ∃ nvl after, bcmdEncodenvlist nv mappings source nv.create = some (0, nvl) ∧
      bcmdDecodenvlist nv mappings buffer nvl = some (0, after) ∧
      (∀ mapping ∈ mappings, SameField mapping source after) ∧
      ∀ i, (∀ mapping ∈ mappings, ¬mapping.region.Has i) →
        after.bytes i = buffer.bytes i ∧ after.pointers i = buffer.pointers i := by
  obtain ⟨nvl, hencode, -, hdecode⟩ := @encode_decode nv mappings source nv.create hdistinct
    (fun mapping _ => nv.get_create mapping.varname)
      (fun mapping hmapping => (htyped mapping hmapping).encodeItem_ne_none)
  refine ⟨nvl, _, hencode, hdecode nvl (fun _ _ => rfl) buffer howned, ?_, ?_⟩
  · exact sameField_copyItems hapart htyped
  · exact fun i hi => frame_copyItems hi

def eachType : List ParserMapping :=
  [⟨0, .fixedstring, 4, [97]⟩, ⟨8, .dynamicstring, 8, [98]⟩,
    ⟨16, .uint64, 8, [99]⟩, ⟨24, .uint32, 4, [100]⟩,
    ⟨28, .uint16, 2, [101]⟩, ⟨30, .boolean, 1, [102]⟩]

def filled : CStruct :=
  let memory := CStruct.zeroed.writeBytes 0 [118, 109, 0, 7]
  let memory := memory.setPointer 8 (.string [114, 117, 110])
  (((memory.writeNumber 16 8 (2 ^ 40 + 3)).writeNumber 24 4 70000).writeNumber 28 2 513).writeNumber
    30 1 1

theorem table_round_trip_eachType : ∃ nvl after,
    bcmdEncodenvlist nvpacked eachType filled nvpacked.create = some (0, nvl) ∧
      bcmdDecodenvlist nvpacked eachType (CStruct.zeroed.setPointer 8 (.string [120])) nvl =
        some (0, after) ∧
      (∀ mapping ∈ eachType, SameField mapping filled after) ∧
      ∀ i, (∀ mapping ∈ eachType, ¬mapping.region.Has i) →
        after.bytes i = 0 ∧ after.pointers i =
          (CStruct.zeroed.setPointer 8 (.string [120])).pointers i := by
  have htame : Tame (CStruct.zeroed.setPointer 8 (.string [120])) :=
    tame_setPointer tame_zeroed 8 Pointer.noConfusion
  apply table_round_trip nvpacked
  · decide
  · decide
  · intro mapping hmapping
    simp only [eachType, List.mem_cons, List.not_mem_nil, or_false] at hmapping
    rcases hmapping with rfl | rfl | rfl | rfl | rfl | rfl
    · show (0 : UInt8) ∈ filled.readBytes 0 4
      decide +kernel
    · show filled.pointers 8 ≠ .wild
      decide +kernel
    · trivial
    · trivial
    · trivial
    · show filled.readNumber 30 1 ≤ 1
      decide +kernel
  · exact owned_of_tame htame eachType

/-! What the director tells about its machines. -/

/-- A manager info with records of any content, from the director to its
client. What is packed of them is in memory all at once. -/
theorem vminfo_round_trip (nv : Libnv) (infos : List BhyveVmInfo)
    (msgcount : Int64) (hsome : 1 ≤ infos.length)
    (hfew : infos.length < 2 ^ 32) (hmemory : (packedInfos nv infos).length < 2 ^ 64) :
    ∃ buffer, bvmmiEncodebinary nv (bvmmiNew infos infos.length msgcount) = some (0, some buffer) ∧
      bvmmiDecodebinary nv buffer = some (0, some (bvmmiNew infos infos.length msgcount)) := by
  have hnew : bvmmiNew infos infos.length msgcount = ⟨infos, infos.length, msgcount⟩ := by
    rw [bvmmiNew, List.take_length]
  obtain ⟨buffer, hencode, _, _, hdecode⟩ :=
    bvmmiEncodebinary_eq nv infos msgcount (List.length_pos_iff.mp hsome)
  rw [hnew]
  exact ⟨buffer, hencode, hdecode hfew hmemory⟩

theorem vminfo_round_trip_two : ∃ first second buffer,
    bvmiNew (some [97]) none (some []) none none none 7 (-1) 4096 = some first ∧
      bvmiNew (some [98, 99]) (some [1]) (some [2]) (some [3])
        (some [4]) (some [5, 6]) 100 812 (-4) = some second ∧
      bvmmiEncodebinary nvpacked (bvmmiNew [first, second] 2 3) = some (0, some buffer) ∧
      bvmmiDecodebinary nvpacked buffer = some (0, some (bvmmiNew [first, second] 2 3)) := by
  have hmemory : (packedInfos nvpacked [⟨some [97], none, some [], 7, -1, 4096, none, none, none⟩,
      ⟨some [98, 99], some [1], some [2], 100, 812, -4, some [3], some [4], some [5, 6]⟩]).length <
        2 ^ 64 := by
    decide +kernel
  obtain ⟨buffer, hround⟩ := vminfo_round_trip nvpacked _ 3 (by decide) (by decide) hmemory
  exact ⟨_, _, buffer, rfl, rfl, hround⟩

end Vmstated.Properties
