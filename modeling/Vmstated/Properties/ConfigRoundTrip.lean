import Vmstated.Libprocwatch.ConfigCodec

/-! A configuration that is packed and unpacked. -/
namespace Vmstated.Properties
open Library Libcommand Libprocwatch

/-- No field is taken for a pointer that is none, in the source or in the
destination, and each field named in the table arrives by its own type. -/
def RoundTrips (nv : Libnv) (source destination : ValidConfiguration) : Prop :=
  ∃ nvl after, bcTonvlist nv source.fields nv.create = some (0, nvl) ∧
    bcFromnvlist nv destination.fields nvl = some (0, after) ∧
    ∀ mapping ∈ configFields, SameField mapping source.fields after

section
variable {nv : Libnv} {source destination : ValidConfiguration}

theorem bcTonvlist_of_cores (hcores : source.cores ≠ 0) :
    bcTonvlist nv source.fields nv.create = none := by
  by_contra hsome
  obtain ⟨encoded, hencode⟩ := Option.ne_none_iff_exists'.mp hsome
  exact encodeItem_of_encoded hencode coresRow (by decide) (source.encodeItem_cores.mpr hcores)

theorem bcNvlist2config_names : (bcNvlist2config.map ParserMapping.varname).Nodup := by decide

theorem bcTonvlist_coreless (hcores : source.cores = 0) :
    ∃ nvl, bcTonvlist nv source.fields nv.create = some (0, nvl) ∧
      ∀ destination : CStruct, bcFromnvlist nv destination nvl =
        (decodeItems (bcNvlist2config.map fun mapping =>
          (mapping, encodeItem mapping source.fields)) destination).map
          fun decoded => (0, decoded) := by
  have htyped := source.typed_of_cores hcores
  obtain ⟨nvl, hencode, hget, -⟩ := @bcmdEncodenvlist_get nv bcNvlist2config source.fields nv.create
    bcNvlist2config_names (fun mapping _ => nv.get_create mapping.varname)
    (fun mapping hmapping => (htyped mapping hmapping).encodeItem_ne_none)
  refine ⟨nvl, hencode, ?_⟩
  intro destination
  have hitems : (bcNvlist2config.map fun mapping => (mapping, nv.get nvl mapping.varname)) =
      bcNvlist2config.map fun mapping => (mapping, encodeItem mapping source.fields) := by
    apply List.map_congr_left
    intro mapping hmapping
    rw [hget mapping hmapping]
  rw [bcFromnvlist, bcmdDecodenvlist_eq, hitems]

theorem sameField_configFields (hsource : source.cores = 0) (hdestination : destination.cores = 0) :
    ∀ mapping ∈ configFields,
      SameField mapping source.fields
        (otherRows.foldl (copyItem source.fields) destination.fields) := by
  have hothers := @sameField_copyItems otherRows source.fields destination.fields otherRows_apart
    source.typed_otherRows
  have hword :
      CStruct.Agree coresRow.region (otherRows.foldl (copyItem source.fields) destination.fields)
      destination.fields :=
        CStruct.agree_foldl (fun _ _ => frame_copyItem) otherRows_apart_cores destination.fields
  intro mapping hmapping
  rcases List.mem_append.mp hmapping with hbefore | hmapping
  · exact hothers mapping (List.mem_append_left _ hbefore)
  rcases List.mem_cons.mp hmapping with rfl | hbehind
  · have hbytes := hword.readNumber (le_refl 3160) (by decide : 3160 + 2 ≤ 3160 + 8)
    exact hbytes.trans (hdestination.trans hsource.symm)
  · exact hothers mapping (List.mem_append_right _ hbehind)

end

/-- A configuration makes the way just where there are no cores in it and in
the one that it is decoded into. -/
theorem roundTrips_iff (nv : Libnv) (source destination : ValidConfiguration) :
    RoundTrips nv source destination ↔ source.cores = 0 ∧ destination.cores = 0 := by
  constructor
  · rintro ⟨nvl, after, hencode, hdecode, -⟩
    have hsource : source.cores = 0 := by
      by_contra hcores
      rw [bcTonvlist_of_cores hcores] at hencode
      cases hencode
    refine ⟨hsource, ?_⟩
    by_contra hcores
    obtain ⟨found, hfound, hdecoded⟩ := @bcTonvlist_coreless nv source hsource
    obtain rfl : nvl = found := (Prod.mk.inj (Option.some.inj (hencode.symm.trans hfound))).2
    rw [hdecoded, decodeItems_cores source.fields destination
      (source.typed_of_cores hsource) hcores] at hdecode
    cases hdecode
  · rintro ⟨hsource, hdestination⟩
    obtain ⟨nvl, hencode, hdecoded⟩ := @bcTonvlist_coreless nv source hsource
    have htyped := source.typed_of_cores hsource
    have hnull : source.fields.pointers 3160 = .null := source.cores_pointer.trans (if_pos hsource)
    have howned : Owned bcNvlist2config destination.fields :=
      owned_of_typed (destination.typed_of_cores hdestination)
    refine ⟨nvl, otherRows.foldl (copyItem source.fields) destination.fields, hencode, ?_,
      sameField_configFields hsource hdestination⟩
    rw [hdecoded, decodeItems_encodeItem
      (fun mapping hmapping => (htyped mapping hmapping).encodeItem_ne_none) howned,
      copyItem_cores source.fields destination hnull hdestination]
    rfl

def coresMemory (cores : UInt16) : CStruct :=
  (CStruct.zeroed.writeNumber 3160 2 cores.toNat).setPointer 3160
    (if cores.toNat = 0 then .null else .wild)

theorem coresMemory_cores (cores : UInt16) :
    (coresMemory cores).readNumber 3160 2 = cores.toNat := by
  rw [coresMemory, CStruct.readNumber_setPointer]
  exact CStruct.readNumber_writeNumber_self _ _ cores.toNat_lt

theorem coresMemory_padding (cores : UInt16) : (coresMemory cores).readNumber 3162 6 = 0 := by
  rw [coresMemory, CStruct.readNumber_setPointer,
    CStruct.readNumber_writeNumber_of_disjoint _ _ (by decide), CStruct.readNumber_zeroed]

theorem coresMemory_others (cores : UInt16) {r : Region} (hapart : coresRow.region.Apart r) :
    CStruct.Agree r .zeroed (coresMemory cores) := by
  intro i hi
  have hnot : ¬(3160 ≤ i ∧ i < 3160 + 8) := hapart.symm.not_has hi
  refine ⟨?_, ?_⟩
  · simp only [coresMemory, CStruct.setPointer, CStruct.writeNumber]
    rw [if_neg (by omega)]
  · rw [coresMemory, CStruct.setPointer_pointers, if_neg (by omega)]
    rfl

def withCores (cores : UInt16) : ValidConfiguration where
  fields := coresMemory cores
  typed := by
    intro mapping hmapping hne
    have hsize : ∀ mapping ∈ bcNvlist2config, 0 < mapping.size := by decide
    have hapart := otherRows_apart_cores mapping (otherRows_of_mem mapping hmapping hne)
    exact (typed_zeroed mapping (hsize mapping hmapping)).of_agree (coresMemory_others cores hapart)
  padding := coresMemory_padding cores
  coresPointer := by
    rw [CStruct.readNumber_add _ 3160 2 6, coresMemory_cores,
      coresMemory_padding, Nat.mul_zero, Nat.add_zero]
    rfl

theorem not_roundTrips : ¬RoundTrips nvpacked (withCores 2) (withCores 0) := by
  rintro ⟨nvl, _, hencode, -, -⟩
  have hcores : (withCores 2).cores = 2 := coresMemory_cores 2
  rw [bcTonvlist_of_cores (by rw [hcores]; decide)] at hencode
  cases hencode

end Vmstated.Properties
