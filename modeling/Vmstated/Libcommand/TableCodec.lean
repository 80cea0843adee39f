import Vmstated.Libcommand.BhyveCommand
import Vmstated.Library.CharArray
import Vmstated.Library.Region

/-! Tables whose fields are apart: every field arrives, and nothing else changes. -/
namespace Vmstated.Libcommand
open Library

/-- What the field takes of the structure. Only a `FIXEDSTRING` takes `size`. -/
def ParserMapping.region (mapping : ParserMapping) : Region where
  offset := mapping.offset
  width :=
    match mapping.valueType with
    | .fixedstring => mapping.size
    | .dynamicstring => 8
    | .uint64 => 8
    | .uint32 => 4
    | .uint16 => 2
    | .boolean => 1

/-- The field holds what its type says: a string ends inside the field, a
pointer is `NULL` or that of a string, a `bool` is 0 or 1. -/
def Typed (mapping : ParserMapping) (source : CStruct) : Prop :=
  match mapping.valueType with
  | .fixedstring => 0 ∈ source.readBytes mapping.offset mapping.size
  | .dynamicstring => source.pointers mapping.offset ≠ .wild
  | .boolean => source.readNumber mapping.offset 1 ≤ 1
  | _ => True

def SameField (mapping : ParserMapping) (source buffer : CStruct) : Prop :=
  match mapping.valueType with
  | .fixedstring =>
    cString (buffer.readBytes mapping.offset mapping.size) =
      cString (source.readBytes mapping.offset mapping.size)
  | .dynamicstring => buffer.pointers mapping.offset = source.pointers mapping.offset
  | .uint64 => buffer.readNumber mapping.offset 8 = source.readNumber mapping.offset 8
  | .uint32 => buffer.readNumber mapping.offset 4 = source.readNumber mapping.offset 4
  | .uint16 => buffer.readNumber mapping.offset 2 = source.readNumber mapping.offset 2
  | .boolean => buffer.readNumber mapping.offset 1 = source.readNumber mapping.offset 1

section
variable {source buffer after : CStruct} {mapping : ParserMapping}

theorem Typed.encodeItem_ne_none (h : Typed mapping source) : encodeItem mapping source ≠ none := by
  unfold Typed at h
  unfold encodeItem
  cases htype : mapping.valueType with
  | fixedstring =>
    rw [htype] at h
    dsimp only
    rw [if_pos h]
    exact Option.some_ne_none _
  | dynamicstring =>
    rw [htype] at h
    dsimp only
    split
    · exact Option.some_ne_none _
    · exact Option.some_ne_none _
    · rename_i hwild
      exact absurd hwild h
  | _ => exact Option.some_ne_none _

theorem typed_zeroed (mapping : ParserMapping) (hsize : 0 < mapping.size) :
    Typed mapping .zeroed := by
  unfold Typed
  cases mapping.valueType with
  | fixedstring =>
    dsimp only
    rw [CStruct.readBytes_zeroed]
    exact List.mem_replicate.mpr ⟨Nat.ne_of_gt hsize, rfl⟩
  | dynamicstring => exact Pointer.noConfusion
  | boolean =>
    dsimp only
    rw [CStruct.readNumber_zeroed]
    exact Nat.zero_le 1
  | _ => trivial

theorem Typed.of_agree (h : Typed mapping buffer)
    (hagree : CStruct.Agree mapping.region buffer after) :
    Typed mapping after := by
  unfold Typed at *
  unfold ParserMapping.region at hagree
  cases htype : mapping.valueType with
  | fixedstring =>
    rw [htype] at h hagree
    rw [← hagree.readBytes (le_refl _) (le_refl _)]
    exact h
  | dynamicstring =>
    rw [htype] at h hagree
    rw [← hagree.pointer (Nat.succ_pos 7)]
    exact h
  | boolean =>
    rw [htype] at h hagree
    rw [← hagree.readNumber (le_refl _) (le_refl _)]
    exact h
  | _ => trivial

theorem owned_of_typed {mappings : List ParserMapping}
    (h : ∀ mapping ∈ mappings, Typed mapping buffer) :
    Owned mappings buffer := by
  intro mapping hmapping htype
  have htyped := h mapping hmapping
  rw [Typed, htype] at htyped
  exact htyped

theorem SameField.of_agree (h : SameField mapping source buffer)
    (hagree : CStruct.Agree mapping.region buffer after) :
    SameField mapping source after := by
  unfold SameField at *
  unfold ParserMapping.region at hagree
  cases htype : mapping.valueType with
  | fixedstring =>
    rw [htype] at h hagree
    rw [← hagree.readBytes (le_refl _) (le_refl _)]
    exact h
  | dynamicstring =>
    rw [htype] at h hagree
    exact (hagree.pointer (Nat.succ_pos 7)).symm.trans h
  | _ =>
    rw [htype] at h hagree
    rw [← hagree.readNumber (le_refl _) (le_refl _)]
    exact h

theorem frame_copyItem : CStruct.Frame mapping.region (copyItem source buffer mapping) buffer := by
  unfold copyItem ParserMapping.region
  cases htype : mapping.valueType with
  | fixedstring =>
    have hframe := CStruct.frame_writeBytes buffer mapping.offset
      ((cString (source.readBytes mapping.offset mapping.size)).take mapping.size ++
        zeros (mapping.size - (cString (source.readBytes mapping.offset mapping.size)).length))
    rw [strncpy_length] at hframe
    exact hframe
  | dynamicstring => exact CStruct.frame_setPointer _ _ (Nat.succ_pos 7) _
  | _ => exact CStruct.frame_writeNumber _ _ _ _

theorem sameField_copyItem (h : Typed mapping source) :
    SameField mapping source (copyItem source buffer mapping) := by
  unfold Typed at h
  unfold copyItem SameField
  cases htype : mapping.valueType with
  | fixedstring =>
    rw [htype] at h
    dsimp only at h ⊢
    have hlt := strlen_lt_of_mem h
    have hsize : (source.readBytes mapping.offset mapping.size).length = mapping.size := by
      rw [CStruct.readBytes, List.length_map, List.length_range]
    rw [hsize] at hlt
    have hread := CStruct.readBytes_writeBytes buffer mapping.offset
      ((cString (source.readBytes mapping.offset mapping.size)).take mapping.size ++
        zeros (mapping.size - (cString (source.readBytes mapping.offset mapping.size)).length))
    rw [strncpy_length] at hread
    have htext := cString_padded (cString_ne_zero _) hlt []
    rw [List.append_nil] at htext
    rw [hread]
    exact htext
  | dynamicstring => exact if_pos rfl
  | boolean =>
    rw [htype] at h
    dsimp only at h ⊢
    have hvalue : ((source.readNumber mapping.offset 1 != 0).toNat) =
        source.readNumber mapping.offset 1 := by
      generalize source.readNumber mapping.offset 1 = value at h
      interval_cases value <;> rfl
    rw [hvalue, CStruct.readNumber_writeNumber_self _ _ (source.readNumber_lt _ _)]
  | _ => exact CStruct.readNumber_writeNumber_self _ _ (source.readNumber_lt _ _)

end

/-! The whole table. -/

theorem decodeItems_append (front items : List (ParserMapping × Option NvValue))
    (buffer : CStruct) :
    decodeItems (front ++ items) buffer = (decodeItems front buffer).bind (decodeItems items) := by
  induction front generalizing buffer with
  | nil => rfl
  | cons item front ih =>
    rw [List.cons_append, decodeItems, decodeItems]
    cases decodeItem item.1 item.2 buffer with
    | none => rfl
    | some decoded => exact ih decoded

theorem encodeItem_of_encoded {nv : Libnv} {mappings : List ParserMapping}
    {buffer : CStruct} {nvl : nv.Nvlist}
    {encoded : Int × nv.Nvlist} (h : bcmdEncodenvlist nv mappings buffer nvl = some encoded) :
    ∀ mapping ∈ mappings, encodeItem mapping buffer ≠ none := by
  induction mappings generalizing nvl with
  | nil => exact fun _ hmapping => absurd hmapping List.not_mem_nil
  | cons mapping mappings ih =>
    obtain ⟨value, hvalue, hrest⟩ := Option.bind_eq_some_iff.mp h
    intro other hother
    rcases List.mem_cons.mp hother with rfl | hmem
    · rw [hvalue]
      exact Option.some_ne_none value
    · exact ih hrest other hmem

section
variable {mappings : List ParserMapping} {source buffer : CStruct}

theorem frame_copyItems {i : Nat} (hi : ∀ mapping ∈ mappings, ¬mapping.region.Has i) :
    (mappings.foldl (copyItem source) buffer).bytes i = buffer.bytes i ∧
      (mappings.foldl (copyItem source) buffer).pointers i = buffer.pointers i :=
  CStruct.agree_foldl (fun _ _ => frame_copyItem)
    (fun mapping hmapping => Region.apart_of_not_has (hi mapping hmapping))
    buffer i ⟨le_refl i, Nat.lt_succ_self i⟩

theorem sameField_copyItems (hapart : mappings.Pairwise fun a b => a.region.Apart b.region)
    (htyped : ∀ mapping ∈ mappings, Typed mapping source) :
    ∀ mapping ∈ mappings, SameField mapping source (mappings.foldl (copyItem source) buffer) := by
  intro mapping hmapping
  obtain ⟨before, -, hagree⟩ :=
    CStruct.agree_foldl_of_mem (fun _ _ => frame_copyItem) hapart buffer mapping hmapping
  exact (sameField_copyItem (htyped mapping hmapping)).of_agree hagree.symm

end

end Vmstated.Libcommand
