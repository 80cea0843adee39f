import Vmstated.Libcommand.TableCodec
import Vmstated.Libprocwatch.BhyveConfig

/-! libprocwatch/bhyve_config.c: configurations and name-value lists. -/
namespace Vmstated.Libprocwatch
open Library Libcommand

def coresRow : ParserMapping := ⟨3160, .dynamicstring, 8, ascii "cores"⟩

def coresField : ParserMapping := ⟨3160, .uint16, 2, ascii "cores"⟩

/-- A valid `struct bhyve_configuration`. Where the number of cores is read as a
pointer, so are the six bytes of padding behind it, which are zero. -/
structure ValidConfiguration where
  fields : CStruct
  typed : ∀ mapping ∈ bcNvlist2config, mapping ≠ coresRow → Typed mapping fields
  padding : fields.readNumber 3162 6 = 0
  coresPointer : fields.pointers 3160 = if fields.readNumber 3160 8 = 0 then .null else .wild

def ValidConfiguration.cores (bc : ValidConfiguration) : Nat := bc.fields.readNumber 3160 2

section
variable (nv : Libnv)

def bcTonvlist (bc : CStruct) (nvl : nv.Nvlist) : Option (Int × nv.Nvlist) :=
  bcmdEncodenvlist nv bcNvlist2config bc nvl

def bcFromnvlist (bc : CStruct) (nvl : nv.Nvlist) : Option (Int × CStruct) :=
  bcmdDecodenvlist nv bcNvlist2config bc nvl

end

theorem ValidConfiguration.cores_pointer (bc : ValidConfiguration) :
    bc.fields.pointers 3160 = if bc.cores = 0 then .null else .wild := by
  have hword : bc.fields.readNumber 3160 8 = bc.cores := by
    rw [CStruct.readNumber_add _ 3160 2 6, bc.padding, Nat.mul_zero, Nat.add_zero]
    rfl
  rw [bc.coresPointer, hword]

/-! The table around the row of the cores. -/

def rowsBefore : List ParserMapping := bcNvlist2config.take 15

def rowsBehind : List ParserMapping := bcNvlist2config.drop 16

def otherRows : List ParserMapping := rowsBefore ++ rowsBehind

theorem bcNvlist2config_eq : bcNvlist2config = rowsBefore ++ coresRow :: rowsBehind := rfl

theorem otherRows_apart : otherRows.Pairwise fun a b => a.region.Apart b.region := by decide

theorem otherRows_apart_cores :
    ∀ mapping ∈ otherRows, Region.Apart coresRow.region mapping.region := by decide

theorem mem_otherRows : ∀ mapping ∈ otherRows, mapping ∈ bcNvlist2config ∧ mapping ≠ coresRow := by
  decide

theorem otherRows_of_mem : ∀ mapping ∈ bcNvlist2config, mapping ≠ coresRow →
    mapping ∈ otherRows := by decide

def configFields : List ParserMapping := rowsBefore ++ coresField :: rowsBehind

section
variable (source : ValidConfiguration)

theorem ValidConfiguration.typed_otherRows :
    ∀ mapping ∈ otherRows, Typed mapping source.fields := by
  intro mapping hmapping
  obtain ⟨hmem, hne⟩ := mem_otherRows mapping hmapping
  exact source.typed mapping hmem hne

theorem ValidConfiguration.typed_of_cores (hcores : source.cores = 0) :
    ∀ mapping ∈ bcNvlist2config, Typed mapping source.fields := by
  intro mapping hmapping
  by_cases hrow : mapping = coresRow
  · rw [hrow]
    intro hwild
    rw [coresRow, source.cores_pointer, if_pos hcores] at hwild
    cases hwild
  · exact source.typed mapping hmapping hrow

theorem ValidConfiguration.encodeItem_cores :
    encodeItem coresRow source.fields = none ↔ source.cores ≠ 0 := by
  unfold encodeItem coresRow
  dsimp only
  rw [source.cores_pointer]
  by_cases hcores : source.cores = 0
  · rw [if_pos hcores]
    exact iff_of_false (Option.some_ne_none _) (not_not.mpr hcores)
  · rw [if_neg hcores]
    exact iff_of_true rfl hcores

end

section
variable (source : CStruct) (destination : ValidConfiguration)

theorem agree_rowsBefore :
    CStruct.Agree coresRow.region
      (rowsBefore.foldl (copyItem source) destination.fields) destination.fields :=
  CStruct.agree_foldl (fun _ _ => frame_copyItem)
    (fun mapping hmapping => otherRows_apart_cores mapping (List.mem_append_left _ hmapping))
      destination.fields

theorem copyItem_cores (hsource : source.pointers 3160 = .null) (hcores : destination.cores = 0) :
    bcNvlist2config.foldl (copyItem source) destination.fields =
      otherRows.foldl (copyItem source) destination.fields := by
  have hword := (agree_rowsBefore source destination).pointer (Nat.succ_pos 7)
  have hnull : (rowsBefore.foldl (copyItem source) destination.fields).pointers 3160 = .null :=
    hword.trans (destination.cores_pointer.trans (if_pos hcores))
  rw [bcNvlist2config_eq, otherRows, List.foldl_append, List.foldl_append, List.foldl_cons]
  congr 1
  simp only [copyItem, coresRow, hsource]
  generalize rowsBefore.foldl (copyItem source) destination.fields = s at hnull
  rw [CStruct.setPointer]
  congr 1
  funext i
  split
  · rename_i hi
    rw [hi, hnull]
  · rfl

theorem decodeItems_cores (hsource : ∀ mapping ∈ bcNvlist2config, Typed mapping source)
    (hcores : destination.cores ≠ 0) :
    decodeItems (bcNvlist2config.map fun mapping => (mapping, encodeItem mapping source))
      destination.fields = none := by
  have hword := (agree_rowsBefore source destination).pointer (Nat.succ_pos 7)
  have hwild : (rowsBefore.foldl (copyItem source) destination.fields).pointers 3160 = .wild :=
    hword.trans (destination.cores_pointer.trans (if_neg hcores))
  have howned : Owned rowsBefore destination.fields := by
    apply owned_of_typed
    exact fun mapping hmapping =>
      destination.typed_otherRows mapping (List.mem_append_left _ hmapping)
  have hvalues : ∀ mapping ∈ rowsBefore, encodeItem mapping source ≠ none :=
    fun mapping hmapping => (hsource mapping (List.mem_append_left _ hmapping)).encodeItem_ne_none
  rw [bcNvlist2config_eq, List.map_append, decodeItems_append,
    decodeItems_encodeItem hvalues howned, Option.bind_some, List.map_cons, decodeItems]
  unfold decodeItem coresRow
  dsimp only
  rw [if_pos hwild]
  rfl

end

end Vmstated.Libprocwatch
