import Vmstated.Library.CStruct
import Vmstated.Library.Memory
import Vmstated.Library.Nvlist

/-! libcommand/bhyve_command.c: structures and name-value lists, by a table
that maps the fields of the one to the items of the other. -/
namespace Vmstated.Libcommand
open Library

inductive ValueType where
  | fixedstring
  | dynamicstring
  | uint16
  | uint32
  | uint64
  | boolean
deriving DecidableEq, Repr

structure ParserMapping where
  offset : Nat
  valueType : ValueType
  size : Nat
  varname : List UInt8
deriving DecidableEq, Repr

/-- The value that the loop of `bcmd_encodenvlist` adds. Nothing where the
field holds no string. -/
def encodeItem (mapping : ParserMapping) (buffer : CStruct) : Option NvValue :=
  match mapping.valueType with
  | .fixedstring =>
    let field := buffer.readBytes mapping.offset mapping.size
    if 0 ∈ field then some (.string (cString field)) else none
  | .dynamicstring =>
    match buffer.pointers mapping.offset with
    | .string text => some (.string text)
    | .null => some .null
    | .wild => none
  | .uint64 => some (.number (.ofNat (buffer.readNumber mapping.offset 8)))
  | .uint32 => some (.number (.ofNat (buffer.readNumber mapping.offset 4)))
  | .uint16 => some (.number (.ofNat (buffer.readNumber mapping.offset 2)))
  | .boolean => some (.bool (buffer.readNumber mapping.offset 1 != 0))

/-- What the loop of `bcmd_decodenvlist` does for the value found under the
item's name. An item of another type is as good as none, and a pointer that
is replaced is freed. -/
def decodeItem (mapping : ParserMapping) (value : Option NvValue) (buffer : CStruct) :
    Option CStruct :=
  match mapping.valueType, value with
  | .fixedstring, some (.string text) =>
    -- `strncpy` fills the field with zeros
    some (buffer.writeBytes mapping.offset
      (text.take mapping.size ++ zeros (mapping.size - text.length)))
  | .dynamicstring, value =>
    if buffer.pointers mapping.offset = .wild then none
    else
      match value with
      | some (.string text) => some (buffer.setPointer mapping.offset (.string text))
      | _ => some (buffer.setPointer mapping.offset .null)
  | .uint64, some (.number value) => some (buffer.writeNumber mapping.offset 8 value.toNat)
  | .uint32, some (.number value) => some (buffer.writeNumber mapping.offset 4 value.toNat)
  | .uint16, some (.number value) => some (buffer.writeNumber mapping.offset 2 value.toNat)
  | .boolean, some (.bool value) => some (buffer.writeNumber mapping.offset 1 value.toNat)
  | _, _ => some buffer

variable (nv : Libnv)

def bcmdEncodenvlist : List ParserMapping → CStruct → nv.Nvlist → Option (Int × nv.Nvlist)
  | [], _, nvl => some (0, nvl)
  | mapping :: mappings, buffer, nvl =>
    (encodeItem mapping buffer).bind fun value =>
      bcmdEncodenvlist mappings buffer (nv.add nvl mapping.varname value)

def bcmdDecodenvlist : List ParserMapping → CStruct → nv.Nvlist → Option (Int × CStruct)
  | [], buffer, _ => some (0, buffer)
  | mapping :: mappings, buffer, nvl =>
    (decodeItem mapping (nv.get nvl mapping.varname) buffer).bind fun buffer =>
      bcmdDecodenvlist mappings buffer nvl

/-- The items of a command; `struct bhyve_usercommand` has its strings at 0, 8
and 24. -/
def bhyveCommandNv : List ParserMapping :=
  [⟨0, .dynamicstring, 8, ascii "cmd"⟩,
   ⟨8, .dynamicstring, 8, ascii "vmname"⟩,
   ⟨16, .uint32, 4, ascii "result"⟩,
   ⟨24, .dynamicstring, 8, ascii "reply"⟩]

def bcmdParseNvlistcmd (buffer : List UInt8) (bcmd : CStruct) : Option (Int × CStruct) :=
  match nv.unpack buffer with
  | none => some (-1, bcmd)
  | some nvl => bcmdDecodenvlist nv bhyveCommandNv bcmd nvl

/-- Decoding goes by the values under the names alone. -/
def decodeItems : List (ParserMapping × Option NvValue) → CStruct → Option CStruct
  | [], buffer => some buffer
  | item :: items, buffer => (decodeItem item.1 item.2 buffer).bind (decodeItems items)

variable {nv}

theorem bcmdEncodenvlist_get {mappings : List ParserMapping} {buffer : CStruct} {nvl : nv.Nvlist}
    (hdistinct : (mappings.map ParserMapping.varname).Nodup)
    (hnew : ∀ mapping ∈ mappings, nv.get nvl mapping.varname = none)
    (hvalues : ∀ mapping ∈ mappings, encodeItem mapping buffer ≠ none) :
    ∃ after, bcmdEncodenvlist nv mappings buffer nvl = some (0, after) ∧
      (∀ mapping ∈ mappings, nv.get after mapping.varname = encodeItem mapping buffer) ∧
      ∀ name ∉ mappings.map ParserMapping.varname, nv.get after name = nv.get nvl name := by
  induction mappings generalizing nvl with
  | nil => exact ⟨nvl, rfl, by simp, fun _ _ => rfl⟩
  | cons mapping mappings ih =>
    rw [List.map_cons, List.nodup_cons] at hdistinct
    obtain ⟨value, hvalue⟩ := Option.ne_none_iff_exists'.mp (hvalues mapping List.mem_cons_self)
    have hself := nv.get_add_self nvl mapping.varname value (hnew mapping List.mem_cons_self)
    have hlater (other : ParserMapping) (hother : other ∈ mappings) :
        other.varname ≠ mapping.varname := by
      intro hsame
      exact hdistinct.1 (hsame ▸ List.mem_map_of_mem hother)
    obtain ⟨after, hencode, hget, hframe⟩ := @ih (nv.add nvl mapping.varname value) hdistinct.2
      (fun other hother => by
        rw [nv.get_add_other _ _ _ _ (hlater other hother)]
        exact hnew other (List.mem_cons_of_mem mapping hother))
      (fun other hother => hvalues other (List.mem_cons_of_mem mapping hother))
    refine ⟨after, ?_, ?_, ?_⟩
    · rw [bcmdEncodenvlist, hvalue, Option.bind_some, hencode]
    · intro other hother
      rcases List.mem_cons.mp hother with rfl | hrest
      · rw [hframe _ hdistinct.1, hself, hvalue]
      · exact hget other hrest
    · intro name hname
      rw [List.map_cons, List.mem_cons, not_or] at hname
      rw [hframe name hname.2, nv.get_add_other _ _ _ _ hname.1]

theorem bcmdDecodenvlist_eq (mappings : List ParserMapping) (buffer : CStruct) (nvl : nv.Nvlist) :
    bcmdDecodenvlist nv mappings buffer nvl =
      (decodeItems (mappings.map fun mapping => (mapping, nv.get nvl mapping.varname)) buffer).map
        fun decoded => (0, decoded) := by
  induction mappings generalizing buffer with
  | nil => rfl
  | cons mapping mappings ih =>
    rw [bcmdDecodenvlist, List.map_cons, decodeItems, Option.map_bind]
    congr 1
    funext decoded
    exact ih decoded

def stringPointer : Option NvValue → Pointer
  | some (.string text) => .string text
  | _ => .null

theorem stringPointer_ne_wild (value : Option NvValue) : stringPointer value ≠ .wild := by
  unfold stringPointer
  split <;> exact Pointer.noConfusion

theorem stringPointer_eq_string {value : Option NvValue} {text : List UInt8} :
    stringPointer value = .string text ↔ value = some (.string text) := by
  unfold stringPointer
  split
  · simp
  · rename_i hother
    exact ⟨fun h => Pointer.noConfusion h, fun h => absurd h (hother text)⟩

theorem stringPointer_eq_null {value : Option NvValue} :
    stringPointer value = .null ↔ ∀ text, value ≠ some (.string text) := by
  unfold stringPointer
  split
  · simp
  · rename_i hother
    exact ⟨fun _ => hother, fun _ => rfl⟩

theorem decodeItem_dynamicstring {mapping : ParserMapping}
    {buffer : CStruct} (value : Option NvValue)
    (htype : mapping.valueType = .dynamicstring)
    (hpointer : buffer.pointers mapping.offset ≠ .wild) :
    decodeItem mapping value buffer =
      some (buffer.setPointer mapping.offset (stringPointer value)) := by
  unfold decodeItem stringPointer
  rw [htype]
  dsimp only
  rw [if_neg hpointer]
  split <;> rfl

theorem decodeItem_pointers {mapping : ParserMapping} {buffer : CStruct} (value : Option NvValue)
    (htype : mapping.valueType ≠ .dynamicstring) :
    ∃ decoded, decodeItem mapping value buffer = some decoded ∧
      decoded.pointers = buffer.pointers := by
  unfold decodeItem
  split
  case h_2 hvalue => exact absurd hvalue htype
  all_goals exact ⟨_, rfl, rfl⟩

/-- Whatever the list holds, it is a command, of which absent strings are `NULL`. -/
theorem bcmdParseNvlistcmd_zeroed {buffer : List UInt8}
    {nvl : nv.Nvlist} (hunpack : nv.unpack buffer = some nvl) :
    ∃ bcmd, bcmdParseNvlistcmd nv buffer .zeroed = some (0, bcmd) ∧
      bcmd.pointers 0 = stringPointer (nv.get nvl (ascii "cmd")) ∧
      bcmd.pointers 8 = stringPointer (nv.get nvl (ascii "vmname")) := by
  obtain ⟨numbered, hnumber, hpointers⟩ := @decodeItem_pointers ⟨16, .uint32, 4, ascii "result"⟩
    ((CStruct.zeroed.setPointer 0 (stringPointer (nv.get nvl (ascii "cmd")))).setPointer 8
      (stringPointer (nv.get nvl (ascii "vmname")))) (nv.get nvl (ascii "result")) (by decide)
  have hreply : numbered.pointers 24 ≠ .wild := by
    rw [hpointers]
    exact Pointer.noConfusion
  refine ⟨numbered.setPointer 24 (stringPointer (nv.get nvl (ascii "reply"))), ?_, ?_, ?_⟩
  · unfold bcmdParseNvlistcmd
    rw [hunpack]
    dsimp only
    rw [bcmdDecodenvlist_eq, bhyveCommandNv, List.map_cons,
      List.map_cons, List.map_cons, List.map_cons,
      List.map_nil, decodeItems, decodeItem_dynamicstring _ rfl Pointer.noConfusion,
        Option.bind_some,
      decodeItems, decodeItem_dynamicstring _ rfl Pointer.noConfusion, Option.bind_some,
      decodeItems, hnumber, Option.bind_some,
      decodeItems, decodeItem_dynamicstring _ rfl hreply, Option.bind_some, decodeItems]
    rfl
  · rw [CStruct.setPointer_pointers, if_neg (by decide), hpointers]
    rfl
  · rw [CStruct.setPointer_pointers, if_neg (by decide), hpointers]
    rfl

/-! Fields that are copied through their item. -/

/-- What decoding makes of the item that encoding made of `source`. -/
def copyItem (source : CStruct) (buffer : CStruct) (mapping : ParserMapping) : CStruct :=
  let offset := mapping.offset
  match mapping.valueType with
  | .fixedstring =>
    let text := cString (source.readBytes offset mapping.size)
    buffer.writeBytes offset (text.take mapping.size ++ zeros (mapping.size - text.length))
  | .dynamicstring => buffer.setPointer offset (source.pointers offset)
  | .uint64 => buffer.writeNumber offset 8 (source.readNumber offset 8)
  | .uint32 => buffer.writeNumber offset 4 (source.readNumber offset 4)
  | .uint16 => buffer.writeNumber offset 2 (source.readNumber offset 2)
  | .boolean => buffer.writeNumber offset 1 (source.readNumber offset 1 != 0).toNat

def Tame (buffer : CStruct) : Prop := ∀ offset, buffer.pointers offset ≠ .wild

theorem tame_zeroed : Tame .zeroed := fun _ => by simp [CStruct.zeroed]

theorem tame_setPointer {buffer : CStruct} (htame : Tame buffer) (offset : Nat) {pointer : Pointer}
    (hpointer : pointer ≠ .wild) : Tame (buffer.setPointer offset pointer) := by
  intro other
  rw [CStruct.setPointer_pointers]
  split
  · exact hpointer
  · exact htame other

def Owned (mappings : List ParserMapping) (buffer : CStruct) : Prop :=
  ∀ mapping ∈ mappings, mapping.valueType = .dynamicstring → buffer.pointers mapping.offset ≠ .wild

theorem owned_of_tame {buffer : CStruct} (htame : Tame buffer) (mappings : List ParserMapping) :
    Owned mappings buffer := fun mapping _ _ => htame mapping.offset

theorem encodeItem_of_tame {mapping : ParserMapping} {buffer : CStruct} (htame : Tame buffer)
    (htype : mapping.valueType ≠ .fixedstring) : encodeItem mapping buffer ≠ none := by
  have hpointer := htame mapping.offset
  unfold encodeItem
  cases hvalue : mapping.valueType with
  | fixedstring => exact absurd hvalue htype
  | dynamicstring =>
    cases hfound : buffer.pointers mapping.offset with
    | wild => exact absurd hfound hpointer
    | _ => exact Option.some_ne_none _
  | _ => exact Option.some_ne_none _

section
variable {source buffer : CStruct} {mapping : ParserMapping}
  (hvalue : encodeItem mapping source ≠ none)
include hvalue

theorem encodeItem_pointer (htype : mapping.valueType = .dynamicstring) :
    source.pointers mapping.offset ≠ .wild := by
  intro hwild
  rw [encodeItem, htype, hwild] at hvalue
  exact hvalue rfl

theorem decodeItem_encodeItem (howned : Owned [mapping] buffer) :
    decodeItem mapping (encodeItem mapping source) buffer =
      some (copyItem source buffer mapping) := by
  have hpointer := encodeItem_pointer hvalue
  have hnumber {width : Nat} (hwidth : width ≤ 8) :
      (UInt64.ofNat (source.readNumber mapping.offset width)).toNat =
        source.readNumber mapping.offset width := by
    have hlt := source.readNumber_lt mapping.offset width
    have hpow : 256 ^ width ≤ 256 ^ 8 := Nat.pow_le_pow_right (by decide) hwidth
    rw [UInt64.toNat_ofNat', Nat.mod_eq_of_lt (by omega)]
  unfold decodeItem copyItem
  cases htype : mapping.valueType with
  | fixedstring =>
    rw [encodeItem, htype] at hvalue ⊢
    dsimp only at hvalue ⊢
    split at hvalue
    · rename_i hzero
      rw [if_pos hzero]
    · exact absurd rfl hvalue
  | dynamicstring =>
    rw [encodeItem, htype]
    dsimp only
    rw [if_neg (howned mapping List.mem_cons_self htype)]
    cases hfound : source.pointers mapping.offset with
    | null => rfl
    | string text => rfl
    | wild => exact absurd hfound (hpointer htype)
  | uint64 | uint32 | uint16 =>
    rw [encodeItem, htype]
    dsimp only
    rw [hnumber (by decide)]
  | boolean =>
    rw [encodeItem, htype]

theorem owned_copyItem {mappings : List ParserMapping} (howned : Owned mappings buffer) :
    Owned mappings (copyItem source buffer mapping) := by
  have hpointer := encodeItem_pointer hvalue
  intro other hother hdynamic
  have hold := howned other hother hdynamic
  unfold copyItem
  cases htype : mapping.valueType with
  | dynamicstring =>
    rw [CStruct.setPointer_pointers]
    split
    · exact hpointer htype
    · exact hold
  | _ => exact hold

end

theorem decodeItems_encodeItem {mappings : List ParserMapping} {source buffer : CStruct}
    (hvalues : ∀ mapping ∈ mappings, encodeItem mapping source ≠ none)
    (howned : Owned mappings buffer) :
    decodeItems (mappings.map fun mapping => (mapping, encodeItem mapping source)) buffer =
      some (mappings.foldl (copyItem source) buffer) := by
  induction mappings generalizing buffer with
  | nil => rfl
  | cons mapping mappings ih =>
    have hvalue := hvalues mapping List.mem_cons_self
    obtain ⟨hfirst, hrest⟩ : Owned [mapping] buffer ∧ Owned mappings buffer := by
      refine ⟨fun other hother => ?_,
        fun other hother => howned other (List.mem_cons_of_mem mapping hother)⟩
      rw [List.mem_singleton.mp hother]
      exact howned mapping List.mem_cons_self
    rw [List.map_cons, decodeItems, decodeItem_encodeItem hvalue hfirst,
      Option.bind_some, List.foldl_cons]
    exact ih (fun other hother => hvalues other (List.mem_cons_of_mem mapping hother))
      (owned_copyItem hvalue hrest)

/-- A structure that was encoded into a new list and is decoded from it. -/
theorem encode_decode {mappings : List ParserMapping} {source : CStruct} {nvl : nv.Nvlist}
    (hdistinct : (mappings.map ParserMapping.varname).Nodup)
    (hnew : ∀ mapping ∈ mappings, nv.get nvl mapping.varname = none)
    (hvalues : ∀ mapping ∈ mappings, encodeItem mapping source ≠ none) :
    ∃ after, bcmdEncodenvlist nv mappings source nvl = some (0, after) ∧
      (∀ name ∉ mappings.map ParserMapping.varname, nv.get after name = nv.get nvl name) ∧
      ∀ later, (∀ mapping ∈ mappings, nv.get later mapping.varname = nv.get after mapping.varname) →
        ∀ buffer, Owned mappings buffer →
          bcmdDecodenvlist nv mappings buffer later =
            some (0, mappings.foldl (copyItem source) buffer) := by
  obtain ⟨after, hencode, hget, hframe⟩ := bcmdEncodenvlist_get hdistinct hnew hvalues
  refine ⟨after, hencode, hframe, ?_⟩
  intro later hlater buffer howned
  have hitems : (mappings.map fun mapping => (mapping, nv.get later mapping.varname)) =
      mappings.map fun mapping => (mapping, encodeItem mapping source) := by
    apply List.map_congr_left
    intro mapping hmapping
    rw [hlater mapping hmapping, hget mapping hmapping]
  rw [bcmdDecodenvlist_eq, hitems, decodeItems_encodeItem hvalues howned]
  rfl

end Vmstated.Libcommand
