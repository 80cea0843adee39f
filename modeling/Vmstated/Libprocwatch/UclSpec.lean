import Vmstated.Libprocwatch.BhyveConfig

/-! What parsing a section stores, where every value is of the kind that its
field takes. -/
namespace Vmstated.Libprocwatch
open Library Libcommand

def storeItem (ctx : CStruct) (item : ParserMapping × UclValue) : CStruct :=
  match item.1.valueType, item.2 with
  | .fixedstring, .string keyval => ctx.writeBytes item.1.offset (strncpy item.1.size keyval).bytes
  | .dynamicstring, .string keyval => ctx.setPointer item.1.offset (.string keyval.val)
  | .dynamicstring, .int _ => ctx.setPointer item.1.offset .null
  | .uint64, .int number => ctx.writeNumber item.1.offset 8 (lowBytes 8 number)
  | .uint32, .int number => ctx.writeNumber item.1.offset 4 (lowBytes 4 number)
  | .uint16, .int number => ctx.writeNumber item.1.offset 2 (lowBytes 2 number)
  | .boolean, .boolean flag => ctx.writeNumber item.1.offset 1 flag.toNat
  | _, _ => ctx

/-- A field of this type takes the value. A number for a pointer is dropped. -/
def Accepts : ValueType → UclValue → Prop
  | .fixedstring, .string _ | .dynamicstring, .string _ | .dynamicstring,
      .int _ | .boolean, .boolean _ => True
  | .uint64, .int _ | .uint32, .int _ | .uint16, .int _ => True
  | _, _ => False

section
variable {ctx : CStruct} {mapping : ParserMapping} {value : UclValue}

theorem frame_storeItem (ctx : CStruct) (item : ParserMapping × UclValue) :
    CStruct.Frame item.1.region (storeItem ctx item) ctx := by
  obtain ⟨mapping, value⟩ := item
  unfold storeItem ParserMapping.region
  cases mapping.valueType <;> cases value
  case fixedstring.string keyval =>
    have hframe := CStruct.frame_writeBytes ctx mapping.offset (strncpy mapping.size keyval).bytes
    rw [(strncpy mapping.size keyval).length_eq] at hframe
    exact hframe
  case dynamicstring.string keyval => exact CStruct.frame_setPointer _ _ (Nat.succ_pos 7) _
  case dynamicstring.int number => exact CStruct.frame_setPointer _ _ (Nat.succ_pos 7) _
  case uint64.int number => exact CStruct.frame_writeNumber _ _ _ _
  case uint32.int number => exact CStruct.frame_writeNumber _ _ _ _
  case uint16.int number => exact CStruct.frame_writeNumber _ _ _ _
  case boolean.boolean flag => exact CStruct.frame_writeNumber _ _ _ _
  all_goals exact CStruct.Frame.refl _ _

theorem tame_storeItem (htame : Tame ctx) (item : ParserMapping × UclValue) :
    Tame (storeItem ctx item) := by
  unfold storeItem
  split
  · exact htame
  · exact tame_setPointer htame _ Pointer.noConfusion
  · exact tame_setPointer htame _ Pointer.noConfusion
  all_goals exact htame

theorem parseItem_eq (ucl : Libucl) {cur : ucl.Object} (htame : Tame ctx)
    (hvalue : ucl.value cur = value) (haccepts : Accepts mapping.valueType value) :
    parseItem ucl mapping cur ctx = some (storeItem ctx (mapping, value)) := by
  have hpointer := htame mapping.offset
  unfold parseItem storeItem
  cases htype : mapping.valueType <;> cases value <;> rw [htype] at haccepts
  case fixedstring.string keyval => simp [ucl.tostring_string cur keyval hvalue]
  case dynamicstring.string keyval => simp [ucl.tostring_string cur keyval hvalue, hpointer]
  case dynamicstring.int number => simp [ucl.tostring_int cur number hvalue, hpointer]
  case uint64.int number => simp [ucl.toint_int cur number hvalue]
  case uint32.int number => simp [ucl.toint_int cur number hvalue]
  case uint16.int number => simp [ucl.toint_int cur number hvalue]
  case boolean.boolean flag => simp [ucl.toboolean_boolean cur flag hvalue]
  all_goals exact absurd haccepts id

end

/-! The variables that the manual page describes. -/

inductive Setting where
  | name
  | configfile
  | scriptpath
  | os
  | osversion
  | owner
  | group
  | description
  | maxrestart
  | maxrestarttime
  | bootrom
  | generateAcpiTables
  | vmexitOnHalt
  | memory
  | cpus
  | sockets
  | cores
deriving DecidableEq

inductive FieldKind where
  | array
  | pointer
  | uint32
  | uint16
  | time
  | flag

def FieldKind.Fits : FieldKind → UclValue → Prop
  | array, .string text => text.val.length < 1024
  | pointer, .string _ => True
  | uint32, .int number => 0 ≤ number ∧ number < 2 ^ 32
  | uint16, .int number => 0 ≤ number ∧ number < 2 ^ 16
  | time, .int number => -2 ^ 63 ≤ number ∧ number < 2 ^ 63
  | flag, .boolean _ => True
  | _, _ => False

namespace Setting

def all : List Setting :=
  [name, configfile, scriptpath, os, osversion, owner, group,
    description, maxrestart, maxrestarttime, bootrom,
    generateAcpiTables, vmexitOnHalt, memory, cpus, sockets, cores]

theorem mem_all (setting : Setting) : setting ∈ all := by
  cases setting <;> decide

def varname : Setting → CString
  | name => literal "name"
  | configfile => literal "configfile"
  | scriptpath => literal "scriptpath"
  | os => literal "os"
  | osversion => literal "osversion"
  | owner => literal "owner"
  | group => literal "group"
  | description => literal "description"
  | maxrestart => literal "maxrestart"
  | maxrestarttime => literal "maxrestarttime"
  | bootrom => literal "bootrom"
  | generateAcpiTables => literal "generate_acpi_tables"
  | vmexitOnHalt => literal "vmexit_on_halt"
  | memory => literal "memory"
  | cpus => literal "cpus"
  | sockets => literal "sockets"
  | cores => literal "cores"

def kind : Setting → FieldKind
  | name | configfile | scriptpath => .array
  | os | osversion | owner | group | description | bootrom => .pointer
  | maxrestart | memory => .uint32
  | cpus | sockets | cores => .uint16
  | maxrestarttime => .time
  | generateAcpiTables | vmexitOnHalt => .flag

def Fits (setting : Setting) (value : UclValue) : Prop := setting.kind.Fits value

def pointerValue : Pointer → Option UclValue
  | .string text => if h : 0 ∉ text then some (.string ⟨text, h⟩) else none
  | _ => none

def get (bc : ConfigStruct) : Setting → Option UclValue
  | name => (bcGetName bc).map .string
  | configfile => (bcGetConfigfile bc).map .string
  | scriptpath => (bcGetScriptpath bc).map .string
  | os => pointerValue (bcGetOs bc)
  | osversion => pointerValue (bcGetOsversion bc)
  | owner => pointerValue (bcGetOwner bc)
  | group => pointerValue (bcGetGroup bc)
  | description => pointerValue (bcGetDescription bc)
  | maxrestart => (bcGetMaxrestart bc).map fun number : Nat => .int number
  | maxrestarttime => (bcGetMaxrestarttime bc).map .int
  | bootrom => pointerValue (bcGetBootrom bc)
  | generateAcpiTables => some (.boolean (bcGetGenerateacpi bc))
  | vmexitOnHalt => some (.boolean (bcGetVmexithlt bc))
  | memory => (bcGetMemory bc).map fun number : Nat => .int number
  | cpus => (bcGetNumcpus bc).map fun number : Nat => .int number
  | sockets => (bcGetSockets bc).map fun number : Nat => .int number
  | cores => (bcGetCores bc).map fun number : Nat => .int number

def offset : Setting → Nat
  | name => 0
  | configfile => 1024
  | scriptpath => 2048
  | os => 3072
  | osversion => 3080
  | owner => 3088
  | group => 3096
  | description => 3104
  | maxrestart => 3112
  | maxrestarttime => 3120
  | bootrom => 3144
  | generateAcpiTables => 3200
  | vmexitOnHalt => 3202
  | memory => 3152
  | cpus => 3156
  | sockets => 3158
  | cores => 3160

def row (setting : Setting) : Option ParserMapping :=
  bupFindmapping bcNvlist2config (some setting.varname)

end Setting

def FieldKind.valueType : FieldKind → ValueType
  | array => .fixedstring
  | pointer => .dynamicstring
  | uint32 => .uint32
  | uint16 => .uint16
  | time => .uint64
  | flag => .boolean

def FieldKind.get (offset : Nat) (bc : ConfigStruct) : FieldKind → Option UclValue
  | array => (getArray offset bc).map .string
  | pointer => Setting.pointerValue (getPointer offset bc)
  | uint32 => (getNumber offset bc 4).map fun number : Nat => .int number
  | uint16 => (getNumber offset bc 2).map fun number : Nat => .int number
  | time => ((getNumber offset bc 8).map fun value : Nat => Int.bmod value (2 ^ 64)).map .int
  | flag => some (.boolean (getFlag offset bc))

namespace Setting

theorem get_eq (bc : ConfigStruct) (setting : Setting) :
    setting.get bc = setting.kind.get setting.offset bc := by
  cases setting <;> rfl

/-- The table does not know the variable `cpus`, and takes the cores for a string. -/
theorem row_of_ne (setting : Setting) (hcpus : setting ≠ cpus) (hcores : setting ≠ cores) :
    ∃ mapping, setting.row = some mapping ∧ mapping.offset = setting.offset ∧
      mapping.valueType = setting.kind.valueType ∧
        (mapping.valueType = .fixedstring → mapping.size = 1024) := by
  cases setting
  case cpus => exact absurd rfl hcpus
  case cores => exact absurd rfl hcores
  all_goals exact ⟨_, rfl, rfl, rfl, by decide⟩

theorem row_cpus : row cpus = none := rfl

theorem row_cores : row cores = some ⟨3160, .dynamicstring, 8, ascii "cores"⟩ := rfl

theorem row_apart {setting other : Setting} (hne : setting ≠ other) :
    ∀ mapping ∈ setting.row, ∀ next ∈ other.row, mapping.region.Apart next.region := by
  have hall : ∀ setting ∈ all, ∀ other ∈ all, setting ≠ other →
    ∀ mapping ∈ setting.row, ∀ next ∈ other.row, mapping.region.Apart next.region := by
      decide +kernel
  exact hall setting setting.mem_all other other.mem_all hne

theorem no_subparser (ucl : Libucl) (setting : Setting) :
    bupFindSubparser (bcUcl2subparserItems ucl) (some setting.varname) = none := by
  have hall : ∀ setting ∈ all, ascii "consoles" ≠ setting.varname.val := by decide +kernel
  have hne := hall setting setting.mem_all
  rw [bupFindSubparser, bcUcl2subparserItems, Option.bind_some,
    List.find?_cons_of_neg (by simpa using hne)]
  rfl

theorem Fits.accepts {setting : Setting} {value : UclValue} (hfits : setting.Fits value) :
    ∀ mapping ∈ setting.row, Accepts mapping.valueType value := by
  intro mapping hrow
  by_cases hcores : setting = cores
  · subst hcores
    obtain rfl := Option.some_inj.mp (row_cores.symm.trans hrow)
    cases value with
    | int number => trivial
    | _ => exact absurd hfits id
  · have hcpus : setting ≠ cpus := by
      rintro rfl
      exact absurd (row_cpus.symm.trans hrow) (by simp)
    obtain ⟨found, hfound, -, htype, -⟩ := row_of_ne setting hcpus hcores
    obtain rfl := Option.some_inj.mp (hfound.symm.trans hrow)
    rw [htype]
    revert hfits
    unfold Fits
    cases setting.kind <;> cases value <;> simp [FieldKind.valueType, FieldKind.Fits, Accepts]

end Setting

/-! A section of such variables. -/

structure UclSection where
  tag : CString
  entries : List (Setting × UclValue)
  distinct : (entries.map Prod.fst).Nodup
  fits : ∀ entry ∈ entries, entry.1.Fits entry.2

def UclSection.value (conf : UclSection) (setting : Setting) : Option UclValue :=
  (conf.entries.find? fun entry => entry.1 = setting).map Prod.snd

def UclSection.configfileText (conf : UclSection) : List UInt8 :=
  match conf.value .configfile with
  | some (.string text) => text.val
  | _ => []

def IsEntry (ucl : Libucl) (object : ucl.Object) (entry : Setting × UclValue) : Prop :=
  ucl.key object = some entry.1.varname ∧ ucl.value object = entry.2

def Delivers (ucl : Libucl) (cur : ucl.Object) (conf : UclSection) : Prop :=
  ucl.key cur = some conf.tag ∧ List.Forall₂ (IsEntry ucl) (ucl.iterate cur) conf.entries

def knownItems (entries : List (Setting × UclValue)) : List (ParserMapping × UclValue) :=
  entries.filterMap fun entry => entry.1.row.map fun mapping => (mapping, entry.2)

theorem parse_entries {ucl : Libucl} {objects : List ucl.Object}
    {entries : List (Setting × UclValue)}
    (hdelivers : List.Forall₂ (IsEntry ucl) objects entries)
    (hfits : ∀ entry ∈ entries, entry.1.Fits entry.2)
    {fields : CStruct} (htame : Tame fields) (consoles : Option (List CStruct)) :
    bupGenericParsefromucl ucl bcNvlist2config (bcUcl2subparserItems ucl) objects
      (fields, consoles) = some ((knownItems entries).foldl storeItem fields, consoles) := by
  induction hdelivers generalizing fields with
  | nil => rfl
  | @cons cur entry objects entries hentry _ ih =>
    obtain ⟨hkey, hvalue⟩ := hentry
    rw [List.forall_mem_cons] at hfits
    rw [bupGenericParsefromucl, hkey]
    have hfind : bupFindmapping bcNvlist2config (some entry.1.varname) = entry.1.row := rfl
    rw [hfind, knownItems, List.filterMap_cons]
    cases hrow : entry.1.row with
    | none =>
      dsimp only [Option.map_none]
      rw [Setting.no_subparser]
      exact ih hfits.2 htame
    | some mapping =>
      dsimp only [Option.map_some]
      rw [parseItem_eq ucl htame hvalue (hfits.1.accepts mapping hrow),
        Option.bind_some, List.foldl_cons]
      exact ih hfits.2 (tame_storeItem htame _)

theorem knownItems_apart {entries : List (Setting × UclValue)}
    (hdistinct : (entries.map Prod.fst).Nodup) :
    (knownItems entries).Pairwise fun item other => item.1.region.Apart other.1.region := by
  rw [knownItems, List.pairwise_filterMap]
  rw [List.Nodup, List.pairwise_map] at hdistinct
  apply hdistinct.imp
  intro entry other hne item hitem next hnext
  obtain ⟨mapping, hmapping, rfl⟩ := Option.map_eq_some_iff.mp hitem
  obtain ⟨found, hfound, rfl⟩ := Option.map_eq_some_iff.mp hnext
  exact Setting.row_apart hne mapping hmapping found hfound

/-! What the getters then read. -/

def FieldKind.width : FieldKind → Nat
  | array => 1024
  | pointer => 8
  | uint32 => 4
  | uint16 => 2
  | time => 8
  | flag => 1

theorem FieldKind.width_pos (kind : FieldKind) : 0 < kind.width := by
  cases kind <;> decide

def Setting.region (setting : Setting) : Region := ⟨setting.offset, setting.kind.width⟩

def UclSection.stored (conf : UclSection) (configfile : CString) : ConfigStruct :=
  ⟨((knownItems conf.entries).foldl storeItem (taggedConfig conf.tag).fields).setPointer 3184
    (.string configfile.val), none⟩

section
variable {conf : UclSection} {setting : Setting} {value : UclValue}

theorem tame_taggedConfig (tag : CString) : Tame (taggedConfig tag).fields := tame_zeroed

theorem parseSection_of_delivers {ucl : Libucl} {cur : ucl.Object}
    (hdelivers : Delivers ucl cur conf)
    (configfile : CString) : parseSection ucl configfile cur = some (conf.stored configfile) := by
  rw [parseSection, hdelivers.1]
  dsimp only
  rw [bcParsefromucl, parse_entries hdelivers.2 conf.fits (tame_taggedConfig conf.tag)]
  rfl

theorem taggedConfig_bytes (tag : CString) {i : Nat} (hi : 1024 ≤ i) :
    (taggedConfig tag).fields.bytes i = 0 := by
  have hlength := (strncpy 1024 tag).length_eq
  show (if 0 ≤ i then (strncpy 1024 tag).bytes.getD (i - 0) (CStruct.zeroed.bytes i)
      else CStruct.zeroed.bytes i) = 0
  rw [if_pos (Nat.zero_le i), List.getD_eq_default _ _ (by omega)]
  rfl

theorem taggedConfig_pointers (tag : CString) (i : Nat) :
    (taggedConfig tag).fields.pointers i = .null := rfl

theorem mem_knownItems {mapping : ParserMapping} (hentry : (setting, value) ∈ conf.entries)
    (hrow : setting.row = some mapping) : (mapping, value) ∈ knownItems conf.entries :=
  List.mem_filterMap.mpr ⟨(setting, value), hentry, by rw [hrow]; rfl⟩

theorem agree_stored {r : Region} (configfile : CString) (hpath : r.Apart ⟨3184, 8⟩) :
    CStruct.Agree r (conf.stored configfile).fields
      ((knownItems conf.entries).foldl storeItem (taggedConfig conf.tag).fields) :=
  (CStruct.frame_setPointer _ 3184 (Nat.succ_pos 7) (.string configfile.val)).agree hpath

theorem stored_of_mem {mapping : ParserMapping} (configfile : CString)
    (hentry : (setting, value) ∈ conf.entries)
    (hrow : setting.row = some mapping) (hpath : mapping.region.Apart ⟨3184, 8⟩) :
    ∃ before, CStruct.Agree mapping.region before (taggedConfig conf.tag).fields ∧
      CStruct.Agree mapping.region (conf.stored configfile).fields
        (storeItem before (mapping, value)) := by
  obtain ⟨before, hbefore, hafter⟩ :=
    CStruct.agree_foldl_of_mem frame_storeItem (knownItems_apart conf.distinct)
      (taggedConfig conf.tag).fields (mapping, value) (mem_knownItems hentry hrow)
  exact ⟨before, hbefore, (agree_stored configfile hpath).trans hafter⟩

theorem stored_of_apart {r : Region} (configfile : CString)
    (hapart : ∀ entry ∈ conf.entries, ∀ mapping ∈ entry.1.row, r.Apart mapping.region)
    (hpath : r.Apart ⟨3184, 8⟩) :
    CStruct.Agree r (conf.stored configfile).fields (taggedConfig conf.tag).fields := by
  have hitems : ∀ item ∈ knownItems conf.entries, r.Apart item.1.region := by
    intro item hitem
    obtain ⟨entry, hentry, hsome⟩ := List.mem_filterMap.mp hitem
    obtain ⟨mapping, hmapping, rfl⟩ := Option.map_eq_some_iff.mp hsome
    exact hapart entry hentry mapping hmapping
  exact (agree_stored configfile hpath).trans (CStruct.agree_foldl frame_storeItem hitems _)

theorem getArray_of_bytes {offset : Nat} {bc : ConfigStruct}
    {text : CString} (hoffset : offset + 1024 ≤ 3072)
    (hlength : text.val.length < 1024)
    (hbytes : bc.fields.readBytes offset 1024 = (strncpy 1024 text).bytes) :
    getArray offset bc = some text := by
  obtain ⟨rest, hrest⟩ : ∃ rest, 3072 - offset = 1024 + rest := ⟨3072 - offset - 1024, by omega⟩
  have hzero : 0 ∈ (strncpy 1024 text).bytes := by
    rw [strncpy, List.mem_append, zeros]
    exact Or.inr (List.mem_replicate.mpr ⟨by omega, rfl⟩)
  rw [getArray, hrest, CStruct.readBytes_add, hbytes, CString.ofMemory,
    if_pos (List.mem_append_left _ hzero)]
  exact congrArg some (Subtype.ext (cString_strncpy_of_lt hlength _))

theorem lowBytes_of_lt {width : Nat} {number : Int} (hpos : 0 ≤ number)
    (hlt : number < 256 ^ width) :
    (lowBytes width number : Int) = number := by
  rw [lowBytes, Int.emod_eq_of_lt hpos hlt, Int.toNat_of_nonneg hpos]

theorem lowBytes_time {number : Int} (hmin : -2 ^ 63 ≤ number) (hmax : number < 2 ^ 63) :
    Int.bmod (lowBytes 8 number) (2 ^ 64) = number := by
  have hnonneg : 0 ≤ number % 256 ^ 8 := Int.emod_nonneg number (by decide)
  rw [lowBytes, Int.toNat_of_nonneg hnonneg]
  have hpow : (256 : Int) ^ 8 = ((2 ^ 64 : Nat) : Int) := by norm_num
  rw [hpow, Int.emod_bmod]
  apply Int.bmod_eq_of_le <;> norm_num <;> omega

theorem getNumber_written {offset width : Nat} {before : CStruct} {bc : ConfigStruct} {number : Int}
    (hwidth : 0 < width) (hnull : before.pointers offset = .null)
    (hagree : CStruct.Agree ⟨offset, width⟩ bc.fields
      (before.writeNumber offset width (lowBytes width number))) :
    getNumber offset bc width = some (lowBytes width number) := by
  have hread := hagree.readNumber (le_refl _) (le_refl _)
  rw [CStruct.readNumber_writeNumber_self _ _ (lowBytes_lt width number)] at hread
  have hpointer : bc.fields.pointers offset = .null := (hagree.pointer hwidth).trans hnull
  rw [getNumber, if_pos hpointer, hread]

theorem get_written {kind : FieldKind} {mapping : ParserMapping}
    {before : CStruct} {bc : ConfigStruct}
    (hfits : kind.Fits value) (htype : mapping.valueType = kind.valueType)
    (hnull : before.pointers mapping.offset = .null)
    (harray : mapping.valueType = .fixedstring → mapping.size = 1024 ∧ mapping.offset + 1024 ≤ 3072)
    (hagree : CStruct.Agree mapping.region bc.fields (storeItem before (mapping, value))) :
    kind.get mapping.offset bc = some value := by
  unfold storeItem at hagree
  unfold ParserMapping.region at hagree
  cases kind <;> rw [htype] at hagree harray <;> cases value <;> try exact absurd hfits id
  case array.string text =>
    obtain ⟨hsize, hend⟩ := harray rfl
    rw [hsize] at hagree
    have hbytes := hagree.readBytes (le_refl _) (le_refl _)
    have hread := CStruct.readBytes_writeBytes before mapping.offset (strncpy 1024 text).bytes
    rw [(strncpy 1024 text).length_eq] at hread
    rw [FieldKind.get, getArray_of_bytes hend hfits (hbytes.trans hread)]
    rfl
  case pointer.string text =>
    have hpointer : bc.fields.pointers mapping.offset = .string text.val :=
      (hagree.pointer (Nat.succ_pos 7)).trans (if_pos rfl)
    rw [FieldKind.get, getPointer, hpointer, Setting.pointerValue, dif_pos text.property]
  case uint32.int number =>
    rw [FieldKind.get, getNumber_written (Nat.succ_pos 3) hnull hagree, Option.map_some]
    exact congrArg (some ∘ UclValue.int) (lowBytes_of_lt hfits.1 hfits.2)
  case uint16.int number =>
    rw [FieldKind.get, getNumber_written (Nat.succ_pos 1) hnull hagree, Option.map_some]
    exact congrArg (some ∘ UclValue.int) (lowBytes_of_lt hfits.1 hfits.2)
  case time.int number =>
    rw [FieldKind.get, getNumber_written (Nat.succ_pos 7) hnull hagree,
      Option.map_some, Option.map_some]
    exact congrArg (some ∘ UclValue.int) (lowBytes_time hfits.1 hfits.2)
  case flag.boolean flag =>
    have hread : bc.fields.readNumber mapping.offset 1 =
      (before.writeNumber mapping.offset 1 flag.toNat).readNumber mapping.offset 1 :=
      hagree.readNumber (le_refl _) (le_refl _)
    have hsmall : flag.toNat < 256 ^ 1 := Nat.lt_of_le_of_lt flag.toNat_le (by decide)
    rw [CStruct.readNumber_writeNumber_self _ _ hsmall] at hread
    rw [FieldKind.get, getFlag, hread]
    cases flag <;> rfl

theorem row_region {mapping : ParserMapping} (hcpus : setting ≠ .cpus) (hcores : setting ≠ .cores)
    (hrow : setting.row = some mapping) : mapping.region = setting.region := by
  obtain ⟨found, hfound, hoffset, htype, hsize⟩ := setting.row_of_ne hcpus hcores
  obtain rfl := Option.some_inj.mp (hfound.symm.trans hrow)
  rw [ParserMapping.region, Setting.region, hoffset]
  congr 1
  rw [htype] at hsize ⊢
  cases hkind : setting.kind with
  | array =>
    rw [hkind] at hsize
    exact hsize rfl
  | _ => rfl

theorem region_apart_path (setting : Setting) : setting.region.Apart ⟨3184, 8⟩ := by
  have hall : ∀ setting ∈ Setting.all, setting.region.Apart ⟨3184, 8⟩ := by decide
  exact hall setting setting.mem_all

theorem get_of_mem (configfile : CString) (hentry : (setting, value) ∈ conf.entries)
    (hcpus : setting ≠ .cpus)
    (hcores : setting ≠ .cores) : setting.get (conf.stored configfile) = some value := by
  obtain ⟨mapping, hrow, hoffset, htype, hsize⟩ := setting.row_of_ne hcpus hcores
  have hregion := row_region hcpus hcores hrow
  obtain ⟨before, hbefore, hafter⟩ := stored_of_mem configfile hentry hrow
    (by rw [hregion]; exact region_apart_path setting)
  rw [Setting.get_eq, ← hoffset]
  apply get_written (conf.fits _ hentry) htype _ _ hafter
  · have hwidth : 0 < mapping.region.width := by
      rw [hregion]
      exact setting.kind.width_pos
    exact (hbefore.pointer hwidth).trans (taggedConfig_pointers conf.tag mapping.offset)
  · intro hfixed
    refine ⟨hsize hfixed, ?_⟩
    rw [hoffset]
    rw [htype] at hfixed
    cases setting <;> first | exact absurd hfixed (by decide) | decide

/-! Variables that the section does not set. -/

theorem taggedConfig_agree {r : Region} (tag : CString) (hr : 1024 ≤ r.offset) :
    CStruct.Agree r (taggedConfig tag).fields .zeroed :=
  fun _ hi => ⟨taggedConfig_bytes tag (Nat.le_trans hr hi.1), rfl⟩

theorem getNumber_zeroed {offset width : Nat} {bc : ConfigStruct} (hwidth : 0 < width)
    (hagree : CStruct.Agree ⟨offset, width⟩ bc.fields .zeroed) :
    getNumber offset bc width = some 0 := by
  have hpointer : bc.fields.pointers offset = .null := hagree.pointer hwidth
  rw [getNumber, if_pos hpointer, hagree.readNumber (le_refl _) (le_refl _),
    CStruct.readNumber_zeroed]

theorem stored_of_not_mem (configfile : CString) (habsent : setting ∉ conf.entries.map Prod.fst)
    {mapping : ParserMapping} (hrow : setting.row = some mapping)
    (hpath : mapping.region.Apart ⟨3184, 8⟩) :
    CStruct.Agree mapping.region (conf.stored configfile).fields
      (taggedConfig conf.tag).fields := by
  apply stored_of_apart configfile _ hpath
  intro entry hentry other hother
  have hne : setting ≠ entry.1 := fun hsame => habsent (hsame ▸ List.mem_map_of_mem hentry)
  exact Setting.row_apart hne mapping hrow other hother

theorem number_of_not_mem (configfile : CString) (habsent : setting ∉ conf.entries.map Prod.fst)
    {offset width : Nat}
    {mapping : ParserMapping} (hrow : setting.row = some mapping)
    (hregion : mapping.region = ⟨offset, width⟩)
    (hplace : 1024 ≤ offset ∧ 0 < width) (hpath : Region.Apart ⟨offset, width⟩ ⟨3184, 8⟩) :
    getNumber offset (conf.stored configfile) width = some 0 := by
  have hstored := stored_of_not_mem configfile habsent hrow (by rw [hregion]; exact hpath)
  rw [hregion] at hstored
  exact getNumber_zeroed hplace.2 (hstored.trans (taggedConfig_agree conf.tag hplace.1))

theorem get_cpus (configfile : CString) :
    Setting.cpus.get (conf.stored configfile) = some (.int 0) := by
  have hall : ∀ setting ∈ Setting.all, ∀ mapping ∈ setting.row,
      Setting.cpus.region.Apart mapping.region := by
    decide +kernel
  have hstored : CStruct.Agree Setting.cpus.region (conf.stored configfile).fields
      (taggedConfig conf.tag).fields :=
    stored_of_apart configfile (fun entry _ => hall entry.1 entry.1.mem_all) (by decide)
  have hnumber : bcGetNumcpus (conf.stored configfile) = some 0 :=
    getNumber_zeroed (Nat.succ_pos 1) (hstored.trans (taggedConfig_agree conf.tag (by decide)))
  rw [Setting.get, hnumber]
  rfl

theorem get_cores (configfile : CString) :
    Setting.cores.get (conf.stored configfile) = some (.int 0) := by
  have hzero : CStruct.Agree ⟨3160, 8⟩ (taggedConfig conf.tag).fields .zeroed :=
    taggedConfig_agree conf.tag (by decide)
  have hwide : CStruct.Agree ⟨3160, 8⟩ (conf.stored configfile).fields .zeroed := by
    by_cases hset : Setting.cores ∈ conf.entries.map Prod.fst
    · obtain ⟨⟨setting, value⟩, hentry, rfl⟩ := List.mem_map.mp hset
      obtain ⟨before, hbefore, hafter⟩ :=
        stored_of_mem configfile hentry Setting.row_cores (by decide)
      have hfits : FieldKind.uint16.Fits value := conf.fits _ hentry
      cases value with
      | int number =>
        have hdropped : CStruct.Agree ⟨3160, 8⟩ (before.setPointer 3160 .null)
            (CStruct.zeroed.setPointer 3160 .null) :=
          (hbefore.trans hzero).setPointer .null
        rw [CStruct.setPointer_zeroed] at hdropped
        exact hafter.trans hdropped
      | _ => exact absurd hfits id
    · exact (stored_of_not_mem configfile hset Setting.row_cores (by decide)).trans hzero
  have hnarrow : CStruct.Agree ⟨3160, 2⟩ (conf.stored configfile).fields .zeroed :=
    fun i hi => hwide i ⟨hi.1, Nat.lt_of_lt_of_le hi.2 (by decide)⟩
  have hnumber : bcGetCores (conf.stored configfile) = some 0 :=
    getNumber_zeroed (Nat.succ_pos 1) hnarrow
  rw [Setting.get, hnumber]
  rfl

/-! The name, which may go on in the path of the configuration file. -/

theorem value_eq_none : conf.value setting = none ↔ setting ∉ conf.entries.map Prod.fst := by
  rw [UclSection.value, Option.map_eq_none_iff, List.find?_eq_none]
  constructor
  · intro hnone hmem
    obtain ⟨entry, hentry, hsetting⟩ := List.mem_map.mp hmem
    exact hnone entry hentry (decide_eq_true hsetting)
  · intro habsent entry hentry hsetting
    exact habsent (List.mem_map.mpr ⟨entry, hentry, of_decide_eq_true hsetting⟩)

theorem mem_of_value (hvalue : conf.value setting = some value) :
    (setting, value) ∈ conf.entries := by
  obtain ⟨entry, hfind, rfl⟩ := Option.map_eq_some_iff.mp hvalue
  have hsetting := List.find?_some hfind
  rw [decide_eq_true_iff] at hsetting
  rw [← hsetting]
  exact List.mem_of_find?_eq_some hfind

theorem Setting.get_name {bc : ConfigStruct} {text : CString} :
    Setting.name.get bc = some (.string text) ↔ bcGetName bc = some text := by
  rw [Setting.get, Option.map_eq_some_iff]
  simp

theorem Setting.get_configfile {bc : ConfigStruct} {text : CString} :
    Setting.configfile.get bc = some (.string text) ↔ bcGetConfigfile bc = some text := by
  rw [Setting.get, Option.map_eq_some_iff]
  simp

theorem bcGetConfigfile_stored (configfile : CString) :
    ∃ text, bcGetConfigfile (conf.stored configfile) = some text ∧
      text.val = conf.configfileText := by
  rw [UclSection.configfileText]
  cases hvalue : conf.value .configfile with
  | some value =>
    have hentry := mem_of_value hvalue
    have hget := get_of_mem configfile hentry (by decide) (by decide)
    cases value with
    | string text => exact ⟨text, Setting.get_configfile.mp hget, rfl⟩
    | _ => exact absurd (conf.fits _ hentry) id
  | none =>
    have hrow : Setting.configfile.row = some ⟨1024, .fixedstring, 1024, ascii "configfile"⟩ := rfl
    have hstored : CStruct.Agree ⟨1024, 1024⟩ (conf.stored configfile).fields .zeroed :=
      (stored_of_not_mem configfile (value_eq_none.mp hvalue) hrow (by decide)).trans
        (taggedConfig_agree conf.tag (le_refl 1024))
    have hbytes : (conf.stored configfile).fields.readBytes 1024 1024 =
        (strncpy 1024 ⟨[], List.not_mem_nil⟩).bytes := by
      rw [hstored.readBytes (le_refl _) (le_refl _), CStruct.readBytes_zeroed]
      rfl
    exact ⟨⟨[], List.not_mem_nil⟩, getArray_of_bytes (by decide) (Nat.succ_pos 1023) hbytes, rfl⟩

/-- The name is the tag, unless that does not fit. -/
theorem bcGetName_of_not_mem (configfile : CString)
    (habsent : Setting.name ∉ conf.entries.map Prod.fst) :
    bcGetName (conf.stored configfile) = some conf.tag ↔
      conf.tag.val.length < 1024 ∨ conf.tag.val.drop 1024 = conf.configfileText := by
  obtain ⟨text, htext, hval⟩ := @bcGetConfigfile_stored conf configfile
  have hrow : Setting.name.row = some ⟨0, .fixedstring, 1024, ascii "name"⟩ := rfl
  have hstored : CStruct.Agree ⟨0, 1024⟩ (conf.stored configfile).fields
      (taggedConfig conf.tag).fields :=
    stored_of_not_mem configfile habsent hrow (by decide)
  have hbytes : (conf.stored configfile).fields.readBytes 0 1024 =
      (strncpy 1024 conf.tag).bytes := by
    have hread := CStruct.readBytes_writeBytes .zeroed 0 (strncpy 1024 conf.tag).bytes
    rw [(strncpy 1024 conf.tag).length_eq] at hread
    exact (hstored.readBytes (le_refl _) (le_refl _)).trans hread
  have hsplit : (conf.stored configfile).fields.readBytes 0 3072 =
      (strncpy 1024 conf.tag).bytes ++ (conf.stored configfile).fields.readBytes 1024 2048 := by
    rw [← hbytes]
    exact CStruct.readBytes_add _ 0 1024 2048
  have hrest : CString.ofMemory ((conf.stored configfile).fields.readBytes 1024 2048) = some text :=
    htext
  have hname : bcGetName (conf.stored configfile) =
      CString.ofMemory ((conf.stored configfile).fields.readBytes 0 3072) :=
    rfl
  rw [CString.ofMemory] at hrest
  split at hrest
  · rename_i hzero
    rw [hname, hsplit, CString.ofMemory, if_pos (List.mem_append_right _ hzero),
      Option.some_inj, Subtype.ext_iff, cString_strncpy_eq_iff, ← hval, ← Option.some_inj.mp hrest]
  · exact absurd hrest (by simp)

end

/-! The sections of a file. -/

theorem parseSections_eq {ucl : Libucl} {configfile : CString} {sections : List ucl.Object}
    {parsed : List ConfigStruct}
    (hparsed : List.Forall₂
      (fun cur bc => parseSection ucl configfile cur = some bc) sections parsed)
    (configs : List ConfigStruct) :
    parseSections ucl configfile sections configs = some (parsed.reverse ++ configs) := by
  induction hparsed generalizing configs with
  | nil => rfl
  | cons hcur _ ih =>
    rw [parseSections, hcur, Option.bind_some, ih, List.reverse_cons, List.append_assoc]
    rfl

theorem exists_parsed {ucl : Libucl} {configfile : CString} {sections : List ucl.Object}
    (hsome : ∀ other ∈ sections, parseSection ucl configfile other ≠ none) :
    ∃ parsed,
      List.Forall₂ (fun cur bc => parseSection ucl configfile cur = some bc) sections parsed := by
  induction sections with
  | nil => exact ⟨[], .nil⟩
  | cons cur sections ih =>
    rw [List.forall_mem_cons] at hsome
    obtain ⟨bc, hbc⟩ := Option.ne_none_iff_exists'.mp hsome.1
    obtain ⟨parsed, hparsed⟩ := ih hsome.2
    exact ⟨bc :: parsed, .cons hbc hparsed⟩

end Vmstated.Libprocwatch
