import Vmstated.Libprocwatch.UclParser

/-! libprocwatch/bhyve_config.c: configurations from a file. -/
namespace Vmstated.Libprocwatch
open Library Libcommand

/-- `struct bhyve_configuration`, which takes 3232 bytes on amd64, and the
list that its pointer `consoles` is to. -/
structure ConfigStruct where
  fields : CStruct
  consoles : Option (List CStruct)

/-- The pointer to the cores is at the field of the number. -/
def bcNvlist2config : List ParserMapping :=
  [⟨0, .fixedstring, 1024, ascii "name"⟩, ⟨1024, .fixedstring, 1024, ascii "configfile"⟩,
    ⟨2048, .fixedstring, 1024, ascii "scriptpath"⟩, ⟨3072, .dynamicstring, 8, ascii "os"⟩,
    ⟨3080, .dynamicstring, 8, ascii "osversion"⟩, ⟨3088, .dynamicstring, 8, ascii "owner"⟩,
    ⟨3096, .dynamicstring, 8, ascii "group"⟩, ⟨3104, .dynamicstring, 8, ascii "description"⟩,
    ⟨3112, .uint32, 4, ascii "maxrestart"⟩, ⟨3120, .uint64, 8, ascii "maxrestarttime"⟩,
    ⟨3136, .boolean, 1, ascii "autostart"⟩, ⟨3144, .dynamicstring, 8, ascii "bootrom"⟩,
    ⟨3152, .uint32, 4, ascii "memory"⟩, ⟨3156, .uint16, 2, ascii "numcpus"⟩,
    ⟨3158, .uint16, 2, ascii "sockets"⟩, ⟨3160, .dynamicstring, 8, ascii "cores"⟩,
    ⟨3200, .boolean, 1, ascii "generate_acpi_tables"⟩, ⟨3201, .boolean, 1, ascii "wire_memory"⟩,
    ⟨3202, .boolean, 1, ascii "vmexit_on_halt"⟩, ⟨3208, .dynamicstring, 8, ascii "hostbridge"⟩]

/-! The getters. -/

section
variable (offset : Nat) (bc : ConfigStruct)

/-- A text in one of the three arrays at the front. It is not known where one
ends that leaves no end in these arrays. -/
def getArray : Option CString := CString.ofMemory (bc.fields.readBytes offset (3072 - offset))

def getPointer : Pointer := bc.fields.pointers offset

/-- Nothing is known of a number that has the bytes of an address. -/
def getNumber (width : Nat) : Option Nat :=
  if bc.fields.pointers offset = .null then some (bc.fields.readNumber offset width) else none

def getFlag : Bool := bc.fields.readNumber offset 1 ≠ 0

end

section
variable (bc : ConfigStruct)

def bcGetName : Option CString := getArray 0 bc
def bcGetConfigfile : Option CString := getArray 1024 bc
def bcGetScriptpath : Option CString := getArray 2048 bc
def bcGetOs : Pointer := getPointer 3072 bc
def bcGetOsversion : Pointer := getPointer 3080 bc
def bcGetOwner : Pointer := getPointer 3088 bc
def bcGetGroup : Pointer := getPointer 3096 bc
def bcGetDescription : Pointer := getPointer 3104 bc
def bcGetBootrom : Pointer := getPointer 3144 bc
def bcGetMaxrestart : Option Nat := getNumber 3112 bc 4
def bcGetMaxrestarttime : Option Int :=
  (getNumber 3120 bc 8).map fun value : Nat => Int.bmod value (2 ^ 64)
def bcGetMemory : Option Nat := getNumber 3152 bc 4
def bcGetNumcpus : Option Nat := getNumber 3156 bc 2
def bcGetSockets : Option Nat := getNumber 3158 bc 2
def bcGetCores : Option Nat := getNumber 3160 bc 2
def bcGetGenerateacpi : Bool := getFlag 3200 bc
def bcGetVmexithlt : Bool := getFlag 3202 bc
def bcGetAutostart : Bool := getFlag 3136 bc

end

/-! Reading a file. -/

section
variable (ucl : Libucl)

def bcUcl2subparserItems : List (BhyveUclparserItem ucl (Option (List CStruct))) :=
  [⟨ascii "consoles", bufParseConsoleList ucl⟩]

def bcParsefromucl (bc : ConfigStruct) (confobj : ucl.Object) : Option ConfigStruct :=
  (bupGenericParsefromucl ucl bcNvlist2config (bcUcl2subparserItems ucl) (ucl.iterate confobj)
    (bc.fields, bc.consoles)).map fun parsed => ⟨parsed.1, parsed.2⟩

/-- Zeros, but for the tag as the default of the name. -/
def taggedConfig (configname : CString) : ConfigStruct :=
  ⟨CStruct.zeroed.writeBytes 0 (strncpy 1024 configname).bytes, none⟩

/-- One round of the loop. A section without a key has no name to copy. -/
def parseSection (configfile : CString) (cur : ucl.Object) : Option ConfigStruct :=
  match ucl.key cur with
  | none => none
  | some configname =>
    (bcParsefromucl ucl (taggedConfig configname) cur).map fun bc =>
      -- `backing_filepath`
      { bc with fields := bc.fields.setPointer 3184 (.string configfile.val) }

/-- The configuration read last is in front. -/
def parseSections (configfile : CString) :
    List ucl.Object → List ConfigStruct → Option (List ConfigStruct)
  | [], configs => some configs
  | cur :: sections, configs =>
    (parseSection ucl configfile cur).bind fun bc => parseSections configfile sections
    (bc :: configs)

/-- `file` is what the parser makes of the file, if it accepts it: its root. -/
def bcsParseucl (configfile : CString) (file : Option (Option ucl.Object))
    (configs : List ConfigStruct) :
    Option (Int × List ConfigStruct) :=
  match file with
  | none => some (-1, configs)
  | some none => some (0, configs)
  | some (some root) =>
    (parseSections ucl configfile (ucl.iterate root) configs).map fun configs => (0, configs)

end

end Vmstated.Libprocwatch
