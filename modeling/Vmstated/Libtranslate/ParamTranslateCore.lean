import Vmstated.Libconfig.ConfigCore

/-! libtranslate/param_translate_core.c: the parameters of a machine from its
configuration. -/
namespace Vmstated.Libtranslate
open Library Libconfig

structure BhyveConfigurationConsole where
  name : Option CString
  enabled : Bool
  backend : Option CString
deriving DecidableEq

/-- Of `struct bhyve_configuration`, what its getters tell the translator. The
first two strings are in arrays, and no pointer to them is `NULL`. -/
structure BhyveConfiguration where
  name : CString
  configfile : CString
  bootrom : Option CString
  memory : UInt32
  numcpus : UInt16
  sockets : UInt16
  cores : UInt16
  generateAcpiTables : Bool
  wireMemory : Bool
  vmexitOnHalt : Bool
  hostbridge : Option CString
  consoles : List BhyveConfigurationConsole
deriving DecidableEq

def toLower (byte : UInt8) : UInt8 := if 65 ≤ byte && byte ≤ 90 then byte + 32 else byte

def sameCaseless (left right : List UInt8) : Bool := left.map toLower = right.map toLower

/-- The index is checked against 4, although there are four ports. -/
def bcclGetConsolebyidx (bccl : List BhyveConfigurationConsole) (idx : Nat) :
    Option BhyveConfigurationConsole :=
  if idx > 4 then none else bccl[idx]?

def translateBootrom (bc : BhyveConfiguration) (bpc : BhyveParametersCore) : BhyveParametersCore :=
  match bc.bootrom with
  | none => bpc
  | some bootrom => (bpcSetBootrom bpc (some bootrom) false none).2

/-- Numbers that are zero are not transferred. -/
def translateNumbers (bc : BhyveConfiguration) (bpc : BhyveParametersCore) : BhyveParametersCore :=
  let bpc := bpcSetYieldonhlt bpc bc.vmexitOnHalt
  let bpc := bpcSetGenerateacpi bpc bc.generateAcpiTables
  let bpc := bpcSetWired bpc bc.wireMemory
  let bpc := if bc.memory ≠ 0 then bpcSetMemory bpc bc.memory else bpc
  let bpc := if bc.numcpus ≠ 0 then bpcSetNumcpus bpc bc.numcpus else bpc
  let bpc := if bc.sockets ≠ 0 then bpcSetSockets bpc bc.sockets else bpc
  if bc.cores ≠ 0 then bpcSetCores bpc bc.cores else bpc

def translateHostbridge (bc : BhyveConfiguration) (bpc : BhyveParametersCore) :
    BhyveParametersCore :=
  match bc.hostbridge with
  | none => bpc
  | some hostbridge =>
    bpcAddpcislotAt bpc 0 0 0
      (bppNewHostbridge (if sameCaseless hostbridge.val (ascii "amd") then .hostbridgeAmd
        else .hostbridge))

/-- One console. Without a name there is nothing to copy from. -/
def translateConsole (bpc : BhyveParametersCore) (i : Nat) (bcc : BhyveConfigurationConsole) :
    Option (Int × BhyveParametersCore) :=
  match bcc.name with
  | none => none
  | some portname =>
    match bpcEnableComport bpc portname (UInt8.ofNat i) true with
    | (0, bpc) =>
      match bcc.backend with
      | some backend =>
        if backend.val ≠ [] then some (0, (bpcSetComportBackend bpc (UInt8.ofNat i) backend).2)
        else some (0, bpc)
      | none => some (0, bpc)
    | _ => some (-1, bpc)

def translateConsoles (bccl : List BhyveConfigurationConsole) :
    List Nat → BhyveParametersCore → Option (Int × BhyveParametersCore)
  | [], bpc => some (0, bpc)
  | i :: ports, bpc =>
    match bcclGetConsolebyidx bccl i with
    | none => translateConsoles bccl ports bpc
    | some bcc =>
      match translateConsole bpc i bcc with
      | some (0, bpc) => translateConsoles bccl ports bpc
      | failed => failed

/-- Nothing is returned where a pointer that is `NULL` is read. -/
def ptcTranslate (bc : BhyveConfiguration) : Option (Int × BhyveParametersCore) :=
  let bpc := translateHostbridge bc (translateNumbers bc (translateBootrom bc (bpcNew bc.name)))
  if bc.consoles.length ≠ 0 then
    match translateConsoles bc.consoles (List.range 4) bpc with
    | some (0, bpc) => some (0, bpcAddpcislotAt bpc 0 1 0 bppNewIsabridge)
    | failed => failed
  else some (0, bpc)

end Vmstated.Libtranslate
