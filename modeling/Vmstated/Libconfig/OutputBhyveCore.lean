import Vmstated.Libconfig.ConfigCore
import Vmstated.Library.Decimal
import Vmstated.Library.Transfer

/-! libconfig/output_bhyve_core.c and file_memory.c: the file that bhyve reads,
from parameters and a file of the user. -/
namespace Vmstated.Libconfig
open Library

def printInt (i : Int) : List UInt8 := paddedDecimal 0 i

/-- A `uint32_t` that is printed as an `int`. -/
def asInt (value : UInt32) : Int := value.toInt32.toInt

/-! The lines, the one added last in front. -/

def configline (key value : List UInt8) : List UInt8 := key ++ 61 :: value

structure OutputBhyveCore where
  configfile : CString
  bpc : BhyveParametersCore
  lines : List (List UInt8)

section
variable (obc : OutputBhyveCore)

def obcAdd (key value : List UInt8) : OutputBhyveCore :=
  { obc with lines := configline key value :: obc.lines }

def obcAddBool (key : List UInt8) (value : Bool) : OutputBhyveCore :=
  obcAdd obc key (if value then ascii "true" else ascii "false")

def pciDevice (bpp : BhyveParametersPcislot) : List UInt8 :=
  snprintf 256 (ascii "pci." ++ printInt bpp.bus.toNat ++
    ascii "." ++ printInt bpp.pcislot.toNat ++ ascii "." ++
    printInt bpp.function.toNat ++ ascii ".device")

def obcSetPcislots (obc : OutputBhyveCore) : List BhyveParametersPcislot → Int × OutputBhyveCore
  | [] => (0, obc)
  | bpp :: pcislots =>
    match bpp.slotType with
    | .isabridge => obcSetPcislots (obcAdd obc (pciDevice bpp) (ascii "lpc")) pcislots
    | .hostbridge =>
      obcSetPcislots (obcAdd obc (pciDevice bpp)
        (if bpp.hostbridgeType = .hostbridgeAmd then ascii "amd_hostbridge"
          else ascii "hostbridge")) pcislots
    | _ => (-1, obc)

/-- It starts at com1, not com0. -/
def comdef (comport : Fin 4) : List UInt8 :=
  snprintf 256 (ascii "lpc.com" ++ printInt (comport + 1 : Nat) ++ ascii ".path")

def obcSetConsole (comport : Fin 4) : OutputBhyveCore :=
  if (obc.bpc.comport comport).enabled then obcAdd obc (comdef comport)
    (obc.bpc.backendText comport) else obc

def obcSetConsoles : OutputBhyveCore := (List.finRange 4).foldl obcSetConsole obc

def obcSetMemory : OutputBhyveCore :=
  if obc.bpc.memory > 0 then obcAdd obc (ascii "memory.size")
    (snprintf 32 (printInt (asInt obc.bpc.memory) ++ ascii "M"))
  else obc

def obcSetNumvar (key : List UInt8) (value : UInt16) : OutputBhyveCore :=
  if value ≠ 0 then obcAdd obc key (snprintf 32 (printInt value.toNat)) else obc

/-- The cores are written under the key of the sockets. -/
def obcSetCpus : OutputBhyveCore :=
  obcSetNumvar (obcSetNumvar (obcSetNumvar obc (ascii "cpus") obc.bpc.numcpus)
    (ascii "sockets") obc.bpc.sockets) (ascii "sockets") obc.bpc.cores

def obcSetBootrom : OutputBhyveCore :=
  let bpBoot := obc.bpc.bootrom
  obcAdd obc (ascii "lpc.bootrom") (snprintf (2 * pathMax + 64)
    (bpBoot.bootromText ++ (if bpBoot.withVars then ascii "," else []) ++ bpBoot.varsfileText))

def obcSetCore : Int × OutputBhyveCore :=
  let obc := obcSetCpus (obcSetMemory (obcAdd obc (ascii "name") obc.bpc.vmnameText))
  let obc := obcAddBool obc (ascii "x86.vmexit_on_hlt") obc.bpc.yieldOnHlt
  let obc := obcAddBool obc (ascii "acpi_tables") obc.bpc.generateAcpiTables
  let obc := obcSetConsoles (obcSetBootrom obc)
  obcSetPcislots obc obc.bpc.pcislots

end

def obcNew (configfile : CString) (bpc : BhyveParametersCore) : Option OutputBhyveCore :=
  match obcSetCore ⟨configfile, bpc, []⟩ with
  | (0, obc) => some obc
  | _ => none

/-! Writing them. -/

/-- The memory of `fm_new`, up to the end of its last page. Where it fails, it
frees an array of its own structure, and nothing is left to go on. -/
def fmNew (file : Option (List UInt8)) : Option (List UInt8) :=
  match file with
  | none | some [] => none
  | some bytes => some (bytes ++ zeros ((4096 - bytes.length % 4096) % 4096))

/-- The value that a call of `write` returns. -/
def doneWrite : Option Nat → Int
  | none => -1
  | some count => count

/-- The result is compared as a `size_t`, so a call that fails counts as done. -/
def writeLine (line : List UInt8) (sink : Sink UInt8) : Int × Sink UInt8 :=
  let (done, sink) := sink.write line
  if sizeT (doneWrite done) < line.length then (-1, sink)
  else
    let (done, sink) := sink.write [10]
    if doneWrite done < 0 then (-1, sink) else (0, sink)

def writeLines : List (List UInt8) → Sink UInt8 → Int × Sink UInt8
  | [], sink => (0, sink)
  | line :: lines, sink =>
    match writeLine line sink with
    | (0, sink) => writeLines lines sink
    | (result, sink) => (result, sink)

/-- What the calls on files do. The file that is written is not the one that
is read. -/
structure Files where
  contents : CString → Option (List UInt8)
  opens : CString → Bool
  fchmods : CString → Bool
  writes : Counts

/-- The result, and what is then in the file `configfile`, if it was opened.
Memory without a zero byte is read past its end. -/
def obcCombineWith (obc : OutputBhyveCore) (fileIn : CString) (files : Files) :
    Option (Int × Option (List UInt8)) :=
  match fmNew (files.contents fileIn) with
  | none => none
  | some memory =>
    if 0 ∉ memory then none
    else if !files.opens obc.configfile then some (-1, none)
    else if !files.fchmods obc.configfile then some (-1, some [])
    else
      let (result, sink) := writeLines (cString memory :: obc.lines) ⟨[], files.writes⟩
      some (result, some sink.written)

end Vmstated.Libconfig
