import Vmstated.Library.CharArray

/-! libconfig/config_core.c: the parameters of a machine. Allocations do not
fail, and the structures behind the pointers exist. -/
namespace Vmstated.Libconfig
open Library

def bpcNameMax : Nat := 255

def pathMax : Nat := 1024

inductive HostbridgeType where
  | hostbridge
  | hostbridgeAmd
deriving DecidableEq, Repr

inductive PcislotType where
  | hostbridge
  | block
  | net
  | control
  | cdrom
  | vnc
  | isabridge
  | invalid
deriving DecidableEq, Repr

/-- `struct bhyve_parameters_pcislot`. Of its union only the hostbridge is read. -/
structure BhyveParametersPcislot where
  slotType : PcislotType
  bus : UInt8
  pcislot : UInt8
  function : UInt8
  hostbridgeType : HostbridgeType
deriving DecidableEq, Repr

structure BhyveParametersComport where
  portname : CharArray bpcNameMax
  enabled : Bool
  backend : CharArray pathMax
deriving DecidableEq

structure BhyveParametersBootrom where
  bootrom : CharArray pathMax
  withVars : Bool
  varsfile : CharArray pathMax
deriving DecidableEq

structure BhyveParametersCore where
  generateAcpiTables : Bool
  memory : UInt32
  numcpus : UInt16
  sockets : UInt16
  cores : UInt16
  yieldOnHlt : Bool
  wireMemory : Bool
  vmname : CharArray bpcNameMax
  comport : Fin 4 → BhyveParametersComport
  bootrom : BhyveParametersBootrom
  pcislots : List BhyveParametersPcislot

/-! Making and changing them. -/

def bpcNew (vmname : CString) : BhyveParametersCore where
  generateAcpiTables := false
  memory := 0
  numcpus := 0
  sockets := 0
  cores := 0
  yieldOnHlt := false
  wireMemory := false
  vmname := strncpy bpcNameMax vmname
  comport _ := ⟨.zeroed bpcNameMax, false, .zeroed pathMax⟩
  bootrom := ⟨.zeroed pathMax, false, .zeroed pathMax⟩
  pcislots := []

/-- `bpp_new_pcislot`: the rest is zero, and gets its place later. -/
def bppNewPcislot (slotType : PcislotType) : BhyveParametersPcislot :=
  ⟨slotType, 0, 0, 0, .hostbridge⟩

def bppNewIsabridge : BhyveParametersPcislot := bppNewPcislot .isabridge

def bppNewHostbridge (hostbridgeType : HostbridgeType) : BhyveParametersPcislot :=
  { bppNewPcislot .hostbridge with hostbridgeType }

def bppNewXhci (_tablet : Bool) : BhyveParametersPcislot := bppNewPcislot .control

def bppNewBlock : BhyveParametersPcislot := bppNewPcislot .block

section
variable (bpc : BhyveParametersCore)

def bpcSetBootrom (bootrom : Option CString) (withVars : Bool) (varsfile : Option CString) :
    Int × BhyveParametersCore :=
  match bootrom, withVars, varsfile with
  | some bootrom, false, _ =>
    (0, { bpc with bootrom := { bpc.bootrom with bootrom := strncpy pathMax bootrom, withVars := false } })
  | some bootrom, true, some varsfile =>
    (0, { bpc with bootrom := ⟨strncpy pathMax bootrom, true, strncpy pathMax varsfile⟩ })
  | _, _, _ => (-1, bpc)

def bpcEnableComport (portname : CString) (comport : UInt8) (enabled : Bool) :
    Int × BhyveParametersCore :=
  if h : comport.toNat < 4 then
    let port :=
      { bpc.comport ⟨comport.toNat, h⟩ with enabled, portname := strncpy bpcNameMax portname }
    (0, { bpc with comport := Function.update bpc.comport ⟨comport.toNat, h⟩ port })
  else (-1, bpc)

def bpcSetComportBackend (comport : UInt8) (backend : CString) : Int × BhyveParametersCore :=
  if h : comport.toNat < 4 then
    let port := { bpc.comport ⟨comport.toNat, h⟩ with backend := strncpy pathMax backend }
    (0, { bpc with comport := Function.update bpc.comport ⟨comport.toNat, h⟩ port })
  else (-1, bpc)

def bpcSetCpulayout (numcpus sockets cores : UInt16) : BhyveParametersCore :=
  { bpc with numcpus, sockets, cores }

def bpcSetNumcpus (numcpus : UInt16) : BhyveParametersCore := { bpc with numcpus }

def bpcSetSockets (sockets : UInt16) : BhyveParametersCore := { bpc with sockets }

def bpcSetCores (cores : UInt16) : BhyveParametersCore := { bpc with cores }

def bpcSetMemory (memory : UInt32) : BhyveParametersCore := { bpc with memory }

def bpcSetYieldonhlt (yieldOnHlt : Bool) : BhyveParametersCore := { bpc with yieldOnHlt }

def bpcSetGenerateacpi (generateAcpiTables : Bool) : BhyveParametersCore :=
  { bpc with generateAcpiTables }

def bpcSetWired (wireMemory : Bool) : BhyveParametersCore := { bpc with wireMemory }

def bpcAddpcislotAt (bus pcislot function : UInt8) (bpp : BhyveParametersPcislot) :
    BhyveParametersCore :=
  { bpc with pcislots := { bpp with bus, pcislot, function } :: bpc.pcislots }

@[simp] theorem bpcSetBootrom_pcislots (bootrom : Option CString)
    (withVars : Bool) (varsfile : Option CString) :
    (bpcSetBootrom bpc bootrom withVars varsfile).2.pcislots = bpc.pcislots := by
  unfold bpcSetBootrom
  split <;> rfl

@[simp] theorem bpcEnableComport_pcislots (portname : CString) (comport : UInt8) (enabled : Bool) :
    (bpcEnableComport bpc portname comport enabled).2.pcislots = bpc.pcislots := by
  unfold bpcEnableComport
  split <;> rfl

@[simp] theorem bpcSetComportBackend_pcislots (comport : UInt8) (backend : CString) :
    (bpcSetComportBackend bpc comport backend).2.pcislots = bpc.pcislots := by
  unfold bpcSetComportBackend
  split <;> rfl

end

/-! Reading the strings. The arrays lie one behind the other, and a string that
fills its array goes on in the next one. -/

def BhyveParametersComport.chars (port : BhyveParametersComport) : List UInt8 :=
  port.portname.bytes ++ port.enabled.toUInt8 :: port.backend.bytes

def BhyveParametersBootrom.charsFromVars (bootrom : BhyveParametersBootrom) : List UInt8 :=
  bootrom.varsfile.bytes ++ zeros 6

def BhyveParametersBootrom.charsBehindBootrom (bootrom : BhyveParametersBootrom) : List UInt8 :=
  bootrom.withVars.toUInt8 :: bootrom.charsFromVars

def BhyveParametersCore.charsFrom (bpc : BhyveParametersCore) (comport : Nat) : List UInt8 :=
  ((List.finRange 4).drop comport).flatMap (fun i => (bpc.comport i).chars) ++
    (bpc.bootrom.bootrom.bytes ++ bpc.bootrom.charsBehindBootrom)

def BhyveParametersCore.vmnameText (bpc : BhyveParametersCore) : List UInt8 :=
  cString (bpc.vmname.bytes ++ bpc.charsFrom 0)

def BhyveParametersCore.backendText (bpc : BhyveParametersCore) (comport : Fin 4) : List UInt8 :=
  cString ((bpc.comport comport).backend.bytes ++ bpc.charsFrom (comport + 1))

def BhyveParametersBootrom.bootromText (bootrom : BhyveParametersBootrom) : List UInt8 :=
  cString (bootrom.bootrom.bytes ++ bootrom.charsBehindBootrom)

def BhyveParametersBootrom.varsfileText (bootrom : BhyveParametersBootrom) : List UInt8 :=
  cString bootrom.charsFromVars

end Vmstated.Libconfig
