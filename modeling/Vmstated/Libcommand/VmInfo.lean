import Vmstated.Libcommand.BhyveCommand
import Vmstated.Libutils.TransmitCollect

/-! libcommand/vm_info.c: what the director tells about its machines, and how
it is packed. Allocations do not fail. -/
namespace Vmstated.Libcommand
open Library Libutils

def Pointer.ofOption : Option (List UInt8) → Pointer
  | none => .null
  | some text => .string text

def Pointer.toOption : Pointer → Option (List UInt8)
  | .string text => some text
  | _ => none

structure BhyveVmInfo where
  vmname : Option (List UInt8)
  os : Option (List UInt8)
  osversion : Option (List UInt8)
  vmstate : UInt32
  pid : Int32
  lastboot : Int64
  owner : Option (List UInt8)
  group : Option (List UInt8)
  description : Option (List UInt8)
deriving DecidableEq, Repr

def BhyveVmInfo.memory (bvmi : BhyveVmInfo) : CStruct :=
  CStruct.zeroed
    |>.setPointer 0 (Pointer.ofOption bvmi.vmname)
    |>.setPointer 8 (Pointer.ofOption bvmi.os)
    |>.setPointer 16 (Pointer.ofOption bvmi.osversion)
    |>.writeNumber 24 4 bvmi.vmstate.toNat
    |>.writeNumber 28 4 bvmi.pid.toUInt32.toNat
    |>.writeNumber 32 8 bvmi.lastboot.toUInt64.toNat
    |>.setPointer 40 (Pointer.ofOption bvmi.owner)
    |>.setPointer 48 (Pointer.ofOption bvmi.group)
    |>.setPointer 56 (Pointer.ofOption bvmi.description)

def BhyveVmInfo.ofMemory (s : CStruct) : BhyveVmInfo where
  vmname := Pointer.toOption (s.pointers 0)
  os := Pointer.toOption (s.pointers 8)
  osversion := Pointer.toOption (s.pointers 16)
  vmstate := .ofNat (s.readNumber 24 4)
  pid := (UInt32.ofNat (s.readNumber 28 4)).toInt32
  lastboot := (UInt64.ofNat (s.readNumber 32 8)).toInt64
  owner := Pointer.toOption (s.pointers 40)
  group := Pointer.toOption (s.pointers 48)
  description := Pointer.toOption (s.pointers 56)

/-- The item `pid` has the offset of `vmstate`. -/
def vminfoitem2nvlist : List ParserMapping :=
  [⟨0, .dynamicstring, 8, ascii "vmname"⟩,
   ⟨8, .dynamicstring, 8, ascii "os"⟩,
   ⟨16, .dynamicstring, 8, ascii "osversion"⟩,
   ⟨24, .uint32, 4, ascii "vmstate"⟩,
   ⟨24, .uint64, 8, ascii "pid"⟩,
   ⟨32, .uint64, 8, ascii "lastboot"⟩,
   ⟨40, .dynamicstring, 8, ascii "owner"⟩,
   ⟨48, .dynamicstring, 8, ascii "group"⟩,
   ⟨56, .dynamicstring, 8, ascii "description"⟩]

structure BhyveVmManagerInfo where
  vmInfos : List BhyveVmInfo
  vmCount : Nat
  msgcount : Int64
deriving DecidableEq, Repr

def BhyveVmManagerInfo.memory (bvmmi : BhyveVmManagerInfo) : CStruct :=
  CStruct.zeroed
    |>.writeNumber 8 8 bvmmi.vmCount
    |>.writeNumber 16 8 bvmmi.msgcount.toUInt64.toNat

def vminfo2nvlist : List ParserMapping :=
  [⟨8, .uint32, 4, ascii "vm_count"⟩, ⟨16, .uint64, 8, ascii "msgcount"⟩]

def bvmmiNew (vmInfos : List BhyveVmInfo) (vmCount : Nat) (msgcount : Int64) : BhyveVmManagerInfo :=
  ⟨vmInfos.take vmCount, vmCount, msgcount⟩

def bvmiNew (vmname os osversion owner group description : Option (List UInt8)) (vmstate : UInt32)
    (pid : Int32) (lastboot : Int64) : Option BhyveVmInfo :=
  if vmname = none then none
  else some ⟨vmname, os, osversion, vmstate, pid, lastboot, owner, group, description⟩

def bvmiGetStatestring (bvmi : BhyveVmInfo) : List UInt8 :=
  match bvmi.vmstate.toNat with
  | 0 => ascii "INIT"
  | 10 => ascii "STNW"
  | 11 => ascii "RPRE"
  | 20 => ascii "SAST"
  | 21 => ascii "RAST"
  | 100 => ascii "RUNN"
  | 101 => ascii "RRUN"
  | 102 => ascii "STOP"
  | 150 => ascii "SOST"
  | 160 => ascii "PRER"
  | 200 => ascii "SONW"
  | 210 => ascii "REST"
  | 300 => ascii "STPD"
  | 310 => ascii "RSTP"
  | 400 => ascii "FAIL"
  | _ => ascii "UNKW"

variable (nv : Libnv)

def bvmiEncodenvlist (bvmi : BhyveVmInfo) (nvl : nv.Nvlist) : Option (Int × nv.Nvlist) :=
  bcmdEncodenvlist nv vminfoitem2nvlist bvmi.memory nvl

def bvmiDecodenvlist (nvl : nv.Nvlist) (bvmi : CStruct) : Option (Int × CStruct) :=
  bcmdDecodenvlist nv vminfoitem2nvlist bvmi nvl

/-- The loop of `bvmmi_encodenvlist`, which ends with the first failure. -/
def packInfos : List BhyveVmInfo → SocketTransmissionCollector →
    Option (Int × SocketTransmissionCollector)
  | [], stc => some (0, stc)
  | bvmi :: infos, stc => do
    let (encoded, itemnvl) ← bvmiEncodenvlist nv bvmi nv.create
    let (stored, stc) := stcStoreTransmit (nv.pack itemnvl) stc
    if encoded ≠ 0 ∨ stored ≠ 0 then return (-1, stc) else packInfos infos stc

def bvmmiEncodenvlist (bvmmi : BhyveVmManagerInfo) (nvl : nv.Nvlist) :
    Option (Int × nv.Nvlist) := do
  let (encoded, nvl) ← bcmdEncodenvlist nv vminfo2nvlist bvmmi.memory nvl
  if encoded ≠ 0 then return (-1, nvl)
  else
    let (result, stc) ← packInfos nv bvmmi.vmInfos stcNew
    let lenarray := List.replicate bvmmi.vmCount 0
    let outsize := stcGetbuffersize stc
    let (collected, buffer, lenarray) :=
      stcCollect stc (zeros outsize) outsize lenarray (sizeofSizeT * bvmmi.vmCount)
    if collected ≠ 0 then return (-1, nvl)
    else
      let nvl := nv.add nvl (ascii "vm_infos") (.binary buffer)
      return (result, nv.add nvl (ascii "vm_infos.lengths")
        (.numberArray (lenarray.map UInt64.ofNat)))

def bvmmiEncodebinary (bvmmi : BhyveVmManagerInfo) : Option (Int × Option (List UInt8)) := do
  let (result, nvl) ← bvmmiEncodenvlist nv bvmmi nv.create
  if result ≠ 0 then return (result, none) else return (0, some (nv.pack nvl))

/-- The second loop of `bvmmi_decodenvlist`: the infos up to the first slice
that is no list. Nothing where a slice is not inside the buffer. -/
def unpackInfos (buffer : List UInt8) : List UInt64 → Nat → Option (Int × List BhyveVmInfo)
  | [], _ => some (0, [])
  | length :: lengths, offset =>
    if buffer.length < offset + length.toNat then none
    else
      match nv.unpack ((buffer.drop offset).take length.toNat) with
      | none => some (-1, [])
      | some itemnvl => do
        let (decoded, bvi) ← bvmiDecodenvlist nv itemnvl .zeroed
        if decoded ≠ 0 then return (-1, [])
        else
          let (result, infos) ← unpackInfos buffer lengths (sizeT (offset + length.toNat))
          return (result, .ofMemory bvi :: infos)

def bvmmiDecodenvlist (nvl : nv.Nvlist) : Option (Int × BhyveVmManagerInfo) := do
  let (decoded, s) ← bcmdDecodenvlist nv vminfo2nvlist .zeroed nvl
  let vmCount := s.readNumber 8 8
  let msgcount := (UInt64.ofNat (s.readNumber 16 8)).toInt64
  if decoded ≠ 0 then return (-1, ⟨[], vmCount, msgcount⟩)
  else
    match nv.get nvl (ascii "vm_infos.lengths") with
    | some (.numberArray lengths) =>
      if lengths.length ≠ vmCount then none
      else
        match nv.get nvl (ascii "vm_infos") with
        | some (.binary buffer) =>
          if sizeT (lengths.map UInt64.toNat).sum ≠ buffer.length then none
          else
            let (result, infos) ← unpackInfos nv buffer lengths 0
            return (result, ⟨infos, vmCount, msgcount⟩)
        | _ => none
    | _ => return (-1, ⟨[], vmCount, msgcount⟩)

def bvmmiDecodebinary (buffer : List UInt8) : Option (Int × Option BhyveVmManagerInfo) :=
  match nv.unpack buffer with
  | none => some (-1, none)
  | some nvl => (bvmmiDecodenvlist nv nvl).map fun decoded => (decoded.1, some decoded.2)

end Vmstated.Libcommand
