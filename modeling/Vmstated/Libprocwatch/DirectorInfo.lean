import Vmstated.Libcommand.VmInfo
import Vmstated.Libprocwatch.BhyveDirector
import Vmstated.Libsocket.ReplyCollector

/-! bhyve_director.c: what the director tells about its machines. Allocations
and the mutexes do not fail. -/
namespace Vmstated.Libprocwatch
open Library Libcommand Libsocket

def VmState.number : VmState → UInt32
  | .init => 0
  | .startNetwork => 10
  | .prestartAfterRestart => 11
  | .startStorage => 20
  | .startAfterRestart => 21
  | .running => 100
  | .restarted => 101
  | .stopping => 102
  | .stopStorage => 150
  | .prestopBeforeRestart => 160
  | .stopNetwork => 200
  | .restarting => 210
  | .stopped => 300
  | .restartStopped => 310
  | .failed => 400

/-- Of `struct bhyve_configuration`, what a status shows. The name is an array
in the structure, and no pointer to it is `NULL`. -/
structure BhyveConfiguration where
  name : List UInt8
  os : Option (List UInt8)
  osversion : Option (List UInt8)
  owner : Option (List UInt8)
  group : Option (List UInt8)
  description : Option (List UInt8)

structure ConfiguredVm where
  config : BhyveConfiguration
  bwv : BhyveWatchedVm

structure ConfiguredDirector where
  statelist : List ConfiguredVm
  msgcount : UInt64

/-- The last entry of the list of start times, or zero where there is none. -/
def bwvGetLastboot (bwv : BhyveWatchedVm) : Int64 := .ofInt (bwv.startups.getLastD 0)

def bdCountvms (bd : ConfiguredDirector) : Nat := bd.statelist.length

def bdGetmsgcount (bd : ConfiguredDirector) : UInt64 := bd.msgcount

def bdVmInfo (vm : ConfiguredVm) : Option BhyveVmInfo :=
  bvmiNew (some vm.config.name) vm.config.os vm.config.osversion vm.config.owner vm.config.group
    vm.config.description (psvGetstate vm.bwv.state).1.number
      (.ofNat (psvGetpid true vm.bwv.state).1)
    (bwvGetLastboot vm.bwv)

/-- `errno` is what an earlier call left there; nothing for `NULL`. -/
def bdGetinfo (errno : Int) (bd : ConfiguredDirector) : Option BhyveVmManagerInfo :=
  let vmCount := bdCountvms bd
  if vmCount = 0 ∧ errno ≠ 0 then none
  else do
    let infos ← bd.statelist.mapM bdVmInfo
    return bvmmiNew infos infos.length (bdGetmsgcount bd).toInt64

/-- The reply function of a connection is `src_reply`. -/
def bdReplyInfo (nv : Libnv) (errno : Int) (bd : ConfiguredDirector) (src : SocketReplyCollector) :
    Option (Int × SocketReplyCollector) :=
  match bdGetinfo errno bd with
  | none => some (-1, src)
  | some bvmmi => do
    let (encoded, buffer) ← bvmmiEncodebinary nv bvmmi
    if encoded ≠ 0 then return (-1, src) else return srcReply (buffer.getD []) src

def ConfiguredVm.record (vm : ConfiguredVm) : BhyveVmInfo where
  vmname := some vm.config.name
  os := vm.config.os
  osversion := vm.config.osversion
  vmstate := vm.bwv.state.state.number
  pid := .ofNat vm.bwv.state.processid
  lastboot := bwvGetLastboot vm.bwv
  owner := vm.config.owner
  group := vm.config.group
  description := vm.config.description

theorem bdVmInfo_eq (vm : ConfiguredVm) : bdVmInfo vm = some vm.record := rfl

theorem bdGetinfo_eq {errno : Int} {bd : ConfiguredDirector} (h : bd.statelist ≠ [] ∨ errno = 0) :
    bdGetinfo errno bd =
      some ⟨bd.statelist.map ConfiguredVm.record, bd.statelist.length, bd.msgcount.toInt64⟩ := by
  have hinfos : bd.statelist.mapM bdVmInfo = some (bd.statelist.map ConfiguredVm.record) := by
    rw [funext bdVmInfo_eq]
    exact List.mapM_pure
  have hcount : ¬(bdCountvms bd = 0 ∧ errno ≠ 0) := by
    rintro ⟨hzero, herrno⟩
    rcases h with hne | herrno'
    · exact hne (List.length_eq_zero_iff.mp hzero)
    · exact herrno herrno'
  unfold bdGetinfo
  dsimp only
  rw [if_neg hcount, hinfos, Option.bind_eq_bind, Option.bind_some,
    bvmmiNew, List.take_length, List.length_map]
  rfl

end Vmstated.Libprocwatch
