import Vmstated.Libconfig.OutputSpec

/-! The strings of fixed size in the parameters, and the calls that set them. -/
namespace Vmstated.Libconfig
open Library

inductive FixedString where
  | vmname
  | portname (comport : Fin 4)
  | backend (comport : Fin 4)
  | bootrom
  | varsfile
deriving DecidableEq, Repr

namespace FixedString

def size : FixedString → Nat
  | vmname | portname _ => bpcNameMax
  | backend _ | bootrom | varsfile => pathMax

def array (bpc : BhyveParametersCore) : (field : FixedString) → CharArray field.size
  | vmname => bpc.vmname
  | portname comport => (bpc.comport comport).portname
  | backend comport => (bpc.comport comport).backend
  | bootrom => bpc.bootrom.bootrom
  | varsfile => bpc.bootrom.varsfile

end FixedString

inductive SetterCall where
  | setBootrom (bootrom : Option CString) (withVars : Bool) (varsfile : Option CString)
  | enableComport (portname : CString) (comport : UInt8) (enabled : Bool)
  | setComportBackend (comport : UInt8) (backend : CString)

namespace SetterCall

def perform (bpc : BhyveParametersCore) : SetterCall → Int × BhyveParametersCore
  | setBootrom bootrom withVars varsfile => bpcSetBootrom bpc bootrom withVars varsfile
  | enableComport portname comport enabled => bpcEnableComport bpc portname comport enabled
  | setComportBackend comport backend => bpcSetComportBackend bpc comport backend

def gives : SetterCall → FixedString → Option CString
  | setBootrom (some bootrom) false _, .bootrom => some bootrom
  | setBootrom (some bootrom) true (some _), .bootrom => some bootrom
  | setBootrom (some _) true (some varsfile), .varsfile => some varsfile
  | enableComport portname comport _, .portname i =>
    if comport.toNat = i then some portname else none
  | setComportBackend comport backend, .backend i =>
    if comport.toNat = i then some backend else none
  | _, _ => none

theorem setBootrom_array (bpc : BhyveParametersCore) (bootrom : Option CString) (withVars : Bool)
    (varsfile : Option CString) (field : FixedString) :
    field.array (bpcSetBootrom bpc bootrom withVars varsfile).2 =
      (((setBootrom bootrom withVars varsfile).gives field).map (strncpy field.size)).getD
        (field.array bpc) := by
  rcases bootrom with _ | bootrom <;> rcases withVars with _ | _ <;>
    rcases varsfile with _ | varsfile <;>
    cases field <;> rfl

section
variable {n : Nat} (text : BhyveParametersComport → CharArray n)
  {ports : Fin 4 → BhyveParametersComport} {new : BhyveParametersComport}

theorem text_of_set {given : CString} (hset : text new = strncpy n given) {comport : UInt8}
    (hport : comport.toNat < 4) (i : Fin 4) :
    text (Function.update ports ⟨comport.toNat, hport⟩ new i) =
      ((if comport.toNat = i then some given else none).map (strncpy n)).getD (text (ports i)) := by
  by_cases hi : comport.toNat = i
  · obtain rfl : i = ⟨comport.toNat, hport⟩ := Fin.ext hi.symm
    rw [Function.update_self, hset, if_pos rfl]
    rfl
  · have hne : i ≠ ⟨comport.toNat, hport⟩ := fun h => hi (congrArg Fin.val h).symm
    rw [Function.update_of_ne hne, if_neg hi]
    rfl

theorem text_of_kept {port : Fin 4} (hkept : text new = text (ports port)) (i : Fin 4) :
    text (Function.update ports port new i) = text (ports i) := by
  rcases eq_or_ne i port with rfl | hne
  · rw [Function.update_self, hkept]
  · rw [Function.update_of_ne hne]

end

theorem enableComport_array (bpc : BhyveParametersCore)
    (portname : CString) (comport : UInt8) (enabled : Bool) (field : FixedString) :
    field.array (bpcEnableComport bpc portname comport enabled).2 =
      (((enableComport portname comport enabled).gives field).map (strncpy field.size)).getD
        (field.array bpc) := by
  unfold bpcEnableComport
  split
  · rename_i hport
    cases field with
    | portname i => exact text_of_set BhyveParametersComport.portname rfl hport i
    | backend i =>
      change (Function.update bpc.comport ⟨comport.toNat, hport⟩ _ i).backend =
        (bpc.comport i).backend
      apply text_of_kept BhyveParametersComport.backend
      rfl
    | vmname => rfl
    | bootrom => rfl
    | varsfile => rfl
  · rename_i hport
    cases field with
    | portname i =>
      have hi : comport.toNat ≠ i := fun h => hport (h ▸ i.isLt)
      simp [gives, hi]
    | _ => rfl

theorem setComportBackend_array (bpc : BhyveParametersCore) (comport : UInt8) (backend : CString)
    (field : FixedString) :
    field.array (bpcSetComportBackend bpc comport backend).2 =
      (((setComportBackend comport backend).gives field).map (strncpy field.size)).getD
        (field.array bpc) := by
  unfold bpcSetComportBackend
  split
  · rename_i hport
    cases field with
    | backend i => exact text_of_set BhyveParametersComport.backend rfl hport i
    | portname i =>
      change (Function.update bpc.comport ⟨comport.toNat, hport⟩ _ i).portname =
        (bpc.comport i).portname
      apply text_of_kept BhyveParametersComport.portname
      rfl
    | vmname => rfl
    | bootrom => rfl
    | varsfile => rfl
  · rename_i hport
    cases field with
    | backend i =>
      have hi : comport.toNat ≠ i := fun h => hport (h ▸ i.isLt)
      simp [gives, hi]
    | _ => rfl

theorem perform_array (bpc : BhyveParametersCore) (call : SetterCall) (field : FixedString) :
    field.array (call.perform bpc).2 = ((call.gives field).map (strncpy field.size)).getD
      (field.array bpc) := by
  cases call with
  | setBootrom bootrom withVars varsfile =>
    exact setBootrom_array bpc bootrom withVars varsfile field
  | enableComport portname comport enabled =>
    exact enableComport_array bpc portname comport enabled field
  | setComportBackend comport backend => exact setComportBackend_array bpc comport backend field

theorem perform_pcislots (bpc : BhyveParametersCore) (call : SetterCall) :
    (call.perform bpc).2.pcislots = bpc.pcislots := by
  cases call with
  | setBootrom bootrom withVars varsfile =>
    exact bpcSetBootrom_pcislots bpc bootrom withVars varsfile
  | enableComport portname comport enabled =>
    exact bpcEnableComport_pcislots bpc portname comport enabled
  | setComportBackend comport backend => exact bpcSetComportBackend_pcislots bpc comport backend

end SetterCall

def afterCalls (vmname : CString) (calls : List SetterCall) : BhyveParametersCore :=
  calls.foldl (fun bpc call => (call.perform bpc).2) (bpcNew vmname)

def FixedString.given (vmname : CString) (calls : List SetterCall)
    (field : FixedString) : CString :=
  ((calls.filterMap fun call => call.gives field).getLast?).getD
    (if field = .vmname then vmname else ⟨[], zero_not_mem_nil⟩)

theorem bpcNew_array (vmname : CString) (field : FixedString) :
    field.array (bpcNew vmname) = strncpy field.size (field.given vmname []) := by
  cases field with
  | vmname => rfl
  | _ => exact (strncpy_nil _ zero_not_mem_nil).symm

theorem afterCalls_snoc (vmname : CString) (calls : List SetterCall) (call : SetterCall) :
    afterCalls vmname (calls ++ [call]) = (call.perform (afterCalls vmname calls)).2 := by
  rw [afterCalls, List.foldl_append]
  rfl

theorem afterCalls_array (vmname : CString) (calls : List SetterCall) (field : FixedString) :
    field.array (afterCalls vmname calls) = strncpy field.size (field.given vmname calls) := by
  induction calls using List.reverseRecOn with
  | nil => exact bpcNew_array vmname field
  | append_singleton calls call ih =>
    rw [afterCalls_snoc, SetterCall.perform_array, ih, FixedString.given,
      FixedString.given, List.filterMap_append]
    cases hgives : call.gives field with
    | none => simp [hgives]
    | some text => simp [hgives]

theorem afterCalls_pcislots (vmname : CString) (calls : List SetterCall) :
    (afterCalls vmname calls).pcislots = [] := by
  induction calls using List.reverseRecOn with
  | nil => rfl
  | append_singleton calls call ih => rw [afterCalls_snoc, SetterCall.perform_pcislots, ih]

end Vmstated.Libconfig
