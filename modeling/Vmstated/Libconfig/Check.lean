import Mathlib.Data.Int.DivMod
import Vmstated.Libconfig.ConfigCore
import Vmstated.Library.Decimal

/-! libconfig/check.c, check_core.c and check_isabridge.c: the rules for the
parameters of a machine. -/
namespace Vmstated.Libconfig
open Library

section
variable (bpc : BhyveParametersCore)

def checkBpcName : Int := if bpc.vmname.bytes.headD 0 = 0 then -1 else 0

/-- A `size_t` that is returned as an `int`. -/
def checkBpcCounthostbridge : Int :=
  Int.bmod (bpc.pcislots.countP fun bpp => bpp.slotType = .hostbridge) (2 ^ 32)

/-- Only the first hostbridge is looked at. -/
def checkBpcHostbridgeslot : Int :=
  match bpc.pcislots.find? fun bpp => bpp.slotType = .hostbridge with
  | none => 0
  | some bpp => if bpp.bus ≠ 0 ∨ bpp.pcislot ≠ 0 ∨ bpp.function ≠ 0 then -1 else 0

def checkBpcSinglehostbridge : Int := if checkBpcCounthostbridge bpc > 1 then -1 else 0

def checkBpcHostbridge : Int := if checkBpcCounthostbridge bpc = 0 then -1 else 0

def BhyveParametersPcislot.ident (bpp : BhyveParametersPcislot) : List UInt8 :=
  decimal bpp.bus.toNat ++ 58 :: (decimal bpp.pcislot.toNat ++ 58 :: decimal bpp.function.toNat)

def pciidconflict : List BhyveParametersPcislot → List (List UInt8) → Int
  | [], _ => 0
  | bpp :: pcislots, sl => if bpp.ident ∈ sl then -1 else pciidconflict pcislots (bpp.ident :: sl)

def checkBpcPciidconflict : Int := pciidconflict bpc.pcislots []

def checkBpcCountisabridge : Nat := bpc.pcislots.countP fun bpp => bpp.slotType = .isabridge

def checkBpcSingleisabridge : Int := if checkBpcCountisabridge bpc > 1 then -1 else 0

def checkBpcComwithisa : Int :=
  if (List.finRange 4).any fun comport => (bpc.comport comport).enabled then
    if checkBpcCountisabridge bpc = 0 then -1 else 0
  else 0

def checkBpcBootrom : Int := if bpc.bootrom.bootrom.bytes.headD 0 = 0 then -1 else 0

def checkBpcBootromwithisa : Int :=
  if checkBpcBootrom bpc ≠ 0 then 0
  else if checkBpcCountisabridge bpc = 0 then -1
  else 0

def checkBpcIsabridgebus : Int :=
  if bpc.pcislots.any fun bpp => bpp.slotType = .isabridge && bpp.bus != 0 then -1 else 0

end

def checkBpcNonnull (bpc : Option BhyveParametersCore) : Int := if bpc.isNone then 1 else 0

structure BhyveParametersCheck where
  ruleName : String
  check : Option BhyveParametersCore → Option Int
  errorMessage : String

/-- No rule behind the first one is asked about `NULL`. -/
def bpchecks : List BhyveParametersCheck :=
  [⟨"valid parameter memory", fun bpc => some (checkBpcNonnull bpc),
    "NULL pointer as parameter is invalid"⟩,
    ⟨"non-empty vm name", Option.map checkBpcName, "No name set for virtual machine"⟩,
    ⟨"hostbridge existence", Option.map checkBpcHostbridge, "No hostbridge assigned"⟩,
    ⟨"single hostbridge", Option.map checkBpcSinglehostbridge, "Only one hostbridge supported"⟩,
    ⟨"hostbridge placement", Option.map checkBpcHostbridgeslot, "Hostbridge must be at 0:0:0"⟩,
    ⟨"single isabridge", Option.map checkBpcSingleisabridge, "Only one isa bridge supported"⟩,
    ⟨"com port with isa bridge", Option.map checkBpcComwithisa,
      "Having a COM port requires an LPC ISA bridge"⟩,
    ⟨"bootrom requires isa bridge", Option.map checkBpcBootromwithisa,
      "Having a boot rom set requires an LPC ISA bridge"⟩,
    ⟨"bootrom specified", Option.map checkBpcBootrom, "No bootrom specified"⟩,
    ⟨"isabridge bus zero", Option.map checkBpcIsabridgebus, "LPC ISA bridge not on bus 0"⟩,
    ⟨"pci id conflict", Option.map checkBpcPciidconflict, "PCI ID conflict"⟩]

def firstBroken (bpc : Option BhyveParametersCore) :
    List BhyveParametersCheck → Option (Option BhyveParametersCheck)
  | [] => some none
  | rule :: rules =>
    match rule.check bpc with
    | none => none
    | some result => if result ≠ 0 then some (some rule) else firstBroken bpc rules

def checkParametersOk (bpc : Option BhyveParametersCore) : Option (Option BhyveParametersCheck) :=
  firstBroken bpc bpchecks

/-! What is accepted. -/

theorem firstBroken_eq_ok {bpc : Option BhyveParametersCore} {rules : List BhyveParametersCheck} :
    firstBroken bpc rules = some none ↔ ∀ rule ∈ rules, rule.check bpc = some 0 := by
  induction rules with
  | nil => exact iff_of_true rfl fun _ hrule => absurd hrule List.not_mem_nil
  | cons rule rules ih =>
    rw [firstBroken, List.forall_mem_cons, ← ih]
    cases hresult : rule.check bpc with
    | none => simp
    | some result =>
      by_cases hzero : result = 0
      · simp [hzero]
      · simp [hzero]

theorem checkParametersOk_eq_ok {bpc : BhyveParametersCore} :
    checkParametersOk (some bpc) = some none ↔
    checkBpcName bpc = 0 ∧ checkBpcHostbridge bpc = 0 ∧ checkBpcSinglehostbridge bpc = 0 ∧
      checkBpcHostbridgeslot bpc = 0 ∧ checkBpcSingleisabridge bpc = 0 ∧
        checkBpcComwithisa bpc = 0 ∧
      checkBpcBootromwithisa bpc = 0 ∧ checkBpcBootrom bpc = 0 ∧ checkBpcIsabridgebus bpc = 0 ∧
      checkBpcPciidconflict bpc = 0 := by
  unfold checkParametersOk bpchecks
  simp only [firstBroken_eq_ok, List.forall_mem_cons, Option.map_some, Option.some_inj]
  simp [checkBpcNonnull]

/-! The texts of different slots are different. -/

def BhyveParametersPcislot.pciid (bpp : BhyveParametersPcislot) : UInt8 × UInt8 × UInt8 :=
  (bpp.bus, bpp.pcislot, bpp.function)

theorem BhyveParametersPcislot.ident_inj {bpp other : BhyveParametersPcislot} :
    bpp.ident = other.ident ↔ bpp.pciid = other.pciid := by
  constructor
  · intro h
    obtain ⟨hbus, hrest⟩ := decimal_append_inj (by decide) h
    obtain ⟨hslot, hfunction⟩ := decimal_append_inj (by decide) hrest
    have hfunction := decimal_injective hfunction
    rw [UInt8.toNat_inj] at hbus hslot hfunction
    rw [pciid, pciid, hbus, hslot, hfunction]
  · intro h
    rw [pciid, pciid, Prod.mk.injEq, Prod.mk.injEq] at h
    rw [ident, ident, h.1, h.2.1, h.2.2]

theorem pciidconflict_eq_zero {pcislots : List BhyveParametersPcislot} {sl : List (List UInt8)} :
    pciidconflict pcislots sl = 0 ↔
      (∀ bpp ∈ pcislots, bpp.ident ∉ sl) ∧ (pcislots.map BhyveParametersPcislot.ident).Nodup := by
  induction pcislots generalizing sl with
  | nil => simp [pciidconflict]
  | cons bpp pcislots ih =>
    rw [pciidconflict, List.forall_mem_cons, List.map_cons, List.nodup_cons]
    by_cases hhas : bpp.ident ∈ sl
    · simp [hhas]
    · rw [if_neg hhas, ih]
      simp only [List.mem_cons, not_or, List.mem_map, not_exists,
        not_and, hhas, not_false_iff, true_and]
      constructor
      · rintro ⟨hfresh, hnodup⟩
        exact ⟨fun other hother => (hfresh other hother).2,
          fun other hother heq => (hfresh other hother).1 heq, hnodup⟩
      · rintro ⟨hfresh, hother, hnodup⟩
        exact ⟨fun other hmem => ⟨fun heq => hother other hmem heq, hfresh other hmem⟩, hnodup⟩

theorem checkBpcPciidconflict_eq_zero {bpc : BhyveParametersCore} :
    checkBpcPciidconflict bpc = 0 ↔ (bpc.pcislots.map BhyveParametersPcislot.pciid).Nodup := by
  rw [checkBpcPciidconflict, pciidconflict_eq_zero,
    and_iff_right fun _ _ => List.not_mem_nil, List.Nodup,
    List.Nodup, List.pairwise_map, List.pairwise_map]
  simp only [ne_eq, BhyveParametersPcislot.ident_inj]

end Vmstated.Libconfig
