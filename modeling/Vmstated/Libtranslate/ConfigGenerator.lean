import Vmstated.Libconfig.OutputSpec
import Vmstated.Libtranslate.TranslateSpec

/-! vmstated/config_generator.c: the file for bhyve from a configuration, and
what reading it gives. -/
namespace Vmstated.Libtranslate
open Library Libconfig

/-- The result, and what is then in the file, if it was opened. -/
def vmstatedGenerateConfigFile (bc : BhyveConfiguration) (filename : CString) (files : Files) :
    Option (Int × Option (List UInt8)) :=
  match ptcTranslate bc with
  | some (0, bpc) =>
    match obcNew filename bpc with
    | some obc => obcCombineWith obc bc.configfile files
    | none => some (-1, none)
  | some _ => some (-1, none)
  | none => none

/-! What the file says of a parameter, after the name of the machine. -/

abbrev reading (file : List UInt8) : List (List UInt8 × List UInt8) := assignments 10 61 file

inductive Parameter where
  | name
  | memory
  | cpus
  | sockets
  | cores
  | vmexitOnHlt
  | acpiTables
  | bootrom
  | com (i : Fin 4)
  | hostbridge
deriving DecidableEq

def Parameter.key : Parameter → List UInt8
  | .name => ascii "name"
  | .memory => ascii "memory.size"
  | .cpus => ascii "cpus"
  | .sockets => ascii "sockets"
  | .cores => ascii "cores"
  | .vmexitOnHlt => ascii "x86.vmexit_on_hlt"
  | .acpiTables => ascii "acpi_tables"
  | .bootrom => ascii "lpc.bootrom"
  | .com i => comdef i
  | .hostbridge => ascii "pci.0.0.0.device"

def numvar (value : UInt16) : Option (List UInt8) :=
  if value = 0 then none else some (decimal value.toNat)

def Parameter.value (bc : BhyveConfiguration) : Parameter → Option (List UInt8)
  | .name => some bc.name.val
  | .memory => if bc.memory = 0 then none else some (decimal bc.memory.toNat ++ ascii "M")
  | .cpus => numvar bc.numcpus
  | .sockets => numvar bc.sockets
  | .cores => numvar bc.cores
  | .vmexitOnHlt => some (boolText bc.vmexitOnHalt)
  | .acpiTables => some (boolText bc.generateAcpiTables)
  | .bootrom => bc.bootrom.map Subtype.val
  | .com i =>
    ((bc.consoles[i.val]?.bind BhyveConfigurationConsole.backend).map Subtype.val).filter (· ≠ [])
  | .hostbridge => bc.hostbridge.map fun hostbridge =>
      hostbridgeText (hostbridgeOf hostbridge).hostbridgeType

def Parameter.all : List Parameter :=
  [.name, .memory, .cpus, .sockets, .cores, .vmexitOnHlt,
    .acpiTables, .bootrom, .com 0, .com 1, .com 2, .com 3, .hostbridge]

theorem Parameter.mem_all (p : Parameter) : p ∈ all := by
  cases p with
  | com i => revert i; decide
  | _ => decide

theorem Parameter.key_inj {p q : Parameter} : p.key = q.key ↔ p = q := by
  have hinj : ∀ p ∈ all, ∀ q ∈ all, p.key = q.key → p = q := by decide
  exact ⟨hinj p p.mem_all q q.mem_all, congrArg key⟩

theorem Parameter.key_plain (p : Parameter) : 10 ∉ p.key ∧ 61 ∉ p.key := by
  have hplain : ∀ p ∈ all, 10 ∉ p.key ∧ 61 ∉ p.key := by decide
  exact hplain p p.mem_all

theorem Parameter.key_ne_isabridge (p : Parameter) : pciDevice isabridge ≠ p.key := by
  have hne : ∀ p ∈ all, pciDevice isabridge ≠ p.key := by decide
  exact hne p p.mem_all

section
variable {bc : BhyveConfiguration} {filename : CString} {files : Files} {base file : List UInt8}

theorem slotsOf_supported : ∀ bpp ∈ slotsOf bc, Supported bpp := by
  intro bpp hbpp
  rw [slotsOf, List.mem_append] at hbpp
  rcases hbpp with hisa | hhost
  · split at hisa
    · exact absurd hisa List.not_mem_nil
    · rw [List.mem_singleton.mp hisa]
      exact Or.inl rfl
  · rw [Option.mem_toList, Option.map_eq_some_iff] at hhost
    obtain ⟨hostbridge, -, rfl⟩ := hhost
    exact Or.inr rfl

theorem vmstatedGenerateConfigFile_of_named (hnamed : Named bc) :
    vmstatedGenerateConfigFile bc filename files =
    obcCombineWith ((⟨filename, coreOf bc, []⟩ : OutputBhyveCore).adds (allEntries (coreOf bc)))
      bc.configfile files := by
  have hnew := @obcNew_of_supported filename (coreOf bc) slotsOf_supported
  simp only [vmstatedGenerateConfigFile, ptcTranslate_of_named hnamed, hnew]

theorem generated_written (hbase : files.contents bc.configfile = some base) (hfree : 0 ∉ base)
    (hflow : Flowing files.writes)
    (hdone : vmstatedGenerateConfigFile bc filename files = some (0, some file)) :
    file = (base :: ((allEntries (coreOf bc)).map fun entry =>
      configline entry.1 entry.2).reverse).flatMap fun line => line ++ [10] := by
  have hnamed : Named bc := by
    by_contra hnamed
    rw [vmstatedGenerateConfigFile, ptcTranslate_of_not_named hnamed] at hdone
    exact absurd hdone (by simp)
  rw [vmstatedGenerateConfigFile_of_named hnamed] at hdone
  rw [obcCombineWith_written hbase hfree hflow hdone, OutputBhyveCore.adds, List.append_nil]

end

end Vmstated.Libtranslate
