import Vmstated.Libtranslate.GeneratedLines

/-! What reading a generated file gives: the parameters of the configuration,
and for the others what the file of the user says. -/
namespace Vmstated.Properties
open Library Libconfig Libtranslate

/-- Every parameter that is not set is what the file of the user says. -/
def KeepsBase (bc : BhyveConfiguration) (base file : List UInt8) : Prop :=
  ∀ p : Parameter, p.value bc = none →
    lastValue p.key (reading file) = lastValue p.key (reading base)

/-- No stray assignment changes one. -/
def StraysAgree (bc : BhyveConfiguration) (base : List UInt8) : Prop :=
  ∀ p : Parameter, p.value bc = none → ∀ value ∈ lastValue p.key (strays bc),
    lastValue p.key (reading base) = some value

/-- The strays assign the value, or they leave the key alone and `own` holds. -/
def Settled (value : List UInt8) (own : Prop) (stray : Option (List UInt8)) : Prop :=
  stray.elim own (· = value)

theorem settled_or_iff {value own : List UInt8} {stray : Option (List UInt8)} :
    Settled value (own = value) stray ↔ stray.or (some own) = some value := by
  unfold Settled
  cases stray with
  | none => simp
  | some other => simp

def straysBehind (bc : BhyveConfiguration) : Parameter → List (List UInt8 × List UInt8)
  | .cores | .hostbridge => strays bc
  | .bootrom => bootromStrays bc ++ nameStrays bc
  | _ => nameStrays bc

/-- What the line of a parameter needs to say its value. The cores have none. -/
def LineOk (bc : BhyveConfiguration) (base : List UInt8) : Parameter → Prop
  | .name => firstLine 10 (nameText bc) = bc.name.val
  | .memory => bc.memory.toNat < 2 ^ 31
  | .cores => lastValue (ascii "cores") (reading base) = numvar bc.cores
  | .bootrom => ∀ bootrom ∈ bc.bootrom, bootrom.val.length ≤ pathMax ∧ 10 ∉ bootrom.val
  | _ => True

def Overrides (bc : BhyveConfiguration) (file : List UInt8) : Prop :=
  ∀ (p : Parameter) (value : List UInt8), (∀ i, p ≠ .com i) → p.value bc = some value →
    lastValue p.key (reading file) = some value

def LinesOk (bc : BhyveConfiguration) (base : List UInt8) : Prop :=
  ∀ (p : Parameter) (value : List UInt8), (∀ i, p ≠ .com i) → p.value bc = some value →
    Settled value (LineOk bc base p) (lastValue p.key (straysBehind bc p))

section
variable {bc : BhyveConfiguration} {base value : List UInt8} {p : Parameter}

theorem line_iff {own : List UInt8} {stray rest : Option (List UInt8)}
    {ok : Prop} (hok : own = value ↔ ok) :
    stray.or ((some own).or rest) = some value ↔ Settled value ok stray := by
  rw [Option.some_or, ← settled_or_iff]
  unfold Settled
  rw [hok]

theorem firstLine_bootrom (bootrom : List UInt8) :
    firstLine 10 (bootrom.take pathMax) = bootrom ↔ bootrom.length ≤ pathMax ∧ 10 ∉ bootrom := by
  constructor
  · intro hline
    have hlength : bootrom.length ≤ pathMax := by
      have hshort := (List.takeWhile_prefix (p := (· ≠ 10)) (l := bootrom.take pathMax)).length_le
      rw [firstLine] at hline
      rw [hline] at hshort
      exact Nat.le_trans hshort (List.length_take_le _ _)
    rw [List.take_of_length_le hlength] at hline
    exact ⟨hlength, firstLine_eq_self_iff.mp hline⟩
  · rintro ⟨hlength, hplain⟩
    rw [List.take_of_length_le hlength, firstLine_of_not_mem hplain]

def lineValue (bc : BhyveConfiguration) : Parameter → Option (List UInt8)
  | .memory => if bc.memory = 0 then none else some (memoryText bc.memory)
  | .cpus => numvar bc.numcpus
  | .sockets => numvar bc.sockets
  | .vmexitOnHlt => some (boolText bc.vmexitOnHalt)
  | .acpiTables => some (boolText bc.generateAcpiTables)
  | _ => none

theorem firstSet_of_line {own : List UInt8} (hown : lineValue bc p = some own) :
    ∃ rest, firstSet 10 61 p.key (allEntries (coreOf bc)) =
      (lastValue p.key (nameStrays bc)).or ((some own).or rest) := by
  have hname : ascii "name" ≠ p.key := by
    intro hkey
    obtain rfl := (@Parameter.key_inj .name p).mp hkey
    exact absurd hown (by simp [lineValue])
  rw [firstSet_allEntries, entryValue_of_ne hname]
  cases p with
  | memory =>
    have hmemory : bc.memory ≠ 0 := by
      intro hzero
      simp [lineValue, hzero] at hown
    rw [lineValue, if_neg hmemory] at hown
    rw [if_pos ⟨rfl, hmemory⟩, hown]
    exact ⟨_, rfl⟩
  | cpus | sockets | vmexitOnHlt | acpiTables =>
    rw [lineValue] at hown
    simp only [reduceCtorEq, false_and, if_false, if_true, Option.none_or, hown]
    exact ⟨_, rfl⟩
  | _ => exact absurd hown (by simp [lineValue])

theorem overrides_of_line {own : List UInt8} (hown : lineValue bc p = some own) {ok : Prop}
    (hok : own = value ↔ ok) :
    (firstSet 10 61 p.key (allEntries (coreOf bc))).or (lastValue p.key (reading base)) =
      some value ↔ Settled value ok (lastValue p.key (nameStrays bc)) := by
  obtain ⟨rest, hline⟩ := firstSet_of_line hown
  rw [hline, Option.or_assoc, Option.or_assoc]
  exact line_iff hok

theorem overrides_of_parameter (hcom : ∀ i, p ≠ .com i) (hvalue : p.value bc = some value) :
    (firstSet 10 61 p.key (allEntries (coreOf bc))).or (lastValue p.key (reading base)) =
      some value ↔ Settled value (LineOk bc base p) (lastValue p.key (straysBehind bc p)) := by
  cases p with
  | com i => exact absurd rfl (hcom i)
  | cores =>
    have hnumvar : numvar bc.cores = some value := hvalue
    rw [firstSet_silent (Or.inl rfl), if_neg (by decide), Option.or_none,
      straysBehind, LineOk, hnumvar]
    unfold Settled
    cases lastValue Parameter.cores.key (strays bc) with
    | none => exact Iff.rfl
    | some other => exact Option.some_inj
  | hostbridge =>
    rw [firstSet_silent (Or.inr (Or.inl rfl)), if_pos rfl, hvalue, Option.or_assoc]
    exact line_iff (iff_of_true rfl trivial)
  | name =>
    have hentry : entryValue 10 61 Parameter.name.key (ascii "name", nameText bc) =
      (lastValue Parameter.name.key (nameStrays bc)).or (some (firstLine 10 (nameText bc))) := rfl
    rw [firstSet_allEntries, hentry, Option.or_assoc, Option.or_assoc]
    apply line_iff
    rw [← Option.some_inj.mp hvalue]
    exact Iff.rfl
  | memory =>
    have hmemory : bc.memory ≠ 0 := by
      intro hzero
      simp [Parameter.value, hzero] at hvalue
    rw [Parameter.value, if_neg hmemory, Option.some_inj] at hvalue
    have hown : lineValue bc .memory = some (memoryText bc.memory) := if_neg hmemory
    apply overrides_of_line hown
    rw [← hvalue]
    exact memoryText_eq_iff bc.memory
  | cpus =>
    have hown : lineValue bc .cpus = some value := hvalue
    exact overrides_of_line hown (iff_of_true rfl trivial)
  | sockets =>
    have hown : lineValue bc .sockets = some value := hvalue
    exact overrides_of_line hown (iff_of_true rfl trivial)
  | vmexitOnHlt =>
    have hown : lineValue bc .vmexitOnHlt = some value := hvalue
    exact overrides_of_line hown (iff_of_true rfl trivial)
  | acpiTables =>
    have hown : lineValue bc .acpiTables = some value := hvalue
    exact overrides_of_line hown (iff_of_true rfl trivial)
  | bootrom =>
    obtain ⟨bootrom, hbootrom, hvalue⟩ := Option.map_eq_some_iff.mp hvalue
    have hentry : entryValue 10 61 Parameter.bootrom.key
        (ascii "lpc.bootrom", bootromLine (coreOf bc)) =
        (lastValue Parameter.bootrom.key (bootromStrays bc)).or
          (some (firstLine 10 (bootrom.val.take pathMax))) := by
      rw [bootromLine_coreOf, bootromOut, bootromStrays, hbootrom]
      rfl
    have hline : firstSet 10 61 Parameter.bootrom.key (allEntries (coreOf bc)) =
        (lastValue Parameter.bootrom.key (bootromStrays bc ++ nameStrays bc)).or
          ((some (firstLine 10 (bootrom.val.take pathMax))).or none) := by
      rw [firstSet_allEntries, entryValue_of_ne (by decide), hentry, lastValue_append]
      simp only [reduceCtorEq, false_and, if_false, Option.none_or, Option.or_assoc]
      rfl
    rw [hline, Option.or_assoc, Option.or_assoc]
    apply line_iff
    rw [LineOk, hbootrom, ← hvalue]
    simpa using firstLine_bootrom bootrom.val

end

/-! Where every text is one line that fits its array. -/

structure PlainTexts (bc : BhyveConfiguration) : Prop where
  name : bc.name.val.length < bpcNameMax ∧ 10 ∉ bc.name.val
  bootrom : ∀ bootrom ∈ bc.bootrom, bootrom.val.length ≤ pathMax ∧ 10 ∉ bootrom.val
  backend : ∀ bcc ∈ bc.consoles, ∀ backend ∈ bcc.backend,
    backend.val.length < pathMax ∧ 10 ∉ backend.val

section
variable {bc : BhyveConfiguration} (hplain : PlainTexts bc)
include hplain

theorem nameText_of_plain : nameText bc = bc.name.val := cString_strncpy_of_lt hplain.name.1 _

theorem nameStrays_of_plain : nameStrays bc = [] := by
  rw [nameStrays, nameText_of_plain hplain, laterLines_of_not_mem hplain.name.2]
  rfl

theorem bootromStrays_of_plain (hbootrom : bc.bootrom ≠ none) : bootromStrays bc = [] := by
  obtain ⟨bootrom, hset⟩ := Option.ne_none_iff_exists'.mp hbootrom
  obtain ⟨hlength, hline⟩ := hplain.bootrom bootrom hset
  rw [bootromStrays, hset]
  dsimp only
  rw [List.take_of_length_le hlength, laterLines_of_not_mem hline]
  rfl

theorem portStrays_of_plain (i : Fin 4) : ∀ stray ∈ portStrays bc i, stray = (comdef i, []) := by
  intro stray hstray
  rw [portStrays] at hstray
  split at hstray
  · exact absurd hstray List.not_mem_nil
  · rename_i bcc hbcc
    cases hbackend : bcc.backend with
    | none =>
      rw [hbackend] at hstray
      exact List.mem_singleton.mp hstray
    | some backend =>
      obtain ⟨hlength, hline⟩ := hplain.backend bcc (List.mem_of_getElem? hbcc) backend hbackend
      rw [hbackend, backendStrays, backendText, cString_strncpy_of_lt hlength,
        laterLines_of_not_mem hline] at hstray
      split at hstray
      · exact List.mem_singleton.mp hstray
      · exact absurd hstray List.not_mem_nil

theorem strays_of_plain : ∀ stray ∈ strays bc, (∃ i, stray = (comdef i, [])) ∨
    bc.bootrom = none ∧ stray = (ascii "lpc.bootrom", []) ∨
      bc.cores ≠ 0 ∧ stray = (ascii "sockets", decimal bc.cores.toNat) := by
  intro stray hstray
  rw [strays, nameStrays_of_plain hplain, List.append_nil, List.mem_append, List.mem_append]
    at hstray
  rcases hstray with (hport | hbootrom) | hcores
  · obtain ⟨i, -, hport⟩ := List.mem_flatMap.mp hport
    exact Or.inl ⟨i, portStrays_of_plain hplain i stray hport⟩
  · by_cases hnone : bc.bootrom = none
    · rw [bootromStrays, hnone] at hbootrom
      exact Or.inr (Or.inl ⟨hnone, List.mem_singleton.mp hbootrom⟩)
    · rw [bootromStrays_of_plain hplain hnone] at hbootrom
      exact absurd hbootrom List.not_mem_nil
  · rw [coresStrays] at hcores
    split at hcores
    · exact absurd hcores List.not_mem_nil
    · exact Or.inr (Or.inr ⟨‹_›, List.mem_singleton.mp hcores⟩)

theorem linesOk_of_plain {base : List UInt8} (hmemory : bc.memory.toNat < 2 ^ 31)
    (hcores : bc.cores = 0 ∨ lastValue (ascii "cores") (reading base) =
      some (decimal bc.cores.toNat)) :
    LinesOk bc base := by
  intro p value hcom hvalue
  have hbehind : lastValue p.key (straysBehind bc p) = none := by
    cases p with
    | com i => exact absurd rfl (hcom i)
    | cores | hostbridge =>
      apply lastValue_eq_none
      intro stray hstray
      rcases strays_of_plain hplain stray hstray with ⟨i, rfl⟩ | ⟨-, rfl⟩ | ⟨-, rfl⟩
      · exact fun hkey => Parameter.noConfusion ((@Parameter.key_inj (.com i) _).mp hkey)
      · decide
      · exact fun hkey => Parameter.noConfusion ((@Parameter.key_inj .sockets _).mp hkey)
    | bootrom =>
      have hbootrom : bc.bootrom ≠ none := by
        intro hnone
        simp [Parameter.value, hnone] at hvalue
      rw [straysBehind, nameStrays_of_plain hplain, bootromStrays_of_plain hplain hbootrom]
      rfl
    | _ =>
      rw [straysBehind, nameStrays_of_plain hplain]
      · rfl
      all_goals simp
  rw [hbehind]
  cases p with
  | name =>
    show firstLine 10 (nameText bc) = bc.name.val
    rw [nameText_of_plain hplain, firstLine_of_not_mem hplain.name.2]
  | memory => exact hmemory
  | cores =>
    have hset : bc.cores ≠ 0 := by
      intro hzero
      simp [Parameter.value, numvar, hzero] at hvalue
    show lastValue (ascii "cores") (reading base) = numvar bc.cores
    rw [hcores.resolve_left hset, numvar, if_neg hset]
  | bootrom => exact hplain.bootrom
  | _ => exact trivial

end

section
variable {bc : BhyveConfiguration} {filename : CString} {files : Files} {base file : List UInt8}
variable (hbase : files.contents bc.configfile = some base)
  (hfree : 0 ∉ base) (hflow : Flowing files.writes)
variable (hdone : vmstatedGenerateConfigFile bc filename files = some (0, some file))
include hbase hfree hflow hdone

theorem reading_generated (p : Parameter) : lastValue p.key (reading file) =
    (firstSet 10 61 p.key (allEntries (coreOf bc))).or (lastValue p.key (reading base)) := by
  rw [generated_written hbase hfree hflow hdone, reading,
    assignments_lines, List.flatMap_cons, lastValue_append]
  exact congrArg (Option.or · _) (lastValue_reverse (by decide) allEntries_plain)

theorem keepsBase_iff : KeepsBase bc base file ↔ StraysAgree bc base := by
  apply forall_congr'
  intro p
  apply imp_congr_right
  intro hunset
  have hslot : (if p = .hostbridge then Parameter.hostbridge.value bc else none) = none := by
    split
    · subst p
      exact hunset
    · rfl
  rw [reading_generated hbase hfree hflow hdone, firstSet_silent (Or.inr (Or.inr hunset)),
    hslot, Option.or_none]
  cases lastValue p.key (strays bc) with
  | none => simp
  | some value => simp [eq_comm]

theorem overrides_iff : Overrides bc file ↔ LinesOk bc base := by
  apply forall₄_congr
  intro p value hcom hvalue
  rw [reading_generated hbase hfree hflow hdone]
  exact overrides_of_parameter hcom hvalue

end

/-! Machines that differ in cores and bootrom. -/

def machine (cores : UInt16) (bootrom : Option CString) : BhyveConfiguration :=
  ⟨literal "mail", literal "base.conf", bootrom, 512, 0, 0,
    cores, true, false, true, some (literal "AMD"), []⟩

def baseFile (base : List UInt8) : Files :=
  ⟨fun _ => some base, fun _ => true, fun _ => true, pages⟩

def plainFile : List UInt8 :=
  ascii "cpus=4\npci.0.0.0.device=amd_hostbridge\nlpc.bootrom=rom\nacpi_tables=true\n" ++
    ascii "x86.vmexit_on_hlt=true\nmemory.size=512M\nname=mail\n"

theorem plainFile_generated :
    vmstatedGenerateConfigFile (machine 0 (some (literal "rom"))) (literal "out")
    (baseFile (ascii "cpus=4")) = some (0, some plainFile) := by decide +kernel

theorem machine_plain : PlainTexts (machine 0 (some (literal "rom"))) := by
  refine ⟨?_, ?_, fun _ hbcc => absurd hbcc List.not_mem_nil⟩
  · show (literal "mail").val.length < 255 ∧ 10 ∉ (literal "mail").val
    decide
  · rintro _ ⟨rfl⟩
    exact ⟨by decide, by decide⟩

theorem overrides_plain : Overrides (machine 0 (some (literal "rom"))) plainFile :=
  (overrides_iff rfl (by decide) pages_flowing plainFile_generated).mpr
    (linesOk_of_plain machine_plain (by decide) (Or.inl rfl))

def coresFile : List UInt8 :=
  ascii "cpus=4\npci.0.0.0.device=amd_hostbridge\nlpc.bootrom=rom\nacpi_tables=true\n" ++
    ascii "x86.vmexit_on_hlt=true\nsockets=2\nmemory.size=512M\nname=mail\n"

theorem not_overrides :
    ¬∀ (bc : BhyveConfiguration) (filename : CString) (files : Files) (base file : List UInt8),
    files.contents bc.configfile = some base → 0 ∉ base → Flowing files.writes →
    vmstatedGenerateConfigFile bc filename files = some (0, some file) → Overrides bc file := by
  intro hall
  have hgenerated : vmstatedGenerateConfigFile (machine 2 (some (literal "rom"))) (literal "out")
    (baseFile (ascii "cpus=4")) = some (0, some coresFile) := by decide +kernel
  have hcores := hall _ _ _ _ _ rfl (by decide) pages_flowing hgenerated .cores (decimal 2)
    (fun _ => Parameter.noConfusion) rfl
  exact absurd hcores (by decide +kernel)

theorem keepsBase_plain :
    KeepsBase (machine 0 (some (literal "rom"))) (ascii "cpus=4") plainFile := by
  apply (keepsBase_iff rfl (by decide) pages_flowing plainFile_generated).mpr
  intro p hunset value hvalue
  have hstrays : strays (machine 0 (some (literal "rom"))) = [] := by decide +kernel
  rw [hstrays] at hvalue
  exact absurd hvalue (by simp [lastValue])

def bootromFile : List UInt8 :=
  ascii "lpc.bootrom=fw\npci.0.0.0.device=amd_hostbridge\nlpc.bootrom=\nacpi_tables=true\n" ++
    ascii "x86.vmexit_on_hlt=true\nmemory.size=512M\nname=mail\n"

theorem not_keepsBase :
    ¬∀ (bc : BhyveConfiguration) (filename : CString) (files : Files) (base file : List UInt8),
    files.contents bc.configfile = some base → 0 ∉ base → Flowing files.writes →
    vmstatedGenerateConfigFile bc filename files = some (0, some file) →
      KeepsBase bc base file := by
  intro hall
  have hgenerated : vmstatedGenerateConfigFile (machine 0 none) (literal "out")
    (baseFile (ascii "lpc.bootrom=fw")) = some (0, some bootromFile) := by decide +kernel
  have hbootrom := hall _ _ _ _ _ rfl (by decide) pages_flowing hgenerated .bootrom rfl
  exact absurd hbootrom (by decide +kernel)

end Vmstated.Properties
