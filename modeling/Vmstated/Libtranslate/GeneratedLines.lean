import Vmstated.Libtranslate.ConfigGenerator

/-! The lines of a generated file, and the first one that assigns a key. -/
namespace Vmstated.Libtranslate
open Library Libconfig

/-! The texts that are printed begin in arrays, which lie one behind the other. -/

section
variable (bc : BhyveConfiguration)

def behind (comport : Nat) : List UInt8 :=
  ((List.finRange 4).drop comport).flatMap (fun i => (comportOf bc.consoles[i.val]?).chars) ++
    ((bootromOf bc.bootrom).bootrom.bytes ++ (bootromOf bc.bootrom).charsBehindBootrom)

def nameText : List UInt8 := cString ((strncpy bpcNameMax bc.name).bytes ++ behind bc 0)

def backendText (i : Fin 4) (backend : CString) : List UInt8 :=
  cString ((strncpy pathMax backend).bytes ++ behind bc (i + 1))

/-! The assignments of the file that no parameter asks for, in its order. Most
are lines that a newline in a text makes. -/

def backendStrays (i : Fin 4) : Option CString → List (List UInt8 × List UInt8)
  | none => [(comdef i, [])]
  | some backend =>
    if backend.val = [] then [(comdef i, [])]
    else reading (laterLines 10 (backendText bc i backend))

def portStrays (i : Fin 4) : List (List UInt8 × List UInt8) :=
  match bc.consoles[i.val]? with
  | none => []
  | some bcc => backendStrays bc i bcc.backend

def bootromStrays : List (List UInt8 × List UInt8) :=
  match bc.bootrom with
  | none => [(ascii "lpc.bootrom", [])]
  | some bootrom => reading (laterLines 10 (bootrom.val.take pathMax))

def coresStrays : List (List UInt8 × List UInt8) :=
  if bc.cores = 0 then [] else [(ascii "sockets", decimal bc.cores.toNat)]

def nameStrays : List (List UInt8 × List UInt8) := reading (laterLines 10 (nameText bc))

def strays : List (List UInt8 × List UInt8) :=
  (List.finRange 4).reverse.flatMap (portStrays bc) ++ bootromStrays bc ++
    coresStrays bc ++ nameStrays bc

end

/-! The lines, one after the other. -/

section
variable {bc : BhyveConfiguration} {p : Parameter}

theorem entryValue_plain {q : Parameter} {value : List UInt8} (hvalue : 10 ∉ value) :
    entryValue 10 61 p.key (q.key, value) = if p = q then some value else none := by
  rw [entryValue_of_not_mem _ hvalue]
  simp only [Parameter.key_inj, eq_comm]

theorem firstSet_memory : firstSet 10 61 p.key (memoryEntries (coreOf bc)) =
    if p = .memory ∧ bc.memory ≠ 0 then some (memoryText bc.memory) else none := by
  have hcore : (coreOf bc).memory = bc.memory := rfl
  have hentry := @entryValue_plain p .memory (memoryText bc.memory) (memoryText_plain bc.memory)
  rw [Parameter.key] at hentry
  rw [memoryEntries, hcore]
  by_cases hmemory : bc.memory = 0
  · simp [hmemory]
  · rw [if_pos (UInt32.pos_iff_ne_zero.mpr hmemory), firstSet_cons,
      firstSet_nil, Option.or_none, hentry]
    simp [hmemory]

theorem firstSet_numvar (q : Parameter) (value : UInt16) :
    firstSet 10 61 p.key (numvarEntries q.key value) = if p = q then numvar value else none := by
  rw [numvarEntries, numvar]
  by_cases hvalue : value = 0
  · simp [hvalue]
  · rw [if_pos hvalue, if_neg hvalue, firstSet_cons, firstSet_nil, Option.or_none, numvarText_eq,
      entryValue_plain (digits_not_mem (by decide) _)]

def bootromOut (bc : BhyveConfiguration) : List UInt8 :=
  (bc.bootrom.map fun bootrom => bootrom.val.take pathMax).getD []

theorem bootromLine_coreOf : bootromLine (coreOf bc) = bootromOut bc := by
  have hvars : (coreOf bc).bootrom.withVars = false ∧ (coreOf bc).bootrom.varsfileText = [] := by
    rw [coreOf, BhyveParametersBootrom.varsfileText, BhyveParametersBootrom.charsFromVars]
    cases bc.bootrom with
    | none => exact ⟨rfl, cString_zeroed (by decide) _⟩
    | some bootrom => exact ⟨rfl, cString_zeroed (by decide) _⟩
  have htext : (coreOf bc).bootrom.bootromText = bootromOut bc := by
    rw [coreOf, BhyveParametersBootrom.bootromText, bootromOut]
    cases bc.bootrom with
    | none => exact cString_zeroed (by decide) _
    | some bootrom => exact cString_strncpy_zero _
  have hlength : (bootromOut bc).length ≤ 2 * pathMax + 64 - 1 := by
    rw [bootromOut]
    cases bc.bootrom with
    | none => exact Nat.zero_le _
    | some bootrom => exact Nat.le_trans (List.length_take_le _ _) (by decide)
  rw [bootromLine, htext, hvars.1, hvars.2, if_neg Bool.false_ne_true,
    List.append_nil, List.append_nil, snprintf, List.take_of_length_le hlength]

theorem entryValue_bootrom (hset : p = .bootrom → bc.bootrom = none) :
    entryValue 10 61 p.key (ascii "lpc.bootrom", bootromLine (coreOf bc)) =
      lastValue p.key (bootromStrays bc) := by
  rw [bootromLine_coreOf, bootromOut, bootromStrays]
  cases hbootrom : bc.bootrom with
  | none => exact entryValue_of_not_mem _ List.not_mem_nil
  | some bootrom =>
    have hne : ascii "lpc.bootrom" ≠ p.key := by
      intro hkey
      obtain rfl := (@Parameter.key_inj .bootrom p).mp hkey
      exact absurd (hbootrom.symm.trans (hset rfl)) (by simp)
    exact entryValue_of_ne hne _

theorem firstSet_console (i : Fin 4) (hset : p = .com i → p.value bc = none) :
    firstSet 10 61 p.key (consoleEntries (coreOf bc) i) = lastValue p.key (portStrays bc i) := by
  rw [consoleEntries, portStrays]
  have hport : (coreOf bc).comport i = comportOf bc.consoles[i.val]? := rfl
  have htext : (coreOf bc).backendText i =
      cString ((comportOf bc.consoles[i.val]?).backend.bytes ++ behind bc (i + 1)) :=
    rfl
  rw [htext, hport]
  cases hbcc : bc.consoles[i.val]? with
  | none => rfl
  | some bcc =>
    have hempty : firstSet 10 61 p.key [(comdef i, [])] = lastValue p.key [(comdef i, [])] := by
      rw [firstSet_cons, firstSet_nil, Option.or_none, entryValue_of_not_mem _ List.not_mem_nil]
      rfl
    have henabled : (comportOf (some bcc)).enabled = true := rfl
    rw [if_pos henabled]
    dsimp only
    cases hbackend : bcc.backend with
    | none =>
      have hzero : cString ((comportOf (some bcc)).backend.bytes ++ behind bc (i + 1)) = [] := by
        rw [comportOf, hbackend]
        exact cString_zeroed (by decide) _
      rw [hzero, backendStrays, hempty]
    | some backend =>
      have hfilled : cString ((comportOf (some bcc)).backend.bytes ++ behind bc (i + 1)) =
          backendText bc i backend := by
        rw [comportOf, hbackend]
        rfl
      rw [hfilled, backendStrays]
      by_cases hnil : backend.val = []
      · have hlength : backend.val.length < pathMax := by
          rw [hnil]
          decide
        rw [if_pos hnil, backendText, cString_strncpy_of_lt hlength, hnil, hempty]
      · have hne : comdef i ≠ p.key := by
          intro hkey
          obtain rfl := (@Parameter.key_inj (.com i) p).mp hkey
          have hunset := hset rfl
          rw [Parameter.value, hbcc] at hunset
          simp [hbackend, hnil] at hunset
        rw [if_neg hnil, firstSet_cons, firstSet_nil, Option.or_none, entryValue_of_ne hne]

theorem firstSet_consoles (hset : ∀ i, p = .com i → p.value bc = none) (ports : List (Fin 4)) :
    firstSet 10 61 p.key (ports.flatMap (consoleEntries (coreOf bc))) =
      lastValue p.key (ports.reverse.flatMap (portStrays bc)) := by
  induction ports with
  | nil => rfl
  | cons i ports ih =>
    rw [List.flatMap_cons, firstSet_append, ih, firstSet_console i (hset i),
      List.reverse_cons, List.flatMap_append, List.flatMap_singleton, lastValue_append]

theorem firstSet_slots : firstSet 10 61 p.key ((slotsOf bc).map slotEntry) =
    if p = .hostbridge then Parameter.hostbridge.value bc else none := by
  have hisa : firstSet 10 61 p.key ((if bc.consoles = [] then [] else [isabridge]).map slotEntry) =
      none := by
    split
    · rfl
    · have hplain : (10 : UInt8) ∉ ascii "lpc" := by decide
      rw [List.map_singleton, firstSet_cons, firstSet_nil, Option.or_none, slotEntry]
      exact (entryValue_of_not_mem _ hplain).trans (if_neg p.key_ne_isabridge)
  have hhost : firstSet 10 61 p.key ((bc.hostbridge.map hostbridgeOf).toList.map slotEntry) =
      if p = .hostbridge then Parameter.hostbridge.value bc else none := by
    rw [Parameter.value]
    cases bc.hostbridge with
    | none => exact (ite_self none).symm
    | some hostbridge =>
      rw [Option.map_some, Option.toList_some, List.map_singleton,
        firstSet_cons, firstSet_nil, Option.or_none]
      exact @entryValue_plain p .hostbridge _ (hostbridgeText_plain _)
  rw [slotsOf, List.map_append, firstSet_append, hisa, hhost, Option.none_or]

theorem firstSet_allEntries : firstSet 10 61 p.key (allEntries (coreOf bc)) =
    (entryValue 10 61 p.key (ascii "name", nameText bc)).or
      ((if p = .memory ∧ bc.memory ≠ 0 then some (memoryText bc.memory) else none).or
        ((if p = .cpus then numvar bc.numcpus else none).or
          ((if p = .sockets then numvar bc.sockets else none).or
            ((if p = .sockets then numvar bc.cores else none).or
              ((if p = .vmexitOnHlt then some (boolText bc.vmexitOnHalt) else none).or
                ((if p = .acpiTables then some (boolText bc.generateAcpiTables) else none).or
                  ((entryValue 10 61 p.key (ascii "lpc.bootrom", bootromLine (coreOf bc))).or
                    ((firstSet 10 61 p.key
                      ((List.finRange 4).flatMap (consoleEntries (coreOf bc)))).or
                      (if p = .hostbridge then Parameter.hostbridge.value bc
                        else none))))))))) := by
  have hname : (coreOf bc).vmnameText = nameText bc := rfl
  have hcpus : firstSet 10 61 p.key (numvarEntries (ascii "cpus") (coreOf bc).numcpus) = _ :=
    firstSet_numvar .cpus bc.numcpus
  have hsockets : firstSet 10 61 p.key (numvarEntries (ascii "sockets") (coreOf bc).sockets) = _ :=
    firstSet_numvar .sockets bc.sockets
  have hcores : firstSet 10 61 p.key (numvarEntries (ascii "sockets") (coreOf bc).cores) = _ :=
    firstSet_numvar .sockets bc.cores
  have hflags : (coreOf bc).yieldOnHlt = bc.vmexitOnHalt ∧
      (coreOf bc).generateAcpiTables = bc.generateAcpiTables :=
    ⟨rfl, rfl⟩
  have hvmexit : entryValue 10 61 p.key (ascii "x86.vmexit_on_hlt", boolText bc.vmexitOnHalt) = _ :=
    @entryValue_plain p .vmexitOnHlt _ (boolText_plain bc.vmexitOnHalt)
  have hacpi : entryValue 10 61 p.key (ascii "acpi_tables", boolText bc.generateAcpiTables) = _ :=
    @entryValue_plain p .acpiTables _ (boolText_plain bc.generateAcpiTables)
  have hslots : firstSet 10 61 p.key ((coreOf bc).pcislots.map slotEntry) = _ := firstSet_slots
  simp only [allEntries, coreEntries, firstSet_append, firstSet_cons,
    firstSet_nil, Option.or_none, List.cons_append,
    Option.or_assoc, hname, hcpus, hsockets, hcores, hflags,
      hvmexit, hacpi, hslots, firstSet_memory]

abbrev Plain (entry : List UInt8 × List UInt8) : Prop := 10 ∉ entry.1 ∧ 61 ∉ entry.1

theorem plain_of_ite (q : Parameter) {c : Prop} [Decidable c] (value : List UInt8) :
    ∀ entry ∈ (if c then [(q.key, value)] else []), Plain entry := by
  intro entry hentry
  split at hentry
  · rw [List.mem_singleton.mp hentry]
    exact q.key_plain
  · exact absurd hentry List.not_mem_nil

theorem slots_plain : ∀ bpp ∈ slotsOf bc, Plain (slotEntry bpp) := by
  intro bpp hbpp
  rw [slotsOf, List.mem_append] at hbpp
  rcases hbpp with hisa | hhost
  · have hplain : 10 ∉ pciDevice isabridge ∧ 61 ∉ pciDevice isabridge := by decide
    split at hisa
    · exact absurd hisa List.not_mem_nil
    · rw [List.mem_singleton.mp hisa]
      exact hplain
  · rw [Option.mem_toList, Option.map_eq_some_iff] at hhost
    obtain ⟨hostbridge, -, rfl⟩ := hhost
    exact Parameter.hostbridge.key_plain

theorem allEntries_plain : ∀ entry ∈ allEntries (coreOf bc), Plain entry := by
  have hmemory : ∀ entry ∈ memoryEntries (coreOf bc), Plain entry := plain_of_ite .memory _
  have hnumvar (q : Parameter) (value : UInt16) : ∀ entry ∈ numvarEntries q.key value,
      Plain entry :=
    plain_of_ite q _
  have hconsoles : ∀ entry ∈ (List.finRange 4).flatMap (consoleEntries (coreOf bc)),
      Plain entry := by
    intro entry hentry
    obtain ⟨i, -, hentry⟩ := List.mem_flatMap.mp hentry
    exact plain_of_ite (.com i) _ entry hentry
  have hslots : ∀ entry ∈ (coreOf bc).pcislots.map slotEntry, Plain entry :=
    List.forall_mem_map.mpr slots_plain
  simp only [allEntries, coreEntries, List.forall_mem_append, List.forall_mem_cons]
  exact ⟨⟨⟨⟨⟨⟨⟨Parameter.name.key_plain, hmemory⟩, hnumvar .cpus _⟩, hnumvar .sockets _⟩,
    hnumvar .sockets _⟩,
    Parameter.vmexitOnHlt.key_plain, Parameter.acpiTables.key_plain, Parameter.bootrom.key_plain,
    fun _ hentry => absurd hentry List.not_mem_nil⟩, hconsoles⟩, hslots⟩

end

/-! Parameters without a line of their own before the slots. -/

section
variable {bc : BhyveConfiguration} {p : Parameter}

def Silent (bc : BhyveConfiguration) (p : Parameter) : Prop :=
  p = .cores ∨ p = .hostbridge ∨ p.value bc = none

theorem Silent.value_eq_none (hsilent : Silent bc p) (hcores : p ≠ .cores)
    (hhostbridge : p ≠ .hostbridge) :
    p.value bc = none := by
  rcases hsilent with h | h | h
  · exact absurd h hcores
  · exact absurd h hhostbridge
  · exact h

theorem firstSet_silent (hsilent : Silent bc p) : firstSet 10 61 p.key (allEntries (coreOf bc)) =
    (lastValue p.key (strays bc)).or
    (if p = .hostbridge then Parameter.hostbridge.value bc else none) := by
  have hname : ascii "name" ≠ p.key := by
    intro hkey
    obtain rfl := (@Parameter.key_inj .name p).mp hkey
    exact absurd (hsilent.value_eq_none (by decide) (by decide)) (Option.some_ne_none _)
  have hmemory : ¬(p = .memory ∧ bc.memory ≠ 0) := by
    rintro ⟨rfl, hmemory⟩
    have hvalue := hsilent.value_eq_none (by decide) (by decide)
    rw [Parameter.value, if_neg hmemory] at hvalue
    exact absurd hvalue (Option.some_ne_none _)
  have hcpus : (if p = .cpus then numvar bc.numcpus else none) = none := by
    split
    · subst p
      exact hsilent.value_eq_none (by decide) (by decide)
    · rfl
  have hsockets : (if p = .sockets then numvar bc.sockets else none) = none := by
    split
    · subst p
      exact hsilent.value_eq_none (by decide) (by decide)
    · rfl
  have hcores : (if p = .sockets then numvar bc.cores else none) =
      lastValue p.key (coresStrays bc) := by
    rw [numvar, coresStrays]
    by_cases hzero : bc.cores = 0
    · simp [hzero, lastValue]
    · rw [if_neg hzero, if_neg hzero, lastValue, lastValue, Option.none_or]
      simp only [← (@Parameter.key_inj .sockets p), eq_comm (a := p)]
      rfl
  have hvmexit : p ≠ .vmexitOnHlt := by
    rintro rfl
    exact absurd (hsilent.value_eq_none (by decide) (by decide)) (Option.some_ne_none _)
  have hacpi : p ≠ .acpiTables := by
    rintro rfl
    exact absurd (hsilent.value_eq_none (by decide) (by decide)) (Option.some_ne_none _)
  have hbootrom : p = .bootrom → bc.bootrom = none := by
    rintro rfl
    exact Option.map_eq_none_iff.mp (hsilent.value_eq_none (by decide) (by decide))
  have hconsoles (i : Fin 4) : p = .com i → p.value bc = none := by
    rintro rfl
    exact hsilent.value_eq_none Parameter.noConfusion Parameter.noConfusion
  rw [firstSet_allEntries, entryValue_of_ne hname, if_neg hmemory,
    hcpus, hsockets, hcores, if_neg hvmexit,
    if_neg hacpi, entryValue_bootrom hbootrom, firstSet_consoles hconsoles,
      strays, lastValue_append,
    lastValue_append, lastValue_append]
  simp only [Option.none_or, Option.or_assoc]
  rfl

end

end Vmstated.Libtranslate
