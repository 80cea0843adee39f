import Vmstated.Libconfig.OutputBhyveCore
import Vmstated.Library.Assignments

/-! What an output object holds, and what is in the file it writes. -/
namespace Vmstated.Libconfig
open Library

def OutputBhyveCore.adds (obc : OutputBhyveCore) (entries : List (List UInt8 × List UInt8)) :
    OutputBhyveCore :=
  { obc with lines := (entries.map fun entry => configline entry.1 entry.2).reverse ++ obc.lines }

def boolText (value : Bool) : List UInt8 := if value then ascii "true" else ascii "false"

def memoryText (memory : UInt32) : List UInt8 := snprintf 32 (printInt (asInt memory) ++ ascii "M")

def numvarText (value : UInt16) : List UInt8 := snprintf 32 (printInt value.toNat)

def hostbridgeText (hostbridgeType : HostbridgeType) : List UInt8 :=
  if hostbridgeType = .hostbridgeAmd then ascii "amd_hostbridge" else ascii "hostbridge"

def numvarEntries (key : List UInt8) (value : UInt16) : List (List UInt8 × List UInt8) :=
  if value ≠ 0 then [(key, numvarText value)] else []

section
variable (bpc : BhyveParametersCore)

def bootromLine : List UInt8 :=
  snprintf (2 * pathMax + 64)
    (bpc.bootrom.bootromText ++ (if bpc.bootrom.withVars then ascii "," else []) ++
      bpc.bootrom.varsfileText)

def memoryEntries : List (List UInt8 × List UInt8) :=
  if bpc.memory > 0 then [(ascii "memory.size", memoryText bpc.memory)] else []

def consoleEntries (comport : Fin 4) : List (List UInt8 × List UInt8) :=
  if (bpc.comport comport).enabled then [(comdef comport, bpc.backendText comport)] else []

def coreEntries : List (List UInt8 × List UInt8) :=
  (ascii "name", bpc.vmnameText) :: memoryEntries bpc ++ numvarEntries (ascii "cpus") bpc.numcpus ++
    numvarEntries (ascii "sockets") bpc.sockets ++ numvarEntries (ascii "sockets") bpc.cores ++
    [(ascii "x86.vmexit_on_hlt", boolText bpc.yieldOnHlt),
      (ascii "acpi_tables", boolText bpc.generateAcpiTables),
      (ascii "lpc.bootrom", bootromLine bpc)] ++ (List.finRange 4).flatMap (consoleEntries bpc)

end

def slotEntry (bpp : BhyveParametersPcislot) : List UInt8 × List UInt8 :=
  (pciDevice bpp, if bpp.slotType = .isabridge then ascii "lpc"
    else hostbridgeText bpp.hostbridgeType)

def Supported (bpp : BhyveParametersPcislot) : Prop :=
  bpp.slotType = .isabridge ∨ bpp.slotType = .hostbridge

section
variable {obc : OutputBhyveCore}

@[simp] theorem adds_bpc (entries : List (List UInt8 × List UInt8)) :
    (obc.adds entries).bpc = obc.bpc := rfl

@[simp] theorem adds_nil : obc.adds [] = obc := rfl

@[simp] theorem adds_adds (entries more : List (List UInt8 × List UInt8)) :
    (obc.adds entries).adds more = obc.adds (entries ++ more) := by
  unfold OutputBhyveCore.adds
  simp

theorem obcAdd_eq (key value : List UInt8) : obcAdd obc key value = obc.adds [(key, value)] := rfl

theorem obcAddBool_eq (key : List UInt8) (value : Bool) :
    obcAddBool obc key value = obc.adds [(key, boolText value)] := by
  rw [obcAddBool, boolText, obcAdd_eq]

theorem obcSetBootrom_eq :
    obcSetBootrom obc = obc.adds [(ascii "lpc.bootrom", bootromLine obc.bpc)] := by
  rw [obcSetBootrom, bootromLine, obcAdd_eq]

theorem obcSetMemory_eq : obcSetMemory obc = obc.adds (memoryEntries obc.bpc) := by
  unfold obcSetMemory memoryEntries memoryText
  by_cases hmemory : obc.bpc.memory > 0
  · rw [if_pos hmemory, if_pos hmemory, obcAdd_eq]
  · rw [if_neg hmemory, if_neg hmemory, adds_nil]

theorem obcSetNumvar_eq (key : List UInt8) (value : UInt16) :
    obcSetNumvar obc key value = obc.adds (numvarEntries key value) := by
  unfold obcSetNumvar numvarEntries
  split <;> rfl

theorem obcSetConsole_eq (comport : Fin 4) :
    obcSetConsole obc comport = obc.adds (consoleEntries obc.bpc comport) := by
  unfold obcSetConsole consoleEntries
  split <;> rfl

theorem obcSetConsoles_eq :
    obcSetConsoles obc = obc.adds ((List.finRange 4).flatMap (consoleEntries obc.bpc)) := by
  have hfold (ports : List (Fin 4)) (obc : OutputBhyveCore) :
      ports.foldl obcSetConsole obc = obc.adds (ports.flatMap (consoleEntries obc.bpc)) := by
    induction ports generalizing obc with
    | nil => rfl
    | cons comport ports ih =>
      rw [List.foldl_cons, ih, obcSetConsole_eq, adds_adds, adds_bpc, List.flatMap_cons]
  exact hfold (List.finRange 4) obc

theorem obcSetCore_eq :
    obcSetCore obc = obcSetPcislots (obc.adds (coreEntries obc.bpc)) obc.bpc.pcislots := by
  unfold obcSetCore obcSetCpus coreEntries
  simp only [obcSetConsoles_eq, obcAdd_eq, obcAddBool_eq,
    obcSetBootrom_eq, obcSetNumvar_eq, obcSetMemory_eq,
    adds_adds, adds_bpc, List.append_assoc, List.cons_append, List.nil_append]

theorem obcSetPcislots_of_supported {pcislots : List BhyveParametersPcislot}
    (hslots : ∀ bpp ∈ pcislots, Supported bpp) :
    obcSetPcislots obc pcislots = (0, obc.adds (pcislots.map slotEntry)) := by
  induction pcislots generalizing obc with
  | nil => rfl
  | cons bpp pcislots ih =>
    rw [List.forall_mem_cons] at hslots
    rw [obcSetPcislots, List.map_cons, slotEntry]
    rcases hslots.1 with hisa | hhost
    · simp [hisa, ih hslots.2, obcAdd_eq]
    · simp [hhost, ih hslots.2, obcAdd_eq, hostbridgeText]

theorem obcSetPcislots_of_unsupported {pcislots : List BhyveParametersPcislot}
    (hslots : ¬∀ bpp ∈ pcislots, Supported bpp) : (obcSetPcislots obc pcislots).1 = -1 := by
  induction pcislots generalizing obc with
  | nil => exact absurd (fun _ hbpp => absurd hbpp List.not_mem_nil) hslots
  | cons bpp pcislots ih =>
    rw [obcSetPcislots]
    rw [List.forall_mem_cons, Supported] at hslots
    cases htype : bpp.slotType with
    | isabridge => exact ih fun h => hslots ⟨Or.inl htype, h⟩
    | hostbridge => exact ih fun h => hslots ⟨Or.inr htype, h⟩
    | _ => rfl

end

def allEntries (bpc : BhyveParametersCore) : List (List UInt8 × List UInt8) :=
  coreEntries bpc ++ bpc.pcislots.map slotEntry

section
variable {configfile : CString} {bpc : BhyveParametersCore}

theorem obcNew_of_supported (hslots : ∀ bpp ∈ bpc.pcislots, Supported bpp) :
    obcNew configfile bpc =
      some ((⟨configfile, bpc, []⟩ : OutputBhyveCore).adds (allEntries bpc)) := by
  rw [obcNew, obcSetCore_eq, obcSetPcislots_of_supported hslots, adds_adds]
  rfl

theorem obcNew_ne_none : obcNew configfile bpc ≠ none ↔ ∀ bpp ∈ bpc.pcislots, Supported bpp := by
  by_cases hslots : ∀ bpp ∈ bpc.pcislots, Supported bpp
  · rw [obcNew_of_supported hslots]
    exact iff_of_true (Option.some_ne_none _) hslots
  · have hfail := @obcSetPcislots_of_unsupported
      ((⟨configfile, bpc, []⟩ : OutputBhyveCore).adds (coreEntries bpc)) bpc.pcislots hslots
    refine iff_of_false (not_not.mpr ?_) hslots
    rw [obcNew, obcSetCore_eq]
    split
    · rename_i hzero
      rw [hzero] at hfail
      exact absurd hfail (show ¬(0 : Int) = -1 by decide)
    · rfl

end

/-! The texts of numbers and names. -/

theorem printInt_eq (i : Int) : printInt i = if i < 0 then 45 :: decimal i.natAbs
    else decimal i.natAbs := by
  simp [printInt, paddedDecimal]

theorem printInt_natCast (n : Nat) : printInt n = decimal n := by
  rw [printInt_eq, if_neg (by omega), Int.natAbs_natCast]

theorem numvarText_eq (value : UInt16) : numvarText value = decimal value.toNat := by
  have hlength : (decimal value.toNat).length ≤ 5 :=
    decimal_length_le (by decide) (Nat.lt_trans value.toNat_lt (by decide))
  rw [numvarText, printInt_natCast, snprintf,
    List.take_of_length_le (Nat.le_trans hlength (by decide))]

theorem asInt_eq (value : UInt32) : asInt value =
    if value.toNat < 2 ^ 31 then (value.toNat : Int) else value.toNat - 2 ^ 32 := by
  have hbits : asInt value = value.toBitVec.toInt := rfl
  have hnat : value.toBitVec.toNat = value.toNat := rfl
  rw [hbits, BitVec.toInt_eq_toNat_cond, hnat]
  split <;> split <;> omega

theorem memoryText_eq (memory : UInt32) :
    memoryText memory = printInt (asInt memory) ++ ascii "M" := by
  have habs : (asInt memory).natAbs < 10 ^ 10 := by
    have hlt := memory.toNat_lt
    rw [asInt_eq]
    split <;> omega
  have hdigits : (decimal (asInt memory).natAbs).length ≤ 10 := decimal_length_le (by decide) habs
  have hlength : (printInt (asInt memory) ++ ascii "M").length ≤ 31 := by
    have hunit : (ascii "M").length = 1 := rfl
    rw [List.length_append, printInt_eq, hunit]
    split
    · rw [List.length_cons]
      omega
    · omega
  rw [memoryText, snprintf, List.take_of_length_le hlength]

theorem memoryText_plain (memory : UInt32) : 10 ∉ memoryText memory := by
  rw [memoryText_eq, printInt_eq]
  have hdigits : (10 : UInt8) ∉ decimal (asInt memory).natAbs := digits_not_mem (by decide) _
  have hrest : (10 : UInt8) ∉ ascii "M" := by decide
  split <;> simp [hdigits, hrest]

theorem memoryText_eq_iff (memory : UInt32) :
    memoryText memory = decimal memory.toNat ++ ascii "M" ↔ memory.toNat < 2 ^ 31 := by
  have hlt := memory.toNat_lt
  rw [memoryText_eq, List.append_cancel_right_eq, printInt_eq]
  by_cases hbound : memory.toNat < 2 ^ 31
  · rw [asInt_eq, if_pos hbound, if_neg (by omega), Int.natAbs_natCast]
    exact iff_of_true rfl hbound
  · have hneg : asInt memory < 0 := by
      rw [asInt_eq, if_neg hbound]
      omega
    rw [if_pos hneg]
    refine iff_of_false ?_ hbound
    intro hsame
    have hminus : (45 : UInt8) ∈ decimal memory.toNat := hsame ▸ List.mem_cons_self
    exact digits_not_mem (by decide) _ hminus

theorem boolText_plain (value : Bool) : 10 ∉ boolText value := by
  cases value <;> decide

theorem hostbridgeText_plain (hostbridgeType : HostbridgeType) :
    10 ∉ hostbridgeText hostbridgeType := by
  cases hostbridgeType <;> decide

/-! The file, where no `write` fails. -/

section
variable {sink after : Sink UInt8}

theorem write_of_flowing (hflow : Flowing sink.counts) {line : List UInt8}
    (hall : ¬sizeT (doneWrite (sink.write line).1) < line.length) :
    (sink.write line).2 = ⟨sink.written ++ line, sink.counts.rest⟩ := by
  obtain ⟨most, hmost⟩ := hflow 0
  have hwrite : sink.write line = (some (min (most + 1) line.length),
      ⟨sink.written ++ line.take (min (most + 1) line.length), sink.counts.rest⟩) := by
    simp only [Sink.write, hmost]
  rw [hwrite] at hall ⊢
  have hsize : sizeT (doneWrite (some (min (most + 1) line.length))) ≤
      min (most + 1) line.length := by
    rw [doneWrite]
    unfold sizeT
    omega
  have hfull : line.length ≤ min (most + 1) line.length :=
    Nat.le_trans (Nat.le_of_not_lt hall) hsize
  rw [List.take_of_length_le hfull]

theorem writeLine_eq (line : List UInt8) (sink : Sink UInt8) : writeLine line sink =
    if sizeT (doneWrite (sink.write line).1) < line.length then (-1, (sink.write line).2)
    else if doneWrite ((sink.write line).2.write [10]).1 <
      0 then (-1, ((sink.write line).2.write [10]).2)
    else (0, ((sink.write line).2.write [10]).2) := rfl

theorem writeLine_of_flowing (hflow : Flowing sink.counts) {line : List UInt8}
    (hdone : writeLine line sink = (0, after)) :
    after = ⟨sink.written ++ (line ++ [10]), sink.counts.rest.rest⟩ := by
  rw [writeLine_eq] at hdone
  split at hdone
  · exact absurd (Prod.mk.inj hdone).1 (by decide)
  · have hline := write_of_flowing hflow ‹_›
    obtain ⟨most, hmost⟩ := hflow.rest 0
    have hnewline : Sink.write [10] ⟨sink.written ++ line, sink.counts.rest⟩ =
        (some 1, ⟨sink.written ++ line ++ [10], sink.counts.rest.rest⟩) := by
      have hcount : min (most + 1) 1 = 1 := by omega
      simp only [Sink.write, hmost, List.length_singleton, hcount]
      rfl
    rw [hline, hnewline, if_neg (show ¬doneWrite (some 1) < 0 by decide)] at hdone
    rw [← List.append_assoc]
    exact (Prod.mk.inj hdone).2.symm

theorem writeLines_of_flowing {lines : List (List UInt8)} (hflow : Flowing sink.counts)
    (hdone : writeLines lines sink = (0, after)) :
    after.written = sink.written ++ lines.flatMap fun line => line ++ [10] := by
  induction lines generalizing sink with
  | nil =>
    rw [← (Prod.mk.inj hdone).2, List.flatMap_nil, List.append_nil]
  | cons line lines ih =>
    rw [writeLines] at hdone
    split at hdone
    · rename_i next hline
      have hnext := writeLine_of_flowing hflow hline
      subst hnext
      rw [ih hflow.rest.rest hdone, List.flatMap_cons, List.append_assoc]
    · rename_i result next hfail hline
      exact absurd (Prod.mk.inj hdone).1 hfail

end

/-- A text whose last page is full is read past its end. -/
theorem fmNew_text {base memory : List UInt8} (hfree : 0 ∉ base)
    (hmemory : fmNew (some base) = some memory) (hzero : 0 ∈ memory) : cString memory = base := by
  unfold fmNew at hmemory
  split at hmemory
  · exact absurd hmemory (by simp)
  · exact absurd hmemory (by simp)
  · rename_i bytes _ hbytes
    rw [Option.some_inj] at hbytes hmemory
    subst hbytes hmemory
    cases hpad : (4096 - base.length % 4096) % 4096 with
    | zero =>
      rw [hpad] at hzero
      exact absurd (by simpa [zeros] using hzero) hfree
    | succ more =>
      exact cString_append (fun byte hbyte hbad => hfree (hbad ▸ hbyte)) _

theorem obcCombineWith_written {obc : OutputBhyveCore} {fileIn : CString} {files : Files}
    {base file : List UInt8} (hbase : files.contents fileIn = some base) (hfree : 0 ∉ base)
    (hflow : Flowing files.writes) (hdone : obcCombineWith obc fileIn files = some (0, some file)) :
    file = (base :: obc.lines).flatMap fun line => line ++ [10] := by
  rw [obcCombineWith, hbase] at hdone
  split at hdone
  · exact absurd hdone (by simp)
  · rename_i memory hmemory
    split at hdone
    · exact absurd hdone (by simp)
    · rename_i hzero
      rw [fmNew_text hfree hmemory (not_not.mp hzero)] at hdone
      split at hdone
      · exact absurd hdone (by simp)
      · split at hdone
        · exact absurd hdone (by simp)
        · rw [Option.some_inj, Prod.mk.injEq, Option.some_inj] at hdone
          rw [← hdone.2]
          exact writeLines_of_flowing hflow (Prod.ext hdone.1 rfl)

end Vmstated.Libconfig
