import Vmstated.Libconfig.FixedStrings

/-! Strings that end in their arrays. -/
namespace Vmstated.Properties
open Library Libconfig

section
variable (vmname : CString) (calls : List SetterCall)

def PrefixGiven (field : FixedString) (text : List UInt8) : Prop :=
  text <+: (field.given vmname calls).val

/-- The lines that `obc_set_core` makes of the fields. -/
structure PrintsPrefixes (lines : List (List UInt8)) : Prop where
  name : ∃ text, PrefixGiven vmname calls .vmname text ∧ configline (ascii "name") text ∈ lines
  comPath : ∀ comport, ((afterCalls vmname calls).comport comport).enabled = true →
    ∃ text, PrefixGiven vmname calls (.backend comport) text ∧
      configline (comdef comport) text ∈ lines
  lpcBootrom : ∃ bootrom varsfile, PrefixGiven vmname calls .bootrom bootrom ∧
    PrefixGiven vmname calls .varsfile varsfile ∧
    configline (ascii "lpc.bootrom")
      (bootrom ++ (if (afterCalls vmname calls).bootrom.withVars then ascii "," else []) ++
        varsfile) ∈ lines

structure StaysTerminated : Prop where
  terminated : ∀ field : FixedString, 0 ∈ (field.array (afterCalls vmname calls)).bytes
  prints : ∀ configfile,
    PrintsPrefixes vmname calls (obcSetCore ⟨configfile, afterCalls vmname calls, []⟩).2.lines

end

variable {vmname : CString} {calls : List SetterCall}

theorem terminated_iff (field : FixedString) :
    0 ∈ (field.array (afterCalls vmname calls)).bytes ↔
      (field.given vmname calls).val.length < field.size := by
  rw [afterCalls_array]
  exact zero_mem_strncpy

theorem array_text {field : FixedString}
    (hfits : (field.given vmname calls).val.length < field.size) (rest : List UInt8) :
    cString ((field.array (afterCalls vmname calls)).bytes ++ rest) =
      (field.given vmname calls).val := by
  rw [afterCalls_array]
  exact cString_strncpy_of_lt hfits rest

theorem mem_lines {configfile : CString} {key value : List UInt8}
    (hentry : (key, value) ∈ coreEntries (afterCalls vmname calls)) :
    configline key value ∈ (obcSetCore ⟨configfile, afterCalls vmname calls, []⟩).2.lines := by
  rw [obcSetCore_eq, afterCalls_pcislots]
  unfold obcSetPcislots OutputBhyveCore.adds
  rw [List.append_nil, List.mem_reverse]
  exact List.mem_map_of_mem hentry

theorem bootromLine_eq (hbootrom : (FixedString.bootrom.given vmname calls).val.length < pathMax)
    (hvarsfile : (FixedString.varsfile.given vmname calls).val.length < pathMax) :
    bootromLine (afterCalls vmname calls) = (FixedString.bootrom.given vmname calls).val ++
      (if (afterCalls vmname calls).bootrom.withVars then ascii "," else []) ++
      (FixedString.varsfile.given vmname calls).val := by
  have hfirst :=
    @array_text vmname calls .bootrom hbootrom (afterCalls vmname calls).bootrom.charsBehindBootrom
  have hsecond := @array_text vmname calls .varsfile hvarsfile (zeros 6)
  have hcomma : (if (afterCalls vmname calls).bootrom.withVars then ascii "," else []).length ≤
      1 := by
    split <;> decide
  unfold bootromLine BhyveParametersBootrom.bootromText BhyveParametersBootrom.varsfileText
    BhyveParametersBootrom.charsFromVars snprintf
  unfold FixedString.array at hfirst hsecond
  rw [hfirst, hsecond, List.take_of_length_le]
  rw [List.length_append, List.length_append]
  omega

theorem prints_of_fits
    (hfits : ∀ field : FixedString, (field.given vmname calls).val.length < field.size)
    (configfile : CString) :
    PrintsPrefixes vmname calls (obcSetCore ⟨configfile, afterCalls vmname calls, []⟩).2.lines := by
  refine ⟨?_, ?_, ?_⟩
  · refine ⟨_, List.prefix_rfl, mem_lines ?_⟩
    have htext : (afterCalls vmname calls).vmnameText =
        (FixedString.vmname.given vmname calls).val :=
      @array_text vmname calls .vmname (hfits .vmname) _
    rw [← htext]
    exact List.mem_append_left _ (List.mem_append_left _ List.mem_cons_self)
  · intro comport henabled
    refine ⟨_, List.prefix_rfl, mem_lines ?_⟩
    have htext : (afterCalls vmname calls).backendText comport =
        ((FixedString.backend comport).given vmname calls).val :=
      @array_text vmname calls (.backend comport) (hfits (.backend comport)) _
    rw [← htext]
    refine List.mem_append_right _ (List.mem_flatMap.mpr ⟨comport, List.mem_finRange comport, ?_⟩)
    rw [consoleEntries, if_pos henabled]
    exact List.mem_singleton_self _
  · refine ⟨_, _, List.prefix_rfl, List.prefix_rfl, mem_lines ?_⟩
    rw [← bootromLine_eq (hfits .bootrom) (hfits .varsfile)]
    exact List.mem_append_left _ (List.mem_append_right _ (by simp))

/-- The fields are as they should be if what each of them was given last is
shorter than its array. -/
theorem staysTerminated_iff (vmname : CString) (calls : List SetterCall) :
    StaysTerminated vmname calls ↔
    ∀ field : FixedString, (field.given vmname calls).val.length < field.size := by
  constructor
  · intro h field
    exact (terminated_iff field).mp (h.terminated field)
  · intro hfits
    exact ⟨fun field => (terminated_iff field).mpr (hfits field), prints_of_fits hfits⟩

/-- A name that fills its array: what follows it is read as well. -/
theorem not_staysTerminated :
    ¬∀ (vmname : CString) (calls : List SetterCall), StaysTerminated vmname calls := by
  intro hall
  have hfree : (0 : UInt8) ∉ List.replicate 255 97 := by
    intro hmem
    exact absurd (List.eq_of_mem_replicate hmem) (by decide)
  have hterminated :=
    (terminated_iff .vmname).mp ((hall ⟨List.replicate 255 97, hfree⟩ []).terminated .vmname)
  have hlength : (FixedString.vmname.given ⟨List.replicate 255 97, hfree⟩ []).val.length = 255 :=
    List.length_replicate
  rw [hlength] at hterminated
  exact absurd hterminated (by decide)

end Vmstated.Properties
