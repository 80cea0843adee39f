import Vmstated.Libconfig.WriteResults
import Vmstated.Library.MappedFile

/-! What the result of writing a file says about the file. -/
namespace Vmstated.Properties
open Library Libconfig

/-- The result is 0 just when the text of the file read, a newline, and the
lines with theirs are all in the file written. -/
def ResultTruthful (obc : OutputBhyveCore) (fileIn : CString)
    (files : Files) (base : List UInt8) : Prop :=
  ∃ result file, obcCombineWith obc fileIn files = some (result, file) ∧
    (result = 0 ↔ file = some (withNewlines (base :: obc.lines)))

/-- There is something to map, and a zero byte at the end of it or in it. -/
def Readable (base : List UInt8) : Prop := base ≠ [] ∧ (0 ∈ base ∨ base.length % 4096 ≠ 0)

theorem fmNew_of_ne {base : List UInt8} (hne : base ≠ []) :
    fmNew (some base) = some (base ++ zeros (padding base)) := by
  obtain ⟨byte, bytes, rfl⟩ := List.exists_cons_of_ne_nil hne
  rfl

section
variable (obc : OutputBhyveCore) (fileIn : CString) (files : Files) {base : List UInt8}

theorem obcCombineWith_unreadable (hbase : files.contents fileIn = some base) (h : ¬Readable base) :
    obcCombineWith obc fileIn files = none := by
  rw [obcCombineWith, hbase]
  by_cases hne : base = []
  · rw [hne]
    rfl
  · have hzero : 0 ∉ base ++ zeros (padding base) := by
      rw [mem_padded]
      exact fun hmem => h ⟨hne, hmem⟩
    rw [fmNew_of_ne hne]
    exact if_pos hzero

theorem obcCombineWith_readable (hbase : files.contents fileIn = some base) (h : Readable base) :
    obcCombineWith obc fileIn files =
      if !files.opens obc.configfile then some (-1, none)
      else if !files.fchmods obc.configfile then some (-1, some [])
      else
        some ((writeLines (cString base :: obc.lines) ⟨[], files.writes⟩).1,
          some (writeLines (cString base :: obc.lines) ⟨[], files.writes⟩).2.written) := by
  have hzero := mem_padded.mpr h.2
  rw [obcCombineWith, hbase, fmNew_of_ne h.1]
  dsimp only
  rw [if_neg (not_not.mpr hzero), cString_padded_base]

end

theorem withNewlines_cString_le (base : List UInt8) (lines : List (List UInt8)) :
    (withNewlines (cString base :: lines)).length ≤ (withNewlines (base :: lines)).length := by
  have hle := cString_length_le base
  rw [withNewlines_length, withNewlines_length]
  omega

theorem resultTruthful_of_eq {obc : OutputBhyveCore} {fileIn : CString}
    {files : Files} {base : List UInt8}
    {result : Int} {file : Option (List UInt8)}
    (h : obcCombineWith obc fileIn files = some (result, file)) :
    ResultTruthful obc fileIn files base ↔
      (result = 0 ↔ file = some (withNewlines (base :: obc.lines))) := by
  constructor
  · rintro ⟨found, other, hfound, htruthful⟩
    obtain ⟨rfl, rfl⟩ := Prod.mk.inj (Option.some.inj (h.symm.trans hfound))
    exact htruthful
  · exact fun htruthful => ⟨result, file, h, htruthful⟩

theorem resultTruthful_opened {obc : OutputBhyveCore} {fileIn : CString}
    {files : Files} {base : List UInt8}
    (hbase : files.contents fileIn = some base) (hreadable : Readable base)
    (hmemory : base.length < 2 ^ 64)
    (hlines : ∀ line ∈ obc.lines, line.length < 2 ^ 64) (hopens : files.opens obc.configfile = true)
    (hfchmods : files.fchmods obc.configfile = true) :
    ResultTruthful obc fileIn files base ↔ Noticed (cString base :: obc.lines) files.writes ∨
      (0 ∉ base ∧ AllTaken (base :: obc.lines) files.writes) := by
  have htexts : ∀ line ∈ cString base :: obc.lines, line.length < 2 ^ 64 := by
    have hle := cString_length_le base
    exact List.forall_mem_cons.mpr ⟨by omega, hlines⟩
  obtain ⟨out, hwritten, houtcome⟩ := writeLines_outcome htexts ⟨[], files.writes⟩
  have hcombine := obcCombineWith_readable obc fileIn files hbase hreadable
  have hle := withNewlines_cString_le base obc.lines
  rw [hopens, hfchmods, hwritten, List.nil_append] at hcombine
  rw [resultTruthful_of_eq (hcombine.trans rfl), houtcome.result_iff, Option.some_inj]
  by_cases hnoticed : Noticed (cString base :: obc.lines) files.writes
  · have hcut := houtcome.cut hnoticed
    refine iff_of_true (iff_of_false (not_not.mpr hnoticed) ?_) (Or.inl hnoticed)
    intro hall
    rw [hall] at hcut
    omega
  · rw [or_iff_right hnoticed]
    constructor
    · intro htruthful
      have hall := htruthful.mp hnoticed
      have hfree : 0 ∉ base := by
        intro hzero
        have hless := strlen_lt_of_mem hzero
        have hlength := houtcome.length_le
        rw [hall, withNewlines_length, withNewlines_length] at hlength
        unfold strlen at hless
        omega
      rw [cString_eq_self hfree] at houtcome hnoticed
      exact ⟨hfree, houtcome.allTaken hnoticed (congrArg List.length hall)⟩
    · rintro ⟨hfree, hall⟩
      rw [cString_eq_self hfree] at houtcome
      exact iff_of_true hnoticed (houtcome.complete hall)

/-- The result tells whether the file is complete if the base is a string in
memory, and nothing is opened, or a failure is noticed, or all calls take all. -/
theorem resultTruthful_iff (obc : OutputBhyveCore) (fileIn : CString)
    (files : Files) {base : List UInt8}
    (hbase : files.contents fileIn = some base) (hmemory : base.length < 2 ^ 64)
    (hlines : ∀ line ∈ obc.lines, line.length < 2 ^ 64) :
    ResultTruthful obc fileIn files base ↔ Readable base ∧
      (files.opens obc.configfile = false ∨ files.fchmods obc.configfile = false ∨
        Noticed (cString base :: obc.lines) files.writes ∨
        (0 ∉ base ∧ AllTaken (base :: obc.lines) files.writes)) := by
  by_cases hreadable : Readable base
  · have hcombine := obcCombineWith_readable obc fileIn files hbase hreadable
    rw [and_iff_right hreadable]
    cases hopens : files.opens obc.configfile with
    | false =>
      rw [hopens] at hcombine
      refine iff_of_true ((resultTruthful_of_eq hcombine).mpr ?_) (Or.inl rfl)
      exact iff_of_false (by decide) (fun hnone => nomatch hnone)
    | true =>
      cases hfchmods : files.fchmods obc.configfile with
      | false =>
        rw [hopens, hfchmods] at hcombine
        refine iff_of_true ((resultTruthful_of_eq hcombine).mpr ?_) (Or.inr (Or.inl rfl))
        refine iff_of_false (by decide) ?_
        intro hempty
        have hlength := congrArg List.length (Option.some.inj hempty)
        rw [withNewlines_length, List.length_nil] at hlength
        omega
      | true =>
        rw [resultTruthful_opened hbase hreadable hmemory hlines hopens hfchmods]
        simp
  · refine iff_of_false ?_ (fun h => hreadable h.1)
    rintro ⟨result, file, hdone, -⟩
    rw [obcCombineWith_unreadable obc fileIn files hbase hreadable] at hdone
    cases hdone

/-- A file of one byte that goes to another one with the calls of `writes`. -/
def oneByteFiles (writes : Counts) : Files :=
  ⟨fun _ => some [97], fun _ => true, fun _ => true, writes⟩

def oneLineOutput : OutputBhyveCore :=
  ⟨⟨[111], by decide⟩, bpcNew ⟨[97], by decide⟩, [ascii "cpus=2"]⟩

theorem resultTruthful_pages :
    ResultTruthful oneLineOutput ⟨[105], by decide⟩ (oneByteFiles pages) [97] := by
  have hall : AllTaken [[97], ascii "cpus=2"] pages := by
    have htaken (line : List UInt8) (hline : line.length ≤ 4096) :
        TakenAt line (some 4096) (some 4096) :=
      ⟨Or.inr ⟨4096, hline, rfl⟩, 4095, rfl⟩
    exact allTaken_cons.mpr ⟨htaken _ (by decide),
      allTaken_cons.mpr ⟨htaken _ (by decide), fun _ _ hline => nomatch hline⟩⟩
  exact (resultTruthful_iff oneLineOutput ⟨[105], by decide⟩
    (oneByteFiles pages) rfl (by decide) (by decide)).mpr
    ⟨⟨by decide, Or.inr (by decide)⟩, Or.inr (Or.inr (Or.inr ⟨by decide, hall⟩))⟩

/-- The first call fails, and all others take all. -/
def firstFails : Counts := fun i => if i = 0 then none else some 4096

theorem not_resultTruthful :
    ¬ResultTruthful oneLineOutput ⟨[105], by decide⟩ (oneByteFiles firstFails) [97] := by
  have hcombine :=
    obcCombineWith_readable oneLineOutput ⟨[105], by decide⟩ (oneByteFiles firstFails) rfl
      ⟨by decide, Or.inr (by decide)⟩
  have hwritten : writeLines (cString [97] :: oneLineOutput.lines) ⟨[], firstFails⟩ =
      (0, ⟨10 :: ascii "cpus=2" ++ [10], firstFails.rest.rest.rest.rest⟩) := rfl
  rw [resultTruthful_of_eq (hcombine.trans rfl)]
  intro htruthful
  have hall := Option.some.inj (htruthful.mp (congrArg Prod.fst hwritten))
  rw [show (oneByteFiles firstFails).writes = firstFails from rfl, hwritten] at hall
  revert hall
  decide

end Vmstated.Properties
