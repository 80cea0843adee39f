import Vmstated.Libconfig.OutputSpec
import Vmstated.Libtranslate.Consoles
import Vmstated.Properties.AcceptedParameters

/-! From a block of consoles to the ports of a machine and their lines. -/
namespace Vmstated.Properties
open Library Libconfig Libprocwatch Libtranslate

/-- The line for a console at the port with this index, if it is enabled. -/
def portLine (k : Fin 4) : Option BhyveConfigurationConsole → List (List UInt8)
  | none => []
  | some bcc =>
    if bcc.enabled then [configline (ascii "lpc.com" ++ decimal (k.val + 1) ++ ascii ".path")
      (backendOf bcc)] else []

def portLines (consoles : List BhyveConfigurationConsole) : List (List UInt8) :=
  (List.finRange 4).flatMap fun k => portLine k consoles[k.val]?

/-- Each console of the block has the port of its place, with its flag, its
name and its backend, and the other ports are disabled. -/
def AssignsPorts (ucl : Libucl) (block : ConsoleBlock ucl) (bc : Libtranslate.BhyveConfiguration)
    (obc : OutputBhyveCore) : Prop :=
  ∃ parsed bpc, bufParseConsoleList ucl block.object none = some parsed ∧
    ptcTranslate { bc with consoles := readConsoles parsed } = some (0, bpc) ∧
    (∀ k : Fin 4, Carries (bpc.comport k) block.consoles[k.val]?) ∧
    (obcSetConsoles { obc with bpc }).lines = (portLines block.consoles).reverse ++ obc.lines

theorem comdef_eq :
    ∀ k : Fin 4, comdef k = ascii "lpc.com" ++ decimal (k.val + 1) ++ ascii ".path" := by decide

theorem backendText_of_holds {bpc : BhyveParametersCore} {k : Fin 4} {text : List UInt8}
    (h : Holds (bpc.comport k).backend text) : bpc.backendText k = text := by
  rw [BhyveParametersCore.backendText, cString_append_of_mem h.1, h.2]

theorem consoleEntries_carried {bpc : BhyveParametersCore}
    {k : Fin 4} {console : Option BhyveConfigurationConsole} (h : Carries (bpc.comport k) console) :
    (consoleEntries bpc k).map (fun entry => configline entry.1 entry.2) = portLine k console := by
  unfold consoleEntries
  cases console with
  | none =>
    have hdisabled : (bpc.comport k).enabled = false := h
    rw [hdisabled]
    rfl
  | some bcc =>
    obtain ⟨henabled, -, hbackend⟩ := h
    rw [henabled, backendText_of_holds hbackend, comdef_eq, portLine]
    cases bcc.enabled <;> rfl

theorem obcSetConsoles_carried {bpc : BhyveParametersCore}
    {consoles : List BhyveConfigurationConsole}
    (h : ∀ k : Fin 4, Carries (bpc.comport k) consoles[k.val]?) (obc : OutputBhyveCore) :
    (obcSetConsoles { obc with bpc }).lines = (portLines consoles).reverse ++ obc.lines := by
  rw [obcSetConsoles_eq, OutputBhyveCore.adds, List.map_flatMap, portLines]
  dsimp only
  congr 2
  apply List.flatMap_congr
  intro k _
  exact consoleEntries_carried (h k)

section
variable {consoles : List BhyveConfigurationConsole}

theorem carries_reverse (hfew : consoles.length ≤ 4) (hnames : ∀ bcc ∈ consoles, bcc.name ≠ none) :
    (∀ k : Fin 4, Carries (comportOf consoles.reverse[k.val]?) consoles[k.val]?) ↔
      (∀ bcc ∈ consoles, ConsoleFits bcc ∧ bcc.enabled = true) ∧
        (consoles.map consoleTexts).reverse = consoles.map consoleTexts := by
  have hcarries {k : Nat} (hk : k < consoles.length) :
      Carries (comportOf consoles.reverse[k]?) consoles[k]? ↔ consoles[k].enabled = true ∧
        ConsoleFits consoles[consoles.length - 1 - k] ∧
          consoleTexts consoles[consoles.length - 1 - k] = consoleTexts consoles[k] := by
    rw [List.getElem?_reverse hk, List.getElem?_eq_getElem (by omega), List.getElem?_eq_getElem hk]
    exact carries_comportOf (hnames _ (List.getElem_mem _))
  constructor
  · intro h
    have hall {k : Nat} (hk : k < consoles.length) := (hcarries hk).mp (h ⟨k, by omega⟩)
    refine ⟨?_, ?_⟩
    · intro bcc hbcc
      obtain ⟨k, hk, rfl⟩ := List.getElem_of_mem hbcc
      have hmirror : consoles.length - 1 - (consoles.length - 1 - k) = k := by omega
      obtain ⟨-, hfits, -⟩ := hall (show consoles.length - 1 - k < consoles.length by omega)
      simp only [hmirror] at hfits
      exact ⟨hfits, (hall hk).1⟩
    · apply List.ext_getElem (List.length_reverse)
      intro k hk hlt
      rw [List.length_map] at hlt
      rw [List.getElem_reverse, List.getElem_map, List.getElem_map]
      simp only [List.length_map]
      exact (hall hlt).2.2
  · rintro ⟨hgood, hmirror⟩ k
    by_cases hk : k.val < consoles.length
    · have htexts : consoleTexts consoles[consoles.length - 1 - k.val] =
        consoleTexts consoles[k.val] := by
        have hsame :=
          List.getElem_of_eq hmirror (show k.val < (consoles.map consoleTexts).reverse.length by
          rw [List.length_reverse, List.length_map]
          exact hk)
        rw [List.getElem_reverse, List.getElem_map, List.getElem_map] at hsame
        simp only [List.length_map] at hsame
        exact hsame
      exact (hcarries hk).mpr ⟨(hgood _ (List.getElem_mem hk)).2,
        (hgood _ (List.getElem_mem _)).1, htexts⟩
    · rw [List.getElem?_eq_none (by rw [List.length_reverse]; omega),
        List.getElem?_eq_none (by omega)]
      rfl

end

section
variable {ucl : Libucl} {block : ConsoleBlock ucl} {bc : Libtranslate.BhyveConfiguration}
  {obc : OutputBhyveCore}

theorem named_reverse {parsed : Option (List CStruct)} (hfew : block.consoles.length ≤ 4)
    (hread : readConsoles parsed = block.consoles.reverse) :
    Named { bc with consoles := readConsoles parsed } ↔
      ∀ bcc ∈ block.consoles, bcc.name ≠ none := by
  have htake : block.consoles.reverse.take 4 = block.consoles.reverse :=
    List.take_of_length_le (by rw [List.length_reverse]; exact hfew)
  rw [Named, hread, htake]
  simp only [List.mem_reverse]

theorem assignsPorts_of_named (hfew : block.consoles.length ≤ 4)
    (hnames : ∀ bcc ∈ block.consoles, bcc.name ≠ none) :
    AssignsPorts ucl block bc obc ↔
      ∀ k : Fin 4, Carries (comportOf block.consoles.reverse[k.val]?) block.consoles[k.val]? := by
  obtain ⟨parsed, hparse, hread⟩ := readConsoles_parsed block none
  have htranslate :=
    ptcTranslate_of_named ((@named_reverse ucl block bc parsed hfew hread).mpr hnames)
  have hports (k : Fin 4) : (coreOf { bc with consoles := readConsoles parsed }).comport k =
      comportOf block.consoles.reverse[k.val]? := by
    rw [coreOf, hread]
  constructor
  · rintro ⟨other, bpc, hother, hbpc, hcarries, -⟩ k
    obtain rfl : parsed = other := Option.some.inj (hparse.symm.trans hother)
    obtain ⟨-, rfl⟩ := Prod.mk.inj (Option.some.inj (htranslate.symm.trans hbpc))
    rw [← hports]
    exact hcarries k
  · intro hcarries
    have hall (k : Fin 4) : Carries ((coreOf { bc with consoles := readConsoles parsed }).comport k)
        block.consoles[k.val]? := by
      rw [hports]
      exact hcarries k
    exact ⟨parsed, _, hparse, htranslate, hall, obcSetConsoles_carried hall obc⟩

theorem not_assignsPorts_unnamed (hfew : block.consoles.length ≤ 4)
    {bcc : BhyveConfigurationConsole}
    (hbcc : bcc ∈ block.consoles) (hname : bcc.name = none) : ¬AssignsPorts ucl block bc obc := by
  rintro ⟨other, bpc, hother, hbpc, -⟩
  obtain ⟨parsed, hparse, hread⟩ := readConsoles_parsed block none
  obtain rfl : parsed = other := Option.some.inj (hparse.symm.trans hother)
  have hnot : ¬Named { bc with consoles := readConsoles parsed } :=
    fun hnamed => (named_reverse hfew hread).mp hnamed bcc hbcc hname
  rw [ptcTranslate_of_not_named hnot] at hbpc
  cases hbpc

end

/-- The ports are right just where all consoles are enabled and fit, and the
block reads the same from its end. -/
theorem assignsPorts_iff (ucl : Libucl) (block : ConsoleBlock ucl)
    (bc : Libtranslate.BhyveConfiguration)
    (obc : OutputBhyveCore) (hfew : block.consoles.length ≤ 4) :
    AssignsPorts ucl block bc obc ↔
      (∀ bcc ∈ block.consoles, ConsoleFits bcc ∧ bcc.enabled = true) ∧
        (block.consoles.map consoleTexts).reverse = block.consoles.map consoleTexts := by
  by_cases hnames : ∀ bcc ∈ block.consoles, bcc.name ≠ none
  · rw [assignsPorts_of_named hfew hnames, carries_reverse hfew hnames]
  · obtain ⟨bcc, hmember⟩ := not_forall.mp hnames
    obtain ⟨hbcc, hname⟩ := Classical.not_imp.mp hmember
    rw [not_not] at hname
    refine iff_of_false (not_assignsPorts_unnamed hfew hbcc hname) ?_
    rintro ⟨hgood, -⟩
    obtain ⟨found, hfound, -⟩ := (hgood bcc hbcc).1.name
    rw [hname] at hfound
    cases hfound

def consoleTree (tag backend : CString) : ucltrees.Object :=
  UclTree.node (some tag) [.leaf (some ⟨ascii "backend", by decide⟩) (.string backend)]

def consoleTrees (tags : List (CString × CString)) : ConsoleBlock ucltrees where
  object := UclTree.node none (tags.map fun tag => consoleTree tag.1 tag.2)
  tagged := by
    intro cur hcur
    obtain ⟨tag, -, rfl⟩ := List.mem_map.mp hcur
    exact Option.some_ne_none tag.1

theorem consoleTrees_consoles (tags : List (CString × CString)) :
    (consoleTrees tags).consoles = tags.map fun tag => ⟨some tag.1, true, some tag.2⟩ := by
  have hconsole (tag : CString × CString) : consoleOf ucltrees (consoleTree tag.1 tag.2) =
      ⟨some tag.1, true, some tag.2⟩ := rfl
  have hmap : (consoleTrees tags).consoles =
      (tags.map fun tag => consoleTree tag.1 tag.2).map (consoleOf ucltrees) := rfl
  rw [hmap, List.map_map]
  exact List.map_congr_left fun tag _ => hconsole tag

def blankOutput : OutputBhyveCore :=
  ⟨⟨ascii "blank.conf", by decide⟩, bpcNew ⟨ascii "blank", by decide⟩, []⟩

def modemA : CString := ⟨ascii "/dev/nmdm0A", by decide⟩

def modemB : CString := ⟨ascii "/dev/nmdm0B", by decide⟩

theorem assignsPorts_one :
    AssignsPorts ucltrees (consoleTrees [(⟨[97], by decide⟩, modemA)])
      (smallVm []) blankOutput := by
  have hconsoles := consoleTrees_consoles [(⟨[97], by decide⟩, modemA)]
  refine (assignsPorts_iff ucltrees (consoleTrees [(⟨[97], by decide⟩, modemA)])
    (smallVm []) blankOutput ?_).mpr ⟨?_, ?_⟩
  · rw [hconsoles]
    decide
  · rw [hconsoles]
    intro bcc hbcc
    obtain rfl := List.mem_singleton.mp hbcc
    exact ⟨⟨⟨_, rfl, by decide⟩, by decide⟩, rfl⟩
  · rw [hconsoles]
    rfl

theorem not_assignsPorts : ¬AssignsPorts ucltrees
    (consoleTrees [(⟨[97], by decide⟩, modemA), (⟨[98], by decide⟩, modemB)])
    (smallVm []) blankOutput := by
  have hconsoles := consoleTrees_consoles [(⟨[97], by decide⟩, modemA), (⟨[98], by decide⟩, modemB)]
  rw [assignsPorts_of_named (by rw [hconsoles]; decide) (by rw [hconsoles]; decide), hconsoles]
  intro hports
  have hfirst : Carries (comportOf (some ⟨some ⟨[98], by decide⟩, true, some modemB⟩))
      (some ⟨some ⟨[97], by decide⟩, true, some modemA⟩) := hports 0
  obtain ⟨-, -, htexts⟩ := (carries_comportOf (by decide)).mp hfirst
  revert htexts
  decide

end Vmstated.Properties
