import Vmstated.Libconfig.Check
import Vmstated.Libconfig.OutputSpec
import Vmstated.Libtranslate.TranslateSpec

/-! What the rules for parameters say of those a translation makes, and what
can be written out of those they accept. -/
namespace Vmstated.Properties
open Library Libconfig Libtranslate

def TranslationAccepted (bc : BhyveConfiguration) : Prop :=
  ∃ bpc, ptcTranslate bc = some (0, bpc) ∧ checkParametersOk (some bpc) = some none

section
variable {bc : BhyveConfiguration}

theorem slotsOf_of_hostbridge {hostbridge : CString} (hhostbridge : bc.hostbridge = some hostbridge)
    (hconsoles : bc.consoles ≠ []) : slotsOf bc = [isabridge, hostbridgeOf hostbridge] := by
  rw [slotsOf, if_neg hconsoles, hhostbridge]
  rfl

theorem checkBpcName_coreOf (hname : bc.name.val ≠ []) : checkBpcName (coreOf bc) = 0 :=
  if_neg ((strncpy_headD_eq_zero (by decide)).not.mpr hname)

theorem checkBpcBootrom_coreOf {bootrom : CString} (hbootrom : bc.bootrom = some bootrom)
    (hne : bootrom.val ≠ []) : checkBpcBootrom (coreOf bc) = 0 := by
  rw [checkBpcBootrom, coreOf, hbootrom]
  exact if_neg ((strncpy_headD_eq_zero (by decide)).not.mpr hne)

theorem slots_accepted {bpc : BhyveParametersCore} {hostbridge : CString}
    (hslots : bpc.pcislots = [isabridge, hostbridgeOf hostbridge]) :
    checkBpcCounthostbridge bpc = 1 ∧ checkBpcCountisabridge bpc = 1 ∧
      checkBpcHostbridgeslot bpc = 0 ∧
      checkBpcIsabridgebus bpc = 0 ∧ checkBpcPciidconflict bpc = 0 := by
  have hisa : isabridge.slotType = .isabridge ∧ isabridge.bus = 0 := ⟨rfl, rfl⟩
  have hhost : (hostbridgeOf hostbridge).slotType = .hostbridge ∧
      (hostbridgeOf hostbridge).bus = 0 ∧
      (hostbridgeOf hostbridge).pcislot = 0 ∧ (hostbridgeOf hostbridge).function = 0 :=
        ⟨rfl, rfl, rfl, rfl⟩
  rw [checkBpcPciidconflict_eq_zero]
  unfold checkBpcCounthostbridge checkBpcCountisabridge checkBpcHostbridgeslot checkBpcIsabridgebus
  rw [hslots]
  refine ⟨?_, ?_, ?_, ?_, ?_⟩
  · simp [hisa, hhost]
  · simp [hisa, hhost]
  · simp [hisa, hhost]
  · simp [hisa, hhost]
  · simp [BhyveParametersPcislot.pciid, isabridge, hostbridgeOf, bppNewHostbridge, bppNewPcislot]

theorem coreOf_accepted {bootrom hostbridge : CString} (hname : bc.name.val ≠ [])
    (hbootrom : bc.bootrom = some bootrom) (hne : bootrom.val ≠ [])
    (hhostbridge : bc.hostbridge = some hostbridge)
    (hconsoles : bc.consoles ≠ []) : checkParametersOk (some (coreOf bc)) = some none := by
  obtain ⟨hhosts, hisas, hplace, hbus, hpciid⟩ := @slots_accepted (coreOf bc) hostbridge
    (slotsOf_of_hostbridge hhostbridge hconsoles)
  have hrom := checkBpcBootrom_coreOf hbootrom hne
  rw [checkParametersOk_eq_ok]
  refine ⟨checkBpcName_coreOf hname, ?_, ?_, hplace, ?_, ?_, ?_, hrom, hbus, hpciid⟩
  · rw [checkBpcHostbridge, hhosts]
    rfl
  · rw [checkBpcSinglehostbridge, hhosts]
    rfl
  · rw [checkBpcSingleisabridge, hisas]
    rfl
  · rw [checkBpcComwithisa, hisas]
    exact ite_self 0
  · rw [checkBpcBootromwithisa, hrom, hisas]
    rfl

theorem coreOf_refused {bootrom : CString} (hbootrom : bc.bootrom = some bootrom)
    (hne : bootrom.val ≠ [])
    (hconsoles : bc.consoles = []) : checkParametersOk (some (coreOf bc)) ≠ some none := by
  have hrom := checkBpcBootrom_coreOf hbootrom hne
  have hisas : checkBpcCountisabridge (coreOf bc) = 0 := by
    have hslots : (coreOf bc).pcislots = (bc.hostbridge.map hostbridgeOf).toList := by
      rw [coreOf, slotsOf, if_pos hconsoles]
      rfl
    rw [checkBpcCountisabridge, hslots]
    cases bc.hostbridge <;> rfl
  intro hok
  obtain ⟨-, -, -, -, -, -, hwithisa, -⟩ := checkParametersOk_eq_ok.mp hok
  rw [checkBpcBootromwithisa, hrom, hisas] at hwithisa
  exact absurd hwithisa (by decide)

theorem translation_accepted_iff {bootrom : CString} (hname : bc.name.val ≠ [])
    (hhostbridge : bc.hostbridge ≠ none)
    (hbootrom : bc.bootrom = some bootrom) (hne : bootrom.val ≠ []) :
    TranslationAccepted bc ↔ bc.consoles ≠ [] ∧ Named bc := by
  obtain ⟨hostbridge, hhostbridge⟩ := Option.ne_none_iff_exists'.mp hhostbridge
  constructor
  · rintro ⟨bpc, htranslate, hok⟩
    have hnamed : Named bc := by
      by_contra hnamed
      rw [ptcTranslate_of_not_named hnamed] at htranslate
      exact absurd htranslate (by simp)
    rw [ptcTranslate_of_named hnamed, Option.some_inj, Prod.mk.injEq] at htranslate
    refine ⟨fun hconsoles => coreOf_refused hbootrom hne hconsoles ?_, hnamed⟩
    rw [htranslate.2]
    exact hok
  · rintro ⟨hconsoles, hnamed⟩
    exact ⟨coreOf bc, ptcTranslate_of_named hnamed,
      coreOf_accepted hname hbootrom hne hhostbridge hconsoles⟩

end

def smallVm (consoles : List BhyveConfigurationConsole) : BhyveConfiguration :=
  ⟨literal "vm", literal "base", some (literal "rom"), 512,
    1, 0, 0, true, false, true, some (literal "amd"), consoles⟩

theorem translation_accepted_oneConsole :
    TranslationAccepted (smallVm [⟨some (literal "com"), true, none⟩]) :=
  (translation_accepted_iff (by decide) (by decide) rfl (by decide)).mpr
    ⟨by decide, by unfold Named; decide⟩

theorem not_translation_accepted :
    ¬∀ (bc : BhyveConfiguration) (bootrom : CString), bc.name.val ≠ [] →
    bc.name.val.length < 255 → bc.hostbridge ≠ none → bc.bootrom = some bootrom → bootrom.val ≠ [] →
    TranslationAccepted bc := by
  intro hall
  have haccepted :=
    hall (smallVm []) (literal "rom") (by decide) (by decide) (by decide) rfl (by decide)
  exact ((translation_accepted_iff (by decide) (by decide) rfl (by decide)).mp haccepted).1 rfl

/-! Parameters from the constructors and setters. -/

inductive BuiltSlot : BhyveParametersPcislot → Prop where
  | hostbridge (hostbridgeType : HostbridgeType) : BuiltSlot (bppNewHostbridge hostbridgeType)
  | isabridge : BuiltSlot bppNewIsabridge
  | xhci (tablet : Bool) : BuiltSlot (bppNewXhci tablet)
  | block : BuiltSlot bppNewBlock

/-- Every slot is added once. -/
inductive Built : BhyveParametersCore → Prop where
  | new (vmname : CString) : Built (bpcNew vmname)
  | bootrom {bpc} (rom : Option CString) (withVars : Bool)
      (varsfile : Option CString) (h : Built bpc) :
    Built (bpcSetBootrom bpc rom withVars varsfile).2
  | comport {bpc} (portname : CString) (comport : UInt8) (enabled : Bool) (h : Built bpc) :
    Built (bpcEnableComport bpc portname comport enabled).2
  | backend {bpc} (comport : UInt8) (backend : CString) (h : Built bpc) :
    Built (bpcSetComportBackend bpc comport backend).2
  | cpulayout {bpc} (numcpus sockets cores : UInt16) (h : Built bpc) : Built
      (bpcSetCpulayout bpc numcpus sockets cores)
  | numcpus {bpc} (numcpus : UInt16) (h : Built bpc) : Built (bpcSetNumcpus bpc numcpus)
  | sockets {bpc} (sockets : UInt16) (h : Built bpc) : Built (bpcSetSockets bpc sockets)
  | cores {bpc} (cores : UInt16) (h : Built bpc) : Built (bpcSetCores bpc cores)
  | memory {bpc} (memory : UInt32) (h : Built bpc) : Built (bpcSetMemory bpc memory)
  | yieldonhlt {bpc} (yieldOnHlt : Bool) (h : Built bpc) : Built (bpcSetYieldonhlt bpc yieldOnHlt)
  | generateacpi {bpc} (generateAcpiTables : Bool) (h : Built bpc) : Built
      (bpcSetGenerateacpi bpc generateAcpiTables)
  | wired {bpc} (wireMemory : Bool) (h : Built bpc) : Built (bpcSetWired bpc wireMemory)
  | pcislot {bpc bpp} (bus pcislot function : UInt8) (hslot : BuiltSlot bpp) (h : Built bpc) :
    Built (bpcAddpcislotAt bpc bus pcislot function bpp)

theorem BuiltSlot.supported_iff {bpp : BhyveParametersPcislot} (hslot : BuiltSlot bpp) :
    Supported bpp ↔ bpp.slotType ≠ .control ∧ bpp.slotType ≠ .block := by
  cases hslot with
  | hostbridge hostbridgeType => simp [Supported, bppNewHostbridge, bppNewPcislot]
  | isabridge => simp [Supported, bppNewIsabridge, bppNewPcislot]
  | xhci tablet => simp [Supported, bppNewXhci, bppNewPcislot]
  | block => simp [Supported, bppNewBlock, bppNewPcislot]

theorem Built.supported_iff {bpc : BhyveParametersCore} (hbuilt : Built bpc) :
    ∀ bpp ∈ bpc.pcislots, Supported bpp ↔ bpp.slotType ≠ .control ∧ bpp.slotType ≠ .block := by
  induction hbuilt with
  | new vmname => exact fun _ hbpp => absurd hbpp List.not_mem_nil
  | bootrom rom withVars varsfile _ ih => rwa [bpcSetBootrom_pcislots]
  | comport portname comport enabled _ ih => rwa [bpcEnableComport_pcislots]
  | backend comport backend _ ih => rwa [bpcSetComportBackend_pcislots]
  | pcislot bus pcislot function hslot _ ih =>
    rw [bpcAddpcislotAt, List.forall_mem_cons]
    exact ⟨hslot.supported_iff, ih⟩
  | _ => assumption

/-- The rules leave types in that cannot be written out. -/
theorem accepted_written_iff {bpc : BhyveParametersCore}
    (hbuilt : Built bpc) (configfile : CString) :
    (checkParametersOk (some bpc) = some none → obcNew configfile bpc ≠ none) ↔
      (checkParametersOk (some bpc) = some none →
        ∀ bpp ∈ bpc.pcislots, bpp.slotType ≠ .control ∧ bpp.slotType ≠ .block) := by
  apply imp_congr_right
  intro _
  rw [obcNew_ne_none]
  exact forall₂_congr hbuilt.supported_iff

def bridged : BhyveParametersCore :=
  bpcAddpcislotAt (bpcAddpcislotAt
    (bpcSetBootrom (bpcNew (literal "bhyvevm")) (some (literal "rom")) false none).2
    0 0 0 (bppNewHostbridge .hostbridge)) 0 1 0 bppNewIsabridge

theorem bridged_built : Built bridged :=
  .pcislot 0 1 0 .isabridge (.pcislot 0 0 0 (.hostbridge _) (.bootrom _ _ _ (.new _)))

theorem accepted_written_bridged : obcNew (literal "vm.conf") bridged ≠ none :=
  (accepted_written_iff bridged_built (literal "vm.conf")).mpr (fun _ => by decide)
    (checkParametersOk_eq_ok.mpr
      ⟨by decide, by decide, by decide, by decide, by decide, by decide, by decide,
      by decide, by decide, checkBpcPciidconflict_eq_zero.mpr (by decide)⟩)

theorem not_accepted_written : ¬∀ (bpc : BhyveParametersCore) (configfile : CString), Built bpc →
    checkParametersOk (some bpc) = some none → obcNew configfile bpc ≠ none := by
  intro hall
  have hbuilt : Built (bpcAddpcislotAt bridged 0 2 0 bppNewBlock) :=
    .pcislot 0 2 0 .block bridged_built
  have haccepted : checkParametersOk (some (bpcAddpcislotAt bridged 0 2 0 bppNewBlock)) =
      some none :=
    checkParametersOk_eq_ok.mpr
      ⟨by decide, by decide, by decide, by decide, by decide, by decide, by decide,
      by decide, by decide, checkBpcPciidconflict_eq_zero.mpr (by decide)⟩
  have hwritten := obcNew_ne_none.mp (hall _ (literal "vm.conf") hbuilt haccepted)
  rcases hwritten _ List.mem_cons_self with hisa | hhost
  · exact absurd hisa (by decide)
  · exact absurd hhost (by decide)

end Vmstated.Properties
