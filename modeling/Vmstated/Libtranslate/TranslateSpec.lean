import Vmstated.Libtranslate.ParamTranslateCore

/-! The parameters that a translation makes. -/
namespace Vmstated.Libtranslate
open Library Libconfig

def bootromOf : Option CString → BhyveParametersBootrom
  | none => ⟨.zeroed pathMax, false, .zeroed pathMax⟩
  | some bootrom => ⟨strncpy pathMax bootrom, false, .zeroed pathMax⟩

def hostbridgeOf (hostbridge : CString) : BhyveParametersPcislot :=
  bppNewHostbridge (if sameCaseless hostbridge.val (ascii "amd") then .hostbridgeAmd
    else .hostbridge)

def isabridge : BhyveParametersPcislot := { bppNewIsabridge with pcislot := 1 }

/-- An empty backend is as good as none. -/
def comportOf : Option BhyveConfigurationConsole → BhyveParametersComport
  | none => ⟨.zeroed bpcNameMax, false, .zeroed pathMax⟩
  | some bcc =>
    ⟨(bcc.name.map (strncpy bpcNameMax)).getD (.zeroed bpcNameMax), true,
      (bcc.backend.map (strncpy pathMax)).getD (.zeroed pathMax)⟩

def slotsOf (bc : BhyveConfiguration) : List BhyveParametersPcislot :=
  (if bc.consoles = [] then [] else [isabridge]) ++ (bc.hostbridge.map hostbridgeOf).toList

def coreOf (bc : BhyveConfiguration) : BhyveParametersCore where
  generateAcpiTables := bc.generateAcpiTables
  memory := bc.memory
  numcpus := bc.numcpus
  sockets := bc.sockets
  cores := bc.cores
  yieldOnHlt := bc.vmexitOnHalt
  wireMemory := bc.wireMemory
  vmname := strncpy bpcNameMax bc.name
  comport i := comportOf bc.consoles[i.val]?
  bootrom := bootromOf bc.bootrom
  pcislots := slotsOf bc

def Named (bc : BhyveConfiguration) : Prop := ∀ bcc ∈ bc.consoles.take 4, bcc.name ≠ none

theorem translateConsole_of_name {bpc : BhyveParametersCore} {i : Nat} (hi : i < 4)
    {bcc : BhyveConfigurationConsole} (hname : bcc.name ≠ none)
    (hport : (bpc.comport ⟨i, hi⟩).backend = .zeroed pathMax) : translateConsole bpc i bcc =
      some (0,
        { bpc with comport := Function.update bpc.comport ⟨i, hi⟩ (comportOf (some bcc)) }) := by
  obtain ⟨portname, hportname⟩ := Option.ne_none_iff_exists'.mp hname
  have hnat : (UInt8.ofNat i).toNat = i := by
    rw [UInt8.toNat_ofNat']
    omega
  have hfin (h : (UInt8.ofNat i).toNat < 4) : (⟨(UInt8.ofNat i).toNat, h⟩ : Fin 4) = ⟨i, hi⟩ :=
    Fin.ext hnat
  have hlt : (UInt8.ofNat i).toNat < 4 := by rw [hnat]; exact hi
  unfold translateConsole bpcEnableComport bpcSetComportBackend comportOf
  rw [hportname]
  simp only [hlt, dif_pos, hfin]
  cases hbackend : bcc.backend with
  | none => simp [hport, hportname]
  | some backend =>
    by_cases hempty : backend.val = []
    · have hzero : strncpy pathMax backend = .zeroed pathMax := by
        rw [← strncpy_nil pathMax List.not_mem_nil]
        congr 1
        exact Subtype.ext hempty
      simp [hempty, hport, hzero, hportname]
    · simp [hempty, hportname]

section
variable {bccl : List BhyveConfigurationConsole} {count i : Nat} {bpc : BhyveParametersCore}

theorem bcclGetConsolebyidx_of_lt (hi : i < 4) : bcclGetConsolebyidx bccl i = bccl[i]? :=
  if_neg (Nat.not_lt.mpr (Nat.le_of_lt hi))

theorem translateConsoles_of_named (hcount : i + count = 4)
    (hports : ∀ j : Fin 4, i ≤ j → bpc.comport j = comportOf none)
    (hnamed : ∀ j, i ≤ j → j < 4 → ∀ bcc ∈ bccl[j]?, bcc.name ≠ none) :
    translateConsoles bccl (List.range' i count) bpc =
      some (0, { bpc with comport := fun j => if j < i then bpc.comport j else comportOf bccl[j.val]? }) := by
  induction count generalizing i bpc with
  | zero =>
    have hall : (fun j : Fin 4 => if j < i then bpc.comport j else comportOf bccl[j.val]?) =
        bpc.comport := by
      funext j
      exact if_pos (by omega)
    rw [List.range'_zero, translateConsoles, hall]
  | succ count ih =>
    have hi : i < 4 := by omega
    have hlater (comport : Fin 4 → BhyveParametersComport) (hrest : ∀ j : Fin 4, j ≠ ⟨i, hi⟩ →
        comport j = bpc.comport j) (hown : comport ⟨i, hi⟩ = comportOf bccl[i]?) :
        translateConsoles bccl (List.range' (i + 1) count) { bpc with comport } =
          some (0, { bpc with
          comport := fun j => if j < i then bpc.comport j else comportOf bccl[j.val]? }) := by
      rw [@ih (i + 1) { bpc with comport } (by omega)]
      · congr 3
        funext j
        rcases Nat.lt_trichotomy j i with hlt | heq | hgt
        · rw [if_pos (by omega), if_pos hlt]
          exact hrest j fun h => absurd (congrArg Fin.val h) (Nat.ne_of_lt hlt)
        · obtain rfl : j = ⟨i, hi⟩ := Fin.ext heq
          rw [if_pos (Nat.lt_succ_self i), if_neg (Nat.lt_irrefl i)]
          exact hown
        · rw [if_neg (by omega), if_neg (by omega)]
      · intro j hj
        rw [← hports j (by omega)]
        exact hrest j fun h => absurd (congrArg Fin.val h) (Nat.ne_of_gt hj)
      · intro j hj
        exact hnamed j (by omega)
    rw [List.range'_succ, translateConsoles, bcclGetConsolebyidx_of_lt hi]
    cases hbcc : bccl[i]? with
    | none =>
      rw [hbcc] at hlater
      exact hlater bpc.comport (fun _ _ => rfl) (hports ⟨i, hi⟩ (Nat.le_refl i))
    | some bcc =>
      rw [hbcc] at hlater
      dsimp only
      rw [translateConsole_of_name hi (hnamed i (Nat.le_refl i) hi bcc hbcc)
        (congrArg BhyveParametersComport.backend (hports ⟨i, hi⟩ (Nat.le_refl i)))]
      exact hlater _ (fun j hj => Function.update_of_ne hj _ _) (Function.update_self _ _ _)

theorem translateConsoles_of_unnamed {bcc : BhyveConfigurationConsole}
    {j : Nat} (hbcc : bccl[j]? = some bcc)
    (hname : bcc.name = none) (hij : i ≤ j) (hj : j < i + count) (hcount : i + count = 4)
    (hports : ∀ j : Fin 4, i ≤ j → bpc.comport j = comportOf none) :
    translateConsoles bccl (List.range' i count) bpc = none := by
  induction count generalizing i bpc with
  | zero => omega
  | succ count ih =>
    have hi : i < 4 := by omega
    rw [List.range'_succ, translateConsoles, bcclGetConsolebyidx_of_lt hi]
    cases hfirst : bccl[i]? with
    | none =>
      have hne : i ≠ j := by
        rintro rfl
        exact absurd (hfirst.symm.trans hbcc) (by simp)
      exact ih (by omega) (by omega) (by omega) fun j hj => hports j (by omega)
    | some first =>
      dsimp only
      by_cases hown : first.name = none
      · rw [translateConsole, hown]
      · have hne : i ≠ j := by
          rintro rfl
          rw [hfirst, Option.some_inj] at hbcc
          exact hown (hbcc ▸ hname)
        rw [translateConsole_of_name hi hown
          (congrArg BhyveParametersComport.backend (hports ⟨i, hi⟩ (Nat.le_refl i)))]
        apply ih (by omega) (by omega) (by omega)
        intro k hk
        have hki : k ≠ ⟨i, hi⟩ := fun h => absurd (congrArg Fin.val h) (Nat.ne_of_gt hk)
        rw [← hports k (by omega)]
        exact Function.update_of_ne hki _ _

end

section
variable {bc : BhyveConfiguration}

theorem mem_take_four {bcc : BhyveConfigurationConsole} :
    bcc ∈ bc.consoles.take 4 ↔ ∃ j < 4, bc.consoles[j]? = some bcc := by
  rw [List.mem_iff_getElem?]
  simp only [List.getElem?_take]
  constructor
  · rintro ⟨j, hj⟩
    split at hj
    · exact ⟨j, ‹_›, hj⟩
    · exact absurd hj (by simp)
  · rintro ⟨j, hlt, hj⟩
    exact ⟨j, by rw [if_pos hlt]; exact hj⟩

theorem translateBootrom_new : translateBootrom bc (bpcNew bc.name) =
    { bpcNew bc.name with bootrom := bootromOf bc.bootrom } := by
  unfold translateBootrom
  cases bc.bootrom <;> rfl

theorem transfer {α : Type} [Zero α] [DecidableEq α] (value : α) {set : α → BhyveParametersCore}
    {bpc : BhyveParametersCore} (hzero : set 0 = bpc) :
    (if value ≠ 0 then set value else bpc) = set value := by
  by_cases hvalue : value = 0
  · rw [if_neg (not_not.mpr hvalue), hvalue, hzero]
  · exact if_pos hvalue

theorem translateNumbers_new : translateNumbers bc (translateBootrom bc (bpcNew bc.name)) =
    { coreOf bc with comport := fun _ => comportOf none, pcislots := [] } := by
  rw [translateBootrom_new, translateNumbers, transfer bc.memory,
    transfer bc.numcpus, transfer bc.sockets, transfer bc.cores] <;> rfl

def withoutPorts (bc : BhyveConfiguration) : BhyveParametersCore :=
  { coreOf bc with comport := fun _ => comportOf none, pcislots := (bc.hostbridge.map hostbridgeOf).toList }

theorem translateHostbridge_new :
    translateHostbridge bc (translateNumbers bc (translateBootrom bc (bpcNew bc.name))) =
      withoutPorts bc := by
  rw [translateNumbers_new, translateHostbridge]
  unfold withoutPorts
  cases bc.hostbridge <;> rfl

theorem ptcTranslate_of_named (hnamed : Named bc) : ptcTranslate bc = some (0, coreOf bc) := by
  unfold ptcTranslate
  rw [translateHostbridge_new]
  by_cases hconsoles : bc.consoles = []
  · have hslots : slotsOf bc = (withoutPorts bc).pcislots := by rw [slotsOf, if_pos hconsoles]; rfl
    have hports : (coreOf bc).comport = (withoutPorts bc).comport := by
      funext i
      rw [coreOf, hconsoles]
      rfl
    have hcore : coreOf bc = { withoutPorts bc with
      comport := (coreOf bc).comport, pcislots := slotsOf bc } := rfl
    rw [if_neg (by simp [hconsoles]), hcore, hslots, hports]
  · have hslots : slotsOf bc = isabridge :: (withoutPorts bc).pcislots := by
      rw [slotsOf, if_neg hconsoles]; rfl
    have hloop := @translateConsoles_of_named bc.consoles 4 0 (withoutPorts bc) rfl (fun _ _ => rfl)
      fun j _ hj bcc hbcc => hnamed bcc (mem_take_four.mpr ⟨j, hj, hbcc⟩)
    rw [if_pos (by simpa using hconsoles), List.range_eq_range', hloop, coreOf, hslots]
    rfl

theorem ptcTranslate_of_not_named (hnamed : ¬Named bc) : ptcTranslate bc = none := by
  obtain ⟨bcc, hbcc, hname⟩ : ∃ bcc ∈ bc.consoles.take 4, bcc.name = none := by
    simpa [Named] using hnamed
  obtain ⟨j, hj, hget⟩ := mem_take_four.mp hbcc
  have hconsoles : bc.consoles.length ≠ 0 :=
    Nat.ne_of_gt (Nat.zero_lt_of_lt (List.getElem?_eq_some_iff.mp hget).1)
  unfold ptcTranslate
  rw [translateHostbridge_new, if_pos hconsoles, List.range_eq_range',
    translateConsoles_of_unnamed hget hname (Nat.zero_le j) (by omega) rfl fun _ _ => rfl]

end

end Vmstated.Libtranslate
