import Vmstated.Libprocwatch.CommandHandler
import Vmstated.Libprocwatch.Fleet
import Vmstated.Properties.Status

/-! What a client can do with the items of a command. -/
namespace Vmstated.Properties
open Library Libcommand Libprocwatch Libsocket

/-- The commands that the handler knows. -/
def knownCommands : List (List UInt8) :=
  [ascii "startvm", ascii "stopvm", ascii "status", ascii "resetfail"]

def vmCommands : List (List UInt8) := [ascii "startvm", ascii "stopvm", ascii "resetfail"]

section
variable {nv : Libnv} {answers : CommandAnswers} {handling : Handling} {vmname : Pointer}

theorem onCommand_string (text name : List UInt8) (execute : Handling → Option Handling) :
    handling.onCommand (.string text) name execute = if text = name then execute handling
      else some handling := by
  unfold Handling.onCommand strcmp
  rw [Option.bind_eq_bind, Option.bind_some]
  by_cases hsame : text = name
  · rw [if_pos hsame, if_neg (by simp [hsame])]
  · rw [if_neg hsame, if_pos (by simp [hsame])]
    rfl

theorem execute_string {bcmd : CStruct} {text : List UInt8}
    (hcmd : bcmd.pointers 0 = .string text) :
    Handling.execute nv answers handling bcmd =
      if text = ascii "startvm" then Handling.startvm answers (bcmd.pointers 8) handling
      else if text = ascii "stopvm" then Handling.stopvm answers (bcmd.pointers 8) handling
      else if text = ascii "status" then Handling.replyInfo nv handling
      else if text = ascii "resetfail" then Handling.resetfailvm answers (bcmd.pointers 8) handling
      else some handling := by
  have hskip {name : List UInt8} (hother : text ≠ name) (execute : Handling → Option Handling)
      (later : Handling) : later.onCommand (.string text) name execute = some later := by
    rw [onCommand_string, if_neg hother]
  simp only [Handling.execute, Option.bind_eq_bind, hcmd]
  rw [onCommand_string]
  by_cases hstart : text = ascii "startvm"
  · simp only [if_pos hstart, hskip (show text ≠ ascii "stopvm" by rw [hstart]; decide),
      hskip (show text ≠ ascii "status" by rw [hstart]; decide),
      hskip (show text ≠ ascii "resetfail" by rw [hstart]; decide), Option.bind_fun_some]
  rw [if_neg hstart, if_neg hstart, Option.bind_some, onCommand_string]
  by_cases hstop : text = ascii "stopvm"
  · simp only [if_pos hstop, hskip (show text ≠ ascii "status" by rw [hstop]; decide),
      hskip (show text ≠ ascii "resetfail" by rw [hstop]; decide), Option.bind_fun_some]
  rw [if_neg hstop, if_neg hstop, Option.bind_some, onCommand_string]
  by_cases hstatus : text = ascii "status"
  · simp only [if_pos hstatus, hskip (show text ≠ ascii "resetfail" by rw [hstatus]; decide),
      Option.bind_fun_some]
  rw [if_neg hstatus, if_neg hstatus, Option.bind_some, onCommand_string]

theorem onNamed_some (unknown : Int) (call : StateM BhyveWatchedVm Int) (hname : vmname ≠ .wild) :
    ∃ after, Handling.onNamed answers vmname handling unknown call = some after ∧
      (vmname = .null → after.bd = handling.bd ∧ after.result = -1) := by
  unfold Handling.onNamed
  cases vmname with
  | null => exact ⟨_, rfl, fun _ => ⟨rfl, rfl⟩⟩
  | wild => exact absurd rfl hname
  | string name =>
    dsimp only
    cases hplace : bdGetvmbyname handling.bd name with
    | none => exact ⟨_, rfl, fun h => Pointer.noConfusion h⟩
    | some index =>
      obtain ⟨hlt, _⟩ := List.findIdx?_eq_some_iff_getElem.mp hplace
      dsimp only
      rw [List.getElem?_eq_getElem hlt]
      exact ⟨_, rfl, fun h => Pointer.noConfusion h⟩

theorem replyInfo_some (nv : Libnv) (handling : Handling) :
    ∃ after, Handling.replyInfo nv handling = some after ∧ after.bd = handling.bd := by
  unfold Handling.replyInfo
  by_cases hnil : handling.bd.statelist = []
  · rw [bdReplyInfo_nil nv handling.errno handling.bd handling.src hnil]
    exact ⟨_, rfl, rfl⟩
  · obtain ⟨buffer, hreply, _⟩ := bdReplyInfo_of_ne nv handling.errno handling.bd handling.src hnil
    rw [hreply]
    exact ⟨_, rfl, rfl⟩

theorem execute_some {bcmd : CStruct} {text : List UInt8} (hcmd : bcmd.pointers 0 = .string text)
    (hname : bcmd.pointers 8 ≠ .wild) :
    ∃ after, Handling.execute nv answers handling bcmd = some after ∧
      (text ∉ knownCommands → after.bd = handling.bd) ∧
      (bcmd.pointers 8 = .null → after.bd = handling.bd ∧
        (text ∈ vmCommands → after.result = -1)) := by
  have hnamed (unknown : Int) (call : StateM BhyveWatchedVm Int) (hknown : text ∈ knownCommands) :
      ∃ after, Handling.onNamed answers (bcmd.pointers 8) handling unknown call = some after ∧
        (text ∉ knownCommands → after.bd = handling.bd) ∧
        (bcmd.pointers 8 = .null → after.bd = handling.bd ∧
          (text ∈ vmCommands → after.result = -1)) := by
    obtain ⟨after, hafter, hnull⟩ := @onNamed_some answers handling _ unknown call hname
    exact ⟨after, hafter, fun h => absurd hknown h, fun h => ⟨(hnull h).1, fun _ => (hnull h).2⟩⟩
  rw [execute_string hcmd]
  split
  case isTrue hstart => exact hnamed _ _ (by rw [hstart]; decide)
  split
  case isTrue hstop => exact hnamed _ _ (by rw [hstop]; decide)
  split
  case isTrue hstatus =>
    obtain ⟨after, hafter, hbd⟩ := replyInfo_some nv handling
    refine ⟨after, hafter, fun _ => hbd, fun _ => ⟨hbd, fun hvm => ?_⟩⟩
    rw [hstatus] at hvm
    exact absurd hvm (by decide)
  split
  case isTrue hreset => exact hnamed _ _ (by rw [hreset]; decide)
  refine ⟨handling, rfl, fun _ => rfl, fun _ => ⟨rfl, fun hvm => ?_⟩⟩
  simp only [vmCommands, List.mem_cons, List.not_mem_nil, or_false] at hvm
  rcases hvm with hvm | hvm | hvm <;> contradiction

end

section
variable (nv : Libnv) (answers : CommandAnswers) (data : List UInt8) (bd : ConfiguredDirector)
  (src : SocketReplyCollector)

/-- The handler makes a result code of the items, and touches no machine
without a command for it or without a name. -/
def HandledSafely (nvl : nv.Nvlist) : Prop :=
  ∃ result after reply, bdRecvOndata nv answers bhyv data bd src = some (result, after, reply) ∧
    ((∀ text ∈ knownCommands, nv.get nvl (ascii "cmd") ≠ some (.string text)) →
      after.statelist = bd.statelist) ∧
    ((∀ text, nv.get nvl (ascii "vmname") ≠ some (.string text)) → after.statelist = bd.statelist ∧
      ∀ text ∈ vmCommands, nv.get nvl (ascii "cmd") = some (.string text) → result = -1)

theorem bdRecvOndata_unpacked {nvl : nv.Nvlist} (hunpack : nv.unpack data = some nvl) :
    ∃ bcmd, bcmd.pointers 0 = stringPointer (nv.get nvl (ascii "cmd")) ∧
      bcmd.pointers 8 = stringPointer (nv.get nvl (ascii "vmname")) ∧
      bdRecvOndata nv answers bhyv data bd src =
        (Handling.execute nv answers
          ⟨0, answers.errno, { bd with msgcount := bd.msgcount + 1 }, src⟩ bcmd).map
          fun handling => (handling.result, handling.bd,
            if handling.result = bdErrUnknownvmname ∧ handling.errno = errnoEnoent then
              (srcShortReply (ascii "unknown vm") handling.src).2
            else handling.src) := by
  obtain ⟨bcmd, hparse, hcmd, hvmname⟩ := bcmdParseNvlistcmd_zeroed hunpack
  refine ⟨bcmd, hcmd, hvmname, ?_⟩
  unfold bdRecvOndata
  dsimp only
  rw [if_neg (not_not_intro rfl), hparse, Option.bind_eq_bind, Option.bind_some]
  dsimp only
  rw [if_neg (not_not_intro rfl), Option.map_eq_bind]
  rfl

/-- The items are handled safely where there is a string for `cmd`. -/
theorem command_handled_iff {nvl : nv.Nvlist} (hunpack : nv.unpack data = some nvl) :
    HandledSafely nv answers data bd src nvl ↔
      ∃ text, nv.get nvl (ascii "cmd") = some (.string text) := by
  obtain ⟨bcmd, hcmd, hvmname, hrecv⟩ := bdRecvOndata_unpacked nv answers data bd src hunpack
  constructor
  · rintro ⟨result, after, reply, hresult, _⟩
    by_contra hmissing
    have hnull : bcmd.pointers 0 = .null := by
      rw [hcmd, stringPointer_eq_null]
      exact not_exists.mp hmissing
    -- the first `strcmp` has no string
    rw [hrecv, Handling.execute, hnull] at hresult
    cases hresult
  · rintro ⟨text, htext⟩
    have hstring : bcmd.pointers 0 = .string text := by
      rw [hcmd, stringPointer_eq_string, htext]
    have hsame {other : List UInt8} (hother : nv.get nvl (ascii "cmd") = some (.string other)) :
        other = text := by
      rw [htext] at hother
      cases hother
      rfl
    have hname : bcmd.pointers 8 ≠ .wild := by
      rw [hvmname]
      exact stringPointer_ne_wild _
    obtain ⟨after, hexecute, hunknown, hnull⟩ := @execute_some nv answers
      ⟨0, answers.errno, { bd with msgcount := bd.msgcount + 1 }, src⟩ bcmd text hstring hname
    rw [hexecute, Option.map_some] at hrecv
    refine ⟨_, _, _, hrecv, fun hother => ?_, fun hmissing => ?_⟩
    · rw [hunknown fun hknown => hother text hknown htext]
    · obtain ⟨hbd, hresult⟩ := hnull (by rw [hvmname, stringPointer_eq_null]; exact hmissing)
      refine ⟨by rw [hbd], fun other hvm hother => hresult ?_⟩
      rw [← hsame hother]
      exact hvm

end

def easyAnswers : CommandAnswers :=
  ⟨fun _ _ => .absent, untroubledStart 100, ⟨true, true, none⟩, 0⟩

def statusItems : nvpacked.Nvlist :=
  nvpacked.add nvpacked.create (ascii "cmd") (.string (ascii "status"))

theorem command_handled_status : nvpacked.unpack (nvpacked.pack statusItems) = some statusItems ∧
    HandledSafely nvpacked easyAnswers (nvpacked.pack statusItems) oneVm srcNew statusItems := by
  have hunpack := nvpacked.unpack_pack statusItems
  exact ⟨hunpack, (command_handled_iff nvpacked easyAnswers _ oneVm srcNew hunpack).mpr
    ⟨ascii "status", rfl⟩⟩

def namedItems : nvpacked.Nvlist :=
  nvpacked.add nvpacked.create (ascii "vmname") (.string (ascii "a"))

/-- The first comparison is made with `NULL`. -/
theorem command_not_handled : nvpacked.unpack (nvpacked.pack namedItems) = some namedItems ∧
    ¬HandledSafely nvpacked easyAnswers (nvpacked.pack namedItems) oneVm srcNew namedItems := by
  have hunpack := nvpacked.unpack_pack namedItems
  refine ⟨hunpack, ?_⟩
  rintro ⟨result, after, reply, hresult, _⟩
  obtain ⟨bcmd, hcmd, _, hrecv⟩ :=
    bdRecvOndata_unpacked nvpacked easyAnswers (nvpacked.pack namedItems) oneVm srcNew hunpack
  have hnull : bcmd.pointers 0 = .null := hcmd
  rw [hrecv, Handling.execute, hnull] at hresult
  cases hresult

end Vmstated.Properties
