import Vmstated.Libprocwatch.ResultCodes
import Vmstated.Libprocwatch.Subscriber
import Vmstated.Properties.CommandHandling
import Vmstated.Properties.DataReply
import Vmstated.Vmstatedctl.Commands

/-! A command line, from the client to the director and back. -/
namespace Vmstated.Properties
open Library Libcommand Libprocwatch Libsocket Vmstatedctl

/-- A command for one machine, what the director calls it, what it answers
where there is no machine, and what it does to the machine. -/
structure NamedCommand where
  command : List UInt8
  cmd : List UInt8
  unknown : Int
  call : StateM BhyveWatchedVm Int

def namedCommands (answers : CommandAnswers) : List NamedCommand :=
  [⟨ascii "start", ascii "startvm", bdErrUnknownvmname, bdStartvm answers.start⟩,
   ⟨ascii "stop", ascii "stopvm", -1, bdStopvm answers.stop⟩,
   ⟨ascii "failreset", ascii "resetfail", -1, bdResetfailvm⟩]

def resultLine (result : Int) : List UInt8 :=
  paddedDecimal 4 result ++ ascii ": " ++ (if result = 0 then ascii "OK" else ascii "NOK")

def unknownLine (entry : NamedCommand) : List UInt8 :=
  if entry.unknown = bdErrUnknownvmname then ascii "0162: unknown vm" else resultLine entry.unknown

section
variable {answers : CommandAnswers} {entry : NamedCommand}

theorem namedCommands_cases (hentry : entry ∈ namedCommands answers) :
    entry = ⟨ascii "start", ascii "startvm", bdErrUnknownvmname, bdStartvm answers.start⟩ ∨
    entry = ⟨ascii "stop", ascii "stopvm", -1, bdStopvm answers.stop⟩ ∨
    entry = ⟨ascii "failreset", ascii "resetfail", -1, bdResetfailvm⟩ := by
  simpa [namedCommands] using hentry

theorem namedCommands_coded (hentry : entry ∈ namedCommands answers) : Coded entry.call := by
  rcases namedCommands_cases hentry with rfl | rfl | rfl
  · exact bdStartvm_coded answers.start
  · exact bdStopvm_coded answers.stop
  · exact bdResetfailvm_coded

theorem findCommands_named (hentry : entry ∈ namedCommands answers) (program name : List UInt8)
    (more : List (List UInt8)) (fresh : List UInt8) :
    findCommands (program :: entry.command :: name :: more).length entry.command commands
        ⟨3, program :: entry.command :: name :: more, 0, ⟨none, none, fresh, []⟩, false⟩ =
      some (.ok ⟨3, name :: more, 0, ⟨some entry.cmd, some name, fresh, []⟩, true⟩) := by
  have hmany : ¬(program :: entry.command :: name :: more).length < 3 := by
    simp only [List.length_cons]
    omega
  generalize (program :: entry.command :: name :: more).length = argc at hmany
  rcases namedCommands_cases hentry with rfl | rfl | rfl
  · simp [findCommands, commands, hmany, cmdStart, cmdNamed, ascii]
  · simp [findCommands, commands, hmany, cmdStop, cmdNamed, ascii]
  · simp [findCommands, commands, hmany, cmdFailreset, cmdNamed, ascii]

theorem handleReply_named (hentry : entry ∈ namedCommands answers)
    (nv : Libnv) (buc : BhyveUsercommand) :
    handleReply entry.command buc (replyHandler nv) = some (cString buc.reply ++ newline, []) := by
  rcases namedCommands_cases hentry with rfl | rfl | rfl
  · simp [handleReply, replyHandler, cmdDefaultReply, ascii]
  · simp [handleReply, replyHandler, cmdDefaultReply, ascii]
  · simp [handleReply, replyHandler, cmdDefaultReply, ascii]

end

/-! What the client sends is what the director looks at. -/

section
variable (nv : Libnv) (answers : CommandAnswers)

/-- The request of the client fits into the buffer of the daemon, and the reply
buffer, which goes along with it, has an end. -/
structure Sendable (usrcmd : BhyveUsercommand) : Prop where
  ends : 0 ∈ usrcmd.reply
  size : usrcmd.reply.length = defaultBuffersize
  arrives : ∀ nvl, bcmdEncodenvlistCommand nv usrcmd = some (0, nvl) → Arrives (nv.pack nvl)

/-- The calls of the client on its socket. -/
structure Smooth (calls : ClientCalls) : Prop where
  writes : Roomy calls.writes
  reads : Roomy calls.reads
  rounds : 4 < calls.rounds

/-- What the director makes of a command with this name. -/
def Executed (cmd : List UInt8) (vmname : Option (List UInt8))
    (bd : ConfiguredDirector) (handling : Handling) : Prop :=
  ∀ bcmd : CStruct, bcmd.pointers 0 = .string cmd → bcmd.pointers 8 = Pointer.ofOption vmname →
    Handling.execute nv answers ⟨0, answers.errno, { bd with msgcount := bd.msgcount + 1 },
      srcNew⟩ bcmd = some handling

def repliesOf (handling : Handling) : SocketReplyCollector :=
  if handling.result = bdErrUnknownvmname ∧ handling.errno = errnoEnoent then
    (srcShortReply (ascii "unknown vm") handling.src).2
  else handling.src

theorem repliesOf_of_ne {result errno : Int} (h : result ≠ bdErrUnknownvmname)
    (bd : ConfiguredDirector)
    (src : SocketReplyCollector) : repliesOf ⟨result, errno, bd, src⟩ = src :=
      if_neg fun both => h both.1

variable {nv} {answers}

theorem stringPointer_itemOf (text : Option (List UInt8)) :
    stringPointer (some (itemOf text)) = Pointer.ofOption text := by
  cases text <;> rfl

/-- One exchange: the director executes the command, and the client receives
what is there to be answered. -/
theorem exchange_eq {usrcmd : BhyveUsercommand} {cmd : List UInt8} (hcmd : usrcmd.cmd = some cmd)
    (hsendable : Sendable nv usrcmd) {calls : ClientCalls} (hwrites : Roomy calls.writes)
    (hrounds : 2 ≤ calls.rounds)
    {incoming outgoing : Counts} (hincoming : Flowing incoming) (houtgoing : Flowing outgoing)
    {bd : ConfiguredDirector} {handling : Handling}
    (hexecuted : Executed nv answers cmd usrcmd.vmname bd handling)
    {received : Received}
    (hreceived : scReceiveDynamic calls.rounds usrcmd.reply
      ⟨answer handling.result (repliesOf handling).stored (repliesOf handling).shortReply,
        calls.reads⟩ = some received) :
    bcsSendcmdRaw nv
      (scSendrecvDynamic calls (vmstated nv answers incoming outgoing) bhyv) usrcmd bd =
      some ((received.retcode, { usrcmd with
        reply := received.retbuffer, blob := received.blobReply.getD usrcmd.blob }),
          handling.bd) := by
  obtain ⟨nvl, hencode, hgetCmd, hgetName, -⟩ := bcmdEncodenvlistCommand_items nv hsendable.ends
  have harrives := hsendable.arrives nvl hencode
  obtain ⟨bcmd, hpointer, hname, hrecv⟩ :=
    bdRecvOndata_unpacked nv answers (nv.pack nvl) bd srcNew (nv.unpack_pack nvl)
  rw [hgetCmd, stringPointer_itemOf, hcmd] at hpointer
  rw [hgetName, stringPointer_itemOf] at hname
  rw [hexecuted bcmd hpointer hname, Option.map_some] at hrecv
  have hserved := vmstated_eq hincoming houtgoing harrives hrecv
  obtain ⟨fewer, hfewer⟩ : ∃ fewer, calls.rounds = fewer + 2 := ⟨calls.rounds - 2, by omega⟩
  obtain ⟨sent, after, hsend⟩ :=
    @scSendDynamic_roomy bhyv (nv.pack nvl) fewer calls.behind calls.writes harrives.fits hwrites
  rw [← hfewer] at hsend
  have hexchange : scSendrecvDynamic calls (vmstated nv answers incoming outgoing) bhyv
      (nv.pack nvl) usrcmd.reply bd = some (received, handling.bd) := by
    unfold scSendrecvDynamic
    rw [hsend, Option.bind_eq_bind, Option.bind_some]
    dsimp only
    rw [if_neg (not_not_intro rfl), hserved, Option.bind_eq_bind, Option.bind_some]
    dsimp only
    rw [repliesOf] at hreceived
    rw [hreceived]
    rfl
  unfold bcsSendcmdRaw
  rw [hencode, Option.bind_eq_bind, Option.bind_some]
  dsimp only
  rw [if_neg (not_not_intro rfl), hexchange]
  rfl

theorem exchange_line {usrcmd : BhyveUsercommand} {cmd : List UInt8} (hcmd : usrcmd.cmd = some cmd)
    (hsendable : Sendable nv usrcmd) {calls : ClientCalls} (hsmooth : Smooth calls)
    {incoming outgoing : Counts} (hincoming : Flowing incoming) (houtgoing : Flowing outgoing)
    {bd : ConfiguredDirector} {handling : Handling}
    (hexecuted : Executed nv answers cmd usrcmd.vmname bd handling)
    {line : List UInt8}
    (hline : answer handling.result (repliesOf handling).stored (repliesOf handling).shortReply =
      line ++ [0])
    (hplain : ∀ byte ∈ line, byte ≠ 0) (hlen : 4 ≤ line.length)
    (hshort : line.length < defaultBuffersize)
    (htag : line.take 4 ≠ ascii "DATA") :
    ∃ after : BhyveUsercommand,
      bcsSendcmdRaw nv
        (scSendrecvDynamic calls (vmstated nv answers incoming outgoing) bhyv) usrcmd bd =
        some ((0, after), handling.bd) ∧ cString after.reply = line := by
  have hsize := hsendable.size
  have hroom : defaultBuffersize ≤ shcMaxtransportdata := by decide
  obtain ⟨counts, hreceived⟩ :=
    @scReceiveDynamic_text line usrcmd.reply calls.reads calls.rounds hsmooth.reads hplain
      hlen htag (by omega) (by omega) hsmooth.rounds
  have hrounds := hsmooth.rounds
  refine ⟨_, exchange_eq hcmd hsendable hsmooth.writes (by omega) hincoming houtgoing hexecuted (by
    rw [hline]
    exact hreceived), ?_⟩
  dsimp only
  rw [overlay, List.take_zero, List.nil_append, List.append_assoc,
    List.singleton_append, cString_append hplain]

end

/-! The lines. -/

theorem resultLine_coded :
    ∀ result ∈ resultCodes, textReply result none = resultLine result ++ [0] ∧
    (∀ byte ∈ resultLine result, byte ≠ 0) ∧ 4 ≤ (resultLine result).length ∧
    (resultLine result).length < defaultBuffersize ∧ (resultLine result).take 4 ≠ ascii "DATA" := by
  decide +kernel

theorem unknownLine_replied {answers : CommandAnswers} {entry : NamedCommand}
    (hentry : entry ∈ namedCommands answers) (bd : ConfiguredDirector) :
    let src := repliesOf ⟨entry.unknown, errnoEnoent, bd, srcNew⟩
    answer entry.unknown src.stored src.shortReply = unknownLine entry ++ [0] ∧
      (∀ byte ∈ unknownLine entry, byte ≠ 0) ∧ 4 ≤ (unknownLine entry).length ∧
      (unknownLine entry).length < defaultBuffersize ∧
        (unknownLine entry).take 4 ≠ ascii "DATA" := by
  have hfailed := resultLine_coded (-1) (by decide)
  rcases namedCommands_cases hentry with rfl | rfl | rfl
  · have hknown : answer bdErrUnknownvmname [] (some (ascii "unknown vm")) =
      ascii "0162: unknown vm" ++ [0] ∧
        (∀ byte ∈ ascii "0162: unknown vm", byte ≠ 0) ∧ 4 ≤ (ascii "0162: unknown vm").length ∧
        (ascii "0162: unknown vm").length < defaultBuffersize ∧
          (ascii "0162: unknown vm").take 4 ≠ ascii "DATA" := by
      decide +kernel
    exact hknown
  · exact hfailed
  · exact hfailed

/-! Commands for one machine. -/

section
variable {nv : Libnv} {answers : CommandAnswers} {entry : NamedCommand}

theorem execute_named (hentry : entry ∈ namedCommands answers) {bcmd : CStruct} {vmname : Pointer}
    (hcmd : bcmd.pointers 0 = .string entry.cmd) (hname : bcmd.pointers 8 = vmname)
    (handling : Handling) :
    Handling.execute nv answers handling bcmd =
      Handling.onNamed answers vmname handling entry.unknown entry.call := by
  rw [execute_string hcmd, hname]
  rcases namedCommands_cases hentry with rfl | rfl | rfl
  · rfl
  · rfl
  · rfl

theorem executed_unknown (hentry : entry ∈ namedCommands answers)
    {bd : ConfiguredDirector} {name : List UInt8}
    (hnone : ∀ vm ∈ bd.statelist, vm.config.name ≠ name) :
    Executed nv answers entry.cmd (some name) bd
      ⟨entry.unknown, errnoEnoent, { bd with msgcount := bd.msgcount + 1 }, srcNew⟩ := by
  intro bcmd hcmd hname
  have hplace : bdGetvmbyname { bd with msgcount := bd.msgcount + 1 } name = none := by
    unfold bdGetvmbyname
    rw [List.findIdx?_eq_none_iff]
    intro vm hvm
    simpa using hnone vm hvm
  rw [execute_named hentry hcmd hname]
  unfold Handling.onNamed
  dsimp only [Pointer.ofOption]
  rw [hplace]

theorem executed_first (hentry : entry ∈ namedCommands answers) {bd : ConfiguredDirector}
    {front back : List ConfiguredVm} {vm : ConfiguredVm}
    (hlist : bd.statelist = front ++ vm :: back)
    (hfirst : ∀ other ∈ front, other.config.name ≠ vm.config.name) :
    Executed nv answers entry.cmd (some vm.config.name) bd
      ⟨(entry.call (vm.bwv.call answers.hooks)).1, answers.errno,
        ⟨front ++ { vm with bwv := (entry.call (vm.bwv.call answers.hooks)).2 } :: back,
          bd.msgcount + 1⟩, srcNew⟩ := by
  intro bcmd hcmd hname
  have hskip : front.findIdx? (fun other => other.config.name == vm.config.name) = none := by
    rw [List.findIdx?_eq_none_iff]
    intro other hother
    simpa using hfirst other hother
  have hplace : bdGetvmbyname { bd with msgcount := bd.msgcount + 1 } vm.config.name =
      some front.length := by
    simp [bdGetvmbyname, hlist, List.findIdx?_append, hskip, List.findIdx?_cons]
  have hfound : (front ++ vm :: back)[front.length]? = some vm := by
    rw [List.getElem?_append_right (Nat.le_refl _), Nat.sub_self, List.getElem?_cons_zero]
  have hset (new : ConfiguredVm) : (front ++ vm :: back).set front.length new =
      front ++ new :: back := by
    rw [List.set_append_right _ _ (Nat.le_refl _), Nat.sub_self, List.set_cons_zero]
  rw [execute_named hentry hcmd hname]
  unfold Handling.onNamed
  dsimp only [Pointer.ofOption]
  rw [hplace]
  dsimp only
  rw [hlist, hfound, Option.bind_eq_bind, Option.bind_some]
  simp only [hset]
  rfl

section
variable {program name fresh line : List UInt8} {more : List (List UInt8)} {calls : ClientCalls}
  {incoming outgoing : Counts} {bd : ConfiguredDirector} {handling : Handling}

theorem main_named (hentry : entry ∈ namedCommands answers) (hsmooth : Smooth calls)
    (hincoming : Flowing incoming) (houtgoing : Flowing outgoing)
    (hsendable : Sendable nv ⟨some entry.cmd, some name, fresh, []⟩)
    (hexecuted : Executed nv answers entry.cmd (some name) bd handling)
    (hline : answer handling.result (repliesOf handling).stored (repliesOf handling).shortReply =
      line ++ [0])
    (hplain : ∀ byte ∈ line, byte ≠ 0) (hlen : 4 ≤ line.length)
    (hshort : line.length < defaultBuffersize)
    (htag : line.take 4 ≠ ascii "DATA") :
    main nv calls (vmstated nv answers incoming outgoing) fresh
      (program :: entry.command :: name :: more) bd =
      some (⟨some 0, line ++ newline, []⟩, handling.bd) := by
  obtain ⟨after, hsent, hreply⟩ :=
    @exchange_line nv answers ⟨some entry.cmd, some name, fresh, []⟩ entry.cmd rfl
    hsendable calls hsmooth incoming outgoing hincoming houtgoing
      bd handling hexecuted line hline hplain hlen hshort htag
  have hmany : ¬(program :: entry.command :: name :: more).length < 2 := by
    simp only [List.length_cons]
    omega
  unfold main
  dsimp only
  rw [if_neg hmany, List.getD_cons_succ, List.getD_cons_zero,
    findCommands_named hentry, Option.bind_eq_bind, Option.bind_some]
  dsimp only
  rw [if_neg (by decide), if_neg (by decide), hsent, Option.bind_eq_bind, Option.bind_some]
  dsimp only
  rw [if_neg (by decide), handleReply_named hentry, hreply]
  rfl

end

/-- A command for one machine does to the first machine of that name what the
director does for it, leaves all others as they are, and prints the result. The
status of the client is zero, whatever the result is. -/
theorem named_command_session (nv : Libnv) (answers : CommandAnswers) (entry : NamedCommand)
    (hentry : entry ∈ namedCommands answers) (calls : ClientCalls) (hsmooth : Smooth calls)
    (incoming outgoing : Counts) (hincoming : Flowing incoming) (houtgoing : Flowing outgoing)
    (program name fresh : List UInt8) (more : List (List UInt8))
    (hsendable : Sendable nv ⟨some entry.cmd, some name, fresh, []⟩) (bd : ConfiguredDirector) :
    ((∀ vm ∈ bd.statelist, vm.config.name ≠ name) →
      main nv calls (vmstated nv answers incoming outgoing) fresh
        (program :: entry.command :: name :: more) bd =
        some (⟨some 0, unknownLine entry ++ newline, []⟩,
          { bd with msgcount := bd.msgcount + 1 })) ∧
    ∀ front vm back, bd.statelist = front ++ vm :: back → vm.config.name = name →
      (∀ other ∈ front, other.config.name ≠ name) →
        main nv calls (vmstated nv answers incoming outgoing) fresh
          (program :: entry.command :: name :: more) bd =
          some (⟨some 0, resultLine (entry.call (vm.bwv.call answers.hooks)).1 ++ newline, []⟩,
            ⟨front ++ { vm with bwv := (entry.call (vm.bwv.call answers.hooks)).2 } :: back,
              bd.msgcount + 1⟩) := by
  constructor
  · intro hnone
    obtain ⟨hreply, hplain, hlen, hshort, htag⟩ :=
      unknownLine_replied hentry { bd with msgcount := bd.msgcount + 1 }
    exact main_named hentry hsmooth hincoming houtgoing hsendable
      (executed_unknown hentry hnone) hreply hplain hlen hshort htag
  · rintro front vm back hlist rfl hfirst
    have hcoded := namedCommands_coded hentry (vm.bwv.call answers.hooks)
    have hknown : (entry.call (vm.bwv.call answers.hooks)).1 ≠ bdErrUnknownvmname := by
      intro hunknown
      rw [hunknown] at hcoded
      exact absurd hcoded (by decide)
    obtain ⟨hreply, hplain, hlen, hshort, htag⟩ := resultLine_coded _ hcoded
    apply main_named hentry hsmooth hincoming houtgoing hsendable
      (executed_first hentry hlist hfirst) _ hplain hlen hshort htag
    rw [repliesOf_of_ne hknown]
    exact hreply

end

theorem sendable_of_length {nv : Libnv} {usrcmd : BhyveUsercommand} (hends : 0 ∈ usrcmd.reply)
    (hsize : usrcmd.reply.length = defaultBuffersize) {length : Nat}
    (hencode : (bcmdEncodenvlistCommand nv usrcmd).map (fun encoded => (nv.pack encoded.2).length) =
      some length)
    (hfits : bhyv.length + length + 1 < shcMaxtransportdata) : Sendable nv usrcmd := by
  refine ⟨hends, hsize, fun nvl hnvl => Or.inl ?_⟩
  rw [hnvl, Option.map_some] at hencode
  rw [Option.some.inj hencode]
  exact hfits

def pagewise (rounds : Nat) : ClientCalls := ⟨rounds, pages, pages, fun _ => 0⟩

theorem pagewise_smooth {rounds : Nat} (hrounds : 4 < rounds) : Smooth (pagewise rounds) :=
  ⟨pages_roomy, pages_roomy, hrounds⟩

def startCommand : NamedCommand :=
  ⟨ascii "start", ascii "startvm", bdErrUnknownvmname, bdStartvm easyAnswers.start⟩

def oneStarted : BhyveWatchedVm := (startCommand.call ((bwvNew 3 60 true).call easyAnswers.hooks)).2

theorem named_command_session_start :
    main nvpacked (pagewise 5) (vmstated nvpacked easyAnswers pages pages) (zeros defaultBuffersize)
        [ascii "vmstatedctl", ascii "start", [97]] oneVm =
      some (⟨some 0, resultLine 0 ++ newline, []⟩,
        ⟨[⟨⟨[97], none, none, none, none, none⟩, oneStarted⟩], 2⟩) := by
  have hsendable :
      Sendable nvpacked ⟨some (ascii "startvm"), some [97], zeros defaultBuffersize, []⟩ := by
    have hends : 0 ∈ zeros defaultBuffersize := by decide
    apply @sendable_of_length nvpacked _ hends (zeros_length _) 75
    · decide +kernel
    · decide
  have hresult : (startCommand.call ((bwvNew 3 60 true).call easyAnswers.hooks)).1 = 0 := by
    decide +kernel
  have hsession :=
    (named_command_session nvpacked easyAnswers startCommand List.mem_cons_self (pagewise 5)
    (pagewise_smooth (by decide)) pages pages pages_flowing pages_flowing (ascii "vmstatedctl") [97]
    (zeros defaultBuffersize) [] hsendable oneVm).2 []
      ⟨⟨[97], none, none, none, none, none⟩, bwvNew 3 60 true⟩ []
    rfl rfl (fun other hother => nomatch hother)
  rw [hresult] at hsession
  exact hsession

end Vmstated.Properties
