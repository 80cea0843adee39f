import Vmstated.Properties.Sessions

/-! `vmstatedctl status`, from the state list of the director to the screen. -/
namespace Vmstated.Properties
open Library Libcommand Libprocwatch Libsocket Libutils Vmstatedctl

/-! The blob as the client receives it. -/

theorem dataReply_received {rounds : Nat} {blob retbuffer : List UInt8}
    {counts : Counts} (hflow : Flowing counts)
    (hlen : blob.length < 2 ^ 63) (hret : 32 ≤ retbuffer.length) (hsize : retbuffer.length < 2 ^ 64)
    (hrounds : (dataReply blob).length < rounds) :
    ∃ text after, scReceiveDynamic rounds retbuffer ⟨dataReply blob, counts⟩ =
      some ⟨0, text, some blob, some blob.length, ⟨[], after⟩⟩ := by
  have hbytes :
      dataReply blob = ascii "DATA" ++ (lengthField blob.length ++ 0 :: (blob ++ [])) := by
    rw [dataReply, dataLine_eq hlen, List.append_assoc, List.append_nil]
  have hcount : (dataReply blob).length =
      4 + (lengthField blob.length).length + 1 + blob.length := by
    rw [dataReply, dataLine_eq hlen, List.length_append, List.length_append, List.length_cons]
    have htag : (ascii "DATA").length = 4 := rfl
    omega
  have hdata : cString (ascii "DATA" ++ [0]) = ascii "DATA" := by decide
  obtain ⟨tagged, htagged, htag⟩ :=
    @tag_received rounds (lengthField blob.length ++ 0 :: (blob ++ [])) counts hflow (by omega)
  obtain ⟨text, ended, hreceive⟩ :=
    @blob_received rounds blob [] retbuffer tagged htagged hlen hret hsize (by omega)
  refine ⟨text, ended, ?_⟩
  unfold scReceiveDynamic
  rw [hbytes, htag, Option.bind_eq_bind, Option.bind_some]
  dsimp only
  rw [if_neg (not_not.mpr hdata), hreceive]

/-! What is on the screen. -/

def machineLine (vm : ConfiguredVm) : List UInt8 :=
  leftAligned 16 (some vm.config.name) ++ ascii "   " ++
    bvmiGetStatestring vm.record ++ ascii " " ++ leftAligned 8 vm.config.owner ++ newline

def statusScreen (bd : ConfiguredDirector) : List UInt8 :=
  ascii "vmstated running, managing " ++ decimal bd.statelist.length ++
    ascii " virtual machines\n" ++
    ascii "Name             Status Owner   \n" ++ cmdPrintsep 61 ++
      (bd.statelist.map machineLine).flatten

theorem statestring_of_state (vm : ConfiguredVm) :
    bvmiGetStatestring vm.record = match vm.bwv.state.state with
      | .init => ascii "INIT"
      | .startNetwork => ascii "STNW"
      | .prestartAfterRestart => ascii "RPRE"
      | .startStorage => ascii "SAST"
      | .startAfterRestart => ascii "RAST"
      | .running => ascii "RUNN"
      | .restarted => ascii "RRUN"
      | .stopping => ascii "STOP"
      | .stopStorage => ascii "SOST"
      | .prestopBeforeRestart => ascii "PRER"
      | .stopNetwork => ascii "SONW"
      | .restarting => ascii "REST"
      | .stopped => ascii "STPD"
      | .restartStopped => ascii "RSTP"
      | .failed => ascii "FAIL" := by
  unfold bvmiGetStatestring ConfiguredVm.record
  cases vm.bwv.state.state <;> rfl

theorem statestring_length (vm : ConfiguredVm) : (bvmiGetStatestring vm.record).length = 4 := by
  rw [statestring_of_state]
  cases vm.bwv.state.state <;> rfl

/-- No two states look the same. -/
theorem statestring_eq_iff (vm other : ConfiguredVm) :
    bvmiGetStatestring vm.record = bvmiGetStatestring other.record ↔
      vm.bwv.state.state = other.bwv.state.state := by
  rw [statestring_of_state, statestring_of_state]
  cases vm.bwv.state.state <;> cases other.bwv.state.state <;> decide

theorem infoLine_record (vm : ConfiguredVm) : infoLine vm.record = machineLine vm := by
  rw [infoLine, rightAligned, statestring_length, Nat.sub_self]
  rfl

theorem cmdStatusReply_eq {nv : Libnv} {buc : BhyveUsercommand}
    {bd : ConfiguredDirector} {msgcount : Int64} (hne : bd.statelist ≠ [])
    (hdecode : bvmmiDecodebinary nv buc.blob =
      some (0, some ⟨bd.statelist.map ConfiguredVm.record, bd.statelist.length, msgcount⟩)) :
    cmdStatusReply nv buc = some (statusScreen bd, []) := by
  have hcount : bd.statelist.length ≠ 0 := by simpa using hne
  have hlines : (bd.statelist.map ConfiguredVm.record).map infoLine =
      bd.statelist.map machineLine := by
    rw [List.map_map]
    exact List.map_congr_left fun vm _ => infoLine_record vm
  unfold cmdStatusReply
  rw [hdecode, Option.bind_eq_bind, Option.bind_some]
  dsimp only
  rw [if_neg (by decide), Option.bind_eq_bind, Option.bind_some, if_pos hcount, hlines]
  rfl

section
variable {nv : Libnv} {answers : CommandAnswers}

theorem findCommands_status (program : List UInt8) (more : List (List UInt8)) (fresh : List UInt8) :
    findCommands (program :: ascii "status" :: more).length (ascii "status") commands
        ⟨3, program :: ascii "status" :: more, 0, ⟨none, none, fresh, []⟩, false⟩ =
      some (.ok ⟨2, more, 0, ⟨some (ascii "status"), none, fresh, []⟩, true⟩) := by
  have hmany : ¬(program :: ascii "status" :: more).length < 2 := by
    simp only [List.length_cons]
    omega
  generalize (program :: ascii "status" :: more).length = argc at hmany
  simp [findCommands, commands, hmany, cmdStatus, ascii]

theorem handleReply_status (buc : BhyveUsercommand) {printed complaint : List UInt8}
    (hreply : cmdStatusReply nv buc = some (printed, complaint)) :
    handleReply (ascii "status") buc (replyHandler nv) = some (printed, complaint) := by
  simp [handleReply, replyHandler, hreply, ascii]

theorem main_status {calls : ClientCalls} {σ : Type} {peer : OtherEnd σ}
    {program fresh printed complaint : List UInt8}
    {more : List (List UInt8)} {s t : σ} {after : BhyveUsercommand}
    (hsent : bcsSendcmdRaw nv (scSendrecvDynamic calls peer bhyv)
      ⟨some (ascii "status"), none, fresh, []⟩ s = some ((0, after), t))
    (hreply : cmdStatusReply nv after = some (printed, complaint)) :
    main nv calls peer fresh (program :: ascii "status" :: more) s =
      some (⟨some 0, printed, complaint⟩, t) := by
  have hmany : ¬(program :: ascii "status" :: more).length < 2 := by
    simp only [List.length_cons]
    omega
  unfold main
  dsimp only
  rw [if_neg hmany, List.getD_cons_succ, List.getD_cons_zero,
    findCommands_status, Option.bind_eq_bind, Option.bind_some]
  dsimp only
  rw [if_neg (by decide), if_neg (by decide), hsent, Option.bind_eq_bind, Option.bind_some]
  dsimp only
  rw [if_neg (by decide), handleReply_status after hreply]
  rfl

theorem executed_status {bd : ConfiguredDirector} {result : Int} {src : SocketReplyCollector}
    (hreply : bdReplyInfo nv answers.errno { bd with msgcount := bd.msgcount + 1 } srcNew =
      some (result, src)) :
    Executed nv answers (ascii "status") none bd
      ⟨result, answers.errno, { bd with msgcount := bd.msgcount + 1 }, src⟩ := by
  intro bcmd hcmd _
  rw [execute_string hcmd, if_neg (by decide), if_neg (by decide), if_pos rfl]
  unfold Handling.replyInfo
  dsimp only
  rw [hreply]
  rfl

theorem bdReplyInfo_stored {errno : Int} {bd : ConfiguredDirector}
    (hne : bd.statelist ≠ []) {blob : List UInt8} (hfull : blob ≠ [])
    (hblob : bvmmiEncodebinary nv
      ⟨bd.statelist.map ConfiguredVm.record, bd.statelist.length, bd.msgcount.toInt64⟩ =
        some (0, some blob)) :
    bdReplyInfo nv errno bd srcNew = some (0, ⟨⟨[blob]⟩, none, none⟩) := by
  unfold bdReplyInfo
  rw [bdGetinfo_eq (Or.inl hne)]
  dsimp only
  rw [hblob, Option.bind_eq_bind, Option.bind_some]
  dsimp only
  rw [if_neg (by decide), Option.getD_some, srcReply, focus_apply, stcStoreTransmit_of_ne hfull]
  rfl

/-- All that a status needs is in memory at once. -/
structure InMemory (nv : Libnv) (bd : ConfiguredDirector) : Prop where
  infos : (packedInfos nv (bd.statelist.map ConfiguredVm.record)).length < 2 ^ 64
  blob : ∀ buffer, bvmmiEncodebinary nv
    ⟨bd.statelist.map ConfiguredVm.record, bd.statelist.length, (bd.msgcount + 1).toInt64⟩ =
      some (0, some buffer) → buffer.length < 2 ^ 63

end

/-- `vmstatedctl status` prints a line for each machine of the director, in its
order, with a text for the state that the machine is in, which no other state
has; the answer may come in any pieces. Without a machine the director has no
answer, and the client complains, with the status zero. -/
theorem status_session (nv : Libnv) (answers : CommandAnswers)
    (calls : ClientCalls) (hwrites : Roomy calls.writes)
    (incoming outgoing : Counts) (hincoming : Flowing incoming) (houtgoing : Flowing outgoing)
    (program fresh : List UInt8) (more : List (List UInt8))
    (hsendable : Sendable nv ⟨some (ascii "status"), none, fresh, []⟩) (bd : ConfiguredDirector) :
    (Flowing calls.reads → bd.statelist ≠ [] → bd.statelist.length < 2 ^ 32 → InMemory nv bd →
      ∃ most, ∀ rounds, most < rounds →
        main nv { calls with rounds } (vmstated nv answers incoming outgoing) fresh
            (program :: ascii "status" :: more) bd =
          some (⟨some 0, statusScreen bd, []⟩, { bd with msgcount := bd.msgcount + 1 })) ∧
    (∀ vm other : ConfiguredVm, bvmiGetStatestring vm.record = bvmiGetStatestring other.record ↔
      vm.bwv.state.state = other.bwv.state.state) ∧
    (Roomy calls.reads → 4 < calls.rounds → bd.statelist = [] → nv.unpack [] = none →
      main nv calls (vmstated nv answers incoming outgoing) fresh
        (program :: ascii "status" :: more) bd =
        some (⟨some 0, [], ascii "Failed to decode vm_info data"⟩,
          { bd with msgcount := bd.msgcount + 1 })) := by
  refine ⟨?_, statestring_eq_iff, ?_⟩
  · intro hreads hne hfew hmemory
    have hrecords : bd.statelist.map ConfiguredVm.record ≠ [] := by
      rw [Ne, List.map_eq_nil_iff]
      exact hne
    have hencode := bvmmiEncodebinary_eq nv (bd.statelist.map ConfiguredVm.record)
        (bd.msgcount + 1).toInt64 hrecords
    rw [List.length_map] at hencode
    obtain ⟨blob, hblob, hfull, -, hdecode⟩ := hencode
    have hreply := @bdReplyInfo_stored nv answers.errno
        { bd with msgcount := bd.msgcount + 1 } hne blob hfull hblob
    have hsize : fresh.length = 512 := hsendable.size
    refine ⟨(dataReply blob).length + 4, ?_⟩
    intro rounds hrounds
    obtain ⟨text, counts, hreceived⟩ := @dataReply_received rounds blob fresh calls.reads hreads
      (hmemory.blob _ hblob) (by omega) (by omega) (by omega)
    have hanswer : answer 0 (⟨⟨[blob]⟩, none, none⟩ : SocketReplyCollector).stored none =
        dataReply blob := by
      have hstored : (⟨⟨[blob]⟩, none, none⟩ : SocketReplyCollector).stored = blob := by
        simp [SocketReplyCollector.stored]
      rw [hstored, answer, if_neg hfull]
    have hsent := @exchange_eq nv answers ⟨some (ascii "status"), none, fresh, []⟩
        (ascii "status") rfl hsendable
      { calls with rounds } hwrites
        (by dsimp only; omega) incoming outgoing hincoming houtgoing bd _
      (executed_status hreply) _ (by
        rw [repliesOf_of_ne (by decide)]
        dsimp only
        rw [hanswer]
        exact hreceived)
    apply main_status hsent
    apply cmdStatusReply_eq hne
    exact hdecode hfew hmemory.infos
  · intro hreads hrounds hnil hunpack
    have hreply :=
      bdReplyInfo_nil nv answers.errno { bd with msgcount := bd.msgcount + 1 } srcNew hnil
    obtain ⟨hline, hplain, hlen, hshort, htag⟩ := resultLine_coded (-1) (by decide)
    have hsize : fresh.length = 512 := hsendable.size
    have hroom : (512 : Nat) ≤ shcMaxtransportdata := by decide
    unfold defaultBuffersize at hshort
    obtain ⟨counts, hreceived⟩ :=
      @scReceiveDynamic_text (resultLine (-1)) fresh calls.reads calls.rounds hreads
        hplain hlen htag (by omega) (by omega) hrounds
    have hsent := @exchange_eq nv answers ⟨some (ascii "status"), none, fresh, []⟩
        (ascii "status") rfl hsendable
      calls hwrites (by omega) incoming outgoing hincoming houtgoing bd _
        (executed_status hreply) _ (by
        rw [repliesOf_of_ne (by decide)]
        exact hline ▸ hreceived)
    apply main_status hsent
    unfold cmdStatusReply bvmmiDecodebinary
    dsimp only
    rw [Option.getD_none, hunpack]
    rfl

theorem status_session_one :
    ∃ most, ∀ rounds, most < rounds →
      main nvpacked { pagewise rounds with reads := fun _ => some 6 }
        (vmstated nvpacked easyAnswers pages pages) (zeros defaultBuffersize)
          [ascii "vmstatedctl", ascii "status"] oneVm =
        some (⟨some 0, statusScreen oneVm, []⟩, { oneVm with msgcount := 2 }) := by
  have hsendable :
      Sendable nvpacked ⟨some (ascii "status"), none, zeros defaultBuffersize, []⟩ := by
    have hends : 0 ∈ zeros defaultBuffersize := by decide
    apply @sendable_of_length nvpacked _ hends (zeros_length _) 70
    · decide +kernel
    · decide
  have hmemory : InMemory nvpacked oneVm := by
    have hlength : (bvmmiEncodebinary nvpacked
        ⟨oneVm.statelist.map ConfiguredVm.record, oneVm.statelist.length,
        (oneVm.msgcount + 1).toInt64⟩).map (fun encoded => (encoded.2.getD []).length) =
          some 413 := by
      decide +kernel
    refine ⟨by decide +kernel, ?_⟩
    intro buffer hbuffer
    rw [hbuffer, Option.map_some] at hlength
    have hblob : buffer.length = 413 := Option.some.inj hlength
    omega
  have hsmooth := @pagewise_smooth 5 (by decide)
  exact (status_session nvpacked easyAnswers
    { pagewise 5 with reads := fun _ => some 6 } hsmooth.writes pages pages
    pages_flowing pages_flowing (ascii "vmstatedctl") (zeros defaultBuffersize)
      [] hsendable oneVm).1 (fun i => ⟨5, rfl⟩) (by decide) (by decide) hmemory

end Vmstated.Properties
