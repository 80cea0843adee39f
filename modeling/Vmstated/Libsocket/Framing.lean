import Vmstated.Libsocket.SocketHandle

/-! The connection's buffer as a queue of the bytes that were read. -/
namespace Vmstated.Libsocket
open Library

/-- What is left of the queue for the listeners, and how many bytes are
dropped after them. -/
def framed (queue : List UInt8) : List UInt8 × Nat :=
  match memchrZero queue with
  | none => if queue.length < shcMaxtransportdata then (queue, 2) else ([], 2)
  | some cmdlen =>
    if cmdlen > shCmdlen then (queue.drop (cmdlen + 2), cmdlen + 2)
    else
      match memchrZero (queue.drop (cmdlen + 1)) with
      | some datalen => (queue, cmdlen + datalen + 2)
      | none => if queue.length < shcMaxtransportdata then (queue, queue.length)
          else ([], cmdlen + 2)

def leftOver (queue : List UInt8) : List UInt8 := (framed queue).1.drop (framed queue).2

theorem framed_of_mem {queue : List UInt8} (hzero : 0 ∈ queue) (hshort : ¬strlen queue > shCmdlen) :
    framed queue =
      match memchrZero (queue.drop (strlen queue + 1)) with
      | some datalen => (queue, strlen queue + datalen + 2)
      | none =>
        if queue.length < shcMaxtransportdata then (queue, queue.length)
        else ([], strlen queue + 2) := by
  unfold framed
  rw [memchrZero_of_mem hzero]
  dsimp only
  rw [if_neg hshort]

section
variable {cmd : List UInt8} (hcmd : ∀ byte ∈ cmd, byte ≠ 0)
include hcmd

theorem framed_of_short (hshort : cmd.length ≤ shCmdlen) (rest : List UInt8) :
    framed (cmd ++ 0 :: rest) =
      match memchrZero rest with
      | some datalen => (cmd ++ 0 :: rest, cmd.length + datalen + 2)
      | none =>
        if (cmd ++ 0 :: rest).length < shcMaxtransportdata then
          (cmd ++ 0 :: rest, (cmd ++ 0 :: rest).length)
        else ([], cmd.length + 2) := by
  have hzero : 0 ∈ cmd ++ 0 :: rest := List.mem_append_right cmd List.mem_cons_self
  have hstring : strlen (cmd ++ 0 :: rest) = cmd.length := by
    rw [strlen, cString_append hcmd]
  have hrest : (cmd ++ 0 :: rest).drop (cmd.length + 1) = rest := by
    rw [← List.drop_drop, List.drop_left, List.drop_one, List.tail_cons]
  rw [framed_of_mem hzero (by omega), hstring, hrest]

theorem framed_of_long (hlong : cmd.length > shCmdlen) (rest : List UInt8) :
    framed (cmd ++ 0 :: rest) = (rest.drop 1, cmd.length + 2) := by
  have hrest : (cmd ++ 0 :: rest).drop (cmd.length + 2) = rest.drop 1 := by
    rw [← List.drop_drop, List.drop_left]
    rfl
  unfold framed
  rw [memchrZero_append hcmd]
  dsimp only
  rw [if_pos hlong, hrest]

end

theorem framed_short_cases {cmd rest : List UInt8} (hcmd : ∀ byte ∈ cmd, byte ≠ 0)
    (hshort : cmd.length ≤ shCmdlen) :
    (framed (cmd ++ 0 :: rest)).1 = cmd ++ 0 :: rest ∨ (framed (cmd ++ 0 :: rest)).1 = [] := by
  rw [framed_of_short hcmd hshort]
  split
  · exact Or.inl rfl
  · split
    · exact Or.inl rfl
    · exact Or.inr rfl

theorem framed_length_le (queue : List UInt8) : (framed queue).1.length ≤ queue.length := by
  unfold framed
  split
  · split <;> simp
  · split
    · simp
    · split
      · exact Nat.le_refl _
      · split <;> simp

/-- What the listeners are handed for a queue. Without a zero byte in it they
get a length that no message has. -/
structure Hands (queue : List UInt8) (dispatch : Dispatch) : Prop where
  message : ∀ cmd data, queue = cmd ++ 0 :: data → (∀ byte ∈ cmd, byte ≠ 0) →
    dispatch = ⟨cmd, data, data.length⟩
  unframed : 0 ∉ queue → shcMaxtransportdata < dispatch.datalen

theorem Hands.queue_eq {queue : List UInt8} {dispatch : Dispatch} (h : Hands queue dispatch)
    (hlen : dispatch.datalen ≤ shcMaxtransportdata) :
    queue = dispatch.cmd ++ 0 :: dispatch.data := by
  have hzero : 0 ∈ queue := by
    by_contra hunframed
    have hlong := h.unframed hunframed
    omega
  obtain ⟨data, hqueue⟩ := eq_cString_append hzero
  rw [h.message (cString queue) data hqueue (cString_ne_zero queue)]
  exact hqueue

/-- The buffer and `bytes_read` hold the queue. A buffer that is not full ends
with a zero byte. -/
structure Holds (shc : SocketConnection) (queue tail : List UInt8) : Prop where
  buffer : shc.buffer = queue ++ tail
  bytesRead : shc.bytesRead = queue.length
  size : queue.length + tail.length = shcMaxtransportdata
  ends : tail = [] ∨ ∃ front, tail = front ++ [0]

theorem zeros_ends {count : Nat} : zeros count = [] ∨ ∃ front, zeros count = front ++ [0] := by
  cases count with
  | zero => exact Or.inl rfl
  | succ count => exact Or.inr ⟨zeros count, List.replicate_succ'⟩

theorem drop_zeros (front : List UInt8) (more : Nat) (hfront : 0 < front.length) :
    (front ++ zeros (more + 1)).drop (more + 1) = (front ++ zeros more).drop (more + 1) ++ [0] := by
  have hlast : zeros (more + 1) = zeros more ++ [0] := List.replicate_succ'
  rw [hlast, ← List.append_assoc, List.drop_append_of_le_length]
  rw [List.length_append, zeros_length]
  omega

theorem holds_zeroed (src : SocketReplyCollector) :
    Holds ⟨0, zeros shcMaxtransportdata, src⟩ [] (zeros shcMaxtransportdata) :=
  ⟨rfl, rfl, by rw [List.length_nil, zeros_length, Nat.zero_add], zeros_ends⟩

section
variable {shc : SocketConnection} {queue tail : List UInt8}

theorem Holds.buffer_length (h : Holds shc queue tail) :
    shc.buffer.length = shcMaxtransportdata := by
  rw [h.buffer, List.length_append]
  exact h.size

theorem Holds.length_le (h : Holds shc queue tail) : queue.length ≤ shcMaxtransportdata := by
  have hsize := h.size
  omega

theorem Holds.zero_mem (h : Holds shc queue tail) (hroom : queue.length < shcMaxtransportdata) :
    0 ∈ tail := by
  have hsize := h.size
  rcases h.ends with hnil | ⟨front, hfront⟩
  · rw [hnil, List.length_nil] at hsize
    omega
  · simp [hfront]

theorem Holds.with_src (h : Holds shc queue tail) (src : SocketReplyCollector) :
    Holds { shc with src } queue tail := ⟨h.buffer, h.bytesRead, h.size, h.ends⟩

/-! Dropping. -/

theorem Holds.dropbytes (h : Holds shc queue tail) {count : Nat} (hcount : 0 < count) :
    ∃ rest, Holds (shcDropbytes count shc).2 (queue.drop count) rest := by
  have hsize := h.size
  unfold shcDropbytes
  rw [if_neg (by omega)]
  split
  · rename_i hall
    have hempty : queue.drop count = [] := by
      rw [List.drop_eq_nil_iff]
      rw [h.bytesRead] at hall
      omega
    refine ⟨zeros shcMaxtransportdata, ?_⟩
    rw [hempty]
    exact holds_zeroed shc.src
  · rename_i hpart
    rw [h.bytesRead] at hpart
    have hkept : ((shc.buffer.drop count).take (shcMaxtransportdata - count)) =
        queue.drop count ++ tail := by
      rw [List.take_of_length_le (by rw [List.length_drop, h.buffer_length]), h.buffer,
        List.drop_append_of_le_length (by omega)]
    have hzeroed : overlay count (zeros (shcMaxtransportdata - count)) shc.buffer =
        queue.take count ++ zeros (shcMaxtransportdata - count) := by
      unfold overlay
      rw [zeros_length, List.drop_eq_nil_of_le (by rw [h.buffer_length]; omega), List.append_nil,
        h.buffer, List.take_append_of_le_length (by omega)]
    have hlength : (queue.drop count ++ tail).length = shcMaxtransportdata - count := by
      rw [List.length_append, List.length_drop]
      omega
    obtain ⟨more, hmore⟩ : ∃ more, shcMaxtransportdata - count = more + 1 :=
      ⟨shcMaxtransportdata - count - 1, by omega⟩
    have hstale := drop_zeros (queue.take count) more (by rw [List.length_take]; omega)
    refine ⟨tail ++ ((queue.take count ++ zeros more).drop (more + 1) ++ [0]), ?_⟩
    constructor
    · dsimp only
      rw [hkept, hzeroed, overlay, List.take_zero, List.nil_append, Nat.zero_add, hlength, hmore,
        hstale, List.append_assoc]
    · rw [h.bytesRead, List.length_drop]
    · simp only [List.length_append, List.length_drop, List.length_take, zeros_length,
        List.length_singleton]
      omega
    · exact Or.inr ⟨tail ++ (queue.take count ++ zeros more).drop (more + 1),
        by rw [List.append_assoc]⟩

theorem Holds.dropmessage (h : Holds shc queue tail) (parsedata : SocketCmdparsedata) :
    ∃ rest, Holds (shcDropmessage parsedata shc).2
      (queue.drop (parsedata.cmdlen + parsedata.datalen + 2)) rest :=
  h.dropbytes (by omega)

end

/-! Reading. -/

theorem ReadVars.advance_some {vars : ReadVars} {bytes : List UInt8}
    (hready : bytes.length ≤ vars.bytesReady) (hlt : vars.bytesReady < 2 ^ 63)
    (hremaining : bytes.length ≤ vars.bytesRemaining)
    (hroom : vars.bytesRead + vars.bytesRemaining = shcMaxtransportdata)
    (hoffset : vars.offset = vars.bytesRead) :
    vars.advance (some bytes) =
      { bytesReady := vars.bytesReady - bytes.length
        bytesRemaining := vars.bytesRemaining - bytes.length
        toRead := min vars.bytesReady (vars.bytesRemaining - bytes.length)
        offset := vars.bytesRead + bytes.length
        bytesRead := vars.bytesRead + bytes.length
        buffer := overlay vars.bytesRead bytes vars.buffer } := by
  unfold shcMaxtransportdata at hroom
  have hrest : sizeT (vars.bytesRemaining - bytes.length) = vars.bytesRemaining - bytes.length := by
    unfold sizeT
    omega
  have hmore : sizeT (vars.bytesReady - bytes.length) = vars.bytesReady - bytes.length := by
    unfold sizeT
    omega
  have hnext : sizeT (vars.bytesRead + bytes.length) = vars.bytesRead + bytes.length := by
    unfold sizeT
    omega
  have htoRead : (if vars.bytesReady > vars.bytesRemaining - bytes.length then
      vars.bytesRemaining - bytes.length else vars.bytesReady) =
        min vars.bytesReady (vars.bytesRemaining - bytes.length) := by
    split <;> omega
  simp only [advance, doneRead, hoffset, hrest, hmore, hnext, htoRead, Option.getD_some]
  rw [storeAt_inside (by omega)]

theorem readRounds_of_flowing {rounds : Nat} {vars : ReadVars} {source : Source UInt8}
    (hflow : Flowing source.counts) (hready : vars.bytesReady = source.pending.length)
    (hlt : vars.bytesReady < 2 ^ 63)
    (hroom : vars.bytesRead + vars.bytesRemaining = shcMaxtransportdata)
    (hoffset : vars.offset = vars.bytesRead) (hbuffer : vars.buffer.length = shcMaxtransportdata)
    (hmost : vars.toRead ≤ vars.bytesRemaining)
    (hleast : min vars.bytesReady vars.bytesRemaining ≤ vars.toRead)
    (hrounds : vars.bytesRemaining ≤ rounds) :
    let count := min vars.bytesReady vars.bytesRemaining
    let result := readRounds rounds vars source
    ∃ counts, Flowing counts ∧ result.2 = ⟨source.pending.drop count, counts⟩ ∧
      result.1.bytesRead = vars.bytesRead + count ∧
      result.1.buffer = overlay vars.bytesRead (source.pending.take count) vars.buffer := by
  induction rounds generalizing vars source with
  | zero =>
    have hnone : min vars.bytesReady vars.bytesRemaining = 0 := by omega
    dsimp only
    rw [hnone]
    exact ⟨source.counts, hflow, rfl, rfl, by simp [readRounds]⟩
  | succ rounds ih =>
    dsimp only
    rw [readRounds]
    split
    · rename_i hdone
      have hnone : min vars.bytesReady vars.bytesRemaining = 0 := by omega
      rw [hnone]
      exact ⟨source.counts, hflow, rfl, rfl, by simp⟩
    · rename_i hmore
      obtain ⟨done, hpos, hle, hpending, hread⟩ :=
        @Source.read_some _ source vars.toRead hflow (by omega) (by omega)
      have hlength : (source.pending.take done).length = done := by
        rw [List.length_take]
        omega
      rw [hread]
      generalize hbytes : source.pending.take done = bytes at hlength
      cases bytes with
      | nil =>
        rw [List.length_nil] at hlength
        omega
      | cons byte bytes =>
        have hvars :=
          @ReadVars.advance_some vars (byte :: bytes) (by omega) hlt (by omega) hroom hoffset
        rw [hlength] at hvars
        dsimp only
        rw [hvars]
        have hdropped : (source.pending.drop done).length = vars.bytesReady - done := by
          rw [List.length_drop, hready]
        have hoverlay : (overlay vars.bytesRead (byte :: bytes) vars.buffer).length =
            shcMaxtransportdata := by
          rw [overlay_length (by rw [hlength, hbuffer]; omega), hbuffer]
        obtain ⟨counts, hflows, hsource, hcount, hafter⟩ := @ih
          ⟨vars.bytesReady - done, vars.bytesRemaining - done,
            min vars.bytesReady (vars.bytesRemaining - done), vars.bytesRead + done,
            vars.bytesRead + done, overlay vars.bytesRead (byte :: bytes) vars.buffer⟩
          ⟨source.pending.drop done, source.counts.rest⟩ hflow.rest hdropped.symm
          (by dsimp only; omega) (by dsimp only; omega) rfl hoverlay (by dsimp only; omega)
          (by dsimp only; omega) (by dsimp only; omega)
        dsimp only at hsource hcount hafter
        have hsplit : min vars.bytesReady vars.bytesRemaining =
            done + min (vars.bytesReady - done) (vars.bytesRemaining - done) := by omega
        refine ⟨counts, hflows, ?_, ?_, ?_⟩
        · rw [hsource, List.drop_drop, hsplit]
        · rw [hcount, hsplit, Nat.add_assoc]
        · rw [hafter, hsplit, List.take_add, hbytes,
            ← overlay_overlay (byte :: bytes) _ (by omega), hlength]

theorem Holds.readData {shc : SocketConnection} {queue tail : List UInt8} (h : Holds shc queue tail)
    {source : Source UInt8} (hflow : Flowing source.counts) (hlt : source.pending.length < 2 ^ 63) :
    let count := min source.pending.length (shcMaxtransportdata - queue.length)
    let result := shReadData source.pending.length shc source
    ∃ counts rest, Flowing counts ∧ result.2.2 = ⟨source.pending.drop count, counts⟩ ∧
      Holds result.2.1 (queue ++ source.pending.take count) rest ∧ result.2.1.src = shc.src := by
  have hsize := h.size
  have hremaining : sizeT (shcMaxtransportdata - shc.bytesRead) =
      shcMaxtransportdata - queue.length := by
    unfold sizeT
    rw [h.bytesRead]
    unfold shcMaxtransportdata at hsize ⊢
    omega
  have hoverlay (bytes : List UInt8) (hbytes : bytes.length ≤ tail.length) :
      overlay queue.length bytes shc.buffer = queue ++ bytes ++ tail.drop bytes.length := by
    rw [overlay, h.buffer, List.take_left, ← List.drop_drop, List.drop_left]
  obtain ⟨counts, hflows, hsource, hcount, hafter⟩ := @readRounds_of_flowing shcMaxtransportdata
    ⟨source.pending.length, shcMaxtransportdata - queue.length,
      if source.pending.length > shcMaxtransportdata - queue.length then
        shcMaxtransportdata - queue.length else source.pending.length,
      shc.bytesRead, shc.bytesRead, shc.buffer⟩ source hflow rfl hlt
    (by dsimp only; rw [h.bytesRead]; omega) rfl h.buffer_length (by dsimp only; split <;> omega)
    (by dsimp only; split <;> omega) (by dsimp only; omega)
  dsimp only at hsource hcount hafter
  generalize hmin : min source.pending.length (shcMaxtransportdata - queue.length) = count at *
  have hlength : (source.pending.take count).length = count := by
    rw [List.length_take]
    omega
  refine ⟨counts, tail.drop count, hflows, ?_, ⟨?_, ?_, ?_, ?_⟩, ?_⟩
  · simp only [shReadData, hremaining, hsource]
  · simp only [shReadData, hremaining, hafter]
    rw [h.bytesRead, hoverlay _ (by omega), hlength]
  · simp only [shReadData, hremaining, hcount]
    rw [h.bytesRead, List.length_append, hlength]
  · simp only [List.length_append, hlength, List.length_drop]
    omega
  · rcases Nat.lt_or_ge count tail.length with hless | hmore
    · rcases h.ends with hnil | ⟨front, hfront⟩
      · exact Or.inl (by rw [hnil, List.drop_nil])
      · refine Or.inr ⟨front.drop count, ?_⟩
        rw [hfront, List.length_append, List.length_singleton] at hless
        rw [hfront, List.drop_append_of_le_length (by omega)]
    · exact Or.inl (List.drop_eq_nil_of_le hmore)
  · rfl

/-! Parsing. -/

section
variable {shc : SocketConnection} {queue tail : List UInt8}

theorem Holds.hands (h : Holds shc queue tail) : Hands queue shc.dispatch := by
  have hle := h.length_le
  unfold shcMaxtransportdata at hle
  constructor
  · rintro cmd data rfl hcmd
    have hbuffer : shc.buffer = cmd ++ 0 :: (data ++ tail) := by
      rw [h.buffer, List.append_assoc, List.cons_append]
    have hstring : cString shc.buffer = cmd := by
      rw [hbuffer, cString_append hcmd]
    have hdata : shc.buffer.drop (cmd.length + 1) = data ++ tail := by
      rw [hbuffer, ← List.drop_drop, List.drop_left, List.drop_one, List.tail_cons]
    have hdatalen : sizeT (shc.bytesRead - cmd.length - 1) = data.length := by
      rw [h.bytesRead]
      rw [List.length_append, List.length_cons] at hle ⊢
      unfold sizeT
      omega
    simp only [SocketConnection.dispatch, strlen, hstring, hdata, hdatalen, List.take_left]
  · intro hzero
    have hcmdlen := cString_length_le shc.buffer
    rw [h.buffer_length, h.buffer, cString_append_of_not_mem hzero] at hcmdlen
    simp only [SocketConnection.dispatch, strlen, h.bytesRead]
    rw [h.buffer, cString_append_of_not_mem hzero]
    rw [List.length_append] at hcmdlen ⊢
    unfold sizeT
    unfold shcMaxtransportdata at hcmdlen ⊢
    omega

theorem holds_dropall (shc : SocketConnection) :
    Holds (shcDropbytes shcMaxtransportdata shc).2 [] (zeros shcMaxtransportdata) := by
  have hall : (shcDropbytes shcMaxtransportdata shc).2 =
      ⟨0, zeros shcMaxtransportdata, shc.src⟩ := by
    unfold shcDropbytes
    rw [if_neg (by decide), if_pos (Or.inl rfl)]
  rw [hall]
  exact holds_zeroed shc.src

theorem shcDropmessage_zero (parsedata : SocketCmdparsedata) (shc : SocketConnection) :
    (shcDropmessage parsedata shc).1 = 0 := by
  unfold shcDropmessage shcDropbytes
  rw [if_neg (by omega)]
  split <;> rfl

theorem shcDropbytes_src (count : Nat) (shc : SocketConnection) :
    (shcDropbytes count shc).2.src = shc.src := by
  unfold shcDropbytes
  split
  · rfl
  · split <;> rfl

theorem Holds.bytesRead_ne (h : Holds shc queue tail) (hne : queue ≠ []) : shc.bytesRead ≠ 0 := by
  rw [h.bytesRead]
  simpa using hne

theorem Holds.take_bytesRead (h : Holds shc queue tail) :
    shc.buffer.take shc.bytesRead = queue := by
  rw [h.buffer, h.bytesRead, List.take_left]

/-- The outcome of the parser, as far as the rest of the handler depends on it. -/
structure Parsed (shc : SocketConnection) (queue : List UInt8) (parsedata : SocketCmdparsedata)
    (after : SocketConnection) : Prop where
  parsing : shTryCmdparsing shc .zeroed = some (0, parsedata, after)
  errcode : parsedata.errcode ≠ shWrnKeepreadnmore
  quiet : (framed queue).1 = queue → parsedata.errcode = 0
  src : after.src = shc.src
  holds : ∃ rest, Holds after (framed queue).1 rest
  dropped : leftOver queue = (framed queue).1.drop (parsedata.cmdlen + parsedata.datalen + 2)

theorem Holds.parsed_unframed (h : Holds shc queue tail) (hne : queue ≠ []) (hzero : 0 ∉ queue) :
    ∃ parsedata after, Parsed shc queue parsedata after := by
  have hcmdlen := memchrZero_of_not_mem hzero
  by_cases hroom : queue.length < shcMaxtransportdata
  · have hframed : framed queue = (queue, 2) := by
      simp only [framed, hcmdlen, hroom, if_true]
    refine ⟨.zeroed, shc, ?_, by decide, fun _ => rfl, rfl, ⟨tail, by rw [hframed]; exact h⟩, ?_⟩
    · unfold shTryCmdparsing
      rw [if_neg (h.bytesRead_ne hne), h.take_bytesRead, hcmdlen, h.bytesRead]
      dsimp only
      rw [if_neg (by omega)]
    · rw [leftOver, hframed]
      rfl
  · have hframed : framed queue = ([], 2) := by
      simp only [framed, hcmdlen, hroom, if_false]
    have hkept : (framed queue).1 ≠ queue := by
      rw [hframed]
      exact hne.symm
    refine ⟨⟨0, 0, ascii "Invalid input", shCmderrGarbagecmd⟩,
      (shcDropbytes shcMaxtransportdata shc).2,
      ?_, by decide, fun hquiet => absurd hquiet hkept, shcDropbytes_src _ _,
      ⟨_, by rw [hframed]; exact holds_dropall shc⟩, ?_⟩
    · unfold shTryCmdparsing
      rw [if_neg (h.bytesRead_ne hne), h.take_bytesRead, hcmdlen, h.bytesRead]
      dsimp only
      rw [if_pos (by omega)]
      rfl
    · rw [leftOver, hframed]
      rfl

theorem Holds.parsed_overlong (h : Holds shc queue tail) (hzero : 0 ∈ queue)
    (hlong : strlen queue > shCmdlen) : ∃ parsedata after, Parsed shc queue parsedata after := by
  have hcmdlen := memchrZero_of_mem hzero
  have hframed : framed queue = (queue.drop (strlen queue + 2), strlen queue + 2) := by
    simp only [framed, hcmdlen, hlong, if_true]
  have hcode : shCmderrInvalidcmd ≠ shWrnKeepreadnmore := by decide
  let parsedata : SocketCmdparsedata :=
    ⟨strlen queue, 0, invalidCommand shc (strlen queue), shCmderrInvalidcmd⟩
  have hdropped := shcDropmessage_zero parsedata shc
  have hkept : (framed queue).1 ≠ queue := by
    rw [hframed]
    intro hsame
    have hlength := congrArg List.length hsame
    have hlt := strlen_lt_of_mem hzero
    rw [List.length_drop] at hlength
    omega
  refine ⟨parsedata, (shcDropmessage parsedata shc).2, ?_, hcode, fun hquiet => absurd hquiet hkept,
    shcDropbytes_src _ _, ?_, ?_⟩
  · unfold shTryCmdparsing
    rw [if_neg (h.bytesRead_ne (List.ne_nil_of_mem hzero)), h.take_bytesRead, hcmdlen]
    simp only [hlong, if_true, SocketCmdparsedata.zeroed]
    rw [orExit, if_pos hdropped]
    rfl
  · rw [hframed]
    exact h.dropmessage parsedata
  · rw [leftOver, hframed]
    rfl

theorem Holds.parsing_short (h : Holds shc queue tail) (hzero : 0 ∈ queue)
    (hshort : ¬strlen queue > shCmdlen) :
    shTryCmdparsing shc .zeroed =
      match memchrZero (queue.drop (strlen queue + 1) ++ tail) with
      | none =>
        if queue.length = shcMaxtransportdata then
          some (0, ⟨strlen queue, 0, dataTooLong shc, shCmderrDatatoolon⟩,
            (shcDropbytes shcMaxtransportdata shc).2)
        else some (0, ⟨strlen queue, 0, [], shWrnKeepreadnmore⟩, shc)
      | some datalen => some (0, ⟨strlen queue, datalen, [], 0⟩, shc) := by
  have hsize := h.size
  have hlt := strlen_lt_of_mem hzero
  have hregion : (shc.buffer.drop (strlen queue + 1)).take
      (shcMaxtransportdata - strlen queue - 1) = queue.drop (strlen queue + 1) ++ tail := by
    rw [h.buffer, List.drop_append_of_le_length hlt, List.take_of_length_le]
    rw [List.length_append, List.length_drop]
    omega
  unfold shTryCmdparsing
  rw [if_neg (h.bytesRead_ne (List.ne_nil_of_mem hzero)), h.take_bytesRead, memchrZero_of_mem hzero]
  dsimp only
  rw [if_neg hshort, hregion, h.bytesRead]
  rfl

theorem Holds.parsed_short (h : Holds shc queue tail) (hzero : 0 ∈ queue)
    (hshort : ¬strlen queue > shCmdlen) : ∃ parsedata after, Parsed shc queue parsedata after := by
  have hsize := h.size
  have hlt := strlen_lt_of_mem hzero
  have hparsing := h.parsing_short hzero hshort
  have hframed := framed_of_mem hzero hshort
  have hcode : 0 ≠ shWrnKeepreadnmore := by decide
  generalize hdata : queue.drop (strlen queue + 1) = data at hparsing hframed
  by_cases hend : 0 ∈ data
  · have hfound := memchrZero_of_mem (List.mem_append_left tail hend)
    rw [strlen, cString_append_of_mem hend] at hfound
    rw [hfound] at hparsing
    rw [memchrZero_of_mem hend] at hframed
    refine ⟨_, _, hparsing, hcode, fun _ => rfl, rfl, ⟨tail, by rw [hframed]; exact h⟩, ?_⟩
    rw [leftOver, hframed]
    rfl
  · rw [memchrZero_of_not_mem hend] at hframed
    by_cases hroom : queue.length < shcMaxtransportdata
    · -- the zero byte is found behind the bytes that were read
      have hfound := memchrZero_of_mem (List.mem_append_right data (h.zero_mem hroom))
      rw [strlen, cString_append_of_not_mem hend, List.length_append] at hfound
      rw [hfound] at hparsing
      dsimp only at hframed
      rw [if_pos hroom] at hframed
      refine ⟨_, _, hparsing, hcode, fun _ => rfl, rfl, ⟨tail, by rw [hframed]; exact h⟩, ?_⟩
      rw [leftOver, hframed]
      dsimp only
      rw [List.drop_length, List.drop_eq_nil_of_le]
      rw [← hdata, List.length_drop]
      omega
    · have htoo : shCmderrDatatoolon ≠ shWrnKeepreadnmore := by decide
      have hnil : tail = [] := List.eq_nil_of_length_eq_zero (by omega)
      rw [hnil, List.append_nil, memchrZero_of_not_mem hend] at hparsing
      dsimp only at hparsing hframed
      rw [if_pos (by omega)] at hparsing
      rw [if_neg hroom] at hframed
      have hkept : (framed queue).1 ≠ queue := by
        rw [hframed]
        exact (List.ne_nil_of_mem hzero).symm
      refine ⟨_, _, hparsing, htoo, fun hquiet => absurd hquiet hkept, shcDropbytes_src _ _,
        ⟨_, by rw [hframed]; exact holds_dropall shc⟩, ?_⟩
      rw [leftOver, hframed]
      rfl

theorem Holds.parsed (h : Holds shc queue tail) (hne : queue ≠ []) :
    ∃ parsedata after, Parsed shc queue parsedata after := by
  by_cases hzero : 0 ∈ queue
  · by_cases hlong : strlen queue > shCmdlen
    · exact h.parsed_overlong hzero hlong
    · exact h.parsed_short hzero hlong
  · exact h.parsed_unframed hne hzero

end

end Vmstated.Libsocket
