import Vmstated.Libsocket.Exchange

/-! Requests with any payload, one after the other on a connection. -/
namespace Vmstated.Properties
open Library Libsocket

structure Request where
  cmd : List UInt8
  payload : List UInt8
  listeners : List Listener
  cmd_ne : ∀ byte ∈ cmd, byte ≠ 0
  short : cmd.length ≤ shCmdlen
  fits : cmd.length + payload.length + 1 ≤ shcMaxtransportdata

def Request.bytes (request : Request) : List UInt8 := request.cmd ++ 0 :: request.payload

def Request.exchange (request : Request) : Exchange := ⟨request.bytes, request.listeners⟩

def Request.dispatch (request : Request) : Dispatch :=
  ⟨request.cmd, request.payload, request.payload.length⟩

/-- What is left is one message with too long a command and no data, and goes
as a whole. -/
def Overlong (left : List UInt8) : Prop :=
  shCmdlen < strlen left ∧ strlen left + 2 = left.length

instance (left : List UInt8) : Decidable (Overlong left) := inferInstanceAs (Decidable (_ ∧ _))

/-- No request is in the way of the next one. The payload of a request ends
for the server with its first zero byte; the bytes behind it are left. -/
def Isolated : List UInt8 → List Request → Prop
  | _, [] => True
  | [], request :: requests =>
    (request.bytes.length < shcMaxtransportdata ∨ 0 ∈ request.payload) ∧
      Isolated (request.payload.drop (strlen request.payload + 1)) requests
  | left@(_ :: _), request :: requests =>
    Overlong left ∧ left.length + request.bytes.length ≤ shcMaxtransportdata ∧
      Isolated (request.bytes.drop left.length) requests

section
variable (request : Request)

theorem Request.bytes_length :
    request.bytes.length = request.cmd.length + request.payload.length + 1 := by
  rw [bytes, List.length_append, List.length_cons]
  omega

theorem Request.bytes_ne_nil : request.bytes ≠ [] := by
  rw [← List.length_pos_iff, bytes_length]
  omega

theorem Request.zero_mem : 0 ∈ request.bytes := by
  rw [bytes]
  simp

theorem framed_alone : (framed request.bytes).1 = request.bytes ↔
    request.bytes.length < shcMaxtransportdata ∨ 0 ∈ request.payload := by
  by_cases hend : 0 ∈ request.payload
  · have hframed : (framed request.bytes).1 = request.bytes := by
      rw [Request.bytes, framed_of_short request.cmd_ne request.short, memchrZero_of_mem hend]
    exact ⟨fun _ => Or.inr hend, fun _ => hframed⟩
  · have hframed : framed request.bytes = if request.bytes.length < shcMaxtransportdata then
        (request.bytes, request.bytes.length) else ([], request.cmd.length + 2) := by
      rw [Request.bytes, framed_of_short request.cmd_ne request.short, memchrZero_of_not_mem hend]
    rw [hframed]
    split
    · rename_i hroom
      exact ⟨fun _ => Or.inl hroom, fun _ => rfl⟩
    · rename_i hfull
      constructor
      · intro hnil
        exact absurd hnil.symm request.bytes_ne_nil
      · rintro (hroom | hzero)
        · exact absurd hroom hfull
        · exact absurd hzero hend

theorem leftOver_alone (h : request.bytes.length < shcMaxtransportdata ∨ 0 ∈ request.payload) :
    leftOver request.bytes = request.payload.drop (strlen request.payload + 1) := by
  have hbehind (count : Nat) : request.bytes.drop (request.cmd.length + count + 2) =
      request.payload.drop (count + 1) := by
    have hsum : request.cmd.length + count + 2 = request.cmd.length + (1 + (count + 1)) := by omega
    rw [hsum, Request.bytes, ← List.drop_drop, List.drop_left,
      ← List.drop_drop, List.drop_one, List.tail_cons]
  by_cases hend : 0 ∈ request.payload
  · have hframed : framed request.bytes =
        (request.bytes, request.cmd.length + strlen request.payload + 2) := by
      rw [Request.bytes, framed_of_short request.cmd_ne request.short, memchrZero_of_mem hend]
    rw [leftOver, hframed]
    exact hbehind (strlen request.payload)
  · have hroom := h.resolve_right hend
    have hframed : framed request.bytes = (request.bytes, request.bytes.length) := by
      rw [Request.bytes, framed_of_short request.cmd_ne request.short, memchrZero_of_not_mem hend]
      exact if_pos hroom
    rw [leftOver, hframed, List.drop_length, strlen_of_not_mem hend,
      List.drop_eq_nil_of_le (Nat.le_succ _)]

theorem framed_overlong {left : List UInt8} (h : Overlong left) :
    framed (left ++ request.bytes) = (request.bytes, left.length) := by
  obtain ⟨hlong, hlength⟩ := h
  have hzero : 0 ∈ left := by
    by_contra hnone
    rw [strlen_of_not_mem hnone] at hlength
    omega
  obtain ⟨more, hleft⟩ := eq_cString_append hzero
  have hmore : more.length = 1 := by
    have hcounted := congrArg List.length hleft
    rw [List.length_append, List.length_cons] at hcounted
    unfold strlen at hlength
    omega
  obtain ⟨byte, rfl⟩ := List.length_eq_one_iff.mp hmore
  rw [← hlength]
  conv_lhs => rw [hleft, List.append_assoc, List.cons_append]
  rw [framed_of_long (cString_ne_zero left) hlong]
  rfl

theorem framed_behind {left : List UInt8} (hne : left ≠ []) :
    (framed (left ++ request.bytes)).1 = request.bytes ↔ Overlong left := by
  constructor
  · intro hframed
    have hlength := congrArg List.length hframed
    have hbytes := request.bytes_length
    obtain ⟨rest, hsplit⟩ := eq_cString_append (List.mem_append_right left request.zero_mem)
    have hcmd := cString_ne_zero (left ++ request.bytes)
    generalize cString (left ++ request.bytes) = cmd at hsplit hcmd
    have hcounted := congrArg List.length hsplit
    rw [List.length_append, List.length_append, List.length_cons] at hcounted
    have hpos := List.length_pos_iff.mpr hne
    rw [hsplit] at hlength
    rcases Nat.lt_or_ge shCmdlen cmd.length with hlong | hshort
    · rw [framed_of_long hcmd hlong, List.length_drop] at hlength
      have hleft : left = cmd ++ 0 :: rest.take 1 := by
        have htake := congrArg (List.take left.length) hsplit
        have hsum : left.length = cmd.length + (1 + 1) := by omega
        rw [List.take_left, hsum, List.take_length_add_append, List.take_succ_cons] at htake
        exact htake
      have hstring : strlen left = cmd.length := by
        rw [strlen, hleft, cString_append hcmd]
      exact ⟨by omega, by omega⟩
    · rcases framed_short_cases hcmd hshort with hkept | hdropped
      · rw [hkept, ← hsplit, List.length_append] at hlength
        omega
      · rw [hdropped, List.length_nil] at hlength
        omega
  · intro h
    rw [framed_overlong request h]

theorem leftOver_behind {left : List UInt8} (h : Overlong left) :
    leftOver (left ++ request.bytes) = request.bytes.drop left.length := by
  rw [leftOver, framed_overlong request h]

end

theorem dispatch_iff {request : Request} {queue : List UInt8} {dispatch : Dispatch}
    (h : Hands (framed queue).1 dispatch) :
    dispatch = request.dispatch ↔ (framed queue).1 = request.bytes := by
  constructor
  · rintro rfl
    have hfits := request.fits
    have hdatalen : request.dispatch.datalen = request.payload.length := rfl
    exact h.queue_eq (by omega)
  · intro hframed
    rw [hframed] at h
    exact h.message request.cmd request.payload rfl request.cmd_ne

theorem Isolated.fits {left : List UInt8} {request : Request} {requests : List Request}
    (h : Isolated left (request :: requests)) :
    left.length + request.bytes.length ≤ shcMaxtransportdata := by
  cases left with
  | nil =>
    have hfits := request.fits
    rw [request.bytes_length, List.length_nil]
    omega
  | cons byte left => exact h.2.1

/-- The requests are isolated if the first one is handed on, and those after it
are isolated from what it leaves. -/
theorem isolated_cons_iff {left : List UInt8} {request : Request} {requests : List Request}
    (hfits : left.length + request.bytes.length ≤ shcMaxtransportdata) :
    (framed (left ++ request.bytes)).1 = request.bytes ∧
        Isolated (leftOver (left ++ request.bytes)) requests ↔
      Isolated left (request :: requests) := by
  cases left with
  | nil =>
    rw [List.nil_append, framed_alone, Isolated]
    apply and_congr_right
    intro halone
    rw [leftOver_alone request halone]
  | cons byte left =>
    rw [framed_behind request (List.cons_ne_nil byte left), Isolated]
    apply and_congr_right
    intro hover
    rw [← leftOver_behind request hover]
    exact (and_iff_right hfits).symm

def handed (transits : List (Transit Client Exchange (List Dispatch))) : List Dispatch :=
  transits.flatMap Transit.output

theorem requests_handed {requests : List Request} {client : Client} {left : List UInt8}
    (h : Quiet client left) :
    ∃ transits after, exchange.exec client (requests.map Request.exchange) =
      some (transits, after) ∧ requests.length ≤ (handed transits).length ∧
      (handed transits = requests.map Request.dispatch ↔ Isolated left requests) := by
  induction requests generalizing client left with
  | nil => exact ⟨[], client, rfl, Nat.le_refl _, by cases left <;> simp [Isolated, handed]⟩
  | cons request requests ih =>
    by_cases hfits : left.length + request.bytes.length ≤ shcMaxtransportdata
    · obtain ⟨dispatch, next, hstep, hhandled, hquiet⟩ :=
        exchange_fits h request.exchange request.bytes_ne_nil hfits
      obtain ⟨rest, after, hexec, hcount, hiff⟩ := ih hquiet
      refine ⟨_, after, Machine.exec_of_cons hstep hexec, ?_, ?_⟩
      · rw [handed, List.flatMap_cons, List.length_append, List.length_cons]
        exact (Nat.add_comm _ _).trans_le (Nat.add_le_add_left hcount 1)
      · have hhands : Hands (framed (left ++ request.bytes)).1 dispatch := hhandled.hands
        have hfirst := @dispatch_iff request _ _ hhands
        rw [handed, List.flatMap_cons, List.map_cons, List.singleton_append,
          List.cons.injEq, hfirst, ← isolated_cons_iff hfits]
        exact and_congr_right fun _ => hiff
    · -- the rest of the request is taken for another one
      have hlt : request.bytes.length < 2 ^ 63 := by
        have hshort := request.fits
        rw [request.bytes_length]
        unfold shcMaxtransportdata at hshort
        omega
      obtain ⟨dispatches, next, more, hstep, hquiet, htwo⟩ :=
        exchange_long h request.exchange hlt (Nat.lt_of_not_le hfits)
      obtain ⟨rest, after, hexec, hcount, _⟩ := ih hquiet
      have hlength : requests.length + 2 ≤ (dispatches ++ rest.flatMap Transit.output).length := by
        rw [List.length_append]
        unfold handed at hcount
        omega
      have hdiffer : dispatches ++ rest.flatMap Transit.output ≠
          (request :: requests).map Request.dispatch := by
        intro hsame
        rw [hsame, List.length_map, List.length_cons] at hlength
        omega
      refine ⟨_, after, Machine.exec_of_cons hstep hexec, ?_, ?_⟩
      · rw [handed, List.flatMap_cons, List.length_cons]
        dsimp only
        omega
      · rw [handed, List.flatMap_cons]
        exact iff_of_false hdiffer fun hisolated => hfits hisolated.fits

/-- On a new connection the listeners get the requests, one by one and
unchanged, if none is in the way of another. -/
theorem requests_isolated_iff (requests : List Request) {incoming outgoing : Counts}
    (hincoming : Flowing incoming) (houtgoing : Flowing outgoing) :
    ∃ transits after,
      exchange.exec ⟨shcNew, ⟨[], incoming⟩, ⟨[], outgoing⟩⟩ (requests.map Request.exchange) =
        some (transits, after) ∧
      (handed transits = requests.map Request.dispatch ↔ Isolated [] requests) := by
  have hnew : Quiet ⟨shcNew, ⟨[], incoming⟩, ⟨[], outgoing⟩⟩ [] :=
    ⟨⟨_, holds_zeroed srcNew⟩, by decide, rfl, hincoming, houtgoing⟩
  obtain ⟨transits, after, hexec, _, hiff⟩ := @requests_handed requests _ _ hnew
  exact ⟨transits, after, hexec, hiff⟩

def textRequest : Request :=
  ⟨bhyv, ascii "status", [], bhyv_ne_zero, bhyv_short, by decide⟩

theorem requests_isolated_iff_text :
    ∃ transits after,
      exchange.exec ⟨shcNew, ⟨[], pages⟩, ⟨[], pages⟩⟩
        [textRequest.exchange, textRequest.exchange] =
        some (transits, after) ∧ handed transits =
          [textRequest.dispatch, textRequest.dispatch] := by
  obtain ⟨transits, after, hexec, hiff⟩ :=
    requests_isolated_iff [textRequest, textRequest] pages_flowing pages_flowing
  exact ⟨transits, after, hexec, hiff.mpr ⟨by decide, by decide, trivial⟩⟩

/-- The first bytes of a packed nvlist: a magic number, the version 0, and more. -/
def nvlistRequest : Request :=
  ⟨bhyv, [108, 0, 0, 1], [], bhyv_ne_zero, bhyv_short, by decide⟩

/-- What the first payload leaves is taken for the beginning of the second request. -/
theorem requests_not_isolated :
    ¬∀ requests : List Request, ∃ transits after,
      exchange.exec ⟨shcNew, ⟨[], pages⟩, ⟨[], pages⟩⟩ (requests.map Request.exchange) =
        some (transits, after) ∧ handed transits = requests.map Request.dispatch := by
  have hrun : (exchange.exec ⟨shcNew, ⟨[], pages⟩, ⟨[], pages⟩⟩
      [nvlistRequest.exchange, nvlistRequest.exchange]).any
        (fun run => handed run.1 != [nvlistRequest.dispatch, nvlistRequest.dispatch]) = true := by
    decide +kernel
  obtain ⟨⟨transits, after⟩, hexec, hother⟩ := (Option.any_eq_true _ _).mp hrun
  intro hisolated
  obtain ⟨run, last, hrun, hhanded⟩ := hisolated [nvlistRequest, nvlistRequest]
  cases hexec.symm.trans hrun
  exact bne_iff_ne.mp hother hhanded

end Vmstated.Properties
