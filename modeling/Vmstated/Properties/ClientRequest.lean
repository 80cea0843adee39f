import Vmstated.Libsocket.SendLoop

/-! Requests of a client whose calls of `write` take what they like. -/
namespace Vmstated.Properties
open Library Libsocket

def writing (writes : Nat → Nat) : Sink UInt8 := ⟨[], fun i => some (writes i)⟩

/-- A loop that ends, has written the request and never asked for more than that. -/
def SendsRequest (command payload : List UInt8)
    (send : Nat → Option (Int × List WriteCall × Sink UInt8)) : Prop :=
  ∃ rounds result calls sink, send rounds = some (result, calls, sink) ∧
    sink.written = command ++ 0 :: payload ∧
    ∀ call ∈ calls, call.offset + call.len ≤ command.length + payload.length + 1

section
variable {memory : Nat → UInt8} {sendlen : Nat} (hpositive : 0 < sendlen)
  (hsize : sendlen ≤ shcMaxtransportdata) {writes : Nat → Nat} (hpos : ∀ i, 0 < writes i)
include hpositive hsize hpos

theorem first_write (rounds : Nat) : sendLoop memory sendlen (rounds + 1) 0 0 (writing writes) =
    (sendLoop memory sendlen rounds (min (writes 0) sendlen) (min (writes 0) sendlen)
      ⟨bytesAt memory 0 (min (writes 0) sendlen), (writing writes).counts.rest⟩).map
        fun sent => (⟨0, sendlen⟩ :: sent.1, sent.2) := by
  have hstep :=
    @sendLoop_step memory sendlen 0 0 (writes 0) (writing writes) hsize hpositive hpositive rfl
      (hpos 0) rounds
  dsimp only at hstep
  rw [Nat.sub_zero, Nat.zero_add] at hstep
  exact hstep

omit hpositive in
theorem second_write (hless : writes 0 < sendlen) (rounds : Nat) :
    sendLoop memory sendlen (rounds + 1) (writes 0) (writes 0)
        ⟨bytesAt memory 0 (writes 0), (writing writes).counts.rest⟩ =
      (sendLoop memory sendlen rounds (min (writes 1) (sendlen - writes 0))
        (writes 0 + min (writes 1) (sendlen - writes 0))
        ⟨bytesAt memory 0 (writes 0 + min (writes 1) (sendlen - writes 0)),
          (writing writes).counts.rest.rest⟩).map
          fun sent => (⟨writes 0, sendlen - writes 0⟩ :: sent.1, sent.2) := by
  have hstep := @sendLoop_step memory sendlen (writes 0) (writes 0) (writes 1)
    ⟨bytesAt memory 0 (writes 0), (writing writes).counts.rest⟩ hsize hless hless rfl
      (hpos 1) rounds
  have hbytes := bytesAt_add memory 0 (writes 0) (min (writes 1) (sendlen - writes 0))
  rw [Nat.zero_add] at hbytes
  dsimp only at hstep
  rw [hbytes] at hstep
  exact hstep

theorem sendLoop_of_two (htwo : sendlen ≤ writes 0 + writes 1) :
    ∃ calls counts, sendLoop memory sendlen 3 0 0 (writing writes) =
      some (calls, ⟨bytesAt memory 0 sendlen, counts⟩) ∧ ∀ call ∈ calls,
        call.offset + call.len ≤ sendlen := by
  rw [first_write hpositive hsize hpos]
  by_cases hall : sendlen ≤ writes 0
  · rw [Nat.min_eq_right hall, sendLoop_done]
    refine ⟨[⟨0, sendlen⟩], _, rfl, ?_⟩
    intro call hcall
    rw [List.mem_singleton.mp hcall]
    exact (Nat.zero_add sendlen).le
  · have hrest : min (writes 1) (sendlen - writes 0) = sendlen - writes 0 := by omega
    rw [Nat.min_eq_left (by omega), second_write hsize hpos (by omega), hrest,
      Nat.add_sub_cancel' (by omega), sendLoop_done]
    refine ⟨[⟨0, sendlen⟩, ⟨writes 0, sendlen - writes 0⟩], _, rfl, ?_⟩
    intro call hcall
    rcases List.mem_cons.mp hcall with hfirst | hsecond
    · rw [hfirst]
      exact (Nat.zero_add sendlen).le
    · rw [List.mem_singleton.mp hsecond]
      dsimp only
      omega

theorem third_call (hmore : writes 0 + writes 1 < sendlen) {rounds : Nat} {calls : List WriteCall}
    {sink : Sink UInt8}
    (hends : sendLoop memory sendlen rounds 0 0 (writing writes) = some (calls, sink)) :
    ⟨writes 0 + writes 1, sendlen - writes 1⟩ ∈ calls := by
  have hfirst := hpos 0
  obtain ⟨more, rfl⟩ : ∃ more, rounds = more + 1 := by
    cases rounds with
    | zero => contradiction
    | succ more => exact ⟨more, rfl⟩
  rw [first_write hpositive hsize hpos, Nat.min_eq_left (by omega)] at hends
  obtain ⟨sent, hsent, heq⟩ := Option.map_eq_some_iff.mp hends
  cases heq
  apply List.mem_cons_of_mem
  cases more with
  | zero => contradiction
  | succ more =>
    rw [second_write hsize hpos (by omega), Nat.min_eq_left (by omega)] at hsent
    obtain ⟨sent', hsent', heq⟩ := Option.map_eq_some_iff.mp hsent
    cases heq
    apply List.mem_cons_of_mem
    cases more with
    | zero => contradiction
    | succ more =>
      rw [sendLoop_step hsize (by omega) hmore rfl (hpos 2)] at hsent'
      obtain ⟨last, _, heq⟩ := Option.map_eq_some_iff.mp hsent'
      cases heq
      exact List.mem_cons_self

end

theorem sendRequest_iff {command payload : List UInt8}
    (hfits : command.length + payload.length + 1 ≤ shcMaxtransportdata) {writes : Nat → Nat}
    (hpos : ∀ i, 0 < writes i) (behind : Nat → UInt8) :
    SendsRequest command payload
      (fun rounds => sendRequest rounds command payload behind (writing writes)) ↔
      command.length + payload.length + 1 ≤ writes 0 + writes 1 := by
  have hsend (rounds : Nat) : sendRequest rounds command payload behind (writing writes) =
      (sendLoop (sendMemory command payload behind) (command.length + payload.length + 1) rounds 0 0
        (writing writes)).map fun sent => (0, sent) := by
    unfold sendRequest
    rw [if_neg (by omega)]
  constructor
  · rintro ⟨rounds, result, calls, sink, hends, _, hinside⟩
    by_contra hmore
    obtain ⟨sent, hsent, heq⟩ := Option.map_eq_some_iff.mp ((hsend rounds).symm.trans hends)
    cases heq
    have hthird := hinside _ (third_call (by omega) hfits hpos (by omega) hsent)
    have hfirst := hpos 0
    dsimp only at hthird
    omega
  · intro htwo
    obtain ⟨calls, counts, hends, hinside⟩ :=
      @sendLoop_of_two (sendMemory command payload behind) _ (Nat.succ_pos _) hfits writes hpos htwo
    rw [Nat.succ_eq_add_one, sendMemory_request hfits behind] at hends
    exact ⟨3, 0, calls, ⟨command ++ 0 :: payload, counts⟩,
      (hsend 3).trans (congrArg (Option.map _) hends), rfl, hinside⟩

/-- Both clients send their request just where two writes take all of it. -/
theorem request_sent_iff (command payload : List UInt8)
    (hfits : command.length + payload.length + 1 ≤ shcMaxtransportdata) (writes : Nat → Nat)
    (hpos : ∀ i, 0 < writes i) (behind : Nat → UInt8) :
    (SendsRequest command payload
      (fun rounds => scSendDynamic rounds command payload behind (writing writes)) ↔
      command.length + payload.length + 1 ≤ writes 0 + writes 1) ∧
    (SendsRequest command payload
      (fun rounds => scSendLen rounds command payload behind (writing writes)) ↔
      command.length + payload.length + 1 ≤ writes 0 + writes 1) :=
  ⟨sendRequest_iff hfits hpos behind, sendRequest_iff hfits hpos behind⟩

theorem request_sent_status : SendsRequest bhyv (ascii "status")
    fun rounds => scSendDynamic rounds bhyv (ascii "status") (fun _ => 0) (writing fun _ => 6) :=
  (request_sent_iff bhyv (ascii "status") (by decide) (fun _ => 6) (fun _ => by decide) fun _ =>
    0).1.mpr (by decide)

theorem request_not_sent : ¬SendsRequest bhyv (ascii "status")
    fun rounds => scSendDynamic rounds bhyv (ascii "status") (fun _ => 0) (writing fun _ => 4) := by
  have hfits : bhyv.length + (ascii "status").length + 1 ≤ shcMaxtransportdata := by decide
  intro hsends
  have htwo := (@sendRequest_iff bhyv (ascii "status") hfits
      (fun _ => 4) (fun _ => by decide) fun _ => 0).mp hsends
  exact absurd htwo (by decide)

end Vmstated.Properties
