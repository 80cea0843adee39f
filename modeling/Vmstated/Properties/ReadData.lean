import Vmstated.Libsocket.ReadLoop

/-! Reading into the buffer, whatever the calls of `read` come to. -/
namespace Vmstated.Properties
open Library Libsocket

/-- The loop ends, no call reaches behind the buffer, what was delivered is
counted, and a failure is reported. -/
def ReadsRight (bytesReady : Nat) (shc : SocketConnection) (results : Results) : Prop :=
  ∃ rounds result after, shReadDataWithin rounds bytesReady shc results = some (result, after) ∧
    (∀ call ∈ readCalls rounds (readVars bytesReady shc) results,
      call.offset + call.toRead ≤ shcMaxtransportdata) ∧
    after.bytesRead = shc.bytesRead + callBytes
      (readCalls rounds (readVars bytesReady shc) results) ∧
    after.bytesRead ≤ shcMaxtransportdata ∧
    ((∃ call ∈ readCalls rounds (readVars bytesReady shc) results, call.done = none) → result ≠ 0)

theorem readsRight_of_succeeding {bytesReady : Nat} {shc : SocketConnection} {results : Results}
    (h : Reading (readVars bytesReady shc)) (hlegal : Legal (readVars bytesReady shc) results)
    (hquiet : Succeeding (readVars bytesReady shc).bytesRemaining bytesReady results) :
    ReadsRight bytesReady shc results := by
  obtain ⟨after, hends, hfinished⟩ := h.finishes hlegal hquiet (Nat.lt_succ_self _)
  have hremaining := hfinished.reading.remaining
  refine ⟨_, 0, { shc with bytesRead := after.bytesRead, buffer := after.buffer },
    ?_, hfinished.inside, hfinished.bytesRead, by dsimp only; omega, ?_⟩
  · rw [shReadDataWithin, hends]
    rfl
  · rintro ⟨call, hcall, hnone⟩
    exact absurd hnone (hfinished.succeeded call hcall)

theorem succeeding_of_readsRight {bytesReady : Nat} {shc : SocketConnection} {results : Results}
    (h : Reading (readVars bytesReady shc)) (hlegal : Legal (readVars bytesReady shc) results)
    (hright : ReadsRight bytesReady shc results) :
    Succeeding (readVars bytesReady shc).bytesRemaining bytesReady results := by
  intro count hall hlt hne hfails
  obtain ⟨rounds, result, after, hread, _, _, _, hreports⟩ := hright
  obtain ⟨ended, hends, heq⟩ := Option.map_eq_some_iff.mp hread
  cases heq
  exact hreports (failed_call h hlegal hall hlt hne hfails hends) rfl

/-- Reading goes right just where no call that is made fails. -/
theorem readData_right_iff (shc : SocketConnection)
    (hbuffer : shc.buffer.length = shcMaxtransportdata)
    (hread : shc.bytesRead ≤ shcMaxtransportdata) (bytesReady : Nat) (hready : bytesReady < 2 ^ 64)
    (results : Results) (hlegal : Legal (readVars bytesReady shc) results) :
    ReadsRight bytesReady shc results ↔
      ∀ count, (∀ i < count, Delivers (results i)) →
        delivered count results < shcMaxtransportdata - shc.bytesRead →
        (∀ i ≤ count, delivered i results ≠ bytesReady) → results count ≠ none := by
  have hreading := Sized.reading ⟨hbuffer, hread⟩ hready
  have hremaining : (readVars bytesReady shc).bytesRemaining =
      shcMaxtransportdata - shc.bytesRead :=
    Nat.eq_sub_of_add_eq' hreading.remaining
  rw [← hremaining]
  exact ⟨succeeding_of_readsRight hreading hlegal, readsRight_of_succeeding hreading hlegal⟩

def twoBytes : Results
  | 0 => some [65, 66]
  | _ + 1 => some []

theorem legal_twoBytes : Legal (readVars 2 shcNew) twoBytes := by
  intro rounds call hcall bytes hbytes
  cases rounds with
  | zero => contradiction
  | succ rounds =>
    have hdelivers : Delivers (twoBytes 0) := ⟨[65, 66], rfl, by decide⟩
    rw [readCalls_delivers (by decide) hdelivers] at hcall
    rcases List.mem_cons.mp hcall with hfirst | hlater
    · rw [hfirst] at hbytes ⊢
      cases hbytes
      decide
    · cases rounds with
      | zero => contradiction
      | succ rounds =>
        rw [readCalls, if_pos (by decide)] at hlater
        contradiction

theorem readData_right_twoBytes : ReadsRight 2 shcNew twoBytes := by
  have hright :=
    readData_right_iff shcNew (zeros_length _) (Nat.zero_le _) 2 (by decide) twoBytes legal_twoBytes
  rw [hright]
  intro count _ _ _
  cases count with
  | zero => exact Option.some_ne_none _
  | succ count => exact Option.some_ne_none _

theorem legal_failing (vars : ReadVars) : Legal vars fun _ => none := by
  intro rounds
  induction rounds generalizing vars with
  | zero => exact fun _ hcall => absurd hcall List.not_mem_nil
  | succ rounds ih =>
    intro call hcall bytes hbytes
    rw [readCalls] at hcall
    split at hcall
    · contradiction
    · rcases List.mem_cons.mp hcall with hfirst | hlater
      · rw [hfirst] at hbytes
        contradiction
      · exact ih (vars.advance none) call hlater bytes hbytes

theorem readData_wrong_failing :
    Legal (readVars 5 shcNew) (fun _ => none) ∧ ¬ReadsRight 5 shcNew fun _ => none := by
  refine ⟨legal_failing _, ?_⟩
  rintro ⟨rounds, result, after, hread, _, _, _, hreports⟩
  cases rounds with
  | zero => contradiction
  | succ rounds =>
    obtain ⟨ended, _, heq⟩ := Option.map_eq_some_iff.mp hread
    cases heq
    apply hreports _ rfl
    rw [readCalls, if_neg (by decide)]
    exact ⟨_, List.mem_cons_self, rfl⟩

end Vmstated.Properties
