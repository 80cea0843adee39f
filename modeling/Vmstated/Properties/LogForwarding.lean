import Vmstated.Liblogging.LogDirector

/-! What a process writes to its pipe, in the log file. -/
namespace Vmstated.Properties
open Library Liblogging

section
variable (answers : RecvAnswers) (bytesReady : Nat) (pipe : PipeEnd) (log : Sink UInt8)

/-- The call comes to an end, and adds to the log what it has read. -/
def ForwardsLosslessly : Prop :=
  ∃ fuel result after logged bytes,
    ldrRecvOndata fuel answers bytesReady pipe log = some (result, after, logged) ∧
    after.delivered = pipe.delivered ++ bytes ∧ logged.written = log.written ++ bytes

def freshBuffer (fresh : Nat → UInt8) : List UInt8 := (List.range bytesReady).map fresh

def readStart (fresh : Nat → UInt8) : ReadState :=
  ⟨bytesReady, 0, freshBuffer bytesReady fresh, pipe⟩

end

variable {answers : RecvAnswers} {bytesReady : Nat} {pipe : PipeEnd} {log : Sink UInt8}

theorem freshBuffer_length (bytesReady : Nat) (fresh : Nat → UInt8) :
    (freshBuffer bytesReady fresh).length = bytesReady := by
  rw [freshBuffer, List.length_map, List.length_range]

theorem recv_iff {fresh : Nat → UInt8} (hlock : answers.lockOk = true)
    (hbuffer : answers.buffer = some fresh) {result : Int} {after : PipeEnd} {logged : Sink UInt8} :
    (∃ fuel, ldrRecvOndata fuel answers bytesReady pipe log = some (result, after, logged)) ↔
      result = 0 ∧ ∃ s t, Ends readRound (readStart bytesReady pipe fresh) () s ∧
        Ends writeRound ⟨bytesReady, 0, s.buffer, log⟩ () t ∧ after = s.pipe ∧ logged = t.log := by
  constructor
  · rintro ⟨fuel, hcall⟩
    simp only [ldrRecvOndata, hlock, hbuffer, Bool.not_true, Bool.false_eq_true, ↓reduceIte]
      at hcall
    split at hcall
    · contradiction
    · rename_i s hread
      split at hcall
      · contradiction
      · rename_i t hwrite
        cases hcall
        exact ⟨rfl, s, t, ⟨fuel, hread⟩, ⟨fuel, hwrite⟩, rfl, rfl⟩
  · rintro ⟨rfl, s, t, ⟨fuel, hread⟩, ⟨fuel', hwrite⟩, rfl, rfl⟩
    have hread' := loop_mono (Nat.le_max_left fuel fuel') hread
    have hwrite' := loop_mono (Nat.le_max_right fuel fuel') hwrite
    unfold readStart freshBuffer at hread'
    refine ⟨max fuel fuel', ?_⟩
    simp only [ldrRecvOndata, hlock, hbuffer, Bool.not_true,
      Bool.false_eq_true, ↓reduceIte, hread', hwrite']

theorem written_all {fresh : Nat → UInt8} (hflow : Flowing log.counts)
    {s : ReadState} {bytes : List UInt8}
    (hread : HasRead (readStart bytesReady pipe fresh) s bytes) :
    ∃ t, Ends writeRound ⟨bytesReady, 0, s.buffer, log⟩ () t ∧
      t.log.written = log.written ++ overlay 0 bytes (freshBuffer bytesReady fresh) ∧
      (overlay 0 bytes (freshBuffer bytesReady fresh)).length = bytesReady := by
  have hle : bytes.length ≤ bytesReady := hread.length_le
  have hfresh := freshBuffer_length bytesReady fresh
  have hlength : (overlay 0 bytes (freshBuffer bytesReady fresh)).length = bytesReady := by
    rw [overlay_length (by omega), hfresh]
  have hbuffer : s.buffer = overlay 0 bytes (freshBuffer bytesReady fresh) := hread.buffer
  obtain ⟨t, hends, hwritten⟩ :=
    @write_ends ⟨bytesReady, 0, s.buffer, log⟩ hflow (by rw [hbuffer, hlength]; simp)
  refine ⟨t, hends, ?_, hlength⟩
  rw [hwritten, hbuffer, List.drop_zero, List.take_of_length_le (by rw [hlength])]

theorem forwards_iff_delivers {fresh : Nat → UInt8} (hflow : Flowing log.counts)
    (hlock : answers.lockOk = true) (hbuffer : answers.buffer = some fresh) :
    ForwardsLosslessly answers bytesReady pipe log ↔ Delivers pipe.calls bytesReady := by
  have hfits : (readStart bytesReady pipe fresh).offset + (readStart bytesReady pipe fresh).total ≤
      (readStart bytesReady pipe fresh).buffer.length := by
    simp [readStart, freshBuffer_length]
  constructor
  · rintro ⟨fuel, result, after, logged, bytes, hcall, hdelivered, hwritten⟩
    obtain ⟨-, s, t, hreads, hwrites, rfl, rfl⟩ := (recv_iff hlock hbuffer).mp ⟨fuel, hcall⟩
    obtain ⟨found, hread⟩ := read_ended hreads hfits
    obtain ⟨t', hwrites', hall, hlength⟩ := written_all hflow hread
    obtain ⟨-, rfl⟩ := hwrites.unique hwrites'
    have hfound : bytes = found := List.append_cancel_left (hdelivered.symm.trans hread.delivered)
    have hlogged := List.append_cancel_left (hwritten.symm.trans hall)
    rw [← hlogged, hfound] at hlength
    exact hread.delivers.mp hlength
  · intro hdelivers
    obtain ⟨s, hreads⟩ := @read_ends (readStart bytesReady pipe fresh) hdelivers
    obtain ⟨bytes, hread⟩ := read_ended hreads hfits
    obtain ⟨t, hwrites, hall, -⟩ := written_all hflow hread
    have hlength : bytes.length = bytesReady := hread.delivers.mpr hdelivers
    obtain ⟨fuel, hcall⟩ := (recv_iff hlock hbuffer).mpr ⟨rfl, s, t, hreads, hwrites, rfl, rfl⟩
    refine ⟨fuel, 0, s.pipe, t.log, bytes, hcall, hread.delivered, ?_⟩
    have hwhole := overlay_append [] [] (hlength.trans (freshBuffer_length bytesReady fresh).symm)
    rw [List.nil_append, List.append_nil, List.nil_append, List.append_nil, List.length_nil]
      at hwhole
    rw [hall, hwhole]

/-- What is read is logged if the calls of `read` bring all that was announced
before one of them fails. -/
theorem forwardsLosslessly_iff (hflow : Flowing log.counts) :
    ForwardsLosslessly answers bytesReady pipe log ↔
      (answers.lockOk = true → answers.buffer ≠ none → Delivers pipe.calls bytesReady) := by
  have hnothing (hcall : ldrRecvOndata 0 answers bytesReady pipe log = some (-1, pipe, log)) :
      ForwardsLosslessly answers bytesReady pipe log :=
    ⟨0, -1, pipe, log, [], hcall, (List.append_nil _).symm, (List.append_nil _).symm⟩
  cases hlock : answers.lockOk with
  | false =>
    refine iff_of_true (hnothing ?_) fun htrue => absurd htrue Bool.false_ne_true
    simp [ldrRecvOndata, hlock]
  | true =>
    rw [forall_prop_of_true rfl]
    cases hbuffer : answers.buffer with
    | none =>
      refine iff_of_true (hnothing ?_) fun hne => absurd rfl hne
      simp [ldrRecvOndata, hlock, hbuffer]
    | some fresh =>
      rw [forall_prop_of_true (Option.some_ne_none fresh)]
      exact forwards_iff_delivers hflow hlock hbuffer

theorem forwardsLosslessly_pieces : ForwardsLosslessly ⟨true, some fun _ => 170⟩ 3
    ⟨fun i => if i = 0 then some [97, 98] else if i = 1 then some [] else some [99, 100], []⟩
      ⟨[], pages⟩ := by
  refine (forwardsLosslessly_iff pages_flowing).mpr fun _ _ => ⟨3, ?_, by decide⟩
  intro i _
  dsimp only
  split
  · exact Option.some_ne_none _
  · split <;> exact Option.some_ne_none _

/-- After a call that fails, a byte is written that nobody has read. -/
theorem not_forwardsLosslessly :
    ¬∀ (answers : RecvAnswers) (bytesReady : Nat) (pipe : PipeEnd) (log : Sink UInt8),
    0 < bytesReady → Flowing log.counts → ForwardsLosslessly answers bytesReady pipe log := by
  intro hall
  have hforwards :=
    hall ⟨true, some fun _ => 170⟩ 1 ⟨fun _ => none, []⟩ ⟨[], pages⟩ Nat.one_pos pages_flowing
  exact not_delivers rfl Nat.one_ne_zero
    ((forwards_iff_delivers pages_flowing rfl rfl).mp hforwards)

end Vmstated.Properties
