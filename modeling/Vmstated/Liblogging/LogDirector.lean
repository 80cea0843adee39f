import Vmstated.Library.Loop
import Vmstated.Library.Transfer

/-! liblogging/log_director.c: bytes from a pipe to the log file. -/
namespace Vmstated.Liblogging
open Library

/-- The reading end of a pipe. A call of `read` that does not fail gets what it
finds, as far as that was asked for; it finds nothing at the end of the file. -/
structure PipeEnd where
  calls : Nat → Option (List UInt8)
  delivered : List UInt8

def PipeEnd.read (total : Nat) (pipe : PipeEnd) : Option (List UInt8) × PipeEnd :=
  match pipe.calls 0 with
  | none => (none, ⟨fun i => pipe.calls (i + 1), pipe.delivered⟩)
  | some found =>
    (some (found.take total), ⟨fun i => pipe.calls (i + 1), pipe.delivered ++ found.take total⟩)

structure ReadState where
  total : Nat
  offset : Nat
  buffer : List UInt8
  pipe : PipeEnd

def readRound (s : ReadState) : Option (Option Unit × ReadState) :=
  if s.total = 0 then some (some (), s)
  else
    match s.pipe.read s.total with
    | (none, pipe) => some (some (), { s with pipe })
    | (some bytes, pipe) =>
      some (none,
        ⟨s.total - bytes.length, s.offset + bytes.length, overlay s.offset bytes s.buffer, pipe⟩)

structure WriteState where
  total : Nat
  offset : Nat
  buffer : List UInt8
  log : Sink UInt8

def writeRound (s : WriteState) : Option (Option Unit × WriteState) :=
  if s.total = 0 then some (some (), s)
  else
    match s.log.write ((s.buffer.drop s.offset).take s.total) with
    | (none, log) => some (some (), { s with log })
    | (some doneBytes, log) =>
      some (none, { s with total := s.total - doneBytes, offset := s.offset + doneBytes, log })

structure RecvAnswers where
  lockOk : Bool
  buffer : Option (Nat → UInt8)

/-- The result, and what has become of the pipe and the log file, if both loops
end within so many rounds. -/
def ldrRecvOndata (fuel : Nat) (answers : RecvAnswers) (bytesReady : Nat)
    (pipe : PipeEnd) (log : Sink UInt8) :
    Option (Int × PipeEnd × Sink UInt8) :=
  if !answers.lockOk then some (-1, pipe, log)
  else
    match answers.buffer with
    | none => some (-1, pipe, log)
    | some fresh =>
      match loop readRound fuel ⟨bytesReady, 0, (List.range bytesReady).map fresh, pipe⟩ with
      | none => none
      | some (_, s) =>
        match loop writeRound fuel ⟨bytesReady, 0, s.buffer, log⟩ with
        | none => none
        | some (_, t) => some (0, s.pipe, t.log)

/-! What the calls of `read` have to bring. -/

def foundBy (calls : Nat → Option (List UInt8)) (n : Nat) : List UInt8 :=
  (List.range n).flatMap fun i => (calls i).getD []

/-- The next calls find that many bytes before one of them fails. -/
def Delivers (calls : Nat → Option (List UInt8)) (count : Nat) : Prop :=
  ∃ n, (∀ i < n, calls i ≠ none) ∧ count ≤ (foundBy calls n).length

section
variable {calls : Nat → Option (List UInt8)} {found : List UInt8} {count : Nat}

theorem delivers_zero (calls : Nat → Option (List UInt8)) : Delivers calls 0 :=
  ⟨0, fun i hi => absurd hi (Nat.not_lt_zero i), Nat.zero_le _⟩

theorem foundBy_succ (calls : Nat → Option (List UInt8)) (n : Nat) :
    foundBy calls (n + 1) = (calls 0).getD [] ++ foundBy (fun i => calls (i + 1)) n := by
  simp [foundBy, List.range_succ_eq_map, List.flatMap_map]

theorem delivers_iff (hfirst : calls 0 = some found) :
    Delivers calls count ↔ Delivers (fun i => calls (i + 1)) (count - found.length) := by
  have hlength (n : Nat) : (foundBy calls (n + 1)).length =
      found.length + (foundBy (fun i => calls (i + 1)) n).length := by
    rw [foundBy_succ, hfirst, Option.getD_some, List.length_append]
  constructor
  · rintro ⟨n, hcalls, hle⟩
    cases n with
    | zero => exact ⟨0, fun i hi => absurd hi (Nat.not_lt_zero i), (Nat.sub_le _ _).trans hle⟩
    | succ n =>
      rw [hlength] at hle
      exact ⟨n, fun i hi => hcalls (i + 1) (Nat.succ_lt_succ hi), by omega⟩
  · rintro ⟨n, hcalls, hle⟩
    refine ⟨n + 1, ?_, ?_⟩
    · intro i hi
      cases i with
      | zero =>
        rw [hfirst]
        exact Option.some_ne_none found
      | succ i => exact hcalls i (Nat.lt_of_succ_lt_succ hi)
    · rw [hlength]
      omega

theorem not_delivers (hfirst : calls 0 = none) (hcount : count ≠ 0) : ¬Delivers calls count := by
  rintro ⟨n, hcalls, hle⟩
  cases n with
  | zero => exact hcount (Nat.le_zero.mp hle)
  | succ n => exact hcalls 0 (Nat.succ_pos n) hfirst

end

/-! Reading. -/

section
variable {s t : ReadState}

theorem readRound_done (hzero : s.total = 0) : readRound s = some (some (), s) := if_pos hzero

theorem readRound_failed (hne : s.total ≠ 0) (hcall : s.pipe.calls 0 = none) :
    readRound s =
      some (some (), { s with pipe := ⟨fun i => s.pipe.calls (i + 1), s.pipe.delivered⟩ }) := by
  rw [readRound, if_neg hne, PipeEnd.read, hcall]

theorem readRound_found (hne : s.total ≠ 0) {found : List UInt8}
    (hcall : s.pipe.calls 0 = some found) :
    readRound s =
      some (none, ⟨s.total - (found.take s.total).length, s.offset + (found.take s.total).length,
      overlay s.offset (found.take s.total) s.buffer,
      ⟨fun i => s.pipe.calls (i + 1), s.pipe.delivered ++ found.take s.total⟩⟩) := by
  rw [readRound, if_neg hne, PipeEnd.read, hcall]

/-- What a loop that ends has read. It is all that was announced only if the
calls brought that much. -/
structure HasRead (s t : ReadState) (bytes : List UInt8) : Prop where
  delivered : t.pipe.delivered = s.pipe.delivered ++ bytes
  length_le : bytes.length ≤ s.total
  buffer : t.buffer = overlay s.offset bytes s.buffer
  delivers : bytes.length = s.total ↔ Delivers s.pipe.calls s.total

theorem HasRead.cons {found : List UInt8} (hcall : s.pipe.calls 0 = some found)
    (hfits : s.offset + s.total ≤ s.buffer.length) {bytes : List UInt8}
    (h : HasRead ⟨s.total - (found.take s.total).length, s.offset + (found.take s.total).length,
      overlay s.offset (found.take s.total) s.buffer,
      ⟨fun i => s.pipe.calls (i + 1), s.pipe.delivered ++ found.take s.total⟩⟩ t bytes) :
    HasRead s t (found.take s.total ++ bytes) := by
  have hle := h.length_le
  have htake : (found.take s.total).length = min s.total found.length := List.length_take
  have hrest := h.delivers
  dsimp only at hle hrest
  refine ⟨?_, ?_, ?_, ?_⟩
  · rw [h.delivered, List.append_assoc]
  · rw [List.length_append]
    omega
  · rw [h.buffer, overlay_overlay _ _ (by omega)]
  · have hsame : s.total - (found.take s.total).length = s.total - found.length := by omega
    rw [delivers_iff hcall, ← hsame, ← hrest, List.length_append]
    omega

theorem hasRead_done (hzero : s.total = 0) : HasRead s s [] :=
  ⟨(List.append_nil _).symm, Nat.zero_le _, (overlay_nil _ _).symm,
    iff_of_true hzero.symm (hzero ▸ delivers_zero _)⟩

theorem hasRead_failed (hne : s.total ≠ 0) (hcall : s.pipe.calls 0 = none) :
    HasRead s { s with pipe := ⟨fun i => s.pipe.calls (i + 1), s.pipe.delivered⟩ } [] :=
  ⟨(List.append_nil _).symm, Nat.zero_le _, (overlay_nil _ _).symm,
    iff_of_false (fun hzero => hne hzero.symm) (not_delivers hcall hne)⟩

theorem readRound_cases (s : ReadState) :
    (∃ t, readRound s = some (some (), t) ∧ HasRead s t []) ∨
      ∃ found, s.total ≠ 0 ∧ s.pipe.calls 0 = some found := by
  by_cases hzero : s.total = 0
  · exact Or.inl ⟨s, readRound_done hzero, hasRead_done hzero⟩
  · cases hcall : s.pipe.calls 0 with
    | none => exact Or.inl ⟨_, readRound_failed hzero hcall, hasRead_failed hzero hcall⟩
    | some found => exact Or.inr ⟨found, hzero, rfl⟩

theorem read_ended {result : Unit} (h : Ends readRound s result t)
    (hfits : s.offset + s.total ≤ s.buffer.length) :
    ∃ bytes, HasRead s t bytes := by
  induction h using Ends.rounds with
  | @last s t result hround =>
    rcases readRound_cases s with ⟨u, hlast, hread⟩ | ⟨found, hne, hcall⟩
    · obtain rfl : u = t := congrArg Prod.snd (Option.some.inj (hlast.symm.trans hround))
      exact ⟨[], hread⟩
    · rw [readRound_found hne hcall] at hround
      cases hround
  | @next s t u result hround h ih =>
    rcases readRound_cases s with ⟨v, hlast, -⟩ | ⟨found, hne, hcall⟩
    · rw [hlast] at hround
      cases hround
    · have htake : (found.take s.total).length = min s.total found.length := List.length_take
      rw [readRound_found hne hcall] at hround
      cases hround
      obtain ⟨bytes, hread⟩ := ih (by dsimp only; rw [overlay_length (by omega)]; omega)
      exact ⟨_, hread.cons hcall hfits⟩

theorem read_ends (h : Delivers s.pipe.calls s.total) : ∃ t, Ends readRound s () t := by
  obtain ⟨n, hcalls, hle⟩ := h
  induction n generalizing s with
  | zero => exact ⟨s, ends_of_result (readRound_done (Nat.le_zero.mp hle))⟩
  | succ n ih =>
    by_cases hzero : s.total = 0
    · exact ⟨s, ends_of_result (readRound_done hzero)⟩
    · obtain ⟨found, hcall⟩ := Option.ne_none_iff_exists'.mp (hcalls 0 (Nat.succ_pos n))
      have hround := readRound_found hzero hcall
      rw [foundBy_succ, hcall, Option.getD_some, List.length_append] at hle
      generalize hnext : (⟨_, _, _, _⟩ : ReadState) = next at hround
      have hlater : (∀ i < n, next.pipe.calls i ≠ none) ∧
          next.total ≤ (foundBy next.pipe.calls n).length := by
        rw [← hnext]
        refine ⟨fun i hi => hcalls (i + 1) (Nat.succ_lt_succ hi), ?_⟩
        dsimp only
        rw [List.length_take]
        omega
      obtain ⟨t, hends⟩ := ih hlater.1 hlater.2
      exact ⟨t, ends_of_round hround hends⟩

end

/-! Writing. -/

theorem write_ends {s : WriteState} (hflow : Flowing s.log.counts)
    (hfits : s.offset + s.total ≤ s.buffer.length) :
    ∃ t, Ends writeRound s () t ∧ t.log.written =
      s.log.written ++ (s.buffer.drop s.offset).take s.total := by
  induction hn : s.total using Nat.strong_induction_on generalizing s with
  | h n ih =>
    subst hn
    by_cases hzero : s.total = 0
    · refine ⟨s, ends_of_result (if_pos hzero), ?_⟩
      rw [hzero, List.take_zero, List.append_nil]
    · obtain ⟨most, hmost⟩ := hflow 0
      have hlength : ((s.buffer.drop s.offset).take s.total).length = s.total := by
        rw [List.length_take, List.length_drop]
        omega
      have hpos : 0 < min (most + 1) s.total := by omega
      generalize hdone : min (most + 1) s.total = doneBytes at hpos
      obtain ⟨next, hround, htotal, hoffset, hbuffer, hlog⟩ : ∃ next,
          writeRound s = some (none, next) ∧
          next.total = s.total - doneBytes ∧ next.offset = s.offset + doneBytes ∧
            next.buffer = s.buffer ∧
          next.log = ⟨s.log.written ++ ((s.buffer.drop s.offset).take s.total).take doneBytes,
            s.log.counts.rest⟩ := by
        refine ⟨⟨s.total - doneBytes, s.offset + doneBytes, s.buffer, _⟩, ?_, rfl, rfl, rfl, rfl⟩
        rw [writeRound, if_neg hzero, Sink.write, hmost]
        dsimp only
        rw [hlength, hdone]
      have hrest : Flowing next.log.counts := by
        rw [hlog]
        exact hflow.rest
      obtain ⟨t, hends, hwritten⟩ := ih next.total (by omega) hrest (by rw [hbuffer]; omega) rfl
      refine ⟨t, ends_of_round hround hends, ?_⟩
      have hall : doneBytes + (s.total - doneBytes) = s.total := by omega
      rw [hwritten, hlog, hbuffer, htotal, hoffset, List.append_assoc,
        List.take_take, Nat.min_eq_left (by omega), ← List.drop_drop, ← List.take_add, hall]

end Vmstated.Liblogging
