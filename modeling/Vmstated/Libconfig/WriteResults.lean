import Vmstated.Libconfig.OutputSpec

/-! What `obc_combine_with` notices of its calls of `write`. -/
namespace Vmstated.Libconfig
open Library

def taken (count : Option Nat) (bytes : List UInt8) : List UInt8 :=
  match count with
  | none => []
  | some most => bytes.take most

/-- Of the two calls for a line, one fails as the code expects it: the line is
cut short, or there is an error for the newline. -/
def NoticedAt (line : List UInt8) (text newline : Option Nat) : Prop :=
  (∃ most < line.length, text = some most) ∨ newline = none

/-- Both calls take all. -/
def TakenAt (line : List UInt8) (text newline : Option Nat) : Prop :=
  (line = [] ∨ ∃ most, line.length ≤ most ∧ text = some most) ∧ ∃ most, newline = some (most + 1)

/-- There are two calls for each line. -/
def Noticed (lines : List (List UInt8)) (counts : Counts) : Prop :=
  ∃ k line, lines[k]? = some line ∧ NoticedAt line (counts (2 * k)) (counts (2 * k + 1))

def AllTaken (lines : List (List UInt8)) (counts : Counts) : Prop :=
  ∀ k line, lines[k]? = some line → TakenAt line (counts (2 * k)) (counts (2 * k + 1))

def withNewlines (lines : List (List UInt8)) : List UInt8 := lines.flatMap fun line => line ++ [10]

section
variable {line : List UInt8} {lines : List (List UInt8)} {counts : Counts} {sink : Sink UInt8}

theorem noticed_cons :
    Noticed (line :: lines) counts ↔
      NoticedAt line (counts 0) (counts 1) ∨ Noticed lines counts.rest.rest := by
  constructor
  · rintro ⟨k, found, hfound, hnoticed⟩
    cases k with
    | zero =>
      obtain rfl := Option.some_inj.mp hfound
      exact Or.inl hnoticed
    | succ k => exact Or.inr ⟨k, found, hfound, hnoticed⟩
  · rintro (hnoticed | ⟨k, found, hfound, hnoticed⟩)
    · exact ⟨0, line, rfl, hnoticed⟩
    · exact ⟨k + 1, found, hfound, hnoticed⟩

theorem allTaken_cons :
    AllTaken (line :: lines) counts ↔
      TakenAt line (counts 0) (counts 1) ∧ AllTaken lines counts.rest.rest := by
  constructor
  · intro h
    exact ⟨h 0 line rfl, fun k found hfound => h (k + 1) found hfound⟩
  · rintro ⟨hfirst, hrest⟩ k found hfound
    cases k with
    | zero =>
      obtain rfl := Option.some_inj.mp hfound
      exact hfirst
    | succ k => exact hrest k found hfound

theorem write_taken (bytes : List UInt8) (sink : Sink UInt8) :
    (sink.write bytes).2 = ⟨sink.written ++ taken (sink.counts 0) bytes, sink.counts.rest⟩ := by
  unfold Sink.write taken
  cases sink.counts 0 with
  | none => rw [List.append_nil]
  | some most =>
    dsimp only
    rw [← List.take_eq_take_min]

theorem write_short (hline : line.length < 2 ^ 64) (sink : Sink UInt8) :
    sizeT (doneWrite (sink.write line).1) < line.length ↔
      ∃ most < line.length, sink.counts 0 = some most := by
  unfold Sink.write
  cases sink.counts 0 with
  | none =>
    have herror : sizeT (doneWrite none) = 2 ^ 64 - 1 := by decide
    refine iff_of_false ?_ ?_
    · dsimp only
      omega
    · rintro ⟨most, -, hmost⟩
      cases hmost
  | some most =>
    have hcount : sizeT (doneWrite (some (min most line.length))) = min most line.length := by
      rw [doneWrite, sizeT_of_nat (by omega)]
    dsimp only
    rw [hcount]
    constructor
    · intro hshort
      exact ⟨most, by omega, rfl⟩
    · rintro ⟨other, hother, hmost⟩
      obtain rfl := Option.some_inj.mp hmost
      omega

theorem write_newline (sink : Sink UInt8) :
    doneWrite (sink.write [10]).1 < 0 ↔ sink.counts 0 = none := by
  unfold Sink.write
  cases sink.counts 0 with
  | none => exact iff_of_true (by rw [doneWrite]; omega) rfl
  | some most =>
    refine iff_of_false ?_ (Option.some_ne_none most)
    rw [doneWrite]
    omega

theorem taken_length_le (count : Option Nat) (bytes : List UInt8) :
    (taken count bytes).length ≤ bytes.length := by
  unfold taken
  cases count with
  | none => exact Nat.zero_le _
  | some most =>
    rw [List.length_take]
    exact Nat.min_le_right most bytes.length

theorem takenAt_of_length {text newline : Option Nat}
    (h : (taken text line).length + (taken newline [10]).length = line.length + 1) :
    TakenAt line text newline := by
  have htext := taken_length_le text line
  have hnewline : (taken newline [10]).length = 1 := by
    have hle := taken_length_le newline [10]
    rw [List.length_singleton] at hle
    omega
  refine ⟨?_, ?_⟩
  · cases text with
    | none =>
      have hzero : (taken none line).length = 0 := rfl
      exact Or.inl (List.eq_nil_of_length_eq_zero (by omega))
    | some most =>
      have htake : (taken (some most) line).length = min most line.length := List.length_take
      exact Or.inr ⟨most, by omega, rfl⟩
  · cases newline with
    | none => cases hnewline
    | some most =>
      have htake : (taken (some most) [10]).length = min most 1 := List.length_take
      exact ⟨most - 1, congrArg some (by omega)⟩

theorem TakenAt.unnoticed {text newline : Option Nat} (h : TakenAt line text newline) :
    ¬NoticedAt line text newline := by
  obtain ⟨htext, most, rfl⟩ := h
  rintro (⟨short, hshort, rfl⟩ | hnone)
  · rcases htext with rfl | ⟨all, hall, hsame⟩
    · exact absurd hshort (Nat.not_lt_zero short)
    · obtain rfl := Option.some_inj.mp hsame
      omega
  · cases hnone

theorem taken_of_takenAt {text newline : Option Nat} (h : TakenAt line text newline) :
    taken text line ++ taken newline [10] = line ++ [10] := by
  obtain ⟨htext, most, rfl⟩ := h
  have hline : taken text line = line := by
    rcases htext with rfl | ⟨all, hall, rfl⟩
    · exact List.eq_nil_of_length_eq_zero (Nat.le_zero.mp (taken_length_le text []))
    · exact List.take_of_length_le hall
  rw [hline, taken, List.take_of_length_le (by simp)]

theorem writeLine_noticed (hline : line.length < 2 ^ 64)
    (h : NoticedAt line (sink.counts 0) (sink.counts 1)) :
    ∃ out, (writeLine line sink).1 = -1 ∧ (writeLine line sink).2.written = sink.written ++ out ∧
      out.length ≤ line.length := by
  rw [writeLine_eq]
  by_cases hshort : ∃ most < line.length, sink.counts 0 = some most
  · rw [if_pos ((write_short hline sink).mpr hshort), write_taken]
    exact ⟨_, rfl, rfl, taken_length_le _ _⟩
  · have hnewline : sink.counts 1 = none := h.resolve_left hshort
    rw [if_neg (mt (write_short hline sink).mp hshort), write_taken,
      if_pos ((write_newline _).mpr hnewline), write_taken]
    refine ⟨taken (sink.counts 0) line, rfl, ?_, taken_length_le _ _⟩
    have hnothing : taken (sink.counts.rest 0) [10] = [] := by rw [Counts.rest, hnewline, taken]
    dsimp only
    rw [hnothing, List.append_nil]

theorem writeLine_unnoticed (hline : line.length < 2 ^ 64)
    (h : ¬NoticedAt line (sink.counts 0) (sink.counts 1)) :
    writeLine line sink =
      (0, ⟨sink.written ++ (taken (sink.counts 0) line ++ taken (sink.counts 1) [10]),
      sink.counts.rest.rest⟩) := by
  rw [NoticedAt, not_or] at h
  rw [writeLine_eq, if_neg (mt (write_short hline sink).mp h.1), write_taken,
    if_neg (mt (write_newline _).mp h.2), write_taken, List.append_assoc]
  rfl

theorem AllTaken.unnoticed (h : AllTaken lines counts) : ¬Noticed lines counts := by
  rintro ⟨k, line, hline, hnoticed⟩
  exact (h k line hline).unnoticed hnoticed

/-- All the calls: the result is 0 where no failure is noticed, and what is
written is complete where all calls take all. -/
structure Outcome (lines : List (List UInt8)) (counts : Counts)
    (result : Int) (out : List UInt8) : Prop where
  result_iff : result = 0 ↔ ¬Noticed lines counts
  length_le : out.length ≤ (withNewlines lines).length
  cut : Noticed lines counts → out.length < (withNewlines lines).length
  allTaken : ¬Noticed lines counts → out.length = (withNewlines lines).length →
    AllTaken lines counts
  complete : AllTaken lines counts → out = withNewlines lines

theorem outcome_nil (counts : Counts) : Outcome [] counts 0 [] := by
  have hnothing : ¬Noticed [] counts := by
    rintro ⟨k, line, hline, -⟩
    cases hline
  exact ⟨iff_of_true rfl hnothing, le_refl _, fun h => absurd h hnothing,
    fun _ _ _ _ hline => (nomatch hline), fun _ => rfl⟩

theorem withNewlines_cons (line : List UInt8) (lines : List (List UInt8)) :
    withNewlines (line :: lines) = line ++ [10] ++ withNewlines lines := by
  rw [withNewlines, List.flatMap_cons, withNewlines]

theorem withNewlines_length (line : List UInt8) (lines : List (List UInt8)) :
    (withNewlines (line :: lines)).length = line.length + 1 + (withNewlines lines).length := by
  rw [withNewlines_cons, List.length_append, List.length_append, List.length_singleton]

theorem outcome_noticed {out : List UInt8} (h : NoticedAt line (counts 0) (counts 1))
    (hle : out.length ≤ line.length) :
    Outcome (line :: lines) counts (-1) out := by
  have hnoticed : Noticed (line :: lines) counts := noticed_cons.mpr (Or.inl h)
  have hlength := withNewlines_length line lines
  exact ⟨iff_of_false (by decide) (not_not.mpr hnoticed), by omega, fun _ => by omega,
    fun hnot => absurd hnoticed hnot, fun hall => absurd hnoticed hall.unnoticed⟩

theorem outcome_unnoticed {result : Int} {out : List UInt8}
    (h : ¬NoticedAt line (counts 0) (counts 1))
    (hrest : Outcome lines counts.rest.rest result out) :
    Outcome (line :: lines) counts result
      (taken (counts 0) line ++ taken (counts 1) [10] ++ out) := by
  have htext := taken_length_le (counts 0) line
  have hnewline := taken_length_le (counts 1) [10]
  have hle := hrest.length_le
  have hlength := withNewlines_length line lines
  rw [List.length_singleton] at hnewline
  have hsame : Noticed (line :: lines) counts ↔ Noticed lines counts.rest.rest := by
    rw [noticed_cons, or_iff_right h]
  refine ⟨?_, ?_, ?_, ?_, ?_⟩
  · rw [hsame]
    exact hrest.result_iff
  · simp only [List.length_append]
    omega
  · intro hnoticed
    have hcut := hrest.cut (hsame.mp hnoticed)
    simp only [List.length_append]
    omega
  · intro hnot hall
    simp only [List.length_append] at hall
    exact allTaken_cons.mpr ⟨takenAt_of_length (by omega),
      hrest.allTaken (mt hsame.mpr hnot) (by omega)⟩
  · intro hall
    obtain ⟨hfirst, hlater⟩ := allTaken_cons.mp hall
    rw [taken_of_takenAt hfirst, hrest.complete hlater, withNewlines_cons]

theorem writeLines_outcome (hlines : ∀ line ∈ lines, line.length < 2 ^ 64) (sink : Sink UInt8) :
    ∃ out, (writeLines lines sink).2.written = sink.written ++ out ∧
      Outcome lines sink.counts (writeLines lines sink).1 out := by
  induction lines generalizing sink with
  | nil => exact ⟨[], (List.append_nil _).symm, outcome_nil sink.counts⟩
  | cons line lines ih =>
    rw [List.forall_mem_cons] at hlines
    by_cases hfirst : NoticedAt line (sink.counts 0) (sink.counts 1)
    · obtain ⟨out, hresult, hwritten, hle⟩ := writeLine_noticed hlines.1 hfirst
      obtain ⟨after, hline⟩ : ∃ after, writeLine line sink = (-1, after) :=
        ⟨_, Prod.ext hresult rfl⟩
      rw [hline] at hwritten
      rw [writeLines, hline]
      exact ⟨out, hwritten, outcome_noticed hfirst hle⟩
    · obtain ⟨out, hwritten, houtcome⟩ := ih hlines.2
        ⟨sink.written ++ (taken (sink.counts 0) line ++ taken (sink.counts 1) [10]),
          sink.counts.rest.rest⟩
      rw [writeLines, writeLine_unnoticed hlines.1 hfirst]
      exact ⟨_, hwritten.trans (List.append_assoc _ _ _), outcome_unnoticed hfirst houtcome⟩

end

end Vmstated.Libconfig
