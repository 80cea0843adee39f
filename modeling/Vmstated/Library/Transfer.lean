import Vmstated.Library.Memory

/-! Byte streams as one process sees them. A call of `read` delivers a part of
what is pending, a call of `write` takes a part of what it is given; `counts`
decides how much the calls to come move at most, and which of them fail. -/
namespace Vmstated.Library

variable {α : Type}

abbrev Counts := Nat → Option Nat

def Counts.rest (counts : Counts) : Counts := fun i => counts (i + 1)

/-- Every call succeeds and moves something. -/
def Flowing (counts : Counts) : Prop := ∀ i, ∃ n, counts i = some (n + 1)

theorem Flowing.rest {counts : Counts} (h : Flowing counts) : Flowing counts.rest :=
  fun i => h (i + 1)

def pages : Counts := fun _ => some 4096

theorem pages_flowing : Flowing pages := fun _ => ⟨4095, rfl⟩

structure Source (α : Type) where
  pending : List α
  counts : Counts

def Source.read (len : Nat) (source : Source α) : Option (List α) × Source α :=
  match source.counts 0 with
  | none => (none, ⟨source.pending, source.counts.rest⟩)
  | some most =>
    let count := min most len
    (some (source.pending.take count), ⟨source.pending.drop count, source.counts.rest⟩)

def doneRead : Option (List α) → Int
  | none => -1
  | some bytes => bytes.length

theorem Source.read_of_flowing {source : Source α} {len : Nat} (hflow : Flowing source.counts)
    (hlen : 0 < len) :
    ∃ count, 0 < count ∧ count ≤ len ∧ source.read len =
      (some (source.pending.take count), ⟨source.pending.drop count, source.counts.rest⟩) := by
  obtain ⟨most, hmost⟩ := hflow 0
  refine ⟨min (most + 1) len, ?_, ?_, ?_⟩
  · omega
  · omega
  · simp [Source.read, hmost]

theorem Source.read_some {source : Source α} {len : Nat} (hflow : Flowing source.counts)
    (hlen : 0 < len) (hpending : 0 < source.pending.length) :
    ∃ done, 0 < done ∧ done ≤ len ∧ done ≤ source.pending.length ∧ source.read len =
      (some (source.pending.take done), ⟨source.pending.drop done, source.counts.rest⟩) := by
  obtain ⟨count, hpos, hle, hread⟩ := read_of_flowing hflow hlen
  refine ⟨min count source.pending.length, ?_, ?_, ?_, ?_⟩
  · omega
  · omega
  · omega
  · rw [hread, ← List.take_eq_take_min]
    rcases Nat.le_total count source.pending.length with h | h
    · rw [Nat.min_eq_left h]
    · rw [Nat.min_eq_right h, List.drop_length, List.drop_eq_nil_of_le h]

/-- `while ((n = read(memory + total, len)) > 0) total += n, len -= n`, for less
than so many rounds. A `guarded` loop stops before a call for nothing. -/
def Source.readInto (guarded : Bool) :
    Nat → Nat → Nat → List UInt8 → Source UInt8 → Option (Nat × List UInt8 × Source UInt8)
  | 0, _, _, _, _ => none
  | rounds + 1, total, len, memory, source =>
    if guarded && len == 0 then some (total, memory, source)
    else
      match source.read len with
      | (some [], source) => some (total, memory, source)
      | (bytes, source) =>
        source.readInto guarded rounds (sizeT (total + doneRead bytes))
          (sizeT (len - doneRead bytes)) (overlay total (bytes.getD []) memory)

theorem Source.read_zero {source : Source α} (hflow : Flowing source.counts) :
    source.read 0 = (some [], ⟨source.pending, source.counts.rest⟩) := by
  obtain ⟨most, hmost⟩ := hflow 0
  simp [Source.read, hmost]

theorem Source.read_one {byte : α} {pending : List α} {counts : Counts} (hflow : Flowing counts) :
    Source.read 1 ⟨byte :: pending, counts⟩ = (some [byte], ⟨pending, counts.rest⟩) := by
  obtain ⟨most, hmost⟩ := hflow 0
  simp [Source.read, hmost]

/-- However the calls cut the stream, the loop delivers what was asked for. -/
theorem Source.readInto_of_flowing (guarded : Bool) {rounds total len : Nat} {memory : List UInt8}
    {source : Source UInt8} (hflow : Flowing source.counts) (hpending : len ≤ source.pending.length)
    (hfits : total + len ≤ memory.length) (hsize : total + len < 2 ^ 64) (hrounds : len < rounds) :
    ∃ counts, Flowing counts ∧ source.readInto guarded rounds total len memory =
      some (total + len, overlay total (source.pending.take len) memory,
        ⟨source.pending.drop len, counts⟩) := by
  induction rounds generalizing total len memory source with
  | zero => omega
  | succ rounds ih =>
    rw [Source.readInto]
    by_cases hzero : len = 0
    · subst hzero
      split
      · exact ⟨source.counts, hflow, by simp⟩
      · rw [Source.read_zero hflow]
        exact ⟨source.counts.rest, hflow.rest, by simp⟩
    · obtain ⟨done, hpos, hle, _, hread⟩ :=
        Source.read_some hflow (Nat.pos_of_ne_zero hzero) (by omega)
      have hlength : (source.pending.take done).length = done := by
        rw [List.length_take]
        omega
      rw [if_neg (by simp [hzero]), hread]
      generalize hbytes : source.pending.take done = bytes at hlength
      cases bytes with
      | nil =>
        rw [List.length_nil] at hlength
        omega
      | cons byte bytes =>
        have hall : done + (len - done) = len := by omega
        have htotal : sizeT (total + doneRead (some (byte :: bytes))) = total + done := by
          rw [doneRead, hlength]
          unfold sizeT
          omega
        have hlen : sizeT (len - doneRead (some (byte :: bytes))) = len - done := by
          rw [doneRead, hlength]
          unfold sizeT
          omega
        have hmemory : (overlay total (byte :: bytes) memory).length = memory.length :=
          overlay_length (by omega)
        obtain ⟨counts, hflows, hrest⟩ :=
          @ih (total + done) (len - done) (overlay total (byte :: bytes) memory)
          ⟨source.pending.drop done, source.counts.rest⟩ hflow.rest
            (by rw [List.length_drop]; omega)
          (by omega) (by omega) (by omega)
        refine ⟨counts, hflows, ?_⟩
        have hwritten : overlay (total + done) ((source.pending.drop done).take (len - done))
            (overlay total (byte :: bytes) memory) = overlay total
              (source.pending.take len) memory := by
          rw [← hlength, overlay_overlay _ _ (by omega), hlength, ← hbytes, ← List.take_add, hall]
        dsimp only at hrest ⊢
        rw [htotal, hlen, Option.getD_some, hrest, hwritten, List.drop_drop,
          hall, Nat.add_assoc, hall]

structure Sink (α : Type) where
  written : List α
  counts : Counts

def Sink.write (bytes : List α) (sink : Sink α) : Option Nat × Sink α :=
  match sink.counts 0 with
  | none => (none, ⟨sink.written, sink.counts.rest⟩)
  | some most =>
    let count := min most bytes.length
    (some count, ⟨sink.written ++ bytes.take count, sink.counts.rest⟩)

/-- The loop `while (len && (n = write(data + total, len)) > 0)` that adds `n`
to `total` and takes it off `len`, for at most `fuel` rounds. The result is
`total`. -/
def Sink.writeAll : Nat → List α → Sink α → Nat × Sink α
  | 0, _, sink => (0, sink)
  | fuel + 1, bytes, sink =>
    if bytes = [] then (0, sink)
    else
      match sink.write bytes with
      | (none, sink) | (some 0, sink) => (0, sink)
      | (some (n + 1), sink) =>
        let result := sink.writeAll fuel (bytes.drop (n + 1))
        (n + 1 + result.1, result.2)

/-- However the calls cut the data, the loop writes all of it. -/
theorem Sink.writeAll_of_flowing {sink : Sink α} {bytes : List α} {fuel : Nat}
    (hflow : Flowing sink.counts) (hfuel : bytes.length ≤ fuel) :
    ∃ counts, Flowing counts ∧
      sink.writeAll fuel bytes = (bytes.length, ⟨sink.written ++ bytes, counts⟩) := by
  induction fuel generalizing sink bytes with
  | zero =>
    have hnil : bytes = [] := List.eq_nil_of_length_eq_zero (by omega)
    subst hnil
    exact ⟨sink.counts, hflow, by simp [Sink.writeAll]⟩
  | succ fuel ih =>
    rw [Sink.writeAll]
    split
    · rename_i hnil
      subst hnil
      exact ⟨sink.counts, hflow, by simp⟩
    · rename_i hne
      have hpos : 0 < bytes.length := List.length_pos_iff.mpr hne
      obtain ⟨most, hmost⟩ := hflow 0
      obtain ⟨n, hcount⟩ : ∃ n, min (most + 1) bytes.length = n + 1 :=
        ⟨min (most + 1) bytes.length - 1, by omega⟩
      have hwrite : sink.write bytes =
          (some (n + 1), ⟨sink.written ++ bytes.take (n + 1), sink.counts.rest⟩) := by
        simp only [Sink.write, hmost, hcount]
      obtain ⟨counts, hflow', hrest⟩ := @ih ⟨sink.written ++ bytes.take (n + 1), sink.counts.rest⟩
        (bytes.drop (n + 1)) hflow.rest (by rw [List.length_drop]; omega)
      refine ⟨counts, hflow', ?_⟩
      rw [hwrite]
      dsimp only at hrest ⊢
      rw [hrest, List.append_assoc, List.take_append_drop, List.length_drop]
      congr 1
      omega

end Vmstated.Library
