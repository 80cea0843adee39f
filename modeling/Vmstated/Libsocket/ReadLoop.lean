import Vmstated.Libsocket.BufferAccess

/-! The loop of `sh_read_data` with the calls of `read` that it makes. -/
namespace Vmstated.Libsocket
open Library

abbrev Results := Nat → Option (List UInt8)

def Results.rest (results : Results) : Results := fun i => results (i + 1)

structure ReadCall where
  offset : Nat
  toRead : Nat
  done : Option (List UInt8)

def readCalls : Nat → ReadVars → Results → List ReadCall
  | 0, _, _ => []
  | rounds + 1, vars, results =>
    if vars.bytesRemaining = 0 ∨ vars.bytesReady = 0 then []
    else
      ⟨vars.offset, vars.toRead, results 0⟩ ::
        match results 0 with
        | some [] => []
        | bytes => readCalls rounds (vars.advance bytes) results.rest

def readLoop : Nat → ReadVars → Results → Option ReadVars
  | 0, _, _ => none
  | rounds + 1, vars, results =>
    if vars.bytesRemaining = 0 ∨ vars.bytesReady = 0 then some vars
    else
      match results 0 with
      | some [] => some vars
      | bytes => readLoop rounds (vars.advance bytes) results.rest

def readVars (bytesReady : Nat) (shc : SocketConnection) : ReadVars :=
  let bytesRemaining := sizeT (shcMaxtransportdata - shc.bytesRead)
  ⟨bytesReady, bytesRemaining, if bytesReady > bytesRemaining then bytesRemaining else bytesReady,
    shc.bytesRead, shc.bytesRead, shc.buffer⟩

def shReadDataWithin (rounds bytesReady : Nat) (shc : SocketConnection) (results : Results) :
    Option (Int × SocketConnection) :=
  (readLoop rounds (readVars bytesReady shc) results).map fun vars =>
    (0, { shc with bytesRead := vars.bytesRead, buffer := vars.buffer })

/-- No call delivers more than it asks for. -/
def Legal (vars : ReadVars) (results : Results) : Prop :=
  ∀ rounds, ∀ call ∈ readCalls rounds vars results, ∀ bytes, call.done = some bytes →
    bytes.length ≤ call.toRead

/-- A call that does not end the loop of itself. -/
def Delivers (done : Option (List UInt8)) : Prop := ∃ bytes, done = some bytes ∧ bytes ≠ []

def doneBytes (done : Option (List UInt8)) : Nat := (done.getD []).length

def delivered : Nat → Results → Nat
  | 0, _ => 0
  | count + 1, results => doneBytes (results 0) + delivered count results.rest

/-- The variables while no call has failed. -/
structure Reading (vars : ReadVars) : Prop where
  remaining : vars.bytesRead + vars.bytesRemaining = shcMaxtransportdata
  offset : vars.offset = vars.bytesRead
  toRead : vars.toRead ≤ vars.bytesRemaining
  ready : vars.bytesReady < 2 ^ 64
  buffer : vars.buffer.length = shcMaxtransportdata

theorem Sized.reading {shc : SocketConnection} (h : Sized shc)
    {bytesReady : Nat} (hready : bytesReady < 2 ^ 64) :
    Reading (readVars bytesReady shc) := by
  have hread := h.bytesRead
  have hremaining : sizeT (shcMaxtransportdata - shc.bytesRead) =
      shcMaxtransportdata - shc.bytesRead := by
    unfold shcMaxtransportdata at hread ⊢
    unfold sizeT
    omega
  unfold readVars
  rw [hremaining]
  refine ⟨?_, rfl, ?_, hready, h.buffer⟩
  · dsimp only
    omega
  · dsimp only
    split <;> omega

section
variable {vars : ReadVars} {results : Results}

theorem Reading.advance (h : Reading vars) {bytes : List UInt8}
    (hfits : bytes.length ≤ vars.toRead) :
    Reading (vars.advance (some bytes)) ∧
      (vars.advance (some bytes)).bytesRead = vars.bytesRead + bytes.length ∧
      (vars.advance (some bytes)).bytesReady = sizeT (vars.bytesReady - bytes.length) ∧
      (vars.advance (some bytes)).buffer = overlay vars.bytesRead bytes vars.buffer := by
  have hremaining := h.remaining
  have htoRead := h.toRead
  have hsize : shcMaxtransportdata = 1024 := rfl
  have hrest : sizeT (vars.bytesRemaining - bytes.length) = vars.bytesRemaining - bytes.length := by
    unfold sizeT
    omega
  have hnext : sizeT (vars.bytesRead + bytes.length) = vars.bytesRead + bytes.length := by
    unfold sizeT
    omega
  have hless : sizeT (vars.bytesReady - bytes.length) < 2 ^ 64 := by
    unfold sizeT
    omega
  have hinside : vars.bytesRead < 2 ^ 63 := by omega
  simp only [ReadVars.advance, doneRead, h.offset, hrest,
    hnext, Option.getD_some, storeAt_inside hinside]
  refine ⟨⟨?_, rfl, ?_, hless, ?_⟩, trivial, trivial, trivial⟩
  · dsimp only
    omega
  · dsimp only
    split <;> omega
  · rw [overlay_length (by rw [h.buffer]; omega)]
    exact h.buffer

theorem Legal.first (h : Legal vars results)
    (hgoes : ¬(vars.bytesRemaining = 0 ∨ vars.bytesReady = 0))
    {bytes : List UInt8} (hbytes : results 0 = some bytes) : bytes.length ≤ vars.toRead := by
  apply h 1 ⟨vars.offset, vars.toRead, results 0⟩ _ bytes hbytes
  rw [readCalls, if_neg hgoes]
  exact List.mem_cons_self

theorem readCalls_delivers (hgoes : ¬(vars.bytesRemaining = 0 ∨ vars.bytesReady = 0))
    (hdelivers : Delivers (results 0)) (rounds : Nat) :
    readCalls (rounds + 1) vars results =
      ⟨vars.offset, vars.toRead, results 0⟩ :: readCalls rounds
        (vars.advance (results 0)) results.rest := by
  obtain ⟨bytes, hbytes, hne⟩ := hdelivers
  rw [readCalls, if_neg hgoes, hbytes]
  cases bytes with
  | nil => contradiction
  | cons byte bytes => rfl

theorem readLoop_delivers (hgoes : ¬(vars.bytesRemaining = 0 ∨ vars.bytesReady = 0))
    (hdelivers : Delivers (results 0)) (rounds : Nat) :
    readLoop (rounds + 1) vars results = readLoop rounds
      (vars.advance (results 0)) results.rest := by
  obtain ⟨bytes, hbytes, hne⟩ := hdelivers
  rw [readLoop, if_neg hgoes, hbytes]
  cases bytes with
  | nil => contradiction
  | cons byte bytes => rfl

theorem Legal.rest (h : Legal vars results)
    (hgoes : ¬(vars.bytesRemaining = 0 ∨ vars.bytesReady = 0))
    (hdelivers : Delivers (results 0)) : Legal (vars.advance (results 0)) results.rest := by
  intro rounds call hcall
  apply h (rounds + 1) call
  rw [readCalls_delivers hgoes hdelivers]
  exact List.mem_cons_of_mem _ hcall

/-- No call that the loop makes fails: those before it delivered something,
and neither filled the buffer nor used up just what was ready. -/
def Succeeding (room ready : Nat) (results : Results) : Prop :=
  ∀ count, (∀ i < count, Delivers (results i)) → delivered count results < room →
    (∀ i ≤ count, delivered i results ≠ ready) → results count ≠ none

theorem delivered_mono {results : Results} {i count : Nat} (h : i ≤ count) :
    delivered i results ≤ delivered count results := by
  induction i generalizing count results with
  | zero => exact Nat.zero_le _
  | succ i ih =>
    cases count with
    | zero => contradiction
    | succ count => exact Nat.add_le_add_left (ih (by omega)) _

/-- One call on. The number that is ready wraps where more comes than was ready. -/
theorem delivered_rest_ne {room ready done i : Nat} (hroom : room ≤ shcMaxtransportdata)
    (hready : ready < 2 ^ 64)
    (hsum : done + i < room) : i ≠ sizeT (ready - done) ↔ done + i ≠ ready := by
  unfold shcMaxtransportdata at hroom
  unfold sizeT
  omega

theorem Succeeding.rest {room ready : Nat} {results : Results} (h : Succeeding room ready results)
    (hroom : room ≤ shcMaxtransportdata) (hready : ready < 2 ^ 64) (hnonzero : ready ≠ 0)
    (hdelivers : Delivers (results 0)) :
    Succeeding (room - doneBytes (results 0))
      (sizeT (ready - doneBytes (results 0))) results.rest := by
  intro count hall hlt hne
  apply h (count + 1)
  · intro i hi
    cases i with
    | zero => exact hdelivers
    | succ i => exact hall i (by omega)
  · rw [delivered]
    omega
  · intro i hi
    cases i with
    | zero => exact hnonzero.symm
    | succ i =>
      have hle := @delivered_mono results.rest i count (by omega)
      rw [delivered, ← delivered_rest_ne hroom hready (by omega)]
      exact hne i (by omega)

theorem failed_call {count : Nat} {vars : ReadVars} {results : Results} (h : Reading vars)
    (hlegal : Legal vars results) (hall : ∀ i < count, Delivers (results i))
    (hlt : delivered count results < vars.bytesRemaining)
    (hne : ∀ i ≤ count, delivered i results ≠ vars.bytesReady) (hfails : results count = none)
    {rounds : Nat} {after : ReadVars} (hends : readLoop rounds vars results = some after) :
    ∃ call ∈ readCalls rounds vars results, call.done = none := by
  induction count generalizing rounds vars results with
  | zero =>
    cases rounds with
    | zero => contradiction
    | succ rounds =>
      have hready := hne 0 (Nat.le_refl 0)
      rw [delivered] at hlt hready
      rw [readCalls, if_neg (by omega)]
      exact ⟨_, List.mem_cons_self, hfails⟩
  | succ count ih =>
    cases rounds with
    | zero => contradiction
    | succ rounds =>
      have hready : vars.bytesReady ≠ 0 := (hne 0 (Nat.zero_le _)).symm
      have hdelivers := hall 0 (Nat.zero_lt_succ _)
      rw [delivered] at hlt
      have hgoes : ¬(vars.bytesRemaining = 0 ∨ vars.bytesReady = 0) := by omega
      have hrest := hlegal.rest hgoes hdelivers
      rw [readLoop_delivers hgoes hdelivers] at hends
      rw [readCalls_delivers hgoes hdelivers]
      obtain ⟨bytes, hbytes, _⟩ := id hdelivers
      rw [hbytes] at hends hrest hlt ⊢
      have hfits := hlegal.first hgoes hbytes
      obtain ⟨hreading, hread, hleft, _⟩ := h.advance hfits
      have hremaining := h.remaining
      have hremains := hreading.remaining
      have hdone : doneBytes (some bytes) = bytes.length := rfl
      rw [hdone] at hlt
      obtain ⟨call, hcall, hnone⟩ :=
        ih hreading hrest (fun i hi => hall (i + 1) (by omega)) (by omega) (by
          intro i hi
          have hle := @delivered_mono results.rest i count hi
          have hnext := hne (i + 1) (by omega)
          rw [delivered, hbytes, hdone] at hnext
          rw [hleft]
          exact (delivered_rest_ne (by omega : vars.bytesRemaining ≤ shcMaxtransportdata) h.ready
            (by omega)).mpr hnext)
        hfails hends
      exact ⟨call, List.mem_cons_of_mem _ hcall, hnone⟩

def callBytes : List ReadCall → Nat
  | [] => 0
  | call :: calls => doneBytes call.done + callBytes calls

/-- Where no call fails the loop ends, stays in the buffer and counts what it was given. -/
structure Finished (vars : ReadVars) (calls : List ReadCall) (after : ReadVars) : Prop where
  reading : Reading after
  inside : ∀ call ∈ calls, call.offset + call.toRead ≤ shcMaxtransportdata
  succeeded : ∀ call ∈ calls, call.done ≠ none
  bytesRead : after.bytesRead = vars.bytesRead + callBytes calls
  untouched : ∀ i, after.bytesRead ≤ i → after.buffer.getD i 0 = vars.buffer.getD i 0

theorem Reading.finished_nil {vars : ReadVars} (h : Reading vars) : Finished vars [] vars :=
  ⟨h, fun _ hcall => absurd hcall List.not_mem_nil,
    fun _ hcall => absurd hcall List.not_mem_nil, rfl, fun _ _ => rfl⟩

theorem Reading.inside {vars : ReadVars} (h : Reading vars) :
    vars.offset + vars.toRead ≤ shcMaxtransportdata := by
  have hremaining := h.remaining
  have htoRead := h.toRead
  rw [h.offset]
  omega

theorem Reading.finished_last {vars : ReadVars} (h : Reading vars) :
    Finished vars [⟨vars.offset, vars.toRead, some []⟩] vars := by
  refine ⟨h, ?_, ?_, rfl, fun _ _ => rfl⟩
  · intro call hcall
    rw [List.mem_singleton.mp hcall]
    exact h.inside
  · intro call hcall
    rw [List.mem_singleton.mp hcall]
    exact Option.some_ne_none []

theorem Finished.cons {vars after : ReadVars} {bytes : List UInt8} {calls : List ReadCall}
    (h : Reading vars) (hfits : bytes.length ≤ vars.toRead)
    (hfinished : Finished (vars.advance (some bytes)) calls after) :
    Finished vars (⟨vars.offset, vars.toRead, some bytes⟩ :: calls) after := by
  obtain ⟨_, hread, _, hbuffer⟩ := h.advance hfits
  have hdone : doneBytes (some bytes) = bytes.length := rfl
  have hgrown := hfinished.bytesRead
  have hremaining := h.remaining
  have htoRead := h.toRead
  refine ⟨hfinished.reading, ?_, ?_, ?_, ?_⟩
  · exact List.forall_mem_cons.mpr ⟨h.inside, hfinished.inside⟩
  · exact List.forall_mem_cons.mpr ⟨Option.some_ne_none bytes, hfinished.succeeded⟩
  · rw [hgrown, hread, callBytes, hdone, Nat.add_assoc]
  · intro i hi
    rw [hfinished.untouched i hi, hbuffer, overlay_getD (by rw [h.buffer]; omega),
      if_neg (by omega)]

theorem Succeeding.first {room ready : Nat} {results : Results} (h : Succeeding room ready results)
    (hroom : room ≠ 0) (hready : ready ≠ 0) : results 0 ≠ none := by
  apply h 0
  · intro i hi
    contradiction
  · exact Nat.pos_of_ne_zero hroom
  · intro i hi
    rw [Nat.le_zero.mp hi]
    exact hready.symm

theorem Reading.finishes {rounds : Nat} {vars : ReadVars} {results : Results} (h : Reading vars)
    (hlegal : Legal vars results) (hquiet : Succeeding vars.bytesRemaining vars.bytesReady results)
    (hrounds : vars.bytesRemaining < rounds) :
    ∃ after, readLoop rounds vars results = some after ∧
      Finished vars (readCalls rounds vars results) after := by
  induction rounds generalizing vars results with
  | zero => contradiction
  | succ rounds ih =>
    by_cases hgoes : vars.bytesRemaining = 0 ∨ vars.bytesReady = 0
    · rw [readLoop, if_pos hgoes, readCalls, if_pos hgoes]
      exact ⟨vars, rfl, h.finished_nil⟩
    · obtain ⟨hroom, hready⟩ := not_or.mp hgoes
      obtain ⟨bytes, hbytes⟩ := Option.ne_none_iff_exists'.mp (hquiet.first hroom hready)
      by_cases hnil : bytes = []
      · rw [hnil] at hbytes
        rw [readLoop, if_neg hgoes, readCalls, if_neg hgoes, hbytes]
        exact ⟨vars, rfl, h.finished_last⟩
      · have hdelivers : Delivers (results 0) := ⟨bytes, hbytes, hnil⟩
        have hpos : 0 < bytes.length := List.length_pos_iff.mpr hnil
        have hremaining := h.remaining
        have hdone : doneBytes (some bytes) = bytes.length := rfl
        have hrest := hlegal.rest hgoes hdelivers
        have hless := hquiet.rest (by omega) h.ready hready hdelivers
        have hfits := hlegal.first hgoes hbytes
        rw [readLoop_delivers hgoes hdelivers, readCalls_delivers hgoes hdelivers]
        rw [hbytes] at hrest hless ⊢
        obtain ⟨hreading, hread, hleft, _⟩ := h.advance hfits
        have hremains := hreading.remaining
        have hnext : vars.bytesRemaining - bytes.length =
            (vars.advance (some bytes)).bytesRemaining := by omega
        rw [hdone, hnext, ← hleft] at hless
        obtain ⟨after, hends, hfinished⟩ := ih hreading hrest hless (by omega)
        exact ⟨after, hends, hfinished.cons h hfits⟩

end

/-! The same loop on the bytes that a client sends. -/

def sourceResults (vars : ReadVars) (source : Source UInt8) : Results
  | 0 => (source.read vars.toRead).1
  | count + 1 =>
    sourceResults (vars.advance (source.read vars.toRead).1) (source.read vars.toRead).2 count

/-- No call fails. -/
def Unfailing (counts : Counts) : Prop := ∀ i, counts i ≠ none

section
variable {source : Source UInt8}

theorem read_unfailing (h : Unfailing source.counts) (len : Nat) :
    ∃ bytes, (source.read len).1 = some bytes ∧ bytes.length ≤ len ∧
      Unfailing (source.read len).2.counts := by
  obtain ⟨most, hmost⟩ := Option.ne_none_iff_exists'.mp (h 0)
  unfold Source.read
  rw [hmost]
  refine ⟨_, rfl, ?_, fun i => h (i + 1)⟩
  rw [List.length_take]
  omega

theorem sourceResults_unfailing (h : Unfailing source.counts) (vars : ReadVars) (count : Nat) :
    sourceResults vars source count ≠ none := by
  induction count generalizing vars source with
  | zero =>
    obtain ⟨bytes, hbytes, _, _⟩ := read_unfailing h vars.toRead
    rw [sourceResults, hbytes]
    exact Option.some_ne_none bytes
  | succ count ih =>
    obtain ⟨_, _, _, hrest⟩ := read_unfailing h vars.toRead
    exact ih hrest _

theorem legal_source (h : Unfailing source.counts) (vars : ReadVars) :
    Legal vars (sourceResults vars source) := by
  intro rounds
  induction rounds generalizing vars source with
  | zero => exact fun _ hcall => absurd hcall List.not_mem_nil
  | succ rounds ih =>
    intro call hcall bytes hbytes
    obtain ⟨first, hfirst, hfits, hrest⟩ := read_unfailing h vars.toRead
    have hresult : sourceResults vars source 0 = some first := hfirst
    rw [readCalls, hresult] at hcall
    split at hcall
    · contradiction
    · rcases List.mem_cons.mp hcall with hthis | hlater
      · rw [hthis] at hbytes ⊢
        cases hbytes
        exact hfits
      · split at hlater
        · contradiction
        · have hshift : (sourceResults vars source).rest =
              sourceResults (vars.advance (some first)) (source.read vars.toRead).2 := by
            funext i
            rw [← hfirst]
            rfl
          rw [hshift] at hlater
          exact ih hrest _ call hlater bytes hbytes

theorem readLoop_source {rounds : Nat} {vars : ReadVars}
    (h : Reading vars) (hsource : Unfailing source.counts)
    (hrounds : vars.bytesRemaining ≤ rounds) :
    readLoop (rounds + 1) vars (sourceResults vars source) =
      some (readRounds rounds vars source).1 := by
  induction rounds generalizing vars source with
  | zero => rw [readLoop, if_pos (Or.inl (Nat.le_zero.mp hrounds)), readRounds]
  | succ rounds ih =>
    rw [readLoop, readRounds]
    split
    · rfl
    · rename_i hgoes
      obtain ⟨bytes, hbytes, hfits, hrest⟩ := read_unfailing hsource vars.toRead
      have hresult : sourceResults vars source 0 = some bytes := hbytes
      have hshift : (sourceResults vars source).rest =
          sourceResults (vars.advance (some bytes)) (source.read vars.toRead).2 := by
        funext i
        rw [← hbytes]
        rfl
      generalize source.read vars.toRead = read at hbytes hrest hshift
      obtain ⟨done, coming⟩ := read
      dsimp only at hbytes hrest hshift
      rw [hresult, hbytes, hshift]
      cases bytes with
      | nil => rfl
      | cons byte bytes =>
        obtain ⟨hreading, hread, _, _⟩ := h.advance hfits
        have hremaining := h.remaining
        have hremains := hreading.remaining
        rw [List.length_cons] at hread
        exact ih hreading hrest (by omega)

theorem Sized.readData {shc : SocketConnection} (h : Sized shc)
    {bytesReady : Nat} (hready : bytesReady < 2 ^ 64) (hsource : Unfailing source.counts) :
    let after := (shReadData bytesReady shc source).2.1
    Sized after ∧ shc.bytesRead ≤ after.bytesRead ∧
      ∀ i, after.bytesRead ≤ i → after.buffer.getD i 0 = shc.buffer.getD i 0 := by
  have hreading := h.reading hready
  have hquiet : Succeeding (readVars bytesReady shc).bytesRemaining
      (readVars bytesReady shc).bytesReady (sourceResults (readVars bytesReady shc) source) :=
    fun count _ _ _ => sourceResults_unfailing hsource _ count
  have hrounds : (readVars bytesReady shc).bytesRemaining ≤ shcMaxtransportdata := by
    have hremaining := hreading.remaining
    omega
  obtain ⟨after, hends, hfinished⟩ :=
    hreading.finishes (legal_source hsource _) hquiet (Nat.lt_succ_of_le hrounds)
  rw [readLoop_source hreading hsource hrounds] at hends
  have hremaining := hfinished.reading.remaining
  have hafter : (shReadData bytesReady shc source).2.1 =
      { shc with bytesRead := after.bytesRead, buffer := after.buffer } := by
    rw [← Option.some.inj hends]
    rfl
  intro result
  have hresult : result = { shc with bytesRead := after.bytesRead, buffer := after.buffer } :=
    hafter
  have hgrown : after.bytesRead = shc.bytesRead + _ := hfinished.bytesRead
  rw [hresult]
  exact ⟨⟨hfinished.reading.buffer, by dsimp only; omega⟩,
    by dsimp only; omega, hfinished.untouched⟩

end

end Vmstated.Libsocket
