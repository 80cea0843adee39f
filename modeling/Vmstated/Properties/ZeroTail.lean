import Vmstated.Libsocket.ReadLoop

/-! The bytes of the connection's buffer behind those that were read. -/
namespace Vmstated.Properties
open Library Libsocket

structure Buffered where
  shc : SocketConnection
  parsedata : SocketCmdparsedata

def bufferedNew : Buffered := ⟨shcNew, .zeroed⟩

structure GoodRead where
  bytesReady : Nat
  source : Source UInt8
  ready : bytesReady < 2 ^ 64
  unfailing : Unfailing source.counts

inductive BufferOp where
  | read (read : GoodRead)
  | clearParsedata
  | parse
  | dropmessage
  | dropbytes (count : Nat)

def bufferOps : Machine Buffered BufferOp Unit where
  step s op :=
    match op with
    | .read read => some ((), { s with shc := (shReadData read.bytesReady s.shc read.source).2.1 })
    | .clearParsedata => some ((), { s with parsedata := .zeroed })
    | .parse => (shTryCmdparsing s.shc s.parsedata).map fun parsed => ((), ⟨parsed.2.2, parsed.2.1⟩)
    | .dropmessage => some ((), { s with shc := (shcDropmessage s.parsedata s.shc).2 })
    | .dropbytes count => some ((), { s with shc := (shcDropbytes count s.shc).2 })

def Buffered.drops (s : Buffered) : BufferOp → Nat
  | .read _ | .clearParsedata => 0
  | .parse => parserDrops s.shc s.parsedata
  | .dropmessage => s.parsedata.cmdlen + s.parsedata.datalen + 2
  | .dropbytes count => count

def ZeroTail (shc : SocketConnection) : Prop := ∀ i, shc.bytesRead ≤ i → shc.buffer.getD i 0 = 0

/-- The bytes that a drop leaves behind are zero. -/
def Clean (count : Nat) (shc : SocketConnection) : Prop :=
  0 < count → count < shc.bytesRead → ∀ i, shcMaxtransportdata - count ≤ i →
    i < count → shc.buffer.getD i 0 = 0

structure Kept (x : Transit Buffered BufferOp Unit) : Prop where
  bytesRead : x.before.shc.bytesRead ≤ shcMaxtransportdata ∧
    x.after.shc.bytesRead ≤ shcMaxtransportdata
  tail : ZeroTail x.before.shc ∧ ZeroTail x.after.shc
  shifted : ∀ count, x.input = .dropbytes count → 0 < count → count < x.before.shc.bytesRead →
    ∀ i < x.before.shc.bytesRead - count,
      x.after.shc.buffer.getD i 0 = x.before.shc.buffer.getD (count + i) 0

theorem dropbytes_zeroTail_iff {shc : SocketConnection}
    (h : Sized shc) (htail : ZeroTail shc) (count : Nat) :
    ZeroTail (shcDropbytes count shc).2 ↔ Clean count shc := by
  have hread := h.bytesRead
  have hafter := h.bytesRead_dropbytes count
  by_cases hpart : 0 < count ∧ count < shc.bytesRead
  · obtain ⟨hcount, hless⟩ := hpart
    constructor
    · intro hzero _ _ i hle hlt
      have hbyte := hzero i (by omega)
      rw [h.dropbytes_getD hcount hless, if_neg (by omega), if_pos hlt] at hbyte
      exact hbyte
    · intro hclean i hi
      rw [h.dropbytes_getD hcount hless]
      split
      · exact htail (count + i) (by omega)
      · split
        · exact hclean hcount hless i (by omega) (by assumption)
        · rfl
  · have hclean : Clean count shc := fun hcount hless => absurd ⟨hcount, hless⟩ hpart
    refine iff_of_true ?_ hclean
    by_cases hnone : count = 0
    · rw [hnone]
      exact htail
    · intro i _
      unfold shcDropbytes
      rw [if_neg hnone, if_pos (Or.inr (by omega))]
      exact getD_zeros _ i

/-- The lengths that the parser writes are those of something in the buffer. -/
structure Contained (s : Buffered) : Prop where
  sized : Sized s.shc
  cmdlen : s.parsedata.cmdlen ≤ shcMaxtransportdata
  datalen : s.parsedata.datalen ≤ shcMaxtransportdata

theorem contained_new : Contained bufferedNew := ⟨sized_new, Nat.zero_le _, Nat.zero_le _⟩

theorem bufferOps_step {s t : Buffered} (h : Contained s)
    {op : BufferOp} (hstep : bufferOps.step s op = some ((), t)) :
    Contained t ∧
      ((∃ read, op = .read read ∧ t.shc = (shReadData read.bytesReady s.shc read.source).2.1) ∨
      t.shc = (shcDropbytes (s.drops op) s.shc).2) := by
  have hsized := h.sized
  simp only [bufferOps] at hstep
  cases op with
  | read read =>
    cases hstep
    exact ⟨⟨(hsized.readData read.ready read.unfailing).1, h.cmdlen, h.datalen⟩,
      Or.inl ⟨read, rfl, rfl⟩⟩
  | clearParsedata =>
    cases hstep
    exact ⟨⟨hsized, Nat.zero_le _, Nat.zero_le _⟩, Or.inr rfl⟩
  | parse =>
    obtain ⟨parsed, hparsed, hcmdlen, hdatalen, _⟩ := hsized.parsed h.cmdlen h.datalen
    dsimp only at hstep
    rw [hparsed] at hstep
    cases hstep
    exact ⟨⟨hsized.dropbytes _, hcmdlen, hdatalen⟩, Or.inr rfl⟩
  | dropmessage =>
    cases hstep
    exact ⟨⟨hsized.dropbytes _, h.cmdlen, h.datalen⟩, Or.inr rfl⟩
  | dropbytes count =>
    cases hstep
    exact ⟨⟨hsized.dropbytes _, h.cmdlen, h.datalen⟩, Or.inr rfl⟩

theorem kept_iff_clean {s t : Buffered} (h : Contained s) (htail : ZeroTail s.shc) {op : BufferOp}
    (hstep : bufferOps.step s op = some ((), t)) :
    Kept ⟨s, op, (), t⟩ ↔ Clean (s.drops op) s.shc := by
  obtain ⟨hfits, hcases⟩ := bufferOps_step h hstep
  have htail_iff : ZeroTail t.shc ↔ Clean (s.drops op) s.shc := by
    rcases hcases with ⟨read, rfl, hread⟩ | hdropped
    · obtain ⟨_, hgrown, huntouched⟩ := h.sized.readData read.ready read.unfailing
      refine iff_of_true ?_ fun hcount => absurd hcount (Nat.lt_irrefl 0)
      intro i hi
      rw [hread] at hi ⊢
      rw [huntouched i hi]
      exact htail i (le_trans hgrown hi)
    · rw [hdropped]
      exact dropbytes_zeroTail_iff h.sized htail _
  constructor
  · exact fun hkept => htail_iff.mp hkept.tail.2
  · intro hclean
    refine ⟨⟨h.sized.bytesRead, hfits.sized.bytesRead⟩, ⟨htail, htail_iff.mpr hclean⟩, ?_⟩
    rintro count rfl hcount hless i hi
    have hread := h.sized.bytesRead
    cases hstep
    dsimp only at hi ⊢
    rw [h.sized.dropbytes_getD hcount hless, if_pos (by omega)]

theorem zeroTail_new : ZeroTail shcNew := fun i _ => getD_zeros _ i

theorem bufferOps_fits {transits : List (Transit Buffered BufferOp Unit)} {s : Buffered}
    (run : Run bufferOps bufferedNew transits s) : Contained s := by
  have hall : ∀ x ∈ transits, True := fun _ _ => trivial
  apply run.invariant contained_new _ hall
  intro x hx _ hstep
  exact (bufferOps_step hx hstep).1

theorem zeroTail_of_clean {transits : List (Transit Buffered BufferOp Unit)} {s : Buffered}
    (run : Run bufferOps bufferedNew transits s)
    (hclean : ∀ x ∈ transits, Clean (x.before.drops x.input) x.before.shc) : ZeroTail s.shc := by
  have hboth : Contained s ∧ ZeroTail s.shc := by
    apply run.invariant ⟨contained_new, zeroTail_new⟩ _ hclean
    rintro x ⟨hfits, htail⟩ hx hstep
    exact ⟨(bufferOps_step hfits hstep).1, ((kept_iff_clean hfits htail hstep).mpr hx).tail.2⟩
  exact hboth.2

/-- The tail stays zero, and drops shift the rest to the front, just in the
runs whose drops are clean. -/
theorem zeroTail_iff_clean {transits : List (Transit Buffered BufferOp Unit)} {s : Buffered}
    (run : Run bufferOps bufferedNew transits s) :
    (∀ x ∈ transits, Kept x) ↔ ∀ x ∈ transits, Clean (x.before.drops x.input) x.before.shc := by
  constructor
  · intro hkept x hx
    obtain ⟨earlier, later, rfl⟩ := List.append_of_mem hx
    exact (kept_iff_clean (bufferOps_fits run.before_mid) (hkept x hx).tail.1 (run.step_mem hx)).mp
      (hkept x hx)
  · intro hclean x hx
    obtain ⟨earlier, later, rfl⟩ := List.append_of_mem hx
    have htail := zeroTail_of_clean run.before_mid fun y hy => hclean y (List.mem_append_left _ hy)
    exact (kept_iff_clean (bufferOps_fits run.before_mid) htail (run.step_mem hx)).mpr (hclean x hx)

def readAll (pending : List UInt8) (h : pending.length < 2 ^ 64) : GoodRead :=
  ⟨pending.length, ⟨pending, pages⟩, h, fun _ => Option.some_ne_none _⟩

theorem zeroTail_shortDrop : ∃ transits s, Run bufferOps bufferedNew transits s ∧
    transits.map Transit.input = [.read (readAll [65, 0, 66] (by decide)), .dropbytes 1] ∧
    ∀ x ∈ transits, Kept x := by
  have run := ((Run.nil : Run bufferOps bufferedNew [] bufferedNew).snoc
    (rfl : bufferOps.step _ (.read (readAll [65, 0, 66] (by decide))) = some ((), _))).snoc
    (rfl : bufferOps.step _ (.dropbytes 1) = some ((), _))
  refine ⟨_, _, run, rfl, ?_⟩
  rw [zeroTail_iff_clean run]
  intro x hx
  rcases List.mem_cons.mp hx with hread | hdrop
  · rw [hread]
    exact fun hcount => absurd hcount (Nat.lt_irrefl 0)
  · rw [List.mem_singleton.mp hdrop]
    intro _ _ i hle hlt
    have hsize : shcMaxtransportdata = 1024 := rfl
    dsimp only [Buffered.drops] at hle hlt
    omega

theorem readAll_new {pending : List UInt8} (h : pending.length < 2 ^ 64)
    (hfits : pending.length ≤ shcMaxtransportdata) :
    let read := (shReadData (readAll pending h).bytesReady shcNew (readAll pending h).source).2.1
    read.bytesRead = pending.length ∧ ∃ rest, read.buffer = pending ++ rest := by
  have hlt : pending.length < 2 ^ 63 := by
    unfold shcMaxtransportdata at hfits
    omega
  obtain ⟨_, rest, _, _, hread, _⟩ :=
    @Holds.readData _ _ _ (holds_zeroed srcNew) ⟨pending, pages⟩ pages_flowing hlt
  dsimp only at hread
  rw [List.nil_append, List.length_nil, Nat.sub_zero, Nat.min_eq_left hfits, List.take_length]
    at hread
  exact ⟨hread.bytesRead, rest, hread.buffer⟩

theorem not_kept_of_stale {pending : List UInt8} (h : pending.length < 2 ^ 64)
    (hfits : pending.length ≤ shcMaxtransportdata) {count i : Nat} (hcount : 0 < count)
    (hless : count < pending.length) (hi : shcMaxtransportdata - count ≤ i) (hstale : i < count)
    (hbyte : pending.getD i 0 ≠ 0) :
    ∃ transits s, Run bufferOps bufferedNew transits s ∧
      transits.map Transit.input = [.read (readAll pending h), .dropbytes count] ∧
        ¬∀ x ∈ transits, Kept x := by
  obtain ⟨hread, rest, hbuffer⟩ := readAll_new h hfits
  have first := (Run.nil : Run bufferOps bufferedNew [] bufferedNew).snoc
    (rfl : bufferOps.step _ (.read (readAll pending h)) = some ((), _))
  have run := first.snoc (rfl : bufferOps.step _ (.dropbytes count) = some ((), _))
  refine ⟨_, _, run, rfl, ?_⟩
  intro hkept
  have hdrop := hkept _ (List.mem_append_right _ List.mem_cons_self)
  have hclean := (kept_iff_clean (bufferOps_fits first) hdrop.tail.1 rfl).mp hdrop
  have hzero := hclean hcount (lt_of_lt_of_eq hless hread.symm) i hi hstale
  rw [← List.getD_append pending rest 0 i (by omega), ← hbuffer] at hbyte
  exact hbyte hzero

/-- More than half of the buffer is dropped. -/
theorem zeroTail_stale : ∃ pending, ∃ h : pending.length < 2 ^ 64, ∃ transits s,
    Run bufferOps bufferedNew transits s ∧
      transits.map Transit.input = [.read (readAll pending h), .dropbytes 600] ∧
        ¬∀ x ∈ transits, Kept x := by
  have hlength : (List.replicate 1000 (65 : UInt8)).length = 1000 := List.length_replicate
  have hbyte : (List.replicate 1000 (65 : UInt8)).getD 500 0 ≠ 0 := by
    rw [List.getD_eq_getElem _ _ (by rw [hlength]; decide), List.getElem_replicate]
    decide
  exact ⟨_, by rw [hlength]; decide,
    not_kept_of_stale _ (by rw [hlength]; decide) (by decide) (by rw [hlength]; decide)
      (by decide : shcMaxtransportdata - 600 ≤ 500) (by decide) hbyte⟩

end Vmstated.Properties
