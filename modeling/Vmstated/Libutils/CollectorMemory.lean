import Vmstated.Library.AddressSpace
import Vmstated.Library.Bounds
import Vmstated.Libutils.TransmitCollect

/-! libutils/transmit_collect.c once more, with the widths of its types: sizes
are `size_t` or `ssize_t`, items are allocated, and writes have to stay inside
of the memory they are meant for. -/
namespace Vmstated.Libutils
open Library

structure CollectorItem where
  buffer : List UInt8
  bufferlen : UInt64
  fits : buffer.length = bufferlen.toNat

def sizeofCollectorItem : Nat := 24

/-- `struct socket_transmission_collector`; `held` tells whether `mtx` is locked. -/
structure MemoryCollector where
  held : Bool
  items : List CollectorItem

inductive CollectErrno where
  | enomem
deriving DecidableEq, Repr

structure ItemAnswers where
  item : Option Nat
  buffer : Option Nat

/-- The memory for an item and for its copy of the buffer. -/
def ItemAnswers.allocate (answers : ItemAnswers) (bufferlen : Nat) (space : AddressSpace (2 ^ 64)) :
    Option (AddressSpace (2 ^ 64)) :=
  (space.malloc sizeofCollectorItem answers.item).bind fun withItem =>
    withItem.malloc bufferlen answers.buffer

structure CollectArgs where
  buffer : Option (List UInt8)
  bufferlen : Int64
  bufferLens : Option (List UInt64)
  bufferLenslen : UInt64
  buffer_fits : ∀ memory ∈ buffer, bufferlen.toInt ≤ memory.length
  lens_fit : ∀ memory ∈ bufferLens, bufferLenslen.toNat / sizeofSizeT ≤ memory.length

structure Collected where
  result : Int
  errno : Option CollectErrno
  buffer : Option (List UInt8)
  bufferLens : Option (List UInt64)

/-- A `size_t` that is added to an `ssize_t`. -/
def addSize (total : Int64) (size : UInt64) : Int64 := (total.toUInt64 + size).toInt64

namespace MemoryCollector

def new : MemoryCollector := ⟨false, []⟩

/-- The mutex is not recursive. -/
def lock (stc : MemoryCollector) : Option MemoryCollector :=
  if stc.held then none else some { stc with held := true }

def unlock (stc : MemoryCollector) : Option MemoryCollector :=
  if stc.held then some { stc with held := false } else none

/-- Nothing is returned where the call reads behind the caller's buffer. -/
def storeTransmit (buffer : Option (List UInt8)) (bufferlen : UInt64) (answers : ItemAnswers)
    (space : AddressSpace (2 ^ 64)) (stc : MemoryCollector) :
    Option (Int × AddressSpace (2 ^ 64) × MemoryCollector) :=
  match buffer with
  | none => some (-1, space, stc)
  | some buffer =>
    if bufferlen = 0 then some (-1, space, stc)
    else
      match space.malloc sizeofCollectorItem answers.item with
      | none => some (-1, space, stc)
      | some withItem =>
        match withItem.malloc bufferlen.toNat answers.buffer with
        | none => some (-1, space, stc)
        | some withBuffer =>
          if hread : bufferlen.toNat ≤ buffer.length then
            let stci : CollectorItem :=
              ⟨buffer.take bufferlen.toNat, bufferlen, List.length_take_of_le hread⟩
            match stc.lock with
            | none => some (-1, space, stc)
            | some stc =>
              let stc := { stc with items := stc.items ++ [stci] }
              match stc.unlock with
              | none => some (-1, withBuffer, stc)
              | some stc => some (0, withBuffer, stc)
          else none

/-- The loop of the two functions that follow. Without the mutex it does not run. -/
def total {α : Type} (zero : α) (add : α → CollectorItem → α) (stc : MemoryCollector) :
    α × MemoryCollector :=
  match stc.lock with
  | none => (zero, stc)
  | some stc =>
    let total := stc.items.foldl add zero
    match stc.unlock with
    | none => (zero, stc)
    | some stc => (total, stc)

def getbuffercount (stc : MemoryCollector) : UInt64 × MemoryCollector :=
  stc.total 0 fun total _ => total + 1

def getbuffersize (stc : MemoryCollector) : Int64 × MemoryCollector :=
  stc.total 0 fun total stci => addSize total stci.bufferlen

/-- The loop of `stc_collect`. Nothing is returned for a write outside of the memory. -/
def copyAll : List CollectorItem → Int64 → UInt64 → List UInt8 →
    List UInt64 → Option (List UInt8 × List UInt64)
  | [], _, _, buffer, bufferLens => some (buffer, bufferLens)
  | stci :: items, offset, counter, buffer, bufferLens =>
    if 0 ≤ offset ∧ counter.toNat < bufferLens.length then
      (store offset.toInt.toNat stci.buffer buffer).bind fun buffer =>
        copyAll items (addSize offset stci.bufferlen) (counter + 1) buffer
          (bufferLens.set counter.toNat stci.bufferlen)
    else none

def collect (args : CollectArgs) (stc : MemoryCollector) : Option (Collected × MemoryCollector) :=
  let failed (errno : Option CollectErrno) : Collected := ⟨-1, errno, args.buffer, args.bufferLens⟩
  match args.buffer, args.bufferLens with
  | some buffer, some bufferLens =>
    if args.bufferlen = 0 ∨ args.bufferLenslen = 0 then some (failed none, stc)
    else
      let (size, stc) := stc.getbuffersize
      if args.bufferlen < size then some (failed (some .enomem), stc)
      else
        let (count, stc) := stc.getbuffercount
        if args.bufferLenslen < UInt64.ofNat sizeofSizeT * count
          then some (failed (some .enomem), stc)
        else
          match stc.lock with
          | none => some (failed none, stc)
          | some stc =>
            (copyAll stc.items 0 0 buffer bufferLens).map fun (buffer, bufferLens) =>
              match stc.unlock with
              | none => (⟨-1, none, some buffer, some bufferLens⟩, stc)
              | some stc => (⟨0, none, some buffer, some bufferLens⟩, stc)
  | _, _ => some (failed none, stc)

/-! What the loops compute, where nothing wraps. -/

def buffers (stc : MemoryCollector) : List (List UInt8) := stc.items.map CollectorItem.buffer

end MemoryCollector

theorem addSize_toInt {total : Int64} {size : UInt64} {n : Nat} (htotal : total.toInt = n)
    (hfits : n + size.toNat < 2 ^ 63) : (addSize total size).toInt = (n + size.toNat : Nat) := by
  have hsize : size.toInt64.toInt = size.toNat := by
    conv_lhs => rw [← UInt64.ofNat_toNat (x := size), UInt64.toInt64_ofNat']
    exact Int64.toInt_ofNat_of_lt (by omega)
  rw [addSize, UInt64.toInt64_add, Int64.toInt64_toUInt64, Int64.toInt_add, htotal, hsize]
  rw [Int.bmod_eq_of_le (by omega) (by omega)]
  exact (Int.natCast_add _ _).symm

theorem toNat_succ {counter : UInt64} (h : counter.toNat + 1 < 2 ^ 64) :
    (counter + 1).toNat = counter.toNat + 1 := by
  rw [UInt64.toNat_add, UInt64.toNat_one]
  exact Nat.mod_eq_of_lt h

namespace MemoryCollector
variable {items : List CollectorItem}

theorem foldl_count {count : UInt64} (h : count.toNat + items.length < 2 ^ 64) :
    (items.foldl (fun total _ => total + 1) count).toNat = count.toNat + items.length := by
  induction items generalizing count with
  | nil => rfl
  | cons stci items ih =>
    rw [List.length_cons] at h
    have hnext := @toNat_succ count (by omega)
    rw [List.foldl_cons, ih (by omega), hnext, List.length_cons]
    omega

theorem foldl_size {size : Int64} {n : Nat} (hsize : size.toInt = n)
    (h : n + (items.map CollectorItem.buffer).flatten.length < 2 ^ 63) :
    (items.foldl (fun total stci => addSize total stci.bufferlen) size).toInt =
      (n + (items.map CollectorItem.buffer).flatten.length : Nat) := by
  induction items generalizing size n with
  | nil => exact hsize
  | cons stci items ih =>
    rw [List.map_cons, List.flatten_cons, List.length_append, stci.fits] at h
    have hnext := @addSize_toInt _ stci.bufferlen _ hsize (by omega)
    rw [List.foldl_cons, ih hnext (by omega), List.map_cons,
      List.flatten_cons, List.length_append, stci.fits, Nat.add_assoc]

theorem copyAll_eq {offset : Int64} {n : Nat} {counter : UInt64}
    {buffer : List UInt8} {lens : List UInt64}
    (hoffset : offset.toInt = n)
    (hsize : n + (items.map CollectorItem.buffer).flatten.length < 2 ^ 63)
    (hbuffer : n + (items.map CollectorItem.buffer).flatten.length ≤ buffer.length)
    (hcount : counter.toNat + items.length < 2 ^ 64)
    (hlens : counter.toNat + items.length ≤ lens.length) :
    (copyAll items offset counter buffer lens).map
      (fun copied => (copied.1, copied.2.map UInt64.toNat)) =
      some (copyItems (items.map CollectorItem.buffer) n counter.toNat buffer
        (lens.map UInt64.toNat)) := by
  induction items generalizing offset n counter buffer lens with
  | nil => rfl
  | cons stci items ih =>
    rw [List.map_cons, List.flatten_cons, List.length_append, stci.fits] at hsize hbuffer
    rw [List.length_cons] at hcount hlens
    have hinside : n + stci.buffer.length ≤ buffer.length := by
      rw [stci.fits]
      omega
    have hnext := @toNat_succ counter (by omega)
    have hguard : 0 ≤ offset ∧ counter.toNat < lens.length := by
      refine ⟨Int64.le_iff_toInt_le.mpr ?_, by omega⟩
      rw [hoffset]
      exact Int.natCast_nonneg n
    have hrest := @ih (addSize offset stci.bufferlen) (n + stci.bufferlen.toNat) (counter + 1)
      (overlay n stci.buffer buffer) (lens.set counter.toNat stci.bufferlen)
      (addSize_toInt hoffset (by omega)) (by omega) (by rw [overlay_length hinside]; omega)
      (by omega) (by rw [List.length_set]; omega)
    rw [hnext, List.map_set, ← stci.fits] at hrest
    rw [copyAll, if_pos hguard, hoffset, Int.toNat_natCast,
      store_eq hinside, Option.bind_some, hrest]
    rfl

section
variable {stc : MemoryCollector} (hfree : stc.held = false)
include hfree

theorem total_eq {α : Type} (zero : α) (add : α → CollectorItem → α) :
    stc.total zero add = (stc.items.foldl add zero, stc) := by
  obtain ⟨held, items⟩ := stc
  obtain rfl : held = false := hfree
  rfl

theorem getbuffercount_toNat (h : stc.items.length < 2 ^ 64) :
    (stc.getbuffercount).1.toNat = stc.items.length := by
  have hcount := @foldl_count stc.items 0 (by rwa [UInt64.toNat_zero, Nat.zero_add])
  rw [getbuffercount, total_eq hfree, hcount, UInt64.toNat_zero, Nat.zero_add]

theorem getbuffersize_toInt (h : stc.buffers.flatten.length < 2 ^ 63) :
    (stc.getbuffersize).1.toInt = stc.buffers.flatten.length := by
  have hsize := @foldl_size stc.items 0 0 rfl (by rwa [Nat.zero_add])
  rw [getbuffersize, total_eq hfree, hsize, Nat.zero_add]
  rfl

/-- The mutex is free whenever it is asked for. -/
theorem collect_eq {buffer : List UInt8} {bufferLens : List UInt64} {args : CollectArgs}
    (hbuffer : args.buffer = some buffer) (hlens : args.bufferLens = some bufferLens) :
    stc.collect args =
      if args.bufferlen = 0 ∨ args.bufferLenslen =
        0 then some (⟨-1, none, args.buffer, args.bufferLens⟩, stc)
      else if args.bufferlen < (stc.getbuffersize).1 then
        some (⟨-1, some .enomem, args.buffer, args.bufferLens⟩, stc)
      else if args.bufferLenslen < UInt64.ofNat sizeofSizeT * (stc.getbuffercount).1 then
        some (⟨-1, some .enomem, args.buffer, args.bufferLens⟩, stc)
      else
        (copyAll stc.items 0 0 buffer bufferLens).map fun copied =>
          (⟨0, none, some copied.1, some copied.2⟩, stc) := by
  obtain ⟨held, items⟩ := stc
  obtain rfl : held = false := hfree
  unfold collect
  rw [hbuffer, hlens]
  rfl

end

/-! The collector without widths, pointers and mutex: each call does to it what
it does here. -/

def collector (stc : MemoryCollector) : SocketTransmissionCollector := ⟨stc.buffers⟩

theorem new_refines : new.collector = stcNew := rfl

theorem storeTransmit_refines {stc : MemoryCollector} (hfree : stc.held = false)
    {buffer : List UInt8}
    (hsize : buffer.length < 2 ^ 64) {answers : ItemAnswers} {space after : AddressSpace (2 ^ 64)}
    (hallocate : if buffer = [] then after = space
      else answers.allocate buffer.length space = some after) :
    ∃ stc', stc.storeTransmit (some buffer) (UInt64.ofNat buffer.length) answers space =
        some ((stcStoreTransmit buffer stc.collector).1, after, stc') ∧
      stc'.held = false ∧ stc'.collector = (stcStoreTransmit buffer stc.collector).2 := by
  by_cases hempty : buffer = []
  · rw [if_pos hempty] at hallocate
    subst hempty hallocate
    exact ⟨stc, rfl, hfree, rfl⟩
  · rw [if_neg hempty] at hallocate
    obtain ⟨withItem, hitem, hbuffer⟩ := Option.bind_eq_some_iff.mp hallocate
    obtain ⟨held, items⟩ := stc
    obtain rfl : held = false := hfree
    have htoNat : (UInt64.ofNat buffer.length).toNat = buffer.length :=
      UInt64.toNat_ofNat_of_lt' hsize
    have hpos : UInt64.ofNat buffer.length ≠ 0 := by
      intro hzero
      rw [hzero, UInt64.toNat_zero] at htoNat
      exact hempty (List.length_eq_zero_iff.mp htoNat.symm)
    rw [← htoNat] at hbuffer
    rw [stcStoreTransmit_of_ne hempty]
    unfold storeTransmit
    dsimp only
    rw [if_neg hpos, hitem]
    dsimp only
    rw [hbuffer]
    dsimp only
    rw [dif_pos (Nat.le_of_eq htoNat)]
    refine ⟨_, rfl, rfl, ?_⟩
    simp only [collector, buffers, List.map_append, List.map_singleton, htoNat, List.take_length]

end MemoryCollector

/-- Result and memory are as in the outcome. -/
structure Collected.Shows (collected : Collected) (outcome : Int × List UInt8 × List Nat) :
    Prop where
  result : collected.result = outcome.1
  buffer : collected.buffer = some outcome.2.1
  bufferLens : collected.bufferLens.map (List.map UInt64.toNat) = some outcome.2.2

namespace MemoryCollector

theorem collect_refines {stc : MemoryCollector} (hfree : stc.held = false)
    (hsize : stc.buffers.flatten.length < 2 ^ 63) (hcount : sizeofSizeT * stc.items.length < 2 ^ 64)
    {args : CollectArgs} {buffer : List UInt8} {bufferLens : List UInt64}
    (hbuffer : args.buffer = some buffer)
    (hlens : args.bufferLens = some bufferLens) :
    ∃ collected, stc.collect args = some (collected, stc) ∧
      collected.Shows
        (stcCollect stc.collector buffer args.bufferlen.toInt (bufferLens.map UInt64.toNat)
        args.bufferLenslen.toNat) := by
  have hbytes := getbuffersize_toInt hfree hsize
  have hnumber := getbuffercount_toNat hfree (by simp only [sizeofSizeT] at hcount; omega)
  have hproduct : (UInt64.ofNat sizeofSizeT * (stc.getbuffercount).1).toNat =
      sizeofSizeT * stc.items.length := by
    rw [UInt64.toNat_mul, hnumber]
    exact Nat.mod_eq_of_lt hcount
  have htotal : stcGetbuffersize stc.collector = stc.buffers.flatten.length := stcGetbuffersize_eq _
  have hlength : stcGetbuffercount stc.collector = stc.items.length := List.length_map _
  have hzero : (args.bufferlen = 0 ∨ args.bufferLenslen = 0) ↔
      (args.bufferlen.toInt = 0 ∨ args.bufferLenslen.toNat = 0) :=
    or_congr Int64.toInt_inj.symm UInt64.toNat_inj.symm
  have hfailed (errno : Option CollectErrno) :
      Collected.Shows ⟨-1, errno, args.buffer, args.bufferLens⟩
        (-1, buffer, bufferLens.map UInt64.toNat) :=
    ⟨rfl, hbuffer, by rw [hlens, Option.map_some]⟩
  rw [collect_eq hfree hbuffer hlens, stcCollect, htotal, hlength]
  simp only [hzero, Int64.lt_iff_toInt_lt, UInt64.lt_iff_toNat_lt, hbytes, hproduct]
  split
  case isTrue => exact ⟨_, rfl, hfailed none⟩
  case isFalse =>
    by_cases hsmall : args.bufferlen.toInt < stc.buffers.flatten.length
    · rw [if_pos hsmall, if_pos (Or.inl hsmall)]
      exact ⟨_, rfl, hfailed _⟩
    · rw [if_neg hsmall]
      by_cases hfew : args.bufferLenslen.toNat < sizeofSizeT * stc.items.length
      · rw [if_pos hfew, if_pos (Or.inr hfew)]
        exact ⟨_, rfl, hfailed _⟩
      · rw [if_neg hfew, if_neg (not_or.mpr ⟨hsmall, hfew⟩)]
        have hfits := args.buffer_fits buffer hbuffer
        have hlensFit := args.lens_fit bufferLens hlens
        have hdivided : stc.items.length ≤ args.bufferLenslen.toNat / sizeofSizeT :=
          (Nat.le_div_iff_mul_le (by decide : 0 < sizeofSizeT)).mpr
            (by rw [Nat.mul_comm]; exact not_lt.mp hfew)
        have hzeros : (0 : UInt64).toNat = 0 := rfl
        have hcopied := @copyAll_eq stc.items 0 0 0 buffer bufferLens rfl
          (by rw [Nat.zero_add]; exact hsize) (by simp only [buffers] at hsmall; omega)
          (by rw [hzeros]; simp only [sizeofSizeT] at hcount; omega) (by rw [hzeros]; omega)
        obtain ⟨copied, hcopy, hshown⟩ := Option.map_eq_some_iff.mp hcopied
        obtain ⟨hfirst, hsecond⟩ := Prod.mk.inj hshown
        rw [hcopy]
        exact ⟨_, rfl, rfl, congrArg some hfirst, congrArg some hsecond⟩

end MemoryCollector

end Vmstated.Libutils
