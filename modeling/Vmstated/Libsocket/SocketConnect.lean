import Vmstated.Library.Transfer
import Vmstated.Library.Decimal

/-! libsocket/socket_connect.c: how a client receives a reply. Allocations do
not fail. A loop that takes more than the given rounds has no result. -/
namespace Vmstated.Libsocket
open Library

/-- What the caller of `sc_sendrecv_dynamic` gets, and the stream after it. -/
structure Received where
  retcode : Int
  retbuffer : List UInt8
  blobReply : Option (List UInt8)
  blobReplyLen : Option Nat
  source : Source UInt8

/-- A text reply: each call reads to the same place. -/
def receiveText : Nat → List UInt8 → Source UInt8 → Option Received
  | 0, _, _ => none
  | rounds + 1, retbuffer, source =>
    match source.read (sizeT (retbuffer.length - 4)) with
    | (some [], source) => some ⟨0, retbuffer, none, none, source⟩
    | (bytes, source) =>
      let retbuffer := overlay 4 (bytes.getD []) retbuffer
      if memchrZero retbuffer ≠ none then some ⟨0, retbuffer, none, none, source⟩
      else receiveText rounds retbuffer source

/-- The bytes up to the zero byte, one by one: -1 if `retbuffer` is full before. -/
def receiveHeader : Nat → Nat → List UInt8 → Source UInt8 → Option (Int × List UInt8 × Source UInt8)
  | 0, _, _, _ => none
  | rounds + 1, bytesTotal, retbuffer, source =>
    match source.read 1 with
    | (some [], source) => some (0, retbuffer, source)
    | (bytes, source) =>
      let retbuffer := overlay bytesTotal (bytes.getD []) retbuffer
      if retbuffer[bytesTotal]? = some 0 then some (0, retbuffer, source)
      else
        let bytesTotal := sizeT (bytesTotal + doneRead bytes)
        if bytesTotal ≥ retbuffer.length then some (-1, retbuffer, source)
        else receiveHeader rounds bytesTotal retbuffer source

def receiveBlob (rounds : Nat) (retbuffer : List UInt8) (source : Source UInt8) :
    Option Received := do
  let (result, retbuffer, source) ← receiveHeader rounds 4 retbuffer source
  if result ≠ 0 then return ⟨-1, retbuffer, none, none, source⟩
  else
    let (number, errno) := strtoll (retbuffer.drop 5)
    if errno then return ⟨-1, retbuffer, none, none, source⟩
    else
      let bloblen := sizeT number
      let (bytesTotal, blob, source) ← source.readInto true rounds 0 bloblen (zeros bloblen)
      if bytesTotal ≠ bloblen then none
      else return ⟨0, retbuffer, some blob, some bloblen, source⟩

def scReceiveDynamic (rounds : Nat) (retbuffer : List UInt8) (source : Source UInt8) :
    Option Received := do
  let (_, recvCheck, source) ← source.readInto false rounds 0 4 (zeros 5)
  if cString recvCheck ≠ ascii "DATA" then
    receiveText rounds (overlay 0 (recvCheck.take 4) retbuffer) source
  else receiveBlob rounds retbuffer source

/-! Where no call fails. -/

theorem receiveHeader_of_flowing {rounds bytesTotal : Nat} {line rest retbuffer : List UInt8}
    {counts : Counts} (hline : ∀ byte ∈ line, byte ≠ 0) (hflow : Flowing counts)
    (hfits : bytesTotal + line.length < retbuffer.length) (hsize : retbuffer.length < 2 ^ 64)
    (hrounds : line.length < rounds) :
    ∃ after, Flowing after ∧ receiveHeader rounds bytesTotal retbuffer ⟨line ++ 0 :: rest, counts⟩ =
      some (0, overlay bytesTotal (line ++ [0]) retbuffer, ⟨rest, after⟩) := by
  obtain ⟨fewer, rfl⟩ : ∃ fewer, rounds = fewer + 1 := ⟨rounds - 1, by omega⟩
  induction line generalizing fewer bytesTotal retbuffer counts with
  | nil =>
    refine ⟨counts.rest, hflow.rest, ?_⟩
    rw [List.length_nil] at hfits
    rw [receiveHeader, List.nil_append, Source.read_one hflow]
    dsimp only
    rw [Option.getD_some, if_pos (overlay_getElem? (by omega) 0 []), List.nil_append]
  | cons byte line ih =>
    rw [List.length_cons] at hfits hrounds
    obtain ⟨fewest, rfl⟩ : ∃ fewest, fewer = fewest + 1 := ⟨fewer - 1, by omega⟩
    have hbyte : byte ≠ 0 := hline byte List.mem_cons_self
    have hread : (overlay bytesTotal [byte] retbuffer)[bytesTotal]? = some byte :=
      overlay_getElem? (by omega) byte []
    have hlength : (overlay bytesTotal [byte] retbuffer).length = retbuffer.length :=
      overlay_length (by rw [List.length_singleton]; omega)
    have hnext : sizeT (bytesTotal + doneRead (some [byte])) = bytesTotal + 1 := by
      rw [doneRead, List.length_singleton]
      unfold sizeT
      omega
    obtain ⟨after, hafter, hrest⟩ :=
      @ih (bytesTotal + 1) (overlay bytesTotal [byte] retbuffer) counts.rest
      (fun other hother => hline other (List.mem_cons_of_mem byte hother)) hflow.rest
        (by omega) (by omega)
      fewest (by omega)
    refine ⟨after, hafter, ?_⟩
    rw [receiveHeader, List.cons_append, Source.read_one hflow]
    dsimp only
    rw [Option.getD_some, if_neg (by rw [hread]; simpa using hbyte),
      hnext, if_neg (by omega), hrest]
    have hboth := overlay_overlay [byte] (line ++ [0]) (show bytesTotal ≤ retbuffer.length by omega)
    rw [List.length_singleton] at hboth
    rw [hboth]
    rfl

end Vmstated.Libsocket
