import Vmstated.Libsocket.Replies
import Vmstated.Libsocket.SocketConnect

/-! A blob on its way to the client. -/
namespace Vmstated.Properties
open Library Libsocket

def lengthField (n : Nat) : List UInt8 := 32 :: decimal n

theorem decimal_length_le_of_long {n : Nat} (hn : n < 2 ^ 63) : (decimal n).length ≤ 19 :=
  decimal_length_le (by decide) (hn.trans (by decide))

theorem lengthField_ne_zero (n : Nat) : ∀ byte ∈ lengthField n, byte ≠ 0 := by
  intro byte hbyte
  rcases List.mem_cons.mp hbyte with rfl | hdigit
  · decide
  · rintro rfl
    exact absurd (decimal_isDigit n 0 hdigit) (by decide)

theorem dataLine_eq {n : Nat} (hn : n < 2 ^ 63) : dataLine n = ascii "DATA" ++ lengthField n := by
  have hshort := decimal_length_le_of_long hn
  have hlong : asLong n = n := by
    unfold asLong
    rw [sizeT_of_nat (by omega), if_pos hn]
  have hnumber : paddedDecimal 0 (n : Int) = decimal n := by
    unfold paddedDecimal
    rw [if_neg (by omega), Int.natAbs_natCast, Nat.zero_sub]
    rfl
  have htext : ascii "DATA " ++ decimal n = ascii "DATA" ++ lengthField n := rfl
  rw [dataLine, hlong, hnumber, htext, snprintf, List.take_of_length_le]
  rw [List.length_append, lengthField, List.length_cons]
  have htag : (ascii "DATA").length = 4 := rfl
  omega

theorem tag_received {rounds : Nat} {rest : List UInt8} {counts : Counts} (hflow : Flowing counts)
    (hrounds : 4 < rounds) :
    ∃ after, Flowing after ∧ Source.readInto false rounds 0 4
      (zeros 5) ⟨ascii "DATA" ++ rest, counts⟩ = some (4, ascii "DATA" ++ [0], ⟨rest, after⟩) := by
  have htag : (ascii "DATA").length = 4 := rfl
  have hpending : 4 ≤ (ascii "DATA" ++ rest).length := by
    rw [List.length_append]
    omega
  obtain ⟨after, hafter, hread⟩ := @Source.readInto_of_flowing false rounds 0 4 (zeros 5)
    ⟨ascii "DATA" ++ rest, counts⟩ hflow hpending (by decide) (by decide) hrounds
  exact ⟨after, hafter, hread⟩

theorem length_received {n : Nat} (hn : n < 2 ^ 63) {retbuffer : List UInt8}
    (hret : 32 ≤ retbuffer.length) :
    strtoll ((overlay 4 (lengthField n ++ [0]) retbuffer).drop 5) = ((n : Int), false) := by
  have hfront : (retbuffer.take 4 ++ [32]).length = 5 := by
    rw [List.length_append, List.length_take, List.length_singleton]
    omega
  have hdrop : (overlay 4 (lengthField n ++ [0]) retbuffer).drop 5 =
      decimal n ++ ([0] ++ retbuffer.drop (4 + (lengthField n ++ [0]).length)) := by
    have hsplit : overlay 4 (lengthField n ++ [0]) retbuffer = (retbuffer.take 4 ++ [32]) ++
        (decimal n ++ ([0] ++ retbuffer.drop (4 + (lengthField n ++ [0]).length))) := by
      unfold overlay
      simp only [lengthField, List.cons_append, List.append_assoc, List.nil_append]
    rw [hsplit, ← hfront, List.drop_left]
  rw [hdrop]
  apply strtoll_decimal hn
  rintro byte hbyte
  cases hbyte
  rfl

theorem overlay_all {blob memory : List UInt8} (h : memory.length = blob.length) :
    overlay 0 blob memory = blob := by
  have hdropped : memory.drop blob.length = [] := by
    rw [List.drop_eq_nil_iff, h]
  rw [overlay, List.take_zero, List.nil_append, Nat.zero_add, hdropped, List.append_nil]

theorem blob_received {rounds : Nat} {blob later retbuffer : List UInt8}
    {tagged : Counts} (hflow : Flowing tagged)
    (hlen : blob.length < 2 ^ 63) (hret : 32 ≤ retbuffer.length) (hsize : retbuffer.length < 2 ^ 64)
    (hrounds : (lengthField blob.length).length + 1 + blob.length < rounds) :
    ∃ text counts,
      receiveBlob rounds retbuffer ⟨lengthField blob.length ++ 0 :: (blob ++ later), tagged⟩ =
      some ⟨0, text, some blob, some blob.length, ⟨later, counts⟩⟩ := by
  have hshort := decimal_length_le_of_long hlen
  have hfield : (lengthField blob.length).length = (decimal blob.length).length + 1 := rfl
  obtain ⟨headed, hheaded, hheader⟩ := @receiveHeader_of_flowing rounds 4 (lengthField blob.length)
    (blob ++ later) retbuffer tagged (lengthField_ne_zero _) hflow (by omega) hsize (by omega)
  obtain ⟨ended, _, hread⟩ :=
    @Source.readInto_of_flowing true rounds 0 blob.length (zeros blob.length)
      ⟨blob ++ later, headed⟩ hheaded (by dsimp only; rw [List.length_append]; omega)
      (by rw [zeros_length]; omega) (by omega) (by omega)
  have hnumber : sizeT (blob.length : Int) = blob.length := sizeT_of_nat (by omega)
  rw [Nat.zero_add, List.take_left, List.drop_left, overlay_all (zeros_length _)] at hread
  refine ⟨overlay 4 (lengthField blob.length ++ [0]) retbuffer, ended, ?_⟩
  unfold receiveBlob
  rw [hheader, Option.bind_eq_bind, Option.bind_some]
  dsimp only
  rw [if_neg (not_not.mpr rfl), length_received hlen hret]
  dsimp only
  rw [if_neg Bool.false_ne_true, hnumber, hread, Option.bind_eq_bind, Option.bind_some]
  dsimp only
  rw [if_neg (not_not.mpr rfl)]
  rfl

/-- The client gets the blob that is in the collector, and has then read just
the bytes that the server wrote. -/
theorem data_reply_received {src : SocketReplyCollector} (hstored : src.stored ≠ [])
    (hlen : src.stored.length < 2 ^ 63) {sent received : Counts} (hsent : Flowing sent)
    (hreceived : Flowing received) {retbuffer : List UInt8} (hret : 32 ≤ retbuffer.length)
    (hsize : retbuffer.length < 2 ^ 64) (later : List UInt8) :
    ∃ after bytes counts, shReplyData src ⟨[], sent⟩ = some (0, after, ⟨bytes, counts⟩) ∧
      ∀ rounds, bytes.length < rounds →
        ∃ reply, scReceiveDynamic rounds retbuffer ⟨bytes ++ later, received⟩ = some reply ∧
          reply.retcode = 0 ∧ reply.blobReply = some src.stored ∧
          reply.blobReplyLen = some src.stored.length ∧ reply.source.pending = later := by
  obtain ⟨counts, _, hreply⟩ := @shReplyData_of_flowing ⟨[], sent⟩ hsent src hstored
  refine ⟨_, _, counts, hreply, ?_⟩
  intro rounds hrounds
  generalize hblob : src.stored = blob at *
  have hbytes : dataReply blob ++ later = ascii "DATA" ++
      (lengthField blob.length ++ 0 :: (blob ++ later)) := by
    rw [dataReply, dataLine_eq hlen]
    simp only [List.append_assoc, List.cons_append]
  have hcount : (dataReply blob).length =
      4 + (lengthField blob.length).length + 1 + blob.length := by
    rw [dataReply, dataLine_eq hlen, List.length_append, List.length_append, List.length_cons]
    have htag : (ascii "DATA").length = 4 := rfl
    omega
  rw [List.nil_append] at hrounds ⊢
  rw [hbytes]
  obtain ⟨tagged, htagged, htag⟩ := @tag_received rounds
    (lengthField blob.length ++ 0 :: (blob ++ later)) received hreceived (by omega)
  obtain ⟨text, ended, hreceive⟩ :=
    @blob_received rounds blob later retbuffer tagged htagged hlen hret hsize (by omega)
  refine ⟨⟨0, text, some blob, some blob.length, ⟨later, ended⟩⟩, ?_, rfl, rfl, rfl, rfl⟩
  have hdata : cString (ascii "DATA" ++ [0]) = ascii "DATA" := by decide
  unfold scReceiveDynamic
  rw [htag, Option.bind_eq_bind, Option.bind_some]
  dsimp only
  rw [if_neg (not_not.mpr hdata)]
  exact hreceive

theorem data_reply_received_three :
    ∃ after bytes counts,
      shReplyData (srcReply [1, 2, 3] srcNew).2 ⟨[], pages⟩ = some (0, after, ⟨bytes, counts⟩) ∧
      ∀ rounds, bytes.length < rounds →
        ∃ reply, scReceiveDynamic rounds (zeros 32) ⟨bytes ++ [68], pages⟩ = some reply ∧
          reply.retcode = 0 ∧ reply.blobReply = some [1, 2, 3] ∧ reply.blobReplyLen = some 3 ∧
          reply.source.pending = [68] :=
  @data_reply_received (srcReply [1, 2, 3] srcNew).2 (by decide)
    (by decide) pages pages pages_flowing pages_flowing (zeros 32) (by decide) (by decide) [68]

end Vmstated.Properties
