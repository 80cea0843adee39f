import Vmstated.Library.Bounds
import Vmstated.Libsocket.SocketConnect

/-! A text reply on its way to the client. -/
namespace Vmstated.Properties
open Library Libsocket

def deal (cuts : List Nat) : Counts := fun i => some (cuts.getD i 1)

theorem deal_read {cut len : Nat} (cuts : List Nat) (pending : List UInt8) (hcut : cut ≤ len) :
    Source.read len ⟨pending, deal (cut :: cuts)⟩ =
      (some (pending.take cut), ⟨pending.drop cut, deal cuts⟩) := by
  have hmin : min cut len = cut := Nat.min_eq_left hcut
  simp only [Source.read, deal, List.getD_cons_zero, hmin]
  rfl

theorem take_eq_cons {cut : Nat} {pending : List UInt8}
    (hpos : 0 < cut) (hpending : cut ≤ pending.length) :
    ∃ byte bytes, pending.take cut = byte :: bytes ∧ (byte :: bytes).length = cut := by
  have hlength : (pending.take cut).length = cut := by
    rw [List.length_take]
    omega
  obtain ⟨byte, bytes, hbytes⟩ :=
    List.exists_cons_of_length_pos (Nat.lt_of_lt_of_eq hpos hlength.symm)
  exact ⟨byte, bytes, hbytes, hbytes ▸ hlength⟩

theorem readInto_cut {cut rest total : Nat} {cuts : List Nat}
    {memory pending : List UInt8} (hpos : 0 < cut)
    (hpending : cut ≤ pending.length) (hfits : total + (cut + rest) ≤ memory.length)
    (hsize : memory.length < 2 ^ 64) (rounds : Nat) :
    Source.readInto false (rounds + 1) total (cut + rest) memory ⟨pending, deal (cut :: cuts)⟩ =
      Source.readInto false rounds (total + cut) rest (overlay total (pending.take cut) memory)
        ⟨pending.drop cut, deal cuts⟩ := by
  obtain ⟨byte, bytes, hbytes, hlength⟩ := take_eq_cons hpos hpending
  have htotal : sizeT (total + doneRead (some (byte :: bytes))) = total + cut := by
    rw [doneRead, hlength]
    unfold sizeT
    omega
  have hlen : sizeT ((cut + rest : Nat) - doneRead (some (byte :: bytes))) = rest := by
    rw [doneRead, hlength]
    unfold sizeT
    omega
  rw [Source.readInto, if_neg (by simp), deal_read _ _ (Nat.le_add_right _ _), hbytes]
  dsimp only
  rw [htotal, hlen, Option.getD_some]

theorem readInto_deal {cuts more : List Nat} {extra : Nat}
    (hpos : ∀ cut ∈ cuts, 0 < cut) {rounds total : Nat}
    {memory pending : List UInt8} (hpending : cuts.sum ≤ pending.length)
    (hfits : total + cuts.sum ≤ memory.length) (hsize : memory.length < 2 ^ 64) :
    Source.readInto false rounds total cuts.sum memory ⟨pending, deal (cuts ++ extra :: more)⟩ =
      if cuts.length < rounds then
        some (total + cuts.sum, overlay total (pending.take cuts.sum) memory,
          ⟨pending.drop cuts.sum, deal more⟩)
      else none := by
  induction cuts generalizing rounds total memory pending with
  | nil =>
    cases rounds with
    | zero => rfl
    | succ rounds =>
      have hread : Source.read 0 ⟨pending, deal (extra :: more)⟩ =
          (some [], ⟨pending, deal more⟩) := by
        simp only [Source.read, deal, Nat.min_zero, List.take_zero, List.drop_zero]
        rfl
      rw [Source.readInto, List.sum_nil, List.nil_append, hread]
      simp
  | cons cut cuts ih =>
    cases rounds with
    | zero => rfl
    | succ rounds =>
      rw [List.sum_cons] at hpending hfits ⊢
      have hcut : 0 < cut := hpos cut List.mem_cons_self
      have hlength : (pending.take cut).length = cut := by
        rw [List.length_take]
        omega
      have hmemory : (overlay total (pending.take cut) memory).length = memory.length :=
        overlay_length (by omega)
      have hwritten : overlay (total + cut) ((pending.drop cut).take cuts.sum)
          (overlay total (pending.take cut) memory) =
            overlay total (pending.take (cut + cuts.sum)) memory := by
        have htotal : total ≤ memory.length := by omega
        have hboth := overlay_overlay (pending.take cut) ((pending.drop cut).take cuts.sum) htotal
        rw [hlength, ← List.take_add] at hboth
        exact hboth
      rw [List.cons_append, readInto_cut hcut (by omega) hfits hsize,
        ih (fun other hother => hpos other (List.mem_cons_of_mem cut hother))
          (by rw [List.length_drop]; omega) (by omega) (by omega),
            hwritten, List.drop_drop, Nat.add_assoc]
      simp only [List.length_cons, Nat.add_lt_add_iff_right]

theorem receiveText_deal {cut : Nat} {cuts : List Nat}
    {pending retbuffer : List UInt8} (hpos : 0 < cut)
    (hpending : cut ≤ pending.length) (hfits : 4 + cut ≤ retbuffer.length)
    (hsize : retbuffer.length < 2 ^ 64)
    (rounds : Nat) :
    receiveText (rounds + 1) retbuffer ⟨pending, deal (cut :: cuts)⟩ =
      if memchrZero (overlay 4 (pending.take cut) retbuffer) ≠ none then
        some ⟨0, overlay 4 (pending.take cut) retbuffer, none, none, ⟨pending.drop cut, deal cuts⟩⟩
      else receiveText rounds (overlay 4 (pending.take cut) retbuffer)
        ⟨pending.drop cut, deal cuts⟩ := by
  obtain ⟨byte, bytes, hbytes, _⟩ := take_eq_cons hpos hpending
  have hlen : cut ≤ sizeT (retbuffer.length - 4) := by
    unfold sizeT
    omega
  rw [receiveText, deal_read cuts pending hlen, hbytes]
  rfl

theorem overlay_ends {text retbuffer : List UInt8} (hfits : 4 + text.length < retbuffer.length) :
    (overlay 4 (text ++ [0]) retbuffer)[4 + text.length]? = some 0 := by
  rw [← overlay_overlay text [0] (by omega)]
  apply overlay_getElem?
  rw [overlay_length (by omega)]
  omega

theorem receiveText_zero {cuts : List Nat} (hpos : ∀ cut ∈ cuts, 0 < cut)
    {rounds : Nat} {text retbuffer : List UInt8}
    (hsum : cuts.sum = text.length + 1) (hfits : 4 + cuts.sum ≤ retbuffer.length)
    (hsize : retbuffer.length < 2 ^ 64)
    {received : Received}
    (hreceived : receiveText rounds retbuffer ⟨text ++ [0], deal cuts⟩ = some received)
    (hall : received.source.pending = []) :
    ∃ i, i < 4 + cuts.sum ∧ received.retbuffer[i]? = some 0 := by
  have hreply : (text ++ [0]).length = text.length + 1 := List.length_append
  induction cuts generalizing rounds text retbuffer with
  | nil => contradiction
  | cons cut cuts ih =>
    cases rounds with
    | zero => contradiction
    | succ rounds =>
      rw [List.sum_cons] at hsum hfits ⊢
      have hcut : 0 < cut := hpos cut List.mem_cons_self
      rw [receiveText_deal hcut (by omega) (by omega) hsize] at hreceived
      by_cases hlast : cut = text.length + 1
      · rw [List.take_of_length_le (by omega)] at hreceived
        have hends := @overlay_ends text retbuffer (by omega)
        rw [if_pos
          (by rw [memchrZero_of_mem (List.mem_of_getElem? hends)]; exact Option.some_ne_none _)]
            at hreceived
        cases hreceived
        exact ⟨4 + text.length, by omega, hends⟩
      · have hmore : (text ++ [0]).drop cut = text.drop cut ++ [0] :=
          List.drop_append_of_le_length (by omega)
        rw [hmore] at hreceived
        split at hreceived
        · cases hreceived
          exact absurd hall (by simp)
        · have hlength : (overlay 4 ((text ++ [0]).take cut) retbuffer).length = retbuffer.length :=
            overlay_length (by rw [List.length_take]; omega)
          obtain ⟨i, hi, hzero⟩ :=
            ih (fun other hother => hpos other (List.mem_cons_of_mem cut hother))
              (by rw [List.length_drop]; omega) (by omega) (by omega) hreceived List.length_append
          exact ⟨i, by omega, hzero⟩

/-- The client returns with just the reply in front of its buffer, and leaves
whatever comes behind it. -/
def ReceivesText (text retbuffer : List UInt8) (counts : Counts) : Prop :=
  ∀ later, ∃ rounds received,
    scReceiveDynamic rounds retbuffer ⟨text ++ 0 :: later, counts⟩ = some received ∧
      received.retcode = 0 ∧ received.retbuffer.take (text.length + 1) = text ++ [0] ∧
      received.source.pending = later

section
variable {text retbuffer : List UInt8} (htext : ∀ byte ∈ text, byte ≠ 0) (hlen : 3 ≤ text.length)
  (hplain : text.take 4 ≠ ascii "DATA") (hfits : text.length + 1 ≤ retbuffer.length)
  (hsize : retbuffer.length < 2 ^ 64) {tag rest : List Nat} (htag : ∀ cut ∈ tag, 0 < cut)
  (htagSum : tag.sum = 4)

include htext hlen hplain htag htagSum in
theorem text_tag_received (rounds : Nat) (later : List UInt8) :
    scReceiveDynamic rounds retbuffer ⟨text ++ 0 :: later, deal (tag ++ 1 :: rest)⟩ =
      if tag.length < rounds then
        receiveText rounds (overlay 0 ((text ++ [0]).take 4) retbuffer)
          ⟨(text ++ [0]).drop 4 ++ later, deal rest⟩
      else none := by
  have hreply : (text ++ [0]).length = text.length + 1 := List.length_append
  have hpending : text ++ 0 :: later = (text ++ [0]) ++ later := by
    rw [List.append_assoc, List.singleton_append]
  have hread := @readInto_deal tag rest 1 htag rounds 0 (zeros 5) (text ++ 0 :: later)
    (by rw [htagSum, hpending, List.length_append]; omega) (by rw [htagSum]; decide) (by decide)
  rw [htagSum, hpending, List.take_append_of_le_length (by omega),
    List.drop_append_of_le_length (by omega)] at hread
  have hfirst : ((text ++ [0]).take 4).length = 4 := by
    rw [List.length_take]
    omega
  have hcheck : overlay 0 ((text ++ [0]).take 4) (zeros 5) = (text ++ [0]).take 4 ++ [0] := by
    rw [overlay, hfirst, List.take_zero, List.nil_append]
    rfl
  have hother : cString ((text ++ [0]).take 4 ++ [0]) ≠ ascii "DATA" := by
    by_cases hshort : text.length = 3
    · rw [List.take_of_length_le (by omega),
        cString_append_of_mem (List.mem_append_right text List.mem_cons_self)]
      intro hsame
      have hlt :=
        strlen_lt_of_mem (List.mem_append_right text (List.mem_cons_self : (0 : UInt8) ∈ [0]))
      rw [strlen, hsame, hreply, hshort] at hlt
      contradiction
    · rw [List.take_append_of_le_length (by omega), cString_append]
      · exact hplain
      · exact fun byte hbyte => htext byte (List.mem_of_mem_take hbyte)
  unfold scReceiveDynamic
  rw [hpending, hread]
  split
  · rw [Option.bind_eq_bind, Option.bind_some]
    dsimp only
    rw [hcheck, if_pos hother, List.take_append_of_le_length hfirst.ge,
      List.take_of_length_le hfirst.le]
  · rfl

include htext hlen hplain hfits hsize htag htagSum

theorem receivesText_of_one {cut : Nat} (hcut : cut = text.length + 1 - 4) (hpos : 0 < cut) :
    ReceivesText text retbuffer (deal (tag ++ [1, cut])) := by
  intro later
  have hreply : (text ++ [0]).length = text.length + 1 := List.length_append
  have hrest : ((text ++ [0]).drop 4).length = cut := by
    rw [List.length_drop]
    omega
  have hfirst : ((text ++ [0]).take 4).length = 4 := by
    rw [List.length_take]
    omega
  have hlength : (overlay 0 ((text ++ [0]).take 4) retbuffer).length = retbuffer.length :=
    overlay_length (by omega)
  have hwritten : overlay 4 ((text ++ [0]).drop 4) (overlay 0 ((text ++ [0]).take 4) retbuffer) =
      overlay 0 (text ++ [0]) retbuffer := by
    have hboth :=
      overlay_overlay ((text ++ [0]).take 4) ((text ++ [0]).drop 4) (Nat.zero_le retbuffer.length)
    rw [hfirst, Nat.zero_add, List.take_append_drop] at hboth
    exact hboth
  have hfront : overlay 0 (text ++ [0]) retbuffer =
      (text ++ [0]) ++ retbuffer.drop (text.length + 1) := by
    rw [overlay, List.take_zero, List.nil_append, hreply, Nat.zero_add]
  have hzero : 0 ∈ overlay 0 (text ++ [0]) retbuffer := by
    rw [hfront]
    simp
  refine ⟨tag.length + 1, ⟨0, overlay 0 (text ++ [0]) retbuffer, none, none, ⟨later, deal []⟩⟩,
    ?_, rfl, ?_, rfl⟩
  · rw [text_tag_received htext hlen hplain htag htagSum, if_pos (Nat.lt_succ_self _),
      receiveText_deal hpos (by rw [List.length_append]; omega) (by omega) (by omega),
        ← hrest, List.take_left,
      List.drop_left, hwritten, memchrZero_of_mem hzero, if_pos (Option.some_ne_none _)]
  · rw [hfront, ← hreply, List.take_left]

omit hsize in
theorem receivesText_of_full (hfull : retbuffer.length = 4) (rest : List Nat) :
    ReceivesText text retbuffer (deal (tag ++ 1 :: rest)) := by
  intro later
  have hreply : (text ++ [0]).length = 4 := by
    rw [List.length_append, List.length_singleton]
    omega
  have hbuffer : overlay 0 (text ++ [0]) retbuffer = text ++ [0] := by
    rw [overlay, hreply, Nat.zero_add, List.drop_eq_nil_of_le hfull.le,
      List.take_zero, List.nil_append, List.append_nil]
  have hroom : sizeT ((text ++ [0]).length - 4) = 0 := by
    rw [hreply]
    rfl
  refine ⟨tag.length + 1, ⟨0, text ++ [0], none, none, ⟨later, (deal rest).rest⟩⟩, ?_, rfl, ?_, rfl⟩
  · rw [text_tag_received htext hlen hplain htag htagSum, if_pos (Nat.lt_succ_self _),
      List.take_of_length_le hreply.le, List.drop_eq_nil_of_le hreply.le,
        hbuffer, List.nil_append, receiveText, hroom]
    simp [Source.read, deal]
  · exact List.take_of_length_le (by dsimp only; omega)

theorem not_receivesText_of_none (hroom : retbuffer.length ≠ 4) (hnone : text.length + 1 - 4 = 0) :
    ¬ReceivesText text retbuffer (deal (tag ++ [1])) := by
  intro hreceives
  obtain ⟨rounds, received, hreceived, _, _, hpending⟩ := hreceives [1]
  have hreply : (text ++ [0]).length = 4 := by
    rw [List.length_append, List.length_singleton]
    omega
  have hlength : (overlay 0 (text ++ [0]) retbuffer).length = retbuffer.length :=
    overlay_length (by omega)
  have hzero : memchrZero (overlay 4 [1] (overlay 0 (text ++ [0]) retbuffer)) ≠ none := by
    have hmem : 0 ∈ overlay 4 [1] (overlay 0 (text ++ [0]) retbuffer) := by
      have hboth := overlay_overlay (text ++ [0]) [1] (Nat.zero_le retbuffer.length)
      rw [hreply, Nat.zero_add] at hboth
      rw [hboth, overlay]
      simp
    rw [memchrZero_of_mem hmem]
    exact Option.some_ne_none _
  have hread : Source.read (sizeT ((overlay 0 (text ++ [0]) retbuffer).length - 4))
      ⟨([1] : List UInt8), deal []⟩ = (some [1], ⟨[], (deal []).rest⟩) := by
    have hlen : 1 ≤ sizeT ((overlay 0 (text ++ [0]) retbuffer).length - 4) := by
      unfold sizeT
      omega
    have hmin : min 1 (sizeT ((overlay 0 (text ++ [0]) retbuffer).length - 4)) = 1 :=
      Nat.min_eq_left hlen
    simp only [Source.read, deal, List.getD_nil, hmin]
    rfl
  rw [text_tag_received htext hlen hplain htag htagSum, List.take_of_length_le hreply.le,
    List.drop_eq_nil_of_le hreply.le, List.nil_append] at hreceived
  split at hreceived
  · cases rounds with
    | zero => contradiction
    | succ rounds =>
      rw [receiveText, hread] at hreceived
      dsimp only at hreceived
      rw [Option.getD_some, if_pos hzero] at hreceived
      cases hreceived
      contradiction
  · contradiction

theorem not_receivesText_of_more {cut next : Nat} {cuts : List Nat}
    (hpos : ∀ other ∈ cut :: next :: cuts, 0 < other)
    (hsum : (cut :: next :: cuts).sum = text.length + 1 - 4) :
    ¬ReceivesText text retbuffer (deal (tag ++ 1 :: cut :: next :: cuts)) := by
  intro hreceives
  obtain ⟨rounds, received, hreceived, _, hfront, hpending⟩ := hreceives []
  rw [List.sum_cons] at hsum
  have hcut : 0 < cut := hpos cut List.mem_cons_self
  have hnext : ∀ other ∈ next :: cuts, 0 < other :=
    fun other hother => hpos other (List.mem_cons_of_mem cut hother)
  have hnextPos : 0 < (next :: cuts).sum := by
    rw [List.sum_cons]
    have := hnext next List.mem_cons_self
    omega
  have hsplit : (text ++ [0]).drop 4 = text.drop 4 ++ [0] :=
    List.drop_append_of_le_length (by omega)
  have hmore : (text.drop 4 ++ [0]).drop cut = text.drop (4 + cut) ++ [0] := by
    rw [List.drop_append_of_le_length (by rw [List.length_drop]; omega), List.drop_drop]
  have hfirst : ((text ++ [0]).take 4).length = 4 := by
    rw [List.length_take, List.length_append, List.length_singleton]
    omega
  have hlength : (overlay 0 ((text ++ [0]).take 4) retbuffer).length = retbuffer.length :=
    overlay_length (by omega)
  have hpiece : ((text.drop 4 ++ [0]).take cut).length = cut := by
    rw [List.length_take, List.length_append, List.length_drop, List.length_singleton]
    omega
  rw [text_tag_received htext hlen hplain htag htagSum, List.append_nil, hsplit] at hreceived
  split at hreceived
  · cases rounds with
    | zero => contradiction
    | succ rounds =>
      rw [receiveText_deal hcut
        (by rw [List.length_append, List.length_drop, List.length_singleton]; omega) (by omega)
        (by omega), hmore] at hreceived
      split at hreceived
      · cases hreceived
        exact absurd hpending (by simp)
      · obtain ⟨i, hi, hzero⟩ := receiveText_zero hnext (by rw [List.length_drop]; omega)
          (by rw [overlay_length (by omega)]; omega)
            (by rw [overlay_length (by omega)]; omega) hreceived hpending
        have hbyte : (text ++ [0])[i]? = some 0 := by
          rw [← hfront, List.getElem?_take_of_lt (by omega)]
          exact hzero
        rw [List.getElem?_append_left (by omega)] at hbyte
        exact htext 0 (List.mem_of_getElem? hbyte) rfl
  · contradiction

end

/-- A text reply is received as a whole, and with nothing else, just where all
that is behind its first four bytes comes in one read, or where there is
nothing behind them and no room either. -/
theorem text_received_iff (text : List UInt8) (htext : ∀ byte ∈ text, byte ≠ 0)
    (hlen : 3 ≤ text.length)
    (hplain : text.take 4 ≠ ascii "DATA") (retbuffer : List UInt8)
    (hfits : text.length + 1 ≤ retbuffer.length)
    (hsize : retbuffer.length < 2 ^ 64) (tag rest : List Nat) (htag : ∀ cut ∈ tag, 0 < cut)
    (hrest : ∀ cut ∈ rest, 0 < cut) (htagSum : tag.sum = 4)
    (hrestSum : rest.sum = text.length + 1 - 4) :
    ReceivesText text retbuffer (deal (tag ++ 1 :: rest)) ↔
      rest.length = 1 ∨ retbuffer.length = 4 := by
  constructor
  · intro hreceives
    by_contra hother
    obtain ⟨hcount, hroom⟩ := not_or.mp hother
    match rest with
    | [] =>
      exact not_receivesText_of_none htext hlen hplain hfits hsize
        htag htagSum hroom hrestSum.symm hreceives
    | [_] => exact hcount rfl
    | _ :: _ :: _ =>
      exact not_receivesText_of_more htext hlen hplain hfits hsize
        htag htagSum hrest hrestSum hreceives
  · rintro (hone | hfull)
    · obtain ⟨cut, rfl⟩ := List.length_eq_one_iff.mp hone
      rw [List.sum_singleton] at hrestSum
      exact receivesText_of_one htext hlen hplain hfits hsize htag htagSum hrestSum
        (hrest cut List.mem_cons_self)
    · exact receivesText_of_full htext hlen hplain hfits htag htagSum hfull rest

theorem ok_plain : ∀ byte ∈ ascii "0000: OK", byte ≠ 0 := List.forall_mem_ne'.mpr (by decide)

theorem text_received_ok : ReceivesText (ascii "0000: OK") (List.replicate 16 7) (deal [4, 1, 5]) :=
  (text_received_iff (ascii "0000: OK") ok_plain (by decide)
    (by decide) (List.replicate 16 7) (by decide)
    (by decide) [4] [5] (by decide) (by decide) (by decide) (by decide)).mpr (Or.inl rfl)

/-- The other five bytes come in two reads. -/
theorem text_not_received :
    ¬ReceivesText (ascii "0000: OK") (List.replicate 16 7) (deal [4, 1, 3, 2]) :=
  not_receivesText_of_more ok_plain (by decide) (by decide)
    (by decide) (by decide) (by decide : ∀ cut ∈ [4], 0 < cut) (by decide) (by decide) (by decide)

end Vmstated.Properties
