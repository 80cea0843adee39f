import Mathlib.Data.Nat.Digits.Lemmas
import Mathlib.Tactic.Common

/-! Decimal numbers as `printf` writes and `strtoll` reads them. -/
namespace Vmstated.Library

def digitOf (d : Nat) : UInt8 := UInt8.ofNat (48 + d)

def decimal (n : Nat) : List UInt8 :=
  if n = 0 then [48] else (Nat.digits 10 n).reverse.map digitOf

def paddedDecimal (width : Nat) (i : Int) : List UInt8 :=
  if i < 0 then 45 :: List.replicate (width - 1 - (decimal i.natAbs).length) 48 ++ decimal i.natAbs
  else List.replicate (width - (decimal i.natAbs).length) 48 ++ decimal i.natAbs

def isDigit (byte : UInt8) : Bool := 48 ≤ byte && byte ≤ 57

def isSpace (byte : UInt8) : Bool := byte == 32 || 9 ≤ byte && byte ≤ 13

def digitsValue (digits : List UInt8) : Nat :=
  digits.foldl (fun value byte => 10 * value + (byte.toNat - 48)) 0

/-- `strtoll(text, NULL, 10)`: the value, and whether `errno` is set. -/
def strtoll (text : List UInt8) : Int × Bool :=
  let text := text.dropWhile isSpace
  let negative := text.head? == some 45
  let text := if negative || text.head? == some 43 then text.tail else text
  let value : Int := digitsValue (text.takeWhile isDigit)
  if negative then if value > 2 ^ 63 then (-2 ^ 63, true) else (-value, false)
  else if value ≥ 2 ^ 63 then (2 ^ 63 - 1, true) else (value, false)

theorem digitOf_isDigit {d : Nat} (hd : d < 10) :
    isDigit (digitOf d) = true ∧ (digitOf d).toNat = 48 + d := by
  interval_cases d <;> decide

theorem decimal_isDigit (n : Nat) : ∀ byte ∈ decimal n, isDigit byte = true := by
  intro byte hbyte
  unfold decimal at hbyte
  split at hbyte
  · rw [List.mem_singleton.mp hbyte]
    rfl
  · obtain ⟨d, hd, rfl⟩ := List.mem_map.mp hbyte
    exact (digitOf_isDigit (Nat.digits_lt_base' (List.mem_reverse.mp hd))).1

theorem digits_not_mem {byte : UInt8} (hbyte : isDigit byte = false) (n : Nat) :
    byte ∉ decimal n := by
  intro hmem
  rw [decimal_isDigit n byte hmem] at hbyte
  exact Bool.noConfusion hbyte

theorem decimal_ne_nil (n : Nat) : decimal n ≠ [] := by
  unfold decimal
  split
  · simp
  · rename_i hne
    simpa [Nat.digits_eq_nil_iff_eq_zero] using hne

theorem paddedDecimal_ne_nil (width : Nat) (i : Int) : paddedDecimal width i ≠ [] := by
  unfold paddedDecimal
  split <;> simp [decimal_ne_nil]

theorem paddedDecimal_plain (width : Nat) (i : Int) :
    ∀ byte ∈ paddedDecimal width i, isDigit byte = true ∨ byte = 45 := by
  have hfill (count : Nat) : ∀ byte ∈ List.replicate count (48 : UInt8), isDigit byte = true := by
    intro byte hbyte
    rw [List.eq_of_mem_replicate hbyte]
    rfl
  intro byte hbyte
  unfold paddedDecimal at hbyte
  split at hbyte
  · rw [List.cons_append, List.mem_cons, List.mem_append] at hbyte
    rcases hbyte with hminus | hzero | hdigit
    · exact Or.inr hminus
    · exact Or.inl (hfill _ byte hzero)
    · exact Or.inl (decimal_isDigit _ byte hdigit)
  · rw [List.mem_append] at hbyte
    rcases hbyte with hzero | hdigit
    · exact Or.inl (hfill _ byte hzero)
    · exact Or.inl (decimal_isDigit _ byte hdigit)

theorem digitsValue_decimal (n : Nat) : digitsValue (decimal n) = n := by
  unfold decimal
  split
  · rename_i hzero
    rw [hzero]
    rfl
  · have hdigits : ∀ d ∈ Nat.digits 10 n, d < 10 := fun d hd => Nat.digits_lt_base' hd
    have hfold (digits : List Nat) (h : ∀ d ∈ digits, d < 10) :
        digitsValue (digits.reverse.map digitOf) = Nat.ofDigits 10 digits := by
      induction digits with
      | nil => rfl
      | cons d digits ih =>
        have hrest := ih fun e he => h e (List.mem_cons_of_mem d he)
        rw [digitsValue] at hrest ⊢
        rw [List.reverse_cons, List.map_append, List.foldl_append, hrest, Nat.ofDigits_cons]
        simp only [List.map_cons, List.map_nil, List.foldl_cons, List.foldl_nil,
          (digitOf_isDigit (h d List.mem_cons_self)).2]
        omega
    rw [hfold _ hdigits, Nat.ofDigits_digits]

theorem decimal_injective : Function.Injective decimal := by
  intro n m h
  rw [← digitsValue_decimal n, h, digitsValue_decimal]

/-- A number ends at the first byte that is no digit. -/
theorem decimal_append_inj {n m : Nat} {byte : UInt8} (hbyte : isDigit byte = false)
    {rest other : List UInt8}
    (h : decimal n ++ byte :: rest = decimal m ++ byte :: other) : n = m ∧ rest = other := by
  have htake (k : Nat) (tail : List UInt8) :
      (decimal k ++ byte :: tail).takeWhile isDigit = decimal k := by
    rw [List.takeWhile_append_of_pos (decimal_isDigit k),
      List.takeWhile_cons_of_neg (by simp [hbyte]), List.append_nil]
  have hdecimal : decimal n = decimal m := by rw [← htake n rest, h, htake]
  rw [hdecimal, List.append_cancel_left_eq, List.cons.injEq] at h
  exact ⟨decimal_injective hdecimal, h.2⟩

theorem decimal_length_le {n k : Nat} (hk : 0 < k) (hn : n < 10 ^ k) : (decimal n).length ≤ k := by
  unfold decimal
  split
  · exact hk
  · rw [List.length_map, List.length_reverse, Nat.digits_length_le_iff (by decide)]
    exact hn

theorem isDigit_iff (byte : UInt8) : isDigit byte = true ↔ 48 ≤ byte.toNat ∧ byte.toNat ≤ 57 := by
  simp [isDigit, UInt8.le_iff_toNat_le]

theorem isDigit_plain {byte : UInt8} (h : isDigit byte = true) :
    isSpace byte = false ∧ byte ≠ 45 ∧ byte ≠ 43 := by
  rw [isDigit_iff] at h
  refine ⟨?_, ?_, ?_⟩
  · simp only [isSpace, Bool.or_eq_false_iff, beq_eq_false_iff_ne, Bool.and_eq_false_iff,
      decide_eq_false_iff_not, UInt8.le_iff_toNat_le]
    constructor
    · rintro rfl
      exact absurd h.1 (by decide)
    · right
      have hbound : (13 : UInt8).toNat = 13 := rfl
      omega
  · rintro rfl
    exact absurd h.1 (by decide)
  · rintro rfl
    exact absurd h.1 (by decide)

theorem strtoll_digits {digits : List UInt8} (hdigits : ∀ byte ∈ digits, isDigit byte = true)
    (hne : digits ≠ [])
    (hvalue : digitsValue digits < 2 ^ 63) {rest : List UInt8}
    (hrest : ∀ byte ∈ rest.head?, isDigit byte = false) :
    strtoll (digits ++ rest) = ((digitsValue digits : Int), false) := by
  have htake : (digits ++ rest).takeWhile isDigit = digits := by
    rw [List.takeWhile_append_of_pos hdigits]
    cases rest with
    | nil => simp
    | cons byte rest => simp [hrest byte rfl]
  obtain ⟨first, more, hfirst⟩ := List.exists_cons_of_ne_nil hne
  obtain ⟨hspace, hminus, hplus⟩ := isDigit_plain (hdigits first (by simp [hfirst]))
  have hdrop : (digits ++ rest).dropWhile isSpace = digits ++ rest := by
    rw [hfirst, List.cons_append, List.dropWhile_cons_of_neg (by simp [hspace])]
  have hhead : (digits ++ rest).head? = some first := by rw [hfirst]; rfl
  unfold strtoll
  simp only [hdrop, hhead, htake, Option.some_beq_some, beq_eq_false_iff_ne.mpr hminus,
    beq_eq_false_iff_ne.mpr hplus, Bool.or_self, Bool.false_eq_true, ↓reduceIte]
  rw [if_neg (by omega)]

theorem strtoll_decimal {n : Nat} (hn : n < 2 ^ 63) {rest : List UInt8}
    (hrest : ∀ byte ∈ rest.head?, isDigit byte = false) :
    strtoll (decimal n ++ rest) = ((n : Int), false) := by
  have hvalue := digitsValue_decimal n
  rw [strtoll_digits (decimal_isDigit n) (decimal_ne_nil n) (by rwa [hvalue]) hrest, hvalue]

end Vmstated.Library
