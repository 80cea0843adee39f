import Vmstated.Library.Decimal

/-! Name-value lists as libnv offers them: a map from names to typed values
that can be packed into bytes. -/
namespace Vmstated.Library

inductive NvValue where
  | null
  | bool (value : Bool)
  | number (value : UInt64)
  | string (text : List UInt8)
  | binary (data : List UInt8)
  | numberArray (values : List UInt64)
deriving DecidableEq, Repr

/-- The library, as far as its callers rely on it. Adding a second value under
a name is not among that. -/
structure Libnv where
  Nvlist : Type
  create : Nvlist
  add : Nvlist → List UInt8 → NvValue → Nvlist
  get : Nvlist → List UInt8 → Option NvValue
  pack : Nvlist → List UInt8
  unpack : List UInt8 → Option Nvlist
  get_create : ∀ name, get create name = none
  get_add_self : ∀ nvl name value, get nvl name = none → get (add nvl name value) name = some value
  get_add_other : ∀ nvl name value other, other ≠ name →
    get (add nvl name value) other = get nvl other
  unpack_pack : ∀ nvl, unpack (pack nvl) = some nvl
  pack_ne_nil : ∀ nvl, pack nvl ≠ []

/-! A library of this kind. A list of parts is packed with 1 in front of each
part and 0 behind the last one. -/
namespace Nvpacked

variable {α : Type}

def Inverse (pack : α → List UInt8) (unpack : List UInt8 → Option (α × List UInt8)) : Prop :=
  ∀ value rest, unpack (pack value ++ rest) = some (value, rest)

def packList (pack : α → List UInt8) : List α → List UInt8
  | [] => [0]
  | part :: parts => 1 :: (pack part ++ packList pack parts)

def unpackParts (unpack : List UInt8 → Option (α × List UInt8)) :
    Nat → List UInt8 → Option (List α × List UInt8)
  | _, 0 :: rest => some ([], rest)
  | fuel + 1, 1 :: bytes => do
    let (part, bytes) ← unpack bytes
    let (parts, rest) ← unpackParts unpack fuel bytes
    return (part :: parts, rest)
  | _, _ => none

/-- There are no more parts than bytes. -/
def unpackList (unpack : List UInt8 → Option (α × List UInt8)) (bytes : List UInt8) :
    Option (List α × List UInt8) :=
  unpackParts unpack bytes.length bytes

section
variable {pack : α → List UInt8} {unpack : List UInt8 → Option (α × List UInt8)}

theorem packList_length (parts : List α) : parts.length < (packList pack parts).length := by
  induction parts with
  | nil => exact Nat.one_pos
  | cons part parts ih =>
    simp only [packList, List.length_cons, List.length_append]
    omega

theorem unpackParts_packList (h : Inverse pack unpack) {fuel : Nat}
    {parts : List α} (rest : List UInt8) (hfuel : parts.length ≤ fuel) :
    unpackParts unpack fuel (packList pack parts ++ rest) = some (parts, rest) := by
  induction parts generalizing fuel with
  | nil =>
    rw [packList, List.singleton_append, unpackParts]
  | cons part parts ih =>
    rw [List.length_cons] at hfuel
    obtain ⟨fewer, rfl⟩ : ∃ fewer, fuel = fewer + 1 := ⟨fuel - 1, by omega⟩
    rw [packList, List.cons_append, List.append_assoc, unpackParts,
      h, Option.bind_eq_bind, Option.bind_some]
    dsimp only
    rw [ih (by omega)]
    rfl

theorem inverse_list (h : Inverse pack unpack) : Inverse (packList pack) (unpackList unpack) := by
  intro parts rest
  apply unpackParts_packList h
  rw [List.length_append]
  have hlength := @packList_length _ pack parts
  omega

end

def unpackByte : List UInt8 → Option (UInt8 × List UInt8)
  | byte :: rest => some (byte, rest)
  | [] => none

def packBytes : List UInt8 → List UInt8 := packList fun byte => [byte]

def unpackBytes : List UInt8 → Option (List UInt8 × List UInt8) := unpackList unpackByte

def packNumber (value : UInt64) : List UInt8 := packBytes (decimal value.toNat)

def unpackNumber (bytes : List UInt8) : Option (UInt64 × List UInt8) :=
  (unpackBytes bytes).map fun result => (UInt64.ofNat (digitsValue result.1), result.2)

def packValue : NvValue → List UInt8
  | .null => [0]
  | .bool value => [if value then 2 else 1]
  | .number value => 3 :: packNumber value
  | .string text => 4 :: packBytes text
  | .binary data => 5 :: packBytes data
  | .numberArray values => 6 :: packList packNumber values

def unpackValue : List UInt8 → Option (NvValue × List UInt8)
  | 0 :: rest => some (.null, rest)
  | 1 :: rest => some (.bool false, rest)
  | 2 :: rest => some (.bool true, rest)
  | 3 :: rest => (unpackNumber rest).map fun result => (.number result.1, result.2)
  | 4 :: rest => (unpackBytes rest).map fun result => (.string result.1, result.2)
  | 5 :: rest => (unpackBytes rest).map fun result => (.binary result.1, result.2)
  | 6 :: rest => (unpackList unpackNumber rest).map fun result => (.numberArray result.1, result.2)
  | _ => none

abbrev Pair := List UInt8 × NvValue

def packPair (pair : Pair) : List UInt8 := packBytes pair.1 ++ packValue pair.2

def unpackPair (bytes : List UInt8) : Option (Pair × List UInt8) := do
  let (name, bytes) ← unpackBytes bytes
  let (value, rest) ← unpackValue bytes
  return ((name, value), rest)

theorem inverse_bytes : Inverse packBytes unpackBytes := inverse_list fun _ _ => rfl

theorem inverse_number : Inverse packNumber unpackNumber := by
  intro value rest
  rw [packNumber, unpackNumber, inverse_bytes, Option.map_some,
    digitsValue_decimal, UInt64.ofNat_toNat]

theorem inverse_value : Inverse packValue unpackValue := by
  intro value rest
  cases value with
  | null => rfl
  | bool value => cases value <;> rfl
  | number value => rw [packValue, List.cons_append, unpackValue, inverse_number, Option.map_some]
  | string text => rw [packValue, List.cons_append, unpackValue, inverse_bytes, Option.map_some]
  | binary data => rw [packValue, List.cons_append, unpackValue, inverse_bytes, Option.map_some]
  | numberArray values =>
    rw [packValue, List.cons_append, unpackValue, inverse_list inverse_number, Option.map_some]

theorem inverse_pair : Inverse packPair unpackPair := by
  rintro ⟨name, value⟩ rest
  rw [packPair, List.append_assoc, unpackPair, inverse_bytes, Option.bind_eq_bind, Option.bind_some]
  dsimp only
  rw [inverse_value]
  rfl

def find : List Pair → List UInt8 → Option NvValue
  | [], _ => none
  | pair :: pairs, name => if pair.1 = name then some pair.2 else find pairs name

end Nvpacked

open Nvpacked in
def nvpacked : Libnv where
  Nvlist := List Pair
  create := []
  add pairs name value := (name, value) :: pairs
  get := find
  pack := packList packPair
  unpack bytes := (unpackList unpackPair bytes).map Prod.fst
  get_create _ := rfl
  get_add_self _ _ _ _ := if_pos rfl
  get_add_other _ _ _ _ hother := if_neg hother.symm
  unpack_pack pairs := by
    have h := inverse_list inverse_pair pairs []
    rw [List.append_nil] at h
    rw [h]
    rfl
  pack_ne_nil pairs := List.ne_nil_of_length_pos (Nat.zero_lt_of_lt (packList_length pairs))

end Vmstated.Library
