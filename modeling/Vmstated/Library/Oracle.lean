import Mathlib.Data.List.GetD
import Mathlib.Tactic.Common

/-! An environment that answers questions. The answer may depend on the
question and on how many questions were asked before, so a statement about
every oracle covers every adversary that decides answer by answer. -/
namespace Vmstated.Library

variable {κ β : Type}

/-- `oracle n key` answers the question `key` when `n` questions precede it. -/
abbrev Oracle (κ β : Type) := Nat → κ → β

/-- The oracle left over after `n` questions. -/
def Oracle.drop (n : Nat) (oracle : Oracle κ β) : Oracle κ β :=
  fun i => oracle (i + n)

@[simp] theorem Oracle.drop_apply (n : Nat) (oracle : Oracle κ β) (i : Nat) (key : κ) :
    oracle.drop n i key = oracle (i + n) key := rfl

@[simp] theorem Oracle.drop_drop (m n : Nat) (oracle : Oracle κ β) :
    (oracle.drop m).drop n = oracle.drop (m + n) := by
  funext i key
  simp only [drop_apply]
  congr 1
  omega

@[simp] theorem Oracle.drop_zero (oracle : Oracle κ β) : oracle.drop 0 = oracle := rfl

/-- Every question of the list, asked in order from position `n` on, is
answered well. -/
def Passes (good : β → Bool) (oracle : Oracle κ β) : Nat → List κ → Bool
  | _, [] => true
  | n, key :: keys => good (oracle n key) && Passes good oracle (n + 1) keys

@[simp] theorem passes_nil (good : β → Bool) (oracle : Oracle κ β) (n : Nat) :
    Passes good oracle n [] = true := rfl

@[simp] theorem passes_cons (good : β → Bool) (oracle : Oracle κ β) (n : Nat) (key : κ)
    (keys : List κ) :
    Passes good oracle n (key :: keys) =
      (good (oracle n key) && Passes good oracle (n + 1) keys) := rfl

theorem passes_drop (good : β → Bool) (oracle : Oracle κ β) (n m : Nat) (keys : List κ) :
    Passes good (oracle.drop m) n keys = Passes good oracle (n + m) keys := by
  induction keys generalizing n with
  | nil => rfl
  | cons key keys ih =>
    simp only [passes_cons, Oracle.drop_apply, ih]
    congr 2
    omega

/-- Where a walk along `path` gets to when each move has to be answered well. -/
def arrival (good : β → Bool) (oracle : Oracle κ β) : Nat → κ → List κ → κ
  | _, start, [] => start
  | n, start, next :: path =>
    if good (oracle n next) then arrival good oracle (n + 1) next path else start

def asked (good : β → Bool) (oracle : Oracle κ β) : Nat → List κ → Nat
  | _, [] => 0
  | n, next :: path => if good (oracle n next) then asked good oracle (n + 1) path + 1 else 1

def made (good : β → Bool) (oracle : Oracle κ β) : Nat → List κ → Nat
  | _, [] => 0
  | n, next :: path => if good (oracle n next) then made good oracle (n + 1) path + 1 else 0

theorem made_le_length (good : β → Bool) (oracle : Oracle κ β) (n : Nat) (path : List κ) :
    made good oracle n path ≤ path.length := by
  induction path generalizing n with
  | nil => exact Nat.le_refl 0
  | cons next path ih =>
    have hrest := ih (n + 1)
    rw [made, List.length_cons]
    split <;> omega

theorem made_of_passes {good : β → Bool} {oracle : Oracle κ β} {n : Nat} {path : List κ}
    (h : Passes good oracle n path = true) : made good oracle n path = path.length := by
  induction path generalizing n with
  | nil => rfl
  | cons next path ih =>
    rw [passes_cons, Bool.and_eq_true] at h
    rw [made, if_pos h.1, ih h.2, List.length_cons]

theorem made_drop (good : β → Bool) (oracle : Oracle κ β) (n m : Nat) (path : List κ) :
    made good (oracle.drop m) n path = made good oracle (n + m) path := by
  induction path generalizing n with
  | nil => rfl
  | cons next path ih =>
    simp only [made, Oracle.drop_apply, ih]
    rw [Nat.add_right_comm n 1 m]

/-- A walk that is stopped was stopped by the answer after its last move. -/
theorem made_of_not_passes {good : β → Bool} {oracle : Oracle κ β} {n : Nat} {path : List κ}
    (h : Passes good oracle n path = false) :
    made good oracle n path < path.length ∧
      asked good oracle n path = made good oracle n path + 1 := by
  induction path generalizing n with
  | nil => cases h
  | cons next path ih =>
    rw [made, asked, List.length_cons]
    split
    · rename_i hgood
      rw [passes_cons, hgood, Bool.true_and] at h
      have hrest := ih h
      omega
    · omega

theorem arrival_eq_made (good : β → Bool) (oracle : Oracle κ β) (n : Nat) (start : κ)
    (path : List κ) :
    arrival good oracle n start path = (start :: path).getD (made good oracle n path) start := by
  induction path generalizing n start with
  | nil => rfl
  | cons next path ih =>
    rw [arrival, made]
    split
    · have hle := made_le_length good oracle (n + 1) path
      rw [ih, List.getD_cons_succ, List.getD_eq_getElem _ _ (by rw [List.length_cons]; omega),
        List.getD_eq_getElem _ _ (by rw [List.length_cons]; omega)]
    · rfl

theorem arrival_mem (good : β → Bool) (oracle : Oracle κ β) (n : Nat) (start : κ) (path : List κ) :
    arrival good oracle n start path ∈ start :: path := by
  induction path generalizing n start with
  | nil => exact List.mem_cons_self
  | cons next path ih =>
    rw [arrival]
    split
    · exact List.mem_cons_of_mem start (ih (n + 1) next)
    · exact List.mem_cons_self

theorem arrival_of_not_passes {good : β → Bool} {oracle : Oracle κ β} {n : Nat} {path : List κ}
    (h : Passes good oracle n path = false) (start : κ) :
    arrival good oracle n start path ∈ (start :: path).dropLast := by
  have hmade := (made_of_not_passes h).1
  have hlength : made good oracle n path < (start :: path).dropLast.length := by
    rw [List.length_dropLast, List.length_cons, Nat.add_sub_cancel]
    exact hmade
  rw [arrival_eq_made, List.getD_eq_getElem _ _ (Nat.lt_succ_of_lt hmade),
    ← List.getElem_dropLast hlength]
  exact List.getElem_mem hlength

theorem arrival_drop (good : β → Bool) (oracle : Oracle κ β) (n m : Nat) (start : κ)
    (path : List κ) :
    arrival good (oracle.drop m) n start path = arrival good oracle (n + m) start path := by
  induction path generalizing n start with
  | nil => rfl
  | cons next path ih =>
    simp only [arrival, Oracle.drop_apply, ih]
    rw [Nat.add_right_comm n 1 m]

theorem asked_drop (good : β → Bool) (oracle : Oracle κ β) (n m : Nat) (path : List κ) :
    asked good (oracle.drop m) n path = asked good oracle (n + m) path := by
  induction path generalizing n with
  | nil => rfl
  | cons next path ih =>
    simp only [asked, Oracle.drop_apply, ih]
    rw [Nat.add_right_comm n 1 m]

theorem asked_of_passes {good : β → Bool} {oracle : Oracle κ β} {n : Nat} {path : List κ}
    (h : Passes good oracle n path = true) : asked good oracle n path = path.length := by
  induction path generalizing n with
  | nil => rfl
  | cons next path ih =>
    rw [passes_cons, Bool.and_eq_true] at h
    rw [asked, if_pos h.1, ih h.2, List.length_cons]

theorem arrival_of_passes {good : β → Bool} {oracle : Oracle κ β} {n : Nat} {start : κ}
    {path : List κ} (h : Passes good oracle n path = true) :
    arrival good oracle n start path = path.getLastD start := by
  induction path generalizing n start with
  | nil => rfl
  | cons next path ih =>
    rw [passes_cons, Bool.and_eq_true] at h
    rw [arrival, if_pos h.1, ih h.2, List.getLastD_cons]

end Vmstated.Library
