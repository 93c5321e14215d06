import Mathlib.Data.List.Basic

set_option autoImplicit false

/-!
# Windows of a list

A client asks for a window by a start and a number of entries, of which 0 means all.
-/

namespace Windows

variable {α : Type}

def window (i n : Nat) (items : List α) : List α :=
  if n = 0 then items.drop i else (items.drop i).take n

/-- What a loop lists that stops at `count` entries, unless that is 0. -/
def budgeted (count : Int) (items : List α) : List α :=
  if count = 0 then items else items.take count.toNat

@[simp] theorem budgeted_zero (items : List α) : budgeted 0 items = items := rfl

theorem budgeted_negative {count : Int} (negative : count < 0) (items : List α) :
    budgeted count items = [] := by
  rw [budgeted, if_neg (by omega), Int.toNat_of_nonpos (by omega), List.take_zero]

theorem budgeted_natCast (n : Nat) (items : List α) :
    budgeted n items = if n = 0 then items else items.take n := by
  simp [budgeted]

theorem budgeted_length (items : List α) : budgeted items.length items = items := by
  simp [budgeted_natCast]

theorem window_eq_budgeted (i n : Nat) (items : List α) :
    window i n items = budgeted n (items.drop i) := by
  rw [window, budgeted_natCast]

theorem window_large_index {i n : Nat} {items : List α} (short : items.length ≤ i) :
    window i n items = [] := by
  simp [window, List.drop_of_length_le short]

theorem window_large_count {i n : Nat} {items : List α} (many : items.length ≤ n) :
    window i n items = items.drop i := by
  rw [window]
  by_cases all : n = 0
  · rw [if_pos all]
  · rw [if_neg all, List.take_of_length_le (by simp; omega)]

theorem budgeted_length_eq_zero {n : Nat} {items : List α} :
    (budgeted n items).length = 0 ↔ items = [] := by
  rw [budgeted_natCast]
  by_cases all : n = 0
  · simp [all]
  · simp [all]

theorem window_length_le (i n : Nat) (items : List α) :
    (window i n items).length ≤ items.length - i := by
  rw [← List.length_drop]
  unfold window
  split
  · exact Nat.le_refl _
  · exact List.length_take_le' _ _

@[simp] theorem window_nil (i n : Nat) : window i n ([] : List α) = [] := by
  simp [window]

theorem window_whole {n : Nat} {items : List α} (enough : n = 0 ∨ items.length ≤ n) :
    window 0 n items = items := by
  rw [window, List.drop_zero]
  by_cases all : n = 0
  · rw [if_pos all]
  · rw [if_neg all, List.take_of_length_le (enough.resolve_left all)]

end Windows
