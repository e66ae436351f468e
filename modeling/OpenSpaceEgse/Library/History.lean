import Mathlib.Data.List.DropRight
import Mathlib.Data.Nat.Notation
import Mathlib.Tactic.Common

/-!
# Bounded histories

A history of capacity `n` keeps the last `n` of the values that it is given.  Whatever it
has dropped on the way, it is the end of the list of all of them: `push_rtake` is the step
of that invariant, and `rtake_range'` says what the end is of a list of numbers.
-/

namespace History

variable {α β : Type*}

/-- One value more, of which the last `n` are kept. -/
def push (n : ℕ) (kept : List α) (a : α) : List α := (kept ++ [a]).rtake n

/-- Dropping early and dropping late come to the same. -/
theorem push_rtake (n : ℕ) (all : List α) (a : α) :
    push n (all.rtake n) a = (all ++ [a]).rtake n := by
  cases n with
  | zero => rw [push, List.rtake_zero, List.rtake_zero]
  | succ n =>
      rw [push, List.rtake_concat_succ, List.rtake_concat_succ]
      simp only [List.rtake_eq_reverse_take_reverse, List.reverse_reverse, List.take_take]
      rw [Nat.min_eq_left (Nat.le_succ n)]

lemma length_rtake (all : List α) (n : ℕ) : (all.rtake n).length = min all.length n := by
  rw [List.rtake, List.length_drop]
  omega

lemma map_rtake (f : α → β) (all : List α) (n : ℕ) :
    (all.rtake n).map f = (all.map f).rtake n := by
  rw [List.rtake, List.rtake, List.map_drop, List.length_map]

/-- The last numbers of a list of consecutive ones. -/
lemma rtake_range' (s m n : ℕ) :
    (List.range' s m).rtake n = List.range' (s + (m - min m n)) (min m n) := by
  rw [List.rtake, List.length_range', List.drop_range', Nat.mul_one]
  congr 1 <;> omega

end History
