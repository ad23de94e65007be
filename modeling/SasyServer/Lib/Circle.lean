import Mathlib.Logic.Function.Iterate
import Mathlib.Tactic.SplitIfs

/-!
# Going round a circle of numbers

The numbers from `lo` to `hi`, with `lo` behind `hi`. A walk that starts on the circle stays on it, comes to every number
within one round, and is back at its start after the round and not before.
-/

namespace Circle

/-- The number behind `i`. -/
def next (lo hi i : Int) : Int := if i + 1 > hi then lo else i + 1

section Walk

variable {lo hi i : Int}

/-- Where a walk is within the first round. -/
theorem iterate_next (h2 : i ≤ hi) (n : Nat) (hn : n ≤ hi - lo + 1) :
    (next lo hi)^[n] i = if i + n ≤ hi then i + n else i + n - (hi - lo + 1) := by
  induction n with
  | zero =>
    rw [Function.iterate_zero, id]
    split_ifs <;> omega
  | succ n ih =>
    rw [Function.iterate_succ_apply', ih (by omega), next]
    split_ifs <;> omega

/-- A walk stays on the circle. -/
theorem iterate_mem (h1 : lo ≤ i) (h2 : i ≤ hi) (n : Nat) : lo ≤ (next lo hi)^[n] i ∧ (next lo hi)^[n] i ≤ hi := by
  induction n with
  | zero => exact ⟨h1, h2⟩
  | succ n ih =>
    rw [Function.iterate_succ_apply', next]
    split_ifs <;> omega

/-- Every number is reached within the first round. -/
theorem exists_iterate (h1 : lo ≤ i) (h2 : i ≤ hi) {k : Int} (hk1 : lo ≤ k) (hk2 : k ≤ hi) :
    ∃ n : Nat, n < hi - lo + 1 ∧ (next lo hi)^[n] i = k := by
  rcases Int.lt_or_le k i with hlt | hle
  · refine ⟨(k - i + (hi - lo + 1)).toNat, by omega, ?_⟩
    rw [iterate_next h2 _ (by omega)]
    split_ifs <;> omega
  · refine ⟨(k - i).toNat, by omega, ?_⟩
    rw [iterate_next h2 _ (by omega)]
    split_ifs <;> omega

/-- A walk is back at its start exactly when the round is over. -/
theorem iterate_eq_iff (h1 : lo ≤ i) (h2 : i ≤ hi) {n : Nat} (hn : n ≤ hi - lo + 1) :
    (next lo hi)^[n] i = i ↔ n = 0 ∨ (n : Int) = hi - lo + 1 := by
  rw [iterate_next h2 n hn]
  split_ifs <;> omega

end Walk

end Circle
