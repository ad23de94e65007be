import Mathlib.Data.Int.ModEq

/-!
# Searching sorted values by halves
-/

namespace BinarySearch

variable {β : Type*}

/-- Where a value is, or before which place it would stand. -/
inductive Place where
  | found (mid : Nat)
  | before (begin : Nat)
  deriving DecidableEq, Repr

/-- The search from `begin` to before `stop`, with a bound on its turns. -/
def search [Ord β] (value : Nat → β) (k : β) : Nat → Nat → Nat → Place
  | 0, begin, _ => .before begin
  | n + 1, begin, stop =>
    if begin < stop then
      let mid := (begin + (stop - 1)) / 2
      match compare (value mid) k with
      | .eq => .found mid
      | .lt => search value k n (mid + 1) stop
      | .gt => search value k n begin mid
    else .before begin

/-- The place is right among the first `count` values. -/
def Place.Right [Ord β] (value : Nat → β) (k : β) (count : Nat) : Place → Prop
  | .found mid => mid < count ∧ value mid = k
  | .before begin =>
    begin ≤ count ∧ (∀ i < begin, compare (value i) k = .lt) ∧ ∀ i, begin ≤ i → i < count → compare k (value i) = .lt

theorem search_right [Ord β] [Std.TransOrd β] [Std.LawfulEqOrd β] {value : Nat → β} {k : β} {count : Nat}
    (hmono : ∀ i j, i < j → j < count → compare (value i) (value j) = .lt) (n : Nat) :
    ∀ {begin stop : Nat}, begin ≤ stop → stop ≤ count → stop < begin + n → (∀ i < begin, compare (value i) k = .lt) →
      (∀ i, stop ≤ i → i < count → compare k (value i) = .lt) → (search value k n begin stop).Right value k count := by
  induction n with
  | zero => exact fun h _ hlt => absurd hlt (Nat.not_lt_of_le h)
  | succ n ih =>
    intro begin stop hle hcount hturns hleft hright
    rw [search]
    by_cases hlt : begin < stop
    · rw [if_pos hlt]
      have hmid : begin ≤ (begin + (stop - 1)) / 2 ∧ (begin + (stop - 1)) / 2 < stop := by omega
      generalize (begin + (stop - 1)) / 2 = mid at hmid
      dsimp only
      cases hc : compare (value mid) k with
      | eq => exact ⟨Nat.lt_of_lt_of_le hmid.2 hcount, Std.LawfulEqCmp.eq_of_compare hc⟩
      | lt =>
        refine ih (by omega) hcount (by omega) (fun i hi => ?_) hright
        rcases Nat.lt_or_eq_of_le (Nat.le_of_lt_succ hi) with hi | rfl
        · exact Std.TransCmp.lt_trans (hmono i mid hi (by omega)) hc
        · exact hc
      | gt =>
        have hless := Std.OrientedCmp.gt_iff_lt.1 hc
        refine ih hmid.1 (by omega) (by omega) hleft fun i hi hic => ?_
        rcases Nat.lt_or_eq_of_le hi with hi | rfl
        · exact Std.TransCmp.lt_trans hless (hmono mid i hi hic)
        · exact hless
    · rw [if_neg hlt]
      obtain rfl : begin = stop := by omega
      exact ⟨hcount, hleft, hright⟩

end BinarySearch
