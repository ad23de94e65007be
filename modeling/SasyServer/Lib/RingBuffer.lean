import Mathlib.Data.List.Basic
import Mathlib.Data.List.Range
import Mathlib.Tactic.SplitIfs

/-!
# A ring that grows when it is full

The queue of cells between `head` and `tail` on a circle of `cap` cells, one of which stays free: a push that would
make `head` and `tail` meet copies the cells, from the oldest on, to the front of a larger circle. `toList` is the
meaning of a ring, the cells from the oldest to the newest, and the lemmas say that `push` and `pop` are the operations
of a first-in first-out list.
-/

/-- A circle of `cap` cells. The cell to be read next is at `head`, the cell to be written next at `tail`. -/
structure RingBuffer (α : Type*) where
  cap : Nat
  head : Nat
  tail : Nat
  queue : Nat → α

namespace RingBuffer

variable {α : Type*}

/-- The indices are on the circle. -/
structure WF (r : RingBuffer α) : Prop where
  head_lt : r.head < r.cap
  tail_lt : r.tail < r.cap

/-- The number of cells in use. -/
def count (r : RingBuffer α) : Nat := (r.tail + r.cap - r.head) % r.cap

/-- The cells in use, the oldest first. -/
def toList (r : RingBuffer α) : List α := (List.range r.count).map fun i => r.queue ((r.head + i) % r.cap)

/-- The larger circle: the cells of the full one from `head` on, and `extra` free ones after them. -/
def grow (r : RingBuffer α) (extra : Nat) : RingBuffer α :=
  { cap := r.cap + extra
    head := 0
    tail := r.cap
    queue := fun i => r.queue ((r.head + i) % r.cap) }

/-- Write a cell, without a look at whether the circle is now full. -/
def write (r : RingBuffer α) (x : α) : RingBuffer α :=
  { r with
    tail := if r.tail + 1 ≥ r.cap then r.tail + 1 - r.cap else r.tail + 1
    queue := Function.update r.queue r.tail x }

/-- Write a cell and grow by `extra` when the circle is full. -/
def push (r : RingBuffer α) (extra : Nat) (x : α) : RingBuffer α :=
  if (r.write x).head = (r.write x).tail then (r.write x).grow extra else r.write x

/-- Take the oldest cell. -/
def pop (r : RingBuffer α) : Option (α × RingBuffer α) :=
  if r.head = r.tail then none
  else some (r.queue r.head, { r with head := if r.head + 1 ≥ r.cap then 0 else r.head + 1 })

/-- The number of cells in use, without the remainder. -/
theorem count_eq {r : RingBuffer α} (h : r.WF) :
    r.count = if r.head ≤ r.tail then r.tail - r.head else r.tail + r.cap - r.head := by
  have h1 := h.head_lt
  have h2 := h.tail_lt
  unfold count
  split
  · have e : r.tail + r.cap - r.head = r.tail - r.head + r.cap := by omega
    rw [e, Nat.add_mod_right, Nat.mod_eq_of_lt (by omega)]
  · exact Nat.mod_eq_of_lt (by omega)

/-- One cell always stays free. -/
theorem count_lt {r : RingBuffer α} (h : r.WF) : r.count < r.cap :=
  Nat.mod_lt _ (Nat.lt_of_le_of_lt (Nat.zero_le _) h.head_lt)

theorem length_toList (r : RingBuffer α) : r.toList.length = r.count := by simp [toList]

/-- The cell `i` places after the oldest is not the one to be written next, while `i` is below the count. -/
theorem index_ne_tail {r : RingBuffer α} (h : r.WF) {i : Nat} (hi : i < r.count) : (r.head + i) % r.cap ≠ r.tail := by
  have h1 := h.head_lt
  have h2 := h.tail_lt
  rw [count_eq h] at hi
  by_cases hlt : r.head + i < r.cap
  · rw [Nat.mod_eq_of_lt hlt]
    split at hi <;> omega
  · have e : r.head + i = (r.head + i - r.cap) + r.cap := by omega
    rw [e, Nat.add_mod_right, Nat.mod_eq_of_lt (by split at hi <;> omega)]
    split at hi <;> omega

/-- The cell `count` places after the oldest is the one to be written next. -/
theorem index_count {r : RingBuffer α} (h : r.WF) : (r.head + r.count) % r.cap = r.tail := by
  have h1 := h.head_lt
  have h2 := h.tail_lt
  rw [count_eq h]
  split
  · rw [Nat.mod_eq_of_lt (by omega)]
    omega
  · have e : r.head + (r.tail + r.cap - r.head) = r.tail + r.cap := by omega
    rw [e, Nat.add_mod_right, Nat.mod_eq_of_lt h2]

/-- The cells read from the oldest on, one more than the count, after a write: the list with the new cell at its end. -/
theorem map_write {r : RingBuffer α} (h : r.WF) (x : α) :
    (List.range (r.count + 1)).map (fun i => (r.write x).queue ((r.head + i) % r.cap)) = r.toList ++ [x] := by
  rw [List.range_succ, List.map_append, List.map_singleton, index_count h]
  congr 1
  · apply List.map_congr_left
    intro i hi
    exact Function.update_of_ne (index_ne_tail h (List.mem_range.1 hi)) _ _
  · simp [write]

theorem write_tail {r : RingBuffer α} (h : r.WF) (x : α) :
    (r.write x).tail = if r.tail + 1 = r.cap then 0 else r.tail + 1 := by
  have := h.tail_lt
  simp only [write]
  split <;> split <;> omega

/-- A push keeps the indices on the circle. -/
theorem WF.push {r : RingBuffer α} (h : r.WF) {extra : Nat} (he : 0 < extra) (x : α) : (r.push extra x).WF := by
  have h1 := h.head_lt
  have h2 := h.tail_lt
  unfold RingBuffer.push
  split
  · exact ⟨by simp only [grow, write]; omega, by simp only [grow, write]; omega⟩
  · exact ⟨h1, by rw [write_tail h]; simp only [write]; split <;> omega⟩

/-- A push adds the cell at the end of the list, whether or not the circle grows. -/
theorem toList_push {r : RingBuffer α} (h : r.WF) {extra : Nat} (he : 0 < extra) (x : α) :
    (r.push extra x).toList = r.toList ++ [x] := by
  have h1 := h.head_lt
  have h2 := h.tail_lt
  have hw : (r.write x).tail = if r.tail + 1 = r.cap then 0 else r.tail + 1 := write_tail h x
  have hh : (r.write x).head = r.head := rfl
  have hc : (r.write x).cap = r.cap := rfl
  have hcount := count_eq h
  unfold RingBuffer.push
  by_cases hf : (r.write x).head = (r.write x).tail
  · -- the circle is full: the copy holds `cap` cells, and the count before the push was one less
    rw [if_pos hf]
    rw [hh, hw] at hf
    have hcap : r.count + 1 = r.cap := by
      rw [hcount]
      split at hf <;> split <;> omega
    have hg : ((r.write x).grow extra).count = r.cap := by
      simp only [count, grow, hc]
      rw [Nat.sub_zero, Nat.add_comm r.cap (r.cap + extra), Nat.add_mod_left, Nat.mod_eq_of_lt (by omega)]
    rw [← map_write h x, toList, hg, ← hcap]
    apply List.map_congr_left
    intro i hi
    have hi' : i < r.cap := by rw [List.mem_range] at hi; omega
    simp only [grow, hh, hc, Nat.zero_add]
    rw [hcap, Nat.mod_eq_of_lt (show i < r.cap + extra by omega)]
  · rw [if_neg hf]
    rw [hh, hw] at hf
    have hwf : (r.write x).WF := ⟨h1, by rw [hw, hc]; split <;> omega⟩
    have hcap : (r.write x).count = r.count + 1 := by
      rw [count_eq hwf, hcount, hh, hw, hc]
      split_ifs at hf ⊢ <;> omega
    rw [← map_write h x, toList, hcap]
    rfl

/-- A pop of an empty list gives nothing, and only that. -/
theorem pop_eq_none {r : RingBuffer α} (h : r.WF) : r.pop = none ↔ r.toList = [] := by
  have h1 := h.head_lt
  have h2 := h.tail_lt
  rw [← List.length_eq_zero_iff, length_toList, count_eq h]
  unfold RingBuffer.pop
  split_ifs <;> simp <;> omega

/-- A pop takes the head of the list and keeps the indices on the circle. -/
theorem pop_eq_some {r r' : RingBuffer α} (h : r.WF) {x : α} (hp : r.pop = some (x, r')) :
    r'.WF ∧ r.toList = x :: r'.toList := by
  have h1 := h.head_lt
  have h2 := h.tail_lt
  unfold RingBuffer.pop at hp
  split at hp
  · cases hp
  · rename_i hne
    simp only [Option.some.injEq, Prod.mk.injEq] at hp
    obtain ⟨rfl, rfl⟩ := hp
    have hwf : RingBuffer.WF { r with head := if r.head + 1 ≥ r.cap then 0 else r.head + 1 } :=
      ⟨by simp only; split <;> omega, h2⟩
    refine ⟨hwf, ?_⟩
    have hc : r.count = RingBuffer.count { r with head := if r.head + 1 ≥ r.cap then 0 else r.head + 1 } + 1 := by
      rw [count_eq h, count_eq hwf]
      simp only
      split <;> split <;> split <;> omega
    rw [toList, hc, List.range_succ_eq_map, List.map_cons, List.map_map, Nat.add_zero, Nat.mod_eq_of_lt h1, toList]
    congr 1
    apply List.map_congr_left
    intro i _
    simp only [Function.comp_apply]
    congr 1
    split
    · have e : r.head + (i + 1) = i + r.cap := by omega
      rw [e, Nat.add_mod_right, Nat.zero_add]
    · congr 1
      omega

end RingBuffer
