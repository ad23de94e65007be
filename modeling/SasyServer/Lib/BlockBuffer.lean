import Mathlib.Data.Int.ModEq
import Mathlib.Data.List.Basic

/-!
# A buffer that grows by blocks

What is written goes into the last block; a write that does not fit fills it and goes on in the next one. A structure carries
the invariant: every block but the last is full.
-/

namespace SasyServer

structure BlockBuffer (α : Type) (size : Nat) where
  full : List (List α)
  current : List α
  full_length : ∀ block ∈ full, block.length = size
  current_length : current.length ≤ size

namespace BlockBuffer

variable {α : Type} {size : Nat}

def empty : BlockBuffer α size := ⟨[], [], by simp, Nat.zero_le _⟩

/-- What has been written. -/
def toList (b : BlockBuffer α size) : List α := b.full.flatten ++ b.current

/-- The blocks, from the first on. -/
def blocks (b : BlockBuffer α size) : List (List α) := b.full ++ [b.current]

/-- A new block after a full one. -/
def alloc (b : BlockBuffer α size) (h : b.current.length = size) : BlockBuffer α size where
  full := b.full ++ [b.current]
  current := []
  full_length block hb := by
    rcases List.mem_append.1 hb with hb | hb
    · exact b.full_length block hb
    · rw [List.mem_singleton.1 hb, h]
  current_length := Nat.zero_le _

/-- A buffer that has room in its last block. -/
def room (b : BlockBuffer α size) : BlockBuffer α size := if h : b.current.length = size then b.alloc h else b

/-- A write into the last block. -/
def append (b : BlockBuffer α size) (data : List α) (h : b.current.length + data.length ≤ size) : BlockBuffer α size where
  full := b.full
  current := b.current ++ data
  full_length := b.full_length
  current_length := by rwa [List.length_append]

theorem room_lt [NeZero size] (b : BlockBuffer α size) : b.room.current.length < size := by
  unfold room
  split
  · exact Nat.pos_of_ne_zero (NeZero.ne size)
  · exact Nat.lt_of_le_of_ne b.current_length ‹_›

/-- A write. -/
def push [NeZero size] (b : BlockBuffer α size) (data : List α) : BlockBuffer α size :=
  if h : b.room.current.length + data.length ≤ size then b.room.append data h
  else
    push (b.room.append (data.take (size - b.room.current.length)) (by have := b.room_lt; rw [List.length_take]; omega))
      (data.drop (size - b.room.current.length))
termination_by data.length
decreasing_by
  have := b.room_lt
  rw [List.length_drop]
  omega

/-- The first `len` elements of what blocks hold, copied block by block. -/
def copyOut (size : Nat) : List (List α) → Nat → List α
  | [], _ => []
  | block :: rest, len => if size ≤ len then block.take size ++ copyOut size rest (len - size) else block.take len

@[simp] theorem toList_empty : (empty : BlockBuffer α size).toList = [] := rfl

@[simp] theorem toList_room (b : BlockBuffer α size) : b.room.toList = b.toList := by
  unfold room
  split
  · simp only [alloc, toList, List.flatten_append, List.flatten_cons, List.flatten_nil, List.append_nil]
  · rfl

theorem toList_append (b : BlockBuffer α size) (data : List α) (h : b.current.length + data.length ≤ size) :
    (b.append data h).toList = b.toList ++ data :=
  (List.append_assoc _ _ _).symm

/-- A write comes after what was written before. -/
@[simp] theorem toList_push [NeZero size] (b : BlockBuffer α size) (data : List α) :
    (b.push data).toList = b.toList ++ data := by
  induction b, data using push.induct with
  | case1 b data h => rw [push, dif_pos h, toList_append, toList_room]
  | case2 b data h ih => rw [push, dif_neg h, ih, toList_append, toList_room, List.append_assoc, List.take_append_drop]

theorem copyOut_append {full : List (List α)} (h : ∀ block ∈ full, block.length = size) (rest : List (List α)) (len : Nat) :
    copyOut size (full ++ rest) (full.flatten.length + len) = full.flatten ++ copyOut size rest len := by
  induction full with
  | nil => rw [List.nil_append, List.flatten_nil, List.length_nil, Nat.zero_add, List.nil_append]
  | cons block full ih =>
    have hblock := h block List.mem_cons_self
    have ih := ih fun b hb => h b (List.mem_cons_of_mem _ hb)
    rw [List.flatten_cons, List.length_append, List.cons_append, copyOut, if_pos (by omega), hblock,
      show size + full.flatten.length + len - size = full.flatten.length + len by
        omega, ih, List.take_of_length_le (by omega),
      List.append_assoc]

/-- The copy of all that was written. -/
theorem copyOut_blocks (b : BlockBuffer α size) : copyOut size b.blocks b.toList.length = b.toList := by
  have hcurrent := b.current_length
  rw [blocks, toList, List.length_append, copyOut_append b.full_length]
  congr 1
  unfold copyOut
  split
  · rw [copyOut, List.append_nil, List.take_of_length_le hcurrent]
  · exact List.take_length

end BlockBuffer
end SasyServer
