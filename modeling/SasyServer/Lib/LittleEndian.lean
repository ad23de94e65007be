import Mathlib.Data.Int.ModEq
import Mathlib.Data.List.Basic

/-!
# Little-endian numbers

The bytes of a number of a fixed width, the low byte first, and the number that bytes spell.
-/

namespace SasyServer
namespace LittleEndian

/-- The `width` low bytes of a number. -/
def bytes : Nat → Nat → List UInt8
  | 0, _ => []
  | width + 1, v => UInt8.ofNat v :: bytes width (v / 256)

/-- The number that bytes spell. -/
def value : List UInt8 → Nat
  | [] => 0
  | b :: bs => b.toNat + 256 * value bs

@[simp] theorem length_bytes (width v : Nat) : (bytes width v).length = width := by
  induction width generalizing v with
  | zero => rfl
  | succ width ih => rw [bytes, List.length_cons, ih]

/-- What was written is read back, up to the width. -/
theorem value_bytes (width v : Nat) : value (bytes width v) = v % 256 ^ width := by
  induction width generalizing v with
  | zero => rw [bytes, value, Nat.pow_zero, Nat.mod_one]
  | succ width ih =>
    have hb : (UInt8.ofNat v).toNat = v % 256 := UInt8.toNat_ofNat'
    rw [bytes, value, ih, hb, Nat.pow_succ, Nat.mul_comm (256 ^ width) 256, Nat.mod_mul]

/-- A number that fits the width is read back. -/
theorem value_bytes_of_lt {width v : Nat} (h : v < 256 ^ width) : value (bytes width v) = v := by
  rw [value_bytes, Nat.mod_eq_of_lt h]

end LittleEndian
end SasyServer
