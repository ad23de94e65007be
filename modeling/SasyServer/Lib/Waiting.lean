import Mathlib.Algebra.BigOperators.Group.List.Basic
import Mathlib.Algebra.Ring.Int.Defs

/-!
# A list of things that wait

Handlers that wait for an answer and messages on their way are lists from which any element may be taken next: the element at
a position is taken, and `eraseIdx` is what remains. Whatever is counted or summed over such a list is that of the remaining
list and of the element taken.
-/

namespace Waiting

variable {α : Type*} {l : List α} {k : Nat} {a : α}

/-- The list is the element taken and the rest, in another order. -/
theorem perm_cons_eraseIdx (h : l[k]? = some a) : l.Perm (a :: l.eraseIdx k) := by
  induction l generalizing k with
  | nil => simp at h
  | cons x l ih =>
    cases k with
    | zero =>
      cases Option.some.inj h
      exact List.Perm.refl _
    | succ k => exact ((ih (by simpa using h)).cons x).trans (List.Perm.swap a x _)

theorem countP_eraseIdx (h : l[k]? = some a) (p : α → Bool) : l.countP p = (l.eraseIdx k).countP p + (p a).toNat := by
  rw [(perm_cons_eraseIdx h).countP_eq, List.countP_cons]
  cases p a <;> rfl

theorem sum_map_eraseIdx {M : Type*} [AddCommMonoid M] (h : l[k]? = some a) (f : α → M) :
    (l.map f).sum = ((l.eraseIdx k).map f).sum + f a := by
  rw [((perm_cons_eraseIdx h).map f).sum_eq, List.map_cons, List.sum_cons, add_comm]

theorem countP_concat (l : List α) (a : α) (p : α → Bool) : (l ++ [a]).countP p = l.countP p + (p a).toNat := by
  rw [List.countP_append, List.countP_cons, List.countP_nil]
  cases p a <;> rfl

/-- The element at a position is replaced: it is the new one and the rest, in another order. -/
theorem perm_cons_set (h : l[k]? = some a) (b : α) : (l.set k b).Perm (b :: l.eraseIdx k) := by
  induction l generalizing k with
  | nil => simp at h
  | cons x l ih =>
    cases k with
    | zero => exact List.Perm.refl _
    | succ k => exact ((ih (by simpa using h)).cons x).trans (List.Perm.swap b x _)

/-- Two lists side by side, in one of which an element is replaced. -/
theorem zip_set {β : Type*} (m : List β) (h : l[k]? = some a) (b : β) : l.zip (m.set k b) = (l.zip m).set k (a, b) := by
  induction l generalizing m k with
  | nil => simp at h
  | cons x l ih =>
    cases m with
    | nil => simp
    | cons y m =>
      cases k with
      | zero =>
        cases Option.some.inj h
        rfl
      | succ k => simp only [List.set_cons_succ, List.zip_cons_cons, ih m (by simpa using h)]

/-- Two lists side by side, from which the same position is taken. -/
theorem zip_eraseIdx {β : Type*} (l : List α) (m : List β) (k : Nat) :
    (l.eraseIdx k).zip (m.eraseIdx k) = (l.zip m).eraseIdx k := by
  induction l generalizing m k with
  | nil => simp
  | cons x l ih =>
    cases m with
    | nil => simp
    | cons y m =>
      cases k with
      | zero => rfl
      | succ k => simp only [List.eraseIdx_cons_succ, List.zip_cons_cons, ih]

/-! ## Changes on their way to a balance

They are taken in the order in which they were sent. A balance that may not become negative has to cover
them one after the other.
-/

/-- The balance `b` is not negative, and stays so while the changes are made one after the other. -/
def Covers : Int → List Int → Prop
  | b, [] => 0 ≤ b
  | b, x :: xs => 0 ≤ b ∧ Covers (b + x) xs

theorem Covers.nonneg {b : Int} {xs : List Int} (h : Covers b xs) : 0 ≤ b := by
  cases xs with
  | nil => exact h
  | cons x xs => exact h.1

/-- What is left in the end. -/
theorem Covers.sum {b : Int} {xs : List Int} (h : Covers b xs) : 0 ≤ b + xs.sum := by
  induction xs generalizing b with
  | nil => simpa [Covers] using h
  | cons x xs ih =>
    have := ih h.2
    rw [List.sum_cons]
    omega

/-- One more change, sent after the others. -/
theorem Covers.concat {b x : Int} {xs : List Int} (h : Covers b xs) (hx : 0 ≤ b + xs.sum + x) : Covers b (xs ++ [x]) := by
  induction xs generalizing b with
  | nil => exact ⟨h, by simpa [Covers] using hx⟩
  | cons y xs ih =>
    refine ⟨h.1, ih h.2 ?_⟩
    rw [List.sum_cons] at hx
    omega

end Waiting
