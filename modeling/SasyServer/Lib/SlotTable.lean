import Mathlib.Data.Int.ModEq
import Mathlib.Logic.Function.Basic

/-!
# A table of slots

A table with one slot for each remainder of the keys, in which two keys with one remainder have no place beside each other.
`get` is the meaning of a table: what it holds for a key. A table of twice the size has a place for everything that was in
the smaller one (`get_double`), and half of its slots are free (`exists_free_double`).
-/

namespace SlotTable

variable {α : Type*}

/-- The slots, each with a key and what it stands for. -/
abbrev Slots (α : Type*) := Nat → Option (Nat × α)

/-- Every key is in the slot of its remainder. -/
def WF (size : Nat) (slot : Slots α) : Prop := ∀ i e, slot i = some e → e.1 % size = i

/-- What the table holds for the key. -/
def get (size : Nat) (slot : Slots α) (key : Nat) : Option α := ((slot (key % size)).filter fun e => e.1 = key).map Prod.snd

/-- The table of twice the size. -/
def double (size : Nat) (slot : Slots α) : Slots α := fun j => (slot (j % size)).filter fun e => e.1 % (size * 2) = j

section Table

variable {size : Nat} {slot : Slots α}

theorem wf_empty : WF size (fun _ => none : Slots α) := fun _ _ h => by cases h

theorem get_empty : get size (fun _ => none : Slots α) = fun _ => none := rfl

theorem get_eq_some {key : Nat} {a : α} : get size slot key = some a ↔ slot (key % size) = some (key, a) := by
  unfold get
  rw [Option.map_eq_some_iff]
  constructor
  · rintro ⟨⟨k, a'⟩, he, rfl⟩
    obtain ⟨he, hk⟩ := Option.filter_eq_some_iff.1 he
    rw [he, ← of_decide_eq_true hk]
  · intro h
    exact ⟨(key, a), Option.filter_eq_some_iff.2 ⟨h, decide_eq_true rfl⟩, rfl⟩

theorem get_of_free {key : Nat} (h : slot (key % size) = none) : get size slot key = none := by
  rw [get, h]
  rfl

theorem WF.put (h : WF size slot) (key : Nat) (a : α) : WF size (Function.update slot (key % size) (some (key, a))) := by
  intro i e he
  by_cases hi : i = key % size
  · subst hi
    rw [Function.update_self] at he
    obtain rfl := Option.some.inj he
    rfl
  · rw [Function.update_of_ne hi] at he
    exact h i e he

/-- A key in a free slot. -/
theorem get_put {key : Nat} (hfree : slot (key % size) = none) (a : α) :
    get size (Function.update slot (key % size) (some (key, a))) = Function.update (get size slot) key (some a) := by
  funext k
  by_cases hk : k = key
  · rw [hk, Function.update_self, get_eq_some, Function.update_self]
  · rw [Function.update_of_ne hk]
    by_cases hs : k % size = key % size
    · have hold : get size slot k = none := get_of_free (by rw [hs]; exact hfree)
      rw [hold, get, hs, Function.update_self, Option.filter_some, if_neg (by simpa using Ne.symm hk)]
      rfl
    · rw [get, Function.update_of_ne hs]
      rfl

theorem WF.clear (h : WF size slot) (i : Nat) : WF size (Function.update slot i none) := by
  intro j e he
  by_cases hj : j = i
  · rw [hj, Function.update_self] at he
    cases he
  · rw [Function.update_of_ne hj] at he
    exact h j e he

/-- A key is taken out. -/
theorem get_clear {key : Nat} {a : α} (h : slot (key % size) = some (key, a)) :
    get size (Function.update slot (key % size) none) = Function.update (get size slot) key none := by
  funext k
  by_cases hk : k = key
  · rw [hk, Function.update_self]
    exact get_of_free (Function.update_self _ _ _)
  · rw [Function.update_of_ne hk]
    by_cases hs : k % size = key % size
    · rw [get_of_free (by rw [hs]; exact Function.update_self _ _ _), get, hs, h, Option.filter_some,
        if_neg (by simpa using Ne.symm hk)]
      rfl
    · rw [get, Function.update_of_ne hs]
      rfl

theorem wf_double : WF (size * 2) (double size slot) := fun _ _ h => of_decide_eq_true (Option.filter_eq_some_iff.1 h).2

theorem get_double : get (size * 2) (double size slot) = get size slot := by
  funext key
  refine Option.ext fun a => ?_
  rw [get_eq_some, get_eq_some, double, Option.filter_eq_some_iff, Nat.mod_mul_right_mod]
  exact and_iff_left (decide_eq_true rfl)

variable (size slot) in
/-- Of the two slots that one becomes, one is free. -/
theorem exists_free_double {i : Nat} (hi : i < size) : double size slot i = none ∨ double size slot (i + size) = none := by
  by_contra hne
  rw [not_or, ← ne_eq, ← ne_eq, Option.ne_none_iff_exists', Option.ne_none_iff_exists'] at hne
  obtain ⟨⟨e, he⟩, ⟨e', he'⟩⟩ := hne
  obtain ⟨h1, h2⟩ := Option.filter_eq_some_iff.1 he
  obtain ⟨h1', h2'⟩ := Option.filter_eq_some_iff.1 he'
  rw [Nat.mod_eq_of_lt hi] at h1
  rw [Nat.add_mod_right, Nat.mod_eq_of_lt hi, h1] at h1'
  obtain rfl := Option.some.inj h1'
  have := (of_decide_eq_true h2).symm.trans (of_decide_eq_true h2')
  omega

end Table

/-- Among as many keys as there are slots, there is one for each slot. -/
theorem exists_mod_eq {size i : Nat} (start : Nat) (hi : i < size) : ∃ x, start ≤ x ∧ x < start + size ∧ x % size = i := by
  refine ⟨start + (i + (size - start % size)) % size, Nat.le_add_right _ _,
    Nat.add_lt_add_left (Nat.mod_lt _ (Nat.zero_lt_of_lt hi)) _, ?_⟩
  have hlt := Nat.mod_lt start (Nat.zero_lt_of_lt hi)
  have hdiv := Nat.div_add_mod start size
  have hsum : start + (i + (size - start % size)) = size * (start / size + 1) + i := by
    rw [Nat.mul_succ]
    omega
  rw [Nat.add_mod_mod, hsum, Nat.mul_add_mod, Nat.mod_eq_of_lt hi]

end SlotTable
