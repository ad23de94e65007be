import Mathlib.Data.List.Basic
import Mathlib.Logic.Function.Basic

/-!
# Lists kept by place

A table of lists, in which each item of one list stands at the place a function gives it, in the order of the one list. The
places change with time: then the items of one place are taken out and put where they belong now, and the table stands for
the same list as long as no other item changes its place and the items that are moved find their new places empty.
-/

namespace Buckets

variable {π α : Type*} [DecidableEq π]

/-- The table stands for the list `xs`: at each place the items that belong there, in their order. -/
def Holds (table : π → List α) (place : α → π) (xs : List α) : Prop := ∀ p, table p = xs.filter fun x => place x = p

/-- Put an item where it belongs, behind the others. -/
def add (place : α → π) (table : π → List α) (x : α) : π → List α :=
  Function.update table (place x) (table (place x) ++ [x])

/-- Take the items of one place out and put each where it belongs. -/
def move (place : α → π) (table : π → List α) (p : π) : π → List α :=
  (table p).foldl (add place) (Function.update table p [])

variable {table : π → List α} {place place' : α → π} {xs : List α}

/-- A new item comes last. -/
theorem Holds.add (h : Holds table place xs) (x : α) : Holds (Buckets.add place table x) place (xs ++ [x]) := by
  intro p
  rw [List.filter_append]
  by_cases hp : p = place x
  · subst hp
    simp [Buckets.add, h (place x)]
  · rw [Buckets.add, Function.update_of_ne hp, h p]
    simp [Ne.symm hp]

/-- New items come last, in their order. -/
theorem Holds.foldl_add (h : Holds table place xs) (ys : List α) :
    Holds (ys.foldl (Buckets.add place) table) place (xs ++ ys) := by
  induction ys generalizing table xs with
  | nil => simpa using h
  | cons y ys ih => simpa using ih (h.add y)

/-- One place is cleared. -/
theorem Holds.clear (h : Holds table place xs) (p : π) :
    Holds (Function.update table p []) place (xs.filter fun x => place x ≠ p) := by
  intro q
  rw [List.filter_filter]
  by_cases hq : q = p
  · subst hq
    rw [Function.update_self, eq_comm, List.filter_eq_nil_iff]
    intro x _
    simp
  · rw [Function.update_of_ne hq, h q]
    refine List.filter_congr fun x _ => ?_
    by_cases hx : place x = q
    · simp [hx, hq]
    · simp [hx]

/-- The places may be given by another function that says the same of each item. -/
theorem Holds.congr (h : Holds table place xs) (he : ∀ x ∈ xs, place x = place' x) : Holds table place' xs := by
  intro p
  rw [h p]
  exact List.filter_congr fun x hx => by rw [he x hx]

/-- The table stands for the same list when the items of one place change their place, and move. -/
theorem Holds.move (h : Holds table place xs) (p : π) (stay : ∀ x ∈ xs, place x ≠ p → place x = place' x)
    (free : ∀ x ∈ xs, place x = p → ∀ y ∈ xs, place y ≠ p → place' y ≠ place' x) :
    Holds (Buckets.move place' table p) place' xs := by
  have hc : Holds (Function.update table p []) place' (xs.filter fun x => place x ≠ p) :=
    (h.clear p).congr fun x hx => by
      rw [List.mem_filter, decide_eq_true_eq] at hx
      exact stay x hx.1 hx.2
  have hm := hc.foldl_add (table p)
  intro q
  rw [Buckets.move, hm q, h p, List.filter_append, List.filter_filter, List.filter_filter]
  -- either no item comes to `q`, or all its items come
  by_cases hq : ∃ x ∈ xs, place x = p ∧ place' x = q
  · obtain ⟨x, hx, hxp, rfl⟩ := hq
    rw [List.filter_eq_nil_iff.2, List.nil_append]
    · refine List.filter_congr fun y hy => ?_
      by_cases hyp : place y = p
      · simp [hyp]
      · simp [hyp, free x hx hxp y hy hyp]
    · intro y hy
      by_cases hyp : place y = p
      · simp [hyp]
      · simp [free x hx hxp y hy hyp]
  · have hn : (xs.filter fun y => decide (place' y = q) && decide (place y = p)) = [] := by
      rw [List.filter_eq_nil_iff]
      intro y hy hyq
      simp only [Bool.and_eq_true, decide_eq_true_eq] at hyq
      exact hq ⟨y, hy, hyq.2, hyq.1⟩
    rw [hn, List.append_nil]
    refine List.filter_congr fun y hy => ?_
    by_cases hyp : place y = p
    · have : place' y ≠ q := fun e => hq ⟨y, hy, hyp, e⟩
      simp [hyp, this]
    · simp [hyp]

end Buckets
