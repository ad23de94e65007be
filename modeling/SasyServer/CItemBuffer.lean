import Mathlib.Data.List.Basic

/-!
# The pool of user records

`lualib/utility/cItemBuffer.lua`. A record is a block of C memory and a reference to it is a number: the `n`-th block that
`CLibrary.new` made has the number `n`. What is in the blocks is kept by the service that owns the pool. A released record
goes to the end of the list and the next allocation takes the first one.
-/

namespace SasyServer

/-- `_itemList` and `_newCount`. -/
structure CItemBuffer where
  itemList : List Nat
  newCount : Nat
  deriving DecidableEq, Repr

namespace CItemBuffer

/-- `allocate`. -/
def allocate (b : CItemBuffer) : Nat × CItemBuffer :=
  match b.itemList with
  | r :: rest => (r, { b with itemList := rest })
  | [] => (b.newCount, { b with newCount := b.newCount + 1 })

/-- `release`, after the `reset` of the record. -/
def release (b : CItemBuffer) (r : Nat) : CItemBuffer := { b with itemList := b.itemList ++ [r] }

/-- Before the first allocation. -/
def empty : CItemBuffer := ⟨[], 0⟩

/-- The records in the list are different ones and were made by the pool. -/
structure WF (b : CItemBuffer) : Prop where
  nodup : b.itemList.Nodup
  lt : ∀ r ∈ b.itemList, r < b.newCount

/-- A record that was made and is not in the list: somebody uses it. -/
def InUse (b : CItemBuffer) (r : Nat) : Prop := r < b.newCount ∧ r ∉ b.itemList

theorem wf_empty : empty.WF := ⟨List.nodup_nil, by simp [empty]⟩

/-- An allocation gives a record that nobody used, and from then on it is in use. -/
theorem allocate_spec {b : CItemBuffer} (h : b.WF) :
    b.allocate.2.WF ∧ ¬b.InUse b.allocate.1 ∧ ∀ r, b.allocate.2.InUse r ↔ r = b.allocate.1 ∨ b.InUse r := by
  obtain ⟨l, n⟩ := b
  have hn := h.nodup
  have hl := h.lt
  cases l with
  | nil =>
    refine ⟨⟨List.nodup_nil, by simp [allocate]⟩, by simp [InUse, allocate], ?_⟩
    intro r
    simp only [allocate, InUse, List.not_mem_nil, not_false_eq_true, and_true]
    omega
  | cons x l =>
    simp only [List.nodup_cons] at hn
    have hx := hl x (by simp)
    refine ⟨⟨hn.2, fun r hr => hl r (List.mem_cons_of_mem _ hr)⟩, by simp [InUse, allocate], ?_⟩
    intro r
    simp only [allocate, InUse, List.mem_cons, not_or]
    by_cases hr : r = x
    · subst hr
      exact ⟨fun _ => Or.inl rfl, fun _ => ⟨hx, hn.1⟩⟩
    · exact ⟨fun h => Or.inr ⟨h.1, hr, h.2⟩, fun h => (h.resolve_left hr).imp_right And.right⟩

/-- A release of a record in use ends its use. -/
theorem release_spec {b : CItemBuffer} (h : b.WF) {r : Nat} (hr : b.InUse r) :
    (b.release r).WF ∧ ∀ x, (b.release r).InUse x ↔ x ≠ r ∧ b.InUse x := by
  refine ⟨⟨?_, ?_⟩, ?_⟩
  · exact List.nodup_append.2 ⟨h.nodup, by simp, by
      rintro a ha b hb rfl
      rw [List.mem_singleton] at hb
      exact hr.2 (hb ▸ ha)⟩
  · intro x hx
    simp only [release, List.mem_append, List.mem_singleton] at hx
    rcases hx with hx | rfl
    · exact h.lt x hx
    · exact hr.1
  · intro x
    simp only [InUse, release, List.mem_append, List.mem_singleton, not_or]
    exact ⟨fun h => ⟨h.2.2, h.1, h.2.1⟩, fun h => ⟨h.2.1, h.2.2, h.1⟩⟩

end CItemBuffer

end SasyServer
