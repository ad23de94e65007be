import Mathlib.Data.List.Nodup
import Mathlib.Logic.Function.Basic

/-!
# A hash table of chains

A table of linked lists, in which an entry is in the list that the hash of its key names, and a lookup takes the entry out.
`get` is the meaning of a table: the entry it holds for a key. On tables in which every entry is in its own list, and no list
has two entries of one key, `save` and `find` change `get` at one key and nowhere else (`get_save`, `find_eq_some`).
-/

namespace ChainTable

variable {α κ β : Type*} [DecidableEq κ] [DecidableEq β]

/-- The walk along one list: the first entry of the key, and the list without it. -/
def unlink (key : α → κ) (k : κ) : List α → Option (α × List α)
  | [] => none
  | a :: next => if key a = k then some (a, next) else (unlink key k next).map fun p => (p.1, a :: p.2)

/-- The entry of the key, taken out of the table. -/
def find (key : α → κ) (hash : κ → β) (t : β → List α) (k : κ) : Option (α × (β → List α)) :=
  (unlink key k (t (hash k))).map fun p => (p.1, Function.update t (hash k) p.2)

/-- An entry comes to the front of its list. -/
def save (key : α → κ) (hash : κ → β) (t : β → List α) (a : α) : β → List α :=
  Function.update t (hash (key a)) (a :: t (hash (key a)))

/-- What the table holds for the key. -/
def get (key : α → κ) (hash : κ → β) (t : β → List α) (k : κ) : Option α := (t (hash k)).find? fun a => key a = k

/-- Every entry is in the list of its key, and a list has one entry for a key. -/
structure WF (key : α → κ) (hash : κ → β) (t : β → List α) : Prop where
  placed : ∀ b, ∀ a ∈ t b, hash (key a) = b
  nodup : ∀ b, ((t b).map key).Nodup

section Lists

variable {key : α → κ} {k : κ}

theorem unlink_eq_none {l : List α} : unlink key k l = none ↔ ∀ a ∈ l, key a ≠ k := by
  induction l with
  | nil => exact iff_of_true rfl nofun
  | cons a l ih =>
    rw [unlink, List.forall_mem_cons]
    by_cases ha : key a = k
    · rw [if_pos ha]
      exact iff_of_false nofun fun h => h.1 ha
    · rw [if_neg ha, Option.map_eq_none_iff, ih]
      exact (and_iff_right ha).symm

/-- The entry that is taken out has the key, and the list is the entry put back at its place. -/
theorem unlink_eq_some {l l' : List α} {a : α} (h : unlink key k l = some (a, l')) :
    key a = k ∧ ∃ pre post, l = pre ++ a :: post ∧ l' = pre ++ post := by
  induction l generalizing l' with
  | nil => nomatch h
  | cons x l ih =>
    rw [unlink] at h
    by_cases hx : key x = k
    · rw [if_pos hx, Option.some.injEq, Prod.mk.injEq] at h
      obtain ⟨rfl, rfl⟩ := h
      exact ⟨hx, [], l, rfl, rfl⟩
    · rw [if_neg hx, Option.map_eq_some_iff] at h
      obtain ⟨⟨a', l''⟩, hl, heq⟩ := h
      rw [Prod.mk.injEq] at heq
      obtain ⟨rfl, rfl⟩ := heq
      obtain ⟨ha, pre, post, rfl, rfl⟩ := ih hl
      exact ⟨ha, x :: pre, post, rfl, rfl⟩

/-- In a list with one entry for a key, the entry is found by its key. -/
theorem find?_of_mem {l : List α} (hl : (l.map key).Nodup) {a : α} (ha : a ∈ l) :
    l.find? (fun b => key b = key a) = some a := by
  induction l with
  | nil => nomatch ha
  | cons x l ih =>
    rw [List.map_cons, List.nodup_cons] at hl
    rcases List.mem_cons.1 ha with rfl | ha
    · exact List.find?_cons_of_pos (by simp)
    · have hx : key x ≠ key a := fun he => hl.1 (he ▸ List.mem_map_of_mem ha)
      rw [List.find?_cons_of_neg (by simpa using hx)]
      exact ih hl.2 ha

end Lists

section Tables

variable {key : α → κ} {hash : κ → β} {t : β → List α} {k : κ}

theorem find_eq_none : find key hash t k = none ↔ get key hash t k = none := by
  rw [find, Option.map_eq_none_iff, unlink_eq_none, get, List.find?_eq_none]
  simp only [decide_eq_true_eq, ne_eq]

/-- A new entry changes what the table holds for its key only. -/
theorem get_save (t : β → List α) (a : α) :
    get key hash (save key hash t a) = Function.update (get key hash t) (key a) (some a) := by
  funext k
  by_cases hk : k = key a
  · subst hk
    rw [Function.update_self, get, save, Function.update_self]
    exact List.find?_cons_of_pos (by simp)
  · rw [Function.update_of_ne hk, get, get, save]
    by_cases hh : hash k = hash (key a)
    · rw [hh, Function.update_self]
      exact List.find?_cons_of_neg (by simpa using Ne.symm hk)
    · rw [Function.update_of_ne hh]

theorem WF.save (h : WF key hash t) {a : α} (ha : get key hash t (key a) = none) : WF key hash (save key hash t a) := by
  have hnew : ∀ x ∈ t (hash (key a)), key x ≠ key a := by
    simpa [get, List.find?_eq_none] using ha
  constructor
  · intro b x hx
    rw [ChainTable.save] at hx
    by_cases hb : b = hash (key a)
    · subst hb
      rw [Function.update_self] at hx
      rcases List.mem_cons.1 hx with rfl | hx
      · rfl
      · exact h.placed _ x hx
    · rw [Function.update_of_ne hb] at hx
      exact h.placed b x hx
  · intro b
    rw [ChainTable.save]
    by_cases hb : b = hash (key a)
    · subst hb
      rw [Function.update_self, List.map_cons, List.nodup_cons]
      refine ⟨?_, h.nodup _⟩
      rw [List.mem_map]
      rintro ⟨x, hx, he⟩
      exact hnew x hx he
    · rw [Function.update_of_ne hb]
      exact h.nodup b

/-- The entry that is taken out is what the table held for its key, and the table now holds nothing for it. -/
theorem find_eq_some (h : WF key hash t) {a : α} {t' : β → List α} (hfind : find key hash t k = some (a, t')) :
    key a = k ∧ get key hash t k = some a ∧ WF key hash t' ∧ get key hash t' = Function.update (get key hash t) k none := by
  rw [find, Option.map_eq_some_iff] at hfind
  obtain ⟨⟨a', l'⟩, hl, heq⟩ := hfind
  rw [Prod.mk.injEq] at heq
  obtain ⟨rfl, rfl⟩ := heq
  obtain ⟨rfl, pre, post, hpre, rfl⟩ := unlink_eq_some hl
  have hnodup := h.nodup (hash (key a'))
  have hmem : ∀ x ∈ pre ++ post, x ∈ t (hash (key a')) := by
    intro x hx
    rw [hpre]
    exact (List.mem_append.1 hx).elim (List.mem_append_left _) fun hx => List.mem_append_right _ (List.mem_cons_of_mem _ hx)
  have hrest : ((pre ++ post).map key).Nodup ∧ ∀ x ∈ pre ++ post, key x ≠ key a' := by
    rw [hpre, List.map_append, List.map_cons, List.nodup_middle, List.nodup_cons, ← List.map_append] at hnodup
    exact ⟨hnodup.2, fun x hx he => hnodup.1 (he ▸ List.mem_map_of_mem hx)⟩
  refine ⟨rfl, find?_of_mem (h.nodup _) (by rw [hpre]; exact List.mem_append_right _ List.mem_cons_self), ⟨?_, ?_⟩, ?_⟩
  · intro b x hx
    by_cases hb : b = hash (key a')
    · subst hb
      rw [Function.update_self] at hx
      exact h.placed _ x (hmem x hx)
    · rw [Function.update_of_ne hb] at hx
      exact h.placed b x hx
  · intro b
    by_cases hb : b = hash (key a')
    · subst hb
      rw [Function.update_self]
      exact hrest.1
    · rw [Function.update_of_ne hb]
      exact h.nodup b
  · funext k
    by_cases hk : k = key a'
    · subst hk
      rw [Function.update_self, get, Function.update_self, List.find?_eq_none]
      simpa using hrest.2
    · rw [Function.update_of_ne hk, get, get]
      by_cases hh : hash k = hash (key a')
      · rw [hh, Function.update_self, hpre, List.find?_append, List.find?_append,
          List.find?_cons_of_neg (by simpa using Ne.symm hk)]
      · rw [Function.update_of_ne hh]

omit [DecidableEq κ] [DecidableEq β] in
theorem wf_empty : WF key hash fun _ => ([] : List α) := ⟨nofun, fun _ => List.nodup_nil⟩

omit [DecidableEq β] in
theorem get_empty (k : κ) : get key hash (fun _ => ([] : List α)) k = none := rfl

end Tables

end ChainTable
