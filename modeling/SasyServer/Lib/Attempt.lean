import Mathlib.Data.List.Basic

/-!
# Computations that may stop half-way

An operation of an imperative program that refuses or raises an error stops, and what it has done so far stays. Such a
computation gives the state it ends in, and the failure it has stopped with, if any. `andThen` goes on only without a
failure, and `forEach` is a loop that a failure leaves.

`Ends P E a` is the postcondition of such a computation: `P` holds of the state when it has come to its end, and `E` of the
state and the failure when it has stopped. With `E` false the computation does not stop.
-/

/-- The state a computation ends in, and the failure it has stopped with. -/
structure Attempt (σ ε : Type*) where
  state : σ
  failure : Option ε

namespace Attempt

variable {σ ε α : Type*}

/-- A computation that has come to its end. -/
def ok (s : σ) : Attempt σ ε := ⟨s, none⟩

/-- A computation that stops. -/
def fail (s : σ) (e : ε) : Attempt σ ε := ⟨s, some e⟩

/-- The rest of a computation, which a failure skips. -/
def andThen (a : Attempt σ ε) (f : σ → Attempt σ ε) : Attempt σ ε :=
  match a.failure with
  | none => f a.state
  | some _ => a

/-- A loop, which a failure leaves. -/
def forEach (f : σ → α → Attempt σ ε) : List α → σ → Attempt σ ε
  | [], s => ok s
  | x :: xs, s => (f s x).andThen (forEach f xs)

/-- The postcondition of a computation: `P` at its end, `E` when it has stopped. -/
def Ends (P : σ → Prop) (E : σ → ε → Prop) (a : Attempt σ ε) : Prop :=
  match a.failure with
  | none => P a.state
  | some e => E a.state e

variable {P Q : σ → Prop} {E F : σ → ε → Prop} {a : Attempt σ ε} {s : σ}

theorem ends_ok (h : P s) : Ends P E (ok s) := h

theorem ends_fail {e : ε} (h : E s e) : Ends P E (fail s e) := h

/-- A computation that has come to its end has not stopped. -/
theorem failure_ok_ne (s : σ) (e : ε) : (ok s).failure ≠ some e := (Option.some_ne_none e).symm

theorem ok_andThen (s : σ) (f : σ → Attempt σ ε) : (ok s).andThen f = f s := rfl

/-- A weaker postcondition. -/
theorem Ends.mono (h : Ends P E a) (hP : ∀ s, P s → Q s) (hE : ∀ s e, E s e → F s e) : Ends Q F a := by
  unfold Ends at h ⊢
  split at h
  · exact hP _ h
  · exact hE _ _ h

/-- The rest starts where the first part ends. -/
theorem Ends.andThen {f : σ → Attempt σ ε} (h : Ends P E a) (hf : ∀ s, P s → Ends Q E (f s)) : Ends Q E (a.andThen f) := by
  unfold Ends at h
  unfold Attempt.andThen
  split at h
  · exact hf _ h
  · rename_i e he
    unfold Ends
    rw [he]
    exact h

/-- A loop, by an invariant that holds before every turn. -/
theorem ends_forEach {g : σ → α → Attempt σ ε} (hg : ∀ s x, P s → Ends P E (g s x)) :
    ∀ (xs : List α) (s : σ), P s → Ends P E (forEach g xs s) := by
  intro xs
  induction xs with
  | nil => exact fun s h => ends_ok h
  | cons x xs ih => exact fun s h => (hg s x h).andThen ih

/-- A loop whose every turn does something for its element, and undoes it for none. -/
theorem ends_forEach_all {g : σ → α → Attempt σ ε} {D : α → σ → Prop}
    (hg : ∀ s x, P s → Ends (fun t => P t ∧ D x t ∧ ∀ y, D y s → D y t) E (g s x)) :
    ∀ (xs : List α) (s : σ), P s → Ends (fun t => P t ∧ (∀ x ∈ xs, D x t) ∧ ∀ y, D y s → D y t) E (forEach g xs s) := by
  intro xs
  induction xs with
  | nil => exact fun s h => ends_ok ⟨h, nofun, fun _ hy => hy⟩
  | cons x xs ih =>
    intro s h
    refine (hg s x h).andThen fun t ⟨ht, hx, hkeep⟩ => (ih t ht).mono ?_ fun _ _ he => he
    rintro t' ⟨ht', hall, hkeep'⟩
    exact ⟨ht', List.forall_mem_cons.2 ⟨hkeep' x hx, hall⟩, fun y hy => hkeep' y (hkeep y hy)⟩

/-- What holds however a computation ends. -/
theorem Ends.always (h : Ends P (fun s _ => P s) a) : P a.state := by
  unfold Ends at h
  split at h <;> exact h

/-- Two ways to go on that agree where the first part ends. -/
theorem andThen_congr {f g : σ → Attempt σ ε} (h : Ends P E a) (hfg : ∀ s, P s → f s = g s) : a.andThen f = a.andThen g := by
  unfold Ends at h
  unfold andThen
  split at h
  · exact hfg _ h
  · rfl

/-- Two loops whose turns agree while the invariant holds. -/
theorem forEach_congr {f g : σ → α → Attempt σ ε} (hf : ∀ s x, P s → Ends P E (f s x)) (hfg : ∀ s x, P s → f s x = g s x) :
    ∀ (xs : List α) (s : σ), P s → forEach f xs s = forEach g xs s := by
  intro xs
  induction xs with
  | nil => exact fun s h => rfl
  | cons x xs ih =>
    intro s h
    rw [forEach, forEach, ← hfg s x h]
    exact andThen_congr (hf s x h) ih

/-- A computation comes to its end when both parts do. -/
theorem failure_andThen {f : σ → Attempt σ ε} :
    (a.andThen f).failure = none ↔ a.failure = none ∧ (f a.state).failure = none := by
  unfold andThen
  cases ha : a.failure with
  | none => simp
  | some e => simp [ha]

end Attempt
