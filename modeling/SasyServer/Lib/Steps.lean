import Mathlib.Algebra.Group.Units.Basic
import Mathlib.Algebra.Group.Nat.Units
import Mathlib.Data.List.Basic

/-!
# Partial step functions, their runs and their invariants

A system is a partial function from a state and a label to the next state: a label the state refuses gives `none`. A run is a
list of labels, executed from the left. Whatever is nondeterministic (which message comes next, when a suspended handler is
resumed, what a random draw gives) is in the label, so that a statement about every list of labels is a statement about every
interleaving.

`exec_invariant` is the rule every safety result of the development goes through: a property that each step keeps, provided
the step meets a condition in the state it starts from, holds at the end of every run whose steps all meet the condition.
-/

namespace Steps

variable {σ ι : Type*}

/-- The state a run ends in, or `none` when one of its steps is refused. -/
def exec (step : σ → ι → Option σ) : σ → List ι → Option σ
  | s, [] => some s
  | s, i :: is => (step s i).bind fun s' => exec step s' is

/-- Every step of the run meets the condition `C` in the state it starts from. -/
def Meets (step : σ → ι → Option σ) (C : σ → ι → Prop) : σ → List ι → Prop
  | _, [] => True
  | s, i :: is => C s i ∧ ∀ s', step s i = some s' → Meets step C s' is

instance Meets.decidable (step : σ → ι → Option σ) (C : σ → ι → Prop) [∀ s i, Decidable (C s i)] :
    ∀ (is : List ι) (s : σ), Decidable (Meets step C s is)
  | [], _ => .isTrue trivial
  | i :: is, s =>
    match h : step s i with
    | none => decidable_of_iff (C s i) ⟨fun hc => ⟨hc, fun s' hs => by simp [h] at hs⟩, fun hm => hm.1⟩
    | some s' =>
      have := Meets.decidable step C is s'
      decidable_of_iff (C s i ∧ Meets step C s' is)
        ⟨fun hm => ⟨hm.1, fun s'' hs => by simp only [h, Option.some.injEq] at hs; exact hs ▸ hm.2⟩,
          fun hm => ⟨hm.1, hm.2 s' h⟩⟩

/-- The sum of what the steps of a run contribute, each in the state it starts from. -/
def total {M : Type*} [AddMonoid M] (step : σ → ι → Option σ) (f : σ → ι → M) : σ → List ι → M
  | _, [] => 0
  | s, i :: is => f s i + (step s i).elim 0 fun s' => total step f s' is

/-- What a run makes of a value that each step changes, in the state it starts from. -/
def account {M : Type*} (step : σ → ι → Option σ) (f : σ → ι → M → M) : σ → List ι → M → M
  | _, [], m => m
  | s, i :: is, m => (step s i).elim (f s i m) fun s' => account step f s' is (f s i m)

section Rules

variable {step : σ → ι → Option σ}

theorem exec_nil (s : σ) : exec step s [] = some s := rfl

theorem exec_cons (s : σ) (i : ι) (is : List ι) : exec step s (i :: is) = (step s i).bind fun s' => exec step s' is := rfl

/-- A run that starts with a step went through the state that step leads to. -/
theorem exec_cons_some {s t : σ} {i : ι} {is : List ι} (h : exec step s (i :: is) = some t) :
    ∃ s', step s i = some s' ∧ exec step s' is = some t := by
  rw [exec_cons, Option.bind_eq_some_iff] at h
  exact h

/-- A run in two parts. -/
theorem exec_append (s : σ) (is js : List ι) : exec step s (is ++ js) = (exec step s is).bind fun t => exec step t js := by
  induction is generalizing s with
  | nil => rfl
  | cons i is ih =>
    rw [List.cons_append, exec_cons, exec_cons, Option.bind_assoc]
    exact congrArg (step s i).bind (funext ih)

/-- The invariant rule: a property kept by every step that meets `C` holds at the end of every run whose steps meet `C`. -/
theorem exec_invariant {I : σ → Prop} {C : σ → ι → Prop}
    (keep : ∀ s i s', I s → C s i → step s i = some s' → I s') :
    ∀ (is : List ι) (s t : σ), I s → Meets step C s is → exec step s is = some t → I t := by
  intro is
  induction is with
  | nil =>
    intro s t hs _ h
    rw [exec_nil, Option.some.injEq] at h
    exact h ▸ hs
  | cons i is ih =>
    intro s t hs hm h
    obtain ⟨s', h1, h2⟩ := exec_cons_some h
    exact ih s' t (keep s i s' hs hm.1 h1) (hm.2 s' h1) h2

/-- What an invariant implies for each step that meets `C` holds for every step of a run whose steps meet `C`. -/
theorem Meets.of_invariant {I : σ → Prop} {C P : σ → ι → Prop}
    (keep : ∀ s i s', I s → C s i → step s i = some s' → I s') (hP : ∀ s i, I s → C s i → P s i) :
    ∀ {is : List ι} {s : σ}, I s → Meets step C s is → Meets step P s is := by
  intro is
  induction is with
  | nil => intro s _ _; trivial
  | cons i is ih => exact fun hs hm => ⟨hP _ i hs hm.1, fun s' h => ih (keep _ i s' hs hm.1 h) (hm.2 s' h)⟩

/-- After a part of a run, the rest meets the condition from there. -/
theorem Meets.drop {C : σ → ι → Prop} {js : List ι} : ∀ {is : List ι} {s t : σ}, Meets step C s (is ++ js) →
    exec step s is = some t → Meets step C t js := by
  intro is
  induction is with
  | nil =>
    intro s t hm h
    rw [exec_nil, Option.some.injEq] at h
    exact h ▸ hm
  | cons i is ih =>
    intro s t hm h
    obtain ⟨s', h1, h2⟩ := exec_cons_some h
    exact ih (hm.2 s' h1) h2

/-- A part of a run meets the condition that the run meets. -/
theorem Meets.take {C : σ → ι → Prop} {js : List ι} :
    ∀ {is : List ι} {s : σ}, Meets step C s (is ++ js) → Meets step C s is := by
  intro is
  induction is with
  | nil => intro s _; trivial
  | cons i is ih => exact fun hm => ⟨hm.1, fun s' hs => ih (hm.2 s' hs)⟩

/-- A condition that every step meets is met by every run. -/
theorem meets_of_forall {C : σ → ι → Prop} (hC : ∀ s i, C s i) : ∀ (is : List ι) (s : σ), Meets step C s is := by
  intro is
  induction is with
  | nil => intro s; trivial
  | cons i is ih => exact fun s => ⟨hC s i, fun s' _ => ih s'⟩

/-- Two conditions that say the same of every step. -/
theorem meets_congr {C D : σ → ι → Prop} (h : ∀ s i, C s i ↔ D s i) :
    ∀ (is : List ι) (s : σ), Meets step C s is ↔ Meets step D s is := by
  intro is
  induction is with
  | nil => exact fun _ => Iff.rfl
  | cons i is ih => exact fun s => and_congr (h s i) (forall₂_congr fun s' _ => ih s')

/-- Two conditions that say the same of every step from a state with a property that the steps keep. -/
theorem meets_iff_of_invariant {I : σ → Prop} {C P : σ → ι → Prop} (keep : ∀ s i s', I s → C s i → step s i = some s' → I s')
    (h : ∀ s i, I s → (P s i ↔ C s i)) : ∀ (is : List ι) (s : σ), I s → (Meets step P s is ↔ Meets step C s is) := by
  intro is
  induction is with
  | nil => exact fun _ _ => Iff.rfl
  | cons i is ih =>
    intro s hs
    constructor
    · exact fun hm => ⟨(h s i hs).1 hm.1, fun s' hs' => (ih s' (keep s i s' hs ((h s i hs).1 hm.1) hs')).1 (hm.2 s' hs')⟩
    · exact fun hm => ⟨(h s i hs).2 hm.1, fun s' hs' => (ih s' (keep s i s' hs hm.1 hs')).2 (hm.2 s' hs')⟩

/-- A condition on the labels alone. -/
theorem meets_of_mem {C : ι → Prop} : ∀ (is : List ι) (s : σ), (∀ i ∈ is, C i) → Meets step (fun _ i => C i) s is := by
  intro is
  induction is with
  | nil => intro s _; trivial
  | cons i is ih => exact fun s h => ⟨h i List.mem_cons_self, fun s' _ => ih s' fun j hj => h j (List.mem_cons_of_mem _ hj)⟩

/-- Two conditions that a run meets. -/
theorem Meets.and {C D : σ → ι → Prop} : ∀ {is : List ι} {s : σ}, Meets step C s is → Meets step D s is →
    Meets step (fun s i => C s i ∧ D s i) s is := by
  intro is
  induction is with
  | nil => intro s _ _; trivial
  | cons i is ih => exact fun hC hD => ⟨⟨hC.1, hD.1⟩, fun s' hs => ih (hC.2 s' hs) (hD.2 s' hs)⟩

/-- The invariant rule for a property of the state and of what the run has contributed so far. -/
theorem exec_total {M : Type*} [AddMonoid M] {f : σ → ι → M} {I : σ → M → Prop} {C : σ → ι → Prop}
    (keep : ∀ s i s' m, I s m → C s i → step s i = some s' → I s' (m + f s i)) :
    ∀ (is : List ι) (s t : σ) (m : M), I s m → Meets step C s is → exec step s is = some t →
      I t (m + total step f s is) := by
  intro is
  induction is with
  | nil =>
    intro s t m hs _ h
    rw [exec_nil, Option.some.injEq] at h
    rw [total, add_zero]
    exact h ▸ hs
  | cons i is ih =>
    intro s t m hs hm h
    obtain ⟨s', h1, h2⟩ := exec_cons_some h
    rw [total, h1, Option.elim_some, ← add_assoc]
    exact ih s' t _ (keep s i s' m hs hm.1 h1) (hm.2 s' h1) h2

/-- A run contributes nothing when none of its steps does, where contributions cannot cancel out. -/
theorem total_eq_zero_iff {M : Type*} [AddCommMonoid M] [Subsingleton (AddUnits M)] {f : σ → ι → M} :
    ∀ (is : List ι) (s : σ), total step f s is = 0 ↔ Meets step (fun s i => f s i = 0) s is := by
  intro is
  induction is with
  | nil => exact fun _ => iff_of_true rfl trivial
  | cons i is ih =>
    intro s
    rw [total, Meets, add_eq_zero]
    refine and_congr_right fun _ => ?_
    cases step s i with
    | none => simp
    | some s' => simp only [Option.elim_some, ih, Option.some.injEq, forall_eq']

/-- The invariant rule for a property of the state and of a value that the steps of the run have changed. -/
theorem exec_account {M : Type*} {f : σ → ι → M → M} {I : σ → M → Prop} {C : σ → ι → Prop}
    (keep : ∀ s i s' m, I s m → C s i → step s i = some s' → I s' (f s i m)) :
    ∀ (is : List ι) (s t : σ) (m : M), I s m → Meets step C s is → exec step s is = some t →
      I t (account step f s is m) := by
  intro is
  induction is with
  | nil =>
    intro s t m hs _ h
    rw [exec_nil, Option.some.injEq] at h
    exact h ▸ hs
  | cons i is ih =>
    intro s t m hs hm h
    obtain ⟨s', h1, h2⟩ := exec_cons_some h
    rw [account, h1, Option.elim_some]
    exact ih s' t _ (keep s i s' m hs hm.1 h1) (hm.2 s' h1) h2

/-- Contributions of two kinds are added up separately. -/
theorem total_add {M : Type*} [AddCommMonoid M] (f g : σ → ι → M) :
    ∀ (is : List ι) (s : σ), total step (fun s i => f s i + g s i) s is = total step f s is + total step g s is := by
  intro is
  induction is with
  | nil => exact fun _ => (add_zero 0).symm
  | cons i is ih =>
    intro s
    rw [total, total, total]
    cases step s i with
    | none => simp only [Option.elim_none, add_zero]
    | some s' => simp only [Option.elim_some, ih, add_add_add_comm]

end Rules

end Steps
