import SasyServer.Lemmas.UserRecords

/-!
# What the handlers of the user manager change

But for a new record of a user and the release of one, a handler only writes records, takes users out of `_userItemHash`, and
begins to wait. `Edits W T s s'` says that `s'` is `s` after such changes, where a record that gets another agent gets one
that `W` allows, and what begins to wait is such that `T`.
-/

namespace SasyServer.UserManager

/-- `s'` is `s` after changes that make and release no record. -/
inductive Edits (W : Nat → Nat → Prop) (T : Thread → Prop) (s : State) : State → Prop where
  | refl : Edits W T s s
  | emit {s' : State} (h : Edits W T s s') (e : Event) : Edits W T s (s'.emit e)
  | suspend {s' : State} (h : Edits W T s s') (t : Thread) (ht : T t) : Edits W T s (s'.suspend t)
  | setItem {s' : State} (h : Edits W T s s') (i : Nat) {x : Sui} (y : Sui) (hx : s'.items i = some x)
    (huser : y.userID = x.userID)
      (hw : y.agent = x.agent ∨ ∀ u, s'.userItem u = some i → W u y.agent) : Edits W T s (s'.setItem i (some y))
  | remove {s' : State} (h : Edits W T s s') (u : Nat) :
      Edits W T s { s' with userItemHash := s'.userItemHash.filter fun p => p.1 ≠ u }

/-- Only the handler of a disconnect begins to wait in the work on one. -/
def Thread.calm : Thread → Prop
  | .disconnect _ => False
  | _ => True

section Handlers

variable {W : Nat → Nat → Prop} {T : Thread → Prop} {s₀ s s' : State} {cfg : ServerConfig}

/-- The record of a user is written, and its user stays. -/
theorem Edits.setStatusAttribute (h : Edits W T s₀ s) (u i : Nat) {f : Sui → Sui} (huser : ∀ x, (f x).userID = x.userID)
    (hf : ∀ x, (f x).agent = x.agent ∨ ∀ v, s.userItem v = some i → W v (f x).agent) :
    Edits W T s₀ (setStatusAttribute s u i f) := by
  unfold UserManager.setStatusAttribute
  split
  · exact h.emit _
  · rename_i x hx
    exact (h.setItem i (f x) hx (huser x) (hf x)).emit _

/-- `setUserStatus`. An android that goes offline loses its agent at once. -/
theorem Edits.setUserStatus (h : Edits W T s₀ s) (hT : ∀ t, t.calm → T t) {u : Nat} {st : UserStatus} {tb c : Int}
    (hs : setUserStatus s u st tb c = some s')
    (hw : st = .usOffline → ∀ i x, s.userItem u = some i → s.items i = some x → x.isAndroid = true →
      ∀ v, s.userItem v = some i → W v 0) : Edits W T s₀ s' := by
  unfold UserManager.setUserStatus at hs
  cases hu : s.userItem u with
  | none =>
    rw [hu] at hs
    cases hs
    exact h
  | some i =>
    rw [hu] at hs
    dsimp only at hs
    rw [Option.map_eq_some_iff] at hs
    obtain ⟨x, hx, rfl⟩ := hs
    cases st with
    | usNull => exact (h.remove u).suspend _ (hT _ trivial)
    | usOffline =>
      dsimp only
      split
      · rename_i hand
        exact h.setStatusAttribute u i (fun _ => rfl) fun _ => Or.inr (hw rfl i x hu hx hand)
      · exact h.suspend _ (hT _ trivial)
    | usFree => exact h.setStatusAttribute u i (fun _ => rfl) fun _ => Or.inl rfl
    | usSit => exact h.setStatusAttribute u i (fun _ => rfl) fun _ => Or.inl rfl
    | usReady => exact h.setStatusAttribute u i (fun _ => rfl) fun _ => Or.inl rfl
    | usLookon => exact h.setStatusAttribute u i (fun _ => rfl) fun _ => Or.inl rfl
    | usPlaying => exact h.setStatusAttribute u i (fun _ => rfl) fun _ => Or.inl rfl

theorem Edits.setUserNull (h : Edits W T s₀ s) (hT : ∀ t, t.calm → T t) (u : Nat) : Edits W T s₀ (setUserNull s u) := by
  unfold UserManager.setUserNull
  cases hs : UserManager.setUserStatus s u .usNull invalidTable invalidChair with
  | none => exact h
  | some s' => exact h.setUserStatus hT hs (by simp)

theorem Edits.kickUser (h : Edits W T s₀ s) (hT : ∀ t, t.calm → T t) (u : Nat) (tableFound : Bool) :
    Edits W T s₀ (kickUser s u tableFound) := by
  unfold UserManager.kickUser
  split
  · exact h.suspend _ (hT _ trivial)
  · exact h.setUserNull hT u

/-- The client of a user is gone: the record is written, or the work on the disconnect waits. -/
theorem Edits.onEventClientDisconnect (h : Edits W T s₀ s) (hT : ∀ t, t.calm → T t) (u : Nat) (tableFound : Bool)
    (ht : ∀ x, s.attr u = some x → T (.disconnect x.userID)) :
    Edits W T s₀ (onEventClientDisconnect cfg s u tableFound) := by
  unfold UserManager.onEventClientDisconnect
  split
  · exact h
  · rename_i x hx
    split
    · split
      · exact h.suspend _ (ht x hx)
      · exact h
    · exact h.setUserNull hT u

/-- The record gets the new agent. -/
theorem Edits.switchAttribute (h : Edits W T s₀ s) (i agent : Nat) (deskCount : Int)
    (hw : s.items i ≠ none → ∀ u, s.userItem u = some i → W u agent) :
    Edits W T s₀ (switchAttribute s i agent deskCount) := by
  unfold UserManager.switchAttribute
  split
  · exact h
  · rename_i x hx
    exact h.setItem i _ hx rfl (Or.inr (hw (by simp [hx])))

/-- The record gets the new agent when the former one has been cleared. -/
theorem Edits.switchCleared (h : Edits W T s₀ s) (hT : ∀ t, t.calm → T t) (u i : Nat) (st : UserStatus)
    (tb c : Int) (agent : Nat) (deskCount : Int)
    (hw : ¬(st = .usOffline ∧ s.userItem u ≠ none) → s.items i ≠ none → ∀ v, s.userItem v = some i → W v agent) :
    Edits W T s₀ (switchCleared s u i st tb c agent deskCount) := by
  unfold UserManager.switchCleared
  split
  · cases hu : s.userItem u with
    | none => exact h.switchAttribute i agent deskCount (hw fun h => h.2 hu)
    | some j =>
      dsimp only
      cases hs : UserManager.setUserStatus s u .usPlaying tb c with
      | none => exact h
      | some s' => exact (h.setUserStatus hT hs (by simp)).suspend _ (hT _ trivial)
  · rename_i hst
    exact h.switchAttribute i agent deskCount (hw fun h => hst h.1)

/-- `cmd_switchUserItem` gives the user the new agent at once, or waits for the old one. -/
theorem Edits.switchUserItem (h : Edits W T s₀ s) (hT : ∀ t, t.calm → T t) (u agent : Nat) (deskCount : Int)
    (hw : ∀ i x, s.userItem u = some i → s.items i = some x → x.agent = 0 → x.userStatus ≠ .usOffline →
      ∀ v, s.userItem v = some i → W v agent) : Edits W T s₀ (switchUserItem s u agent deskCount) := by
  unfold UserManager.switchUserItem
  cases hu : s.userItem u with
  | none => exact h
  | some i =>
    dsimp only
    cases hx : s.items i with
    | none => exact h
    | some x =>
      dsimp only
      split
      · exact h.suspend _ (hT _ trivial)
      · rename_i ha
        refine h.switchCleared hT u i _ _ _ agent deskCount fun hst _ => ?_
        exact hw i x hu hx (not_ne_iff.1 ha) fun h => hst ⟨h, by simp [hu]⟩

end Handlers

/-! ## What edits leave alone -/

section Edits

variable {W : Nat → Nat → Prop} {T : Thread → Prop} {s s' : State}

/-- The handlers that wait stay, and the new ones are those the edits allow. -/
theorem Edits.suspended (h : Edits W T s s') : ∃ ts, s'.suspended = s.suspended ++ ts ∧ ∀ t ∈ ts, T t := by
  induction h with
  | refl => exact ⟨[], by simp, by simp⟩
  | emit _ _ ih => exact ih
  | suspend _ t ht ih =>
    obtain ⟨ts, hs, hts⟩ := ih
    refine ⟨ts ++ [t], by rw [State.suspend, hs, List.append_assoc], ?_⟩
    intro t' ht'
    rcases List.mem_append.1 ht' with ht' | ht'
    · exact hts t' ht'
    · rw [List.mem_singleton.1 ht']
      exact ht
  | setItem _ _ _ _ _ _ ih => exact ih
  | remove _ _ ih => exact ih

theorem Edits.buffer (h : Edits W T s s') : s'.buffer = s.buffer := by
  induction h with
  | refl => rfl
  | emit _ _ ih => exact ih
  | suspend _ _ _ ih => exact ih
  | setItem _ _ _ _ _ _ ih => exact ih
  | remove _ _ ih => exact ih

/-- A record stays the user's. -/
theorem Edits.record (h : Edits W T s s') {i : Nat} {x : Sui} (hx : s.items i = some x) :
    ∃ y, s'.items i = some y ∧ y.userID = x.userID := by
  induction h with
  | refl => exact ⟨x, hx, rfl⟩
  | emit _ _ ih => exact ih
  | suspend _ _ _ ih => exact ih
  | @setItem s' _ j x' y hx' huser _ ih =>
    obtain ⟨z, hz, hzu⟩ := ih
    by_cases hij : i = j
    · subst hij
      rw [hx', Option.some.injEq] at hz
      exact ⟨y, by simp [State.setItem], by rw [huser, hz, hzu]⟩
    · exact ⟨z, by simpa only [State.setItem, Function.update_of_ne hij] using hz, hzu⟩
  | remove _ _ ih => exact ih

end Edits

end SasyServer.UserManager
