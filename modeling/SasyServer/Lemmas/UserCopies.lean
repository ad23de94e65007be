import SasyServer.Lemmas.UserAgents

/-!
# Copies of references to the records of the user manager

A reference to a record is in the caches of the connections, in their requests, in messages to them, and in what the handlers
keep for `setCache`. A record is released only at the end of a logout, whoever has a copy.
-/

namespace SasyServer.UserManager

open TcpConnection (Agents Cache)

/-- The record a label releases. -/
def releases (s : State) : Label → Option Nat
  | .resume k _ _ =>
    s.suspended[k]?.bind fun
      | .release _ i => some i
      | _ => none
  | _ => none

/-- The cache a handler keeps that it will set. -/
def Local.cache : Local → Option Cache
  | .switch cache => some cache
  | _ => none

theorem cache_eq_some {t : Local} {c : Cache} : t.cache = some c ↔ t = .switch c := by
  cases t <;> simp [Local.cache]

/-- The copies of references to records. -/
def Served.copies (s : Served) : List Cache := s.agents.copies ++ s.locals.filterMap Local.cache ++ s.entering

/-- The condition on a label in the state in which it is taken: no record is released of which there is a copy. -/
def releaseSafe (s : Served) : ServedLabel → Bool
  | .manager l => (releases s.manager l).all fun i => s.copies.all fun c => c.sui ≠ some i
  | _ => true

/-- The record is in use, and the user's. -/
def Owned (s : State) (u i : Nat) : Prop := s.buffer.InUse i ∧ ∃ x, s.items i = some x ∧ x.userID = u

/-- A label leaves a record to its user, unless it releases it. -/
theorem owned_step {cfg : ServerConfig} {s s' : State} (h : Records [] s) (l : Label)
    (hs : step cfg s l = some s') {u i : Nat} (ho : Owned s u i) (hnot : releases s l ≠ some i) :
    Owned s' u i := by
  obtain ⟨huse, x, hx, rfl⟩ := ho
  obtain he | ⟨userInfo, kick, -, rfl⟩ | ⟨k, ok, tableFound, v, j, rfl, hk, rfl⟩ := step_cases l hs
  · refine ⟨he.buffer.symm ▸ huse, ?_⟩
    exact he.record (s := s.waked l) hx
  · obtain ⟨-, hfree, hin⟩ := CItemBuffer.allocate_spec h.wf
    have hne : i ≠ s.buffer.allocate.1 := fun hi => hfree (hi ▸ huse)
    refine ⟨(hin i).2 (Or.inr huse), x, ?_, rfl⟩
    simpa only [insertNew, State.suspend, State.waked, Function.update_of_ne hne] using hx
  · have hne : i ≠ j := by
      rintro rfl
      exact hnot (by simp [releases, hk])
    have hj : j ∈ held [] s := by
      refine List.mem_append_left _ (List.mem_append_right _ ?_)
      exact List.mem_filterMap.2 ⟨_, List.mem_of_getElem? hk, rfl⟩
    obtain ⟨-, hin⟩ := CItemBuffer.release_spec h.wf (h.inUse j hj).1
    refine ⟨(hin i).2 ⟨hne, huse⟩, x, ?_, rfl⟩
    simpa only [State.setItem, State.waked, Function.update_of_ne hne] using hx

/-- Every copy is that of a record in use which is its user's. -/
structure CopyInv (s : Served) : Prop where
  records : Records [] s.manager
  own : ∀ u x, s.manager.attr u = some x → x.userID = u
  copies : ∀ c ∈ s.copies, ∀ i, c.sui = some i → Owned s.manager c.userID i

theorem copyInv_init : CopyInv Served.init :=
  ⟨records_init, by simp [Served.init, State.init, State.attr, State.userItem],
    by simp [Served.init, Served.copies, Agents.init, Agents.copies]⟩

section Run

variable {cfg : ServerConfig} {s s' : Served}

theorem cacheOf_exits (s s' : State) : (exits s s').filterMap Agents.cacheOf = [] := by
  rw [List.filterMap_eq_nil_iff]
  intro m hm
  simp only [exits, List.mem_filterMap, Option.bind_eq_some_iff, Option.ite_none_right_eq_some, Option.some.injEq] at hm
  obtain ⟨p, -, x, -, -, rfl⟩ := hm
  rfl

/-- The calls that clear an agent carry no cache. -/
theorem cacheOf_clearCalls (s : State) (ts : List Thread) : (clearCalls s ts).filterMap Agents.cacheOf = [] := by
  rw [List.filterMap_eq_nil_iff]
  intro m hm
  simp only [clearCalls, List.mem_filterMap] at hm
  obtain ⟨t, -, hm⟩ := hm
  split at hm
  · rw [Option.map_eq_some_iff] at hm
    obtain ⟨x, -, rfl⟩ := hm
    rfl
  · cases hm

/-- The record `_userItemHash` has for a user is the user's. -/
theorem CopyInv.owned_userItem (h : CopyInv s) {u i : Nat} (hu : s.manager.userItem u = some i) : Owned s.manager u i := by
  obtain ⟨huse, hi⟩ := h.records.inUse i (mem_held_of_userItem hu)
  obtain ⟨x, hx⟩ := Option.isSome_iff_exists.1 hi
  exact ⟨huse, x, hx, h.own u x (attr_eq_some.2 ⟨i, hu, hx⟩)⟩

/-- A copy that a label makes of no other copy. -/
def Fresh (s : Served) (l : Label) (c : Cache) : Prop :=
  releases s.manager l = none ∧ ∀ i, c.sui = some i → Owned s.manager c.userID i

/-- The cache that a switch sends is of the record the user has. -/
theorem CopyInv.fresh_switchCall (h : CopyInv s) {l : Label} {c : Cache}
    (hc : switchCall s.manager l = some c) : Fresh s l c := by
  cases l with
  | switchUserItem u agent deskCount =>
    simp only [switchCall, Option.map_eq_some_iff] at hc
    obtain ⟨j, hj, rfl⟩ := hc
    refine ⟨rfl, ?_⟩
    rintro i ⟨⟩
    exact h.owned_userItem hj
  | _ => cases hc

theorem mem_copies_of_local {k : Nat} {c : Cache} (h : s.locals[k]? = some (.switch c)) : c ∈ s.copies := by
  refine List.mem_append_left _ (List.mem_append_right _ ?_)
  exact List.mem_filterMap.2 ⟨_, List.mem_of_getElem? h, rfl⟩

/-- What `cmd_switchUserItem` passes to `setCache`. -/
theorem CopyInv.switchCache (h : CopyInv s) {l : Label} {c : Cache} (hc : switchCache s l = some c) : c ∈ s.copies ∨
    Fresh s l c := by
  simp only [UserManager.switchCache, Option.bind_eq_some_iff] at hc
  obtain ⟨p, -, hc⟩ := hc
  split at hc
  · rw [Option.bind_eq_some_iff] at hc
    obtain ⟨t, ht, hc⟩ := hc
    split at hc
    · cases hc
      exact Or.inl (mem_copies_of_local ht)
    · cases hc
  · exact Or.inr (h.fresh_switchCall hc)

/-- What a handler keeps that begins to wait. -/
theorem CopyInv.newLocal (h : CopyInv s) {l : Label} {event : Option Nat} {t : Thread} {c : Cache}
    (hc : newLocal s l event t = .switch c) : c ∈ s.copies ∨ Fresh s l c := by
  have hcall : (switchCall s.manager l).elim .other .switch = Local.switch c → Fresh s l c := by
    intro hcall
    cases hl : switchCall s.manager l with
    | none =>
      rw [hl] at hcall
      cases hcall
    | some c' =>
      rw [hl] at hcall
      cases hcall
      exact h.fresh_switchCall hl
  unfold UserManager.newLocal at hc
  split at hc
  · split at hc
    · cases hc
    · cases hc
  · exact Or.inr (hcall hc)
  · split at hc
    · rename_i k _ _
      cases hk : s.locals[k]? with
      | none =>
        rw [hk] at hc
        cases hc
      | some t' =>
        rw [hk] at hc
        cases hc
        exact Or.inl (mem_copies_of_local hk)
    · exact Or.inr (hcall hc)
  · cases event with
    | none => cases hc
    | some a => cases hc
  · cases hc

/-- What `cmd_insertUserItem` will pass to `setCache`. -/
theorem CopyInv.enters (h : CopyInv s) {l : Label} {c : Cache} (hc : enters s l = some c) : Fresh s l c := by
  unfold UserManager.enters at hc
  split at hc
  · split at hc
    · rename_i k _ _ _ _ _ _ hk _
      rw [Option.map_eq_some_iff] at hc
      obtain ⟨j, hj, rfl⟩ := hc
      refine ⟨by simp [releases, hk], ?_⟩
      rintro i ⟨⟩
      exact h.owned_userItem hj
    · cases hc
  · cases hc

/-- A handler of the manager, under the condition. -/
theorem CopyInv.serve (h : CopyInv s) {l : Label} {event : Option Nat}
    (hc : ∀ i, releases s.manager l = some i → ∀ c ∈ s.copies, c.sui ≠ some i) (hs : s.serve cfg l event = some s') :
    CopyInv s' := by
  simp only [Served.serve, Option.map_eq_some_iff] at hs
  obtain ⟨m, hm, rfl⟩ := hs
  refine ⟨h.records.step l hm, ?_, ?_⟩
  · intro u y hy
    rcases follows_step h.records l hm u y hy with ⟨x, hx, hu, -⟩ | ⟨hu, -⟩
    · rw [hu]
      exact h.own u x hx
    · exact hu
  · intro c hcopy i hi
    have hcopy : c ∈ s.copies ∨ Fresh s l c := by
      simp only [Served.copies, Agents.copies_send, List.filterMap_append, cacheOf_exits, cacheOf_clearCalls,
        Agents.cacheOf_setCache, List.nil_append, List.mem_append, Option.mem_toList, List.mem_filterMap,
          List.mem_map] at hcopy
      rcases hcopy with ((hcopy | hcopy) | ⟨t, ht, hcopy⟩ | ⟨-, ⟨t, -, rfl⟩, hcopy⟩) | hcopy | hcopy
      · exact Or.inl (List.mem_append_left _ (List.mem_append_left _ hcopy))
      · exact h.switchCache hcopy
      · refine Or.inl (List.mem_append_left _ (List.mem_append_right _ ?_))
        exact List.mem_filterMap.2 ⟨t, (leftover_sublist _ l).subset ht, hcopy⟩
      · exact h.newLocal (cache_eq_some.1 hcopy)
      · exact Or.inl (List.mem_append_right _ hcopy)
      · exact Or.inr (h.enters hcopy)
    rcases hcopy with hcopy | ⟨hnone, howned⟩
    · exact owned_step h.records l hm (h.copies c hcopy i hi) fun hrel => hc i hrel c hcopy hi
    · exact owned_step h.records l hm (howned i hi) (by simp [hnone])

/-- What the connections do to their copies, and what becomes of an insertion. -/
theorem CopyInv.agents (h : CopyInv s) (agents : Agents Thread) {entering : List Cache}
    (hcopies : ∀ c ∈ agents.copies, c ∈ s.agents.copies ∨ c ∈ s.entering) (hentering : entering.Sublist s.entering) :
    CopyInv ⟨s.manager, s.locals, agents, entering⟩ := by
  refine ⟨h.records, h.own, ?_⟩
  intro c hc
  refine h.copies c ?_
  simp only [Served.copies, List.mem_append] at hc ⊢
  rcases hc with (hc | hc) | hc
  · rcases hcopies c hc with hc | hc
    · exact Or.inl (Or.inl hc)
    · exact Or.inr hc
  · exact Or.inl (Or.inr hc)
  · exact Or.inr (hentering.subset hc)

/-- One label keeps the invariant, under the condition. -/
theorem CopyInv.step (h : CopyInv s) {l : ServedLabel} (hc : releaseSafe s l)
    (hs : servedStep cfg s l = some s') : CopyInv s' := by
  cases l with
  | manager l =>
    obtain ⟨-, agents, -, hcopies, hs⟩ := servedStep_manager hs
    refine (h.agents agents (fun c hc => Or.inl (hcopies ▸ hc)) (List.Sublist.refl _)).serve ?_ hs
    intro i hi c hcopy
    have hi : releases s.manager l = some i := hi
    have hcopy : c ∈ s.copies := by
      simp only [Served.copies, List.mem_append, hcopies] at hcopy ⊢
      exact hcopy
    simp only [releaseSafe, hi, Option.all_some, List.all_eq_true, decide_eq_true_eq] at hc
    exact hc c hcopy
  | disconnect k tableFound =>
    simp only [servedStep, Option.bind_eq_some_iff] at hs
    obtain ⟨p, -, hs⟩ := hs
    refine (h.agents { s.agents with events := s.agents.events.eraseIdx k } (fun c hc => Or.inl hc)
      (List.Sublist.refl _)).serve
      (l := .clientDisconnect p.1 tableFound) ?_ hs
    simp [releases]
  | inserted k =>
    simp only [servedStep, Option.map_eq_some_iff] at hs
    obtain ⟨c, hk, rfl⟩ := hs
    refine h.agents (s.agents.send [.setCache c]) ?_ (List.eraseIdx_sublist ..)
    intro c' hc'
    rw [Agents.copies_send, List.mem_append] at hc'
    refine hc'.imp_right fun hc' => ?_
    rw [List.mem_singleton.1 hc']
    exact List.mem_of_getElem? hk
  | notInserted k =>
    simp only [servedStep, Option.map_eq_some_iff] at hs
    obtain ⟨c, -, rfl⟩ := hs
    exact h.agents s.agents (fun c hc => Or.inl hc) (List.eraseIdx_sublist ..)
  | agents l =>
    simp only [servedStep, Option.map_eq_some_iff] at hs
    obtain ⟨agents, hstep, rfl⟩ := hs
    exact h.agents agents (fun c hc => Or.inl (Agents.copies_step hstep hc)) (List.Sublist.refl _)

end Run

end SasyServer.UserManager
