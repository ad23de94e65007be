import SasyServer.Lemmas.SessionAgents

/-!
# Which records the session manager releases

An item keeps its record until a sweep releases it: the sweep over the items of a game server, or the one over the expired
items. `mayRelease` reads off the state which records a label may release, and every other item keeps its record (`Retains`).
-/

namespace SasyServer.Session

variable {account : Nat → Nat}

/-- The record is that of a session without an agent on the game server. -/
def swept (serverID : Nat) (s : State) (order : List String) (r : Nat) : Bool :=
  order.any fun k => (s.session k).any fun i =>
    (s.items i).sui = some r ∧ (s.sui r).serverID = serverID ∧ (s.sui r).agent = 0

/-- The record is that of a session which has expired. -/
def expired (s : State) (order : List String) (r : Nat) : Bool :=
  order.any fun k => (s.session k).any fun i =>
    (s.items i).sui = some r ∧ recordExpired s i ∧ (s.sui r).userStatus = .usNull

/-- The records a label may release. -/
def mayRelease (s : State) (l : Label) (r : Nat) : Bool :=
  match l with
  | .gameServerDisconnect serverID order => swept serverID s order r
  | .cleanExpiredInfo order => expired s order r
  | .resume k order =>
    s.suspended[k]?.any fun
      | .gameServerDisconnect serverID i _ _ => (s.items i).sui = some r ∨ swept serverID s order r
      | _ => false
  | _ => false

/-- The items stay what they are, and keep their records, but for those in `R`. -/
structure Retains (R : Nat → Prop) (s s' : State) : Prop where
  item : ∀ i, i < s.itemCount → i < s'.itemCount ∧ (s'.items i).platformID = (s.items i).platformID
  record : ∀ i r, (s.items i).sui = some r → R r ∨ (s'.items i).sui = some r

section Retains

variable {R : Nat → Prop} {s s' s'' : State}

theorem Retains.same (hi : s'.items = s.items) (hc : s'.itemCount = s.itemCount) : Retains R s s' :=
  ⟨fun i h => by rw [hc, hi]; exact ⟨h, rfl⟩, fun i r h => by rw [hi]; exact Or.inr h⟩

theorem Retains.refl (s : State) : Retains R s s := .same rfl rfl

/-- One after the other. -/
theorem Retains.trans (h : Retains R s s') (h' : Retains R s' s'') : Retains R s s'' := by
  refine ⟨?_, ?_⟩
  · intro i hi
    obtain ⟨h1, h2⟩ := h.item i hi
    obtain ⟨h3, h4⟩ := h'.item i h1
    exact ⟨h3, h4.trans h2⟩
  · intro i r hr
    rcases h.record i r hr with hr | hr
    · exact Or.inl hr
    · exact h'.record i r hr

theorem Retains.mono {R' : Nat → Prop} (h : Retains R s s') (hR : ∀ r, R r → R' r) : Retains R' s s' :=
  ⟨h.item, fun i r hr => (h.record i r hr).imp_left (hR r)⟩

/-- The handler has changed no item before. -/
theorem Retains.since (h : Retains R s' s'') (hi : s'.items = s.items) (hc : s'.itemCount = s.itemCount) : Retains R s s'' :=
  (Retains.same hi hc).trans h

/-- A change that keeps the items and their records. -/
theorem Quiet.retains (h : Quiet s s') : Retains R s s' := by
  refine ⟨?_, ?_⟩
  · intro i hi
    rw [h.itemCount]
    exact ⟨hi, (h.item i).2.2⟩
  · intro i r hr
    rw [(h.item i).1]
    exact Or.inr hr

theorem Edits.retains {G : Nat → Nat → Prop} {T : Thread → Prop} (h : Edits G T s s') : Retains R s s' := h.quiet.retains

/-- The record of an item goes back to the pool. -/
theorem retains_releaseSui (s : State) {i r : Nat} (hi : (s.items i).sui = some r) (u : Nat) :
    Retains (· = r) s (releaseSui s i r u) := by
  refine ⟨?_, ?_⟩
  · intro j hj
    refine ⟨hj, ?_⟩
    by_cases hji : j = i
    · subst hji
      simp only [releaseSui, State.setItem, Function.update_self]
    · simp only [releaseSui, State.setItem, Function.update_of_ne hji]
  · intro j x hx
    by_cases hji : j = i
    · subst hji
      rw [hi, Option.some.injEq] at hx
      exact Or.inl hx.symm
    · simp only [releaseSui, State.setItem, Function.update_of_ne hji]
      exact Or.inr hx

/-- The record had gone before. -/
theorem retains_forgetUser (s : State) (i u : Nat) : Retains R s (forgetUser s i u) := by
  refine ⟨?_, ?_⟩
  · intro j hj
    exact ⟨hj, field_setItem Item.platformID rfl j⟩
  · intro j r hr
    refine Or.inr ?_
    rw [forgetUser, field_setItem Item.sui rfl]
    exact hr

theorem retains_cleanSession (s : State) (i : Nat) : Retains R s (cleanSession s i) := by
  unfold cleanSession
  split
  · exact .same rfl rfl
  · exact .refl s

/-- `cmd_registerSession` renames an item or makes one. -/
theorem retains_registerSession (s : State) (name : String) (p : Nat) (h : WF account s) :
    Retains R s (registerSession s name p) := by
  unfold registerSession
  split
  · rename_i i hp
    refine Retains.trans ?_
      (Edits.kickOld (G := fun _ _ => True) (T := fun _ => True) (.refl _) i fun _ _ _ _ _ => trivial).retains
    refine ⟨?_, ?_⟩
    · intro j hj
      exact ⟨hj, field_setItem Item.platformID rfl j⟩
    · intro j r hr
      right
      rw [field_setItem Item.sui rfl]
      exact hr
  · refine ⟨?_, ?_⟩
    · intro j hj
      refine ⟨Nat.lt_succ_of_lt hj, ?_⟩
      simp only [Function.update_of_ne (Nat.ne_of_lt hj)]
    · intro j r hr
      have hj : j ≠ s.itemCount := by
        rintro rfl
        rw [fresh_sui h] at hr
        cases hr
      simp only [Function.update_of_ne hj]
      exact Or.inr hr

/-- A user gets a record only for an item without one. -/
theorem retains_registerUser (s : State) (p u agent : Nat) : Retains R s (registerUser s p u agent) := by
  unfold registerUser
  split
  · exact .same rfl rfl
  · rename_i i _
    split
    · exact .same rfl rfl
    · rename_i hnone
      refine ⟨?_, ?_⟩
      · intro j hj
        refine ⟨hj, ?_⟩
        by_cases hji : j = i
        · subst hji
          simp only [State.setItem, Function.update_self]
        · simp only [State.setItem, Function.update_of_ne hji]
      · intro j r hr
        have hji : j ≠ i := by
          rintro rfl
          exact hnone (by simp [hr])
        simp only [State.setItem, Function.update_of_ne hji]
        exact Or.inr hr

end Retains

/-! ## The sweeps -/

/-- The sessions and the records of `s'` are among those of `s`. -/
structure Shrinks (s s' : State) : Prop where
  session : ∀ k i, s'.session k = some i → s.session k = some i
  record : ∀ i r, (s'.items i).sui = some r →
    (s.items i).sui = some r ∧ s'.sui r = s.sui r ∧ (s'.items i).suiActiveTS = (s.items i).suiActiveTS
  now : s'.now = s.now

section Sweeps

variable {s s' s'' : State}

theorem Shrinks.refl (s : State) : Shrinks s s := ⟨fun _ _ h => h, fun _ _ h => ⟨h, rfl, rfl⟩, rfl⟩

theorem Shrinks.trans (h : Shrinks s s') (h' : Shrinks s' s'') : Shrinks s s'' := by
  refine ⟨fun k i hk => h.session k i (h'.session k i hk), ?_, h'.now.trans h.now⟩
  intro i r hr
  obtain ⟨h1, h2, h3⟩ := h'.record i r hr
  obtain ⟨h4, h5, h6⟩ := h.record i r h1
  exact ⟨h4, h2.trans h5, h3.trans h6⟩

/-- A record goes back to the pool, and no other item has it. -/
theorem shrinks_releaseSui (h : WF account s) {i r : Nat} (hi : (s.items i).sui = some r) (u : Nat) :
    Shrinks s (releaseSui s i r u) := by
  refine ⟨fun _ _ hk => hk, ?_, rfl⟩
  intro j x hx
  have hji : j ≠ i := by
    rintro rfl
    simp [releaseSui, State.setItem] at hx
  simp only [releaseSui, State.setItem, Function.update_of_ne hji] at hx
  have hxr : x ≠ r := by
    rintro rfl
    exact hji (h.inj j i x hx hi)
  simp only [releaseSui, State.setItem, Function.update_of_ne hji, Function.update_of_ne hxr, and_true]
  exact hx

/-- A user without a record leaves the index. -/
theorem shrinks_forgetUser {i : Nat} (hi : (s.items i).sui = none) (u : Nat) : Shrinks s (forgetUser s i u) := by
  refine ⟨fun _ _ hk => hk, ?_, rfl⟩
  intro j x hx
  rw [forgetUser, field_setItem Item.sui rfl] at hx
  have hji : j ≠ i := by
    rintro rfl
    rw [hi] at hx
    cases hx
  refine ⟨hx, rfl, ?_⟩
  simp only [forgetUser, State.setItem, Function.update_of_ne hji]

/-- The session of an item leaves the index. -/
theorem shrinks_cleanSession (s : State) (i : Nat) : Shrinks s (cleanSession s i) := by
  unfold cleanSession
  split
  · refine ⟨?_, ?_, rfl⟩
    · intro k j hk
      simp only [Function.update_apply] at hk
      split at hk
      · cases hk
      · exact hk
    · intro j r hr
      exact ⟨hr, rfl, rfl⟩
  · exact .refl s

/-- What is swept later in a loop was to be swept at its start. -/
theorem Shrinks.swept (h : Shrinks s s') {serverID : Nat} {order order' : List String} {r : Nat} (hsub : order ⊆ order')
    (hr : swept serverID s' order r) : swept serverID s order' r := by
  simp only [Session.swept, List.any_eq_true, Option.any_eq_true, decide_eq_true_eq] at hr ⊢
  obtain ⟨k', hk', i, hi, hr, hserver, hagent⟩ := hr
  obtain ⟨h1, h2, -⟩ := h.record i r hr
  exact ⟨k', hsub hk', i, h.session k' i hi, h1, h2 ▸ hserver, h2 ▸ hagent⟩

theorem Shrinks.expired (h : Shrinks s s') {order order' : List String} {r : Nat} (hsub : order ⊆ order')
    (hr : expired s' order r) : expired s order' r := by
  simp only [Session.expired, List.any_eq_true, Option.any_eq_true, decide_eq_true_eq] at hr ⊢
  obtain ⟨k', hk', i, hi, hr, hexp, hst⟩ := hr
  obtain ⟨h1, h2, h3⟩ := h.record i r hr
  refine ⟨k', hsub hk', i, h.session k' i hi, h1, ?_, h2 ▸ hst⟩
  simpa only [recordExpired, h3, h.now] using hexp

/-- The loop over the items of a game server. -/
theorem retains_disconnectLoop (h : WF account s) (serverID : Nat) (order : List String) :
    Retains (fun r => swept serverID s order r) s (disconnectLoop serverID s order) := by
  induction order generalizing s with
  | nil => exact .refl s
  | cons k order ih =>
    have hskip := (ih h).mono fun r => (Shrinks.refl s).swept (List.subset_cons_self k order)
    unfold disconnectLoop
    split
    · exact hskip
    · rename_i i hk
      split
      · exact hskip
      · rename_i r hr
        split
        · rename_i hserver
          split
          · exact .same rfl rfl
          · rename_i hagent
            have hnow : swept serverID s (k :: order) r := by
              simp [swept, hk, hr, hserver, not_ne_iff.1 hagent]
            have hrel := (retains_releaseSui s hr (s.sui r).userID).mono fun x hx => hx ▸ hnow
            have hshrinks := shrinks_releaseSui h hr (s.sui r).userID
            exact hrel.trans ((ih (acts_releaseSui h hr _).wf).mono fun x => hshrinks.swept (List.subset_cons_self k order))
        · exact hskip

/-- The loop of `cleanExpiredInfo`. -/
theorem retains_cleanLoop (h : WF account s) (order : List String) :
    Retains (fun r => expired s order r) s (cleanLoop s order) := by
  induction order generalizing s with
  | nil => exact .refl s
  | cons k order ih =>
    unfold cleanLoop
    split
    · exact (ih h).mono fun r => (Shrinks.refl s).expired (List.subset_cons_self k order)
    · rename_i i hk
      have hclean := (retains_cleanSession s i).trans
        ((ih (acts_cleanSession h hk).wf).mono fun r => (shrinks_cleanSession s i).expired (List.subset_cons_self k order))
      split
      · exact hclean
      · rename_i r hr
        split
        · rename_i hexp
          split
          · exact .same rfl rfl
          · rename_i hst
            have hnow : expired s (k :: order) r := by
              simp [expired, hk, hr, hexp, not_ne_iff.1 hst]
            have hwf := (acts_releaseSui h hr (s.sui r).userID).wf
            have hrel := (retains_releaseSui s hr (s.sui r).userID).mono fun x hx => hx ▸ hnow
            have hshrinks := (shrinks_releaseSui h hr (s.sui r).userID).trans (shrinks_cleanSession _ i)
            refine (hrel.trans (retains_cleanSession _ i)).trans ?_
            exact (ih (acts_cleanSession hwf hk).wf).mono fun x => hshrinks.expired (List.subset_cons_self k order)
        · exact hclean

end Sweeps

/-- One label keeps every record it may not release. -/
theorem retains_step {s s' : State} (h : WF account s) (l : Label) (hs : step account s l = some s') :
    Retains (fun r => mayRelease s l r) s s' := by
  have hedits : ∀ {s'}, Edits (fun _ _ => True) (fun _ => True) s s' → Retains (fun r => mayRelease s l r) s s' :=
    fun h => h.retains
  cases l with
  | registerSession name p => cases hs; exact retains_registerSession s name p h
  | getUserItemByPlatformID p u => cases hs; exact hedits (edits_getUserItemByPlatformID p u)
  | switchUserItem p a => cases hs; exact hedits (edits_switchUserItem p a (fun _ _ _ _ _ => trivial) fun _ _ _ _ => trivial)
  | registerUser p a => cases hs; exact retains_registerUser s p _ a
  | gsLogin name k n srv => cases hs; exact hedits (edits_gsLogin name k n srv)
  | gsLogout u k n srv b => cases hs; exact hedits (edits_gsLogout u k n srv b fun _ _ => trivial)
  | gsOffline u k n srv => cases hs; exact hedits (edits_gsOffline u k n srv)
  | clientDisconnect u => cases hs; exact hedits (edits_onEventClientDisconnect u)
  | gameServerDisconnect serverID order =>
    cases hs
    have hloop := retains_disconnectLoop (h.emit (.gameServerDisconnect serverID)) serverID order
    exact Retains.since (s := s) hloop rfl rfl
  | cleanExpiredInfo order => cases hs; exact retains_cleanLoop h order
  | tick n => cases hs; exact .same rfl rfl
  | resume k order =>
    simp only [Session.step, Option.map_eq_some_iff] at hs
    obtain ⟨t, ht, rfl⟩ := hs
    have hedits' : ∀ {s'}, Edits (fun _ _ => True) (fun _ => True) { s with suspended := s.suspended.eraseIdx k } s' →
        Retains (fun r => mayRelease s (.resume k order) r) s s' := fun h => h.retains.since rfl rfl
    cases t with
    | kickLS i agent seen new kick =>
      exact hedits' (((Edits.refl _).emit _).kickLSWrite i (fun _ => ⟨rfl, Or.inr (Or.inr trivial)⟩) kick)
    | switchUserItem i agent seen new newAgent =>
      exact hedits' (((Edits.refl _).emit _).switchWrite i new newAgent fun _ _ => trivial)
    | gsLogout i new => exact hedits' ((Edits.refl _).gsLogoutStamp i new)
    | gameServerDisconnect serverID i agent u =>
      have hwf : WF account (State.emit { s with suspended := s.suspended.eraseIdx k } (.kickAgent agent)) :=
        (h.setSuspended _).emit _
      have hmay : ∀ r, mayRelease s (.resume k order) r ↔ (s.items i).sui = some r ∨ swept serverID s order r := by
        simp [mayRelease, ht]
      simp only [resumeThread, disconnectResume]
      split
      · rename_i hr
        have hloop := (retains_disconnectLoop (acts_forgetUser hwf i u).wf serverID order).mono fun x hx =>
          (hmay x).2 (Or.inr ((shrinks_forgetUser hr u).swept (List.Subset.refl order) hx))
        exact ((retains_forgetUser _ i u).trans hloop).since rfl rfl
      · rename_i r hr
        have hrel := (retains_releaseSui _ hr u).mono fun x hx => (hmay x).2 (Or.inl (hx ▸ hr))
        have hloop := (retains_disconnectLoop (acts_releaseSui hwf hr u).wf serverID order).mono fun x hx =>
          (hmay x).2 (Or.inr ((shrinks_releaseSui hwf hr u).swept (List.Subset.refl order) hx))
        exact (hrel.trans hloop).since rfl rfl
  | abort k =>
    simp only [Session.step, Option.bind_eq_some_iff, Option.ite_none_right_eq_some, Option.some.injEq] at hs
    obtain ⟨t, -, -, rfl⟩ := hs
    exact .same rfl rfl

/-! ## Copies of references to records -/

/-- The record is that of an item, and the user's. -/
def Owned (s : State) (u r : Nat) : Prop := ∃ i, (s.items i).sui = some r ∧ (s.sui r).userID = u

/-- The condition on a label in the state in which it is taken: no record is released of which there is a copy. -/
def releaseSafe (s : Served) : ServedLabel → Bool
  | .manager l => s.agents.copies.all fun c => c.sui.all fun r => !mayRelease s.manager l r
  | _ => true

/-- Every copy is that of a record of its user, and the logins that will make one know their items. -/
structure CopyInv (account : Nat → Nat) (s : Served) : Prop where
  wf : WF account s.manager
  entering : ∀ e ∈ s.entering, e.item < s.manager.itemCount ∧ account (s.manager.items e.item).platformID = e.userID
  copies : ∀ c ∈ s.agents.copies, ∀ r, c.sui = some r → Owned s.manager c.userID r

theorem copyInv_init : CopyInv account .init :=
  ⟨wf_init, by simp [Served.init], by simp [Served.init, TcpConnection.Agents.init, TcpConnection.Agents.copies]⟩

section Run

variable {s s' : Served}

theorem Owned.retains {s s' : State} {R : Nat → Prop} {u r : Nat} (ho : Owned s u r) (h : WF account s) (h' : WF account s')
    (hr : Retains R s s') (hnot : ¬R r) : Owned s' u r := by
  obtain ⟨i, hi, rfl⟩ := ho
  have hi' := (hr.record i r hi).resolve_left hnot
  refine ⟨i, hi', ?_⟩
  rw [h'.user i r hi', (hr.item i (h.platform _ i (h.indexed i r hi)).2).2, h.user i r hi]

/-- The copy that `cmd_registerUser` sends is that of the new record. -/
theorem owned_registered {s s' : State} {l : Label} {c : TcpConnection.Cache} (hl : registered account s l = some c)
    (hs : step account s l = some s') {r : Nat} (hr : c.sui = some r) : Owned s' c.userID r := by
  cases l with
  | registerUser p agent =>
    simp only [registered, Option.bind_eq_some_iff, Option.ite_none_left_eq_some, Option.some.injEq] at hl
    obtain ⟨i, hi, hnone, rfl⟩ := hl
    cases hr
    cases hs
    refine ⟨i, ?_⟩
    simp [registerUser, hi, hnone, State.setItem]
  | _ => cases hl

/-- A login that goes on to `cmd_loadUserData` knows an item. -/
theorem enters_item {s : State} (h : WF account s) {l : Label} {e : Entering} (he : e ∈ enters s l) :
    e.item < s.itemCount ∧ account (s.items e.item).platformID = e.userID := by
  simp only [enters, Option.mem_toList, Option.bind_eq_some_iff, Option.map_eq_some_iff] at he
  obtain ⟨⟨i, agent⟩, -, x, hx, rfl⟩ := he
  obtain ⟨r, hr, rfl⟩ := exists_record hx
  exact ⟨(h.platform _ i (h.indexed i r hr)).2, (h.user i r hr).symm⟩

theorem cacheOf_clearCalls (n : Nat) (s : State) : (clearCalls n s).filterMap TcpConnection.Agents.cacheOf = [] := by
  rw [List.filterMap_eq_nil_iff]
  intro m hm
  simp only [clearCalls, List.mem_filterMap, Option.map_eq_some_iff] at hm
  obtain ⟨t, -, agent, -, rfl⟩ := hm
  rfl

/-- A handler of the manager, under the condition. -/
theorem CopyInv.serve (h : CopyInv account s) {l : Label}
    (hc : ∀ c ∈ s.agents.copies, ∀ r, c.sui = some r → ¬mayRelease s.manager l r) (hs : s.serve account l = some s') :
    CopyInv account s' := by
  simp only [Served.serve, Option.map_eq_some_iff] at hs
  obtain ⟨m, hm, rfl⟩ := hs
  have hwf := h.wf.step l hm
  have hretains := retains_step h.wf l hm
  refine ⟨hwf, ?_, ?_⟩
  · intro e he
    have he : e.item < s.manager.itemCount ∧ account (s.manager.items e.item).platformID = e.userID := by
      rcases List.mem_append.1 he with he | he
      · exact h.entering e he
      · exact enters_item h.wf he
    obtain ⟨h1, h2⟩ := hretains.item e.item he.1
    exact ⟨h1, (congrArg account h2).trans he.2⟩
  · intro c hcopy r hr
    rw [TcpConnection.Agents.copies_send, List.mem_append] at hcopy
    rcases hcopy with hcopy | hcopy
    · exact (h.copies c hcopy r hr).retains h.wf hwf hretains (hc c hcopy r hr)
    · rw [List.filterMap_append, cacheOf_clearCalls, TcpConnection.Agents.cacheOf_setCache, List.nil_append,
        Option.mem_toList] at hcopy
      exact owned_registered hcopy hm hr

/-- What the connections do to their copies. -/
theorem CopyInv.agents (h : CopyInv account s) (agents : TcpConnection.Agents Thread)
    (hcopies : ∀ c ∈ agents.copies, c ∈ s.agents.copies ∨ ∀ r, c.sui = some r → Owned s.manager c.userID r)
    {entering : List Entering} (hentering : entering.Sublist s.entering) :
    CopyInv account ⟨s.manager, agents, entering⟩ := by
  refine ⟨h.wf, fun e he => h.entering e (hentering.subset he), ?_⟩
  intro c hc
  rcases hcopies c hc with hc | hc
  · exact h.copies c hc
  · exact hc

/-- One label keeps the invariant, under the condition. -/
theorem CopyInv.step (h : CopyInv account s) {l : ServedLabel} (hc : releaseSafe s l)
    (hs : servedStep account s l = some s') :
    CopyInv account s' := by
  cases l with
  | manager l =>
    obtain ⟨-, agents, -, hcopies, hs⟩ := servedStep_manager hs
    refine (h.agents agents (fun c hc => Or.inl (hcopies ▸ hc)) (List.Sublist.refl _)).serve ?_ hs
    intro c hcopy r hr
    simp only [releaseSafe, List.all_eq_true] at hc
    have := hc c (hcopies ▸ hcopy)
    simpa [hr] using this
  | disconnect k =>
    simp only [servedStep, Option.bind_eq_some_iff] at hs
    obtain ⟨p, -, hs⟩ := hs
    refine (h.agents { s.agents with events := s.agents.events.eraseIdx k } (fun c hc => Or.inl hc)
      (List.Sublist.refl _)).serve
      (l := .clientDisconnect p.1) ?_ hs
    simp [mayRelease]
  | loaded k =>
    simp only [servedStep, Option.map_eq_some_iff] at hs
    obtain ⟨e, he, rfl⟩ := hs
    refine h.agents _ ?_ (List.eraseIdx_sublist ..)
    intro c hc
    rw [TcpConnection.Agents.copies_send, List.mem_append] at hc
    refine hc.imp_right ?_
    intro hc r hr
    cases List.mem_singleton.1 hc
    obtain ⟨-, hu⟩ := h.entering e (List.mem_of_getElem? he)
    exact ⟨e.item, hr, (h.wf.user _ r hr).trans hu⟩
  | notLoaded k =>
    simp only [servedStep, Option.map_eq_some_iff] at hs
    obtain ⟨e, -, rfl⟩ := hs
    exact h.agents s.agents (fun c hc => Or.inl hc) (List.eraseIdx_sublist ..)
  | agents l =>
    simp only [servedStep, Option.map_eq_some_iff] at hs
    obtain ⟨agents, hstep, rfl⟩ := hs
    exact h.agents agents (fun c hc => Or.inl (TcpConnection.Agents.copies_step hstep hc)) (List.Sublist.refl _)

end Run

end SasyServer.Session
