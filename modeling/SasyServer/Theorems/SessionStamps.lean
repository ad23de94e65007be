import SasyServer.Lemmas.SessionInvariants

/-!
# Theorem: an item with a stamp has the status `US_NULL`, as long as no handler returns to a changed item

The stamp `suiActiveTS` starts the time after which a record is released. `cleanExpiredInfo` raises an error, and stops,
at a stamped item with another status. The condition `stampSafe` is on the state in which a handler goes on after a wait:
the item it is about to give a status other than `US_NULL` has not been stamped meanwhile, and the item it is about to
stamp is still in `US_NULL`.
-/

namespace SasyServer.Session

variable {account : Nat → Nat}

/-- What a handler that goes on after a wait finds. -/
def keepsStamp (s : State) : Thread → Bool
  | .kickLS i _ _ newUserStatus _ => newUserStatus = .usNull || s.getAttribute i = none || stampOf s i = none
  | .switchUserItem i _ _ _ _ => s.getAttribute i = none || stampOf s i = none
  | .gsLogout i newUserStatus =>
    match s.getAttribute i with
    | some x => newUserStatus ≠ .usNull || x.userStatus = .usNull
    | none => true
  | .gameServerDisconnect _ _ _ _ => true

/-- The condition on a label in the state in which it is taken. -/
def stampSafe (s : State) : Label → Bool
  | .resume k _ => s.suspended[k]?.all (keepsStamp s)
  | _ => true

theorem StampInv.calm {s s' : State} (h : StampInv account s) {k : Kind}
    (hm : Moves1 account k s s') : StampInv account s' := by
  obtain ⟨i, a, ts, evs, waits, m⟩ := hm
  exact h.moved m

/-- An operation whose item is right afterwards, with plain events. -/
theorem StampInv.frame {s s' : State} (h : StampInv account s) {i : Nat} {a : Option Sui} {ts : Option Nat}
    (ha : Acts account s s' i a ts) (hself : ∀ x, a = some x → ts ≠ none → x.userStatus = .usNull)
    (hlog : ∃ evs, s'.log = evs ++ s.log ∧ ∀ e ∈ evs, e.plain) : StampInv account s' := by
  refine ⟨ha.wf, ?_, ?_⟩
  · intro j x hx hts
    by_cases hj : j = i
    · subst hj
      rw [ha.self] at hx
      rw [ha.stamp] at hts
      exact hself x hx hts
    · rw [ha.other j hj] at hx
      rw [ha.otherStamp j hj] at hts
      exact h.stamped j x hx hts
  · intro u st hm
    obtain ⟨evs, hl, he⟩ := hlog
    rw [hl, List.mem_append] at hm
    rcases hm with hm | hm
    · exact absurd (he _ hm) (by simp [Event.plain])
    · exact h.clean u st hm

theorem StampInv.disconnectLoop {s : State} (h : StampInv account s) (serverID : Nat) (order : List String) :
    StampInv account (disconnectLoop serverID s order) :=
  disconnectLoop_rule (P := StampInv account) serverID (fun _ h => h.wf) (fun _ _ _ _ h _ _ m => h.moved m)
    (fun _ _ _ _ h _ _ m => h.moved m) order s h

/-- A handler that goes on after a wait, under the condition. -/
theorem StampInv.resumeThread {s : State} (h : StampInv account s) (order : List String) {t : Thread} (hc : keepsStamp s t) :
    StampInv account (resumeThread s order t) := by
  cases t with
  | kickLS i agent seen new kick =>
    have he := h.calm (moves1_plain h.wf (.kickAgent agent) rfl)
    simp only [Session.resumeThread]
    cases hr : (s.items i).sui with
    | none =>
      unfold kickLSWrite
      rw [show ((s.emit (.kickAgent agent)).items i).sui = none from hr]
      exact he.calm (moves1_plain he.wf _ rfl)
    | some r =>
      obtain ⟨evs, ha, hp, hl, -⟩ := acts_kickLSWrite he.wf (i := i) (r := r) hr new kick
      refine he.frame ha ?_ ⟨evs, hl, hp⟩
      intro x hx hts
      cases hx
      by_cases hn : new = .usNull
      · exact hn
      · rw [if_neg hn] at hts
        have : stampOf s i = none := by simpa [keepsStamp, hn, getAttribute_eq hr] using hc
        exact absurd this hts
  | switchUserItem i agent seen new newAgent =>
    have he := h.calm (moves1_plain h.wf (.kickAgent agent) rfl)
    simp only [Session.resumeThread]
    unfold switchWrite
    cases hr : (s.items i).sui with
    | none =>
      rw [show ((s.emit (.kickAgent agent)).items i).sui = none from hr]
      exact he.calm (moves1_plain he.wf _ rfl)
    | some r =>
      rw [show ((s.emit (.kickAgent agent)).items i).sui = some r from hr]
      refine he.frame (acts_setAttribute he.wf hr rfl) ?_ ⟨[], rfl, by simp⟩
      intro x hx hts
      have : stampOf s i = none := by simpa [keepsStamp, getAttribute_eq hr] using hc
      exact absurd this hts
  | gsLogout i new =>
    simp only [Session.resumeThread]
    unfold gsLogoutStamp
    split
    · rename_i hn
      refine h.frame (acts_setItem h.wf i (fun _ => rfl) (fun _ => rfl) fun _ => rfl) ?_ ⟨[], rfl, by simp⟩
      intro x hx _
      simpa [keepsStamp, hx, hn] using hc
    · exact h
  | gameServerDisconnect serverID i agent u =>
    have he := h.calm (moves1_plain h.wf (.kickAgent agent) rfl)
    simp only [Session.resumeThread]
    unfold disconnectResume
    cases hr : (s.items i).sui with
    | none =>
      rw [show ((s.emit (.kickAgent agent)).items i).sui = none from hr]
      exact (he.frame (acts_forgetUser he.wf i u) (by simp) ⟨[], rfl, by simp⟩).disconnectLoop serverID order
    | some r =>
      rw [show ((s.emit (.kickAgent agent)).items i).sui = some r from hr]
      exact (he.frame (acts_releaseSui he.wf hr u) (by simp) ⟨[], rfl, by simp⟩).disconnectLoop serverID order

/-- One label keeps the stamps right, under the condition. -/
theorem StampInv.step {s s' : State} (l : Label) (h : StampInv account s) (hc : stampSafe s l)
    (hs : step account s l = some s') : StampInv account s' := by
  cases l with
  | registerSession name p => cases hs; exact h.calm (moves1_registerSession h.wf name p)
  | getUserItemByPlatformID p u => cases hs; exact h.calm (moves1_getUserItemByPlatformID h.wf p u)
  | switchUserItem p a => cases hs; exact h.calm (moves1_switchUserItem h.wf p a)
  | registerUser p a => cases hs; exact (moves1_registerUser h.wf p a).elim h.calm fun ⟨_, _, _, hm⟩ => h.calm hm
  | gsLogin name k n serverID => cases hs; exact (moves1_gsLogin h.wf name k n serverID).elim h.calm h.calm
  | gsLogout u k n srv b => cases hs; exact h.calm (moves1_gsLogout h.wf u k n srv b)
  | gsOffline u k n srv => cases hs; exact h.calm (moves1_gsOffline h.wf u k n srv)
  | clientDisconnect u => cases hs; exact h.calm (moves1_onEventClientDisconnect h.wf u)
  | gameServerDisconnect serverID order =>
    cases hs
    have he : StampInv account (s.emit (.gameServerDisconnect serverID)) := by
      refine ⟨h.wf.emit _, h.stamped, ?_⟩
      intro u st hm
      simp only [State.emit, List.mem_cons, reduceCtorEq, false_or] at hm
      exact h.clean u st hm
    exact he.disconnectLoop serverID order
  | cleanExpiredInfo order =>
    cases hs
    exact cleanLoop_rule (P := StampInv account) (fun _ h => h.wf) (fun _ _ _ _ _ _ _ h m => h.moved m)
      (fun _ _ _ _ h _ _ m => h.moved m) order s h
  | tick n => cases hs; exact ⟨h.wf.setNow _, h.stamped, h.clean⟩
  | resume k order =>
    simp only [Session.step, Option.map_eq_some_iff] at hs
    obtain ⟨t, ht, rfl⟩ := hs
    have hk : keepsStamp s t := by simpa [stampSafe, ht] using hc
    have h' : StampInv account { s with suspended := s.suspended.eraseIdx k } := ⟨h.wf.setSuspended _, h.stamped, h.clean⟩
    exact h'.resumeThread order (by cases t <;> exact hk)
  | abort k =>
    simp only [Session.step, Option.bind_eq_some_iff] at hs
    obtain ⟨t, ht, hs⟩ := hs
    split at hs
    · cases hs
      exact ⟨h.wf.setSuspended _, h.stamped, h.clean⟩
    · cases hs

/-- Every run whose labels meet the condition when they are taken: a stamped item has the status `US_NULL`, and
`cleanExpiredInfo` has never met another one. -/
theorem stamped_is_null_of_stampSafe (account : Nat → Nat) (labels : List Label) (t : State)
    (hsafe : Steps.Meets (step account) (fun s l => stampSafe s l) State.init labels)
    (hrun : Steps.exec (step account) State.init labels = some t) :
    (∀ i x, t.getAttribute i = some x → (t.items i).suiActiveTS ≠ none → x.userStatus = .usNull) ∧
      ∀ u st, Event.fail (.cleanExpiredInfo u st) ∉ t.log := by
  have h := Steps.exec_invariant (I := StampInv account) (fun _ l _ h hc hs => h.step l hc hs) labels State.init
    t stampInv_init
    hsafe hrun
  exact ⟨h.stamped, h.clean⟩

/-- A user leaves the game server for good, and the record expires. -/
theorem stamped_is_null_of_stampSafe_expiry :
    ∃ t, Steps.exec (step id) State.init
      [.registerSession "a" 1, .registerUser 1 7, .gsLogin "a" 0 0 10, .clientDisconnect 1,
      .gsLogout 1 0 0 10 false, .resume 0 [], .tick 40000, .cleanExpiredInfo ["a"]] = some t ∧
      (∀ i x, t.getAttribute i = some x → (t.items i).suiActiveTS ≠ none → x.userStatus = .usNull) ∧
      ∀ u st, Event.fail (.cleanExpiredInfo u st) ∉ t.log :=
  ⟨_, rfl, stamped_is_null_of_stampSafe id
    [.registerSession "a" 1, .registerUser 1 7, .gsLogin "a" 0 0 10, .clientDisconnect 1,
    .gsLogout 1 0 0 10 false, .resume 0 [], .tick 40000, .cleanExpiredInfo ["a"]] _ (by decide +kernel) rfl⟩

/-- The user goes to the game server 20 while the logout from the game server 10 waits for the user's data: the logout then
stamps an item with the status `US_GS`, and the expiry sweep stops at it. -/
theorem stamped_on_game_server :
    ∃ t, Steps.exec (step id) State.init
      [.registerSession "a" 1, .registerUser 1 7, .gsLogin "a" 0 0 10, .clientDisconnect 1,
      .gsLogout 1 0 0 10 false, .gsLogin "a" 0 0 20, .resume 0 [], .tick 40000, .cleanExpiredInfo ["a"]] = some t ∧
      (t.getAttribute 0).map Sui.userStatus = some .usGs ∧ (t.items 0).suiActiveTS = some 0 ∧
      Event.fail (.cleanExpiredInfo 1 .usGs) ∈ t.log :=
  ⟨_, rfl, by decide, by decide, by decide⟩

end SasyServer.Session
