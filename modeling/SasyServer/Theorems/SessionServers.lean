import SasyServer.Lemmas.SessionInvariants

/-!
# Theorem: no two game servers have one user, as long as no login is overwritten

A handler that has waited writes the status it had worked out before the wait. The condition `loginSafe` is on the state in
which a label is taken: no such write takes the user from a game server, the record that is released for a game server is
still that server's, a game server does not log users in while its own disconnect is being worked off, and a user is
registered only while no other item has a record of this user.
-/

namespace SasyServer.Session

variable {account : Nat → Nat}

/-- A handler that goes on after a wait does not write a status without a game server over one with a game server; and the
work on a disconnect goes on with a record of the disconnected server, or none. -/
def keepsServer (s : State) : Thread → Bool
  | .kickLS i _ _ newUserStatus _ | .switchUserItem i _ _ newUserStatus _ =>
    match s.getAttribute i with
    | some x => !x.userStatus.onGameServer || newUserStatus.onGameServer
    | none => true
  | .gsLogout _ _ => true
  | .gameServerDisconnect serverID i _ _ =>
    match s.getAttribute i with
    | some x => x.serverID = serverID
    | none => true

/-- The disconnect of the server is being worked off. -/
def sweeping (s : State) (serverID : Nat) : Bool :=
  s.suspended.any fun
    | .gameServerDisconnect server _ _ _ => server = serverID
    | _ => false

/-- The condition on a label in the state in which it is taken. -/
def loginSafe (account : Nat → Nat) (s : State) : Label → Bool
  | .resume k _ => s.suspended[k]?.all (keepsServer s)
  | .gsLogin _ _ _ serverID => !sweeping s serverID
  | .registerUser platformID agent => freshUser account s (.registerUser platformID agent)
  | _ => true

theorem not_mem_of_not_sweeping {s : State} {serverID : Nat} (h : sweeping s serverID = false) (i agent u : Nat) :
    Thread.gameServerDisconnect serverID i agent u ∉ s.suspended := by
  intro hm
  simp only [sweeping, List.any_eq_false] at h
  simpa using h _ hm

/-- A calm move keeps the invariant. -/
theorem HolderInv.calm {s s' : State} (h : HolderInv account s)
    (hm : Moves1 account .calm s s') : HolderInv account s' := by
  obtain ⟨i, a, ts, evs, waits, m⟩ := hm
  exact h.moved m (by simp) (by simp) (by simp) (by simp)

/-- The loop over the items of a disconnected server, which holds nobody. -/
theorem HolderInv.disconnectLoop {s : State} (h : HolderInv account s) {serverID : Nat}
    (hnone : ∀ user, ¬Holds s.log serverID user) (order : List String) :
    HolderInv account (disconnectLoop serverID s order) := by
  have hboth := disconnectLoop_rule (P := fun s => HolderInv account s ∧ ∀ user, ¬Holds s.log serverID user)
    serverID (fun s hs => hs.1.wf) ?_ ?_ order s ⟨h, hnone⟩
  · exact hboth.1
  · intro s s' i x hs hx hsrv m
    refine ⟨hs.1.moved m (by simp) (by simp) ?_ (by simp), by rw [m.log]; exact hs.2⟩
    intro _ y hy
    rw [hx, Option.some.injEq] at hy
    exact Or.inl (hy ▸ hsrv ▸ hs.2 x.userID)
  · intro s s' i x hs hx hsrv m
    refine ⟨hs.1.moved m (by simp) (by simp) (by simp) ?_, by rw [m.log]; exact hs.2⟩
    intro server hk
    cases hk
    exact hs.2

/-- The start of the work on a disconnect. -/
theorem HolderInv.emitDisconnect {s : State} (h : HolderInv account s) (serverID : Nat) :
    HolderInv account (s.emit (.gameServerDisconnect serverID)) ∧
      ∀ user, ¬Holds (s.emit (.gameServerDisconnect serverID)).log serverID user := by
  refine ⟨h.frame ((Acts.refl h.wf 0).emit _) (.refl s 0) (fun server user hh => hh.2) (fun _ _ _ _ ht => Or.inl ht)
    (fun _ _ _ hon => hon) (h.one.cons fun _ _ hev => by cases hev), fun user hh => hh.1 rfl⟩

theorem HolderInv.setSuspended {s : State} (h : HolderInv account s) {ts : List Thread} (hts : ∀ t ∈ ts, t ∈ s.suspended) :
    HolderInv account { s with suspended := ts } :=
  ⟨h.wf.setSuspended ts, h.unique, h.held, fun server i agent u ht => h.swept server i agent u (hts _ ht), h.one⟩

theorem HolderInv.plainEvent {s : State} (h : HolderInv account s) (e : Event) (he : e.plain) :
    HolderInv account (s.emit e) := h.calm (moves1_plain h.wf e he)

/-- A write of a new status to a record that is on a server only if the new status is. -/
theorem HolderInv.writeStatus {s s' : State} (h : HolderInv account s) {i r : Nat} {ts : Option Nat}
    {new : UserStatus} {agent : Nat} (hr : (s.items i).sui = some r)
    (hk : keepsServer s (.kickLS i 0 .usNull new none))
    (ha : Acts account s s' i (some { s.sui r with agent := agent, userStatus := new }) ts)
    (hsus : s'.suspended = s.suspended) (hlog : ∃ evs, s'.log = evs ++ s.log ∧ ∀ e ∈ evs, e.plain) :
    HolderInv account s' := by
  obtain ⟨evs, hlog, he⟩ := hlog
  have hu : SameUser s i (some { s.sui r with agent := agent, userStatus := new }) := by
    intro y hy
    cases hy
    exact Or.inl ⟨s.sui r, getAttribute_eq hr, rfl⟩
  refine h.frame ha hu ?_ (fun _ _ _ _ ht => Or.inl (hsus ▸ ht)) ?_ (hlog ▸ h.one.append_plain fun e h => Or.inl (he e h))
  · intro server user hh
    rw [hlog] at hh
    exact (holds_append_plain (fun e h => Or.inl (he e h)) server user).1 hh
  · rintro server user - ⟨x, hx, hu, ho, hs⟩
    rw [getAttribute_eq hr, Option.some.injEq] at hx
    subst hx
    simp only [keepsServer, getAttribute_eq hr, ho, Bool.not_true, Bool.false_or] at hk
    exact ⟨_, rfl, hu, hk, hs⟩

/-- A handler that goes on after a wait, under the condition. -/
theorem HolderInv.resumeThread {s : State} (h : HolderInv account s) (order : List String)
    {t : Thread} (hc : keepsServer s t)
    (hswept : ∀ server i agent u, t = .gameServerDisconnect server i agent u → ∀ user, ¬Holds s.log server user) :
    HolderInv account (resumeThread s order t) := by
  cases t with
  | kickLS i agent seen new kick =>
    have he := h.plainEvent (.kickAgent agent) rfl
    simp only [Session.resumeThread]
    cases hr : (s.items i).sui with
    | none =>
      unfold kickLSWrite
      rw [show ((s.emit (.kickAgent agent)).items i).sui = none from hr]
      exact he.plainEvent _ rfl
    | some r =>
      obtain ⟨evs, ha, hp, hl, hsus⟩ := acts_kickLSWrite he.wf (i := i) (r := r) hr new kick
      exact he.writeStatus hr hc ha hsus ⟨evs, hl, hp⟩
  | switchUserItem i agent seen new newAgent =>
    have he := h.plainEvent (.kickAgent agent) rfl
    simp only [Session.resumeThread]
    unfold switchWrite
    cases hr : (s.items i).sui with
    | none =>
      rw [show ((s.emit (.kickAgent agent)).items i).sui = none from hr]
      exact he.plainEvent _ rfl
    | some r =>
      rw [show ((s.emit (.kickAgent agent)).items i).sui = some r from hr]
      exact he.writeStatus hr hc (acts_setAttribute he.wf hr rfl) rfl ⟨[], rfl, by simp⟩
  | gsLogout i new =>
    simp only [Session.resumeThread]
    unfold gsLogoutStamp
    split
    · exact h.frame (acts_setItem h.wf i (fun _ => rfl) (fun _ => rfl) fun _ => rfl) (.refl s i) (fun _ _ hh => hh)
        (fun _ _ _ _ ht => Or.inl ht) (fun _ _ _ hon => hon) h.one
    · exact h
  | gameServerDisconnect serverID i agent u =>
    have he := h.plainEvent (.kickAgent agent) rfl
    have hnone := hswept serverID i agent u rfl
    simp only [Session.resumeThread]
    unfold disconnectResume
    cases hr : (s.items i).sui with
    | none =>
      rw [show ((s.emit (.kickAgent agent)).items i).sui = none from hr]
      have hf := he.frame (acts_forgetUser he.wf i u) (.refl _ i) (fun _ _ hh => hh) (fun _ _ _ _ ht => Or.inl ht)
        (fun _ _ _ hon => hon) he.one
      exact hf.disconnectLoop hnone order
    | some r =>
      rw [show ((s.emit (.kickAgent agent)).items i).sui = some r from hr]
      have hsrv : (s.sui r).serverID = serverID := by
        simpa [keepsServer, getAttribute_eq hr] using hc
      have hm : Moved account .release (s.emit (.kickAgent agent)) (releaseSui (s.emit (.kickAgent agent)) i r u) i
        none none [] [] :=
        ⟨acts_releaseSui he.wf hr u, .sweep (s.sui r) (getAttribute_eq hr), rfl, by simp [releaseSui, State.setItem]⟩
      refine (he.moved hm (by simp) (by simp) ?_ (by simp)).disconnectLoop hnone order
      intro _ x hx
      rw [getAttribute_eq (s := s.emit (.kickAgent agent)) hr, Option.some.injEq] at hx
      subst hx
      exact Or.inl (hsrv ▸ hnone _)

/-- A user gets a record, of whom no other item has one. -/
theorem HolderInv.registerUser {s : State} (h : HolderInv account s) {p agent : Nat}
    (hc : freshUser account s (.registerUser p agent)) : HolderInv account (registerUser s p (account p) agent) := by
  rcases moves1_registerUser h.wf p agent with hm | ⟨i, hi, hnone, _, _, _, _, _, m⟩
  · exact h.calm hm
  · refine h.moved m ?_ (by simp) (by simp) (by simp)
    intro u hu j x hx
    cases hu
    exact h.wf.freshUser hc hi hnone hx

/-- One label keeps the invariant, under the condition. -/
theorem HolderInv.step {s s' : State} (l : Label) (h : HolderInv account s)
    (hc : loginSafe account s l) (hs : step account s l = some s') : HolderInv account s' := by
  cases l with
  | registerSession name p => cases hs; exact h.calm (moves1_registerSession h.wf name p)
  | getUserItemByPlatformID p u => cases hs; exact h.calm (moves1_getUserItemByPlatformID h.wf p u)
  | switchUserItem p a => cases hs; exact h.calm (moves1_switchUserItem h.wf p a)
  | registerUser p a => cases hs; exact h.registerUser hc
  | gsLogin name k n serverID =>
    cases hs
    rcases moves1_gsLogin h.wf name k n serverID with hm | ⟨i, a, ts, evs, waits, m⟩
    · exact h.calm hm
    · refine h.moved m (by simp) ?_ (by simp) (by simp)
      intro server hk
      cases hk
      exact not_mem_of_not_sweeping (by simpa [loginSafe] using hc)
  | gsLogout u k n srv b => cases hs; exact h.calm (moves1_gsLogout h.wf u k n srv b)
  | gsOffline u k n srv => cases hs; exact h.calm (moves1_gsOffline h.wf u k n srv)
  | clientDisconnect u => cases hs; exact h.calm (moves1_onEventClientDisconnect h.wf u)
  | gameServerDisconnect serverID order =>
    cases hs
    obtain ⟨h1, h2⟩ := h.emitDisconnect serverID
    exact h1.disconnectLoop h2 order
  | cleanExpiredInfo order =>
    cases hs
    refine cleanLoop_rule (P := HolderInv account) (fun s h => h.wf) ?_ ?_ order s h
    · intro s s' i a ts evs waits h m
      exact h.moved m (by simp) (by simp) (by simp) (by simp)
    · intro s s' i x h hx hn m
      refine h.moved m (by simp) (by simp) ?_ (by simp)
      intro _ y hy
      rw [hx, Option.some.injEq] at hy
      exact Or.inr (hy ▸ hn)
  | tick n => cases hs; exact ⟨h.wf.setNow _, h.unique, h.held, h.swept, h.one⟩
  | resume k order =>
    simp only [Session.step, Option.map_eq_some_iff] at hs
    obtain ⟨t, ht, rfl⟩ := hs
    have hmem : t ∈ s.suspended := List.mem_of_getElem? ht
    refine (h.setSuspended fun t' ht' => List.mem_of_mem_eraseIdx ht').resumeThread order ?_ ?_
    · have hk : keepsServer s t := by simpa [loginSafe, ht] using hc
      cases t <;> exact hk
    · rintro server i agent u rfl
      exact h.swept server i agent u hmem
  | abort k =>
    simp only [Session.step, Option.bind_eq_some_iff] at hs
    obtain ⟨t, ht, hs⟩ := hs
    split at hs
    · cases hs
      exact h.setSuspended fun t' ht' => List.mem_of_mem_eraseIdx ht'
    · cases hs

/-- Every run whose labels meet the condition when they are taken: no two game servers have one user. `account`
is any function; where it gives two platforms one user, the condition is what keeps the second from being
registered beside the first. -/
theorem one_server_of_loginSafe (account : Nat → Nat) (labels : List Label) (t : State)
    (hsafe : Steps.Meets (step account) (fun s l => loginSafe account s l) State.init labels)
    (hrun : Steps.exec (step account) State.init labels = some t) : OneServer t.log :=
  (Steps.exec_invariant (I := HolderInv account) (fun _ l _ h hc hs => h.step l hc hs) labels State.init t
    holderInv_init hsafe
    hrun).one

/-- A user that goes from one game server to another and is registered again in between, with the handlers waiting for their
answers. -/
theorem one_server_of_loginSafe_two_logins :
    ∃ t, Steps.exec (step id) State.init [.registerSession "a" 1, .registerUser 1 7, .gsLogin "a" 0 0 10,
      .gsLogout 1 0 0 10 false, .registerSession "b" 1, .resume 0 [], .resume 0 [], .gsLogin "b" 0 0 20] = some t ∧
      OneServer t.log :=
  ⟨_, rfl, one_server_of_loginSafe id [.registerSession "a" 1, .registerUser 1 7, .gsLogin "a" 0 0 10,
    .gsLogout 1 0 0 10 false, .registerSession "b" 1, .resume 0 [], .resume 0 [], .gsLogin "b" 0 0 20] _
      (by decide +kernel) rfl⟩

/-- The user is registered again while logged in: the login server waits for the old connection, the client goes on to the
game server 10, the login server writes `US_NULL`, and the game server 20 gets the user as well. -/
theorem two_servers_after_kick :
    ∃ t, Steps.exec (step id) State.init [.registerSession "a" 1, .registerUser 1 7, .registerSession "b" 1,
      .gsLogin "b" 0 0 10, .resume 0 [], .gsLogin "b" 0 0 20] = some t ∧ ¬OneServer t.log := by
  refine ⟨_, rfl, ?_⟩
  intro h
  have := h [] [.kickAgent 7] [] 1 10 20 rfl (by decide)
  simp at this

end SasyServer.Session
