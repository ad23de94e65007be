import SasyServer.Lemmas.SessionEdits
import SasyServer.Session.Connections

/-!
# The agents of the records of the session manager

A record gets an agent when a login gives it one (`gives`), and otherwise keeps it or loses it together with its
place on the login server.
-/

namespace SasyServer.Session

open TcpConnection (Agents)

variable {account : Nat → Nat}

/-- The user whose record gets a new agent from a label, and the agent. -/
def gives (account : Nat → Nat) (s : State) (l : Label) : Option (Nat × Nat) :=
  ((registered account s l).map fun c => (c.userID, c.agent)).or
    ((switched s l).bind fun p => (s.getAttribute p.1).map fun x => (x.userID, p.2))

/-- What a thread will write fits: a kick takes the user from the login server, and a login has an agent. -/
def Thread.Fits : Thread → Prop
  | .kickLS _ _ _ newUserStatus _ => newUserStatus.onLoginServer = false
  | .switchUserItem _ _ _ _ newAgent => newAgent ≠ 0
  | _ => True

/-- A record with an agent that `G` allows, or with none. -/
def Fresh (G : Nat → Nat → Prop) (x : Sui) : Prop := G x.userID x.agent ∨ x.agent = 0 ∧ x.userStatus.onLoginServer = false

/-- Every record after the handlers is one that was kept, or one with an agent that `G` allows; and what waits fits. -/
structure Follows (G : Nat → Nat → Prop) (s s' : State) : Prop where
  record : ∀ i y, s'.getAttribute i = some y → (∃ x, s.getAttribute i = some x ∧ Kept G x y) ∨ Fresh G y
  suspended : ∀ t ∈ s'.suspended, t ∈ s.suspended ∨ t.Fits

section Follows

variable {G : Nat → Nat → Prop} {s s' s'' : State}

theorem kept_refl (x : Sui) : Kept G x x := ⟨rfl, Or.inl ⟨rfl, rfl⟩⟩

/-- A record that has been kept is as new as it was. -/
theorem Fresh.kept {x y : Sui} (h : Fresh G x) (hk : Kept G x y) : Fresh G y := by
  obtain ⟨hu, ⟨ha, hst⟩ | ⟨ha, hst⟩ | hg⟩ := hk
  · rcases h with h | ⟨h1, h2⟩
    · exact Or.inl (by rw [hu, ha]; exact h)
    · exact Or.inr ⟨ha.trans h1, hst.trans h2⟩
  · exact Or.inr ⟨ha, hst⟩
  · exact Or.inl hg

/-- Two changes of a record. -/
theorem Kept.trans {x y z : Sui} (h : Kept G x y) (h' : Kept G y z) : Kept G x z := by
  obtain ⟨hu, hcases⟩ := h
  obtain ⟨hu', ⟨ha, hst⟩ | hrest⟩ := h'
  · refine ⟨hu'.trans hu, ?_⟩
    rcases hcases with ⟨ha', hst'⟩ | ⟨ha', hst'⟩ | hg
    · exact Or.inl ⟨ha.trans ha', hst.trans hst'⟩
    · exact Or.inr (Or.inl ⟨ha.trans ha', hst.trans hst'⟩)
    · exact Or.inr (Or.inr (by rw [hu', ha]; exact hg))
  · exact ⟨hu'.trans hu, Or.inr hrest⟩

/-- Two handlers, one after the other. -/
theorem Follows.trans (h : Follows G s s') (h' : Follows G s' s'') : Follows G s s'' := by
  refine ⟨?_, ?_⟩
  · intro i z hz
    rcases h'.record i z hz with ⟨y, hy, hyz⟩ | hz
    · rcases h.record i y hy with ⟨x, hx, hxy⟩ | hy
      · exact Or.inl ⟨x, hx, hxy.trans hyz⟩
      · exact Or.inr (hy.kept hyz)
    · exact Or.inr hz
  · intro t ht
    rcases h'.suspended t ht with ht | ht
    · exact h.suspended t ht
    · exact Or.inr ht

/-- Where no record changes and nothing new waits. -/
theorem Follows.same (hx : ∀ i, s'.getAttribute i = s.getAttribute i)
    (ht : ∀ t ∈ s'.suspended, t ∈ s.suspended) : Follows G s s' :=
  ⟨fun i y hy => Or.inl ⟨y, by rw [← hx]; exact hy, kept_refl y⟩, fun t h => Or.inl (ht t h)⟩

theorem Follows.refl (s : State) : Follows G s s := .same (fun _ => rfl) fun _ h => h

/-- The small changes keep or empty the agents, or write one that `G` allows. -/
theorem Edits.follows (h : Edits G Thread.Fits s s') : Follows G s s' := by
  induction h with
  | refl => exact .refl _
  | emit h e ih => exact ih.trans (.same (fun _ => rfl) fun _ h => h)
  | suspend h t ht ih =>
    refine ih.trans ⟨fun i y hy => Or.inl ⟨y, hy, kept_refl y⟩, ?_⟩
    intro t' ht'
    simp only [State.suspend, List.mem_append, List.mem_singleton] at ht'
    rcases ht' with ht' | rfl
    · exact Or.inl ht'
    · exact Or.inr ht
  | @setItem s' _ i f hp hs hr ih =>
    refine ih.trans (.same ?_ fun _ h => h)
    intro j
    simp only [State.getAttribute, field_setItem Item.sui (hr _)]
    rfl
  | @setAttribute s' _ r f hf ih =>
    refine ih.trans ⟨?_, fun _ h => Or.inl h⟩
    intro j y hy
    obtain ⟨x, hx, hxy⟩ := exists_record hy
    refine Or.inl ⟨s'.sui x, getAttribute_eq hx, ?_⟩
    by_cases hxr : x = r
    · subst hxr
      rw [← hxy]
      simp only [State.setAttribute, Function.update_self]
      exact hf
    · rw [← hxy]
      simp only [State.setAttribute, Function.update_of_ne hxr]
      exact kept_refl _

/-- A record goes back to the pool. -/
theorem follows_releaseSui (s : State) (i r u : Nat) : Follows G s (releaseSui s i r u) := by
  refine ⟨?_, fun _ h => Or.inl h⟩
  intro j y hy
  obtain ⟨x, hx, rfl⟩ := exists_record hy
  by_cases hxr : x = r
  · refine Or.inr (Or.inr ?_)
    subst hxr
    simp only [releaseSui, State.setItem, Function.update_self]
    exact ⟨rfl, rfl⟩
  · have hj : j ≠ i := by
      rintro rfl
      simp [releaseSui, State.setItem] at hx
    refine Or.inl ⟨s.sui x, getAttribute_eq ?_, ?_⟩
    · simpa only [releaseSui, State.setItem, Function.update_of_ne hj] using hx
    · simp only [releaseSui, State.setItem, Function.update_of_ne hxr]
      exact kept_refl _

/-- The record had gone before. -/
theorem follows_forgetUser (s : State) (i u : Nat) : Follows G s (forgetUser s i u) := by
  refine .same ?_ fun _ h => h
  intro j
  show Option.map s.sui _ = Option.map s.sui _
  rw [forgetUser, field_setItem Item.sui rfl]

theorem follows_cleanSession (s : State) (i : Nat) : Follows G s (cleanSession s i) := by
  unfold cleanSession
  split
  · exact .same (fun _ => rfl) fun _ h => h
  · exact .refl s

/-- The sweep over the sessions of a server only empties records. -/
theorem follows_disconnectLoop (serverID : Nat) (order : List String) (s : State) :
    Follows G s (disconnectLoop serverID s order) := by
  induction order generalizing s with
  | nil => exact .refl s
  | cons k order ih =>
    unfold disconnectLoop
    split
    · exact ih s
    · split
      · exact ih s
      · split
        · split
          · exact (Edits.suspend (.refl s) _ trivial).follows
          · exact (follows_releaseSui s _ _ _).trans (ih _)
        · exact ih s

/-- The sweep over the expired sessions only releases records. -/
theorem follows_cleanLoop (order : List String) (s : State) : Follows G s (cleanLoop s order) := by
  induction order generalizing s with
  | nil => exact .refl s
  | cons k order ih =>
    unfold cleanLoop
    split
    · exact ih s
    · split
      · exact (follows_cleanSession s _).trans (ih _)
      · split
        · split
          · exact (Edits.emit (.refl s) _).follows
          · exact ((follows_releaseSui s _ _ _).trans (follows_cleanSession _ _)).trans (ih _)
        · exact (follows_cleanSession s _).trans (ih _)

/-- The item of the platform gets the new name and its old agent is kicked, or a new item without a record is made. -/
theorem follows_registerSession (name : String) (p : Nat) (h : WF account s) : Follows G s (registerSession s name p) := by
  unfold registerSession
  split
  · rename_i i hp
    refine Follows.trans ?_ (Edits.kickOld (.refl _) i fun _ _ _ _ hnew => hnew).follows
    have ha := acts_rename h hp name s.now
    refine .same ?_ fun _ h => h
    intro j
    by_cases hj : j = i
    · subst hj
      exact ha.self
    · exact ha.other j hj
  · refine .same ?_ fun _ h => h
    intro j
    by_cases hj : j = s.itemCount
    · subst hj
      rw [getAttribute_none (fresh_sui h)]
      simp [State.getAttribute]
    · simp only [State.getAttribute, Function.update_of_ne hj]

/-- A new record for a user without one. -/
theorem follows_registerUser (p agent : Nat)
    (hg : ∀ i, s.platformID p = some i → (s.items i).sui = none → G (account p) agent) :
    Follows G s (registerUser s p (account p) agent) := by
  unfold registerUser
  split
  · exact (Edits.emit (.refl s) _).follows
  · rename_i i hp
    split
    · exact (Edits.emit (.refl s) _).follows
    · rename_i hnone
      refine ⟨?_, fun _ h => Or.inl h⟩
      intro j y hy
      obtain ⟨x, hx, rfl⟩ := exists_record hy
      by_cases hxr : x = s.buffer.allocate.1
      · refine Or.inr (Or.inl ?_)
        subst hxr
        simp only [State.setItem, Function.update_self]
        exact hg i hp (not_ne_iff.1 hnone)
      · have hj : j ≠ i := by
          rintro rfl
          simp only [State.setItem, Function.update_self, Option.some.injEq] at hx
          exact hxr hx.symm
        refine Or.inl ⟨s.sui x, getAttribute_eq ?_, ?_⟩
        · simpa only [State.setItem, Function.update_of_ne hj] using hx
        · simp only [State.setItem, Function.update_of_ne hxr]
          exact kept_refl _

end Follows

/-- The agents that a label gives; a login from the address 0 is refused. -/
def Given (account : Nat → Nat) (s : State) (l : Label) (user agent : Nat) : Prop := gives account s l = some (user, agent)

theorem given_registered {s : State} {l : Label} {c : TcpConnection.Cache} (h : registered account s l = some c) :
    Given account s l c.userID c.agent := by
  simp [Given, gives, h]

theorem given_switched {s : State} {l : Label} {i agent : Nat} {x : Sui} (hr : registered account s l = none)
    (h : switched s l = some (i, agent)) (hx : s.getAttribute i = some x) : Given account s l x.userID agent := by
  simp [Given, gives, hr, h, hx]

/-- Only logins from an address give agents. -/
theorem given_ne_zero {s : State} (hfits : ∀ t ∈ s.suspended, t.Fits) {l : Label} (hl : l.agent ≠ some 0) {u agent : Nat}
    (h : Given account s l u agent) : agent ≠ 0 := by
  simp only [Given, gives, Option.or_eq_some_iff, Option.map_eq_some_iff, Option.bind_eq_some_iff, Prod.mk.injEq] at h
  rcases h with ⟨c, hc, -, rfl⟩ | ⟨-, p, hp, x, -, -, rfl⟩
  · cases l with
    | registerUser q agent =>
      simp only [registered, Option.bind_eq_some_iff, Option.ite_none_left_eq_some, Option.some.injEq] at hc
      obtain ⟨i, -, -, rfl⟩ := hc
      exact fun h => hl (congrArg some h)
    | _ => cases hc
  · cases l with
    | switchUserItem q agent =>
      simp only [switched, Option.bind_eq_some_iff, Option.ite_none_left_eq_some, Option.some.injEq] at hp
      obtain ⟨i, -, x, -, -, rfl⟩ := hp
      exact fun h => hl (congrArg some h)
    | resume k order =>
      simp only [switched, Option.bind_eq_some_iff] at hp
      obtain ⟨t, ht, hp⟩ := hp
      have hfit := hfits t (List.mem_of_getElem? ht)
      cases t with
      | switchUserItem i old seen new newAgent =>
        simp only [Option.map_eq_some_iff] at hp
        obtain ⟨-, -, rfl⟩ := hp
        exact hfit
      | _ => cases hp
    | _ => cases hp

/-- One label, of a login that has an address. -/
theorem follows_step {s s' : State} (h : WF account s) (hfits : ∀ t ∈ s.suspended, t.Fits) (l : Label)
    (hl : l.agent ≠ some 0) (hs : step account s l = some s') :
    Follows (Given account s l) s s' := by
  cases l with
  | registerSession name p => cases hs; exact follows_registerSession name p h
  | getUserItemByPlatformID p u => cases hs; exact (edits_getUserItemByPlatformID p u).follows
  | switchUserItem p agent =>
    cases hs
    refine (edits_switchUserItem p agent ?_ fun _ _ _ _ ha => hl (congrArg some ha)).follows
    intro i x hp hx hkick
    refine given_switched rfl (i := i) ?_ hx
    have hk : kicks x = false := by
      cases hst : x.userStatus <;> simp [kicks, hst, UserStatus.onLoginServer] at hkick ⊢ <;> exact hkick
    simp [switched, hp, hx, hk]
  | registerUser p agent =>
    cases hs
    refine follows_registerUser p agent ?_
    intro i hp hnone
    refine given_registered (c := ⟨agent, account p, some s.buffer.allocate.1⟩) ?_
    simp [registered, hp, hnone]
  | gsLogin name k n srv => cases hs; exact (edits_gsLogin name k n srv).follows
  | gsLogout u k n srv b => cases hs; exact (edits_gsLogout u k n srv b fun _ _ => trivial).follows
  | gsOffline u k n srv => cases hs; exact (edits_gsOffline u k n srv).follows
  | clientDisconnect u => cases hs; exact (edits_onEventClientDisconnect u).follows
  | gameServerDisconnect serverID order =>
    cases hs
    exact (Edits.emit (.refl s) _).follows.trans (follows_disconnectLoop serverID order _)
  | cleanExpiredInfo order => cases hs; exact follows_cleanLoop order s
  | tick n => cases hs; exact .same (fun _ => rfl) fun _ h => h
  | resume k order =>
    simp only [Session.step, Option.map_eq_some_iff] at hs
    obtain ⟨t, ht, rfl⟩ := hs
    have hwake : Follows (Given account s (.resume k order)) s { s with suspended := s.suspended.eraseIdx k } :=
      .same (fun _ => rfl) fun _ h => List.mem_of_mem_eraseIdx h
    refine hwake.trans ?_
    cases t with
    | kickLS i old seen new kick =>
      have hnew : new.onLoginServer = false := hfits _ (List.mem_of_getElem? ht)
      exact (((Edits.refl _).emit _).kickLSWrite i (fun _ => kept_of_leave hnew) kick).follows
    | switchUserItem i old seen new newAgent =>
      refine (((Edits.refl _).emit _).switchWrite i new newAgent ?_).follows
      intro r hr
      have hx : s.getAttribute i = some (s.sui r) := getAttribute_eq hr
      refine given_switched rfl (i := i) ?_ hx
      simp [switched, ht, hx]
    | gsLogout i new => exact ((Edits.refl _).gsLogoutStamp i new).follows
    | gameServerDisconnect serverID i old u =>
      simp only [Session.resumeThread, disconnectResume]
      split
      · exact (Edits.emit (.refl _) _).follows.trans
          ((follows_forgetUser _ _ _).trans (follows_disconnectLoop serverID order _))
      · exact (Edits.emit (.refl _) _).follows.trans
          ((follows_releaseSui _ _ _ _).trans (follows_disconnectLoop serverID order _))
  | abort k =>
    simp only [Session.step, Option.bind_eq_some_iff, Option.ite_none_right_eq_some, Option.some.injEq] at hs
    obtain ⟨t, -, -, rfl⟩ := hs
    exact .same (fun _ => rfl) fun _ h => List.mem_of_mem_eraseIdx h

/-! ## Who speaks for a user -/

/-- The condition on a label in the state in which it is taken: a login is given a record only when no other connection
speaks for the user, and a cache is set only where no record of the user has another agent. -/
def loginAlone (account : Nat → Nat) (s : Served) : ServedLabel → Bool
  | .manager l => (gives account s.manager l).all fun p => s.agents.speakers.all fun q => q.1 ≠ p.1 ∨ q.2 = p.2
  | .agents (.deliver k) =>
    s.agents.mail[k]?.all fun
      | .setCache c =>
        (List.range s.manager.itemCount).all fun i =>
          (s.manager.getAttribute i).all fun x => x.userID ≠ c.userID ∨ x.agent = c.agent ∨ x.agent = 0
      | _ => true
  | _ => true

/-- A record of a user for whom a connection speaks has this connection as its agent, or none; a record without an agent is
not on the login server. -/
structure AgentInv (account : Nat → Nat) (s : Served) : Prop where
  wf : WF account s.manager
  speaks : ∀ p ∈ s.agents.speakers, ∀ i x, s.manager.getAttribute i = some x → x.userID = p.1 → x.agent = p.2 ∨ x.agent = 0
  off : ∀ i x, s.manager.getAttribute i = some x → x.agent = 0 → x.userStatus.onLoginServer = false
  fits : ∀ t ∈ s.manager.suspended, t.Fits

theorem agentInv_init : AgentInv account Served.init :=
  ⟨wf_init, by simp [Served.init, Agents.init, Agents.speakers], by simp [Served.init, State.init, State.getAttribute],
    by simp [Served.init, State.init]⟩

/-- A step of the connections, under the condition. -/
theorem AgentInv.agents {s : Served} (h : AgentInv account s) (agents : Agents Thread)
    (hspeak : ∀ p ∈ agents.speakers, p ∈ s.agents.speakers ∨ ∀ i x, s.manager.getAttribute i = some x → x.userID = p.1 →
      x.agent = p.2 ∨ x.agent = 0) (entering : List Entering) : AgentInv account ⟨s.manager, agents, entering⟩ := by
  refine ⟨h.wf, ?_, h.off, h.fits⟩
  intro p hp
  rcases hspeak p hp with hp | hp
  · exact h.speaks p hp
  · exact hp

/-- A handler of the manager, under the condition. -/
theorem AgentInv.serve {s s' : Served} (h : AgentInv account s) {l : Label} (hl : l.agent ≠ some 0)
    (hc : ∀ u agent, gives account s.manager l = some (u, agent) → ∀ q ∈ s.agents.speakers, q.1 = u → q.2 = agent)
    (hs : s.serve account l = some s') : AgentInv account s' := by
  simp only [Served.serve, Option.map_eq_some_iff] at hs
  obtain ⟨m, hm, rfl⟩ := hs
  have hwf := h.wf.step l hm
  have hf := follows_step h.wf h.fits l hl hm
  refine ⟨hwf, ?_, ?_, fun t ht => (hf.suspended t ht).elim (h.fits t) id⟩
  · intro p hp i y hy hu
    have hp : p ∈ s.agents.speakers := hp
    rcases hf.record i y hy with ⟨x, hx, hxu, ⟨ha, -⟩ | ⟨ha, -⟩ | hg⟩ | hg | ⟨ha, -⟩
    · rw [ha]
      exact h.speaks p hp i x hx (hxu ▸ hu)
    · exact Or.inr ha
    · exact Or.inl (hc _ _ hg p hp hu.symm).symm
    · exact Or.inl (hc _ _ hg p hp hu.symm).symm
    · exact Or.inr ha
  · intro i y hy ha0
    rcases hf.record i y hy with ⟨x, hx, hxu, ⟨ha, hst⟩ | ⟨-, hst⟩ | hg⟩ | hg | ⟨-, hst⟩
    · rw [hst]
      exact h.off i x hx (ha ▸ ha0)
    · exact hst
    · exact absurd ha0 (given_ne_zero h.fits hl hg)
    · exact absurd ha0 (given_ne_zero h.fits hl hg)
    · exact hst

/-- A message to the manager is handled after the answer its handler has waited for, if it has, is
taken and `exit` is sent. -/
theorem servedStep_manager {s s' : Served} {l : Label} (h : servedStep account s (.manager l) = some s') :
    l.agent ≠ some 0 ∧ ∃ agents : Agents Thread, agents.speakers = s.agents.speakers ∧ agents.copies = s.agents.copies ∧
      Served.serve account { s with agents := agents } l = some s' := by
  unfold servedStep at h
  split at h
  · cases h
  · rename_i hl
    cases hl
    rw [Option.ite_none_left_eq_some] at h
    obtain ⟨hl, h⟩ := h
    refine ⟨hl, ?_⟩
    split at h
    · exact ⟨s.agents, rfl, rfl, h⟩
    · rw [Option.bind_eq_some_iff] at h
      obtain ⟨p, -, h⟩ := h
      exact ⟨Agents.send { s.agents with answers := s.agents.answers.erase p } [.exit p.1], rfl,
        by simp [Agents.copies, Agents.send, Agents.cacheOf], h⟩
  all_goals
    rename_i hl
    cases hl

/-- One label keeps the invariant, under the condition. -/
theorem AgentInv.step {s s' : Served} (h : AgentInv account s) {l : ServedLabel} (hc : loginAlone account s l)
    (hs : servedStep account s l = some s') : AgentInv account s' := by
  cases l with
  | manager l =>
    have hgives : ∀ u agent, gives account s.manager l = some (u, agent) → ∀ q ∈ s.agents.speakers, q.1 = u →
      q.2 = agent := by
      intro u agent hg q hq hu
      simp only [loginAlone, hg, Option.all_some, List.all_eq_true] at hc
      have := hc q hq
      exact (of_decide_eq_true this).resolve_left (not_not_intro hu)
    obtain ⟨hl, agents, hsp, -, hs⟩ := servedStep_manager hs
    refine (h.agents agents (fun p hp => Or.inl (hsp ▸ hp)) s.entering).serve hl ?_ hs
    intro u agent hg q hq
    exact hgives u agent hg q (hsp ▸ hq)
  | disconnect k =>
    simp only [servedStep, Option.bind_eq_some_iff] at hs
    obtain ⟨p, hp, hs⟩ := hs
    refine (h.agents { s.agents with events := s.agents.events.eraseIdx k } ?_ s.entering).serve (l := .clientDisconnect p.1)
      (by simp [Label.agent]) ?_ hs
    · intro q hq
      refine Or.inl ?_
      simp only [Agents.speakers, List.mem_append] at hq ⊢
      exact hq.imp_right List.mem_of_mem_eraseIdx
    · intro u agent hg
      simp [gives, registered, switched] at hg
  | loaded k =>
    simp only [servedStep, Option.map_eq_some_iff] at hs
    obtain ⟨e, -, rfl⟩ := hs
    exact h.agents (s.agents.send _) (fun p hp => Or.inl hp) _
  | notLoaded k =>
    simp only [servedStep, Option.map_eq_some_iff] at hs
    obtain ⟨e, -, rfl⟩ := hs
    exact h.agents s.agents (fun p hp => Or.inl hp) _
  | agents l =>
    simp only [servedStep, Option.map_eq_some_iff] at hs
    obtain ⟨agents, hstep, rfl⟩ := hs
    refine h.agents _ ?_ _
    intro p hp
    rcases Agents.speakers_step hstep hp with hp | ⟨k, c, rfl, hm, rfl⟩
    · exact Or.inl hp
    · right
      intro i x hx hu
      obtain ⟨r, hr, -⟩ := exists_record hx
      have hlt := (h.wf.platform _ _ (h.wf.indexed i r hr)).2
      simp only [loginAlone, hm, Option.all_some, List.all_eq_true, List.mem_range] at hc
      have := hc i hlt
      simp only [hx, Option.all_some, decide_eq_true_eq] at this
      exact this.resolve_left (not_not_intro hu)

end SasyServer.Session
