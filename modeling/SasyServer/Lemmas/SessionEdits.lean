import SasyServer.Lemmas.SessionMoves

/-!
# Handlers that leave the indexes alone

Most handlers of the session manager only write the log, wait, and change the times of an item and the attributes of
its record: `Edits`. What such a handler may do to a record is `Kept`: the record keeps its agent, loses it together
with its place on the login server, or gets a new one. So the indexes (`Quiet`) and the agents of the records are
looked at here once for all of them.
-/

namespace SasyServer.Session

variable {account : Nat → Nat}

/-- The statuses of a user with a connection to the login server. -/
def UserStatus.onLoginServer : UserStatus → Bool
  | .usLs | .usLsGs | .usLsGsOffline => true
  | .usNull | .usGs | .usGsOffline => false

/-- The record `y` that was `x`. `G` says which agents users may get. -/
def Kept (G : Nat → Nat → Prop) (x y : Sui) : Prop :=
  y.userID = x.userID ∧
    (y.agent = x.agent ∧ y.userStatus.onLoginServer = x.userStatus.onLoginServer ∨
      y.agent = 0 ∧ y.userStatus.onLoginServer = false ∨ G y.userID y.agent)

/-- `s'` comes from `s` by writing the log, waiting (`T` says for what), and changing times and records. -/
inductive Edits (G : Nat → Nat → Prop) (T : Thread → Prop) : State → State → Prop
  | refl (s : State) : Edits G T s s
  | emit {s s' : State} (h : Edits G T s s') (e : Event) : Edits G T s (s'.emit e)
  | suspend {s s' : State} (h : Edits G T s s') (t : Thread) (ht : T t) : Edits G T s (s'.suspend t)
  | setItem {s s' : State} (h : Edits G T s s') (i : Nat) (f : Item → Item) (hp : ∀ it, (f it).platformID = it.platformID)
      (hs : ∀ it, (f it).session = it.session) (hr : ∀ it, (f it).sui = it.sui) : Edits G T s (s'.setItem i f)
  | setAttribute {s s' : State} (h : Edits G T s s') (r : Nat) (f : Sui → Sui) (hf : Kept G (s'.sui r) (f (s'.sui r))) :
      Edits G T s (s'.setAttribute r f)

section Handlers

variable {G : Nat → Nat → Prop} {T : Thread → Prop} {s s₀ : State}

/-- A write of a status only. -/
theorem kept_of_status {x : Sui} {new : UserStatus} (h : new.onLoginServer = x.userStatus.onLoginServer) (k n v : Nat) :
    Kept G x { x with userStatus := new, kindID := k, nodeID := n, serverID := v } := ⟨rfl, Or.inl ⟨rfl, h⟩⟩

/-- The end of a user's stay on the login server. -/
theorem kept_of_leave {x : Sui} {new : UserStatus} (h : new.onLoginServer = false) :
    Kept G x { x with agent := 0, userStatus := new } :=
  ⟨rfl, Or.inr (Or.inl ⟨rfl, h⟩)⟩

/-- `kickLS` writes the record after its wait, and the stamp for a user who is nowhere any more. -/
theorem Edits.kickLSWrite (h : Edits G T s₀ s) (i : Nat) {new : UserStatus}
    (hnew : ∀ x, Kept G x { x with agent := 0, userStatus := new }) (kick : Option (Nat × Nat)) :
    Edits G T s₀ (kickLSWrite s i new kick) := by
  unfold Session.kickLSWrite
  cases (s.items i).sui with
  | none => exact h.emit _
  | some r =>
    have hwrite := h.setAttribute r (fun a => { a with agent := 0, userStatus := new }) (hnew _)
    have hstamp : Edits G T s₀
      (if new = .usNull then (s.setAttribute r fun a => { a with agent := 0, userStatus := new }).setItem i
        fun it => { it with suiActiveTS := some s.now } else s.setAttribute r
          fun a => { a with agent := 0, userStatus := new }) := by
      split
      · exact hwrite.setItem i _ (fun _ => rfl) (fun _ => rfl) fun _ => rfl
      · exact hwrite
    cases kick with
    | none => exact hstamp
    | some p => exact hstamp.emit _

theorem Edits.kickLS (h : Edits G T s₀ s) (i : Nat) (x : Sui) {new : UserStatus} (hnew : new.onLoginServer = false)
    (kick : Option (Nat × Nat)) (ht : T (.kickLS i x.agent x.userStatus new kick)) :
    Edits G T s₀ (kickLS s i x new kick) := by
  unfold Session.kickLS
  split
  · exact h.suspend _ ht
  · exact h.kickLSWrite i (fun _ => kept_of_leave hnew) kick

/-- `cmd_registerSession` after it has changed the indexes. -/
theorem Edits.kickOld (h : Edits G T s₀ s) (i : Nat)
    (ht : ∀ agent seen new kick, new.onLoginServer = false → T (.kickLS i agent seen new kick)) :
    Edits G T s₀ (match s.getAttribute i with
      | none => s
      | some attr =>
        match attr.userStatus with
        | .usLs => Session.kickLS s i attr .usNull none
        | .usGs => s.emit (.kickGS attr.serverID attr.userID)
        | .usGsOffline => s
        | .usLsGs => Session.kickLS s i attr .usGs (some (attr.serverID, attr.userID))
        | .usLsGsOffline => Session.kickLS s i attr .usGsOffline none
        | .usNull => s) := by
  split
  · exact h
  · split
    · exact h.kickLS i _ rfl _ (ht _ _ _ _ rfl)
    · exact h.emit _
    · exact h
    · exact h.kickLS i _ rfl _ (ht _ _ _ _ rfl)
    · exact h.kickLS i _ rfl _ (ht _ _ _ _ rfl)
    · exact h

theorem edits_getUserItemByPlatformID (p : Nat) (update : Bool) : Edits G T s (getUserItemByPlatformID s p update) := by
  unfold getUserItemByPlatformID
  split
  · split
    · exact (Edits.refl s).setItem _ _ (fun _ => rfl) (fun _ => rfl) fun _ => rfl
    · exact .refl s
  · exact .refl s

theorem Edits.switchWrite (h : Edits G T s₀ s) (i : Nat) (new : UserStatus) (agent : Nat)
    (hg : ∀ r, (s.items i).sui = some r → G (s.sui r).userID agent) : Edits G T s₀ (switchWrite s i new agent) := by
  unfold Session.switchWrite
  split
  · exact h.emit _
  · rename_i r hr
    exact h.setAttribute r _ ⟨rfl, Or.inr (Or.inr (hg r hr))⟩

/-- `cmd_switchUserItem` gives the user the new agent at once, or waits for the old one. -/
theorem edits_switchUserItem (p agent : Nat)
    (hg : ∀ i x, s.platformID p = some i → s.getAttribute i = some x →
      (x.userStatus.onLoginServer → x.agent = 0) → G x.userID agent)
    (ht : ∀ i old seen new, T (.switchUserItem i old seen new agent)) : Edits G T s (switchUserItem s p agent) := by
  unfold switchUserItem
  split
  · exact (Edits.refl s).emit _
  · rename_i i hp
    split
    · exact (Edits.refl s).emit _
    · rename_i x hx
      have htimes :=
        (Edits.refl (G := G) (T := T) s).setItem i (fun it => { it with sessionActiveTS := s.now, suiActiveTS := none })
        (fun _ => rfl) (fun _ => rfl) fun _ => rfl
      have hwrite : (x.userStatus.onLoginServer → x.agent = 0) → Edits G T s (switchWrite (s.setItem i fun it =>
          { it with sessionActiveTS := s.now, suiActiveTS := none }) i (switchedStatus x.userStatus) agent) := by
        intro hk
        refine htimes.switchWrite i _ agent ?_
        intro r hr
        rw [field_setItem Item.sui rfl] at hr
        rw [getAttribute_eq hr, Option.some.injEq] at hx
        exact hx ▸ hg i x hp (hx ▸ getAttribute_eq hr) hk
      dsimp only
      cases hst : x.userStatus with
      | usNull | usGs | usGsOffline =>
        rw [hst] at hwrite
        exact hwrite (by simp [UserStatus.onLoginServer])
      | usLs | usLsGs | usLsGsOffline =>
        rw [hst] at hwrite
        dsimp only
        split
        · exact htimes.suspend _ (ht _ _ _ _)
        · rename_i ha
          exact hwrite fun _ => not_ne_iff.1 ha

/-- A login to a game server does not change the agent. -/
theorem kept_loginUpdate {x y : Sui} {kindID nodeID serverID : Nat} (h : loginUpdate x kindID nodeID serverID = some y) :
    Kept G x y := by
  have hu := loginUpdate_userID h
  unfold loginUpdate at h
  cases hst : x.userStatus with
  | usNull | usLs =>
    rw [hst] at h
    cases h
    exact ⟨rfl, Or.inl ⟨rfl, by rw [hst]; rfl⟩⟩
  | usGs | usLsGs | usGsOffline | usLsGsOffline =>
    rw [hst] at h
    simp only [Option.ite_none_right_eq_some, Option.some.injEq] at h
    obtain ⟨-, rfl⟩ := h
    exact ⟨rfl, Or.inl ⟨rfl, by simp [hst, UserStatus.onLoginServer]⟩⟩

/-- The call changes one record, or none. -/
theorem edits_gsLogin (session : String) (kindID nodeID serverID : Nat) :
    Edits G T s (gsLogin s session kindID nodeID serverID) := by
  unfold gsLogin
  split
  · exact (Edits.refl s).emit _
  · rename_i i _
    split
    · exact (Edits.refl s).emit _
    · split
      · rename_i r _ _ attr hl
        have hwrite := (Edits.refl (G := G) (T := T) s).setAttribute r (fun _ => attr) (kept_loginUpdate hl)
        have htimes :=
          hwrite.setItem i (fun it => { it with suiActiveTS := none }) (fun _ => rfl) (fun _ => rfl) fun _ => rfl
        exact htimes.emit _
      · exact ((Edits.refl s).emit _).emit _

theorem Edits.gsLogoutStamp (h : Edits G T s₀ s) (i : Nat) (new : UserStatus) : Edits G T s₀ (gsLogoutStamp s i new) := by
  unfold Session.gsLogoutStamp
  split
  · exact h.setItem i _ (fun _ => rfl) (fun _ => rfl) fun _ => rfl
  · exact h

theorem onLoginServer_loggedOut {a b : UserStatus} (h : loggedOutStatus a = some b) : b.onLoginServer = a.onLoginServer := by
  cases a <;> simp [loggedOutStatus] at h <;> subst h <;> rfl

/-- The call changes one record or waits for the data to be loaded. -/
theorem edits_gsLogout (u kindID nodeID serverID : Nat) (bOffLine : Bool) (ht : ∀ i new, T (.gsLogout i new)) :
    Edits G T s (gsLogout s u kindID nodeID serverID bOffLine) := by
  unfold gsLogout
  split
  · exact .refl s
  · rename_i i _
    split
    · exact (Edits.refl s).emit _
    · rename_i r _
      split
      · exact (Edits.refl s).emit _
      · rename_i new hnew
        split
        · have hwrite := ((Edits.refl (G := G) (T := T) s).setAttribute r
            (fun a => { a with userStatus := new, kindID := 0, nodeID := 0, serverID := 0 })
            (kept_of_status (onLoginServer_loggedOut hnew) 0 0 0)).emit (.logout serverID u)
          split
          · exact hwrite.gsLogoutStamp i _
          · exact hwrite.suspend _ (ht i new)
        · exact (Edits.refl s).emit _

theorem onLoginServer_offline {a b : UserStatus} (h : offlineStatus a = some b) : b.onLoginServer = a.onLoginServer := by
  cases a <;> simp [offlineStatus] at h <;> subst h <;> rfl

/-- The call changes one record, or none. -/
theorem edits_gsOffline (u kindID nodeID serverID : Nat) : Edits G T s (gsOffline s u kindID nodeID serverID) := by
  unfold gsOffline
  split
  · exact .refl s
  · split
    · exact (Edits.refl s).emit _
    · rename_i r _
      split
      · exact (Edits.refl s).emit _
      · rename_i new hnew
        split
        · exact (Edits.refl s).setAttribute r _ (kept_of_status (onLoginServer_offline hnew) _ _ _)
        · exact (Edits.refl s).emit _

theorem onLoginServer_disconnected (a : UserStatus) : (disconnectedStatus a).onLoginServer = false := by cases a <;> rfl

/-- The record of the user loses its agent. -/
theorem edits_onEventClientDisconnect (u : Nat) : Edits G T s (onEventClientDisconnect s u) := by
  unfold onEventClientDisconnect
  split
  · exact .refl s
  · rename_i i _
    split
    · exact .refl s
    · rename_i r _
      have hwrite := (Edits.refl (G := G) (T := T) s).setAttribute r
        (fun a => { a with agent := 0, userStatus := disconnectedStatus (s.sui r).userStatus })
        (kept_of_leave (onLoginServer_disconnected _))
      dsimp only
      split
      · exact hwrite.setItem i _ (fun _ => rfl) (fun _ => rfl) fun _ => rfl
      · exact hwrite

end Handlers

/-! ## What edits leave alone -/

/-- `s'` is `s` but for times, statuses, agents, the log and the handlers that wait. -/
structure Quiet (s s' : State) : Prop where
  session : s'.session = s.session
  platformID : s'.platformID = s.platformID
  userID : s'.userID = s.userID
  itemCount : s'.itemCount = s.itemCount
  buffer : s'.buffer = s.buffer
  item : ∀ i, (s'.items i).sui = (s.items i).sui ∧ (s'.items i).session = (s.items i).session ∧
    (s'.items i).platformID = (s.items i).platformID
  sui : ∀ r, (s'.sui r).userID = (s.sui r).userID

/-- None of these changes adds or takes away a record or a session. -/
theorem Edits.quiet {G : Nat → Nat → Prop} {T : Thread → Prop} {s s' : State} (h : Edits G T s s') : Quiet s s' := by
  induction h with
  | refl => exact ⟨rfl, rfl, rfl, rfl, rfl, fun _ => ⟨rfl, rfl, rfl⟩, fun _ => rfl⟩
  | emit _ _ ih => exact ⟨ih.session, ih.platformID, ih.userID, ih.itemCount, ih.buffer, ih.item, ih.sui⟩
  | suspend _ _ _ ih => exact ⟨ih.session, ih.platformID, ih.userID, ih.itemCount, ih.buffer, ih.item, ih.sui⟩
  | setItem _ i f hp hs hr ih =>
    refine ⟨ih.session, ih.platformID, ih.userID, ih.itemCount, ih.buffer, ?_, ih.sui⟩
    intro j
    obtain ⟨h1, h2, h3⟩ := ih.item j
    exact ⟨(field_setItem Item.sui (hr _) j).trans h1, (field_setItem Item.session (hs _) j).trans h2,
      (field_setItem Item.platformID (hp _) j).trans h3⟩
  | @setAttribute s' _ r f hf ih =>
    refine ⟨ih.session, ih.platformID, ih.userID, ih.itemCount, ih.buffer, ih.item, ?_⟩
    intro x
    rw [← ih.sui x]
    by_cases hx : x = r
    · subst hx
      simp only [State.setAttribute, Function.update_self]
      exact hf.1
    · simp only [State.setAttribute, Function.update_of_ne hx]

/-- A new handler that waits is one of those the edits allow. -/
theorem Edits.suspended {G : Nat → Nat → Prop} {T : Thread → Prop} {s s' : State} (h : Edits G T s s') {t : Thread}
    (ht : t ∈ s'.suspended) : t ∈ s.suspended ∨ T t := by
  induction h with
  | refl => exact Or.inl ht
  | emit _ _ ih => exact ih ht
  | suspend _ t' ht' ih =>
    simp only [State.suspend, List.mem_append, List.mem_singleton] at ht
    rcases ht with ht | rfl
    · exact ih ht
    · exact Or.inr ht'
  | setItem _ _ _ _ _ _ ih => exact ih ht
  | setAttribute _ _ _ _ ih => exact ih ht

/-! ## The items and the pool fit together in every state -/

theorem Moves1.wf {s s' : State} {k : Kind} (h : Moves1 account k s s') : WF account s' := by
  obtain ⟨_, _, _, _, _, m⟩ := h
  exact m.acts.wf

/-- The indexes stay as they are. -/
theorem WF.kickLSWrite {s : State} (h : WF account s) (i : Nat) (new : UserStatus) (kick : Option (Nat × Nat)) :
    WF account (kickLSWrite s i new kick) := by
  cases hr : (s.items i).sui with
  | none =>
    unfold Session.kickLSWrite
    rw [hr]
    exact h.emit _
  | some r =>
    obtain ⟨_, ha, -⟩ := acts_kickLSWrite h hr new kick
    exact ha.wf

theorem WF.switchWrite {s : State} (h : WF account s) (i : Nat) (new : UserStatus) (agent : Nat) :
    WF account (switchWrite s i new agent) := by
  unfold Session.switchWrite
  split
  · exact h.emit _
  · rename_i r hr
    exact (acts_setAttribute h hr rfl).wf

theorem WF.gsLogoutStamp {s : State} (h : WF account s) (i : Nat) (new : UserStatus) :
    WF account (gsLogoutStamp s i new) := by
  unfold Session.gsLogoutStamp
  split
  · exact (acts_setItem h i (f := fun it => { it with suiActiveTS := some s.now }) (fun _ => rfl) (fun _ => rfl)
      fun _ => rfl).wf
  · exact h

theorem WF.disconnectLoop {s : State} (h : WF account s) (serverID : Nat) (order : List String) :
    WF account (disconnectLoop serverID s order) :=
  disconnectLoop_rule serverID (fun _ h => h) (fun _ _ _ _ _ _ _ m => m.acts.wf) (fun _ _ _ _ _ _ _ m => m.acts.wf) order s h

theorem WF.cleanLoop {s : State} (h : WF account s) (order : List String) : WF account (cleanLoop s order) :=
  cleanLoop_rule (fun _ h => h) (fun _ _ _ _ _ _ _ _ m => m.acts.wf) (fun _ _ _ _ _ _ _ m => m.acts.wf) order s h

/-- A handler that goes on after a wait. -/
theorem WF.resumeThread {s : State} (h : WF account s) (order : List String) (t : Thread) :
    WF account (resumeThread s order t) := by
  cases t with
  | kickLS i agent seen new kick => exact (h.emit _).kickLSWrite i new kick
  | switchUserItem i agent seen new newAgent => exact (h.emit _).switchWrite i new newAgent
  | gsLogout i new => exact h.gsLogoutStamp i new
  | gameServerDisconnect serverID i agent u =>
    simp only [Session.resumeThread, disconnectResume]
    split
    · exact (acts_forgetUser (h.emit _) i u).wf.disconnectLoop serverID order
    · rename_i r hr
      exact (acts_releaseSui (h.emit _) hr u).wf.disconnectLoop serverID order

/-- One label. -/
theorem WF.step {s s' : State} (l : Label) (h : WF account s) (hs : step account s l = some s') : WF account s' := by
  cases l with
  | registerSession name p => cases hs; exact (moves1_registerSession h name p).wf
  | getUserItemByPlatformID p u => cases hs; exact (moves1_getUserItemByPlatformID h p u).wf
  | switchUserItem p a => cases hs; exact (moves1_switchUserItem h p a).wf
  | registerUser p a => cases hs; exact (moves1_registerUser h p a).elim Moves1.wf fun ⟨_, _, _, hm⟩ => hm.wf
  | gsLogin name k n srv => cases hs; exact (moves1_gsLogin h name k n srv).elim Moves1.wf Moves1.wf
  | gsLogout u k n srv b => cases hs; exact (moves1_gsLogout h u k n srv b).wf
  | gsOffline u k n srv => cases hs; exact (moves1_gsOffline h u k n srv).wf
  | clientDisconnect u => cases hs; exact (moves1_onEventClientDisconnect h u).wf
  | gameServerDisconnect serverID order => cases hs; exact (h.emit _).disconnectLoop serverID order
  | cleanExpiredInfo order => cases hs; exact h.cleanLoop order
  | tick n => cases hs; exact h.setNow _
  | resume k order =>
    simp only [Session.step, Option.map_eq_some_iff] at hs
    obtain ⟨t, -, rfl⟩ := hs
    exact (h.setSuspended _).resumeThread order t
  | abort k =>
    simp only [Session.step, Option.bind_eq_some_iff, Option.ite_none_right_eq_some, Option.some.injEq] at hs
    obtain ⟨t, -, -, rfl⟩ := hs
    exact h.setSuspended _

end SasyServer.Session
