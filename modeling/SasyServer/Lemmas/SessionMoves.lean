import SasyServer.Lemmas.SessionState

/-!
# Every handler, as a sequence of moves

A move is what a handler does to one item between two of its waits: `Move` lists them all, with the record and the stamp
before and after, the events and the handler that now waits. The invariants of the session manager are proved move by move,
and the handlers only once, here, to consist of moves (`Moves`).
-/

namespace SasyServer.Session

variable {account : Nat → Nat}

/-- The events that neither give a user to a game server nor take one from it, nor are the error of `cleanExpiredInfo`. -/
def Event.plain : Event → Bool
  | .loginSuccess _ _ | .logout _ _ | .gameServerDisconnect _ | .fail (.cleanExpiredInfo _ _) => false
  | _ => true

/-- The status `cmd_registerSession` gives, where it ends the user's stay on the login server. -/
def kickedStatus : UserStatus → Option UserStatus
  | .usLs => some .usNull
  | .usLsGs => some .usGs
  | .usLsGsOffline => some .usGsOffline
  | .usNull | .usGs | .usGsOffline => none

/-- The moves that the invariants need to tell apart: a user gets a record, a game server gets a user, a record is released,
and the work on a game server's disconnect is interrupted. -/
inductive Kind where
  | calm
  | register (userID : Nat)
  | login (serverID : Nat)
  | release
  | sweepWait (serverID : Nat)

/-- What can happen to an item with record `a` and stamp `ts` at the time `now`: the new record and stamp, the events (the
newest first) and the handlers that wait. -/
inductive Move (i now : Nat) (a : Option Sui) (ts : Option Nat) :
    Kind → Option Sui → Option Nat → List Event → List Thread → Prop
  | plain (evs : List Event) (h : ∀ e ∈ evs, e.plain) : Move i now a ts .calm a ts evs []
  | restamp (h : ts ≠ none) : Move i now a ts .calm a (some now) [] []
  | stamp (h : ∀ x, a = some x → x.userStatus = .usNull) : Move i now a ts .calm a (some now) [] []
  | kickWait (x : Sui) (new : UserStatus) (kick : Option (Nat × Nat)) (h : a = some x)
    (hn : kickedStatus x.userStatus = some new) :
      Move i now a ts .calm a ts [] [.kickLS i x.agent x.userStatus new kick]
  | kick (x : Sui) (new : UserStatus) (evs : List Event) (h : a = some x) (hn : kickedStatus x.userStatus = some new)
      (he : ∀ e ∈ evs, e.plain) :
      Move i now a ts .calm (some { x with agent := 0, userStatus := new }) (if new = .usNull then some now else ts) evs []
  | switchWait (x : Sui) (agent : Nat) (h : a = some x) (hn : kickedStatus x.userStatus ≠ none) :
      Move i now a ts .calm a none [] [.switchUserItem i x.agent x.userStatus (switchedStatus x.userStatus) agent]
  | switch (x : Sui) (agent : Nat) (ts' : Option Nat) (evs : List Event) (h : a = some x)
      (ht : ts' = none ∨ (ts' = ts ∧ x.userStatus ≠ .usNull)) (he : ∀ e ∈ evs, e.plain) :
      Move i now a ts .calm (some { x with agent := agent, userStatus := switchedStatus x.userStatus }) ts' evs []
  | create (h : a = none) : Move i now a ts .calm none none [] []
  | register (x : Sui) (h : a = none) : Move i now a ts (.register x.userID) (some x) none [] []
  | login (x y : Sui) (kindID nodeID serverID : Nat) (h : a = some x) (hl : loginUpdate x kindID nodeID serverID = some y) :
      Move i now a ts (.login serverID) (some y) none [.loginSuccess serverID y.userID] []
  | logout (x : Sui) (new : UserStatus) (ts' : Option Nat) (waits : List Thread) (h : a = some x)
      (hn : loggedOutStatus x.userStatus = some new)
      (ht : ts' = ts ∨ (new = .usNull ∧ ts' = some now)) (hw : waits = [] ∨ waits = [.gsLogout i new]) :
      Move i now a ts .calm (some { x with userStatus := new, kindID := 0, nodeID := 0, serverID := 0 }) ts'
        [.logout x.serverID x.userID] waits
  | offline (x : Sui) (new : UserStatus) (h : a = some x) (hn : offlineStatus x.userStatus = some new) :
      Move i now a ts .calm (some { x with userStatus := new }) ts [] []
  | disconnect (x : Sui) (h : a = some x) :
      Move i now a ts .calm (some { x with agent := 0, userStatus := disconnectedStatus x.userStatus })
        (if disconnectedStatus x.userStatus = .usNull then some now else ts) [] []
  | expire (x : Sui) (h : a = some x) (hn : x.userStatus = .usNull) : Move i now a ts .release none none [] []
  | cleanFail (x : Sui) (h : a = some x) (hn : x.userStatus ≠ .usNull) (ht : ts ≠ none) :
      Move i now a ts .calm a ts [.fail (.cleanExpiredInfo x.userID x.userStatus)] []
  | sweepWait (x : Sui) (h : a = some x) :
      Move i now a ts (.sweepWait x.serverID) a ts [] [.gameServerDisconnect x.serverID i x.agent x.userID]
  | sweep (x : Sui) (h : a = some x) : Move i now a ts .release none none [] []

/-- `s'` is `s` after one move of the item `i`. -/
structure Moved (account : Nat → Nat) (k : Kind) (s s' : State) (i : Nat) (a : Option Sui) (ts : Option Nat)
    (evs : List Event) (waits : List Thread) :
    Prop where
  acts : Acts account s s' i a ts
  move : Move i s.now (s.getAttribute i) (stampOf s i) k a ts evs waits
  log : s'.log = evs ++ s.log
  suspended : s'.suspended = s.suspended ++ waits

/-- A handler: its one move. -/
def Moves1 (account : Nat → Nat) (k : Kind) (s s' : State) : Prop :=
  ∃ i a ts evs waits, Moved account k s s' i a ts evs waits

/-- A move that only adds plain events. -/
theorem moves1_plain {s : State} (h : WF account s) (e : Event) (he : e.plain) : Moves1 account .calm s (s.emit e) :=
  ⟨0, _, _, [e], [], ⟨(Acts.refl h 0).emit e, .plain _ (by simpa using he), rfl, by simp [State.emit]⟩⟩

theorem moves1_refl {s : State} (h : WF account s) : Moves1 account .calm s s :=
  ⟨0, _, _, [], [], ⟨Acts.refl h 0, .plain _ (by simp), rfl, by simp⟩⟩

/-- The write at the end of `kickLS`, on an item with a record. -/
theorem acts_kickLSWrite {s : State} (h : WF account s) {i r : Nat} (hi : (s.items i).sui = some r) (new : UserStatus)
    (kick : Option (Nat × Nat)) :
    ∃ evs, Acts account s (kickLSWrite s i new kick) i (some { s.sui r with agent := 0, userStatus := new })
      (if new = .usNull then some s.now else stampOf s i) ∧ (∀ e ∈ evs, e.plain) ∧
      (kickLSWrite s i new kick).log = evs ++ s.log ∧ (kickLSWrite s i new kick).suspended = s.suspended := by
  have h1 := acts_setAttribute h hi (f := fun a => { a with agent := 0, userStatus := new }) rfl
  have h2 : Acts account s
    (if new = .usNull then (s.setAttribute r fun a => { a with agent := 0, userStatus := new }).setItem i
      fun it => { it with suiActiveTS := some s.now } else s.setAttribute r
        fun a => { a with agent := 0, userStatus := new }) i
      (some { s.sui r with agent := 0, userStatus := new }) (if new = .usNull then some s.now else stampOf s i) := by
    by_cases hn : new = .usNull
    · rw [if_pos hn, if_pos hn]
      have h3 := acts_setItem h1.wf i (f := fun it => { it with suiActiveTS := some s.now })
        (fun _ => rfl) (fun _ => rfl) fun _ => rfl
      rw [h1.self] at h3
      exact h1.trans h3
    · rw [if_neg hn, if_neg hn]
      exact h1
  unfold kickLSWrite
  rw [hi]
  cases kick with
  | none =>
    refine ⟨[], h2, by simp, ?_, ?_⟩
    · simp only
      split <;> rfl
    · simp only
      split <;> rfl
  | some p =>
    refine ⟨[.kickGS p.1 p.2], h2.emit _, by simp [Event.plain], ?_, ?_⟩
    · simp only
      split <;> rfl
    · simp only
      split <;> rfl

/-- `kickLS` is one move, whether it waits or not. -/
theorem moves1_kickLS {s s₀ : State} {i : Nat} {x : Sui} {new : UserStatus} (kick : Option (Nat × Nat))
    (ha : Acts account s₀ s i (s₀.getAttribute i) (stampOf s₀ i)) (hx : s₀.getAttribute i = some x)
    (hn : kickedStatus x.userStatus = some new) (hlog : s.log = s₀.log) (hsus : s.suspended = s₀.suspended)
    (hnow : s.now = s₀.now) : Moves1 account .calm s₀ (kickLS s i x new kick) := by
  unfold kickLS
  split
  · exact ⟨i, _, _, [], _, ⟨ha.suspend _, .kickWait x new kick hx hn, hlog, by simp [State.suspend, hsus]⟩⟩
  · obtain ⟨r, hr, hrx⟩ := exists_record (ha.self.trans hx)
    obtain ⟨evs, hk, he, hl, hs⟩ := acts_kickLSWrite ha.wf hr new kick
    refine ⟨i, _, _, evs, [], ⟨ha.trans hk, ?_, by rw [hl, hlog], by rw [hs, hsus, List.append_nil]⟩⟩
    rw [hrx, hnow, ha.stamp]
    exact .kick x new evs hx hn he

/-- `registerSession` is one move. -/
theorem moves1_registerSession {s : State} (h : WF account s) (name : String) (p : Nat) :
    Moves1 account .calm s (registerSession s name p) := by
  unfold registerSession
  cases hp : s.platformID p with
  | none =>
    refine ⟨s.itemCount, _, _, [], [], ⟨acts_create h hp name s.now, .create (getAttribute_none (fresh_sui h)), rfl, ?_⟩⟩
    simp
  | some i =>
    have ha := acts_rename h hp name s.now
    simp only
    cases hx : s.getAttribute i with
    | none =>
      rw [ha.self, hx]
      exact ⟨i, _, _, [], [], ⟨ha, .plain _ (by simp), rfl, by simp [State.setItem]⟩⟩
    | some x =>
      rw [ha.self, hx]
      simp only
      cases hst : x.userStatus with
      | usNull => exact ⟨i, _, _, [], [], ⟨ha, .plain _ (by simp), rfl, by simp [State.setItem]⟩⟩
      | usLs => exact moves1_kickLS none ha hx (by rw [hst]; rfl) rfl rfl rfl
      | usGs =>
        exact ⟨i, _, _, [_], [], ⟨ha.emit _, .plain _ (by simp [Event.plain]), rfl, by simp [State.setItem, State.emit]⟩⟩
      | usGsOffline => exact ⟨i, _, _, [], [], ⟨ha, .plain _ (by simp), rfl, by simp [State.setItem]⟩⟩
      | usLsGs => exact moves1_kickLS _ ha hx (by rw [hst]; rfl) rfl rfl rfl
      | usLsGsOffline => exact moves1_kickLS none ha hx (by rw [hst]; rfl) rfl rfl rfl

/-- The look-up renews the time stamp at most. -/
theorem moves1_getUserItemByPlatformID {s : State} (h : WF account s) (p : Nat) (update : Bool) :
    Moves1 account .calm s (getUserItemByPlatformID s p update) := by
  unfold getUserItemByPlatformID
  cases hp : s.platformID p with
  | none => exact moves1_refl h
  | some i =>
    simp only
    split
    · rename_i hc
      have ha := acts_setItem h i (f := fun it => { it with suiActiveTS := some s.now })
        (fun _ => rfl) (fun _ => rfl) fun _ => rfl
      exact ⟨i, _, _, [], [], ⟨ha, .restamp hc.2.2, rfl, by simp [State.setItem]⟩⟩
    · exact moves1_refl h

/-- The write of `switchUserItem`, after an operation that left the records alone. -/
theorem moves1_switchWrite {s s₀ : State} {i : Nat} {x : Sui} {ts : Option Nat} (agent : Nat)
    (ha : Acts account s₀ s i (s₀.getAttribute i) ts) (hx : s₀.getAttribute i = some x)
    (ht : ts = none ∨ (ts = stampOf s₀ i ∧ x.userStatus ≠ .usNull)) (hlog : s.log = s₀.log)
    (hsus : s.suspended = s₀.suspended) : Moves1 account .calm s₀ (switchWrite s i (switchedStatus x.userStatus) agent) := by
  obtain ⟨r, hr, hrx⟩ := exists_record (ha.self.trans hx)
  have hw := acts_setAttribute ha.wf hr (f := fun a => { a with agent := agent, userStatus := switchedStatus x.userStatus })
    rfl
  unfold switchWrite
  rw [hr]
  refine ⟨i, _, _, [], [], ⟨ha.trans hw, ?_, hlog, by simp [State.setAttribute, hsus]⟩⟩
  rw [hrx, ha.stamp]
  exact .switch x agent ts [] hx ht (by simp)

/-- The user is switched to another agent at once, or a wait for the former one begins. -/
theorem moves1_switchUserItem {s : State} (h : WF account s) (p agent : Nat) :
    Moves1 account .calm s (switchUserItem s p agent) := by
  unfold switchUserItem
  cases hp : s.platformID p with
  | none => exact moves1_plain h _ rfl
  | some i =>
    simp only
    cases hx : s.getAttribute i with
    | none => exact moves1_plain h _ rfl
    | some x =>
      have ha := acts_setItem h i (f := fun it => { it with sessionActiveTS := s.now, suiActiveTS := none }) (fun _ => rfl)
        (fun _ => rfl) fun _ => rfl
      have hwrite := moves1_switchWrite agent ha hx (Or.inl rfl) rfl rfl
      have hwait : kickedStatus x.userStatus ≠ none → Moves1 account .calm s ((s.setItem i fun it =>
          { it with sessionActiveTS := s.now, suiActiveTS := none }).suspend
            (.switchUserItem i x.agent x.userStatus (switchedStatus x.userStatus) agent)) :=
        fun hk => ⟨i, _, _, [], _, ⟨ha.suspend _, .switchWait x agent hx hk, rfl, rfl⟩⟩
      simp only
      cases hst : x.userStatus with
      | usNull => rw [hst] at hwrite; exact hwrite
      | usGs => rw [hst] at hwrite; exact hwrite
      | usGsOffline => rw [hst] at hwrite; exact hwrite
      | usLs =>
        rw [hst] at hwrite hwait
        simp only
        split
        · exact hwait (by simp [kickedStatus])
        · exact hwrite
      | usLsGs =>
        rw [hst] at hwrite hwait
        simp only
        split
        · exact hwait (by simp [kickedStatus])
        · exact hwrite
      | usLsGsOffline =>
        rw [hst] at hwrite hwait
        simp only
        split
        · exact hwait (by simp [kickedStatus])
        · exact hwrite

/-- `registerUser` is one move: an error, or a record for an item that has none. -/
theorem moves1_registerUser {s : State} (h : WF account s) (p agent : Nat) :
    Moves1 account .calm s (registerUser s p (account p) agent) ∨
      ∃ i, s.platformID p = some i ∧ (s.items i).sui = none ∧
        Moves1 account (.register (account p)) s (registerUser s p (account p) agent) := by
  unfold registerUser
  cases hp : s.platformID p with
  | none => exact Or.inl (moves1_plain h _ rfl)
  | some i =>
    simp only
    split
    · exact Or.inl (moves1_plain h _ rfl)
    · rename_i hr
      rw [not_ne_iff] at hr
      have hm := @Move.register i s.now _ (stampOf s i) ⟨account p, agent, .usLs, 0, 0, 0⟩ (getAttribute_none hr)
      refine Or.inr ⟨i, rfl, hr, i, _, _, [], [], ⟨acts_register h hp hr agent s.now, hm, rfl, ?_⟩⟩
      simp [State.setItem]

/-- A login keeps the user of the record. -/
theorem loginUpdate_userID {x y : Sui} {kindID nodeID serverID : Nat} (h : loginUpdate x kindID nodeID serverID = some y) :
    y.userID = x.userID := by
  unfold loginUpdate at h
  split at h
  · cases h; rfl
  · cases h; rfl
  all_goals
    split at h
    · cases h; rfl
    · cases h

/-- A login to a game server, which is refused or takes the user there. -/
theorem moves1_gsLogin {s : State} (h : WF account s) (session : String) (kindID nodeID serverID : Nat) :
    Moves1 account .calm s (gsLogin s session kindID nodeID serverID) ∨
      Moves1 account (.login serverID) s (gsLogin s session kindID nodeID serverID) := by
  unfold gsLogin
  cases hk : s.session session with
  | none => exact Or.inl (moves1_plain h _ rfl)
  | some i =>
    simp only
    cases hr : (s.items i).sui with
    | none => exact Or.inl (moves1_plain h _ rfl)
    | some r =>
      simp only
      cases hl : loginUpdate (s.sui r) kindID nodeID serverID with
      | none =>
        refine Or.inl ⟨i, _, _, [_, _], [], ⟨((Acts.refl h i).emit _).emit _, .plain _ (by simp [Event.plain]), rfl, ?_⟩⟩
        simp [State.emit]
      | some y =>
        have h1 := acts_setAttribute h hr (f := fun _ => y) (loginUpdate_userID hl)
        have h2 := acts_setItem h1.wf i (f := fun it => { it with suiActiveTS := none })
          (fun _ => rfl) (fun _ => rfl) fun _ => rfl
        rw [h1.self] at h2
        refine Or.inr
          ⟨i, _, _, [_], [],
            ⟨(h1.trans h2).emit _, .login (s.sui r) y kindID nodeID serverID (getAttribute_eq hr) hl, rfl, ?_⟩⟩
        simp [State.emit, State.setItem, State.setAttribute]

/-- The record the index of users leads to is that user's. -/
theorem userID_of_index {s : State} (h : WF account s) {u i r : Nat} (hu : s.userID u = some i)
    (hr : (s.items i).sui = some r) :
    (s.sui r).userID = u := by
  rw [h.user i r hr, (h.index u i hu).1]

/-- A logout from a game server: the record is changed, or the wait for the data begins. -/
theorem moves1_gsLogout {s : State} (h : WF account s) (userID kindID nodeID serverID : Nat) (bOffLine : Bool) :
    Moves1 account .calm s (gsLogout s userID kindID nodeID serverID bOffLine) := by
  unfold gsLogout
  cases hu : s.userID userID with
  | none => exact moves1_refl h
  | some i =>
    simp only
    cases hr : (s.items i).sui with
    | none => exact moves1_plain h _ rfl
    | some r =>
      simp only
      cases hn : loggedOutStatus (s.sui r).userStatus with
      | none => exact moves1_plain h _ rfl
      | some new =>
        simp only
        split
        · rename_i hc
          have h1 := (acts_setAttribute h hr
            (f := fun a => { a with userStatus := new, kindID := 0, nodeID := 0, serverID := 0 })
            rfl).emit (.logout serverID userID)
          have hev : Event.logout serverID userID = .logout (s.sui r).serverID (s.sui r).userID := by
            rw [hc.2.2, userID_of_index h hu hr]
          cases bOffLine with
          | false =>
            refine ⟨i, _, _, [_], _, ⟨h1.suspend _, ?_, rfl, rfl⟩⟩
            rw [hev]
            exact .logout (s.sui r) new _ _ (getAttribute_eq hr) hn (Or.inl rfl) (Or.inr rfl)
          | true =>
            simp only [if_true]
            unfold gsLogoutStamp
            split
            · rename_i hnull
              have h2 := acts_setItem h1.wf i (f := fun it => { it with suiActiveTS := some s.now }) (fun _ => rfl)
                (fun _ => rfl)
                fun _ => rfl
              rw [h1.self] at h2
              refine ⟨i, _, _, [_], [], ⟨h1.trans h2, ?_, rfl, by simp [State.emit, State.setItem, State.setAttribute]⟩⟩
              rw [hev]
              exact .logout (s.sui r) new _ _ (getAttribute_eq hr) hn (Or.inr ⟨hnull, rfl⟩) (Or.inl rfl)
            · refine ⟨i, _, _, [_], [], ⟨h1, ?_, rfl, by simp [State.emit, State.setAttribute]⟩⟩
              rw [hev]
              exact .logout (s.sui r) new _ _ (getAttribute_eq hr) hn (Or.inl rfl) (Or.inl rfl)
        · exact moves1_plain h _ rfl

/-- The user goes offline on a game server. -/
theorem moves1_gsOffline {s : State} (h : WF account s) (userID kindID nodeID serverID : Nat) :
    Moves1 account .calm s (gsOffline s userID kindID nodeID serverID) := by
  unfold gsOffline
  cases hu : s.userID userID with
  | none => exact moves1_refl h
  | some i =>
    simp only
    cases hr : (s.items i).sui with
    | none => exact moves1_plain h _ rfl
    | some r =>
      simp only
      cases hn : offlineStatus (s.sui r).userStatus with
      | none => exact moves1_plain h _ rfl
      | some new =>
        simp only
        split
        · refine ⟨i, _, _, [], [], ⟨acts_setAttribute h hr rfl, .offline (s.sui r) new (getAttribute_eq hr) hn, rfl, ?_⟩⟩
          simp [State.setAttribute]
        · exact moves1_plain h _ rfl

/-- The client of a user is gone. -/
theorem moves1_onEventClientDisconnect {s : State} (h : WF account s) (userID : Nat) :
    Moves1 account .calm s (onEventClientDisconnect s userID) := by
  unfold onEventClientDisconnect
  cases hu : s.userID userID with
  | none => exact moves1_refl h
  | some i =>
    simp only
    cases hr : (s.items i).sui with
    | none => exact moves1_refl h
    | some r =>
      simp only
      have h1 := acts_setAttribute h hr
        (f := fun a => { a with agent := 0, userStatus := disconnectedStatus (s.sui r).userStatus }) rfl
      have hm : Move i s.now (s.getAttribute i) (stampOf s i) .calm _ _ [] [] := .disconnect (s.sui r) (getAttribute_eq hr)
      split
      · rename_i hnull
        have h2 := acts_setItem h1.wf i (f := fun it => { it with suiActiveTS := some s.now })
          (fun _ => rfl) (fun _ => rfl) fun _ => rfl
        rw [h1.self] at h2
        rw [if_pos hnull] at hm
        exact ⟨i, _, _, [], [], ⟨h1.trans h2, hm, rfl, by simp [State.setItem, State.setAttribute]⟩⟩
      · rename_i hnull
        rw [if_neg hnull] at hm
        exact ⟨i, _, _, [], [], ⟨h1, hm, rfl, by simp [State.setAttribute]⟩⟩

/-! ## Loops -/

/-- The rule for the loop over the items of a game server: a property that its two moves keep holds after the loop. -/
theorem disconnectLoop_rule {P : State → Prop} (serverID : Nat) (hwf : ∀ s, P s → WF account s)
    (hsweep : ∀ s s' i x, P s → s.getAttribute i = some x → x.serverID = serverID →
    Moved account .release s s' i none none [] [] → P s')
    (hwait : ∀ s s' i x, P s → s.getAttribute i = some x → x.serverID = serverID →
      Moved account (.sweepWait serverID) s s' i (s.getAttribute i) (stampOf s i) []
        [.gameServerDisconnect serverID i x.agent x.userID] → P s')
    (order : List String) (s : State) (h : P s) : P (disconnectLoop serverID s order) := by
  induction order generalizing s with
  | nil => exact h
  | cons k order ih =>
    unfold disconnectLoop
    split
    · exact ih s h
    · rename_i i hk
      split
      · exact ih s h
      · rename_i r hr
        have hx := getAttribute_eq hr
        split
        · rename_i hsrv
          split
          · refine hwait s _ i _ h hx hsrv ⟨(Acts.refl (hwf s h) i).suspend _, ?_, rfl, rfl⟩
            exact hsrv ▸ Move.sweepWait (s.sui r) hx
          · refine ih _ (hsweep s _ i _ h hx hsrv ⟨acts_releaseSui (hwf s h) hr _, Move.sweep (s.sui r) hx, rfl, ?_⟩)
            simp [releaseSui, State.setItem]
        · exact ih s h

/-- The rule for the loop of `cleanExpiredInfo`. -/
theorem cleanLoop_rule {P : State → Prop} (hwf : ∀ s, P s → WF account s)
    (hcalm : ∀ s s' i a ts evs waits, P s → Moved account .calm s s' i a ts evs waits → P s')
    (hexpire : ∀ s s' i x, P s → s.getAttribute i = some x → x.userStatus = .usNull →
      Moved account .release s s' i none none [] [] → P s')
    (order : List String) (s : State) (h : P s) : P (cleanLoop s order) := by
  have hclean : ∀ s k i, P s → s.session k = some i → P (cleanSession s i) := by
    intro s k i h hk
    refine hcalm s _ i _ _ [] [] h ⟨acts_cleanSession (hwf s h) hk, .plain [] (by simp), ?_, ?_⟩
    · unfold cleanSession
      split <;> rfl
    · unfold cleanSession
      split <;> simp
  induction order generalizing s with
  | nil => exact h
  | cons k order ih =>
    unfold cleanLoop
    split
    · exact ih s h
    · rename_i i hk
      split
      · exact ih _ (hclean s k i h hk)
      · rename_i r hr
        have hx := getAttribute_eq hr
        split
        · rename_i hexp
          have hts : stampOf s i ≠ none := by
            intro hts
            simp [recordExpired, show (s.items i).suiActiveTS = none from hts] at hexp
          split
          · rename_i hst
            refine hcalm s _ i _ _ [_] [] h ⟨(Acts.refl (hwf s h) i).emit _, .cleanFail (s.sui r) hx hst hts, rfl, ?_⟩
            simp [State.emit]
          · rename_i hst
            rw [not_ne_iff] at hst
            have hrel : P (releaseSui s i r (s.sui r).userID) := by
              refine hexpire s _ i _ h hx hst ⟨acts_releaseSui (hwf s h) hr _, .expire (s.sui r) hx hst, rfl, ?_⟩
              simp [releaseSui, State.setItem]
            exact ih _ (hclean _ k i hrel hk)
        · exact ih _ (hclean s k i h hk)

end SasyServer.Session
