import SasyServer.Lemmas.SessionMoves

/-!
# Two invariants of the session manager

`HolderInv`: a user that a game server got and has not given back is on that server by its record. `StampInv`: an item with a
stamp has the status `US_NULL`. Both are kept by every move of a handler that does not wait; what a handler does after a wait
keeps them under a condition on the state it finds then, because it writes what it had worked out before.
-/

namespace SasyServer.Session

variable {account : Nat → Nat}

/-- After the events of the log (the newest first) the game server has the user: it got `GLC_SUCCESS` and has neither logged
the user out nor been disconnected since. -/
def Holds : List Event → Nat → Nat → Prop
  | [], _, _ => False
  | .loginSuccess s u :: log, server, user => (s = server ∧ u = user) ∨ Holds log server user
  | .logout s u :: log, server, user => ¬(s = server ∧ u = user) ∧ Holds log server user
  | .gameServerDisconnect s :: log, server, user => s ≠ server ∧ Holds log server user
  | .loginRefused _ _ :: log, server, user | .kickGS _ _ :: log, server, user | .kickAgent _ :: log, server, user
  | .fail _ :: log, server, user => Holds log server user

/-- No two game servers have one user: between two logins of a user to different servers the first server has logged the user
out or has been disconnected. -/
def OneServer (log : List Event) : Prop :=
  ∀ newer between older user first second,
    log = newer ++ Event.loginSuccess second user :: (between ++ Event.loginSuccess first user :: older) → first ≠ second →
      Event.logout first user ∈ between ∨ Event.gameServerDisconnect first ∈ between

/-- Plain events, and errors, give and take nothing. -/
theorem holds_append_plain {evs log : List Event} (h : ∀ e ∈ evs, e.plain ∨ ∃ f, e = .fail f) (server user : Nat) :
    Holds (evs ++ log) server user ↔ Holds log server user := by
  induction evs with
  | nil => rfl
  | cons e evs ih =>
    have he := h e (by simp)
    have ih := ih fun e' he' => h e' (List.mem_cons_of_mem _ he')
    cases e with
    | loginSuccess s u => simp [Event.plain] at he
    | logout s u => simp [Event.plain] at he
    | gameServerDisconnect s => simp [Event.plain] at he
    | loginRefused s c => exact ih
    | kickGS s u => exact ih
    | kickAgent a => exact ih
    | fail f => exact ih

/-- A login that is neither logged out nor cut off by a disconnect holds. -/
theorem holds_of_between {between older : List Event} {server user : Nat} (h1 : Event.logout server user ∉ between)
    (h2 : Event.gameServerDisconnect server ∉ between) :
    Holds (between ++ Event.loginSuccess server user :: older) server user := by
  induction between with
  | nil => exact Or.inl ⟨rfl, rfl⟩
  | cons e between ih =>
    rw [List.mem_cons, not_or] at h1 h2
    have ih := ih h1.2 h2.2
    cases e with
    | loginSuccess s u => exact Or.inr ih
    | logout s u =>
      refine ⟨?_, ih⟩
      rintro ⟨rfl, rfl⟩
      exact h1.1 rfl
    | gameServerDisconnect s =>
      refine ⟨?_, ih⟩
      rintro rfl
      exact h2.1 rfl
    | loginRefused s c => exact ih
    | kickGS s u => exact ih
    | kickAgent a => exact ih
    | fail f => exact ih

/-- One more event: a login has to be to the server that holds the user, if one does. -/
theorem OneServer.cons {log : List Event} (h : OneServer log) {e : Event}
    (he : ∀ second user, e = .loginSuccess second user → ∀ first, Holds log first user → first = second) : OneServer
    (e :: log) := by
  intro newer between older user first second heq hne
  cases newer with
  | nil =>
    obtain ⟨rfl, hlog⟩ := List.cons.inj heq
    by_contra hno
    rw [not_or] at hno
    refine hne (he second user rfl first ?_)
    rw [hlog]
    exact holds_of_between hno.1 hno.2
  | cons e' newer =>
    obtain ⟨-, hlog⟩ := List.cons.inj heq
    exact h newer between older user first second hlog hne

/-- Plain events are no logins. -/
theorem OneServer.append_plain {evs log : List Event} (h : OneServer log) (he : ∀ e ∈ evs, e.plain ∨ ∃ f, e = .fail f) :
    OneServer (evs ++ log) := by
  induction evs with
  | nil => exact h
  | cons e evs ih =>
    refine (ih fun e' he' => he e' (List.mem_cons_of_mem _ he')).cons ?_
    intro second user hev
    rw [hev] at he
    have := he _ (List.mem_cons_self ..)
    simp [Event.plain] at this

/-- The record says that the user is on the game server. -/
def OnServer (a : Option Sui) (server user : Nat) : Prop :=
  ∃ x, a = some x ∧ x.userID = user ∧ x.userStatus.onGameServer ∧ x.serverID = server

/-- A user has at most one item with a record. -/
def OneRecord (s : State) : Prop :=
  ∀ i j x y, s.getAttribute i = some x → s.getAttribute j = some y → x.userID = y.userID → i = j

/-- A user held by a game server is there by its record, and nobody is held by a server whose
disconnect is being worked off. -/
structure HolderInv (account : Nat → Nat) (s : State) : Prop where
  wf : WF account s
  unique : OneRecord s
  held : ∀ server user, Holds s.log server user → ∃ i, OnServer (s.getAttribute i) server user
  swept : ∀ server i agent u, Thread.gameServerDisconnect server i agent u ∈ s.suspended → ∀ user, ¬Holds s.log server user
  one : OneServer s.log

/-- An item with a stamp has the status `US_NULL`, and `cleanExpiredInfo` has not met another. -/
structure StampInv (account : Nat → Nat) (s : State) : Prop where
  wf : WF account s
  stamped : ∀ i x, s.getAttribute i = some x → stampOf s i ≠ none → x.userStatus = .usNull
  clean : ∀ u st, Event.fail (.cleanExpiredInfo u st) ∉ s.log

theorem holderInv_init : HolderInv account State.init :=
  ⟨wf_init, fun _ _ _ _ h => by simp [State.init, State.getAttribute] at h, fun _ _ h => h.elim, by simp [State.init],
    fun _ _ _ _ _ _ h => by simp [State.init] at h⟩

theorem stampInv_init : StampInv account State.init :=
  ⟨wf_init, by simp [State.init, State.getAttribute], by simp [State.init]⟩

/-! ## Holders -/

/-- The record of an item after an operation is of the user it was of, or of one who had none. -/
def SameUser (s : State) (i : Nat) (a : Option Sui) : Prop :=
  ∀ y, a = some y → (∃ x, s.getAttribute i = some x ∧ x.userID = y.userID) ∨ ∀ j x, s.getAttribute j = some x →
    x.userID ≠ y.userID

theorem SameUser.refl (s : State) (i : Nat) : SameUser s i (s.getAttribute i) := fun y hy => Or.inl ⟨y, hy, rfl⟩

/-- An operation on one item leaves every user at most one record. -/
theorem OneRecord.acts {s s' : State} (h : OneRecord s) {i : Nat} {a : Option Sui} {ts : Option Nat}
    (ha : Acts account s s' i a ts) (hu : SameUser s i a) :
    OneRecord s' := by
  have hself : ∀ j x y, s'.getAttribute i = some y → j ≠ i → s.getAttribute j = some x → x.userID ≠ y.userID := by
    intro j x y hy hj hx hxy
    rcases hu y (ha.self.symm.trans hy) with ⟨z, hz, hzy⟩ | hnew
    · exact hj (h j i x z hx hz (hxy.trans hzy.symm))
    · exact hnew j x hx hxy
  intro j k x y hx hy hxy
  by_cases hj : j = i
  · by_cases hk : k = i
    · exact hj.trans hk.symm
    · rw [ha.other k hk] at hy
      exact absurd hxy.symm (hself k y x (hj ▸ hx) hk hy)
  · by_cases hk : k = i
    · rw [ha.other j hj] at hx
      exact absurd hxy (hself j x y (hk ▸ hy) hj hx)
    · rw [ha.other j hj] at hx
      rw [ha.other k hk] at hy
      exact h j k x y hx hy hxy

/-- A move keeps the user of a record; a registration is of a user who had none. -/
theorem Moved.sameUser {s s' : State} {k : Kind} {i : Nat} {a : Option Sui} {ts : Option Nat} {evs : List Event}
    {waits : List Thread} (m : Moved account k s s' i a ts evs waits)
    (hnew : ∀ u, k = .register u → ∀ j x, s.getAttribute j = some x → x.userID ≠ u) : SameUser s i a := by
  intro y hy
  cases m.move with
  | plain _ _ | restamp _ | stamp _ | kickWait _ _ _ _ _ | switchWait _ _ _ _ | cleanFail _ _ _ _ | sweepWait _ _ =>
    exact Or.inl ⟨y, hy, rfl⟩
  | kick x _ _ hx _ _ | switch x _ _ _ hx _ _ | logout x _ _ _ hx _ _ _ | offline x _ hx _ | disconnect x hx =>
    cases hy
    exact Or.inl ⟨x, hx, rfl⟩
  | login x z _ _ _ hx hl =>
    cases hy
    exact Or.inl ⟨x, hx, (loginUpdate_userID hl).symm⟩
  | register x ha =>
    cases hy
    exact Or.inr (hnew _ rfl)
  | create _ | expire _ _ _ | sweep _ _ => cases hy

/-- The frame rule: nobody is newly held, and a user that is still held stays on its server. -/
theorem HolderInv.frame {s s' : State} (h : HolderInv account s) {i : Nat} {a : Option Sui} {ts : Option Nat}
    (ha : Acts account s s' i a ts) (hu : SameUser s i a)
    (hlog : ∀ server user, Holds s'.log server user → Holds s.log server user)
    (hsus : ∀ server j agent u, Thread.gameServerDisconnect server j agent u ∈ s'.suspended →
      Thread.gameServerDisconnect server j agent u ∈ s.suspended ∨ ∀ user, ¬Holds s.log server user)
    (hkeep : ∀ server user, Holds s'.log server user → OnServer (s.getAttribute i) server user → OnServer a server user)
    (hone : OneServer s'.log) : HolderInv account s' := by
  refine ⟨ha.wf, h.unique.acts ha hu, ?_, ?_, hone⟩
  · intro server user hh
    obtain ⟨j, hj⟩ := h.held server user (hlog server user hh)
    by_cases hji : j = i
    · subst hji
      exact ⟨j, by rw [ha.self]; exact hkeep server user hh hj⟩
    · exact ⟨j, by rw [ha.other j hji]; exact hj⟩
  · intro server j agent u ht user hh
    rcases hsus server j agent u ht with hold | hnone
    · exact h.swept server j agent u hold user (hlog server user hh)
    · exact hnone user (hlog server user hh)

/-- A login leaves the user on the server, and one who was on a server before was on this one. -/
theorem onServer_login {x y : Sui} {kindID nodeID serverID : Nat} (h : loginUpdate x kindID nodeID serverID = some y) :
    y.userStatus.onGameServer ∧ y.serverID = serverID ∧ (x.userStatus.onGameServer → x.serverID = serverID) := by
  unfold loginUpdate at h
  cases hst : x.userStatus with
  | usNull | usLs =>
    rw [hst] at h
    cases h
    exact ⟨rfl, rfl, by simp [UserStatus.onGameServer]⟩
  | usGs | usLsGs =>
    rw [hst] at h
    simp only at h
    split at h
    · rename_i hs
      cases h
      exact ⟨by rw [hst]; rfl, hs, fun _ => hs⟩
    · cases h
  | usGsOffline | usLsGsOffline =>
    rw [hst] at h
    simp only at h
    split at h
    · rename_i hs
      cases h
      exact ⟨rfl, hs, fun _ => hs⟩
    · cases h

/-- The status changes that keep a user on its game server. -/
theorem kickedStatus_onGameServer {a b : UserStatus} (h : kickedStatus a = some b) : b.onGameServer = a.onGameServer := by
  cases a <;> simp [kickedStatus] at h <;> subst h <;> rfl

theorem switchedStatus_onGameServer (a : UserStatus) : (switchedStatus a).onGameServer = a.onGameServer := by cases a <;> rfl

theorem offlineStatus_onGameServer {a b : UserStatus} (h : offlineStatus a = some b) : b.onGameServer = a.onGameServer := by
  cases a <;> simp [offlineStatus] at h <;> subst h <;> rfl

theorem disconnectedStatus_onGameServer (a : UserStatus) : (disconnectedStatus a).onGameServer = a.onGameServer := by
  cases a <;> rfl

/-- A record with another status that keeps the user on its server. -/
theorem OnServer.setStatus {x y : Sui} (hu : y.userID = x.userID) (hs : y.serverID = x.serverID)
    (ho : y.userStatus.onGameServer = x.userStatus.onGameServer) {server user : Nat} (h : OnServer (some x) server user) :
    OnServer (some y) server user := by
  obtain ⟨z, hz, h1, h2, h3⟩ := h
  rw [Option.some.injEq] at hz
  subst hz
  exact ⟨y, rfl, hu.trans h1, ho.trans h2, hs.trans h3⟩

/-- What a login answers and what it does to the holders: whoever held the user was this server. -/
theorem HolderInv.login_unique {s : State} (h : HolderInv account s) {i : Nat} {x y : Sui}
    {kindID nodeID serverID : Nat} (hx : s.getAttribute i = some x) (hl : loginUpdate x kindID nodeID serverID = some y)
    {server : Nat} (hh : Holds s.log server y.userID) : server = serverID := by
  obtain ⟨j, z, hz, hu, ho, hs⟩ := h.held server y.userID hh
  rw [loginUpdate_userID hl] at hu
  have hji := h.unique j i z x hz hx hu
  subst hji
  rw [hx, Option.some.injEq] at hz
  subst hz
  rw [← hs]
  exact (onServer_login hl).2.2 ho

/-- A login: the server did not hold anyone's user but this one's, and its disconnect is not being worked off. -/
theorem HolderInv.login {s s' : State} (h : HolderInv account s) {i : Nat} {x y : Sui}
    {kindID nodeID serverID : Nat} {ts : Option Nat} (ha : Acts account s s' i (some y) ts) (hx : s.getAttribute i = some x)
    (hl : loginUpdate x kindID nodeID serverID = some y) (hlog : s'.log = .loginSuccess serverID y.userID :: s.log)
    (hsus : s'.suspended = s.suspended)
    (hcalm : ∀ j agent u, Thread.gameServerDisconnect serverID j agent u ∉ s.suspended) : HolderInv account s' := by
  have hy := onServer_login hl
  refine ⟨ha.wf, h.unique.acts ha ?_, ?_, ?_, ?_⟩
  · intro z hz
    cases hz
    exact Or.inl ⟨x, hx, (loginUpdate_userID hl).symm⟩
  · intro server user hh
    rw [hlog] at hh
    by_cases hu : user = y.userID
    · -- a holder of this user is this server
      have hserver : server = serverID := by
        rcases hh with ⟨rfl, -⟩ | hh
        · rfl
        · exact h.login_unique hx hl (hu ▸ hh)
      exact ⟨i, y, ha.self, hu.symm, hy.1, by rw [hy.2.1, hserver]⟩
    · rcases hh with ⟨-, rfl⟩ | hh
      · exact absurd rfl hu
      · obtain ⟨j, z, hz, hzu, hzo, hzs⟩ := h.held server user hh
        have hji : j ≠ i := by
          rintro rfl
          rw [hx, Option.some.injEq] at hz
          subst hz
          exact hu (hzu.symm.trans (loginUpdate_userID hl).symm)
        exact ⟨j, z, by rw [ha.other j hji]; exact hz, hzu, hzo, hzs⟩
  · intro server j agent u ht user hh
    rw [hsus] at ht
    rw [hlog] at hh
    rcases hh with ⟨rfl, -⟩ | hh
    · exact hcalm j agent u ht
    · exact h.swept server j agent u ht user hh
  · rw [hlog]
    refine h.one.cons ?_
    intro second user hev first hh
    cases hev
    exact h.login_unique hx hl hh

/-- A logout: the user is no longer held by the server of its record. -/
theorem HolderInv.logout {s s' : State} (h : HolderInv account s) {i : Nat} {x : Sui} {a : Option Sui} {ts : Option Nat}
    (ha : Acts account s s' i a ts) (hu : SameUser s i a) (hx : s.getAttribute i = some x)
    (hlog : s'.log = .logout x.serverID x.userID :: s.log)
    (hsus : ∀ server j agent u, Thread.gameServerDisconnect server j agent u ∈ s'.suspended →
      Thread.gameServerDisconnect server j agent u ∈ s.suspended ∨ ∀ user, ¬Holds s.log server user) : HolderInv
        account s' := by
  refine h.frame ha hu ?_ hsus ?_ ?_
  · intro server user hh
    rw [hlog] at hh
    exact hh.2
  · intro server user hh hon
    rw [hlog] at hh
    obtain ⟨z, hz, hzu, -, hzs⟩ := hon
    rw [hx, Option.some.injEq] at hz
    subst hz
    exact absurd ⟨hzs, hzu⟩ hh.1
  · rw [hlog]
    refine h.one.cons ?_
    intro _ _ hev
    cases hev

/-- Only a sweep that is interrupted leaves a disconnect waiting. -/
theorem Moved.sweeping {s s' : State} {k : Kind} {i : Nat} {a : Option Sui} {ts : Option Nat} {evs : List Event}
    {waits : List Thread} (m : Moved account k s s' i a ts evs waits) {server j agent u : Nat}
    (ht : Thread.gameServerDisconnect server j agent u ∈ s'.suspended) :
    Thread.gameServerDisconnect server j agent u ∈ s.suspended ∨ k = .sweepWait server := by
  rw [m.suspended, List.mem_append] at ht
  rcases ht with ht | ht
  · exact Or.inl ht
  right
  cases m.move with
  | sweepWait x hx =>
    rw [List.mem_singleton, Thread.gameServerDisconnect.injEq] at ht
    rw [ht.1]
  | logout x new _ _ hx hn ht' hw =>
    rcases hw with rfl | rfl
    · cases ht
    · simp at ht
  | _ => simp at ht

/-- The moves of the handlers keep the invariant: a user that is registered has no record, a server that logs a user
in is not being swept, a record that is released is not that of a held user, and a server whose disconnect is
interrupted holds nobody. -/
theorem HolderInv.moved {s s' : State} (h : HolderInv account s) {k : Kind} {i : Nat}
    {a : Option Sui} {ts : Option Nat} {evs : List Event} {waits : List Thread} (m : Moved account k s s' i a ts evs waits)
    (hnew : ∀ u, k = .register u → ∀ j x, s.getAttribute j = some x → x.userID ≠ u)
    (hlogin : ∀ server, k = .login server → ∀ j agent u, Thread.gameServerDisconnect server j agent u ∉ s.suspended)
    (hrel : k = .release → ∀ x, s.getAttribute i = some x → ¬Holds s.log x.serverID x.userID ∨ x.userStatus = .usNull)
    (hwait : ∀ server, k = .sweepWait server → ∀ user, ¬Holds s.log server user) : HolderInv account s' := by
  have hsus : ∀ server j agent u, Thread.gameServerDisconnect server j agent u ∈ s'.suspended →
      Thread.gameServerDisconnect server j agent u ∈ s.suspended ∨ ∀ user, ¬Holds s.log server user := by
    intro server j agent u ht
    rcases m.sweeping ht with ht | hk
    · exact Or.inl ht
    · exact Or.inr (hwait server hk)
  have hu := m.sameUser hnew
  -- the moves with plain events: nobody is newly held, and the record has to be looked at
  have hplain : (∀ e ∈ evs, e.plain ∨ ∃ f, e = .fail f) →
      (∀ server user, Holds s.log server user → OnServer (s.getAttribute i) server user → OnServer a server user) →
      HolderInv account s' := by
    intro he hk
    have hl : ∀ server user, Holds s'.log server user → Holds s.log server user := by
      intro server user hh
      rw [m.log] at hh
      exact (holds_append_plain he server user).1 hh
    exact h.frame m.acts hu hl hsus (fun server user hh => hk server user (hl server user hh))
      (m.log ▸ h.one.append_plain he)
  -- a record that stays on its server
  have hstay : ∀ x y, s.getAttribute i = some x → a = some y → y.userID = x.userID → y.serverID = x.serverID →
      y.userStatus.onGameServer = x.userStatus.onGameServer →
      ∀ server user, Holds s.log server user → OnServer (s.getAttribute i) server user → OnServer a server user := by
    intro x y hx hy hu hs ho server user _ hon
    rw [hx] at hon
    rw [hy]
    exact hon.setStatus hu hs ho
  -- a record that is released
  have hgone : k = .release → ∀ server user, Holds s.log server user → OnServer (s.getAttribute i) server user →
      OnServer a server user := by
    rintro hk server user hh ⟨x, hx, hu, ho, hs⟩
    rcases hrel hk x hx with hno | hnull
    · exact absurd (hs ▸ hu ▸ hh) hno
    · rw [hnull] at ho
      cases ho
  cases m.move with
  | plain _ he => exact hplain (fun e h => Or.inl (he e h)) fun _ _ _ hon => hon
  | restamp _ => exact hplain (by simp) fun _ _ _ hon => hon
  | stamp _ => exact hplain (by simp) fun _ _ _ hon => hon
  | kickWait x new kick hx hn => exact hplain (by simp) fun _ _ _ hon => hon
  | kick x new _ hx hn he =>
    exact hplain (fun e h => Or.inl (he e h)) (hstay x _ hx rfl rfl rfl (kickedStatus_onGameServer hn))
  | switchWait x agent hx hn => exact hplain (by simp) fun _ _ _ hon => hon
  | switch x agent _ _ hx ht he =>
    exact hplain (fun e h => Or.inl (he e h)) (hstay x _ hx rfl rfl rfl (switchedStatus_onGameServer _))
  | create ha => exact hplain (by simp) fun _ _ _ ⟨x, hx, _⟩ => by rw [ha] at hx; cases hx
  | register y ha => exact hplain (by simp) fun _ _ _ ⟨x, hx, _⟩ => by rw [ha] at hx; cases hx
  | login x y kindID nodeID serverID hx hl =>
    exact h.login m.acts hx hl m.log (by rw [m.suspended, List.append_nil]) (hlogin serverID rfl)
  | logout x new _ _ hx hn ht hw => exact h.logout m.acts hu hx m.log hsus
  | offline x new hx hn => exact hplain (by simp) (hstay x _ hx rfl rfl rfl (offlineStatus_onGameServer hn))
  | disconnect x hx => exact hplain (by simp) (hstay x _ hx rfl rfl rfl (disconnectedStatus_onGameServer _))
  | expire x hx hn => exact hplain (by simp) (hgone rfl)
  | cleanFail x hx hn ht => exact hplain (by simp) fun _ _ _ hon => hon
  | sweepWait x hx => exact hplain (by simp) fun _ _ _ hon => hon
  | sweep x hx => exact hplain (by simp) (hgone rfl)

/-! ## Stamps -/

/-- Every move keeps the stamps right. -/
theorem StampInv.moved {s s' : State} (h : StampInv account s) {k : Kind} {i : Nat} {a : Option Sui} {ts : Option Nat}
    {evs : List Event} {waits : List Thread} (m : Moved account k s s' i a ts evs waits) : StampInv account s' := by
  -- an item whose status is not `US_NULL` has no stamp
  have hno : ∀ x, s.getAttribute i = some x → x.userStatus ≠ .usNull → stampOf s i = none := by
    intro x hx hst
    by_contra hts
    exact hst (h.stamped i x hx hts)
  have hself : ∀ y, a = some y → ts ≠ none → y.userStatus = .usNull := by
    intro y hy hts
    cases m.move with
    | plain _ _ => exact h.stamped i y hy hts
    | restamp hs => exact h.stamped i y hy hs
    | stamp hs => exact hs y hy
    | kickWait x new kick hx hn => exact h.stamped i y hy hts
    | kick x new _ hx hn he =>
      cases hy
      simp only at hts ⊢
      by_contra hnew
      rw [if_neg hnew] at hts
      refine hts (hno x hx ?_)
      intro hst
      rw [hst] at hn
      cases hn
    | switchWait x agent hx hn => exact absurd rfl hts
    | switch x agent _ _ hx ht he =>
      rcases ht with rfl | ⟨rfl, hst⟩
      · exact absurd rfl hts
      · exact absurd (hno x hx hst) hts
    | create ha => cases hy
    | register x ha => exact absurd rfl hts
    | login x z _ _ _ hx hl => exact absurd rfl hts
    | logout x new _ _ hx hn ht hw =>
      cases hy
      rcases ht with rfl | ⟨hnew, -⟩
      · refine absurd (hno x hx ?_) hts
        intro hst
        rw [hst] at hn
        cases hn
      · exact hnew
    | offline x new hx hn =>
      refine absurd (hno x hx ?_) hts
      intro hst
      rw [hst] at hn
      cases hn
    | disconnect x hx =>
      cases hy
      simp only at hts ⊢
      by_contra hnew
      rw [if_neg hnew] at hts
      refine hts (hno x hx ?_)
      intro hst
      rw [hst] at hnew
      exact hnew rfl
    | expire x hx hn => cases hy
    | cleanFail x hx hn ht => exact absurd (h.stamped i x hx ht) hn
    | sweepWait x hx => exact h.stamped i y hy hts
    | sweep x hx => cases hy
  refine ⟨m.acts.wf, ?_, ?_⟩
  · intro j y hy hts
    by_cases hj : j = i
    · subst hj
      rw [m.acts.self] at hy
      rw [m.acts.stamp] at hts
      exact hself y hy hts
    · rw [m.acts.other j hj] at hy
      rw [m.acts.otherStamp j hj] at hts
      exact h.stamped j y hy hts
  · intro u st hm
    rw [m.log, List.mem_append] at hm
    rcases hm with hm | hm
    · cases m.move with
      | plain _ he => exact absurd (he _ hm) (by simp [Event.plain])
      | kick x new _ hx hn he => exact absurd (he _ hm) (by simp [Event.plain])
      | switch x agent _ _ hx ht he => exact absurd (he _ hm) (by simp [Event.plain])
      | cleanFail x hx hn ht => exact absurd (h.stamped i x hx ht) hn
      | _ => simp at hm
    · exact h.clean u st hm

end SasyServer.Session
