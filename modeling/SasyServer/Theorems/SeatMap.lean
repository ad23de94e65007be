import SasyServer.Lemmas.TableSeats

/-!
# Theorem: chairs, game data and user records agree, as long as no user is refused in the chair

`cmd_sitDown` takes the chair and writes the user's record before it makes its last checks, those of a VIP room, and it
leaves the chair taken when one of them fails, or when an error is raised on the way. The sink has no game data for such a
chair, so that `standUp` fails there for ever. The condition `sitSafe` is that this does not happen: a call that is not
refused earlier passes the last checks too.
-/

namespace SasyServer.TableFrame

open UserManager (UserStatus)

/-- The sink has not looked for missing game data. -/
def Clean (s : State) : Prop := .raised .missingGameData ∉ s.log

/-- The invariant. -/
def Sound (cfg : ServerConfig) (s : State) : Prop := Seated cfg s ∧ Clean s

/-- The invariant holds at the end of an operation, however it ends, and the sink has not looked for missing game data. -/
def Fine (cfg : ServerConfig) (a : Run) : Prop := a.Ends (Sound cfg) fun s e => Sound cfg s ∧ e ≠ .raised .missingGameData

/-- A step that changes neither the chairs, the game data, the records nor the log. -/
theorem Sound.congr {cfg : ServerConfig} {s s' : State} (h : Sound cfg s) (hc : s'.chairs = s.chairs)
    (hd : s'.gameData = s.gameData) (hu : s'.users = s.users) (hh : s'.userItemHash = s.userItemHash)
    (hl : s'.log = s.log) : Sound cfg s' := by
  refine ⟨h.1.congr hc hd hu hh, ?_⟩
  unfold Clean
  rw [hl]
  exact h.2

section Fine

variable {cfg : ServerConfig} {attr : Nat → Attr} {s : State} {r : Nat}

theorem clean_writeUser (h : Clean s) (userID r : Nat) (u : User) (st : UserStatus) (t c : Nat) :
    Clean (writeUser s userID r u st t c) := by
  rw [writeUser_eq]
  exact h

theorem clean_left (h : Clean s) (r : Nat) (u : User) : Clean (s.left r u) := by
  rw [State.left]
  exact clean_writeUser (by exact h) _ _ _ _ _ _

theorem clean_away (h : Clean s) (attr : Nat → Attr) (r : Nat) (u : User) : Clean (s.away attr r u) := by
  unfold State.away State.handedOver
  repeat' split
  all_goals exact clean_left h r u

/-- What `concludeGame` does on its way adds nothing to the log. -/
theorem lasting_clean (cfg : ServerConfig) (attr : Nat → Attr) : Lasting cfg attr Clean where
  write := fun _ _ _ _ h _ _ => clean_writeUser h _ _ _ _ _ _
  away := fun _ r u _ h _ _ _ => clean_away h attr r u
  stop := fun _ _ h => h
  concluding := fun _ _ h => h
  table := by
    intro s h
    unfold concludeTable
    split
    · exact h
    · exact h
  send := fun _ h => h

/-- A user in a chair stands up, and one who is not in a chair is refused. -/
theorem fine_standUp (h : Sound cfg s) (r : Nat) : Fine cfg (standUp cfg attr s r) := by
  cases hu : s.users r with
  | none =>
    rw [standUp, standUpWith, hu]
    exact ⟨h, by simp⟩
  | some u =>
    by_cases hc : s.chairs.lookup u.chairID = some r
    · exact (ends_standUp (lasting_clean cfg attr) h.1 hu hc (clean_away h.2 attr r u)).mono (fun _ hs => hs)
        fun _ _ hf => hf.elim
    · rw [standUp, standUpWith_other _ attr false hu hc]
      exact h

/-- A turn of the loop of `startGame` for a chair whose entry the sink has. -/
theorem fine_startUser (h : Sound cfg s) (c : Nat) : Fine cfg (startUser cfg s c) := by
  unfold startUser
  split
  case h_1 => exact h
  rename_i r hr
  dsimp only
  have hset : Sound cfg { s with offlineTime := Function.update s.offlineTime c 0 } := h.congr rfl rfl rfl rfl rfl
  split
  · exact ⟨hset, by simp⟩
  · obtain ⟨u, hu, ht, rfl, -⟩ := h.1.sits c r hr
    simp only [hu]
    split
    · rw [setUserStatus_eq hset.1.toPlaced hu _ _ _ (fun hst => by cases hst)]
      exact Attempt.ends_ok ⟨hset.1.write hu hr (by decide), clean_writeUser hset.2 _ _ _ _ _ _⟩
    · exact hset

/-- `startGame` writes no chair. -/
theorem fine_startGame (h : Sound cfg s) : Fine cfg (startGame cfg s) := by
  unfold startGame
  split
  · exact h
  · dsimp only
    refine Attempt.Ends.andThen (P := Sound cfg) ?_ fun s hs => Attempt.ends_ok (hs.congr rfl rfl rfl rfl rfl)
    have hstarted : Sound cfg
      { s with isGameStarted := true, isDrawStarted := true, isTableStarted := true, gameStatus := .play } :=
      h.congr rfl rfl rfl rfl rfl
    split
    · exact hstarted
    · refine Attempt.Ends.andThen (Attempt.ends_forEach (fun s c hs => fine_startUser hs c) _ _ hstarted) ?_
      intro s' hs'
      refine Attempt.ends_ok ?_
      split
      · exact hs'
      · exact hs'.congr rfl rfl rfl rfl rfl

/-- An owner, a password and a lock are nothing to the chairs. -/
theorem Seated.owned {c : Nat} (userID : Nat) (a : SitArgs)
    (h : Seated cfg { s with gameData := Function.update s.gameData c true }) :
    Seated cfg { s.owned cfg userID a with gameData := Function.update (s.owned cfg userID a).gameData c true } := by
  unfold State.owned
  split
  · split
    · exact h.congr rfl rfl rfl rfl
    · exact h.congr rfl rfl rfl rfl
  · exact h

theorem log_owned (s : State) (cfg : ServerConfig) (userID : Nat) (a : SitArgs) : (s.owned cfg userID a).log = s.log := by
  unfold State.owned
  repeat' split
  all_goals rfl

/-- The user has taken the chair, and the sink has its game data. -/
theorem Sound.sat (h : Sound cfg s) {u : User} (hu : s.users r = some u) (ht : u.tableID = invalidTable) (c : Nat)
    (a : SitArgs) :
    Sound cfg { sendTableState ((s.taken cfg r u c).owned cfg u.userID a) with
      gameData := Function.update ((s.taken cfg r u c).owned cfg u.userID a).gameData c true } := by
  have howned := Seated.owned u.userID a (h.1.taken hu ht c)
  have hclean : Clean ((s.taken cfg r u c).owned cfg u.userID a) := by
    unfold Clean
    rw [log_owned, State.taken, writeUser_eq]
    exact h.2
  generalize (s.taken cfg r u c).owned cfg u.userID a = s' at howned hclean ⊢
  exact ⟨howned.congr rfl rfl rfl rfl, hclean⟩

/-- A call that is refused before the chair is taken changes nothing; under the condition no other is refused, and the
chair and the entry of the sink come together. -/
theorem fine_sitDown (h : Sound cfg s) {c : Nat} {a : SitArgs} (hsafe : sitSafe cfg s (.sitDown attr r c a)) :
    Fine cfg (sitDown cfg attr s r c a) := by
  cases hu : s.users r with
  | none =>
    rw [sitDown, hu]
    exact ⟨h, by simp⟩
  | some u =>
    by_cases hat : u.tableID = invalidTable ∧ u.chairID = invalidChair
    · cases hr : sitRefusal cfg attr s r c a with
      | some failure =>
        rw [sitDown, hu]
        simp only
        rw [if_neg (not_not.2 hat), hr]
        refine ⟨h, ?_⟩
        rintro rfl
        cases sitRefusal_raised hr
      | none =>
        have hc := chair_free hr
        rw [sitDown_eq h.1 hu hat hsafe hr hc, onActionUserSitDown]
        have hdone := h.sat hu hat.1 (sitChair cfg s c a) a
        split
        · exact fine_startGame hdone
        · exact hdone
    · rw [sitDown, hu]
      simp only
      rw [if_pos hat]
      exact ⟨h, by simp⟩

/-- Nobody in a chair has this `userID`. -/
def Absent (userID : Nat) (s : State) : Prop := ∀ c r u, s.chairs.lookup c = some r → s.users r = some u → u.userID ≠ userID

theorem Absent.left {userID : Nat} (h : Seated cfg s) (ha : Absent userID s) {u : User} (hu : s.users r = some u) :
    Absent userID (s.left r u) := by
  intro c r' u' hr' hu'
  obtain ⟨hold, -, -, huser⟩ := h.lookup_left hu hr'
  exact ha c r' u' hold (huser ▸ hu')

theorem Absent.handedOver {userID : Nat} (ha : Absent userID s) (attr : Nat → Attr) : Absent userID (s.handedOver attr) := by
  unfold State.handedOver
  split <;> exact ha

/-- A user who has left is not in any chair. -/
theorem absent_left (h : Seated cfg s) {u : User} (hu : s.users r = some u) : Absent u.userID (s.left r u) := by
  intro c r' u' hr' hu' hid
  obtain ⟨-, -, hr, huser⟩ := h.lookup_left hu hr'
  have hsame := h.users r' u' (huser ▸ hu')
  rw [hid, h.users r u hu] at hsame
  exact hr (Option.some.inj hsame).symm

theorem Absent.away {userID : Nat} {u : User} (ha : Absent userID (s.left r u)) (attr : Nat → Attr) :
    Absent userID (s.away attr r u) := by
  unfold State.away
  split
  · exact ha.handedOver attr
  · exact ha

/-- Nobody comes to a chair while `concludeGame` runs. -/
theorem lasting_absent (cfg : ServerConfig) (attr : Nat → Attr) (userID : Nat) : Lasting cfg attr (Absent userID) where
  write := by
    intro s r u h ha hu hc c r' u' hr' hu'
    rw [writeUser_eq] at hr'
    rw [users_writeUser, if_neg (by decide)] at hu'
    by_cases hr : r' = r
    · subst hr
      rw [Function.update_self] at hu'
      obtain rfl := Option.some.inj hu'
      exact ha c r' u hr' hu
    · rw [Function.update_of_ne hr] at hu'
      exact ha c r' u' hr' hu'
  away := fun s r u h ha hu _ _ => (ha.left h hu).away attr
  stop := fun s _ ha => ha
  concluding := fun s _ ha => ha
  table := by
    intro s ha
    unfold concludeTable
    split
    · exact ha
    · exact ha
  send := fun s ha => ha

theorem fine_setOfflineTimer (h : Sound cfg s) (delay c : Nat) : Fine cfg (setOfflineTimer s delay c) := by
  unfold setOfflineTimer
  split
  · exact ⟨h, by simp⟩
  · exact Attempt.ends_ok (h.congr rfl rfl rfl rfl rfl)

/-- A user who goes offline stands up, or keeps the chair with another status. -/
theorem fine_userOffLine (h : Sound cfg s) (r : Nat) : Fine cfg (userOffLine cfg attr s r) := by
  unfold userOffLine
  split
  case h_1 => exact ⟨h, by simp⟩
  rename_i u hu
  split
  · rename_i hc
    rw [setUserStatus_eq h.1.toPlaced hu _ _ _ (fun hst => by cases hst)]
    exact Attempt.ends_ok ⟨h.1.write_other hu hc _ _ _, clean_writeUser h.2 _ _ _ _ _ _⟩
  · rename_i hc
    rw [ne_eq, not_not] at hc
    split
    · have hdata : s.gameData u.chairID = true := (h.1.data _).2 (AList.lookup_isSome.1 (by rw [hc]; rfl))
      have hw : Sound cfg (writeUser s u.userID r u .usOffline cfg.id u.chairID) :=
        ⟨h.1.write hu hc (by decide), clean_writeUser h.2 _ _ _ _ _ _⟩
      rw [setUserStatus_eq h.1.toPlaced hu _ _ _ fun _ => hdata, Attempt.ok_andThen]
      generalize writeUser s u.userID r u .usOffline cfg.id u.chairID = s' at hw ⊢
      dsimp only
      split
      · refine fine_setOfflineTimer ?_ _ _
        exact hw.congr rfl rfl rfl rfl rfl
      · exact Attempt.ends_ok (hw.congr rfl rfl rfl rfl rfl)
    · -- The user has left the table, so that the record can go.
      have hleft := ends_standUp ((lasting_absent cfg attr u.userID).and (lasting_clean cfg attr)) h.1 hu hc
        ⟨(absent_left h.1 hu).away attr, clean_away h.2 attr r u⟩
      refine Attempt.Ends.andThen (hleft.mono (fun _ hs => hs) fun _ _ hf => hf.elim) ?_
      rintro s' ⟨h', ha', hclean⟩
      unfold setUserStatus
      split
      · exact ⟨h', hclean⟩
      · rename_i r' hr'
        obtain ⟨u', hu', hid⟩ := h'.hash _ _ hr'
        simp only [hu']
        rw [if_neg (by rintro ⟨hst, -⟩; cases hst), ← hid]
        exact Attempt.ends_ok
          ⟨h'.write_other hu' (fun hc' => ha' _ _ _ hc' hu' hid) _ _ _, clean_writeUser hclean _ _ _ _ _ _⟩

/-- A user who is back keeps the chair. -/
theorem fine_gameOption (h : Sound cfg s) (r : Nat) : Fine cfg (gameOption s r) := by
  unfold gameOption
  split
  case h_1 => exact ⟨h, by simp⟩
  rename_i u hu
  split
  case isTrue => exact ⟨h, by simp⟩
  rename_i hc
  rw [ne_eq, not_not] at hc
  have hmem : u.chairID ∈ s.chairs := AList.lookup_isSome.1 (by rw [hc]; rfl)
  dsimp only
  -- The timers are nothing to the chairs.
  refine Attempt.Ends.andThen (P := fun s' => Sound cfg s' ∧ s'.chairs = s.chairs) ?_ ?_
  · split
    · split
      · exact ⟨h.congr rfl rfl rfl rfl rfl, rfl⟩
      · split
        · exact ⟨h.congr rfl rfl rfl rfl rfl, rfl⟩
        · unfold adjustOfflineTimer setOfflineTimer
          split
          · exact ⟨h.congr rfl rfl rfl rfl rfl, nofun⟩
          · exact ⟨h.congr rfl rfl rfl rfl rfl, rfl⟩
    · exact ⟨h, rfl⟩
  · rintro s' ⟨h', hchairs⟩
    have hdata : s'.gameData u.chairID = true := (h'.1.data _).2 (hchairs ▸ hmem)
    rw [if_neg (by simp [hdata])]
    exact h'

/-- A user who is kicked stands up. -/
theorem fine_kickUser (h : Sound cfg s) (r c : Nat) : Fine cfg (kickUser cfg attr s r c) := by
  unfold kickUser
  split
  case h_1 => exact ⟨h, by simp⟩
  split
  case h_1 => exact ⟨h, by simp⟩
  repeat' split
  all_goals first | exact ⟨h, by simp⟩ | exact fine_standUp h _

/-- The lock of a room changes no chair. -/
theorem fine_lockRoom (h : Sound cfg s) (r : Nat) (isLock : Bool) : Fine cfg (lockRoom attr s r isLock) := by
  unfold lockRoom
  split
  case h_1 => exact ⟨h, by simp⟩
  split
  case isTrue => exact ⟨h, by simp⟩
  split
  case isTrue => exact ⟨h, by simp⟩
  exact Attempt.ends_ok (h.congr rfl rfl rfl rfl rfl)

/-- The user in the chair of the timeout stands up. -/
theorem fine_onTimerOfflineWait (h : Sound cfg s) (c : Nat) : Fine cfg (onTimerOfflineWait cfg attr s c) := by
  unfold onTimerOfflineWait
  split
  case isTrue => exact h
  dsimp only
  split
  case h_1 => exact ⟨h.congr rfl rfl rfl rfl rfl, nofun⟩
  rename_i r hr
  refine Attempt.Ends.andThen (fine_standUp ?_ r) ?_
  · exact h.congr rfl rfl rfl rfl rfl
  · intro s' hs'
    split
    · exact fine_setOfflineTimer hs' _ _
    · exact hs'

/-- An operation is settled. -/
theorem sound_settle {a : Run} (h : Fine cfg a) : Sound cfg (settle a) := by
  unfold Fine Attempt.Ends at h
  unfold settle
  split at h
  · rename_i hn
    rw [hn]
    exact h
  · rename_i e he
    rw [he]
    refine ⟨h.1.1.congr rfl rfl rfl rfl, ?_⟩
    intro hm
    rcases List.mem_cons.1 hm with hm | hm
    · exact h.2 hm.symm
    · exact h.1.2 hm

/-- The chairs in another order. -/
theorem sound_rehash (h : Sound cfg s) {chairs : AList fun _ : Nat => Nat} (hp : chairs.entries.Perm s.chairs.entries) :
    Sound cfg { s with chairs := chairs } := by
  refine ⟨⟨h.1.toPlaced.rehash hp, ?_⟩, h.2⟩
  intro c
  rw [h.1.data]
  exact (AList.mem_of_perm hp).symm

theorem sound_login (h : Sound cfg s) {userID : Nat} (isAndroid : Bool) (hr : s.users r = none)
    (hid : s.userItemHash userID = none) (hpos : userID ≠ 0) :
    Sound cfg { s with
      users := Function.update s.users r (some ⟨userID, isAndroid, .usFree, invalidTable, invalidChair⟩)
      userItemHash := Function.update s.userItemHash userID (some r) } :=
  ⟨⟨h.1.toPlaced.login isAndroid hr hid hpos, h.1.data⟩, h.2⟩

theorem sound_switchUserItem (h : Sound cfg s) {s' : State} (hs : switchUserItem s r = some s') : Sound cfg s' := by
  obtain ⟨u, hu, rfl | rfl⟩ := switchUserItem_cases hs
  · exact h
  · exact ⟨⟨h.1.toPlaced.back hu, h.1.data_writeUser _ _ _ _ _ _⟩, clean_writeUser h.2 _ _ _ _ _ _⟩

theorem sound_elsewhere (h : Sound cfg s) {st : UserStatus} {t c : Nat} {s' : State}
    (hs : elsewhere cfg s r st t c = some s') :
    Sound cfg s' := by
  obtain ⟨u, hu, ht, rfl⟩ := elsewhere_cases hs
  exact ⟨h.1.write_other hu (fun hc => ht (h.1.record_of_sits hu hc).1) _ _ _, clean_writeUser h.2 _ _ _ _ _ _⟩

end Fine

theorem sound_init (cfg : ServerConfig) (time : Nat) : Sound cfg (State.init time) := by
  refine ⟨⟨placed_init cfg time, fun c => ?_⟩, nofun⟩
  exact ⟨nofun, fun hc => absurd hc (AList.notMem_empty c)⟩

/-- One label. -/
theorem Sound.step {cfg : ServerConfig} {s s' : State} {i : Label} (h : Sound cfg s) (hsafe : sitSafe cfg s i)
    (hs : step cfg s i = some s') : Sound cfg s' := by
  cases i with
  | sitDown attr r c a => exact Option.some.inj hs ▸ sound_settle (fine_sitDown h hsafe)
  | standUp attr r => exact Option.some.inj hs ▸ sound_settle (fine_standUp h r)
  | userOffLine attr r => exact Option.some.inj hs ▸ sound_settle (fine_userOffLine h r)
  | kickUser attr r c => exact Option.some.inj hs ▸ sound_settle (fine_kickUser h r c)
  | gameOption r => exact Option.some.inj hs ▸ sound_settle (fine_gameOption h r)
  | lockRoom attr r isLock => exact Option.some.inj hs ▸ sound_settle (fine_lockRoom h r isLock)
  | startGame => exact Option.some.inj hs ▸ sound_settle (fine_startGame h)
  | concludeGame attr gameStatus =>
    refine Option.some.inj hs ▸ sound_settle ?_
    exact (ends_concludeGame (lasting_clean cfg attr) h.1 h.2 gameStatus).mono (fun _ hs => hs) fun _ _ hf => hf.elim
  | wake =>
    obtain ⟨timer, -, rfl⟩ := Option.map_eq_some_iff.1 hs
    exact h.congr rfl rfl rfl rfl rfl
  | call timerID =>
    obtain ⟨timer, -, rfl⟩ := Option.map_eq_some_iff.1 hs
    exact h.congr rfl rfl rfl rfl rfl
  | timeout attr =>
    obtain ⟨i, -, rfl⟩ := Option.map_eq_some_iff.1 hs
    exact (sound_settle (fine_onTimerOfflineWait h i.bindParameter)).congr rfl rfl rfl rfl rfl
  | sleep =>
    obtain ⟨timer, -, rfl⟩ := Option.map_eq_some_iff.1 hs
    exact h.congr rfl rfl rfl rfl rfl
  | clock seconds => exact Option.some.inj hs ▸ h.congr rfl rfl rfl rfl rfl
  | rehash chairs =>
    simp only [TableFrame.step] at hs
    split at hs
    · rename_i hp
      exact Option.some.inj hs ▸ sound_rehash h (List.isPerm_iff.1 hp)
    · cases hs
  | login r userID isAndroid =>
    simp only [TableFrame.step] at hs
    split at hs
    · rename_i hn
      exact Option.some.inj hs ▸ sound_login h isAndroid hn.1 hn.2.1 hn.2.2
    · cases hs
  | switchUserItem r => exact sound_switchUserItem h hs
  | elsewhere r st t c => exact sound_elsewhere h hs

/-- In every run whose calls of `cmd_sitDown` meet the condition, whatever else happens: a chair is taken if and only if the
sink has game data for it; a user in a chair has the table, this chair and a status of at least `US_SIT`; nobody is in two
chairs; and the sink has never looked for missing game data. -/
theorem chairs_have_gameData_of_sitSafe (cfg : ServerConfig) (time : Nat) (is : List Label) (s : State)
    (hm : Steps.Meets (step cfg) (fun s i => sitSafe cfg s i) (State.init time) is)
    (h : Steps.exec (step cfg) (State.init time) is = some s) :
    (∀ c, c ∈ s.chairs ↔ s.gameData c = true) ∧
    (∀ c r, s.chairs.lookup c = some r →
      ∃ u, s.users r = some u ∧ u.tableID = cfg.id ∧ u.chairID = c ∧ UserStatus.usSit.code ≤ u.userStatus.code) ∧
    (∀ c c' r, s.chairs.lookup c = some r → s.chairs.lookup c' = some r → c = c') ∧
    .raised .missingGameData ∉ s.log := by
  have hinv : Sound cfg s := Steps.exec_invariant (fun s i s' => Sound.step) is _ s (sound_init cfg time) hm h
  refine ⟨fun c => (hinv.1.data c).symm, hinv.1.sits, ?_, hinv.2⟩
  intro c c' r hc hc'
  obtain ⟨u, hu, -, rfl, -⟩ := hinv.1.sits c r hc
  exact ((hinv.1.lookup_iff hu c').1 hc').2

/-- Two users sit down, whom the rules do not concern; the first one goes offline and comes back, and the second one, who
owns nothing, leaves and is followed by a third. -/
def threeUsers : List Label :=
  [.login 1 101 false, .login 2 102 false, .login 3 103 false, .sitDown (fun _ => { masterOrder := 1 }) 1 1 {},
    .sitDown (fun _ => { masterOrder := 1 }) 2 2 {}, .userOffLine (fun _ => {}) 1, .switchUserItem 1, .gameOption 1,
      .standUp (fun _ => {}) 2,
    .sitDown (fun _ => { masterOrder := 1 }) 3 invalidChair {}]

theorem chairs_have_gameData_of_sitSafe_three :
    ∃ s, Steps.exec (step { id := 7, serverID := 1, kindID := 1, chairPerTable := 4 })
      (State.init 1000) threeUsers = some s ∧
      s.sitUserCount = 2 ∧ (∀ c, c ∈ s.chairs ↔ s.gameData c = true) :=
  ⟨_, rfl, by decide +kernel,
    (chairs_have_gameData_of_sitSafe { id := 7, serverID := 1, kindID := 1, chairPerTable := 4 } 1000 threeUsers _
      (by decide +kernel) rfl).1⟩

/-- A user without VIP level is refused in an empty VIP room of the server 220, and stays in the chair. -/
def refusedInChair : List Label :=
  [.login 1 101 false, .sitDown (fun _ => { masterOrder := 1 }) 1 1 { tableID := some 61 }, .standUp (fun _ => {}) 1]

/-- The refused user stands up, and the sink looks for game data that it never made. -/
theorem refused_user_keeps_chair :
    ¬∀ (cfg : ServerConfig) (time : Nat) (is : List Label) (s : State), Steps.exec (step cfg) (State.init time) is = some s →
      (∀ c, c ∈ s.chairs ↔ s.gameData c = true) ∧
      (∀ c r, s.chairs.lookup c = some r →
        ∃ u, s.users r = some u ∧ u.tableID = cfg.id ∧ u.chairID = c ∧ UserStatus.usSit.code ≤ u.userStatus.code) ∧
      (∀ c c' r, s.chairs.lookup c = some r → s.chairs.lookup c' = some r → c = c') ∧
      .raised .missingGameData ∉ s.log := by
  intro h
  have hlog := (h { id := 61, serverID := 220, kindID := 1, chairPerTable := 4 } 1000 refusedInChair _ rfl).2.2.2
  exact absurd hlog (by decide +kernel)

end SasyServer.TableFrame
