import SasyServer.Theorems.SeatMap

/-!
# Theorem: the table manager knows the state of the table, as long as no lock or password gets lost on the way

The table sends its state to the table manager at the end of `cmd_sitDown`, `standUp`, `concludeGame`, `cmd_LockRoom`
and, only when the table has not been started before, `startGame`. The lock of an owner without a password is not part
of what it sends, a password that has been taken away is sent as `nil`, which leaves the old one in the record, and
`cmd_LockRoom` takes a lock away that the password keeps. A `cmd_sitDown` that fails in the chair and a `startGame`
that raises an error send nothing.
-/

namespace SasyServer.TableFrame

open UserManager (UserStatus)

/-- The state of the table as its record should have it: locked by a password or by the owner. -/
def State.tableState (s : State) : TableState where
  isLocked := s.enterPassword.isSome || s.lock
  isStarted := s.isGameStarted
  sitCount := s.sitUserCount
  needVipLv := s.needVipLv
  multipleLv := s.multipleLv
  tablePassword := s.enterPassword

/-! ## The condition -/

instance goes.decidable (cfg : ServerConfig) (attr : Nat → Attr) (r : Nat) (u : User) : Decidable (goes cfg attr r u) :=
  inferInstanceAs (Decidable (u.userStatus = .usOffline ∨ kickMsg cfg u.isAndroid (attr r) = true))

/-- There is no lock that the state would not tell. -/
def lockTold (s : State) : Bool := !s.lock || s.enterPassword.isSome

/-- The user may leave: an owner who has set a password leaves somebody who has contributed, and nobody else leaves a table
that its owner has locked without a password. -/
def leaveSafe (attr : Nat → Attr) (s : State) (userItem : Nat) : Bool :=
  match s.users userItem with
  | none => true
  | some u =>
    s.chairs.lookup u.chairID ≠ some userItem ||
      if s.tableOwnerID = u.userID then
        s.enterPassword = none || (s.chairs.erase u.chairID).entries.any fun e => 0 < (attr e.2).contribution
      else lockTold s

/-- The game may be concluded: when users are sent away while there is a password, the owner is not one of them, or somebody
stays who has contributed. -/
def concludeSafe (cfg : ServerConfig) (attr : Nat → Attr) (gameStatus : GameStatus) (s : State) : Bool :=
  !s.isGameStarted ||
    (lockTold s &&
      (gameStatus ≠ .free || s.enterPassword = none ||
        (s.chairs.entries.all fun e => (s.users e.2).all fun u => u.userID ≠ s.tableOwnerID || !goes cfg attr e.2 u) ||
        s.chairs.entries.any fun e => (s.users e.2).any fun u => !goes cfg attr e.2 u && 0 < (attr e.2).contribution))

/-- The game may be started: it is already, or the table has not been started before and no error is raised. -/
def startSafe (cfg : ServerConfig) (s : State) : Bool :=
  s.isDrawStarted || s.isGameStarted || (!s.isTableStarted && (cfg.serviceScore ≤ 0 || s.sitUserCount = 0) && lockTold s)

/-- The condition. -/
def mirrorSafe (cfg : ServerConfig) (s : State) : Label → Bool
  | .sitDown attr userItem chairID a =>
    sitSafe cfg s (.sitDown attr userItem chairID a) &&
      match s.users userItem with
      | none => true
      | some u =>
        !(u.tableID = invalidTable && u.chairID = invalidChair) || (sitRefusal cfg attr s userItem chairID a).isSome ||
          ((s.sitUserCount = 0 || lockTold s) &&
            (s.gameStatus ≠ .free || s.isDrawStarted || s.isGameStarted || (!s.isTableStarted && cfg.serviceScore ≤ 0)))
  | .standUp attr userItem => leaveSafe attr s userItem
  | .userOffLine attr userItem => (s.users userItem).any (fun u => u.userStatus = .usPlaying) || leaveSafe attr s userItem
  | .kickUser attr _ kickChairID => (s.chairs.lookup kickChairID).all (leaveSafe attr s)
  | .lockRoom _ _ isLock => isLock || s.enterPassword = none
  | .startGame => startSafe cfg s
  | .concludeGame attr gameStatus => concludeSafe cfg attr gameStatus s
  | .timeout attr => s.timer.running.all fun i => (s.chairs.lookup i.bindParameter).all (leaveSafe attr s)
  | _ => true

/-! ## The invariant -/

/-- A table without an owner has neither a password nor a lock. -/
def Unowned (s : State) : Prop := s.tableOwnerID = 0 → s.enterPassword = none ∧ s.lock = false

/-- The invariant. -/
def Mirrored (s : State) : Prop := s.record = s.tableState ∧ Unowned s

/-- The state can be sent: it tells the lock, and there is no password left in the record. -/
def Sendable (s : State) : Prop :=
  (s.lock = true → s.enterPassword.isSome = true) ∧ (s.enterPassword = none → s.record.tablePassword = none)

/-- The invariant holds at the end of an operation, however it ends. -/
def Mirrors (a : Run) : Prop := a.Ends Mirrored fun s _ => Mirrored s

section Mirror

variable {cfg : ServerConfig} {attr : Nat → Attr} {s s' : State} {r : Nat} {u : User}

theorem Mirrored.congr (h : Mirrored s) (hr : s'.record = s.record) (ht : s'.tableState = s.tableState)
    (ho : s'.tableOwnerID = s.tableOwnerID) (hl : s'.lock = s.lock) : Mirrored s' := by
  have hp : s'.enterPassword = s.enterPassword := congrArg TableState.tablePassword ht
  refine ⟨by rw [hr, ht, h.1], ?_⟩
  unfold Unowned
  rw [ho, hp, hl]
  exact h.2

theorem lockTold_iff : lockTold s = true ↔ (s.lock = true → s.enterPassword.isSome = true) := by
  unfold lockTold
  cases s.lock <;> simp

theorem Mirrored.sendable (h : Mirrored s) (hl : lockTold s = true) : Sendable s := by
  refine ⟨lockTold_iff.1 hl, fun hp => ?_⟩
  rw [h.1]
  exact hp

/-- What the table sends is its state. -/
theorem Sendable.send (h : Sendable s) (hu : Unowned s) : Mirrored (sendTableState s) := by
  refine ⟨?_, hu⟩
  have hlock : s.enterPassword.isSome = (s.enterPassword.isSome || s.lock) := by
    cases hl : s.lock with
    | false => rw [Bool.or_false]
    | true => rw [h.1 hl, Bool.true_or]
  have hpass : s.enterPassword.or s.record.tablePassword = s.enterPassword := by
    cases hp : s.enterPassword with
    | none => rw [h.2 hp]; rfl
    | some p => rfl
  simp only [sendTableState, tableStateChange, State.tableState, State.sitUserCount]
  rw [← hlock, hpass]

/-- An operation is settled. -/
theorem mirrored_settle {a : Run} (h : Mirrors a) : Mirrored (settle a) := by
  unfold Mirrors Attempt.Ends at h
  unfold settle
  split at h
  · rename_i hn
    rw [hn]
    exact h
  · rename_i e he
    rw [he]
    exact h.congr rfl rfl rfl rfl

/-! ## Leaving and the end of the game -/

/-- A table that loses its owner loses the password and the lock. -/
theorem Unowned.away (hn : Unowned s) (h : Seated cfg s) (attr : Nat → Attr) (hu : s.users r = some u) : Unowned
    (s.away attr r u) := by
  unfold State.away
  split
  · rcases (h.left hu).handedOver_cases attr with ⟨-, heq⟩ | ⟨c, v, w, -, hw, -, heq⟩
    · rw [heq]
      exact fun _ => ⟨rfl, rfl⟩
    · rw [heq]
      exact fun hzero => absurd hzero ((h.left hu).pos v w hw)
  · rw [left_eq]
    exact hn

/-- The user may leave: then the state can be sent. -/
theorem Mirrored.sendable_away (hm : Mirrored s) (h : Seated cfg s) (hu : s.users r = some u)
    (hc : s.chairs.lookup u.chairID = some r) (hsafe : leaveSafe attr s r) :
    Sendable (s.away attr r u) := by
  have howner : (s.left r u).tableOwnerID = s.tableOwnerID := by rw [left_eq]
  have hrecord : s.enterPassword = none → s.record.tablePassword = none := by
    intro hp
    rw [hm.1]
    exact hp
  simp only [leaveSafe, hu, hc, ne_eq, not_true_eq_false, decide_false, Bool.false_or] at hsafe
  unfold State.away
  rw [howner]
  split
  · rename_i ho
    rw [if_pos ho, Bool.or_eq_true, decide_eq_true_eq] at hsafe
    rcases (h.left hu).handedOver_cases attr with ⟨hle, heq⟩ | ⟨c, v, w, -, -, -, heq⟩
    · rw [heq, left_eq]
      refine ⟨nofun, fun _ => ?_⟩
      rcases hsafe with hp | hany
      · exact hrecord hp
      · obtain ⟨e, he, hpos⟩ := List.any_eq_true.1 hany
        have hlookup : (s.left r u).chairs.lookup e.1 = some e.2 := by
          rw [chairs_left]
          exact AList.mem_lookup_iff.2 he
        exact absurd (of_decide_eq_true hpos) (Int.not_lt.2 (hle _ _ hlookup))
    · rw [heq, left_eq]
      exact ⟨nofun, hrecord⟩
  · rename_i ho
    rw [if_neg ho] at hsafe
    rw [left_eq]
    exact ⟨lockTold_iff.1 hsafe, hrecord⟩

/-- No password, no lock. -/
def Bare (s : State) : Prop := s.enterPassword = none ∧ s.lock = false ∧ s.record.tablePassword = none

/-- There is a password, and `concludeGame` does not send the owner away. -/
def OwnerStays (cfg : ServerConfig) (attr : Nat → Attr) (s : State) : Prop :=
  s.enterPassword.isSome = true ∧
    ∀ c r u, s.chairs.lookup c = some r → s.users r = some u → goes cfg attr r u → u.userID ≠ s.tableOwnerID

/-- There is a password, and `concludeGame` leaves somebody who has contributed. -/
def HeirStays (cfg : ServerConfig) (attr : Nat → Attr) (s : State) : Prop :=
  s.enterPassword.isSome = true ∧
    ∃ c r u, s.chairs.lookup c = some r ∧ s.users r = some u ∧ ¬goes cfg attr r u ∧ 0 < (attr r).contribution

theorem Bare.sendable (h : Bare s) : Sendable s :=
  ⟨fun hl => absurd (h.2.1.symm.trans hl) Bool.false_ne_true, fun _ => h.2.2⟩

theorem sendable_of_isSome (h : s.enterPassword.isSome = true) : Sendable s := by
  refine ⟨fun _ => h, fun hn => ?_⟩
  rw [hn] at h
  cases h

/-- `concludeGame` changes the owner only when a user is sent away. -/
theorem lasting_unowned (cfg : ServerConfig) (attr : Nat → Attr) : Lasting cfg attr Unowned where
  write := by
    intro s r u _ hn _ _
    rw [writeUser_eq]
    exact hn
  away := fun s r u h hn hu _ _ => hn.away h attr hu
  stop := fun s _ hn => hn
  concluding := fun s _ hn => hn
  table := by
    intro s hn
    unfold concludeTable
    split
    · exact hn
    · exact hn
  send := fun s hn => hn

/-- A table that has neither a password nor a lock gets none while its users leave. -/
theorem lasting_bare (cfg : ServerConfig) (attr : Nat → Attr) : Lasting cfg attr Bare where
  write := by
    intro s r u _ hb _ _
    rw [writeUser_eq]
    exact hb
  away := by
    intro s r u h hb hu _ _
    have hleft : Bare (s.left r u) := by
      rw [left_eq]
      exact hb
    unfold State.away
    split
    · rcases (h.left hu).handedOver_cases attr with ⟨-, heq⟩ | ⟨c, v, w, -, -, -, heq⟩
      · rw [heq]
        exact ⟨rfl, rfl, hleft.2.2⟩
      · rw [heq]
        exact ⟨hleft.1, rfl, hleft.2.2⟩
    · exact hleft
  stop := fun s _ hb => hb
  concluding := fun s _ hb => hb
  table := by
    intro s hb
    unfold concludeTable
    split
    · exact hb
    · exact hb
  send := by
    intro s hb
    refine ⟨hb.1, hb.2.1, ?_⟩
    simp only [sendTableState, tableStateChange, hb.1, hb.2.2, Option.or_none]

/-- A user who no longer plays is sent away only if that was so before. -/
theorem users_writeUser_sit (attr : Nat → Attr) (hu : s.users r = some u) {v : Nat} {w : User}
    (hw : (writeUser s u.userID r u .usSit cfg.id u.chairID).users v = some w) :
    ∃ w', s.users v = some w' ∧ w.userID = w'.userID ∧ (goes cfg attr v w → goes cfg attr v w') := by
  rw [users_writeUser, if_neg (by decide)] at hw
  by_cases hv : v = r
  · subst hv
    rw [Function.update_self] at hw
    obtain rfl := Option.some.inj hw
    refine ⟨u, hu, rfl, ?_⟩
    rintro (hoff | hkick)
    · cases hoff
    · exact Or.inr hkick
  · rw [Function.update_of_ne hv] at hw
    exact ⟨w, hw, rfl, id⟩

/-- While others are sent away, the owner stays the owner. -/
theorem stable_ownerStays (cfg : ServerConfig) (attr : Nat → Attr) : Stable cfg attr (OwnerStays cfg attr) where
  write := by
    intro s r u h hs hu hc
    refine ⟨by rw [writeUser_eq]; exact hs.1, ?_⟩
    intro c v w hv hw hgoes
    obtain ⟨w', hw', hid, himp⟩ := users_writeUser_sit attr hu hw
    rw [writeUser_eq] at hv ⊢
    rw [hid]
    exact hs.2 c v w' hv hw' (himp hgoes)
  away := by
    intro s r u h hs hu hc hgoes
    have howner : (s.left r u).tableOwnerID ≠ u.userID := by
      rw [left_eq]
      exact (hs.2 _ r u hc hu hgoes).symm
    rw [State.away, if_neg howner]
    refine ⟨by rw [left_eq]; exact hs.1, ?_⟩
    intro c v w hv hw hgoesw
    obtain ⟨hold, -, -, huser⟩ := h.lookup_left hu hv
    rw [left_eq]
    exact hs.2 c v w hold (huser ▸ hw) hgoesw
  stop := fun s _ hs => hs

/-- While users are sent away, somebody who has contributed stays, and takes over what the owner leaves. -/
theorem stable_heirStays (cfg : ServerConfig) (attr : Nat → Attr) : Stable cfg attr (HeirStays cfg attr) where
  write := by
    intro s r u h hs hu hc
    obtain ⟨hp, c, v, w, hv, hw, hstays, hpos⟩ := hs
    have hsome : ∃ w', (writeUser s u.userID r u .usSit cfg.id u.chairID).users v = some w' := by
      rw [users_writeUser, if_neg (by decide)]
      by_cases hvr : v = r
      · exact ⟨_, by rw [hvr, Function.update_self]⟩
      · exact ⟨w, by rw [Function.update_of_ne hvr, hw]⟩
    obtain ⟨w', hw'⟩ := hsome
    obtain ⟨w₀, hw₀, -, himp⟩ := users_writeUser_sit attr hu hw'
    obtain rfl := Option.some.inj (hw.symm.trans hw₀)
    refine ⟨by rw [writeUser_eq]; exact hp, c, v, w', ?_, hw', fun hgoes => hstays (himp hgoes), hpos⟩
    rw [writeUser_eq]
    exact hv
  away := by
    intro s r u h hs hu hc hgoes
    obtain ⟨hp, c, v, w, hv, hw, hstays, hpos⟩ := hs
    -- The one who stays is not the one who goes.
    have hne : v ≠ r := by
      rintro rfl
      obtain rfl := Option.some.inj (hu.symm.trans hw)
      exact hstays hgoes
    have hchair : c ≠ u.chairID := by
      rintro rfl
      exact hne (Option.some.inj (hv.symm.trans hc))
    have hleft : HeirStays cfg attr (s.left r u) := by
      refine ⟨by rw [left_eq]; exact hp, c, v, w, by rw [chairs_left, AList.lookup_erase_ne hchair, hv], ?_, hstays, hpos⟩
      rw [users_left, users_writeUser, Function.update_of_ne hne, hw]
    unfold State.away
    split
    · rcases (h.left hu).handedOver_cases attr with ⟨hle, -⟩ | ⟨c', v', w', -, -, -, heq⟩
      · obtain ⟨-, c, v, w, hv, -, -, hpos⟩ := hleft
        exact absurd hpos (Int.not_lt.2 (hle c v hv))
      · rw [heq]
        exact hleft
    · exact hleft
  stop := fun s _ hs => hs

/-- `concludeGame` with users who are sent away: what the loop keeps allows the state to be sent. -/
theorem mirrors_concludeGame_of_stable {I : State → Prop} (hI : Stable cfg attr I) (hsend : ∀ t, I t → Sendable t)
    (h : Seated cfg s) (hn : Unowned s) (hg : s.isGameStarted = true) (gameStatus : GameStatus)
    (hi : I (s.concluding gameStatus)) :
    Mirrors (concludeGame cfg attr gameStatus s) := by
  refine (ends_concludeAt (hI.and (lasting_unowned cfg attr).toStable) 1 gameStatus h hg ⟨hi, hn⟩).mono ?_
    fun _ _ hf => hf.elim
  rintro _ ⟨t, -, ⟨hit, hnt⟩, -, rfl⟩
  refine Sendable.send ?_ ((lasting_unowned cfg attr).table t hnt)
  unfold concludeTable
  split
  · exact hsend t hit
  · exact hsend t hit

/-- The end of a game: nobody is sent away, or one of the three conditions on the password lasts through the loop. -/
theorem mirrors_concludeGame (h : Seated cfg s) (hm : Mirrored s) {gameStatus : GameStatus}
    (hsafe : concludeSafe cfg attr gameStatus s) : Mirrors (concludeGame cfg attr gameStatus s) := by
  cases hg : s.isGameStarted with
  | false =>
    rw [concludeGame, concludeAt_of_not_started 2 gameStatus hg]
    exact hm
  | true =>
    simp only [concludeSafe, hg, Bool.not_true, Bool.false_or, Bool.and_eq_true, Bool.or_eq_true, decide_eq_true_eq] at hsafe
    obtain ⟨hlock, hcases⟩ := hsafe
    by_cases hp : s.enterPassword = none
    · have hbare : Bare s := by
        refine ⟨hp, ?_, (hm.sendable hlock).2 hp⟩
        rw [Bool.eq_false_iff]
        intro hl
        have hsome := lockTold_iff.1 hlock hl
        rw [hp] at hsome
        cases hsome
      exact mirrors_concludeGame_of_stable (lasting_bare cfg attr).toStable (fun t ht => ht.sendable) h hm.2 hg
        gameStatus hbare
    have hsome : s.enterPassword.isSome = true := Option.isSome_iff_ne_none.2 hp
    obtain ((hfree | hp') | howner) | hheir := hcases
    · -- The game goes on, and nobody is sent away.
      rw [concludeGame_of_ne_free hg hfree]
      refine Attempt.ends_ok (Sendable.send ?_ ((lasting_unowned cfg attr).table _ hm.2))
      refine sendable_of_isSome ?_
      unfold concludeTable
      split
      · exact hsome
      · exact hsome
    · exact absurd hp' hp
    · refine mirrors_concludeGame_of_stable (stable_ownerStays cfg attr) (fun t ht => sendable_of_isSome ht.1) h hm.2
        hg gameStatus ?_
      refine ⟨hsome, ?_⟩
      intro c v w hv hw hgoes hid
      have hall := List.all_eq_true.1 howner ⟨c, v⟩ (AList.mem_lookup_iff.1 hv)
      have hw' : s.users v = some w := hw
      have hid' : w.userID = s.tableOwnerID := hid
      simp [hw', hid', hgoes] at hall
    · refine mirrors_concludeGame_of_stable (stable_heirStays cfg attr) (fun t ht => sendable_of_isSome ht.1) h hm.2
        hg gameStatus ?_
      obtain ⟨e, he, hany⟩ := List.any_eq_true.1 hheir
      obtain ⟨u, hu, hstays⟩ := (Option.any_eq_true _ _).1 hany
      simp only [Bool.and_eq_true, Bool.not_eq_true', decide_eq_false_iff_not, decide_eq_true_eq] at hstays
      exact ⟨hsome, e.1, e.2, u, AList.mem_lookup_iff.2 he, hu, hstays.1, hstays.2⟩

/-- A user who may leave stands up, and the state is sent behind it, or `concludeGame` sends it. -/
theorem mirrors_standUp (h : Seated cfg s) (hm : Mirrored s) (hsafe : leaveSafe attr s r) :
    Mirrors (standUp cfg attr s r) := by
  cases hu : s.users r with
  | none =>
    rw [standUp, standUpWith, hu]
    exact hm
  | some u =>
    by_cases hc : s.chairs.lookup u.chairID = some r
    · have haway := h.away attr hu
      have hsend := hm.sendable_away h hu hc hsafe
      have hn := hm.2.away h attr hu
      rw [standUp, standUpWith_eq h _ attr false hu hc]
      refine Attempt.Ends.andThen (P := fun t => Sendable t ∧ Unowned t) ?_ fun t ht => ht.1.send ht.2
      split
      · -- The table has no owner any more: there is neither a password nor a lock when the game is concluded.
        rename_i hzero
        obtain ⟨hp, hl⟩ := hn hzero.1
        refine (ends_concludeGame ((lasting_bare cfg attr).and (lasting_unowned cfg attr)) haway.stopTimer
          ⟨⟨hp, hl, hsend.2 hp⟩, hn⟩ .free).mono ?_ fun _ _ hf => hf.elim
        exact fun t ht => ⟨ht.2.1.sendable, ht.2.2⟩
      · exact ⟨hsend, hn⟩
    · rw [standUp, standUpWith_other _ attr false hu hc]
      exact hm

/-! ## The start of the game -/

/-- What the record, the state, the owner and the lock of a table are. -/
def State.face (s : State) : TableState × TableState × Nat × Bool := (s.record, s.tableState, s.tableOwnerID, s.lock)

theorem Mirrored.of_face (h : Mirrored s) (hf : s'.face = s.face) : Mirrored s' := by
  simp only [State.face, Prod.mk.injEq] at hf
  exact h.congr hf.1 hf.2.1 hf.2.2.1 hf.2.2.2

theorem Sendable.of_face (h : Sendable s) (hf : s'.face = s.face) : Sendable s' := by
  simp only [State.face, Prod.mk.injEq] at hf
  obtain ⟨hr, ht, -, hl⟩ := hf
  have hp : s'.enterPassword = s.enterPassword := congrArg TableState.tablePassword ht
  unfold Sendable
  rw [hr, hp, hl]
  exact h

theorem Unowned.of_face (h : Unowned s) (hf : s'.face = s.face) : Unowned s' := by
  simp only [State.face, Prod.mk.injEq] at hf
  obtain ⟨-, ht, ho, hl⟩ := hf
  have hp : s'.enterPassword = s.enterPassword := congrArg TableState.tablePassword ht
  unfold Unowned
  rw [ho, hp, hl]
  exact h

theorem face_writeUser (s : State) (userID r : Nat) (u : User) (st : UserStatus) (t c : Nat) :
    (writeUser s userID r u st t c).face = s.face := by
  rw [writeUser_eq]
  rfl

/-- A turn of the loop of `startGame` only writes the records of users. -/
theorem face_startUser {x : TableState × TableState × Nat × Bool} (hscore : cfg.serviceScore ≤ 0)
    (h : Seated cfg s ∧ s.face = x) (c : Nat) :
    (startUser cfg s c).Ends (fun t => Seated cfg t ∧ t.face = x) fun _ _ => False := by
  unfold startUser
  split
  case h_1 => exact h
  rename_i v hv
  dsimp only
  rw [if_neg (Int.not_lt.2 hscore)]
  have hset : Seated cfg { s with offlineTime := Function.update s.offlineTime c 0 } := h.1.congr rfl rfl rfl rfl
  obtain ⟨w, hw, ht, rfl, -⟩ := h.1.sits c v hv
  simp only [hw]
  split
  · rw [setUserStatus_eq hset.toPlaced hw _ _ _ (fun hst => by cases hst)]
    exact Attempt.ends_ok ⟨hset.write hw hv (by decide), (face_writeUser _ _ _ _ _ _ _).trans h.2⟩
  · exact ⟨hset, h.2⟩

/-- The game is started, and the state is sent. -/
theorem mirrors_startGame (h : Seated cfg s) (hm : Mirrored s) (hsafe : startSafe cfg s) : Mirrors (startGame cfg s) := by
  cases hd : s.isDrawStarted with
  | true =>
    rw [startGame, if_pos hd]
    exact hm
  | false =>
    rw [startGame, if_neg (by simp [hd])]
    refine Attempt.Ends.andThen (P := Mirrored) ?_ fun t ht => Attempt.ends_ok (ht.congr rfl rfl rfl rfl)
    cases hg : s.isGameStarted with
    | true =>
      refine Attempt.ends_ok (hm.congr rfl ?_ rfl rfl)
      rw [State.tableState, State.tableState, hg]
      rfl
    | false =>
      simp only [startSafe, hd, hg, Bool.or_self, Bool.false_or, Bool.and_eq_true, Bool.not_eq_true', Bool.or_eq_true,
        decide_eq_true_eq] at hsafe
      obtain ⟨⟨htable, hscore⟩, hlock⟩ := hsafe
      have hsend := hm.sendable hlock
      simp only [htable, Bool.false_eq_true, if_false]
      refine Attempt.Ends.andThen (P := fun t => Sendable t ∧ Unowned t) ?_ fun t ht => Attempt.ends_ok (ht.1.send ht.2)
      rcases hscore with hscore | hzero
      · have hloop := Attempt.ends_forEach (fun t c ht => face_startUser hscore ht c) s.chairs.keys
          { s with isGameStarted := true, isDrawStarted := true, isTableStarted := true, gameStatus := .play }
          ⟨h.congr rfl rfl rfl rfl, rfl⟩
        refine hloop.mono ?_ fun _ _ hf => hf.elim
        rintro t ⟨-, hface⟩
        refine ⟨Sendable.of_face ?_ hface, Unowned.of_face ?_ hface⟩
        · exact hsend
        · exact hm.2
      · rw [List.eq_nil_of_length_eq_zero hzero]
        exact ⟨hsend, hm.2⟩

/-! ## Sitting down -/

theorem Unowned.owned (h : Unowned s) {userID : Nat} (hid : userID ≠ 0) (a : SitArgs) : Unowned (s.owned cfg userID a) := by
  unfold State.owned
  split
  · split
    · exact fun hzero => absurd hzero hid
    · exact fun hzero => absurd hzero hid
  · exact h

/-- A table at which a user has sat down, the first one as its owner, can be sent. -/
theorem sendable_owned (hmatch : cfg.isMatch = false) (hrecord : s.enterPassword = none → s.record.tablePassword = none)
    (hlock : s.sitUserCount = 1 ∨ lockTold s) (userID : Nat) (a : SitArgs) : Sendable (s.owned cfg userID a) := by
  unfold State.owned
  split
  · split
    · refine ⟨nofun, fun hp => hrecord ?_⟩
      exact (Option.or_eq_none_iff.1 hp).2
    · exact ⟨nofun, hrecord⟩
  · rename_i hfirst
    rcases hlock with hone | hlock
    · exact absurd ⟨hone, by simp [hmatch]⟩ hfirst
    · exact ⟨lockTold_iff.1 hlock, hrecord⟩

/-- A call that is refused sends nothing and changes nothing; one that goes through sends the state at its end. -/
theorem mirrors_sitDown (hmatch : cfg.isMatch = false) (h : Sound cfg s) (hm : Mirrored s) {c : Nat} {a : SitArgs}
    (hsafe : mirrorSafe cfg s (.sitDown attr r c a)) : Mirrors (sitDown cfg attr s r c a) := by
  obtain ⟨hsit, hsafe⟩ := Bool.and_eq_true_iff.1 hsafe
  cases hu : s.users r with
  | none =>
    rw [sitDown, hu]
    exact hm
  | some u =>
    by_cases hat : u.tableID = invalidTable ∧ u.chairID = invalidChair
    · cases hr : sitRefusal cfg attr s r c a with
      | some code =>
        rw [sitDown, hu]
        simp only
        rw [if_neg (not_not.2 hat), hr]
        exact hm
      | none =>
        have hc := chair_free hr
        simp only [hu, hat.1, hat.2, hr, decide_true, Bool.and_self, Bool.not_true, Option.isSome_none, Bool.or_self,
          Bool.false_or, Bool.and_eq_true, Bool.or_eq_true, Bool.not_eq_true', decide_eq_true_eq] at hsafe
        obtain ⟨hlock, hstart⟩ := hsafe
        rw [sitDown_eq h.1 hu hat hsit hr hc, onActionUserSitDown]
        have hsound := h.sat hu hat.1 (sitChair cfg s c a) a
        have htaken : s.taken cfg r u (sitChair cfg s c a) =
            { s with
              chairs := s.chairs.insert (sitChair cfg s c a) r
              offlineTime := Function.update s.offlineTime (sitChair cfg s c a) 0
              users := (s.taken cfg r u (sitChair cfg s c a)).users
              userItemHash := (s.taken cfg r u (sitChair cfg s c a)).userItemHash } := by
          rw [State.taken, writeUser_eq]
        have hcount := sitUserCount_taken cfg r u hc
        generalize s.taken cfg r u (sitChair cfg s c a) = t at htaken hcount hsound ⊢
        have hsend : Sendable (t.owned cfg u.userID a) := by
          refine sendable_owned hmatch ?_ ?_ u.userID a
          · rw [htaken]
            exact fun hp => by rw [hm.1]; exact hp
          · refine hlock.imp (fun hzero => by omega) fun hl => ?_
            rw [htaken]
            exact hl
        have hn : Unowned (t.owned cfg u.userID a) := by
          refine Unowned.owned ?_ (h.1.pos r u hu) a
          rw [htaken]
          exact hm.2
        have hmirror := hsend.send hn
        have hstatus : (t.owned cfg u.userID a).gameStatus = s.gameStatus := by rw [owned_eq, htaken]
        have hdraw : (t.owned cfg u.userID a).isDrawStarted = s.isDrawStarted := by rw [owned_eq, htaken]
        have hgame : (t.owned cfg u.userID a).isGameStarted = s.isGameStarted := by rw [owned_eq, htaken]
        have htable : (t.owned cfg u.userID a).isTableStarted = s.isTableStarted := by rw [owned_eq, htaken]
        generalize t.owned cfg u.userID a = o at hsound hsend hmirror hstatus hdraw hgame htable ⊢
        split
        · rename_i hfree
          refine mirrors_startGame hsound.1 (hmirror.congr rfl rfl rfl rfl) ?_
          have hl : lockTold o = true := lockTold_iff.2 hsend.1
          have hsame : s.gameStatus = .free := hstatus.symm.trans hfree
          rw [hsame] at hstart
          rw [← hdraw, ← hgame, ← htable] at hstart
          rcases hstart with ((hne | hd) | hg) | ⟨ht, hscore⟩
          · exact absurd rfl hne
          · exact Bool.or_eq_true_iff.2 (Or.inl (Bool.or_eq_true_iff.2 (Or.inl hd)))
          · exact Bool.or_eq_true_iff.2 (Or.inl (Bool.or_eq_true_iff.2 (Or.inr hg)))
          · have hnot : (!o.isTableStarted) = true := by rw [ht]; rfl
            refine Bool.or_eq_true_iff.2 (Or.inr (Bool.and_eq_true_iff.2 ⟨?_, hl⟩))
            exact Bool.and_eq_true_iff.2 ⟨hnot, Bool.or_eq_true_iff.2 (Or.inl (decide_eq_true hscore))⟩
        · exact Attempt.ends_ok (hmirror.congr rfl rfl rfl rfl)
    · rw [sitDown, hu]
      simp only
      rw [if_pos hat]
      exact hm

/-! ## The other operations -/

/-- Only the record of a user is written. -/
theorem mirrors_setUserStatus (hm : Mirrored s) (userID : Nat) (st : UserStatus) (t c : Nat) :
    Mirrors (setUserStatus cfg s userID st t c) := by
  unfold setUserStatus
  split
  case h_1 => exact hm
  split
  case h_1 => exact hm
  split
  · exact hm
  · exact Attempt.ends_ok (hm.of_face (face_writeUser _ _ _ _ _ _ _))

theorem mirrors_setOfflineTimer (hm : Mirrored s) (delay c : Nat) : Mirrors (setOfflineTimer s delay c) := by
  unfold setOfflineTimer
  split
  · exact hm
  · exact Attempt.ends_ok (hm.congr rfl rfl rfl rfl)

/-- A user who goes offline stands up, or has only the status changed. -/
theorem mirrors_userOffLine (h : Seated cfg s) (hm : Mirrored s) (hsafe : mirrorSafe cfg s (.userOffLine attr r)) :
    Mirrors (userOffLine cfg attr s r) := by
  unfold userOffLine
  split
  case h_1 => exact hm
  rename_i u hu
  split
  · exact mirrors_setUserStatus hm _ _ _ _
  split
  · refine Attempt.Ends.andThen (mirrors_setUserStatus hm _ _ _ _) fun t ht => ?_
    dsimp only
    split
    · refine mirrors_setOfflineTimer ?_ _ _
      exact ht.congr rfl rfl rfl rfl
    · exact Attempt.ends_ok (ht.congr rfl rfl rfl rfl)
  · rename_i hst
    simp only [mirrorSafe, hu, Option.any_some, hst, decide_false, Bool.false_or] at hsafe
    exact Attempt.Ends.andThen (mirrors_standUp h hm hsafe) fun t ht => mirrors_setUserStatus ht _ _ _ _

/-- A user who is back changes the timer and the status only. -/
theorem mirrors_gameOption (hm : Mirrored s) (r : Nat) : Mirrors (gameOption s r) := by
  unfold gameOption
  split
  case h_1 => exact hm
  split
  case isTrue => exact hm
  dsimp only
  refine Attempt.Ends.andThen (P := Mirrored) ?_ ?_
  · split
    · split
      · exact Attempt.ends_ok (hm.congr rfl rfl rfl rfl)
      · split
        · exact Attempt.ends_ok (hm.congr rfl rfl rfl rfl)
        · refine mirrors_setOfflineTimer ?_ _ _
          exact hm.congr rfl rfl rfl rfl
    · exact hm
  · intro t ht
    split
    · exact ht
    · exact ht

/-- A user who is kicked stands up. -/
theorem mirrors_kickUser (h : Seated cfg s) (hm : Mirrored s) {c : Nat} (hsafe : mirrorSafe cfg s (.kickUser attr r c)) :
    Mirrors (kickUser cfg attr s r c) := by
  unfold kickUser
  split
  case h_1 => exact hm
  rename_i v hv
  simp only [mirrorSafe, hv, Option.all_some] at hsafe
  split
  case h_1 => exact hm
  repeat' split
  all_goals first | exact hm | exact mirrors_standUp h hm hsafe

/-- A room is locked or unlocked, and its state is sent. -/
theorem mirrors_lockRoom (h : Seated cfg s) (hm : Mirrored s) {isLock : Bool}
    (hsafe : mirrorSafe cfg s (.lockRoom attr r isLock)) :
    Mirrors (lockRoom attr s r isLock) := by
  unfold lockRoom
  split
  case h_1 => exact hm
  rename_i u hu
  split
  case isTrue => exact hm
  split
  case isTrue => exact hm
  rename_i howner
  rw [not_not] at howner
  simp only [mirrorSafe, Bool.or_eq_true, decide_eq_true_eq] at hsafe
  refine Attempt.ends_ok ⟨?_, fun hzero => ?_⟩
  · have hrecord : s.enterPassword.or s.record.tablePassword = s.enterPassword := by
      rw [hm.1, State.tableState, Option.or_self]
    have hlocked : isLock = (s.enterPassword.isSome || isLock) := by
      rcases hsafe with hl | hp
      · rw [hl, Bool.or_true]
      · rw [hp, Option.isSome_none, Bool.false_or]
    simp only [tableStateChange, State.tableState, State.sitUserCount]
    rw [hrecord, ← hlocked]
  · exact absurd (howner.symm.trans hzero) (h.pos r u hu)

/-- The user in the chair of the timeout stands up. -/
theorem mirrors_onTimerOfflineWait (h : Seated cfg s) (hm : Mirrored s) {c : Nat}
    (hsafe : (s.chairs.lookup c).all (leaveSafe attr s)) :
    Mirrors (onTimerOfflineWait cfg attr s c) := by
  unfold onTimerOfflineWait
  split
  case isTrue => exact hm
  dsimp only
  split
  case h_1 => exact Attempt.ends_fail (hm.congr rfl rfl rfl rfl)
  rename_i v hv
  rw [hv, Option.all_some] at hsafe
  refine Attempt.Ends.andThen (mirrors_standUp ?_ ?_ ?_) ?_
  · exact h.congr rfl rfl rfl rfl
  · exact hm.congr rfl rfl rfl rfl
  · exact hsafe
  · intro t ht
    split
    · exact mirrors_setOfflineTimer ht _ _
    · exact ht

end Mirror

/-- One label. -/
theorem Mirrored.step {cfg : ServerConfig} {s s' : State} {i : Label} (hmatch : cfg.isMatch = false) (h : Sound cfg s)
    (hm : Mirrored s) (hsafe : mirrorSafe cfg s i) (hs : step cfg s i = some s') :
    Mirrored s' := by
  cases i with
  | sitDown attr r c a => exact Option.some.inj hs ▸ mirrored_settle (mirrors_sitDown hmatch h hm hsafe)
  | standUp attr r => exact Option.some.inj hs ▸ mirrored_settle (mirrors_standUp h.1 hm hsafe)
  | userOffLine attr r => exact Option.some.inj hs ▸ mirrored_settle (mirrors_userOffLine h.1 hm hsafe)
  | kickUser attr r c => exact Option.some.inj hs ▸ mirrored_settle (mirrors_kickUser h.1 hm hsafe)
  | gameOption r => exact Option.some.inj hs ▸ mirrored_settle (mirrors_gameOption hm r)
  | lockRoom attr r isLock => exact Option.some.inj hs ▸ mirrored_settle (mirrors_lockRoom h.1 hm hsafe)
  | startGame => exact Option.some.inj hs ▸ mirrored_settle (mirrors_startGame h.1 hm hsafe)
  | concludeGame attr gameStatus => exact Option.some.inj hs ▸ mirrored_settle (mirrors_concludeGame h.1 hm hsafe)
  | wake =>
    obtain ⟨timer, -, rfl⟩ := Option.map_eq_some_iff.1 hs
    exact hm.congr rfl rfl rfl rfl
  | call timerID =>
    obtain ⟨timer, -, rfl⟩ := Option.map_eq_some_iff.1 hs
    exact hm.congr rfl rfl rfl rfl
  | timeout attr =>
    obtain ⟨i, hi, rfl⟩ := Option.map_eq_some_iff.1 hs
    simp only [mirrorSafe, hi, Option.all_some] at hsafe
    exact (mirrored_settle (mirrors_onTimerOfflineWait h.1 hm hsafe)).congr rfl rfl rfl rfl
  | sleep =>
    obtain ⟨timer, -, rfl⟩ := Option.map_eq_some_iff.1 hs
    exact hm.congr rfl rfl rfl rfl
  | clock seconds => exact Option.some.inj hs ▸ hm.congr rfl rfl rfl rfl
  | rehash chairs =>
    simp only [TableFrame.step] at hs
    split at hs
    · rename_i hp
      obtain rfl := Option.some.inj hs
      have hcount : chairs.keys.length = s.chairs.keys.length := ((List.isPerm_iff.1 hp).map Sigma.fst).length_eq
      refine hm.congr rfl ?_ rfl rfl
      simp only [State.tableState, State.sitUserCount, hcount]
    · cases hs
  | login r userID isAndroid =>
    simp only [TableFrame.step] at hs
    split at hs
    · exact Option.some.inj hs ▸ hm.congr rfl rfl rfl rfl
    · cases hs
  | switchUserItem r =>
    simp only [TableFrame.step, TableFrame.switchUserItem] at hs
    split at hs
    · cases hs
    · obtain rfl := Option.some.inj hs
      split
      · exact hm.of_face (face_writeUser _ _ _ _ _ _ _)
      · exact hm
  | elsewhere r st t c =>
    simp only [TableFrame.step, TableFrame.elsewhere] at hs
    split at hs
    · cases hs
    · split at hs
      · exact Option.some.inj hs ▸ hm.of_face (face_writeUser _ _ _ _ _ _ _)
      · cases hs

/-- A run that meets the condition meets that on `cmd_sitDown` too. -/
theorem sitSafe_of_mirrorSafe {cfg : ServerConfig} {s : State} {i : Label} (h : mirrorSafe cfg s i) : sitSafe cfg s i := by
  cases i with
  | sitDown attr r c a => exact (Bool.and_eq_true_iff.1 h).1
  | _ => rfl

/-- In every run of a table that is not one of a match, all of whose steps meet the condition, the record of the table
manager is the state of the table after every step. -/
theorem record_eq_tableState_of_mirrorSafe (cfg : ServerConfig) (hmatch : cfg.isMatch = false) (time : Nat)
    (is : List Label) (s : State) (hm : Steps.Meets (step cfg) (fun s i => mirrorSafe cfg s i) (State.init time) is)
    (h : Steps.exec (step cfg) (State.init time) is = some s) : s.record = s.tableState := by
  have hinit : Sound cfg (State.init time) ∧ Mirrored (State.init time) := ⟨sound_init cfg time, rfl, fun _ => ⟨rfl, rfl⟩⟩
  have hinv : Sound cfg s ∧ Mirrored s := by
    refine Steps.exec_invariant (I := fun s => Sound cfg s ∧ Mirrored s) ?_ is _ s hinit hm h
    intro s i s' hs hsafe hstep
    exact ⟨hs.1.step (sitSafe_of_mirrorSafe hsafe) hstep, hs.2.step hmatch hs.1 hsafe hstep⟩
  exact hinv.2.1

/-- Two users come to a VIP room; the owner, who has set a password, leaves it to the other one, who has
contributed and locks the room. -/
def passedOn : List Label :=
  [.login 1 101 false, .login 2 102 false,
    .sitDown (fun _ => { memberOrder := 5, masterOrder := 1 }) 1 1 { password := some "1", tableID := some 61 },
    .sitDown (fun _ => { memberOrder := 5, masterOrder := 1 }) 2 2 { password := some "1", tableID := some 61 },
    .standUp (fun _ => { contribution := 6 }) 1, .lockRoom (fun _ => { memberOrder := 5 }) 2 true]

theorem record_eq_tableState_of_mirrorSafe_passedOn :
    ∃ s, Steps.exec (step { id := 61, serverID := 220, kindID := 1, chairPerTable := 4 })
      (State.init 1000) passedOn = some s ∧
      s.lock = true ∧ s.record = s.tableState :=
  ⟨_, rfl, by decide +kernel,
    record_eq_tableState_of_mirrorSafe { id := 61, serverID := 220, kindID := 1, chairPerTable := 4 } rfl 1000 passedOn _
      (by decide +kernel) rfl⟩

/-- The owner of a VIP room has set a password and leaves. -/
def passwordLeft : List Label :=
  [.login 1 101 false,
    .sitDown (fun _ => { memberOrder := 5, masterOrder := 1 }) 1 1 { password := some "1", tableID := some 61 },
      .standUp (fun _ => {}) 1]

theorem password_stays_in_record :
    ¬∀ (cfg : ServerConfig), cfg.isMatch = false → ∀ (time : Nat) (is : List Label) (s : State),
      Steps.exec (step cfg) (State.init time) is = some s → s.record = s.tableState := by
  intro h
  have hrecord := h { id := 61, serverID := 220, kindID := 1, chairPerTable := 4 } rfl 1000 passwordLeft _ rfl
  exact absurd hrecord (by decide +kernel)

end SasyServer.TableFrame
