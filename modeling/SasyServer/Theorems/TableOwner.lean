import SasyServer.Lemmas.TableSeats

/-!
# Theorem: the owner sits at the table, as long as somebody at the table can follow

The first user at the table owns it. When the owner leaves, `standUp` looks for the one who has contributed
most, but only among those who have contributed: where nobody has, the table has no owner while others sit
there, and their game is concluded.
-/

namespace SasyServer.TableFrame

open UserManager (UserStatus)

/-- `cmd_sitDown` and `standUp`, and what happens elsewhere. -/
def Label.sitsOrStands : Label → Bool
  | .sitDown .. | .standUp .. | .clock .. | .rehash .. | .login .. | .switchUserItem .. | .elsewhere .. => true
  | _ => false

/-- The condition: the first user at the table is not refused before the table is theirs, `freezeScore` is not called, and an
owner who leaves others at the table leaves somebody who has contributed. -/
def ownerSafe (cfg : ServerConfig) (s : State) : Label → Bool
  | .sitDown attr userItem chairID a =>
    match s.users userItem with
    | none => true
    | some u =>
      !(u.tableID = invalidTable && u.chairID = invalidChair) || (sitRefusal cfg attr s userItem chairID a).isSome ||
        ((!s.isGameStarted || cfg.serviceScore ≤ 0) &&
          (s.sitUserCount ≠ 0 || isVipRoom cfg a = some false ||
            (isVipRoom cfg a = some true && 2 ≤ (attr userItem).memberOrder)))
  | .standUp attr userItem =>
    match s.users userItem with
    | none => true
    | some u =>
      s.chairs.lookup u.chairID ≠ some userItem || !s.gameData u.chairID || s.tableOwnerID ≠ u.userID ||
        (s.chairs.erase u.chairID).keys.isEmpty || (s.chairs.erase u.chairID).entries.any
          fun e => 0 < (attr e.2).contribution
  | _ => true

/-- The owner sits at the table, or the table is empty and has no owner. -/
def OwnerSits (s : State) : Prop :=
  (s.tableOwnerID = 0 ∧ ∀ c, s.chairs.lookup c = none) ∨
    ∃ c r u, s.chairs.lookup c = some r ∧ s.users r = some u ∧ u.userID = s.tableOwnerID

/-- The invariant. -/
def Owned (cfg : ServerConfig) (s : State) : Prop := Placed cfg s ∧ OwnerSits s

/-- The invariant holds at the end of an operation, however it ends. -/
def Owns (cfg : ServerConfig) (a : Run) : Prop := a.Ends (Owned cfg) fun s _ => Owned cfg s

section Owner

variable {cfg : ServerConfig} {attr : Nat → Attr} {s s' : State} {r : Nat} {u : User}

/-- The users in the chairs keep their `userID`. -/
theorem OwnerSits.of_users (h : OwnerSits s) (hc : s'.chairs = s.chairs) (ho : s'.tableOwnerID = s.tableOwnerID)
    (hu : ∀ c r u, s.chairs.lookup c = some r → s.users r = some u → ∃ u', s'.users r = some u' ∧ u'.userID = u.userID) :
    OwnerSits s' := by
  unfold OwnerSits
  rw [hc, ho]
  rcases h with h | ⟨c, r, u, hr, hur, hid⟩
  · exact Or.inl h
  · obtain ⟨u', hu', hid'⟩ := hu c r u hr hur
    exact Or.inr ⟨c, r, u', hr, hu', hid'.trans hid⟩

theorem Owned.congr (h : Owned cfg s) (hc : s'.chairs = s.chairs) (hu : s'.users = s.users)
    (hh : s'.userItemHash = s.userItemHash) (ho : s'.tableOwnerID = s.tableOwnerID) :
    Owned cfg s' := by
  refine ⟨h.1.congr hc hu hh, h.2.of_users hc ho ?_⟩
  rw [hu]
  exact fun _ _ u _ hur => ⟨u, hur, rfl⟩

/-- A record that stays keeps its `userID`. -/
theorem OwnerSits.write (h : OwnerSits s) (hu : s.users r = some u) {st : UserStatus} (hst : st ≠ .usNull) (t c : Nat) :
    OwnerSits (writeUser s u.userID r u st t c) := by
  refine h.of_users (by rw [writeUser_eq]) (by rw [writeUser_eq]) ?_
  intro c' v w _ hw
  rw [users_writeUser, if_neg hst]
  by_cases hv : v = r
  · subst hv
    obtain rfl := Option.some.inj (hu.symm.trans hw)
    exact ⟨_, Function.update_self _ _ _, rfl⟩
  · exact ⟨w, by rw [Function.update_of_ne hv, hw], rfl⟩

/-- An operation is settled. -/
theorem owned_settle {a : Run} (h : Owns cfg a) : Owned cfg (settle a) := by
  unfold Owns Attempt.Ends at h
  unfold settle
  split at h
  · rename_i hn
    rw [hn]
    exact h
  · rename_i e he
    rw [he]
    exact h.congr rfl rfl rfl rfl

/-! ## Leaving -/

/-- Nobody sits at an empty table. -/
theorem lookup_eq_none_of_keys {chairs : AList fun _ : Nat => Nat} (h : chairs.keys = [])
    (c : Nat) : chairs.lookup c = none := by
  refine AList.lookup_eq_none.2 fun hc => ?_
  rw [AList.mem_keys, h] at hc
  cases hc

theorem keys_eq_nil_of_lookup {chairs : AList fun _ : Nat => Nat} (h : ∀ c, chairs.lookup c = none) : chairs.keys = [] := by
  rw [List.eq_nil_iff_forall_not_mem]
  intro c hc
  exact AList.lookup_eq_none.1 (h c) (AList.mem_keys.2 hc)

/-- The owner leaves somebody who can follow, or nobody; any other user leaves the owner at the table. -/
theorem OwnerSits.away (hs : OwnerSits s) (h : Placed cfg s) (hu : s.users r = some u)
    (hc : s.chairs.lookup u.chairID = some r)
    (hsafe : s.tableOwnerID = u.userID → (s.chairs.erase u.chairID).keys = [] ∨
      ∃ c v, (s.chairs.erase u.chairID).lookup c = some v ∧ 0 < (attr v).contribution) : OwnerSits (s.away attr r u) := by
  have howner : (s.left r u).tableOwnerID = s.tableOwnerID := by rw [left_eq]
  unfold State.away
  rw [howner]
  split
  · rename_i ho
    rcases (h.left hu).handedOver_cases attr with ⟨hle, heq⟩ | ⟨c, v, w, hv, hw, -, heq⟩
    · rw [heq]
      refine Or.inl ⟨rfl, ?_⟩
      rcases hsafe ho with hempty | ⟨c, v, hv, hpos⟩
      · dsimp only
        rw [chairs_left]
        exact lookup_eq_none_of_keys hempty
      · exact absurd hpos (Int.not_lt.2 (hle c v (by rw [chairs_left]; exact hv)))
    · rw [heq]
      exact Or.inr ⟨c, v, w, hv, hw, rfl⟩
  · rename_i ho
    rcases hs with ⟨-, hnone⟩ | ⟨c, v, w, hv, hw, hid⟩
    · exact absurd hc (by rw [hnone]; exact nofun)
    · have hne : v ≠ r := by
        rintro rfl
        obtain rfl := Option.some.inj (hu.symm.trans hw)
        exact ho hid.symm
      have hchair : c ≠ u.chairID := by
        rintro rfl
        exact hne (Option.some.inj (hv.symm.trans hc))
      refine Or.inr ⟨c, v, w, by rw [chairs_left, AList.lookup_erase_ne hchair, hv], ?_, hid.trans howner.symm⟩
      rw [users_left, users_writeUser, Function.update_of_ne hne, hw]

/-- `concludeGame` at an empty table. -/
theorem concludeGame_empty (cfg : ServerConfig) (attr : Nat → Attr) (gameStatus : GameStatus) (hempty : s.chairs.keys = []) :
    ∃ t, concludeGame cfg attr gameStatus s = .ok t ∧ t.chairs = s.chairs ∧ t.users = s.users ∧
      t.userItemHash = s.userItemHash ∧
      t.tableOwnerID = s.tableOwnerID := by
  cases hg : s.isGameStarted with
  | false => exact ⟨s, concludeAt_of_not_started 2 gameStatus hg, rfl, rfl, rfl, rfl⟩
  | true =>
    refine ⟨sendTableState (concludeTable cfg (s.concluding gameStatus)), ?_, ?_⟩
    · rw [concludeGame, concludeAt, if_neg (by simp [hg])]
      dsimp only
      rw [hempty, Attempt.forEach, ite_self, Attempt.ok_andThen]
      rfl
    · unfold concludeTable
      split
      · exact ⟨rfl, rfl, rfl, rfl⟩
      · exact ⟨rfl, rfl, rfl, rfl⟩

/-- `standUp` under the condition: the game ends only at a table that is empty then. -/
theorem ends_standUp_of_ownerSafe (h : Owned cfg s) (hsafe : ownerSafe cfg s (.standUp attr r)) :
    (standUp cfg attr s r).Ends
      (fun t => Owned cfg t ∧ (t.isGameStarted = s.isGameStarted ∨ ∀ c, t.chairs.lookup c = none)) fun t _ => t = s := by
  cases hu : s.users r with
  | none =>
    rw [standUp, standUpWith, hu]
    exact rfl
  | some u =>
    by_cases hc : s.chairs.lookup u.chairID = some r
    · cases hdata : s.gameData u.chairID with
      | false =>
        rw [standUp, standUpWith, hu]
        simp only
        rw [if_neg (by simp [hc]), leaveChair, if_pos (by simp [hdata])]
        exact rfl
      | true =>
        have haway : OwnerSits (s.away attr r u) := by
          refine h.2.away h.1 hu hc fun ho => ?_
          simp only [ownerSafe, hu, hc, hdata, ho, ne_eq, not_true_eq_false, decide_false, Bool.not_true, Bool.or_self,
            Bool.false_or, Bool.or_eq_true, List.isEmpty_iff] at hsafe
          refine hsafe.imp_right fun hany => ?_
          obtain ⟨e, he, hpos⟩ := List.any_eq_true.1 hany
          exact ⟨e.1, e.2, AList.mem_lookup_iff.2 he, of_decide_eq_true hpos⟩
        have hplaced := h.1.away attr hu
        have hgame := isGameStarted_away s attr r u
        rw [standUp, standUpWith_of_data h.1 _ attr false hu hc hdata]
        generalize s.away attr r u = t at haway hplaced hgame ⊢
        refine Attempt.Ends.andThen
          (P := fun t => Owned cfg t ∧ (t.isGameStarted = s.isGameStarted ∨ ∀ c, t.chairs.lookup c = none)) ?_
          fun t ht => ⟨ht.1.congr rfl rfl rfl rfl, ht.2⟩
        split
        · -- A table without an owner is empty, so that nobody is sent away.
          rename_i hzero
          have hnone : ∀ c, t.chairs.lookup c = none := by
            rcases haway with ⟨-, hnone⟩ | ⟨c, v, w, -, hw, hid⟩
            · exact hnone
            · exact absurd (hid.trans hzero.1) (hplaced.pos v w hw)
          have hempty : t.stopTimer.chairs.keys = [] := keys_eq_nil_of_lookup hnone
          obtain ⟨t', heq, hchairs, husers, hhash, howner⟩ := concludeGame_empty cfg attr .free hempty
          rw [heq]
          refine Attempt.ends_ok ⟨Owned.congr (s := t) ⟨hplaced, haway⟩ hchairs husers hhash howner, Or.inr ?_⟩
          rw [hchairs]
          exact hnone
        · exact Attempt.ends_ok ⟨⟨hplaced, haway⟩, Or.inl hgame⟩
    · rw [standUp, standUpWith_other _ attr false hu hc]
      exact ⟨h, Or.inl rfl⟩

/-! ## Sitting down -/

/-- A turn of the loop of `startGame` leaves the user in the chair. -/
theorem owns_startUser (h : Owned cfg s) (c : Nat) : Owns cfg (startUser cfg s c) := by
  unfold startUser
  split
  case h_1 => exact h
  rename_i v hv
  have hset : Owned cfg { s with offlineTime := Function.update s.offlineTime c 0 } := h.congr rfl rfl rfl rfl
  dsimp only
  split
  · exact Attempt.ends_fail hset
  · obtain ⟨w, hw, ht, rfl, -⟩ := h.1.sits c v hv
    simp only [hw]
    split
    · rw [setUserStatus_eq hset.1 hw _ _ _ (fun hst => by cases hst)]
      exact Attempt.ends_ok ⟨hset.1.write hw hv (by decide), hset.2.write hw (by decide) _ _⟩
    · exact Attempt.ends_ok hset

/-- `startGame` leaves the users in their chairs. -/
theorem owns_startGame (h : Owned cfg s) : Owns cfg (startGame cfg s) := by
  unfold startGame
  split
  · exact h
  · dsimp only
    refine Attempt.Ends.andThen (P := Owned cfg) ?_ fun t ht => Attempt.ends_ok (ht.congr rfl rfl rfl rfl)
    have hstarted : Owned cfg
      { s with isGameStarted := true, isDrawStarted := true, isTableStarted := true, gameStatus := .play } :=
      h.congr rfl rfl rfl rfl
    split
    · exact hstarted
    · refine Attempt.Ends.andThen (Attempt.ends_forEach (fun s c hs => owns_startUser hs c) _ _ hstarted) ?_
      intro t ht
      refine Attempt.ends_ok ?_
      split
      · exact ht
      · exact ht.congr rfl rfl rfl rfl

/-- The user has the chair. -/
theorem lookup_taken (cfg : ServerConfig) (s : State) (r : Nat) (u : User) (c : Nat) :
    (s.taken cfg r u c).chairs.lookup c = some r ∧ ∃ u', (s.taken cfg r u c).users r = some u' ∧ u'.userID = u.userID := by
  obtain ⟨hnull, -, -⟩ := status_taken cfg s.isGameStarted
  constructor
  · rw [State.taken, writeUser_eq]
    exact AList.lookup_insert _
  · rw [State.taken, users_writeUser, if_neg hnull]
    exact ⟨_, Function.update_self _ _ _, rfl⟩

/-- The others at the table, and their owner, stay when a user takes a free chair. -/
theorem OwnerSits.taken (h : OwnerSits s) (hu : s.users r = some u) {c : Nat} (hc : c ∉ s.chairs)
    (hcount : s.sitUserCount ≠ 0) :
    OwnerSits (s.taken cfg r u c) := by
  obtain ⟨hnull, -, -⟩ := status_taken cfg s.isGameStarted
  rcases h with ⟨-, hnone⟩ | ⟨c', v, w, hv, hw, hid⟩
  · exact absurd (by rw [State.sitUserCount, keys_eq_nil_of_lookup hnone]; rfl) hcount
  · have hchair : c' ≠ c := by
      rintro rfl
      exact hc (AList.lookup_isSome.1 (by rw [hv]; rfl))
    have hlookup : (s.taken cfg r u c).chairs.lookup c' = some v := by
      rw [State.taken, writeUser_eq]
      exact (AList.lookup_insert_ne hchair).trans hv
    have howner : (s.taken cfg r u c).tableOwnerID = s.tableOwnerID := by rw [State.taken, writeUser_eq]
    rw [OwnerSits, howner]
    right
    by_cases hvr : v = r
    · subst hvr
      obtain rfl := Option.some.inj (hu.symm.trans hw)
      obtain ⟨-, u', hu', hid'⟩ := lookup_taken cfg s v u c
      exact ⟨c', v, u', hlookup, hu', hid'.trans hid⟩
    · refine ⟨c', v, w, hlookup, ?_, hid⟩
      rw [State.taken, users_writeUser, Function.update_of_ne hvr, hw]

/-- The first user becomes the owner. -/
theorem owns_sitOwner (hmatch : cfg.isMatch = false) (hp : Placed cfg s) {c : Nat} (hc : s.chairs.lookup c = some r)
    (hu : s.users r = some u) {a : SitArgs} (hs : s.sitUserCount ≠ 1 → OwnerSits s)
    (hroom : s.sitUserCount = 1 → isVipRoom cfg a = some false ∨ isVipRoom cfg a = some true ∧ 2 ≤ (attr r).memberOrder) :
    Owns cfg (sitOwner cfg attr s r u.userID a) := by
  unfold sitOwner
  split
  · rename_i hone
    rcases hroom hone.1 with hfalse | ⟨htrue, hmember⟩
    · rw [hfalse]
      exact Attempt.ends_ok ⟨hp.congr rfl rfl rfl, Or.inr ⟨c, r, u, hc, hu, rfl⟩⟩
    · rw [htrue]
      simp only
      rw [if_neg (Nat.not_lt.2 hmember)]
      exact Attempt.ends_ok ⟨hp.congr rfl rfl rfl, Or.inr ⟨c, r, u, hc, hu, rfl⟩⟩
  · rename_i hone
    exact Attempt.ends_ok ⟨hp, hs fun h => hone ⟨h, by simp [hmatch]⟩⟩

theorem owns_sitVip (h : Owned cfg s) (a : SitArgs) : Owns cfg (sitVip cfg attr s r a) := by
  unfold sitVip
  repeat' split
  all_goals exact h

/-- The first user of a table becomes its owner when the chair is taken. -/
theorem owns_sitDown (hmatch : cfg.isMatch = false) (h : Owned cfg s) {c : Nat} {a : SitArgs}
    (hsafe : ownerSafe cfg s (.sitDown attr r c a)) : Owns cfg (sitDown cfg attr s r c a) := by
  unfold sitDown
  split
  case h_1 => exact h
  rename_i u hu
  split
  case isTrue => exact h
  rename_i hat
  rw [not_not] at hat
  split
  case h_1 => exact h
  rename_i hr
  have hc := chair_free hr
  simp only [ownerSafe, hu, hat.1, hat.2, hr, decide_true, Bool.and_self, Bool.not_true, Option.isSome_none, Bool.or_self,
    Bool.false_or, Bool.and_eq_true, Bool.or_eq_true, Bool.not_eq_true', decide_eq_true_eq] at hsafe
  obtain ⟨hscore, hroom⟩ := hsafe
  have hfree : ¬(s.isGameStarted = true ∧ cfg.serviceScore > 0) := by
    rintro ⟨hg, hpos⟩
    rcases hscore with hn | hn
    · exact absurd (hn.symm.trans hg) Bool.false_ne_true
    · exact absurd hpos (Int.not_lt.2 hn)
  have hcount := sitUserCount_taken cfg r u hc
  have hplaced := h.1.taken hu hat.1 (sitChair cfg s c a)
  obtain ⟨hlookup, u', hu', hid⟩ := lookup_taken cfg s r u (sitChair cfg s c a)
  rw [takeChair_eq h.1 hu hfree, Attempt.ok_andThen, ← hid]
  refine Attempt.Ends.andThen (owns_sitOwner hmatch hplaced hlookup hu' ?_ ?_) fun t ht => ?_
  · exact fun hne => h.2.taken hu hc (by omega)
  · intro hone
    rcases hroom with (hne | hfalse) | htrue
    · omega
    · exact Or.inl hfalse
    · exact Or.inr htrue
  · refine Attempt.Ends.andThen (owns_sitVip ht a) fun t ht => ?_
    have hsat : Owned cfg { sendTableState t with gameData := Function.update t.gameData (sitChair cfg s c a) true } :=
      ht.congr rfl rfl rfl rfl
    unfold onActionUserSitDown
    dsimp only
    split
    · exact owns_startGame hsat
    · exact Attempt.ends_ok hsat

end Owner

/-- One label. -/
theorem Owned.step {cfg : ServerConfig} {s s' : State} {i : Label} (hmatch : cfg.isMatch = false) (h : Owned cfg s)
    (hi : i.sitsOrStands) (hsafe : ownerSafe cfg s i) (hs : step cfg s i = some s') : Owned cfg s' := by
  cases i with
  | sitDown attr r c a => exact Option.some.inj hs ▸ owned_settle (owns_sitDown hmatch h hsafe)
  | standUp attr r =>
    refine Option.some.inj hs ▸ owned_settle ?_
    exact (ends_standUp_of_ownerSafe h hsafe).mono (fun _ ht => ht.1) fun _ _ ht => ht ▸ h
  | clock seconds => exact Option.some.inj hs ▸ h.congr rfl rfl rfl rfl
  | rehash chairs =>
    simp only [TableFrame.step] at hs
    split at hs
    · rename_i hp
      obtain rfl := Option.some.inj hs
      have hlookup : ∀ c, chairs.lookup c = s.chairs.lookup c := fun c => AList.perm_lookup (List.isPerm_iff.1 hp)
      refine ⟨h.1.rehash (List.isPerm_iff.1 hp), ?_⟩
      unfold OwnerSits
      simp only [hlookup]
      exact h.2
    · cases hs
  | login r userID isAndroid =>
    simp only [TableFrame.step] at hs
    split at hs
    · rename_i hn
      obtain rfl := Option.some.inj hs
      refine ⟨h.1.login isAndroid hn.1 hn.2.1 hn.2.2, h.2.of_users rfl rfl ?_⟩
      intro c v w _ hw
      refine ⟨w, ?_, rfl⟩
      dsimp only
      rw [Function.update_of_ne, hw]
      rintro rfl
      rw [hn.1] at hw
      cases hw
    · cases hs
  | switchUserItem r =>
    obtain ⟨u, hu, rfl | rfl⟩ := switchUserItem_cases hs
    · exact h
    · exact ⟨h.1.back hu, h.2.write hu (by decide) _ _⟩
  | elsewhere r st t c =>
    obtain ⟨u, hu, ht, rfl⟩ := elsewhere_cases hs
    refine ⟨h.1.write_other hu (fun hc => ht (h.1.record_of_sits hu hc).1) _ _ _, ?_⟩
    refine h.2.of_users (by rw [writeUser_eq]) (by rw [writeUser_eq]) ?_
    intro c' v w hv hw
    refine ⟨w, ?_, rfl⟩
    rw [users_writeUser, Function.update_of_ne, hw]
    rintro rfl
    obtain ⟨w', hw', ht', -⟩ := h.1.sits c' v hv
    obtain rfl := Option.some.inj (hu.symm.trans hw')
    exact ht ht'
  | _ => cases hi

/-- In every run of `cmd_sitDown` and `standUp` at a table that is not one of a match, all of whose steps meet the condition,
with any contributions: while somebody sits at the table, the owner is a user who sits there; an empty table has no owner;
and a `standUp` that ends the game leaves the table empty. -/
theorem owner_sits_of_ownerSafe (cfg : ServerConfig) (hmatch : cfg.isMatch = false) (time : Nat)
    (is : List Label) (s : State) (his : ∀ i ∈ is, i.sitsOrStands)
    (hm : Steps.Meets (step cfg) (fun s i => ownerSafe cfg s i) (State.init time) is)
    (h : Steps.exec (step cfg) (State.init time) is = some s) :
    (s.sitUserCount ≠ 0 → ∃ c r u, s.chairs.lookup c = some r ∧ s.users r = some u ∧ u.userID = s.tableOwnerID) ∧
    (s.sitUserCount = 0 → s.tableOwnerID = 0) ∧
    ∀ attr r s', ownerSafe cfg s (.standUp attr r) → step cfg s (.standUp attr r) = some s' →
      s.isGameStarted = true → s'.isGameStarted = false → s'.sitUserCount = 0 := by
  have hinit : Owned cfg (State.init time) := ⟨placed_init cfg time, Or.inl ⟨rfl, fun _ => rfl⟩⟩
  have hinv : Owned cfg s :=
    Steps.exec_invariant (fun s i s' hs hc hstep => hs.step hmatch hc.1 hc.2 hstep) is _ s hinit
      ((Steps.meets_of_mem is _ his).and hm) h
  refine ⟨?_, ?_, ?_⟩
  · intro hcount
    rcases hinv.2 with ⟨-, hnone⟩ | hsits
    · exact absurd (by rw [State.sitUserCount, keys_eq_nil_of_lookup hnone]; rfl) hcount
    · exact hsits
  · intro hcount
    rcases hinv.2 with ⟨hzero, -⟩ | ⟨c, r, u, hr, -, -⟩
    · exact hzero
    · rw [lookup_eq_none_of_keys (List.eq_nil_of_length_eq_zero hcount)] at hr
      cases hr
  · intro attr r s' hsafe hstep hg hg'
    have hends := ends_standUp_of_ownerSafe hinv hsafe
    obtain rfl := Option.some.inj hstep
    unfold settle at hg' ⊢
    unfold Attempt.Ends at hends
    split at hends
    · rename_i hn
      rw [hn] at hg' ⊢
      rcases hends.2 with heq | hnone
      · exact absurd (hg'.symm.trans (heq.trans hg)) Bool.false_ne_true
      · rw [State.sitUserCount, keys_eq_nil_of_lookup hnone]
        rfl
    · rename_i e he
      rw [he, hends] at hg'
      exact absurd (hg'.symm.trans hg) Bool.false_ne_true

/-- Two users sit down, whom the rules do not concern. -/
def twoUsers : List Label :=
  [.login 1 101 false, .login 2 102 false, .sitDown (fun _ => { masterOrder := 1 }) 1 1 {},
    .sitDown (fun _ => { masterOrder := 1 }) 2 2 {}]

/-- The owner leaves the table to the other user. -/
theorem owner_sits_of_ownerSafe_twoUsers :
    ∃ s, Steps.exec (step { id := 7, serverID := 1, kindID := 1, chairPerTable := 4 }) (State.init 1000)
        (twoUsers ++ [.standUp (fun _ => { contribution := 1 }) 1]) = some s ∧
      s.tableOwnerID = 102 ∧ ∃ c r u, s.chairs.lookup c = some r ∧ s.users r = some u ∧ u.userID = s.tableOwnerID :=
  ⟨_, rfl, by decide +kernel,
    (owner_sits_of_ownerSafe { id := 7, serverID := 1, kindID := 1, chairPerTable := 4 } rfl 1000
      (twoUsers ++ [.standUp (fun _ => { contribution := 1 }) 1]) _ (by decide +kernel) (by decide +kernel) rfl).1
        (by decide +kernel)⟩

/-- The owner leaves a user who has contributed nothing: the game is concluded, and the table has no owner. -/
theorem table_without_owner :
    ¬∀ (cfg : ServerConfig), cfg.isMatch = false → ∀ (time : Nat) (is : List Label) (s : State),
      (∀ i ∈ is, i.sitsOrStands) → Steps.exec (step cfg) (State.init time) is = some s →
      (s.sitUserCount ≠ 0 → ∃ c r u, s.chairs.lookup c = some r ∧ s.users r = some u ∧ u.userID = s.tableOwnerID) ∧
      (s.sitUserCount = 0 → s.tableOwnerID = 0) ∧
      ∀ attr r s', step cfg s (.standUp attr r) = some s' → s.isGameStarted = true → s'.isGameStarted = false →
        s'.sitUserCount = 0 := by
  intro h
  obtain ⟨-, -, hends⟩ :=
    h { id := 7, serverID := 1, kindID := 1, chairPerTable := 4 } rfl 1000 twoUsers _ (by decide +kernel) rfl
  have hcount := hends (fun _ => {}) 1 _ rfl (by decide +kernel) (by decide +kernel)
  exact absurd hcount (by decide +kernel)

end SasyServer.TableFrame
