import SasyServer.Lemmas.TableSeats
import SasyServer.Table.Practice

/-!
# Theorem: when a `cmd_sitDown` that fails leaves everything as it was

The checks of `cmd_sitDown` before the chair is taken leave everything as it was, also where the rules raise an error. After
that the chair, the practice score, the user's status and the owner change, and of the later exits only one takes the chair
back: the one for a user whom the user manager no longer knows, which forgets the practice score.
-/

namespace SasyServer.TableFrame

open UserManager (UserStatus)

/-- The entries of `_userItemHash` are records in use, of their users. -/
def Recorded (s : State) : Prop := ∀ userID r, s.userItemHash userID = some r → ∃ u, s.users r = some u ∧ u.userID = userID

/-- The sink does not start the game, or the start finds a used record in every chair and has no score to freeze. -/
def starts (cfg : ServerConfig) (s : State) : Bool :=
  s.gameStatus ≠ .free || s.isDrawStarted || s.isGameStarted ||
    (cfg.serviceScore ≤ 0 && s.chairs.entries.all fun e => (s.users e.2).isSome)

/-- The condition: a call that is not refused before the chair is taken finds the user in `_userItemHash`, passes
the checks of a VIP room and has no score to freeze; or it does not find the user, and there is no practice score
or it changes nothing. -/
def sitKeeps (cfg : ServerConfig) (tryScore : Int) (attr : Nat → Attr) (t : Table) (userItem chairID : Nat)
    (a : SitArgs) : Bool :=
  match t.state.users userItem with
  | none => true
  | some u =>
    !(u.tableID = invalidTable && u.chairID = invalidChair) ||
      (sitRefusal cfg (t.scores.attr attr) t.state userItem chairID a).isSome ||
      (!t.state.isGameStarted || cfg.serviceScore ≤ 0) &&
        match t.state.userItemHash u.userID with
        | none =>
          !cfg.isEducate || (t.scores.score userItem = tryScore && t.scores.siteDownScore userItem = t.scores.score userItem)
        | some _ => sitPasses cfg (t.scores.attr attr) t.state userItem a && starts cfg t.state

/-- What the user and the table have in common before and after. -/
structure Unchanged (t t' : Table) (userItem : Nat) : Prop where
  chairs : t'.state.chairID2UserData = t.state.chairID2UserData
  owner : t'.state.tableOwnerID = t.state.tableOwnerID
  enterPassword : t'.state.enterPassword = t.state.enterPassword
  needVipLv : t'.state.needVipLv = t.state.needVipLv
  multipleLv : t'.state.multipleLv = t.state.multipleLv
  user : t'.state.users userItem = t.state.users userItem
  score : t'.scores.score userItem = t.scores.score userItem
  siteDownScore : t'.scores.siteDownScore userItem = t.scores.siteDownScore userItem

theorem Unchanged.refl (t : Table) (userItem : Nat) : Unchanged t t userItem := ⟨rfl, rfl, rfl, rfl, rfl, rfl, rfl, rfl⟩

/-- Without the scores it is the `cmd_sitDown` of the table. -/
theorem state_cmdSitDown (cfg : ServerConfig) (tryScore : Int) (attr : Nat → Attr) (t : Table) (userItem chairID : Nat)
    (a : SitArgs) :
    (cmdSitDown cfg tryScore attr t userItem chairID a).state.state =
      (sitDown cfg (t.scores.attr attr) t.state userItem chairID a).state ∧
    (cmdSitDown cfg tryScore attr t userItem chairID a).failure =
      (sitDown cfg (t.scores.attr attr) t.state userItem chairID a).failure := by
  unfold cmdSitDown sitDown
  cases t.state.users userItem with
  | none => exact ⟨rfl, rfl⟩
  | some u =>
    dsimp only
    split
    · exact ⟨rfl, rfl⟩
    · cases sitRefusal cfg (t.scores.attr attr) t.state userItem chairID a with
      | some code => exact ⟨rfl, rfl⟩
      | none => exact ⟨rfl, rfl⟩

section Sit

variable {cfg : ServerConfig} {attr : Nat → Attr} {s s' : State} {r : Nat} {u : User} {c : Nat} {a : SitArgs}

/-! ## The user manager -/

theorem Recorded.congr (h : Recorded s) (hu : s'.users = s.users) (hh : s'.userItemHash = s.userItemHash) : Recorded s' := by
  unfold Recorded
  rw [hu, hh]
  exact h

/-- A record that is written stays that of its user. -/
theorem Recorded.write (h : Recorded s) {w : Nat} (hu : s.users w = some u) (userID : Nat) {st : UserStatus}
    (hst : st ≠ .usNull) (t c : Nat) :
    Recorded (writeUser s userID w u st t c) := by
  intro v r hr
  rw [userItemHash_writeUser, if_neg hst] at hr
  rw [users_writeUser, if_neg hst]
  obtain ⟨x, hx, hxv⟩ := h v r hr
  by_cases hrw : r = w
  · subst hrw
    obtain rfl := Option.some.inj (hu.symm.trans hx)
    exact ⟨_, Function.update_self _ _ _, hxv⟩
  · exact ⟨x, by rw [Function.update_of_ne hrw, hx], hxv⟩

/-- The user is not found, or the record of the user is written. -/
theorem Recorded.setUserStatus (h : Recorded s) (cfg : ServerConfig) (userID : Nat) (st : UserStatus)
    (hst : st ≠ .usOffline) (t c : Nat) :
    TableFrame.setUserStatus cfg s userID st t c = .ok s ∧ s.userItemHash userID = none ∨
    ∃ w u, s.userItemHash userID = some w ∧ s.users w = some u ∧
      TableFrame.setUserStatus cfg s userID st t c = .ok (writeUser s userID w u st t c) := by
  unfold TableFrame.setUserStatus
  cases hw : s.userItemHash userID with
  | none => exact Or.inl ⟨rfl, rfl⟩
  | some w =>
    obtain ⟨u, hu, -⟩ := h userID w hw
    refine Or.inr ⟨w, u, rfl, hu, ?_⟩
    simp only [hu, hst, false_and, if_false]

/-- Whether a record is in use does not change where no status becomes `US_NULL`. -/
theorem isSome_writeUser {w : Nat} (hu : s.users w = some u) (userID : Nat) {st : UserStatus} (hst : st ≠ .usNull)
    (t c r : Nat) :
    ((writeUser s userID w u st t c).users r).isSome = (s.users r).isSome := by
  rw [users_writeUser, if_neg hst]
  by_cases hrw : r = w
  · subst hrw
    rw [Function.update_self, hu]
    rfl
  · rw [Function.update_of_ne hrw]

/-! ## The start of the game -/

/-- What a start of the game finds: the chairs, and which records are in use. -/
def Found (s s' : State) : Prop :=
  Recorded s' ∧ s'.chairs = s.chairs ∧ ∀ r, (s'.users r).isSome = (s.users r).isSome

theorem Found.of_users (h : Found s s') {s'' : State} (hc : s''.chairs = s'.chairs) (hu : s''.users = s'.users)
    (hh : s''.userItemHash = s'.userItemHash) : Found s s'' :=
  ⟨h.1.congr hu hh, hc.trans h.2.1, fun r => by rw [hu, h.2.2]⟩

theorem Found.write (h : Found s s') {w : Nat} (hu : s'.users w = some u) (userID : Nat) {st : UserStatus}
    (hst : st ≠ .usNull) (t c : Nat) :
    Found s (writeUser s' userID w u st t c) := by
  refine ⟨h.1.write hu userID hst t c, ?_, fun r => (isSome_writeUser hu userID hst t c r).trans (h.2.2 r)⟩
  rw [writeUser_eq]
  exact h.2.1

/-- One turn of the loop of `startGame`: without a score to freeze it only fails on a record that is not in use. -/
theorem startUser_ends_found (h : Found s s') (hscore : cfg.serviceScore ≤ 0) (c : Nat) :
    (startUser cfg s' c).Ends (fun t => Found s t ∧ ∀ r, s.chairs.lookup c = some r → (s.users r).isSome)
      fun t _ => Found s t ∧ ∃ r, s.chairs.lookup c = some r ∧ s.users r = none := by
  rw [← h.2.1]
  unfold startUser
  cases hr : s'.chairs.lookup c with
  | none => exact ⟨h, fun r hr => by cases hr⟩
  | some r =>
    have hset : Found s { s' with offlineTime := Function.update s'.offlineTime c 0 } := h.of_users rfl rfl rfl
    dsimp only
    rw [if_neg (Int.not_lt.2 hscore)]
    cases hu : s'.users r with
    | none => exact ⟨hset, r, rfl, by simpa [hu] using (h.2.2 r).symm⟩
    | some u =>
      have hsome : ∀ r', some r = some r' → (s.users r').isSome := by
        rintro r' ⟨⟩
        rw [← h.2.2 r, hu]
        rfl
      dsimp only
      split
      · obtain ⟨heq, -⟩ | ⟨w, x, -, hx, heq⟩ :=
          Recorded.setUserStatus hset.1 cfg u.userID .usPlaying (by decide) cfg.id c
        · rw [heq]
          exact ⟨hset, hsome⟩
        · rw [heq]
          exact Attempt.ends_ok ⟨hset.write hx _ (by decide) _ _, hsome⟩
      · exact ⟨hset, hsome⟩

/-- A score that would be frozen ends the loop at the first chair. -/
theorem startUser_freeze (hscore : 0 < cfg.serviceScore) {r : Nat} (hr : s.chairs.lookup c = some r) :
    startUser cfg s c = .fail { s with offlineTime := Function.update s.offlineTime c 0 } (.raised .noFunction) := by
  unfold startUser
  simp only [hr, if_pos hscore]

/-- The loop of `startGame` comes to its end if and only if no score is frozen and every user in a chair has a record. -/
theorem failure_startUsers (cfg : ServerConfig) (h : Recorded s) (hne : s.chairs.keys ≠ []) :
    (Attempt.forEach (startUser cfg) s.chairs.keys s).failure = none ↔
      cfg.serviceScore ≤ 0 ∧ ∀ c r, s.chairs.lookup c = some r → (s.users r).isSome := by
  by_cases hscore : cfg.serviceScore ≤ 0
  · have hrun :=
      Attempt.ends_forEach_all (P := Found s) (E := fun _ _ => ∃ c r, s.chairs.lookup c = some r ∧ s.users r = none)
      (D := fun c _ => ∀ r, s.chairs.lookup c = some r → (s.users r).isSome)
      (fun s' c hs' => (startUser_ends_found hs' hscore c).mono (fun t ht => ⟨ht.1, ht.2, fun _ hy => hy⟩)
        fun t _ ⟨_, r, hr⟩ => ⟨c, r, hr⟩)
      s.chairs.keys s ⟨h, rfl, fun _ => rfl⟩
    unfold Attempt.Ends at hrun
    cases hf : (Attempt.forEach (startUser cfg) s.chairs.keys s).failure with
    | none =>
      rw [hf] at hrun
      refine iff_of_true rfl ⟨hscore, fun c r hr => hrun.2.1 c ?_ r hr⟩
      exact AList.mem_keys.1 (AList.lookup_isSome.1 (by rw [hr]; rfl))
    | some e =>
      rw [hf] at hrun
      obtain ⟨c, r, hr, hnone⟩ := hrun
      refine iff_of_false (by simp) fun hall => ?_
      have := hall.2 c r hr
      rw [hnone] at this
      cases this
  · refine iff_of_false ?_ fun hall => hscore hall.1
    cases hk : s.chairs.keys with
    | nil => exact absurd hk hne
    | cons c cs =>
      have hmem : c ∈ s.chairs := AList.mem_keys.2 (by rw [hk]; exact List.mem_cons_self)
      obtain ⟨r, hr⟩ := Option.isSome_iff_exists.1 (AList.lookup_isSome.2 hmem)
      rw [Attempt.forEach, startUser_freeze (Int.not_le.1 hscore) hr, Attempt.failure_andThen]
      simp [Attempt.fail]

/-- `startGame` comes to its end if it has nothing to do, or if no score is frozen and every user in a chair has a
record. -/
theorem failure_startGame (cfg : ServerConfig) (h : Recorded s) (hne : s.chairs.keys ≠ []) :
    (startGame cfg s).failure = none ↔ s.isDrawStarted ∨ s.isGameStarted ∨
      cfg.serviceScore ≤ 0 ∧ ∀ c r, s.chairs.lookup c = some r → (s.users r).isSome := by
  unfold startGame
  split
  · rename_i hd
    simp [hd, Attempt.ok]
  · rename_i hd
    dsimp only
    rw [Attempt.failure_andThen]
    split
    · rename_i hg
      simp [hg, Attempt.ok]
    · rename_i hg
      have hloop := failure_startUsers cfg
        (s := { s with isGameStarted := true, isDrawStarted := true, isTableStarted := true, gameStatus := .play })
        (h.congr rfl rfl) hne
      rw [Attempt.failure_andThen, hloop]
      simp [hd, hg, Attempt.ok]

/-! ## The chair stays taken -/

/-- The user has the chair. -/
def Has (c r : Nat) (s : State) : Prop := s.chairs.lookup c = some r

/-- A status is written, and the user keeps the chair. -/
theorem has_setUserStatus (h : Has c r s) (userID : Nat) (st : UserStatus) (t d : Nat) :
    (setUserStatus cfg s userID st t d).Ends (Has c r) fun s _ => Has c r s := by
  unfold setUserStatus
  split
  · exact h
  · split
    · exact h
    · split
      · exact h
      · rw [writeUser_eq]
        exact h

/-- So it is in a turn of the loop of `startGame`. -/
theorem has_startUser (h : Has c r s) (d : Nat) : (startUser cfg s d).Ends (Has c r) fun s _ => Has c r s := by
  unfold startUser
  split
  · exact h
  · dsimp only
    split
    · exact h
    · split
      · exact h
      · split
        · exact has_setUserStatus (by exact h) _ _ _ _
        · exact h

/-- And in the whole of it. -/
theorem has_startGame (h : Has c r s) : (startGame cfg s).Ends (Has c r) fun s _ => Has c r s := by
  unfold startGame
  split
  · exact h
  · dsimp only
    refine Attempt.Ends.andThen (P := Has c r) ?_ fun s hs => hs
    split
    · exact h
    · refine Attempt.Ends.andThen (Attempt.ends_forEach (fun s d hs => has_startUser hs d) _ _ (by exact h)) fun s' hs' => ?_
      refine Attempt.ends_ok ?_
      split <;> exact hs'

theorem has_sitOwner (h : Has c r s) (v userID : Nat) :
    (sitOwner cfg attr s v userID a).Ends (Has c r) fun s _ => Has c r s := by
  unfold sitOwner
  repeat' split
  all_goals exact h

theorem has_sitVip (h : Has c r s) (v : Nat) : (sitVip cfg attr s v a).Ends (Has c r) fun s _ => Has c r s := by
  unfold sitVip
  repeat' split
  all_goals exact h

/-- What comes after the chair has been taken leaves the user in it. -/
theorem has_sat (h : Has c r s) (v userID d : Nat) :
    ((sitOwner cfg attr s v userID a).andThen fun s => (sitVip cfg attr s v a).andThen fun s =>
      onActionUserSitDown cfg (sendTableState s) d).Ends (Has c r) fun s _ => Has c r s := by
  refine (has_sitOwner h v userID).andThen fun s hs => (has_sitVip hs v).andThen fun s hs => ?_
  unfold onActionUserSitDown
  dsimp only
  split
  · exact has_startGame (by exact hs)
  · exact hs

/-! ## The checks after the chair has been taken -/

theorem failure_checks {p q w : Prop} [Decidable p] [Decidable q] [Decidable w] {s : State} {e e' e'' : Failure} :
    (if p then Attempt.fail s e else if q then Attempt.fail s e' else if w then Attempt.fail s e''
    else ⟨s, none⟩ : Run).failure = none ↔
      ¬p ∧ ¬q ∧ ¬w := by
  split_ifs <;> simp_all [Attempt.fail]

/-- They are those of `sitPasses`. -/
theorem failure_sitOwner_sitVip
    (hsame : s'.enterPassword = s.enterPassword ∧ s'.needVipLv = s.needVipLv ∧ s'.multipleLv = s.multipleLv)
    (hcount : s'.sitUserCount = s.sitUserCount + 1) (userID : Nat) :
    ((sitOwner cfg attr s' r userID a).failure = none ∧
      (sitVip cfg attr (sitOwner cfg attr s' r userID a).state r a).failure = none) ↔
      sitPasses cfg attr s r a := by
  obtain ⟨hpassword, hneed, hmultiple⟩ := hsame
  unfold sitOwner sitVip sitPasses
  by_cases hfirst : s.sitUserCount = 0 ∧ cfg.isMatch = false
  · have hone : s'.sitUserCount = 1 := by omega
    simp only [hone, hfirst.1, hfirst.2, Bool.false_eq_true, not_false_eq_true, and_self, if_true, decide_true,
      Bool.not_false, Bool.true_and, Bool.and_self, Bool.not_true, Bool.false_or]
    cases isVipRoom cfg a with
    | none => simp [Attempt.fail]
    | some b =>
      cases b with
      | false => simp [Attempt.ok]
      | true =>
        dsimp only
        by_cases hm : (attr r).memberOrder < 2
        · simp [Attempt.fail, Attempt.ok, hm, Nat.not_le.2 hm]
        · simp only [if_neg hm, Attempt.ok, hpassword, hneed, hmultiple]
          rw [failure_checks]
          simp [Nat.not_lt.1 hm, and_assoc, imp_iff_not_or]
  · have hif : ¬(s'.sitUserCount = 1 ∧ ¬cfg.isMatch) := by
      rintro ⟨hone, hmatch⟩
      exact hfirst ⟨by omega, by simpa using hmatch⟩
    have hff : (decide (s.sitUserCount = 0) && !cfg.isMatch) = false := by
      rw [Bool.eq_false_iff]
      intro ht
      simp only [Bool.and_eq_true, decide_eq_true_eq, Bool.not_eq_true'] at ht
      exact hfirst ht
    simp only [if_neg hif, hff, Bool.false_and, Bool.false_eq_true, if_false, Bool.not_false, Bool.true_or, Bool.true_and]
    cases isVipRoom cfg a with
    | none => simp [Attempt.fail, Attempt.ok]
    | some b =>
      cases b with
      | false => simp [Attempt.ok]
      | true =>
        simp only [Attempt.ok, hpassword, hneed, hmultiple]
        rw [failure_checks]
        simp [and_assoc, imp_iff_not_or]

/-- What `sitOwner` and `sitVip` do not change. -/
def State.frame (s : State) :
    (AList fun _ : Nat => Nat) × (Nat → Option User) × (Nat → Option Nat) × GameStatus × Bool × Bool :=
  (s.chairs, s.users, s.userItemHash, s.gameStatus, s.isDrawStarted, s.isGameStarted)

theorem frame_sitOwner (s : State) (r userID : Nat) : (sitOwner cfg attr s r userID a).state.frame = s.frame := by
  unfold sitOwner
  repeat' split
  all_goals rfl

theorem frame_sitVip (s : State) (r : Nat) : (sitVip cfg attr s r a).state.frame = s.frame := by
  unfold sitVip
  repeat' split
  all_goals rfl

/-- `onActionUserSitDown` at a table with users. -/
theorem failure_onActionUserSitDown (h : Recorded s) (hne : s.chairs.keys ≠ []) (c : Nat) :
    (onActionUserSitDown cfg s c).failure = none ↔ s.gameStatus ≠ .free ∨ s.isDrawStarted ∨ s.isGameStarted ∨
      cfg.serviceScore ≤ 0 ∧ ∀ c r, s.chairs.lookup c = some r → (s.users r).isSome := by
  unfold onActionUserSitDown
  dsimp only
  split
  · rename_i hfree
    have hstart :=
      failure_startGame cfg (s := { s with gameData := Function.update s.gameData c true }) (h.congr rfl rfl) hne
    rw [hstart]
    simp [hfree]
  · rename_i hfree
    simp [hfree, Attempt.ok]

/-- The operation after the chair has been taken comes to its end if and only if the user passes the checks
and the sink can start. -/
theorem failure_sat (h : Recorded s) (hne : s.chairs.keys ≠ []) (r userID c : Nat) :
    ((sitOwner cfg attr s r userID a).andThen fun s => (sitVip cfg attr s r a).andThen fun s =>
      onActionUserSitDown cfg (sendTableState s) c).failure = none ↔
    ((sitOwner cfg attr s r userID a).failure = none ∧
      (sitVip cfg attr (sitOwner cfg attr s r userID a).state r a).failure = none) ∧
      (s.gameStatus ≠ .free ∨ s.isDrawStarted ∨ s.isGameStarted ∨
        cfg.serviceScore ≤ 0 ∧ ∀ c r, s.chairs.lookup c = some r → (s.users r).isSome) := by
  rw [Attempt.failure_andThen, Attempt.failure_andThen, and_assoc]
  refine and_congr_right fun _ => and_congr_right fun _ => ?_
  have hframe : (sitVip cfg attr (sitOwner cfg attr s r userID a).state r a).state.frame = s.frame :=
    (frame_sitVip _ r).trans (frame_sitOwner s r userID)
  generalize (sitVip cfg attr (sitOwner cfg attr s r userID a).state r a).state = s' at hframe
  simp only [State.frame, Prod.mk.injEq] at hframe
  obtain ⟨hc, hu, hh, hg, hd, hs⟩ := hframe
  rw [← hc, ← hu, ← hg, ← hd, ← hs]
  exact failure_onActionUserSitDown (s := sendTableState s') (h.congr hu hh) (by exact hc ▸ hne) c

/-- Which chairs a start of the game looks at after the user has taken one. -/
theorem starts_iff (hsome : (s.users r).isSome) (hc : c ∉ s.chairs) :
    starts cfg s ↔ s.gameStatus ≠ .free ∨ s.isDrawStarted ∨ s.isGameStarted ∨
      cfg.serviceScore ≤ 0 ∧ ∀ d v, (s.chairs.insert c r).lookup d = some v → (s.users v).isSome := by
  have hall : (s.chairs.entries.all fun e => (s.users e.2).isSome) ↔
      ∀ d v, (s.chairs.insert c r).lookup d = some v → (s.users v).isSome := by
    rw [List.all_eq_true]
    constructor
    · intro h d v hv
      by_cases hd : d = c
      · subst hd
        rw [AList.lookup_insert, Option.some.injEq] at hv
        exact hv ▸ hsome
      · rw [AList.lookup_insert_ne hd] at hv
        exact h ⟨d, v⟩ (AList.mem_lookup_iff.1 hv)
    · rintro h ⟨d, v⟩ hv
      have hl : s.chairs.lookup d = some v := AList.mem_lookup_iff.2 hv
      refine h d v ?_
      rw [AList.lookup_insert_ne, hl]
      rintro rfl
      exact hc (AList.lookup_isSome.1 (by rw [hl]; rfl))
  unfold starts
  simp only [Bool.or_eq_true, Bool.and_eq_true, decide_eq_true_eq, hall, or_assoc]

/-- The rest of `cmd_sitDown` from where the chair is taken. -/
def sit (cfg : ServerConfig) (attr : Nat → Attr) (s : State) (r userID c : Nat) (a : SitArgs) : Run :=
  (takeChair cfg s r userID c).andThen fun s => (sitOwner cfg attr s r userID a).andThen fun s =>
    (sitVip cfg attr s r a).andThen fun s => onActionUserSitDown cfg (sendTableState s) c

/-- A score that would be frozen, or a user whom the user manager does not know. -/
theorem sit_fails (cfg : ServerConfig) (s : State) (attr : Nat → Attr) (a : SitArgs) (r c : Nat) (userID : Nat) :
    (s.isGameStarted = true ∧ cfg.serviceScore > 0 → (sit cfg attr s r userID c a).failure ≠ none ∧
      Has c r (sit cfg attr s r userID c a).state) ∧
    (¬(s.isGameStarted = true ∧ cfg.serviceScore > 0) → s.userItemHash userID = none →
      (sit cfg attr s r userID c a).failure ≠ none ∧
      (sit cfg attr s r userID c a).state =
        { s with chairs := (s.chairs.insert c r).erase c, offlineTime := Function.update s.offlineTime c 0 }) := by
  unfold sit takeChair
  dsimp only
  constructor
  · intro hfreeze
    rw [if_pos hfreeze]
    exact ⟨by simp [Attempt.fail, Attempt.andThen], AList.lookup_insert _⟩
  · intro hfreeze hnone
    rw [if_neg hfreeze, hnone]
    exact ⟨by simp [Attempt.fail, Attempt.andThen], rfl⟩

/-- What the table has in common before and after the user has taken the chair. -/
structure Taken (s s' : State) (c r : Nat) : Prop where
  recorded : Recorded s'
  chairs : s'.chairs = s.chairs.insert c r
  users : ∀ v, (s'.users v).isSome = (s.users v).isSome
  vip : s'.enterPassword = s.enterPassword ∧ s'.needVipLv = s.needVipLv ∧ s'.multipleLv = s.multipleLv
  flags : s'.gameStatus = s.gameStatus ∧ s'.isDrawStarted = s.isDrawStarted ∧ s'.isGameStarted = s.isGameStarted

/-- The chair is taken by a user whom the user manager knows, when no score is to be frozen. -/
theorem takeChair_known (h : Recorded s) (r c : Nat) {userID w : Nat}
    (hfreeze : ¬(s.isGameStarted = true ∧ cfg.serviceScore > 0)) (hw : s.userItemHash userID = some w) :
    ∃ s', takeChair cfg s r userID c = .ok s' ∧ Taken s s' c r := by
  obtain ⟨hnull, -, hoff⟩ := status_taken cfg s.isGameStarted
  obtain ⟨x, hx, -⟩ := h userID w hw
  have hrec : Recorded { s with chairs := s.chairs.insert c r, offlineTime := Function.update s.offlineTime c 0 } :=
    h.congr rfl rfl
  have heq := writeUser_eq
    { s with chairs := s.chairs.insert c r, offlineTime := Function.update s.offlineTime c 0 } userID w x
    (if s.isGameStarted then .usPlaying else if cfg.allowAvertCheatMode ∨ cfg.isMatch then .usReady else .usSit) cfg.id c
  refine ⟨_, ?_, hrec.write hx userID hnull cfg.id c,
    by rw [heq], fun v => (isSome_writeUser (by exact hx) userID hnull cfg.id c v).trans rfl,
    by rw [heq]; exact ⟨rfl, rfl, rfl⟩, by rw [heq]; exact ⟨rfl, rfl, rfl⟩⟩
  unfold takeChair
  dsimp only
  rw [if_neg hfreeze, hw]
  simp only [setUserStatus, hw, hx, hoff, false_and, if_false]

/-- The user manager knows the user. -/
theorem sit_known (h : Recorded s) (hsome : (s.users r).isSome) (hc : c ∉ s.chairs) (attr : Nat → Attr) (a : SitArgs)
    {userID w : Nat} (hfreeze : ¬(s.isGameStarted = true ∧ cfg.serviceScore > 0)) (hw : s.userItemHash userID = some w) :
    Has c r (sit cfg attr s r userID c a).state ∧
    ((sit cfg attr s r userID c a).failure = none ↔ sitPasses cfg attr s r a ∧ starts cfg s) := by
  obtain ⟨s', htake, ht⟩ := takeChair_known h r c hfreeze hw
  have hkeys : s'.chairs.keys = c :: s.chairs.keys := by
    rw [ht.chairs, AList.keys_insert, List.erase_of_not_mem (mt AList.mem_keys.2 hc)]
  have hhas : Has c r s' := by
    rw [Has, ht.chairs]
    exact AList.lookup_insert _
  have hne : s'.chairs.keys ≠ [] := by
    rw [hkeys]
    exact List.cons_ne_nil _ _
  have hcount : s'.sitUserCount = s.sitUserCount + 1 := by
    rw [State.sitUserCount, hkeys, List.length_cons, State.sitUserCount]
  rw [sit, htake, Attempt.ok_andThen]
  refine ⟨(has_sat hhas r userID c).always, ?_⟩
  rw [failure_sat ht.recorded hne, failure_sitOwner_sitVip ht.vip hcount, starts_iff hsome hc]
  refine and_congr_right fun _ => ?_
  obtain ⟨hstatus, hdraw, hgame⟩ := ht.flags
  simp only [ht.users, ht.chairs, hstatus, hdraw, hgame]

end Sit

/-! ## The operation -/

section Operation

variable {cfg : ServerConfig} {tryScore : Int} {attr : Nat → Attr} {t : Table} {r chairID : Nat} {a : SitArgs} {u : User}

/-- A call that is refused before the chair is taken, or raises an error, changes nothing. -/
theorem cmdSitDown_early (h : ∀ u, t.state.users r = some u → u.tableID = invalidTable → u.chairID = invalidChair →
    (sitRefusal cfg (t.scores.attr attr) t.state r chairID a).isSome) :
    (cmdSitDown cfg tryScore attr t r chairID a).state = t := by
  unfold cmdSitDown
  dsimp only
  cases hu : t.state.users r with
  | none => rfl
  | some u =>
    dsimp only
    split
    · rfl
    · rename_i hat
      rw [not_not] at hat
      obtain ⟨code, hcode⟩ := Option.isSome_iff_exists.1 (h u hu hat.1 hat.2)
      rw [hcode]
      rfl

/-- A call that takes the chair. -/
theorem cmdSitDown_eq (hu : t.state.users r = some u) (hat : u.tableID = invalidTable ∧ u.chairID = invalidChair)
    (hr : sitRefusal cfg (t.scores.attr attr) t.state r chairID a = none) :
    cmdSitDown cfg tryScore attr t r chairID a = Table.lift
      (if cfg.isEducate then t.scores.practice r tryScore else t.scores)
      (sit cfg (t.scores.attr attr) t.state r u.userID (sitChair cfg t.state chairID a) a) := by
  unfold cmdSitDown
  dsimp only
  rw [hu]
  dsimp only
  rw [if_neg (not_not.2 hat), hr]
  rfl

/-- The user has the chair now. -/
theorem not_unchanged {t' : Table} {c : Nat} (hc : c ∉ t.state.chairs) (h : Has c r t'.state) : ¬Unchanged t t' r := by
  intro hsame
  have hnew := congrFun hsame.chairs c
  have hold : t.state.chairs.lookup c = none := by
    rw [← Option.not_isSome_iff_eq_none, AList.lookup_isSome]
    exact hc
  rw [State.chairID2UserData, State.chairID2UserData, h, hold] at hnew
  cases hnew

/-- The user manager does not know the user, and the chair has been taken back. -/
theorem unchanged_iff_scores (cfg : ServerConfig) (t t' : Table) (r : Nat) (tryScore : Int) {c : Nat}
    (hc : c ∉ t.state.chairs)
    (hs : t'.state = { t.state with
      chairs := (t.state.chairs.insert c r).erase c
      offlineTime := Function.update t.state.offlineTime c 0 })
    (hx : t'.scores = if cfg.isEducate then t.scores.practice r tryScore else t.scores) :
    Unchanged t t' r ↔
      cfg.isEducate = false ∨ t.scores.score r = tryScore ∧ t.scores.siteDownScore r = t.scores.score r := by
  have hchairs : t'.state.chairID2UserData = t.state.chairID2UserData := by
    funext d
    rw [hs]
    unfold State.chairID2UserData
    dsimp only
    by_cases hd : d = c
    · subst hd
      rw [AList.lookup_erase, Option.map_none, Option.map_eq_none_iff.2]
      rw [← Option.not_isSome_iff_eq_none, AList.lookup_isSome]
      exact hc
    · rw [AList.lookup_erase_ne hd, AList.lookup_insert_ne hd, Function.update_of_ne hd]
  constructor
  · intro hsame
    have hscore := hsame.score
    have hdown := hsame.siteDownScore
    rw [hx] at hscore hdown
    cases he : cfg.isEducate with
    | false => exact Or.inl rfl
    | true =>
      rw [if_pos he] at hscore hdown
      simp only [Scores.practice, Function.update_self] at hscore hdown
      exact Or.inr ⟨hscore.symm, hdown.symm⟩
  · intro hcond
    refine ⟨hchairs, ?_, ?_, ?_, ?_, ?_, ?_, ?_⟩
    iterate 5 rw [hs]
    all_goals
      rw [hx]
      split
      · rename_i he
        obtain ⟨hscore, hdown⟩ := hcond.resolve_left (by simp [he])
        simp [Scores.practice, hscore, hdown]
      · rfl

/-- For every table state in which the entries of `_userItemHash` are records in use, every user and all arguments: a
`cmd_sitDown` that fails leaves the chairs, the owner, the password, the levels and the user as they were if and only
if the condition holds. -/
theorem unchanged_iff_sitKeeps (cfg : ServerConfig) (tryScore : Int) (attr : Nat → Attr) (t : Table) (h : Recorded t.state)
    (userItem chairID : Nat) (a : SitArgs) :
    ((cmdSitDown cfg tryScore attr t userItem chairID a).failure ≠ none →
      Unchanged t (cmdSitDown cfg tryScore attr t userItem chairID a).state userItem) ↔
        sitKeeps cfg tryScore attr t userItem chairID a := by
  unfold sitKeeps
  cases hu : t.state.users userItem with
  | none =>
    refine iff_of_true (fun _ => ?_) rfl
    rw [cmdSitDown_early (by simp [hu])]
    exact .refl t userItem
  | some u =>
    dsimp only
    by_cases hat : u.tableID = invalidTable ∧ u.chairID = invalidChair
    · cases hr : sitRefusal cfg (t.scores.attr attr) t.state userItem chairID a with
      | some code =>
        refine iff_of_true (fun _ => ?_) (by simp)
        rw [cmdSitDown_early (by simp [hr])]
        exact .refl t userItem
      | none =>
        have hc := chair_free hr
        have hsome : (t.state.users userItem).isSome := by
          rw [hu]
          rfl
        obtain ⟨hfrozen, hunknown⟩ :=
          sit_fails cfg t.state (t.scores.attr attr) a userItem (sitChair cfg t.state chairID a) u.userID
        rw [cmdSitDown_eq hu hat hr]
        simp only [hat.1, hat.2, decide_true, Bool.and_self, Bool.not_true, Option.isSome_none, Bool.false_or, Table.lift]
        by_cases hfreeze : t.state.isGameStarted = true ∧ cfg.serviceScore > 0
        · obtain ⟨hfail, hhas⟩ := hfrozen hfreeze
          refine iff_of_false (fun hkeep => not_unchanged hc hhas (hkeep hfail)) ?_
          simp [hfreeze.1, Int.not_le.2 hfreeze.2]
        · have hscore : (!t.state.isGameStarted || decide (cfg.serviceScore ≤ 0)) = true := by
            rw [Bool.or_eq_true, Bool.not_eq_true', decide_eq_true_eq]
            by_cases hg : t.state.isGameStarted = true
            · exact Or.inr (Int.not_lt.1 fun hpos => hfreeze ⟨hg, hpos⟩)
            · exact Or.inl (by simpa using hg)
          rw [hscore, Bool.true_and]
          cases hw : t.state.userItemHash u.userID with
          | none =>
            obtain ⟨hfail, hstate⟩ := hunknown hfreeze hw
            have hsame := unchanged_iff_scores cfg t
              ⟨(sit cfg (t.scores.attr attr) t.state userItem u.userID (sitChair cfg t.state chairID a) a).state,
                if cfg.isEducate then t.scores.practice userItem tryScore else t.scores⟩ userItem tryScore hc hstate rfl
            simp only [hfail, ne_eq, not_false_eq_true, true_implies, hsame, Bool.or_eq_true, Bool.and_eq_true,
              decide_eq_true_eq, Bool.not_eq_true']
          | some w =>
            obtain ⟨hhas, hends⟩ := sit_known h hsome hc (t.scores.attr attr) a hfreeze hw
            rw [Bool.and_eq_true, ← hends]
            constructor
            · intro hkeep
              by_contra hfail
              exact not_unchanged hc hhas (hkeep hfail)
            · exact fun hok hfail => absurd hok hfail
    · refine iff_of_true (fun _ => ?_) ?_
      · rw [cmdSitDown_early (by intro u' hu' h1 h2; cases hu.symm.trans hu'; exact absurd ⟨h1, h2⟩ hat)]
        exact .refl t userItem
      · simp only [Bool.or_eq_true, Bool.not_eq_true', Bool.and_eq_false_iff, decide_eq_false_iff_not]
        exact Or.inl (Or.inl (not_and_or.1 hat))

end Operation

/-- User 101 is on the server, and nobody is at the table. -/
def demoTable (enterPassword : Option String) : Table where
  state := { State.init 1000 with
    users := Function.update (fun _ => none) 1 (some ⟨101, false, .usFree, invalidTable, invalidChair⟩)
    userItemHash := Function.update (fun _ => none) 101 (some 1)
    enterPassword := enterPassword }
  scores := ⟨fun _ => 500, fun _ => 0⟩

/-- The two users of the table have records. -/
theorem recorded_demoTable (enterPassword : Option String) : Recorded (demoTable enterPassword).state := by
  intro userID r hr
  simp only [demoTable] at hr ⊢
  by_cases hid : userID = 101
  · subst hid
    rw [Function.update_self, Option.some.injEq] at hr
    subst hr
    exact ⟨_, Function.update_self _ _ _, rfl⟩
  · rw [Function.update_of_ne hid] at hr
    cases hr

/-- A wrong password. -/
theorem unchanged_iff_sitKeeps_demo :
    (cmdSitDown { id := 7, serverID := 1, kindID := 1, chairPerTable := 4 } 100 (fun _ => {}) (demoTable (some "1")) 1
      1 {}).failure =
        some (.refused .passwordError) ∧
      Unchanged (demoTable (some "1"))
        (cmdSitDown { id := 7, serverID := 1, kindID := 1, chairPerTable := 4 } 100 (fun _ => {}) (demoTable (some "1")) 1 1
          {}).state 1 :=
  ⟨rfl, (unchanged_iff_sitKeeps { id := 7, serverID := 1, kindID := 1, chairPerTable := 4 } 100 (fun _ => {})
    (demoTable (some "1"))
    (recorded_demoTable _) 1 1 {}).2 (by decide +kernel) (by decide +kernel)⟩

/-- The first user of a VIP room without a VIP level is refused, and keeps the chair. -/
theorem not_unchanged_vip :
    ¬∀ (cfg : ServerConfig) (tryScore : Int) (attr : Nat → Attr) (t : Table), Recorded t.state →
      ∀ (userItem chairID : Nat) (a : SitArgs),
      (cmdSitDown cfg tryScore attr t userItem chairID a).failure ≠ none →
        Unchanged t (cmdSitDown cfg tryScore attr t userItem chairID a).state userItem := by
  intro hall
  have hsame :=
    hall { id := 61, serverID := 220, kindID := 1, chairPerTable := 4 } 100 (fun _ => { masterOrder := 1 }) (demoTable none)
    (recorded_demoTable _) 1 1
    { tableID := some 61 } (by decide +kernel)
  have hchair := congrFun hsame.chairs 1
  revert hchair
  decide +kernel

end SasyServer.TableFrame
