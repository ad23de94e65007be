import SasyServer.Lemmas.TablePlaced

/-!
# The end of a game

`concludeGame` goes through the chairs: a player no longer plays, and a user who is offline, or whom one of the rules
sends away, stands up. `standUp` may call `concludeGame` again, which finds the game at its end. A user who has no game
data makes the sink raise an error when the user stands up, and the loop stops there. Such a user is one whom
`cmd_sitDown` has refused in the chair.
-/

namespace SasyServer.TableFrame

open UserManager (UserStatus)

/-- The score is within the limits that are configured. -/
structure WithinLimits (cfg : ServerConfig) (attr : Attr) : Prop where
  minTable : 0 < cfg.minTableScore → cfg.minTableScore ≤ attr.score
  minEnter : 0 < cfg.minEnterScore → cfg.minEnterScore ≤ attr.score
  maxEnter : 0 < cfg.maxEnterScore → attr.score ≤ cfg.maxEnterScore

/-- The game has ended: the calls come to their end, and those of `concludeGame` at any depth are no more than the first one;
the game is not started; nobody in a chair plays or is offline, and the scores are within the limits; whoever was not offline
and is not sent away stays. -/
structure Concluded (cfg : ServerConfig) (attr : Nat → Attr) (s : State) (a : Run) : Prop where
  ends : a.failure = none
  depth : ∀ n, concludeAt (n + 1) cfg attr .free s = a
  started : a.state.isGameStarted = false
  seated : ∀ c r, a.state.chairs.lookup c = some r →
    ∃ u, a.state.users r = some u ∧ u.userStatus ≠ .usPlaying ∧ u.userStatus ≠ .usOffline ∧ WithinLimits cfg (attr r)
  stays : ∀ c r u, s.chairs.lookup c = some r → s.users r = some u → u.userStatus ≠ .usOffline →
    kickMsg cfg u.isAndroid (attr r) = false → a.state.chairs.lookup c = some r

section Depth

variable {cfg : ServerConfig} {attr : Nat → Attr} {s : State}

/-! ## The calls of `concludeGame` at any depth -/

/-- The game is not started. -/
def NotStarted (s : State) : Prop := s.isGameStarted = false

/-- A status is written without a start of the game. -/
theorem setUserStatus_not_started (h : NotStarted s) (userID : Nat) (st : UserStatus) (t c : Nat) :
    (setUserStatus cfg s userID st t c).Ends NotStarted fun _ _ => True := by
  unfold setUserStatus
  split
  · exact h
  · split
    · trivial
    · split
      · trivial
      · refine Attempt.ends_ok ?_
        rw [writeUser_eq]
        exact h

/-- A chair is given up without a start of the game. -/
theorem leaveChair_not_started (h : NotStarted s) (u : User) :
    (leaveChair cfg attr s u).Ends NotStarted fun _ _ => True := by
  unfold leaveChair
  split
  · trivial
  · refine (setUserStatus_not_started (by exact h) _ _ _ _).andThen fun t ht => ?_
    split
    · unfold handOver
      dsimp only
      split
      · trivial
      · split <;> exact ht
    · exact ht

/-- `standUp` calls `concludeGame`, which returns at once while the game is not started, so the depth does not
matter. -/
theorem standUpWith_depth (n : Nat) (h : NotStarted s) (silent : Bool) (r : Nat) :
    standUpWith (concludeAt n cfg attr .free) cfg attr silent s r = standUpWith
      (concludeAt 0 cfg attr .free) cfg attr silent s r := by
  unfold standUpWith
  cases s.users r with
  | none => rfl
  | some u =>
    dsimp only
    split
    · rfl
    · refine Attempt.andThen_congr (leaveChair_not_started h u) fun t ht => ?_
      rw [concludeAt_of_not_started n .free (s := { t with timer := t.timer.stop }) ht,
        concludeAt_of_not_started 0 .free (s := { t with timer := t.timer.stop }) ht]

/-- `standUp` does not start the game. -/
theorem standUpWith_not_started (h : NotStarted s) (silent : Bool) (r : Nat) :
    (standUpWith (concludeAt 0 cfg attr .free) cfg attr silent s r).Ends NotStarted fun _ _ => True := by
  unfold standUpWith
  cases s.users r with
  | none => trivial
  | some u =>
    dsimp only
    split
    · exact h
    · refine (leaveChair_not_started h u).andThen fun t ht => ?_
      refine Attempt.Ends.andThen (P := NotStarted) ?_ fun t' ht' => ?_
      · split <;> exact ht
      · split <;> exact ht'

/-- A turn of the loop does not start the game. -/
theorem concludeUser_not_started (cfg : ServerConfig) (attr : Nat → Attr) (h : NotStarted s) (c : Nat) :
    (concludeUser (standUpWith (concludeAt 0 cfg attr .free) cfg attr true) cfg attr s c).Ends NotStarted
      fun _ _ => True := by
  unfold concludeUser
  cases s.chairs.lookup c with
  | none => exact h
  | some r =>
    dsimp only
    cases s.users r with
    | none => trivial
    | some u =>
      dsimp only
      split
      · exact standUpWith_not_started h true r
      · refine Attempt.Ends.andThen (P := NotStarted) ?_ fun t ht => ?_
        · split
          · exact setUserStatus_not_started h _ _ _ _
          · exact h
        · split
          · exact standUpWith_not_started ht true r
          · exact ht

/-- Nor does the depth matter to a turn of the loop. -/
theorem concludeUser_depth (n : Nat) (h : NotStarted s) (c : Nat) :
    concludeUser (standUpWith (concludeAt 0 cfg attr .free) cfg attr true) cfg attr s c =
      concludeUser (standUpWith (concludeAt n cfg attr .free) cfg attr true) cfg attr s c := by
  unfold concludeUser
  cases s.chairs.lookup c with
  | none => rfl
  | some r =>
    dsimp only
    cases s.users r with
    | none => rfl
    | some u =>
      dsimp only
      split
      · exact (standUpWith_depth n h true r).symm
      · refine Attempt.andThen_congr (P := NotStarted) (E := fun _ _ => True) ?_ fun t ht => ?_
        · split
          · exact setUserStatus_not_started h _ _ _ _
          · exact h
        · rw [standUpWith_depth n ht]

/-- The calls that `standUp` makes find the game at its end, at any depth. -/
theorem concludeAt_depth (n : Nat) : concludeAt (n + 1) cfg attr .free s = concludeAt 1 cfg attr .free s := by
  have hnot : NotStarted (s.concluding .free) := rfl
  have hloop := Attempt.forEach_congr (fun t c ht => concludeUser_not_started cfg attr ht c)
    (fun t c ht => concludeUser_depth n ht c) s.chairs.keys _ hnot
  rw [concludeAt, concludeAt]
  split
  · rfl
  · dsimp only
    rw [if_neg (by decide), if_neg (by decide)]
    exact congrArg (Attempt.andThen · fun t => .ok (sendTableState (concludeTable cfg t))) hloop.symm

end Depth

section Loop

variable {cfg : ServerConfig} {attr : Nat → Attr} {s t : State} {c r : Nat} {u : User}

/-! ## One user -/

/-- The user stands up in a game that has ended. -/
def State.sentAway (s : State) (cfg : ServerConfig) (attr : Nat → Attr) (r : Nat) (u : User) : State :=
  if (s.away attr r u).tableOwnerID = 0 ∧ cfg.kindID ≠ 104 ∧
    cfg.kindID ≠ 800 then (s.away attr r u).stopTimer else s.away attr r u

/-- `standUp` in the loop, of a user in a chair whose game data the sink has. -/
theorem standUp_of_data (h : Placed cfg s) (hnot : NotStarted s) (n : Nat) (hu : s.users r = some u)
    (hc : s.chairs.lookup u.chairID = some r) (hd : s.gameData u.chairID = true) :
    standUpWith (concludeAt n cfg attr .free) cfg attr true s r = .ok (s.sentAway cfg attr r u) := by
  have hstop : (s.away attr r u).stopTimer.isGameStarted = false := (isGameStarted_away s attr r u).trans hnot
  rw [standUpWith_of_data h _ attr true hu hc hd, State.sentAway]
  split
  · rw [concludeAt_of_not_started n .free hstop]
    rfl
  · rfl

/-- Without game data the sink raises an error. -/
theorem standUp_of_no_data (conclude : State → Run) (hu : s.users r = some u) (hc : s.chairs.lookup u.chairID = some r)
    (hd : s.gameData u.chairID = false) :
    standUpWith conclude cfg attr true s r = .fail s (.raised .missingGameData) := by
  rw [standUpWith, hu]
  dsimp only
  rw [if_neg (not_not.2 hc), leaveChair, if_pos (by simp [hd])]
  rfl

/-! ## The loop -/

/-- The game is ending: the users are those who were there at its beginning, some of them no longer playing. Whoever has left
was one to go, with game data. -/
structure Ending (cfg : ServerConfig) (attr : Nat → Attr) (s t : State) : Prop where
  placed : Placed cfg t
  notStarted : NotStarted t
  data : ∀ c, c ∈ t.chairs → t.gameData c = s.gameData c
  chairs : ∀ c r, t.chairs.lookup c = some r → s.chairs.lookup c = some r
  users : ∀ c r u, t.chairs.lookup c = some r → t.users r = some u → ∃ v, s.users r = some v ∧ v.isAndroid = u.isAndroid ∧
    (v.userStatus = .usOffline ↔ u.userStatus = .usOffline)
  gone : ∀ c r u, s.chairs.lookup c = some r → s.users r = some u → c ∉ t.chairs → goes cfg attr r u ∧ s.gameData c = true

/-- The user in the chair neither plays nor is one to go. -/
def Idle (cfg : ServerConfig) (attr : Nat → Attr) (c : Nat) (t : State) : Prop :=
  ∀ r u, t.chairs.lookup c = some r → t.users r = some u → ¬goes cfg attr r u ∧ u.userStatus ≠ .usPlaying

/-- Somebody is to go and has no game data. -/
def Stuck (cfg : ServerConfig) (attr : Nat → Attr) (s : State) : Prop :=
  ∃ c r u, s.chairs.lookup c = some r ∧ s.users r = some u ∧ goes cfg attr r u ∧ s.gameData c = false

theorem mem_of_lookup (hr : s.chairs.lookup c = some r) : c ∈ s.chairs := AList.lookup_isSome.1 (by rw [hr]; rfl)

/-- The user as at the beginning. -/
theorem Ending.before (h : Ending cfg attr s t) (hr : t.chairs.lookup c = some r) (hu : t.users r = some u)
    (hgoes : goes cfg attr r u) : ∃ v, s.chairs.lookup c = some r ∧ s.users r = some v ∧ goes cfg attr r v := by
  obtain ⟨v, hv, hand, hoff⟩ := h.users c r u hr hu
  refine ⟨v, h.chairs c r hr, hv, ?_⟩
  unfold goes
  rw [hand, hoff]
  exact hgoes

theorem Ending.stopTimer (h : Ending cfg attr s t) : Ending cfg attr s t.stopTimer :=
  ⟨h.placed.congr rfl rfl rfl, h.notStarted, h.data, h.chairs, h.users, h.gone⟩

/-- A player no longer plays. -/
theorem Ending.write (h : Ending cfg attr s t) (hu : t.users r = some u) (hr : t.chairs.lookup u.chairID = some r)
    (hplay : u.userStatus = .usPlaying) : Ending cfg attr s (writeUser t u.userID r u .usSit cfg.id u.chairID) := by
  have heq := writeUser_eq t u.userID r u .usSit cfg.id u.chairID
  have hchairs : (writeUser t u.userID r u .usSit cfg.id u.chairID).chairs = t.chairs := by rw [heq]
  have hdata : (writeUser t u.userID r u .usSit cfg.id u.chairID).gameData = t.gameData := by rw [heq]
  refine ⟨h.placed.write hu hr (by decide), ?_, ?_, ?_, ?_, ?_⟩
  · rw [heq]
    exact h.notStarted
  · rw [hchairs, hdata]
    exact h.data
  · rw [hchairs]
    exact h.chairs
  · intro c' r' u' hr' hu'
    rw [hchairs] at hr'
    rw [users_writeUser, if_neg (by decide)] at hu'
    by_cases hrr : r' = r
    · subst hrr
      rw [Function.update_self] at hu'
      obtain rfl := Option.some.inj hu'
      obtain ⟨v, hv, hand, hoff⟩ := h.users c' r' u hr' hu
      rw [hplay] at hoff
      exact ⟨v, hv, hand, hoff.trans (by simp)⟩
    · rw [Function.update_of_ne hrr] at hu'
      exact h.users c' r' u' hr' hu'
  · rw [hchairs]
    exact h.gone

/-- A user with game data who is to go leaves. -/
theorem Ending.away (h : Ending cfg attr s t) (hu : t.users r = some u) (hr : t.chairs.lookup u.chairID = some r)
    (hgoes : goes cfg attr r u) (hd : t.gameData u.chairID = true) : Ending cfg attr s (t.away attr r u) := by
  have hkept : ∀ c' r', (t.away attr r u).chairs.lookup c' = some r' →
      t.chairs.lookup c' = some r' ∧ c' ≠ u.chairID ∧ (t.away attr r u).users r' = t.users r' := by
    intro c' r' hr'
    rw [chairs_away, ← chairs_left t r u] at hr'
    obtain ⟨hold, hne, -, hsame⟩ := h.placed.lookup_left hu hr'
    exact ⟨hold, hne, by rw [users_away, hsame]⟩
  refine ⟨h.placed.away attr hu, (isGameStarted_away t attr r u).trans h.notStarted, ?_, ?_, ?_, ?_⟩
  · intro c' hc'
    obtain ⟨r', hr'⟩ := Option.isSome_iff_exists.1 (AList.lookup_isSome.2 hc')
    obtain ⟨hold, hne, -⟩ := hkept c' r' hr'
    rw [gameData_away, Function.update_of_ne hne]
    exact h.data c' (mem_of_lookup hold)
  · exact fun c' r' hr' => h.chairs c' r' (hkept c' r' hr').1
  · intro c' r' u' hr' hu'
    obtain ⟨hold, -, hsame⟩ := hkept c' r' hr'
    exact h.users c' r' u' hold (hsame ▸ hu')
  · intro c' r' v hr' hv hnot
    rw [chairs_away, AList.mem_erase] at hnot
    by_cases hin : c' ∈ t.chairs
    · obtain rfl : c' = u.chairID := by
        by_contra hne
        exact hnot ⟨hne, hin⟩
      obtain ⟨v', hold, hv', hgo⟩ := h.before hr hu hgoes
      obtain rfl := Option.some.inj (hr'.symm.trans hold)
      obtain rfl := Option.some.inj (hv.symm.trans hv')
      exact ⟨hgo, (h.data _ hin).symm.trans hd⟩
    · exact h.gone c' r' v hr' hv hin

/-- A write to one record, and a chair that becomes empty, leave the others idle. -/
theorem Idle.of_kept (hi : Idle cfg attr c t) {t' : State}
    (hkept : ∀ r, t'.chairs.lookup c = some r → t.chairs.lookup c = some r ∧ t'.users r = t.users r) :
    Idle cfg attr c t' := by
  intro r u hr hu
  obtain ⟨hold, hsame⟩ := hkept r hr
  exact hi r u hold (hsame ▸ hu)

/-- A user to go stands up, or has no game data. -/
theorem ends_goer (n : Nat) (h : Ending cfg attr s t) (hu : t.users r = some u) (hr : t.chairs.lookup u.chairID = some r)
    (hgoes : goes cfg attr r u) :
    (standUpWith (concludeAt n cfg attr .free) cfg attr true t r).Ends
      (fun t' => Ending cfg attr s t' ∧ Idle cfg attr u.chairID t' ∧ ∀ c', Idle cfg attr c' t → Idle cfg attr c' t')
      fun _ _ => Stuck cfg attr s := by
  cases hd : t.gameData u.chairID with
  | false =>
    rw [standUp_of_no_data _ hu hr hd]
    obtain ⟨v, hold, hv, hgo⟩ := h.before hr hu hgoes
    exact Attempt.ends_fail ⟨u.chairID, r, v, hold, hv, hgo, (h.data _ (mem_of_lookup hr)).symm.trans hd⟩
  | true =>
    have haway := h.away hu hr hgoes hd
    have hidle : Idle cfg attr u.chairID (t.away attr r u) := by
      intro r' u' hr'
      rw [chairs_away, AList.lookup_erase] at hr'
      cases hr'
    have hothers : ∀ c', Idle cfg attr c' t → Idle cfg attr c' (t.away attr r u) := by
      refine fun c' hi => hi.of_kept fun r' hr' => ?_
      rw [chairs_away, ← chairs_left t r u] at hr'
      obtain ⟨hold, -, -, hsame⟩ := h.placed.lookup_left hu hr'
      exact ⟨hold, by rw [users_away, hsame]⟩
    rw [standUp_of_data h.placed h.notStarted n hu hr hd, State.sentAway]
    split
    · exact Attempt.ends_ok ⟨haway.stopTimer, hidle, hothers⟩
    · exact Attempt.ends_ok ⟨haway, hidle, hothers⟩

/-- One turn of the loop. -/
theorem ends_concludeUser_or_stuck (n : Nat) (h : Ending cfg attr s t) (c : Nat) :
    (concludeUser (standUpWith (concludeAt n cfg attr .free) cfg attr true) cfg attr t c).Ends
      (fun t' => Ending cfg attr s t' ∧ Idle cfg attr c t' ∧ ∀ c', Idle cfg attr c' t → Idle cfg attr c' t')
      fun _ _ => Stuck cfg attr s := by
  unfold concludeUser
  cases hr : t.chairs.lookup c with
  | none =>
    have hnobody : Idle cfg attr c t := by
      intro r u hr' _
      rw [hr] at hr'
      cases hr'
    exact Attempt.ends_ok ⟨h, hnobody, fun _ hi => hi⟩
  | some r =>
    obtain ⟨u, hu, -, rfl, -⟩ := h.placed.sits c r hr
    simp only [hu]
    by_cases hoff : u.userStatus = .usOffline
    · rw [if_pos hoff]
      exact ends_goer n h hu hr (Or.inl hoff)
    · rw [if_neg hoff]
      -- The user no longer plays, and then may be sent away.
      refine Attempt.Ends.andThen (P := fun t' => Ending cfg attr s t' ∧ (∀ c', Idle cfg attr c' t → Idle cfg attr c' t') ∧
        ∃ u', t'.users r = some u' ∧ t'.chairs.lookup u'.chairID = some r ∧ u'.chairID = u.chairID ∧
          u'.isAndroid = u.isAndroid ∧
          u'.userStatus ≠ .usOffline ∧ u'.userStatus ≠ .usPlaying) ?_ ?_
      · split
        · rename_i hplay
          rw [setUserStatus_eq h.placed hu _ _ _ (fun hst => by cases hst)]
          have hchairs : (writeUser t u.userID r u .usSit cfg.id u.chairID).chairs = t.chairs := by rw [writeUser_eq]
          have husers := users_writeUser t u.userID r u .usSit cfg.id u.chairID
          rw [if_neg (by decide)] at husers
          refine Attempt.ends_ok
            ⟨h.write hu hr hplay, fun c' hi r' u' hr' hu' => ?_, { u with userStatus := .usSit, tableID := cfg.id },
              by rw [husers, Function.update_self], by rw [hchairs]; exact hr, rfl, rfl, by simp, by simp⟩
          rw [hchairs] at hr'
          by_cases hrr : r' = r
          · subst hrr
            exact absurd hplay (hi r' u hr' hu).2
          · rw [husers, Function.update_of_ne hrr] at hu'
            exact hi r' u' hr' hu'
        · rename_i hplay
          exact Attempt.ends_ok ⟨h, fun _ hi => hi, u, hu, hr, rfl, rfl, hoff, hplay⟩
      · rintro t' ⟨ht', hothers, u', hu', hr', hchair, hand, hoff', hplay'⟩
        split
        · rename_i hkick
          refine (ends_goer n ht' hu' hr' (Or.inr (hand ▸ hkick))).mono ?_ fun _ _ hs => hs
          exact fun t'' ht'' => ⟨ht''.1, hchair ▸ ht''.2.1, fun c' hi => ht''.2.2 c' (hothers c' hi)⟩
        · rename_i hkick
          refine Attempt.ends_ok ⟨ht', ?_, hothers⟩
          intro r' x hr'' hx
          obtain rfl := Option.some.inj ((hchair ▸ hr').symm.trans hr'')
          obtain rfl := Option.some.inj (hu'.symm.trans hx)
          exact ⟨fun hgo => hgo.elim hoff' fun hk => hkick (hand ▸ hk), hplay'⟩

/-- Whoever no rule sends away is within the limits. -/
theorem withinLimits_of_stays {isAndroid : Bool} {x : Attr} (h : kickMsg cfg isAndroid x ≠ true) : WithinLimits cfg x := by
  simp only [kickMsg, ne_eq, Bool.or_eq_true, Bool.and_eq_true, decide_eq_true_eq, not_or, not_and, Int.not_lt] at h
  obtain ⟨⟨⟨⟨hminTable, hminEnter⟩, hmaxEnter⟩, -⟩, -⟩ := h
  exact ⟨hminTable, hminEnter, hmaxEnter⟩

/-! ## The end -/

/-- A game that is ending has ended when everybody in a chair is idle. -/
theorem Ending.concluded (h : Ending cfg attr s t) (hidle : ∀ c ∈ s.chairs, Idle cfg attr c t)
    (heq : concludeAt 1 cfg attr .free s = .ok (sendTableState (concludeTable cfg t))) :
    Concluded cfg attr s (.ok (sendTableState (concludeTable cfg t))) := by
  have hsame : (concludeTable cfg t).chairs = t.chairs ∧ (concludeTable cfg t).users = t.users ∧
      (concludeTable cfg t).isGameStarted = t.isGameStarted := by
    unfold concludeTable
    split <;> exact ⟨rfl, rfl, rfl⟩
  refine ⟨rfl, fun n => (concludeAt_depth n).trans heq, hsame.2.2.trans h.notStarted, ?_, ?_⟩
  · intro c r hr
    have hr' : t.chairs.lookup c = some r := hsame.1 ▸ hr
    obtain ⟨u, hu, -⟩ := h.placed.sits c r hr'
    obtain ⟨hstay, hplay⟩ := hidle c (mem_of_lookup (h.chairs c r hr')) r u hr' hu
    refine ⟨u, ?_, hplay, fun hoff => hstay (Or.inl hoff), withinLimits_of_stays fun hkick => hstay (Or.inr hkick)⟩
    exact (congrFun hsame.2.1 r).trans hu
  · intro c r u hr hu hoff hkick
    have hstays : ¬goes cfg attr r u := fun hgo => hgo.elim hoff fun hk => by rw [hkick] at hk; cases hk
    have hmem : c ∈ t.chairs := by
      by_contra hnot
      exact hstays (h.gone c r u hr hu hnot).1
    obtain ⟨r', hr'⟩ := Option.isSome_iff_exists.1 (AList.lookup_isSome.2 hmem)
    obtain rfl := Option.some.inj (hr.symm.trans (h.chairs c r' hr'))
    exact (congrArg (AList.lookup c) hsame.1).trans hr'

/-- At every table whose chairs and records agree, as they do in every run without a `ServiceScore`, with any users, scores
and owner, and with any game started: the game ends as it should if and only if there is game data for every user who is
offline or whom a rule sends away. -/
theorem concluded_iff_data (cfg : ServerConfig) (attr : Nat → Attr) (s : State) (h : Placed cfg s)
    (hg : s.isGameStarted = true) :
    Concluded cfg attr s (concludeGame cfg attr .free s) ↔
      ∀ c r u, s.chairs.lookup c = some r → s.users r = some u → goes cfg attr r u → s.gameData c = true := by
  have hbegin : Ending cfg attr s (s.concluding .free) := by
    refine ⟨h.congr rfl rfl rfl, rfl, fun _ _ => rfl, fun _ _ hr => hr, fun c r u _ hu => ⟨u, hu, rfl, Iff.rfl⟩, ?_⟩
    exact fun c r u hr _ hnot => absurd (mem_of_lookup hr) hnot
  have hloop := Attempt.ends_forEach_all (fun t c ht => ends_concludeUser_or_stuck 1 ht c) s.chairs.keys _ hbegin
  have heq : concludeGame cfg attr .free s =
      (Attempt.forEach (concludeUser (standUpWith (concludeAt 1 cfg attr .free) cfg attr true) cfg attr) s.chairs.keys
        (s.concluding .free)).andThen fun t => .ok (sendTableState (concludeTable cfg t)) := by
    rw [concludeGame, concludeAt, if_neg (by simp [hg])]
    rfl
  unfold Attempt.Ends at hloop
  unfold Attempt.andThen at heq
  split at hloop
  · rename_i hnone
    obtain ⟨hending, hidle, -⟩ := hloop
    rw [hnone] at heq
    have hend : ∀ c ∈ s.chairs, Idle cfg attr c _ := fun c hc => hidle c (AList.mem_keys.1 hc)
    refine iff_of_true ?_ fun c r u hr hu hgo => ?_
    · rw [heq]
      exact hending.concluded hend ((concludeAt_depth 1).symm.trans heq)
    · -- Whoever is to go has gone, and with game data.
      refine (hending.gone c r u hr hu fun hmem => ?_).2
      obtain ⟨r', hr'⟩ := Option.isSome_iff_exists.1 (AList.lookup_isSome.2 hmem)
      obtain rfl := Option.some.inj (hr.symm.trans (hending.chairs c r' hr'))
      obtain ⟨u', hu', -⟩ := hending.placed.sits c r hr'
      obtain ⟨v, hv, hand, hoff⟩ := hending.users c r u' hr' hu'
      obtain rfl := Option.some.inj (hu.symm.trans hv)
      refine (hend c (mem_of_lookup hr) r u' hr' hu').1 ?_
      unfold goes
      rw [← hand, ← hoff]
      exact hgo
  · rename_i e he
    obtain ⟨c, r, u, hr, hu, hgo, hd⟩ := hloop
    rw [he] at heq
    refine iff_of_false (fun hconcluded => ?_) fun hdata => ?_
    · have hfail := hconcluded.ends
      rw [heq] at hfail
      rw [hfail] at he
      cases he
    · rw [hdata c r u hr hu hgo] at hd
      cases hd

end Loop

/-- A table of room 220 where the score must be at least 100. -/
def roomOfHundred : ServerConfig := { id := 61, serverID := 220, kindID := 1, chairPerTable := 4, minTableScore := 100 }

/-- The first two users may sit, and only the first one has a score of 100. -/
def hundredOf (userItem : Nat) : Attr := { memberOrder := 3, masterOrder := 1, score := if userItem = 1 then 100 else 0 }

/-- Two users sit down, and the second one is sent away at the end. -/
def twoSit : List Label :=
  [.login 1 101 false, .login 2 102 false, .sitDown hundredOf 1 1 { password := some "1", tableID := some 61 },
    .sitDown hundredOf 2 2 { password := some "1", tableID := some 61 }]

/-- Two users play at a table whose game data the sink has. -/
theorem concluded_iff_data_twoSit :
    ∃ s, Steps.exec (step roomOfHundred) (State.init 1000) twoSit = some s ∧ s.isGameStarted = true ∧
      Concluded roomOfHundred hundredOf s (concludeGame roomOfHundred hundredOf .free s) := by
  obtain ⟨s, hs⟩ : ∃ s, Steps.exec (step roomOfHundred) (State.init 1000) twoSit = some s := ⟨_, rfl⟩
  have hstarted : (Steps.exec (step roomOfHundred) (State.init 1000) twoSit).map State.isGameStarted = some true := by
    decide +kernel
  have hchairs : (Steps.exec (step roomOfHundred) (State.init 1000) twoSit).map (fun s => s.chairs.keys) = some [2, 1] := by
    decide +kernel
  have hdata : (Steps.exec (step roomOfHundred) (State.init 1000) twoSit).map (fun s => [2, 1].all s.gameData) =
    some true := by
    decide +kernel
  rw [hs, Option.map_some, Option.some.injEq] at hstarted hchairs hdata
  refine ⟨s, hs, hstarted, (concluded_iff_data _ _ s (placed_of_exec (by decide) hs) hstarted).2 fun c r u hr _ _ => ?_⟩
  exact List.all_eq_true.1 hdata c (hchairs ▸ AList.mem_keys.1 (mem_of_lookup hr))

/-- The second user is refused in the chair, for a wrong password. -/
def secondRefused : List Label :=
  [.login 1 101 false, .login 2 102 false, .sitDown hundredOf 1 1 { password := some "1", tableID := some 61 },
    .sitDown hundredOf 2 2 { password := some "2", tableID := some 61 }]

theorem not_concluded_secondRefused :
    ¬∀ (cfg : ServerConfig) (attr : Nat → Attr) (time : Nat) (is : List Label) (s : State), cfg.serviceScore = 0 →
      Steps.exec (step cfg) (State.init time) is = some s → s.isGameStarted = true →
        Concluded cfg attr s (concludeGame cfg attr .free s) := by
  intro h
  have hends := (h roomOfHundred hundredOf 1000 secondRefused _ rfl rfl rfl).ends
  exact absurd hends (by decide +kernel)

end SasyServer.TableFrame
