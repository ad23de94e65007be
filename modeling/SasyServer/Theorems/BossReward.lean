import SasyServer.WorldBoss.Tables

/-!
# Theorem: an appearance of the world boss pays once, as long as no table pays behind a kill

Every table that has started pays its own copy of the reward pool, and tells the login server afterwards. The condition
`paySafe` is on the state in which `doCatchFish` is about to pay a positive amount: on the login server the boss is still
alive, and no kill sent in this appearance is on its way to it.
-/

namespace SasyServer.WorldBoss

/-- The condition on a label in the state in which it is taken. -/
def paySafe (w : World) : WorldLabel → Bool
  | .catchEnd serverID tableID killed =>
    !killed || decide ((w.tables serverID tableID).rewardPool ≤ 0) ||
      (decide (w.ls.status = 1) && w.kills.all fun kill => kill.appearance ≠ w.ls.startCount)
  | _ => true

/-- The payments of an appearance. -/
def paysOf (w : World) (n : Nat) : List Pay := w.pays.filter fun p => p.appearance = n ∧ 0 < p.addScore

/-- On the login server a boss is alive only after a start. -/
def Starts (s s' : State) : Prop :=
  (s'.startCount = s.startCount ∧ (s'.status = 1 → s.status = 1)) ∨ s'.startCount = s.startCount + 1

section LoginServer

variable {s : State}

theorem starts_of_eq {s' : State} (hc : s'.startCount = s.startCount) (hs : s'.status = s.status) : Starts s s' :=
  Or.inl ⟨hc, fun h => hs ▸ h⟩

/-- `CheckWorldBossEnd` ends the boss. -/
theorem checkWorldBossEnd_status (s : State) (ticker : Bool) (userID : Option Nat) (now : Int) :
    (checkWorldBossEnd s ticker userID now).startCount = s.startCount ∧
      (checkWorldBossEnd s ticker userID now).status = 0 := by
  unfold checkWorldBossEnd State.suspend
  dsimp only
  cases userID with
  | some u =>
    dsimp only
    split <;> exact ⟨rfl, rfl⟩
  | none =>
    refine ⟨?_, rfl⟩
    dsimp only
    split <;> rfl

/-- A kill that has been handled leaves no boss. -/
theorem killWorldBoss_status (s : State) (userID : Nat) (now : Int) :
    (killWorldBoss s userID now).startCount = s.startCount ∧ (killWorldBoss s userID now).status ≠ 1 := by
  unfold killWorldBoss
  split
  · dsimp only
    cases s.worldBossOverTimer with
    | none =>
      have h := checkWorldBossEnd_status s false (some userID) now
      exact ⟨h.1, fun h1 => absurd (h.2.symm.trans h1) (by decide)⟩
    | some timerID =>
      have h := checkWorldBossEnd_status { s.clearTimer timerID with worldBossOverTimer := none } false (some userID) now
      exact ⟨h.1, fun h1 => absurd (h.2.symm.trans h1) (by decide)⟩
  · rename_i h
    exact ⟨rfl, h⟩

theorem clearFlushWorldBossTimer_status (s : State) :
    s.clearFlushWorldBossTimer.startCount = s.startCount ∧ s.clearFlushWorldBossTimer.status = s.status := by
  unfold State.clearFlushWorldBossTimer
  split <;> exact ⟨rfl, rfl⟩

/-- The loop over the times of the day starts a boss at most once. -/
theorem starts_timeFlushLoop (c : Clock) (entries : List TimeFlush) : Starts s (timeFlushLoop s c entries) := by
  induction entries with
  | nil => exact starts_of_eq rfl rfl
  | cons v rest ih =>
    rw [timeFlushLoop]
    split
    · exact ih
    · split
      · refine Or.inr ?_
        exact congrArg (· + 1) (clearFlushWorldBossTimer_status
          { s with hourFlushBossFlag := true, timePoolScore := v.poolScore, flushTime := c.hour * 60 + c.min }).1
      · exact ih

/-- The other loop starts none. -/
theorem starts_notTimeFlushLoop (c : Clock) (entries : List NotTimeFlush) {s' : State}
    (hs : notTimeFlushLoop s c entries = some s') :
    Starts s s' := by
  induction entries with
  | nil => cases hs
  | cons v rest ih =>
    rw [notTimeFlushLoop] at hs
    split at hs
    · cases hs
      have h := clearFlushWorldBossTimer_status s
      split
      · exact starts_of_eq h.1 h.2
      · exact starts_of_eq rfl rfl
    · exact ih hs

/-- A start that has waited sets its timeouts, and is not another start. -/
theorem starts_resumeThread (serverList : List Nat) (t : Thread) : Starts s (resumeThread s serverList t) := by
  obtain ⟨ticker, wait⟩ := t
  cases wait with
  | startClients kind => cases kind <;> exact starts_of_eq rfl rfl
  | timeFlushStart c v =>
    simp only [resumeThread]
    split
    · split
      · exact starts_timeFlushLoop (s := { s with notTimeFlushFlag := true, activity2normal := true }) c timeFlush
      · exact starts_timeFlushLoop (s := { s with notTimeFlushFlag := true }) c timeFlush
    · exact starts_timeFlushLoop (s := { s with notTimeFlushFlag := true, activity2normal := false }) c timeFlush
  | _ => exact starts_of_eq rfl rfl

/-- One label of the login server. -/
theorem starts_step {s' : State} (l : Label) (hs : step s l = some s') : Starts s s' := by
  cases l with
  | addWorldBossPoolScore score c =>
    cases hs
    unfold addWorldBossPoolScore
    dsimp only
    split
    · exact starts_of_eq rfl rfl
    · split
      · exact starts_of_eq rfl rfl
      · split
        · exact Or.inr rfl
        · exact starts_of_eq rfl rfl
  | killWorldBoss userID now =>
    cases hs
    have h := killWorldBoss_status s userID now
    exact Or.inl ⟨h.1, fun h1 => absurd h1 h.2⟩
  | timeout timerID now =>
    simp only [step] at hs
    split at hs
    · rw [Option.map_eq_some_iff] at hs
      obtain ⟨⟨id, func⟩, -, rfl⟩ := hs
      cases func with
      | checkWorldBossEnd =>
        have h := checkWorldBossEnd_status (s.clearTimer timerID) true none now
        refine Or.inl ⟨h.1, ?_⟩
        intro h1
        dsimp only at h1
        rw [h.2] at h1
        cases h1
      | flushWorldBoss => exact Or.inr rfl
    · cases hs
  | checkTimeFlushBoss c =>
    simp only [step] at hs
    split at hs
    · cases hs
      unfold checkTimeFlushBoss
      split
      · cases hl : notTimeFlushLoop s c notTimeFlush with
        | none => exact starts_timeFlushLoop c timeFlush
        | some s' => exact starts_notTimeFlushLoop c notTimeFlush hl
      · exact starts_timeFlushLoop c timeFlush
    · cases hs
  | notifyInvalidScore =>
    simp only [step] at hs
    split at hs
    · cases hs
      unfold notifyInvalidScore
      split <;> exact starts_of_eq rfl rfl
    · cases hs
  | resume k serverList =>
    simp only [step, Option.map_eq_some_iff] at hs
    obtain ⟨t, ht, rfl⟩ := hs
    exact starts_resumeThread (s := { s with suspended := s.suspended.eraseIdx k }) serverList t
  | abort k =>
    simp only [step, Option.bind_eq_some_iff, Option.ite_none_right_eq_some, Option.some.injEq] at hs
    obtain ⟨t, -, -, rfl⟩ := hs
    exact starts_of_eq rfl rfl

end LoginServer

/-- An appearance has paid at most once, and when the current one has paid, its kill is on its way or the boss is over. -/
structure PayInv (w : World) : Prop where
  past : ∀ p ∈ w.pays, p.appearance ≤ w.ls.startCount
  once : ∀ n, (paysOf w n).length ≤ 1
  kill : paysOf w w.ls.startCount ≠ [] → (∃ kill ∈ w.kills, kill.appearance = w.ls.startCount) ∨ w.ls.status ≠ 1

theorem payInv_init : PayInv World.init := ⟨by simp [World.init], by simp [World.init, paysOf], by simp [World.init, paysOf]⟩

section Steps

variable {w w' : World}

/-- A step that pays nothing and loses no kill. -/
theorem PayInv.starts (h : PayInv w) (hs : Starts w.ls w'.ls) (hp : w'.pays = w.pays)
    (hk : ∀ kill ∈ w.kills, ∃ kill' ∈ w'.kills, kill'.appearance = kill.appearance) : PayInv w' := by
  have hof : ∀ n, paysOf w' n = paysOf w n := fun n => by rw [paysOf, paysOf, hp]
  have hle : w.ls.startCount ≤ w'.ls.startCount := by
    rcases hs with hs | hs <;> omega
  refine ⟨?_, ?_, ?_⟩
  · intro p hm
    rw [hp] at hm
    exact Nat.le_trans (h.past p hm) hle
  · intro n
    rw [hof]
    exact h.once n
  · intro hne
    rcases hs with ⟨hc, himp⟩ | hc
    · rw [hof, hc] at hne
      rcases h.kill hne with ⟨kill, hm, ha⟩ | h1
      · obtain ⟨kill', hm', ha'⟩ := hk kill hm
        exact Or.inl ⟨kill', hm', by rw [ha', ha, hc]⟩
      · exact Or.inr fun hh => h1 (himp hh)
    · -- A new appearance has not paid yet.
      refine absurd ?_ hne
      rw [hof, paysOf, List.filter_eq_nil_iff]
      intro p hm
      have := h.past p hm
      simp only [decide_eq_true_eq, not_and]
      omega

/-- A step on the game servers that pays nothing. -/
theorem PayInv.quiet (h : PayInv w) (hl : w'.ls.startCount = w.ls.startCount ∧ w'.ls.status = w.ls.status)
    (hp : w'.pays = w.pays) (hk : w'.kills = w.kills) :
    PayInv w' :=
  h.starts (starts_of_eq hl.1 hl.2) hp fun kill hm => ⟨kill, hk ▸ hm, rfl⟩

/-- The end of `doCatchFish`, under the condition. -/
theorem PayInv.catchEnd (h : PayInv w) {serverID tableID : Nat} {killed : Bool} (userID fishID : Nat)
    (hc : paySafe w (.catchEnd serverID tableID killed)) : PayInv (catchEnd w serverID tableID userID fishID killed) := by
  unfold WorldBoss.catchEnd
  dsimp only
  split
  · rename_i hk
    have hls : (w.setTable serverID tableID ((w.tables serverID tableID).catchEnd fishID killed)).ls = w.ls := rfl
    have hpays : (w.setTable serverID tableID ((w.tables serverID tableID).catchEnd fishID killed)).pays = w.pays := rfl
    refine ⟨?_, ?_, fun _ => Or.inl ⟨_, List.mem_append_right _ (List.mem_singleton_self _), rfl⟩⟩
    · intro p hm
      rcases List.mem_cons.1 hm with rfl | hm
      · exact Nat.le_refl _
      · exact h.past p hm
    · intro n
      rw [paysOf, List.filter_cons]
      split
      · rename_i hpos
        simp only [decide_eq_true_eq] at hpos
        obtain ⟨hn, hpos⟩ := hpos
        -- A positive payment: the current appearance has not paid, or its kill would be on its way or the boss over.
        have hcond : w.ls.status = 1 ∧ ∀ kill ∈ w.kills, kill.appearance ≠ w.ls.startCount := by
          have hnp : ¬(w.tables serverID tableID).rewardPool ≤ 0 := Int.not_le.2 hpos
          simpa [paySafe, hk, hnp] using hc
        have hnil : paysOf w w.ls.startCount = [] := by
          by_contra hne
          rcases h.kill hne with ⟨kill, hm, ha⟩ | h1
          · exact hcond.2 kill hm ha
          · exact h1 hcond.1
        rw [hls] at hn
        subst hn
        rw [hpays]
        rw [paysOf] at hnil
        rw [hnil]
        exact Nat.le_refl _
      · exact h.once n
  · exact h.quiet ⟨rfl, rfl⟩ rfl rfl

/-- A message to a game server changes nothing here. -/
theorem notifyWorldBossStartOrEnd_frame (w : World) (serverID : Nat) (info : Info) (now : Int) :
    (notifyWorldBossStartOrEnd w serverID info now).ls = w.ls ∧
      (notifyWorldBossStartOrEnd w serverID info now).pays = w.pays ∧
      (notifyWorldBossStartOrEnd w serverID info now).kills = w.kills := by
  unfold notifyWorldBossStartOrEnd
  dsimp only
  repeat' split
  all_goals exact ⟨rfl, rfl, rfl⟩

/-- One label keeps the invariant, under the condition. -/
theorem PayInv.step (h : PayInv w) (l : WorldLabel) (hc : paySafe w l) (hs : worldStep w l = some w') : PayInv w' := by
  cases l with
  | ls l =>
    have hs' : (WorldBoss.step w.ls l).map (fun ls => { w with ls := ls }) = some w' := by
      cases l <;> first | exact hs | cases hs
    rw [Option.map_eq_some_iff] at hs'
    obtain ⟨ls, hl, rfl⟩ := hs'
    exact h.starts (starts_step l hl) rfl fun kill hm => ⟨kill, hm, rfl⟩
  | forwardKill k =>
    simp only [worldStep, Option.map_eq_some_iff] at hs
    obtain ⟨kill, hk, rfl⟩ := hs
    refine h.starts (starts_of_eq rfl rfl) rfl ?_
    intro x hx
    obtain ⟨j, hj⟩ := List.mem_iff_getElem?.1 hx
    by_cases hjk : k = j
    · subst hjk
      rw [hk] at hj
      cases hj
      exact ⟨_, List.mem_iff_getElem?.2 ⟨k, List.getElem?_set_self (List.getElem?_eq_some_iff.1 hk).1⟩, rfl⟩
    · exact ⟨x, List.mem_iff_getElem?.2 ⟨j, by rw [List.getElem?_set_ne hjk]; exact hj⟩, rfl⟩
  | killWorldBoss k now =>
    simp only [worldStep] at hs
    split at hs
    · cases hs
    · rename_i kill hk
      split at hs
      · cases hs
        obtain ⟨hcount, hstatus⟩ := killWorldBoss_status w.ls kill.userID now
        -- Whatever kill it was, no boss is alive afterwards.
        refine ⟨?_, h.once, fun _ => Or.inr hstatus⟩
        intro p hm
        dsimp only
        rw [hcount]
        exact h.past p hm
      · cases hs
  | notifyWorldBossStartOrEnd k now =>
    simp only [worldStep, Option.map_eq_some_iff] at hs
    obtain ⟨m, -, rfl⟩ := hs
    obtain ⟨hl, hp, hk⟩ :=
      notifyWorldBossStartOrEnd_frame { w with ls := { w.ls with sent := w.ls.sent.eraseIdx k } } m.1 m.2 now
    exact h.quiet (by rw [hl]; exact ⟨rfl, rfl⟩) hp hk
  | lose k => cases hs; exact h.quiet ⟨rfl, rfl⟩ rfl rfl
  | managerInit serverID tableHash => cases hs; exact h.quiet ⟨rfl, rfl⟩ rfl rfl
  | tableStateChange serverID tableID isStarted => cases hs; exact h.quiet ⟨rfl, rfl⟩ rfl rfl
  | uploaded serverID poolScore => cases hs; exact h.quiet ⟨rfl, rfl⟩ rfl rfl
  | getTableStatus serverID tableID => cases hs; exact h.quiet ⟨rfl, rfl⟩ rfl rfl
  | receive k =>
    simp only [worldStep, Option.map_eq_some_iff] at hs
    obtain ⟨m, -, rfl⟩ := hs
    exact h.quiet ⟨rfl, rfl⟩ rfl rfl
  | flushWorldBoss serverID tableID =>
    simp only [worldStep] at hs
    split at hs
    · cases hs
      exact h.quiet ⟨rfl, rfl⟩ rfl rfl
    · cases hs
  | clearTrace serverID tableID => cases hs; exact h.quiet ⟨rfl, rfl⟩ rfl rfl
  | gameConclude serverID tableID => cases hs; exact h.quiet ⟨rfl, rfl⟩ rfl rfl
  | catchFish serverID tableID userID fishID =>
    simp only [worldStep] at hs
    split at hs
    · cases hs
      exact h.quiet ⟨rfl, rfl⟩ rfl rfl
    · cases hs
  | catchEnd serverID tableID killed =>
    simp only [worldStep, Option.map_eq_some_iff] at hs
    obtain ⟨c, -, rfl⟩ := hs
    exact h.catchEnd c.1 c.2 hc

end Steps

/-- Every run whose payments meet the condition when they are made: an appearance of the boss pays a positive amount at most
once, over all tables. -/
theorem one_pay_of_paySafe (labels : List WorldLabel) (w : World)
    (hsafe : Steps.Meets worldStep (fun w l => paySafe w l) World.init labels)
    (hrun : Steps.exec worldStep World.init labels = some w) (n : Nat) : (paysOf w n).length ≤ 1 :=
  (Steps.exec_invariant (I := PayInv) (fun _ l _ h hc hs => h.step l hc hs) labels World.init w payInv_init
    hsafe hrun).once n

/-- A boss appears on the two tables of the game server 210. -/
def bossOnTwoTables : List WorldLabel :=
  [.managerInit 210 [1, 2], .tableStateChange 210 1 true, .tableStateChange 210 2 true,
    .ls (.addWorldBossPoolScore needScore ⟨1500000000, 20170714120000, 12, 0⟩), .ls (.resume 0 []), .ls (.resume 0 [210]),
    .ls (.resume 0 []), .notifyWorldBossStartOrEnd 0 1500000000, .receive 0, .receive 0, .flushWorldBoss 210 1,
      .flushWorldBoss 210 2]

/-- The user 7 kills the boss on the first table, and the login server hears of it. -/
theorem one_pay_of_paySafe_killed :
    ∃ w, Steps.exec worldStep World.init (bossOnTwoTables ++ [.catchFish 210 1 7 1, .catchEnd 210 1 true, .forwardKill 0,
        .killWorldBoss 0 1500000040]) = some w ∧ (paysOf w 1).length ≤ 1 :=
  ⟨_, rfl, one_pay_of_paySafe (bossOnTwoTables ++ [.catchFish 210 1 7 1, .catchEnd 210 1 true, .forwardKill 0,
    .killWorldBoss 0 1500000040]) _ (by decide +kernel) rfl 1⟩

/-- The user 8 kills it on the second table before the login server has heard of the first kill: both are paid the pool. -/
theorem two_pays_of_one_boss :
    ∃ w, Steps.exec worldStep World.init
      (bossOnTwoTables ++ [.catchFish 210 1 7 1, .catchEnd 210 1 true, .catchFish 210 2 8 1,
        .catchEnd 210 2 true, .forwardKill 0, .killWorldBoss 0 1500000040]) = some w ∧
      paysOf w 1 = [⟨1, 210, 2, 8, needScore⟩, ⟨1, 210, 1, 7, needScore⟩] :=
  ⟨_, rfl, by decide +kernel⟩

end SasyServer.WorldBoss
