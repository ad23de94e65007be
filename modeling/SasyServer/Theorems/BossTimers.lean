import SasyServer.Lib.Waiting
import SasyServer.WorldBoss.LoginServer

/-!
# Theorem: a boss that is alive has one end timeout, as long as no kill comes during a start and no start ends with an error

Every start sets `status` first and the timeout of its end only after two waits. The invariant counts, for a boss that is
alive, the timeouts `CheckWorldBossEnd` and the starts that wait: there is one of the two. The condition `timerSafe` is on
the state in which a label is taken: a kill is handled when no start waits, so that the timeout of the boss is the one in
`worldBossOverTimer`, and no start meets the record of a user that has been released while it waited.
-/

namespace SasyServer.WorldBoss

/-- The waits of a start, between `status = 1` and the timeout of the end. -/
def Wait.isStart : Wait → Bool
  | .invalidScoreStart | .startInfo _ _ | .startClients _ => true
  | _ => false

namespace State

/-- The starts that wait. -/
def starts (s : State) : Nat := s.suspended.countP fun t => t.wait.isStart

/-- The pending timeouts `CheckWorldBossEnd`. -/
def ends (s : State) : Nat := s.activeTimer.countP fun p => p.2 = .checkWorldBossEnd

/-- What the invariant reads, the handlers that wait apart. -/
def core (s : State) : Nat × Bool × Bool × Option Nat × Option Nat × Nat × List (Nat × Callback) :=
  (s.status, s.hourFlushBossFlag, s.worldBossFlag, s.worldBossOverTimer, s.flushWorldBossTimer, s.timerIDGenerator,
    s.activeTimer)

end State

/-- The condition on a label in the state in which it is taken: a kill of a boss that is alive comes when no start waits, and
the handlers that end with an error are not starts. -/
def timerSafe (s : State) : Label → Bool
  | .killWorldBoss _ _ => s.status ≠ 1 || s.starts = 0
  | .abort k => s.suspended[k]?.all fun t => !t.wait.isStart
  | _ => true

/-- The timers and flags, in a state in which the running handler has begun `n` starts that it has not ended yet. -/
structure TimerInv (n : Nat) (s : State) : Prop where
  le_one : s.status ≤ 1
  flags : s.hourFlushBossFlag.toNat + s.worldBossFlag.toNat = s.status
  ends : s.ends + s.starts + n = s.status
  overTimer : ∀ id, (id, .checkWorldBossEnd) ∈ s.activeTimer → s.worldBossOverTimer = some id
  flush : ∀ id, (id, .flushWorldBoss) ∈ s.activeTimer → s.flushWorldBossTimer = some id ∧ s.status = 0
  apart : ∀ id, s.flushWorldBossTimer = some id → (id, .checkWorldBossEnd) ∉ s.activeTimer
  lt : ∀ p ∈ s.activeTimer, p.1 ≤ s.timerIDGenerator
  flushLt : ∀ id, s.flushWorldBossTimer = some id → id ≤ s.timerIDGenerator

theorem timerInv_init : TimerInv 0 State.init := by
  constructor <;> simp [State.init, State.ends, State.starts]

section Primitives

variable {n : Nat} {s s' : State}

/-- The handlers that wait change, and with them what the running handler has begun. -/
theorem TimerInv.threads {m : Nat} (h : TimerInv n s) (hcore : s'.core = s.core) (hst : s'.starts + m = s.starts + n) :
    TimerInv m s' := by
  simp only [State.core, Prod.mk.injEq] at hcore
  obtain ⟨h1, h2, h3, h4, h5, h6, h7⟩ := hcore
  have he := h.ends
  constructor
  · rw [h1]; exact h.le_one
  · rw [h1, h2, h3]; exact h.flags
  · have : s'.ends = s.ends := by rw [State.ends, h7]; rfl
    omega
  · rw [h4, h7]; exact h.overTimer
  · rw [h1, h5, h7]; exact h.flush
  · rw [h5, h7]; exact h.apart
  · rw [h6, h7]; exact h.lt
  · rw [h5, h6]; exact h.flushLt

/-- A change that the invariant does not read. -/
theorem TimerInv.congr (h : TimerInv n s) (hcore : s'.core = s.core) (hsus : s'.suspended = s.suspended) : TimerInv n s' :=
  h.threads hcore (by rw [State.starts, State.starts, hsus])

/-- The running handler begins to wait. -/
theorem TimerInv.suspend {ticker : Bool} {wait : Wait} (h : TimerInv (n + wait.isStart.toNat) s) :
    TimerInv n (s.suspend ticker wait) := by
  refine h.threads rfl ?_
  have hc := Waiting.countP_concat s.suspended ⟨ticker, wait⟩ fun t => t.wait.isStart
  simp only [State.starts, State.suspend, hc]
  omega

/-- A handler that has waited becomes the running one. -/
theorem TimerInv.wake (h : TimerInv 0 s) {k : Nat} {t : Thread} (hk : s.suspended[k]? = some t) :
    TimerInv t.wait.isStart.toNat { s with suspended := s.suspended.eraseIdx k } := by
  refine h.threads rfl ?_
  exact (Waiting.countP_eraseIdx hk fun t => t.wait.isStart).symm

/-- Without a flush timeout pending, a boss that is not alive starts. -/
theorem TimerInv.start (h : TimerInv 0 s) (h0 : s.status = 0) (hno : ∀ id, (id, .flushWorldBoss) ∉ s.activeTimer)
    (hstatus : s'.status = 1) (hflags : s'.hourFlushBossFlag.toNat + s'.worldBossFlag.toNat = 1)
    (hcore : s'.core.2.2.2 = s.core.2.2.2) (hsus : s'.suspended = s.suspended) : TimerInv 1 s' := by
  simp only [State.core, Prod.mk.injEq] at hcore
  obtain ⟨h4, h5, h6, h7⟩ := hcore
  have he := h.ends
  constructor
  · omega
  · omega
  · have : s'.ends = s.ends := by rw [State.ends, h7]; rfl
    have : s'.starts = s.starts := by rw [State.starts, hsus]; rfl
    omega
  · rw [h4, h7]; exact h.overTimer
  · rw [h7]; exact fun id hid => absurd hid (hno id)
  · rw [h5, h7]; exact h.apart
  · rw [h6, h7]; exact h.lt
  · rw [h5, h6]; exact h.flushLt

/-- No end timeout is pending when a start is under way, or no boss is alive. -/
theorem TimerInv.no_end (h : TimerInv n s) (hn : s.status ≤ s.starts + n) (id : Nat) :
    (id, .checkWorldBossEnd) ∉ s.activeTimer := by
  intro hid
  have : 0 < s.ends := List.countP_pos_iff.2 ⟨_, hid, by simp⟩
  have := h.ends
  omega

/-- Without a boss no flag is set. -/
theorem TimerInv.no_flag (h : TimerInv n s) (h0 : s.status = 0) : s.hourFlushBossFlag = false ∧ s.worldBossFlag = false := by
  have hflags := h.flags
  rw [h0] at hflags
  cases hh : s.hourFlushBossFlag <;> cases hw : s.worldBossFlag <;> simp [hh, hw] at hflags ⊢

/-- An hourly boss is not a world boss. -/
theorem TimerInv.one_flag (h : TimerInv n s) (hh : s.hourFlushBossFlag = true) : s.worldBossFlag = false := by
  have hflags := h.flags
  have hle := h.le_one
  cases hw : s.worldBossFlag with
  | false => rfl
  | true =>
    simp only [hh, hw, Bool.toNat_true] at hflags
    omega

/-- `clearTimer` keeps what it does not clear. -/
theorem mem_clearTimer {timerID : Nat} {p : Nat × Callback} :
    p ∈ (s.clearTimer timerID).activeTimer ↔ p ∈ s.activeTimer ∧ p.1 ≠ timerID := by
  simp [State.clearTimer]

/-- `setTimeout` adds one timer, with the next identifier. -/
theorem mem_setTimeout {func : Callback} {p : Nat × Callback} :
    p ∈ (s.setTimeout func).activeTimer ↔ p ∈ s.activeTimer ∨ p = (s.timerIDGenerator + 1, func) := by
  simp [State.setTimeout]

/-- The only end timeout is the one of `worldBossOverTimer`. -/
theorem TimerInv.no_end_clearTimer (h : TimerInv n s) {timerID : Nat} (ho : s.worldBossOverTimer = some timerID) (id : Nat) :
    (id, .checkWorldBossEnd) ∉ (s.clearTimer timerID).activeTimer := by
  intro hid
  obtain ⟨hm, hne⟩ := mem_clearTimer.1 hid
  have hover := h.overTimer id hm
  rw [ho] at hover
  exact hne (Option.some.inj hover).symm

/-- The only flush timeout is the one of `flushWorldBossTimer`. -/
theorem TimerInv.no_flush_clearTimer (h : TimerInv n s) {timerID : Nat}
    (hf : s.flushWorldBossTimer = some timerID) (id : Nat) :
    (id, .flushWorldBoss) ∉ (s.clearTimer timerID).activeTimer := by
  intro hid
  obtain ⟨hm, hne⟩ := mem_clearTimer.1 hid
  have hflush := (h.flush id hm).1
  rw [hf] at hflush
  exact hne (Option.some.inj hflush).symm

theorem TimerInv.lt_setTimeout (h : TimerInv n s) (func : Callback) :
    ∀ p ∈ (s.setTimeout func).activeTimer, p.1 ≤ s.timerIDGenerator + 1 := by
  intro p hp
  rcases mem_setTimeout.1 hp with hp | rfl
  · exact Nat.le_succ_of_le (h.lt p hp)
  · exact Nat.le_refl _

/-- The end of a start: the timeout of its end is set. -/
theorem TimerInv.setOver (h : TimerInv 1 s) :
    TimerInv 0 { s.setTimeout .checkWorldBossEnd with worldBossOverTimer := some (s.timerIDGenerator + 1) } := by
  have he := h.ends
  have hle := h.le_one
  have hno := h.no_end (by omega)
  have hst : s.status ≠ 0 := by omega
  constructor
  · exact h.le_one
  · exact h.flags
  · have hends : State.ends { s.setTimeout .checkWorldBossEnd with worldBossOverTimer := some (s.timerIDGenerator + 1) } =
        s.ends + 1 := by simp [State.ends, State.setTimeout]
    rw [hends]
    exact (by omega : s.ends + 1 + s.starts + 0 = s.status)
  · intro id hid
    rcases mem_setTimeout.1 hid with hid | hid
    · exact absurd hid (hno id)
    · cases hid
      rfl
  · intro id hid
    rcases mem_setTimeout.1 hid with hid | hid
    · exact absurd (h.flush id hid).2 hst
    · cases hid
  · intro id hf hid
    rcases mem_setTimeout.1 hid with hid | hid
    · exact hno id hid
    · cases hid
      exact absurd (h.flushLt _ hf) (Nat.not_succ_le_self _)
  · exact h.lt_setTimeout _
  · intro id hf
    exact Nat.le_succ_of_le (h.flushLt id hf)

/-- A boss that is alive ends, whose end timeout is gone. -/
theorem TimerInv.finish (h : TimerInv n s) (h1 : s.starts + n = 0)
    (hstatus : s'.status = 0) (hflags : s'.hourFlushBossFlag = false ∧ s'.worldBossFlag = false)
    (hsus : s'.suspended = s.suspended) (hgen : s'.timerIDGenerator = s.timerIDGenerator)
    (hends : ∀ id, (id, .checkWorldBossEnd) ∉ s'.activeTimer)
    (hmem : ∀ p ∈ s'.activeTimer, p ∈ s.activeTimer)
    (hflush : ∀ id, (id, .flushWorldBoss) ∈ s'.activeTimer → s'.flushWorldBossTimer = some id)
    (hlt : ∀ id, s'.flushWorldBossTimer = some id → id ≤ s'.timerIDGenerator) : TimerInv 0 s' := by
  constructor
  · omega
  · rw [hflags.1, hflags.2, hstatus]; rfl
  · have he : s'.ends = 0 := by
      rw [State.ends, List.countP_eq_zero]
      rintro ⟨id, func⟩ hp hf
      simp only [decide_eq_true_eq] at hf
      exact hends id (hf ▸ hp)
    have : s'.starts = s.starts := by rw [State.starts, hsus]; rfl
    omega
  · exact fun id hid => absurd hid (hends id)
  · exact fun id hid => ⟨hflush id hid, hstatus⟩
  · exact fun id _ => hends id
  · intro p hp
    rw [hgen]
    exact h.lt p (hmem p hp)
  · exact hlt

/-- The flush timeout is cleared. -/
theorem TimerInv.clearFlush (h : TimerInv n s) :
    TimerInv n s.clearFlushWorldBossTimer ∧ (∀ id, (id, .flushWorldBoss) ∉ s.clearFlushWorldBossTimer.activeTimer) := by
  unfold State.clearFlushWorldBossTimer
  cases hf : s.flushWorldBossTimer with
  | none =>
    refine ⟨h, ?_⟩
    intro id hid
    rw [(h.flush id hid).1] at hf
    cases hf
  | some timerID =>
    dsimp only
    have hno := h.no_flush_clearTimer hf
    refine ⟨?_, hno⟩
    · constructor
      · exact h.le_one
      · exact h.flags
      · have hends : (s.clearTimer timerID).ends = s.ends := by
          rw [State.ends, State.ends, State.clearTimer, List.countP_filter]
          refine List.countP_congr ?_
          intro p hp
          simp only [Bool.and_eq_true, decide_eq_true_eq, and_iff_left_iff_imp]
          rintro hc rfl
          exact h.apart p.1 hf (hc ▸ hp)
        have := h.ends
        exact (by omega : (s.clearTimer timerID).ends + s.starts + n = s.status)
      · exact fun id hid => h.overTimer id (mem_clearTimer.1 hid).1
      · intro id hid
        exact absurd hid (hno id)
      · simp
      · intro p hp
        exact h.lt p (mem_clearTimer.1 hp).1
      · simp

/-- The flush timeout is set, when no boss is alive and none is pending. -/
theorem TimerInv.setFlush (h : TimerInv 0 s) (h0 : s.status = 0) (hno : ∀ id, (id, .flushWorldBoss) ∉ s.activeTimer) :
    TimerInv 0 { s.setTimeout .flushWorldBoss with flushWorldBossTimer := some (s.timerIDGenerator + 1) } := by
  have hend := h.no_end (by omega)
  constructor
  · exact h.le_one
  · exact h.flags
  · have hends : State.ends { s.setTimeout .flushWorldBoss with flushWorldBossTimer := some (s.timerIDGenerator + 1) } =
        s.ends := by simp [State.ends, State.setTimeout]
    rw [hends]
    exact h.ends
  · intro id hid
    rcases mem_setTimeout.1 hid with hid | hid
    · exact absurd hid (hend id)
    · cases hid
  · intro id hid
    rcases mem_setTimeout.1 hid with hid | hid
    · exact absurd hid (hno id)
    · cases hid
      exact ⟨rfl, h0⟩
  · intro id _ hid
    rcases mem_setTimeout.1 hid with hid | hid
    · exact hend id hid
    · cases hid
  · exact h.lt_setTimeout _
  · intro id hf
    cases Option.some.inj hf
    exact Nat.le_refl _

end Primitives

section Handlers

variable {s s' : State}

/-- `CheckWorldBossEnd` after a kill has cleared the timeout. -/
theorem TimerInv.endKilled (h : TimerInv 0 s) (h1 : s.status = 1) (hst : s.starts = 0) (userID : Nat) (now : Int)
    (active : List (Nat × Callback)) (hmem : ∀ p ∈ active, p ∈ s.activeTimer)
    (hends : ∀ id, (id, .checkWorldBossEnd) ∉ active) :
    TimerInv 0 (checkWorldBossEnd { s with activeTimer := active, worldBossOverTimer := none } false (some userID) now) := by
  have hno : ∀ id, (id, .flushWorldBoss) ∉ active := by
    intro id hid
    have := (h.flush id (hmem _ hid)).2
    omega
  unfold checkWorldBossEnd
  refine TimerInv.suspend (h.finish (by omega) ?_ ?_ ?_ ?_ ?_ ?_ ?_ ?_)
  all_goals dsimp only
  all_goals split
  all_goals rename_i hh
  · rfl
  · rfl
  · exact ⟨rfl, h.one_flag hh⟩
  · exact ⟨by simpa using hh, rfl⟩
  · rfl
  · rfl
  · rfl
  · rfl
  · exact hends
  · exact hends
  · exact hmem
  · exact hmem
  · exact fun id hid => absurd hid (hno id)
  · exact fun id hid => absurd hid (hno id)
  · simp
  · simp

/-- `cmd_killWorldBoss`, under the condition. -/
theorem TimerInv.killWorldBoss (h : TimerInv 0 s) (userID : Nat) (now : Int) (hc : timerSafe s (.killWorldBoss userID now)) :
    TimerInv 0 (killWorldBoss s userID now) := by
  unfold WorldBoss.killWorldBoss
  split
  · rename_i h1
    have hst : s.starts = 0 := by simpa [timerSafe, h1] using hc
    dsimp only
    cases ho : s.worldBossOverTimer with
    | none =>
      have hno : ∀ id, (id, .checkWorldBossEnd) ∉ s.activeTimer := by
        intro id hid
        rw [h.overTimer id hid] at ho
        cases ho
      have := h.endKilled h1 hst userID now s.activeTimer (fun p hp => hp) hno
      rw [← ho] at this
      exact this
    | some timerID =>
      exact h.endKilled h1 hst userID now _ (fun p hp => (mem_clearTimer.1 hp).1) (h.no_end_clearTimer ho)
  · exact h

/-- `CheckWorldBossEnd` as a timeout. -/
theorem TimerInv.endTimeout (h : TimerInv 0 s) {timerID : Nat}
    (hid : (timerID, .checkWorldBossEnd) ∈ s.activeTimer) (now : Int) :
    TimerInv 0 (checkWorldBossEnd (s.clearTimer timerID) true none now) := by
  have hpos : 0 < s.ends := List.countP_pos_iff.2 ⟨_, hid, by simp⟩
  have he := h.ends
  have hle := h.le_one
  have hno : ∀ id, (id, .flushWorldBoss) ∉ (s.clearTimer timerID).activeTimer := by
    intro id hm
    have := (h.flush id (mem_clearTimer.1 hm).1).2
    omega
  have hends := h.no_end_clearTimer (h.overTimer timerID hid)
  -- The boss ends without its end timeout; a world boss then sets the flush timeout.
  have hfin : TimerInv 0 { s.clearTimer timerID with status := 0, hourFlushBossFlag := false, worldBossFlag := false } :=
    h.finish (by omega) rfl ⟨rfl, rfl⟩ rfl rfl hends (fun p hp => (mem_clearTimer.1 hp).1)
      (fun id hm => absurd hm (hno id)) h.flushLt
  unfold checkWorldBossEnd
  refine TimerInv.suspend ?_
  dsimp only
  cases hh : s.hourFlushBossFlag with
  | true =>
    have hw := h.one_flag hh
    refine hfin.congr ?_ ?_
    · simp [State.clearTimer, State.core, hh, hw]
    · simp [State.clearTimer, hh]
  | false =>
    refine (hfin.setFlush rfl hno).congr ?_ ?_
    · simp [State.clearTimer, State.setTimeout, State.core, hh]
    · simp [State.clearTimer, State.setTimeout, hh]

/-- `FlushWorldBoss` as a timeout. -/
theorem TimerInv.flushTimeout (h : TimerInv 0 s) {timerID : Nat}
    (hid : (timerID, .flushWorldBoss) ∈ s.activeTimer) (now : Int) :
    TimerInv 0 (flushWorldBoss (s.clearTimer timerID) now) := by
  obtain ⟨hf, h0⟩ := h.flush timerID hid
  have hflag := h.no_flag h0
  -- The timeout that runs is the only flush timeout.
  have hno := h.no_flush_clearTimer hf
  have hend := h.no_end (by omega)
  have hclear : TimerInv 0 (s.clearTimer timerID) := by
    refine h.finish ?_ h0 hflag rfl rfl (fun id hm => hend id (mem_clearTimer.1 hm).1) (fun p hp => (mem_clearTimer.1 hp).1)
      (fun id hm => absurd hm (hno id)) h.flushLt
    have := h.ends
    omega
  unfold flushWorldBoss
  refine TimerInv.suspend (hclear.start h0 hno rfl ?_ rfl rfl)
  show s.hourFlushBossFlag.toNat + 1 = 1
  rw [hflag.1]
  rfl

/-- `cmd_addWorldBossPoolScore`. -/
theorem TimerInv.addWorldBossPoolScore (h : TimerInv 0 s) (score : Int) (c : Clock) :
    TimerInv 0 (addWorldBossPoolScore s score c) := by
  have hp : TimerInv 0 { s with poolScore := s.poolScore + score } := h.congr rfl rfl
  unfold WorldBoss.addWorldBossPoolScore
  dsimp only
  split
  · exact hp
  · split
    · exact hp
    · split
      · rename_i hstart
        obtain ⟨-, h0, -, hf⟩ := hstart
        have hno : ∀ id, (id, .flushWorldBoss) ∉ s.activeTimer := fun id hid => by
          have := (h.flush id hid).1
          rw [hf] at this
          cases this
        refine TimerInv.suspend (h.start h0 hno rfl ?_ rfl rfl)
        show s.hourFlushBossFlag.toNat + 1 = 1
        rw [(h.no_flag h0).1]
        rfl
      · exact h.congr rfl rfl

/-- The second loop of `checkTimeFlushBoss`. -/
theorem TimerInv.timeFlushLoop (h : TimerInv 0 s) (c : Clock) (entries : List TimeFlush) :
    TimerInv 0 (timeFlushLoop s c entries) := by
  induction entries with
  | nil => exact h
  | cons v rest ih =>
    rw [WorldBoss.timeFlushLoop]
    split
    · exact ih
    · split
      · rename_i hstart
        obtain ⟨-, -, h0, -⟩ := hstart
        dsimp only
        obtain ⟨hc, hno⟩ := h.clearFlush
        have hcs : s.clearFlushWorldBossTimer.status = 0 := by
          unfold State.clearFlushWorldBossTimer
          split
          · exact h0
          · exact h0
        -- The flag and the pool of the boss are set before the flush timeout is cleared, which does not read them.
        have hcomm : ∀ (p : Int) (f : Nat),
            State.clearFlushWorldBossTimer { s with hourFlushBossFlag := true, timePoolScore := p, flushTime := f } =
              { s.clearFlushWorldBossTimer with hourFlushBossFlag := true, timePoolScore := p, flushTime := f } := by
          intro p f
          unfold State.clearFlushWorldBossTimer
          dsimp only
          split <;> rfl
        rw [hcomm]
        refine TimerInv.suspend (hc.start hcs hno rfl ?_ rfl rfl)
        show true.toNat + s.clearFlushWorldBossTimer.worldBossFlag.toNat = 1
        rw [(hc.no_flag hcs).2]
        rfl
      · exact ih

/-- The first loop of `checkTimeFlushBoss`. -/
theorem TimerInv.notTimeFlushLoop (h : TimerInv 0 s) (c : Clock) (entries : List NotTimeFlush)
    (hs : notTimeFlushLoop s c entries = some s') : TimerInv 0 s' := by
  induction entries with
  | nil => cases hs
  | cons v rest ih =>
    rw [WorldBoss.notTimeFlushLoop] at hs
    split at hs
    · cases hs
      refine TimerInv.suspend ?_
      split
      · exact h.clearFlush.1
      · exact h
    · exact ih hs

/-- `checkTimeFlushBoss`. -/
theorem TimerInv.checkTimeFlushBoss (h : TimerInv 0 s) (c : Clock) : TimerInv 0 (checkTimeFlushBoss s c) := by
  unfold WorldBoss.checkTimeFlushBoss
  split
  · cases hs : WorldBoss.notTimeFlushLoop s c notTimeFlush with
    | none => exact h.timeFlushLoop c timeFlush
    | some s' => exact h.notTimeFlushLoop c notTimeFlush hs
  · exact h.timeFlushLoop c timeFlush

/-- A handler that goes on after a wait. -/
theorem TimerInv.resumeThread {t : Thread} (h : TimerInv t.wait.isStart.toNat s) (serverList : List Nat) :
    TimerInv 0 (resumeThread s serverList t) := by
  obtain ⟨ticker, wait⟩ := t
  cases wait with
  | invalidScoreStart => exact TimerInv.suspend (h.congr rfl rfl)
  | startInfo kind info => exact TimerInv.suspend (h.congr rfl rfl)
  | startClients kind =>
    have hover := h.setOver
    cases kind with
    | add => exact hover.congr rfl rfl
    | flush => exact hover
    | hour => exact TimerInv.suspend (hover.congr rfl rfl)
  | invalidScore => exact h.congr rfl rfl
  | endInfo info => exact TimerInv.suspend (h.congr rfl rfl)
  | endClients => exact h
  | timeFlushStart c v =>
    refine TimerInv.timeFlushLoop ?_ c timeFlush
    repeat' split
    all_goals exact h.congr rfl rfl

/-- One label keeps the timers right, under the condition. -/
theorem TimerInv.step (h : TimerInv 0 s) (l : Label) (hc : timerSafe s l) (hs : step s l = some s') : TimerInv 0 s' := by
  cases l with
  | addWorldBossPoolScore score c => cases hs; exact h.addWorldBossPoolScore score c
  | killWorldBoss userID now => cases hs; exact h.killWorldBoss userID now hc
  | timeout timerID now =>
    simp only [WorldBoss.step] at hs
    split at hs
    · rw [Option.map_eq_some_iff] at hs
      obtain ⟨⟨id, func⟩, hfind, rfl⟩ := hs
      have hm := List.mem_of_find?_eq_some hfind
      have hid : id = timerID := by simpa using List.find?_some hfind
      subst hid
      cases func with
      | checkWorldBossEnd => exact h.endTimeout hm now
      | flushWorldBoss => exact h.flushTimeout hm now
    · cases hs
  | checkTimeFlushBoss c =>
    simp only [WorldBoss.step] at hs
    split at hs
    · cases hs
      exact h.checkTimeFlushBoss c
    · cases hs
  | notifyInvalidScore =>
    simp only [WorldBoss.step] at hs
    split at hs
    · cases hs
      unfold WorldBoss.notifyInvalidScore
      split
      · exact TimerInv.suspend h
      · exact h
    · cases hs
  | resume k serverList =>
    simp only [WorldBoss.step, Option.map_eq_some_iff] at hs
    obtain ⟨t, ht, rfl⟩ := hs
    exact (h.wake ht).resumeThread serverList
  | abort k =>
    simp only [WorldBoss.step, Option.bind_eq_some_iff, Option.ite_none_right_eq_some, Option.some.injEq] at hs
    obtain ⟨t, ht, -, rfl⟩ := hs
    have hwait : t.wait.isStart = false := by simpa [timerSafe, ht] using hc
    have hw := h.wake ht
    rw [hwait] at hw
    exact hw

end Handlers

/-- Every run whose labels meet the condition when they are taken: in a state in which no handler waits, a boss
is alive exactly when one of the two flags is set, and it is alive exactly when one end timeout is pending, the
one in `worldBossOverTimer`. -/
theorem one_end_timeout_of_timerSafe (labels : List Label) (t : State)
    (hsafe : Steps.Meets step (fun s l => timerSafe s l) State.init labels)
    (hrun : Steps.exec step State.init labels = some t) (hidle : t.suspended = []) :
    (t.status = 1 ↔ t.hourFlushBossFlag ≠ t.worldBossFlag) ∧ t.ends = (if t.status = 1 then 1 else 0) ∧
      ∀ id, (id, .checkWorldBossEnd) ∈ t.activeTimer → t.worldBossOverTimer = some id := by
  have h := Steps.exec_invariant (I := TimerInv 0) (fun _ l _ h hc hs => h.step l hc hs) labels State.init t
    timerInv_init hsafe hrun
  have hflags := h.flags
  have hle := h.le_one
  have hends := h.ends
  have hst : t.starts = 0 := by rw [State.starts, hidle]; rfl
  refine ⟨?_, ?_, h.overTimer⟩
  · cases hh : t.hourFlushBossFlag <;> cases hw : t.worldBossFlag <;> simp [hh, hw] at hflags ⊢ <;> omega
  · split <;> omega

/-- A boss starts, is killed, and nobody waits any more: the end of the kill meets a released record. -/
theorem one_end_timeout_of_timerSafe_killed :
    ∃ t, Steps.exec step State.init
      [.addWorldBossPoolScore needScore ⟨1500000000, 20170714120000, 12, 0⟩, .resume 0 [], .resume 0 [210],
        .resume 0 [], .killWorldBoss 7 1500000040, .resume 0 [210], .abort 0] = some t ∧
      (t.status = 1 ↔ t.hourFlushBossFlag ≠ t.worldBossFlag) ∧ t.ends = (if t.status = 1 then 1 else 0) ∧
      ∀ id, (id, .checkWorldBossEnd) ∈ t.activeTimer → t.worldBossOverTimer = some id :=
  ⟨_, rfl, one_end_timeout_of_timerSafe
    [.addWorldBossPoolScore needScore ⟨1500000000, 20170714120000, 12, 0⟩, .resume 0 [], .resume 0 [210],
    .resume 0 [], .killWorldBoss 7 1500000040, .resume 0 [210], .abort 0] _ (by decide +kernel) rfl rfl⟩

/-- The boss is killed while its start tells the clients: the start then sets the timeout of a boss that is over. -/
theorem end_timeout_without_boss :
    ∃ t, Steps.exec step State.init
      [.addWorldBossPoolScore needScore ⟨1500000000, 20170714120000, 12, 0⟩, .resume 0 [], .resume 0 [210],
        .killWorldBoss 7 1500000040, .resume 0 [], .resume 0 [210], .resume 0 []] = some t ∧
      t.suspended = [] ∧ t.status = 0 ∧ t.ends = 1 :=
  ⟨_, rfl, by decide +kernel, by decide +kernel, by decide +kernel⟩

end SasyServer.WorldBoss
