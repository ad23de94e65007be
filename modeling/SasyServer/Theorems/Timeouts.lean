import SasyServer.Lemmas.TimerPlaces

/-!
# Every timeout is answered in its tick

Whatever threads ask for timeouts and whenever the timer thread takes the lock: the messages it has sent are those of the
timeouts whose tick has come, in the order of the ticks and within a tick in the order the timeouts were asked for. None is
lost, sent twice, or sent early or late by a tick, also when the time of the timer begins anew after `2 ^ 32` ticks.
-/

namespace SasyServer.Skynet

open Steps Timer

/-- The nodes that are waiting. -/
def TimerState.waiting (s : TimerState) : List TimerNode := s.nodes.filter fun node => s.now < node.due

/-- The messages of the ticks up to the present one. -/
def TimerState.answers (s : TimerState) : List (Nat × TimerEvent) :=
  (List.range (s.now + 1)).flatMap fun tick => (s.nodes.filter fun node => node.due = tick).map
    fun node => (tick, node.event)

/-- What holds whenever the timer thread does not have the lock. -/
structure TimerState.Good (start : Nat) (s : TimerState) : Prop where
  time : s.T.time = s.now % 2 ^ 32
  holds : Buckets.Holds s.T.table (place s.T.time) s.waiting
  expire : ∀ node ∈ s.nodes, node.expire = node.due % 2 ^ 32
  due_lt : ∀ node ∈ s.nodes, node.due < s.now + 2 ^ 31
  sent : s.pushed ++ s.current.map (fun node => (s.now, node.event)) = s.answers
  idle : s.phase = .idle → s.current = []
  not_before : s.phase ≠ .before
  clock : s.T.current + (if s.phase = .after then 1 else 0) = start + s.now + s.left
  left_pos : s.phase = .after → 0 < s.left

namespace TimerState

variable {start : Nat} {s : TimerState}

theorem good_init (current currentPoint : Nat) : (init current currentPoint).Good current where
  time := rfl
  holds := by
    intro p
    cases p <;> rfl
  expire := fun _ h => absurd h List.not_mem_nil
  due_lt := fun _ h => absurd h List.not_mem_nil
  sent := rfl
  idle := fun _ => rfl
  not_before := by simp [init]
  clock := rfl
  left_pos := by simp [init]

/-- The time of the timer is below `2 ^ 32`. -/
theorem Good.time_lt (h : s.Good start) : s.T.time < 2 ^ 32 := by
  rw [h.time]
  exact Nat.mod_lt _ (Nat.two_pow_pos 32)

/-- What is waiting is still to come. -/
theorem Good.ahead (h : s.Good start) {node : TimerNode} (hn : node ∈ s.waiting) :
    node.expire < 2 ^ 32 ∧ Ahead s.T.time node.expire := by
  obtain ⟨hm, hd⟩ := List.mem_filter.1 hn
  have h1 := h.due_lt node hm
  have h2 := of_decide_eq_true hd
  rw [h.expire node hm, h.time]
  unfold Ahead
  omega

/-- The list of `near` for the present tick would hold the nodes of this tick. -/
theorem place_eq_near_iff (c : Nat) (node : TimerNode) : place c node = .near (c % 2 ^ 8) ↔ node.expire = c := by
  rw [place_eq]
  split_ifs with h8
  · rw [TimerPlace.near.injEq]
    omega
  all_goals
    refine iff_of_false (by simp) fun e => h8 (by rw [e])

/-- A new timeout waits for its tick. -/
theorem Good.skynetTimeout (h : s.Good start) (handle : Nat) (time : BitVec 32) (session : Nat) :
    (s.skynetTimeout handle time session).Good start := by
  unfold TimerState.skynetTimeout
  split
  · exact ⟨h.time, h.holds, h.expire, h.due_lt, h.sent, h.idle, h.not_before, h.clock, h.left_pos⟩
  · rename_i hpos
    have h31 : 0 < time.toNat ∧ time.toNat < 2 ^ 31 := by
      have := BitVec.toInt_eq_toNat_cond time
      split at this <;> omega
    set node : TimerNode := ⟨(time.toNat + s.T.time) % 2 ^ 32, ⟨handle, session⟩, s.now + time.toNat⟩ with hnode
    have hw : (s.nodes ++ [node]).filter (fun n => s.now < n.due) = s.waiting ++ [node] := by
      rw [List.filter_append]
      congr 1
      simp [hnode, h31.1]
    refine ⟨?_, ?_, ?_, ?_, ?_, h.idle, h.not_before, ?_, h.left_pos⟩
    · exact (time_addNode s.T node).trans h.time
    · show Buckets.Holds (s.T.addNode node).table (place (s.T.addNode node).time) ((s.nodes ++ [node]).filter _)
      rw [table_addNode, time_addNode, hw]
      exact h.holds.add node
    · intro n hn
      rcases List.mem_append.1 hn with hn | hn
      · exact h.expire n hn
      · rw [List.mem_singleton.1 hn]
        show (time.toNat + s.T.time) % 2 ^ 32 = (s.now + time.toNat) % 2 ^ 32
        rw [h.time, Nat.add_mod_mod, Nat.add_comm]
    · intro n hn
      rcases List.mem_append.1 hn with hn | hn
      · exact h.due_lt n hn
      · rw [List.mem_singleton.1 hn]
        exact Nat.add_lt_add_left h31.2 s.now
    · refine h.sent.trans (List.flatMap_congr fun tick ht => ?_)
      rw [List.mem_range] at ht
      have hne : ¬node.due = tick := by
        show ¬s.now + time.toNat = tick
        omega
      show _ = ((s.nodes ++ [node]).filter _).map _
      simp [List.filter_append, hne]
    · exact (congrArg (· + _) (clock_addNode s.T node).1).trans h.clock

/-- The clock is read between two turns. -/
theorem Good.skynetUpdatetime (h : s.Good start) (hi : s.phase = .idle) (hl : s.left = 0) (cp : Nat) :
    (s.skynetUpdatetime cp).Good start := by
  unfold TimerState.skynetUpdatetime
  split
  · exact ⟨h.time, h.holds, h.expire, h.due_lt, h.sent, h.idle, h.not_before, h.clock, h.left_pos⟩
  · split
    · have hc := h.clock
      refine ⟨h.time, h.holds, h.expire, h.due_lt, h.sent, h.idle, h.not_before, ?_, fun ha => ?_⟩
      · rw [hl] at hc
        simp only
        omega
      · rw [show s.phase = .after from ha] at hi
        cases hi
    · exact h

/-- A message is sent. -/
theorem Good.push (h : s.Good start) {node : TimerNode} {current : List TimerNode} (hc : s.current = node :: current) :
    TimerState.Good start { s with pushed := s.pushed ++ [(s.now, node.event)], current } := by
  refine ⟨h.time, h.holds, h.expire, h.due_lt, ?_, fun hi => ?_, h.not_before, h.clock, h.left_pos⟩
  · have hs := h.sent
    rw [hc, List.map_cons] at hs
    exact (List.append_assoc _ _ _).trans hs
  · rw [h.idle hi] at hc
    cases hc

/-- Between two turns the list of the present tick is empty: nothing that waits is for it. -/
theorem Good.clearNear_eq (h : s.Good start) : s.T.clearNear.1 = [] := by
  rw [(table_clearNear s.T).1, h.holds, List.filter_eq_nil_iff]
  intro node hn hp
  rw [decide_eq_true_eq, place_eq_near_iff] at hp
  have ha := (h.ahead hn).2
  unfold Ahead at ha
  omega

theorem executeAfter_of_nil (h : s.T.clearNear.1 = []) : s.executeAfter = { s with left := s.left - 1, phase := .idle } :=
  if_neg (not_not_intro h)

theorem executeAfter_of_ne_nil (h : s.T.clearNear.1 ≠ []) :
    s.executeAfter = { s with T := s.T.clearNear.2, current := s.T.clearNear.1, phase := .after } := if_pos h

theorem executeBefore_of_nil (h : s.T.clearNear.1 = []) :
    s.executeBefore = TimerState.executeAfter { s with T := s.T.timerShift, now := s.now + 1 } := if_neg (not_not_intro h)

theorem Good.time_shift (h : s.Good start) : s.T.timerShift.time = (s.now + 1) % 2 ^ 32 := by
  obtain ⟨_, h2, _, _⟩ := holds_timerShift h.time_lt h.holds fun node hn => h.ahead hn
  rw [h2, h.time, Nat.mod_add_mod]

/-- What waits is for the new tick or for a later one. -/
theorem Good.place_shift (h : s.Good start) {node : TimerNode} (hn : node ∈ s.nodes) (hlt : s.now < node.due) :
    place s.T.timerShift.time node = .near (s.T.timerShift.time % 2 ^ 8) ↔ node.due = s.now + 1 := by
  have := h.due_lt node hn
  rw [place_eq_near_iff, h.expire node hn, h.time_shift]
  omega

/-- After the shift, the list of `near` is that of the new tick. -/
theorem Good.clearNear_shift (h : s.Good start) :
    s.T.timerShift.clearNear.1 = s.nodes.filter fun node => node.due = s.now + 1 := by
  obtain ⟨h1, _, _, _⟩ := holds_timerShift h.time_lt h.holds fun node hn => h.ahead hn
  rw [(table_clearNear _).1, h1, TimerState.waiting, List.filter_filter]
  refine List.filter_congr fun node hn => ?_
  by_cases hlt : s.now < node.due
  · simp only [hlt, h.place_shift hn hlt, decide_true, Bool.and_true]
  · have : node.due ≠ s.now + 1 := by omega
    simp [hlt, this]

/-- What is not in this list waits for a later tick. -/
theorem Good.waiting_shift (h : s.Good start) :
    (s.waiting.filter fun node => place s.T.timerShift.time node ≠ .near (s.T.timerShift.time % 2 ^ 8)) =
      s.nodes.filter fun node => s.now + 1 < node.due := by
  rw [TimerState.waiting, List.filter_filter]
  refine List.filter_congr fun node hn => ?_
  by_cases hlt : s.now < node.due
  · have hiff : s.now + 1 < node.due ↔ ¬node.due = s.now + 1 := by omega
    simp only [hlt, ne_eq, h.place_shift hn hlt, decide_true, Bool.and_true, hiff]
  · have : ¬s.now + 1 < node.due := by omega
    simp [hlt, this]

/-- The new tick begins with the messages of its list. -/
theorem Good.executeAfter_shift (h : s.Good start) (hi : s.phase = .idle) (hl : 0 < s.left) :
    (TimerState.executeAfter { s with T := s.T.timerShift, now := s.now + 1 }).Good start := by
  obtain ⟨h1, _, h3, _⟩ := holds_timerShift h.time_lt h.holds fun node hn => h.ahead hn
  have hlist := h.clearNear_shift
  have hclear := h1.clear (.near (s.T.timerShift.time % 2 ^ 8))
  rw [h.waiting_shift] at hclear
  have hlt (node : TimerNode) (hn : node ∈ s.nodes) : node.due < s.now + 1 + 2 ^ 31 := by
    have := h.due_lt node hn
    omega
  have hsent : s.answers ++ (s.T.timerShift.clearNear.1.map fun node => (s.now + 1, node.event)) =
      TimerState.answers { s with T := s.T.timerShift, now := s.now + 1 } := by
    rw [hlist]
    unfold TimerState.answers
    rw [List.range_succ (n := s.now + 1), List.flatMap_append]
    simp
  have hpushed : s.pushed = s.answers := by
    rw [← h.sent, h.idle hi, List.map_nil, List.append_nil]
  have hclock := h.clock
  rw [hi, if_neg (by simp), Nat.add_zero] at hclock
  by_cases hnil : s.T.timerShift.clearNear.1 = []
  · rw [executeAfter_of_nil hnil]
    refine ⟨h.time_shift, ?_, h.expire, hlt, ?_, fun _ => h.idle hi, by simp, ?_, by simp⟩
    · rw [hnil, eq_comm] at hlist
      have := (table_clearNear s.T.timerShift).1
      rw [hnil] at this
      rwa [this, Function.update_eq_self] at hclear
    · rw [hnil, List.map_nil, List.append_nil, ← hpushed] at hsent
      refine Eq.trans ?_ hsent
      show s.pushed ++ s.current.map _ = s.pushed
      rw [h.idle hi, List.map_nil, List.append_nil]
    · show s.T.timerShift.current + 0 = start + (s.now + 1) + (s.left - 1)
      rw [h3, hclock]
      omega
  · rw [executeAfter_of_ne_nil hnil]
    refine ⟨h.time_shift, ?_, h.expire, hlt, ?_, by simp, by simp, ?_, fun _ => hl⟩
    · rw [(table_clearNear _).2]
      exact hclear
    · exact (congrArg (· ++ _) hpushed).trans hsent
    · show s.T.timerShift.current + 1 = start + (s.now + 1) + s.left
      rw [h3, hclock]
      omega

/-- The thread takes the lock again after the last message of a tick. -/
theorem Good.executeAfter (h : s.Good start) (ha : s.phase = .after) (hc : s.current = []) : s.executeAfter.Good start := by
  have hl := h.left_pos ha
  have hclock := h.clock
  rw [if_pos ha] at hclock
  rw [executeAfter_of_nil h.clearNear_eq]
  refine ⟨h.time, h.holds, h.expire, h.due_lt, h.sent, fun _ => hc, by simp, ?_, by simp⟩
  show s.T.current + 0 = start + s.now + (s.left - 1)
  omega

/-- The thread takes the lock for a new turn. -/
theorem Good.executeBefore (h : s.Good start) (hi : s.phase = .idle) (hl : 0 < s.left) : s.executeBefore.Good start := by
  rw [executeBefore_of_nil h.clearNear_eq]
  exact h.executeAfter_shift hi hl

/-- Every label keeps the invariant. -/
theorem Good.step (s : TimerState) (l : TimerLabel) (s' : TimerState) (h : s.Good start) (_ : True)
    (hs : timerStep s l = some s') :
    s'.Good start := by
  cases l with
  | timeout handle time session =>
    obtain rfl := Option.some.inj hs
    exact h.skynetTimeout handle time session
  | updatetime cp =>
    rw [timerStep] at hs
    split at hs
    · rename_i hg
      obtain rfl := Option.some.inj hs
      exact h.skynetUpdatetime hg.1 hg.2 cp
    · cases hs
  | lock =>
    rw [timerStep] at hs
    split at hs
    · rename_i hc
      split at hs
      · rename_i hp
        split at hs
        · cases hs
        · rename_i hl
          obtain rfl := Option.some.inj hs
          exact h.executeBefore hp (Nat.pos_of_ne_zero hl)
      · rename_i hp
        exact absurd hp h.not_before
      · rename_i hp
        obtain rfl := Option.some.inj hs
        exact h.executeAfter hp hc
    · cases hs
  | push =>
    rw [timerStep] at hs
    split at hs
    · cases hs
    · rename_i node current hc
      obtain rfl := Option.some.inj hs
      exact h.push hc

end TimerState

/-- In every run of the timer thread and of the threads that ask for timeouts, the messages sent, with those of the list
being gone through, are the messages of the ticks up to the present one, in their order; outside `timer_update` all of them
have been sent, and the time of the services is behind by the turns that are left. -/
theorem timeouts_in_order (current currentPoint : Nat) (is : List TimerLabel) (s : TimerState)
    (h : exec timerStep (TimerState.init current currentPoint) is = some s) :
    s.pushed ++ s.current.map (fun node => (s.now, node.event)) = s.answers ∧
      (s.phase = .idle → s.pushed = s.answers ∧ s.T.current = current + s.now + s.left) := by
  have hg := exec_invariant TimerState.Good.step is _ s (TimerState.good_init current currentPoint)
    (meets_of_forall (fun _ _ => trivial) is _) h
  refine ⟨hg.sent, fun hi => ?_⟩
  have hs := hg.sent
  have hc := hg.clock
  rw [hg.idle hi, List.map_nil, List.append_nil] at hs
  rw [if_neg (by simp [hi]), Nat.add_zero] at hc
  exact ⟨hs, hc⟩

/-- Two timeouts for one tick and one for the tick before it, and a last one asked for while messages are being sent. -/
theorem timeouts_in_order_three_timeouts :
    ∃ s, exec timerStep (TimerState.init 5 100)
      [.timeout 1 2 7, .timeout 2 1 8, .timeout 3 2 9, .timeout 4 0 6, .updatetime 102, .lock,
        .timeout 5 3 4, .push, .lock, .lock, .push, .push, .lock] = some s ∧
      s.pushed = s.answers ∧ s.pushed = [(1, ⟨2, 8⟩), (2, ⟨1, 7⟩), (2, ⟨3, 9⟩)] ∧ s.T.current = 5 + s.now + s.left := by
  have hrun : (exec timerStep (TimerState.init 5 100)
    [.timeout 1 2 7, .timeout 2 1 8, .timeout 3 2 9, .timeout 4 0 6, .updatetime 102, .lock,
        .timeout 5 3 4, .push, .lock, .lock, .push, .push, .lock]).map (fun s => (s.phase, s.pushed)) =
      some (.idle, [(1, ⟨2, 8⟩), (2, ⟨1, 7⟩), (2, ⟨3, 9⟩)]) := by decide +kernel
  obtain ⟨s, hs, he⟩ := Option.map_eq_some_iff.1 hrun
  obtain ⟨hp, hq⟩ := Prod.mk.inj he
  obtain ⟨h1, h2⟩ := (timeouts_in_order 5 100 _ s hs).2 hp
  exact ⟨s, hs, h1, hq, h2⟩

end SasyServer.Skynet
