import SasyServer.CriticalSection

/-!
# Theorem: one thread at a time, in the order of the calls, and none is forgotten

The queue has three states: nobody uses it, a thread that has been woken has not been resumed, or
one thread is in it (`Inv`).
-/

namespace SasyServer.CriticalSection

/-- Where the threads are. -/
inductive Phase (s : State) : Prop where
  | free (hcurrent : s.currentThread = none) (href : s.ref = 0) (hwoken : s.woken = []) (hqueue : s.threadQueue = [])
    (hdepth : ∀ t, s.depth t = 0)
  | handed (c : Nat) (hcurrent : s.currentThread = some c) (href : s.ref = 0) (hwoken : s.woken = [c])
    (hdepth : ∀ t, s.depth t = 0)
  | inside (c : Nat) (hcurrent : s.currentThread = some c) (href : s.ref = s.depth c) (hpos : 0 < s.depth c)
    (hwoken : s.woken = [])
      (hdepth : ∀ t, t ≠ c → s.depth t = 0)

/-- The invariant: one of the three states, the current thread is not in the queue, and the calls from outside are those that
have been started, the thread that is woken and the queue. -/
structure Inv (s : State) : Prop where
  phase : Phase s
  nodup : s.threadQueue.Nodup
  notMem : ∀ c ∈ s.currentThread, c ∉ s.threadQueue
  order : s.entered ++ s.woken ++ s.threadQueue = s.asked
  failed : s.failed = false

theorem inv_init : Inv State.init := ⟨.free rfl rfl rfl rfl fun _ => rfl, List.nodup_nil, nofun, rfl, rfl⟩

section Steps

variable {s : State} {thread : Nat}

/-- A thread that can run is not the one that has been handed the queue. -/
theorem Inv.phase_of_running (h : Inv s) (hwoken : thread ∉ s.woken) (hthread : s.currentThread = some thread) :
    s.ref = s.depth thread ∧ 0 < s.depth thread ∧ s.woken = [] ∧ ∀ t, t ≠ thread → s.depth t = 0 := by
  cases h.phase with
  | free hcurrent =>
    rw [hthread] at hcurrent
    cases hcurrent
  | handed c hcurrent _ hw =>
    rw [hthread, Option.some.injEq] at hcurrent
    subst hcurrent
    exact absurd (hw ▸ List.mem_singleton_self thread) hwoken
  | inside c hcurrent href hpos hw hdepth =>
    rw [hthread, Option.some.injEq] at hcurrent
    subst hcurrent
    exact ⟨href, hpos, hw, hdepth⟩

/-- A thread that is not the current one is in no function. -/
theorem Inv.depth_eq_zero (h : Inv s) (hthread : s.currentThread ≠ some thread) : s.depth thread = 0 := by
  cases h.phase with
  | free _ _ _ _ hdepth => exact hdepth thread
  | handed _ _ _ _ hdepth => exact hdepth thread
  | inside c hcurrent _ _ _ hdepth => exact hdepth thread fun he => hthread (he ▸ hcurrent)

/-- A call of a queue that is in use by another thread. -/
theorem Inv.wait (h : Inv s) (hqueue : thread ∉ s.threadQueue) (hcurrent : s.currentThread ≠ none)
    (hthread : s.currentThread ≠ some thread) :
    Inv { s with asked := s.asked ++ [thread], threadQueue := s.threadQueue ++ [thread] } where
  phase := by
    cases h.phase with
    | free hnone => exact absurd hnone hcurrent
    | handed c hcurrent href hw hdepth => exact .handed c hcurrent href hw hdepth
    | inside c hcurrent href hpos hw hdepth => exact .inside c hcurrent href hpos hw hdepth
  nodup := by
    rw [List.nodup_append]
    refine ⟨h.nodup, List.nodup_singleton _, fun a ha b hb hab => hqueue ?_⟩
    rw [← List.mem_singleton.1 hb, ← hab]
    exact ha
  notMem := by
    intro c hc hmem
    rcases List.mem_append.1 hmem with hmem | hmem
    · exact h.notMem c hc hmem
    · exact hthread (List.mem_singleton.1 hmem ▸ hc)
  order := by
    dsimp only
    rw [← List.append_assoc, h.order]
  failed := h.failed

/-- A call of a queue that nobody uses. -/
theorem Inv.enterFree (h : Inv s) (hcurrent : s.currentThread = none) :
    Inv (enter { s with asked := s.asked ++ [thread] } thread) := by
  cases h.phase with
  | handed c hc => rw [hcurrent] at hc; cases hc
  | inside c hc => rw [hcurrent] at hc; cases hc
  | free _ href hw hqueue hdepth =>
    refine ⟨.inside thread rfl ?_ ?_ hw ?_, h.nodup, ?_, ?_, h.failed⟩
    · simp [enter, href, hdepth]
    · simp [enter]
    · intro t ht
      simp only [enter, Function.update_of_ne ht, hdepth]
    · intro c _ hmem
      rw [show (enter { s with asked := s.asked ++ [thread] } thread).threadQueue = s.threadQueue from rfl, hqueue] at hmem
      cases hmem
    · have horder := h.order
      rw [hw, hqueue, List.append_nil, List.append_nil] at horder
      simp only [enter, hdepth, if_true, hw, hqueue, List.append_nil, horder]

/-- A call from within. -/
theorem Inv.enterAgain (h : Inv s) (hwoken : thread ∉ s.woken) (hthread : s.currentThread = some thread) : Inv
    (enter s thread) := by
  obtain ⟨href, hpos, hw, hdepth⟩ := h.phase_of_running hwoken hthread
  refine ⟨.inside thread rfl ?_ ?_ hw ?_, h.nodup, fun c hc => h.notMem c (hthread.trans hc), ?_, h.failed⟩
  · simp [enter, href]
  · simp [enter]
  · intro t ht
    simp only [enter, Function.update_of_ne ht, hdepth t ht]
  · rw [show (enter s thread).entered = s.entered from if_neg (Nat.ne_of_gt hpos)]
    exact h.order

/-- A thread calls: it enters, or is put into the queue. -/
theorem Inv.call (h : Inv s) (hqueue : thread ∉ s.threadQueue) (hwoken : thread ∉ s.woken) : Inv (call s thread) := by
  unfold CriticalSection.call
  by_cases hcurrent : s.currentThread = none
  · have hdepth : s.depth thread = 0 := h.depth_eq_zero (by rw [hcurrent]; exact nofun)
    simp only [hdepth, if_true, hcurrent, ne_eq, not_true_eq_false, false_and, if_false]
    exact h.enterFree hcurrent
  · by_cases hthread : s.currentThread = some thread
    · obtain ⟨-, hpos, -⟩ := h.phase_of_running hwoken hthread
      simp only [Nat.ne_of_gt hpos, if_false, hthread, ne_eq, not_true_eq_false, and_false]
      exact h.enterAgain hwoken hthread
    · simp only [h.depth_eq_zero hthread, if_true, ne_eq, hcurrent, hthread, not_false_eq_true, and_self]
      exact h.wait hqueue hcurrent hthread

/-- The assertion after `skynet.wait` holds, and the thread that has been handed the queue enters. -/
theorem Inv.resume (h : Inv s) (hwoken : thread ∈ s.woken) : s.ref = 0 ∧ Inv (resume s thread) := by
  cases h.phase with
  | free _ _ hw => rw [hw] at hwoken; cases hwoken
  | inside _ _ _ _ hw => rw [hw] at hwoken; cases hwoken
  | handed c hcurrent href hw hdepth =>
    obtain rfl : thread = c := List.mem_singleton.1 (hw ▸ hwoken)
    have hempty : s.woken.erase thread = [] := by rw [hw, List.erase_cons_head]
    refine ⟨href, ?_⟩
    unfold CriticalSection.resume
    dsimp only
    rw [if_pos href, hempty]
    refine ⟨.inside thread rfl ?_ ?_ rfl ?_, h.nodup, fun c hc => h.notMem c (hcurrent.trans hc), ?_, h.failed⟩
    · simp [enter, href, hdepth]
    · simp [enter]
    · intro t ht
      simp only [enter, Function.update_of_ne ht, hdepth]
    · have horder := h.order
      rw [hw] at horder
      simp only [enter, hdepth, if_true, List.append_nil, horder]

/-- A thread leaves: it has entered more than once, or the next of the queue is woken. -/
theorem Inv.xpcallRet (h : Inv s) (hwoken : thread ∉ s.woken) (hpos : s.depth thread ≠ 0) :
    Inv (xpcallRet s thread) := by
  have hthread : s.currentThread = some thread := by
    by_contra hne
    exact hpos (h.depth_eq_zero hne)
  obtain ⟨href, -, hw, hdepth⟩ := h.phase_of_running hwoken hthread
  have hother : ∀ t, t ≠ thread → Function.update s.depth thread (s.depth thread - 1) t = 0 := fun t ht => by
    rw [Function.update_of_ne ht, hdepth t ht]
  unfold CriticalSection.xpcallRet
  dsimp only
  by_cases hlast : s.ref - 1 = 0
  · -- the last call of the thread returns, and the queue is handed on
    rw [if_pos hlast]
    have hnone : ∀ t, Function.update s.depth thread (s.depth thread - 1) t = 0 := by
      intro t
      by_cases ht : t = thread
      · rw [ht, Function.update_self]
        omega
      · exact hother t ht
    cases hthreads : s.threadQueue with
    | nil =>
      have horder := h.order
      rw [hthreads] at horder
      refine ⟨.free rfl hlast (by simp [hw]) rfl hnone, List.nodup_nil, nofun, ?_, h.failed⟩
      simpa [hw] using horder
    | cons next rest =>
      have hnodup := h.nodup
      rw [hthreads, List.nodup_cons] at hnodup
      have horder := h.order
      rw [hthreads] at horder
      refine ⟨.handed next rfl hlast (by simp [hw]) hnone, hnodup.2, ?_, ?_, h.failed⟩
      · intro c hc
        rw [Option.mem_def, List.head?_cons, Option.some.injEq] at hc
        exact hc ▸ hnodup.1
      · simpa [hw] using horder
  · rw [if_neg hlast]
    refine ⟨.inside thread hthread ?_ ?_ hw hother, h.nodup, h.notMem, h.order, h.failed⟩
    · dsimp only
      rw [Function.update_self]
      omega
    · dsimp only
      rw [Function.update_self]
      omega

end Steps

/-- One label keeps the invariant. -/
theorem Inv.step {s s' : State} (h : Inv s) {l : Label} (hs : step s l = some s') : Inv s' := by
  cases l with
  | call thread =>
    simp only [CriticalSection.step, Option.ite_none_left_eq_some, Option.some.injEq, not_or] at hs
    obtain ⟨⟨hqueue, hwoken⟩, rfl⟩ := hs
    exact h.call hqueue hwoken
  | resume thread =>
    simp only [CriticalSection.step, Option.ite_none_right_eq_some, Option.some.injEq] at hs
    obtain ⟨hwoken, rfl⟩ := hs
    exact (h.resume hwoken).2
  | ret thread =>
    simp only [CriticalSection.step, Option.ite_none_left_eq_some, Option.some.injEq, not_or] at hs
    obtain ⟨⟨-, hwoken, hpos⟩, rfl⟩ := hs
    exact h.xpcallRet hwoken hpos

/-- Every run keeps the invariant. -/
theorem inv_exec {ls : List Label} {s : State} (h : Steps.exec CriticalSection.step State.init ls = some s) : Inv s :=
  Steps.exec_invariant (C := fun _ _ => True) (fun _ _ _ hi _ hs => hi.step hs) ls _ _ inv_init
    (Steps.meets_of_forall (fun _ _ => trivial) ls _) h

/-- After any run: no assertion has failed, two threads are never in functions of the queue at once, and the
threads have entered in the order of their calls, but for the one that has been woken and those in the queue,
which come next in this order. -/
theorem one_at_a_time {ls : List Label} {s : State} (h : Steps.exec CriticalSection.step State.init ls = some s) :
    s.failed = false ∧ (∀ t u, 0 < s.depth t → 0 < s.depth u → t = u) ∧ s.entered ++ s.woken ++ s.threadQueue = s.asked ∧
      s.threadQueue.Nodup := by
  have hinv := inv_exec h
  refine ⟨hinv.failed, ?_, hinv.order, hinv.nodup⟩
  intro t u ht hu
  have hcurrent : ∀ v, 0 < s.depth v → s.currentThread = some v := fun v hv => by
    by_contra hne
    exact Nat.ne_of_gt hv (hinv.depth_eq_zero hne)
  exact Option.some.inj ((hcurrent t ht).symm.trans (hcurrent u hu))

/-- One thread is in the queue and calls it again, and two others come meanwhile. -/
theorem one_at_a_time_three_threads :
    ∃ s, Steps.exec step State.init [.call 1, .call 2, .call 1, .ret 1, .call 3, .ret 1, .call 1, .resume 2] = some s ∧
      s.entered ++ s.woken ++ s.threadQueue = [1, 2, 3, 1] ∧ ∀ t u, 0 < s.depth t → 0 < s.depth u → t = u :=
  have h := @one_at_a_time [.call 1, .call 2, .call 1, .ret 1, .call 3, .ret 1, .call 1, .resume 2] _ rfl
  ⟨_, rfl, h.2.2.1, h.2.1⟩

/-! ## No thread waits in vain -/

/-- The functions that are running return, and the threads that are woken are resumed. Nobody calls the queue. -/
def Label.finishes : Label → Bool
  | .call _ => false
  | .resume _ | .ret _ => true

/-- A function that is running can return. -/
theorem Inv.step_ret {s : State} (h : Inv s) {c : Nat} (hpos : 0 < s.depth c) :
    CriticalSection.step s (.ret c) = some (CriticalSection.xpcallRet s c) ∧ s.ref = s.depth c ∧ s.woken = [] := by
  have hcurrent : s.currentThread = some c := by
    by_contra hne
    exact Nat.ne_of_gt hpos (h.depth_eq_zero hne)
  cases h.phase with
  | free _ _ _ _ hdepth => exact absurd (hdepth c) (Nat.ne_of_gt hpos)
  | handed _ _ _ _ hdepth => exact absurd (hdepth c) (Nat.ne_of_gt hpos)
  | inside c' hcurrent' href _ hw _ =>
    rw [hcurrent, Option.some.injEq] at hcurrent'
    subst hcurrent'
    refine ⟨?_, href, hw⟩
    rw [CriticalSection.step, if_neg]
    rintro (hmem | hmem | hzero)
    · exact h.notMem c hcurrent hmem
    · rw [hw] at hmem
      cases hmem
    · omega

/-- The functions of the current thread return, and the queue is handed on. -/
theorem exists_rets {c : Nat} : ∀ (n : Nat) (s : State), Inv s → s.depth c = n + 1 →
    ∃ ls s', (∀ l ∈ ls, l.finishes = true) ∧ Steps.exec step s ls = some s' ∧ Inv s' ∧ s'.threadQueue = s.threadQueue.tail ∧
      s'.woken = s.threadQueue.head?.toList := by
  intro n
  induction n with
  | zero =>
    intro s h hdepth
    obtain ⟨hstep, href, hw⟩ := h.step_ret (c := c) (by omega)
    have hlast : s.ref - 1 = 0 := by omega
    have hret : xpcallRet s c = { s with
        ref := s.ref - 1
        depth := Function.update s.depth c (s.depth c - 1)
        currentThread := s.threadQueue.head?
        threadQueue := s.threadQueue.tail
        woken := s.woken ++ s.threadQueue.head?.toList } := if_pos hlast
    refine ⟨[.ret c], xpcallRet s c, by simp [Label.finishes], ?_, h.step hstep, ?_, ?_⟩
    · rw [Steps.exec_cons, hstep]
      rfl
    · rw [hret]
    · rw [hret, hw]
      rfl
  | succ n ih =>
    intro s h hdepth
    obtain ⟨hstep, href, hw⟩ := h.step_ret (c := c) (by omega)
    have hlast : ¬s.ref - 1 = 0 := by omega
    have hret : xpcallRet s c = { s with ref := s.ref - 1, depth := Function.update s.depth c (s.depth c - 1) } :=
      if_neg hlast
    obtain ⟨ls, s', hls, hexec, hinv, hqueue, hwoken⟩ := ih (xpcallRet s c) (h.step hstep)
      (by rw [hret]; dsimp only; rw [Function.update_self, hdepth]; rfl)
    refine ⟨.ret c :: ls, s', List.forall_mem_cons.2 ⟨rfl, hls⟩, ?_, hinv, ?_, ?_⟩
    · rw [Steps.exec_cons, hstep]
      exact hexec
    · rw [hqueue, hret]
    · rw [hwoken, hret]

/-- The thread that has been woken enters. -/
theorem Inv.enters {s : State} (h : Inv s) {t : Nat} (ht : t ∈ s.woken) :
    ∃ s', Steps.exec CriticalSection.step s [.resume t] = some s' ∧ Inv s' ∧ 0 < s'.depth t ∧
      s'.threadQueue = s.threadQueue := by
  have hresume := h.resume ht
  have henter : CriticalSection.resume s t = enter { s with woken := s.woken.erase t } t := if_pos hresume.1
  refine ⟨CriticalSection.resume s t, ?_, hresume.2, ?_, ?_⟩
  · rw [Steps.exec_cons, CriticalSection.step, if_pos ht]
    rfl
  · rw [henter]
    simp [enter]
  · rw [henter]
    rfl

/-- A thread that waits behind others enters after them. -/
theorem exists_enters {t : Nat} : ∀ (queue : List Nat) (s : State), Inv s → s.threadQueue = queue → t ∈ s.woken ++ queue →
    ∃ ls s', (∀ l ∈ ls, l.finishes = true) ∧ Steps.exec step s ls = some s' ∧ 0 < s'.depth t := by
  intro queue
  induction queue with
  | nil =>
    intro s h hqueue ht
    rw [List.append_nil] at ht
    obtain ⟨s', hexec, -, hpos, -⟩ := h.enters ht
    exact ⟨[.resume t], s', by simp [Label.finishes], hexec, hpos⟩
  | cons next queue ih =>
    intro s h hqueue ht
    -- whoever has been woken enters first, and then the functions of the current thread return
    have hinside : ∃ ls s' c, (∀ l ∈ ls, l.finishes = true) ∧ Steps.exec step s ls = some s' ∧ Inv s' ∧
      s'.threadQueue = s.threadQueue ∧
        0 < s'.depth c ∧ (t ∈ s.woken → 0 < s'.depth t) := by
      cases h.phase with
      | free _ _ _ hnil => rw [hqueue] at hnil; cases hnil
      | handed c _ _ hw _ =>
        obtain ⟨s', hexec, hinv, hpos, hsame⟩ := h.enters (t := c) (by rw [hw]; exact List.mem_singleton_self c)
        refine ⟨[.resume c], s', c, by simp [Label.finishes], hexec, hinv, hsame, hpos, fun hmem => ?_⟩
        rw [hw, List.mem_singleton] at hmem
        exact hmem ▸ hpos
      | inside c _ _ hpos hw _ =>
        refine ⟨[], s, c, nofun, rfl, h, rfl, hpos, fun hmem => ?_⟩
        rw [hw] at hmem
        cases hmem
    obtain ⟨ls, s₁, c, hls, hexec, hinv, hsame, hpos, hentered⟩ := hinside
    by_cases hmem : t ∈ s.woken
    · exact ⟨ls, s₁, hls, hexec, hentered hmem⟩
    · obtain ⟨n, hn⟩ := Nat.exists_eq_succ_of_ne_zero (Nat.ne_of_gt hpos)
      obtain ⟨rets, s₂, hrets, hexec₂, hinv₂, hqueue₂, hwoken₂⟩ := exists_rets n s₁ hinv hn
      rw [hsame, hqueue] at hqueue₂ hwoken₂
      obtain ⟨ls₃, s₃, hls₃, hexec₃, hpos₃⟩ := ih s₂ hinv₂ hqueue₂ (by
        rw [hwoken₂]
        exact (List.mem_append.1 ht).resolve_left hmem)
      refine ⟨ls ++ (rets ++ ls₃), s₃, ?_, ?_, hpos₃⟩
      · intro l hl
        rcases List.mem_append.1 hl with hl | hl
        · exact hls l hl
        · exact (List.mem_append.1 hl).elim (hrets l) (hls₃ l)
      · rw [Steps.exec_append, hexec, Option.bind_some, Steps.exec_append, hexec₂, Option.bind_some, hexec₃]

/-- After any run: whoever waits can still enter, by returns of the functions that are running and resumptions of
threads that have been woken alone; and when no function is running and no thread has been woken, nobody waits
and the queue is free. -/
theorem nobody_is_forgotten {ls : List Label} {s : State} (h : Steps.exec CriticalSection.step State.init ls = some s) :
    (∀ t ∈ s.woken ++ s.threadQueue, ∃ more s', (∀ l ∈ more, l.finishes = true) ∧ Steps.exec step s more = some s' ∧
      0 < s'.depth t) ∧
      ((∀ t, s.depth t = 0) → s.woken = [] → s.threadQueue = [] ∧ s.currentThread = none ∧ s.ref = 0) := by
  have hinv := inv_exec h
  refine ⟨fun t ht => exists_enters s.threadQueue s hinv rfl ht, fun hdepth hw => ?_⟩
  cases hinv.phase with
  | free hcurrent href _ hqueue _ => exact ⟨hqueue, hcurrent, href⟩
  | handed c _ _ hw' => rw [hw] at hw'; cases hw'
  | inside c _ _ hpos => exact absurd (hdepth c) (Nat.ne_of_gt hpos)

/-- Two threads wait behind a third. -/
theorem nobody_is_forgotten_two_threads :
    ∃ s, Steps.exec step State.init [.call 1, .call 2, .call 3] = some s ∧
      ∀ t ∈ [2, 3], ∃ more s', (∀ l ∈ more, l.finishes = true) ∧ Steps.exec step s more = some s' ∧ 0 < s'.depth t :=
  ⟨_, rfl, (@nobody_is_forgotten [.call 1, .call 2, .call 3] _ rfl).1⟩

end SasyServer.CriticalSection
