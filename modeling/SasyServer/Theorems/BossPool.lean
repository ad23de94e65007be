import Mathlib.Tactic.Ring
import SasyServer.Lib.Waiting
import SasyServer.WorldBoss.Pool

/-!
# Theorem: what the missed shots contribute to the pool of the world boss, and the exact condition

Each function moves an amount to the next stage, but `cleanUp` sets the pool of the table to zero when its game is concluded,
with whatever the last tick of the timer has left in it.
-/

namespace SasyServer.WorldBoss

variable {n : Nat} {serverID : Nat} {s s' : Pools n}

/-- What is in the tables, on its way to the table manager and with the table manager. -/
def Pools.held (s : Pools n) : ℚ≥0 := ∑ i, s.tablePool i + s.messages.sum + s.localPool

/-- The amounts are all there, but for what was dropped. -/
def Balanced (s : Pools n) (dropped : ℚ≥0) : Prop := s.contributed = s.passed + s.held + dropped

/-- What a step drops: the pool of a table whose game is concluded. -/
def dropped (serverID : Nat) (s : Pools n) : PoolLabel n → ℚ≥0
  | .world (.gameConclude server tableID) =>
    if server = serverID then ∑ i : Fin n, if i = tableID then s.tablePool i else 0 else 0
  | _ => 0

/-- A game is concluded only when its table has nothing in its pool. -/
def concludesEmpty (serverID : Nat) (s : Pools n) : PoolLabel n → Prop
  | .world (.gameConclude server tableID) => server = serverID → ∀ i : Fin n, i = tableID → s.tablePool i = 0
  | _ => True

/-- Whether the pools are empty is decided table by table. -/
instance concludesEmpty.decidable (serverID : Nat) (s : Pools n) : ∀ l, Decidable (concludesEmpty serverID s l)
  | .world l =>
    match l with
    | .gameConclude _ _ => inferInstanceAs (Decidable (_ → ∀ _ : Fin n, _ → _))
    | .ls _ | .forwardKill _ | .killWorldBoss _ _ | .notifyWorldBossStartOrEnd _ _ | .lose _ | .managerInit _ _
    | .tableStateChange _ _ _ | .uploaded _ _ | .getTableStatus _ _ | .receive _ | .flushWorldBoss _ _ | .clearTrace _ _
    | .catchFish _ _ _ _ | .catchEnd _ _ _ => .isTrue trivial
  | .missedShot _ _ | .uploadTimer _ | .addWorldBossLocalPool _ | .uploadWorldBossPoolAdd | .addWorldBossPoolScore _ _ =>
    .isTrue trivial

theorem dropped_eq_zero_iff (serverID : Nat) (s : Pools n) (l : PoolLabel n) :
    dropped serverID s l = 0 ↔ concludesEmpty serverID s l := by
  unfold dropped concludesEmpty
  split
  · simp [Finset.sum_eq_zero_iff]
  · simp

/-- The sum over the tables, when the pool of one table changes. -/
theorem sum_update (f : Fin n → ℚ≥0) (i : Fin n) (x : ℚ≥0) : ∑ j, Function.update f i x j + f i = ∑ j, f j + x := by
  rw [Finset.sum_update_of_mem (Finset.mem_univ i), ← Finset.add_sum_erase _ f (Finset.mem_univ i),
    Finset.sdiff_singleton_eq_erase]
  ring

/-- A missed shot comes to the pool of its table. -/
theorem Balanced.missedShot {m : ℚ≥0} (h : Balanced s m) (tableID : Fin n) (multiple : Nat) :
    Balanced (s.missedShot serverID tableID multiple) m := by
  unfold Pools.missedShot
  split
  · exact h
  · unfold Balanced Pools.held at h ⊢
    have hsum := sum_update s.tablePool tableID (s.tablePool tableID + multiple * (4 / 100))
    dsimp only
    have hnew : ∑ i, Function.update s.tablePool tableID (s.tablePool tableID + multiple * (4 / 100)) i =
        ∑ i, s.tablePool i + multiple * (4 / 100) := by
      refine add_right_cancel (b := s.tablePool tableID) ?_
      rw [hsum]
      ring
    rw [hnew, h]
    ring

/-- The pool of a table goes into a message. -/
theorem Balanced.onTimerUploadWorldBossPollScore {m : ℚ≥0} (h : Balanced s m) (tableID : Fin n) :
    Balanced (s.onTimerUploadWorldBossPollScore serverID tableID) m := by
  unfold Pools.onTimerUploadWorldBossPollScore
  split
  · exact h
  · split
    · unfold Balanced Pools.held at h ⊢
      have hsum := sum_update s.tablePool tableID 0
      rw [add_zero] at hsum
      rw [h, ← hsum, List.sum_append, List.sum_singleton]
      ring
    · exact h

/-- The message comes to the pool of the server. -/
theorem Balanced.addWorldBossLocalPool {m : ℚ≥0} (h : Balanced s m) {k : Nat} {num : ℚ≥0} (hk : s.messages[k]? = some num) :
    Balanced ({ s with messages := s.messages.eraseIdx k }.addWorldBossLocalPool num) m := by
  unfold Balanced Pools.held at h ⊢
  have hsum := (Waiting.perm_cons_eraseIdx hk).sum_eq
  rw [List.sum_cons] at hsum
  rw [hsum] at h
  simp only [Pools.addWorldBossLocalPool]
  rw [h]
  ring

/-- The pool of the server is passed to the login server. -/
theorem Balanced.uploadWorldBossPoolAdd {m : ℚ≥0} (h : Balanced s m) : Balanced (s.uploadWorldBossPoolAdd serverID) m := by
  unfold Pools.uploadWorldBossPoolAdd
  split
  · exact h
  · split
    · unfold Balanced Pools.held at h ⊢
      rw [h]
      ring
    · exact h

/-- A conclusion drops the pool of the table. -/
theorem Balanced.cleanUp {m : ℚ≥0} (h : Balanced s m) (tableID : Nat) :
    Balanced (s.cleanUp tableID) (m + ∑ i : Fin n, if i = tableID then s.tablePool i else 0) := by
  have hsplit : ∑ i, s.tablePool i =
      ∑ i : Fin n, (if i = tableID then 0 else s.tablePool i) + ∑ i : Fin n, if i = tableID then s.tablePool i else 0 := by
    rw [← Finset.sum_add_distrib]
    refine Finset.sum_congr rfl fun i _ => ?_
    split <;> simp
  unfold Balanced Pools.held at h ⊢
  simp only [Pools.cleanUp]
  rw [h, hsplit]
  ring

/-- A step of the world changes no amount. -/
theorem Balanced.setWorld {m : ℚ≥0} (h : Balanced s m) (w : World) : Balanced { s with world := w } m := h

/-- One label. -/
theorem Balanced.step {m : ℚ≥0} (h : Balanced s m) {l : PoolLabel n} (hs : poolStep serverID s l = some s') :
    Balanced s' (m + dropped serverID s l) := by
  cases l with
  | world l =>
    simp only [poolStep, Option.map_eq_some_iff] at hs
    obtain ⟨w, _, rfl⟩ := hs
    cases l with
    | gameConclude server tableID =>
      simp only [dropped]
      split
      · exact (h.setWorld w).cleanUp tableID
      · rw [add_zero]
        exact h.setWorld w
    | _ =>
      rw [show dropped serverID s _ = 0 from rfl, add_zero]
      exact h.setWorld w
  | missedShot tableID multiple =>
    cases hs
    rw [show dropped serverID s _ = 0 from rfl, add_zero]
    exact h.missedShot tableID multiple
  | uploadTimer tableID =>
    cases hs
    rw [show dropped serverID s _ = 0 from rfl, add_zero]
    exact h.onTimerUploadWorldBossPollScore tableID
  | addWorldBossLocalPool k =>
    simp only [poolStep, Option.map_eq_some_iff] at hs
    obtain ⟨num, hk, rfl⟩ := hs
    rw [show dropped serverID s _ = 0 from rfl, add_zero]
    exact h.addWorldBossLocalPool hk
  | uploadWorldBossPoolAdd =>
    cases hs
    rw [show dropped serverID s _ = 0 from rfl, add_zero]
    exact h.uploadWorldBossPoolAdd
  | addWorldBossPoolScore k c =>
    simp only [poolStep, Option.bind_eq_some_iff, Option.map_eq_some_iff] at hs
    obtain ⟨score, _, w, _, rfl⟩ := hs
    rw [show dropped serverID s _ = 0 from rfl, add_zero]
    exact h

theorem balanced_init (n : Nat) (w : World) : Balanced (.init n w) 0 := by
  simp [Balanced, Pools.held, Pools.init]

/-- In every run of a game server with its tables, the contributions are what was passed to the login server and what is
held, if and only if each game that was concluded left nothing in the pool of its table. -/
theorem contributed_iff (serverID n : Nat) (w : World) (labels : List (PoolLabel n)) (t : Pools n)
    (hrun : Steps.exec (poolStep serverID) (.init n w) labels = some t) :
    t.contributed = t.passed + (∑ i, t.tablePool i + t.messages.sum + t.localPool) ↔
      Steps.Meets (poolStep serverID) (concludesEmpty serverID) (.init n w) labels := by
  have hbalance : Balanced t (0 + Steps.total (poolStep serverID) (dropped serverID) (.init n w) labels) :=
    Steps.exec_total (I := Balanced) (C := fun _ _ => True) (fun _ _ _ _ h _ hs => h.step hs) labels _ t 0
      (balanced_init n w) (Steps.meets_of_forall (fun _ _ => trivial) labels _) hrun
  have hmeets : Steps.total (poolStep serverID) (dropped serverID) (.init n w) labels = 0 ↔
      Steps.Meets (poolStep serverID) (concludesEmpty serverID) (.init n w) labels := by
    rw [Steps.total_eq_zero_iff]
    simp only [dropped_eq_zero_iff]
  rw [← hmeets]
  unfold Balanced Pools.held at hbalance
  rw [zero_add] at hbalance
  rw [hbalance, add_eq_left]

/-- A shot is passed on, and the game is concluded after it. -/
theorem contributed_iff_upload :
    ∃ t, Steps.exec (poolStep 10) (.init 2 .init) [.missedShot 0 100, .missedShot 1 50, .uploadTimer 0, .uploadTimer 1,
      .addWorldBossLocalPool 1, .world (.gameConclude 10 1), .uploadWorldBossPoolAdd] = some t ∧
      t.contributed = t.passed + (∑ i, t.tablePool i + t.messages.sum + t.localPool) := by
  have hsome : (Steps.exec (poolStep 10) (.init 2 .init)
    [.missedShot 0 100, .missedShot 1 50, .uploadTimer 0, .uploadTimer 1,
      .addWorldBossLocalPool 1, .world (.gameConclude 10 1), .uploadWorldBossPoolAdd]).isSome := by decide +kernel
  obtain ⟨t, ht⟩ := Option.isSome_iff_exists.1 hsome
  exact ⟨t, ht, (contributed_iff 10 2 .init [.missedShot 0 100, .missedShot 1 50, .uploadTimer 0, .uploadTimer 1,
    .addWorldBossLocalPool 1, .world (.gameConclude 10 1), .uploadWorldBossPoolAdd] t ht).2 (by decide +kernel)⟩

/-- A player misses and leaves the table, whose game is concluded before the timer ticks. -/
theorem contribution_of_concluded_game :
    ¬∀ (serverID n : Nat) (w : World) (labels : List (PoolLabel n)) (t : Pools n),
      Steps.exec (poolStep serverID) (.init n w) labels = some t →
        t.contributed = t.passed + (∑ i, t.tablePool i + t.messages.sum + t.localPool) := by
  intro h
  have hsum := h 10 1 .init [.missedShot 0 100, .world (.gameConclude 10 0)] _ rfl
  exact absurd hsum (by decide +kernel)

end SasyServer.WorldBoss
