import Mathlib.Tactic.IntervalCases
import SasyServer.Lib.Buckets
import SasyServer.Skynet.Timer

/-!
# The places of the timer

A list of the timer holds the nodes that `add_node` would put there now: `place` says which list that is, from the tick of
the node and the time of the timer. The places of the nodes change when the time goes over the end of a block of ticks, and
then `timer_shift` moves the one list concerned.
-/

namespace SasyServer.Skynet

/-- A list of the timer. -/
inductive TimerPlace where
  | near (idx : Nat)
  | level (i idx : Nat)
  deriving DecidableEq

/-- How far from `near` a list is. -/
def TimerPlace.rank : TimerPlace → Nat
  | .near _ => 0
  | .level i _ => i + 1

namespace Timer

/-- The lists by their places. -/
def table (T : Timer) : TimerPlace → List TimerNode
  | .near idx => T.near idx
  | .level i idx => T.t i idx

/-- The list that a node is put into at a time. -/
def place (currentTime : Nat) (node : TimerNode) : TimerPlace :=
  if node.expire ||| timeNearMask = currentTime ||| timeNearMask then .near (node.expire &&& timeNearMask)
  else
    let i := findLevel node.expire currentTime (timeNear <<< timeLevelShift) 0 3
    .level i ((node.expire >>> (timeNearShift + i * timeLevelShift)) &&& timeLevelMask)

/-- Two numbers that agree when their last bits are set agree in the others. -/
theorem or_mask_eq_iff (a b k : Nat) : a ||| (2 ^ k - 1) = b ||| (2 ^ k - 1) ↔ a / 2 ^ k = b / 2 ^ k := by
  have key (a : Nat) : a ||| (2 ^ k - 1) = 2 ^ k * (a / 2 ^ k) + (2 ^ k - 1) := by
    rw [Nat.two_pow_add_eq_or_of_lt (Nat.sub_lt (Nat.two_pow_pos k) Nat.one_pos)]
    refine Nat.eq_of_testBit_eq fun i => ?_
    rw [Nat.testBit_or, Nat.testBit_or, Nat.testBit_two_pow_sub_one, Nat.testBit_two_pow_mul, Nat.testBit_div_two_pow]
    by_cases h : i < k
    · simp [h]
    · simp [h, Nat.le_of_not_lt h, Nat.sub_add_cancel (Nat.le_of_not_lt h)]
  rw [key, key, Nat.add_right_cancel_iff]
  exact Nat.mul_right_inj (Nat.pos_iff_ne_zero.1 (Nat.two_pow_pos k))

/-- The place, by the blocks of ticks. -/
theorem place_eq (c : Nat) (node : TimerNode) :
    place c node =
      if node.expire / 2 ^ 8 = c / 2 ^ 8 then .near (node.expire % 2 ^ 8)
      else if node.expire / 2 ^ 14 = c / 2 ^ 14 then .level 0 (node.expire / 2 ^ 8 % 2 ^ 6)
      else if node.expire / 2 ^ 20 = c / 2 ^ 20 then .level 1 (node.expire / 2 ^ 14 % 2 ^ 6)
      else if node.expire / 2 ^ 26 = c / 2 ^ 26 then .level 2 (node.expire / 2 ^ 20 % 2 ^ 6)
      else .level 3 (node.expire / 2 ^ 26 % 2 ^ 6) := by
  have h8 := or_mask_eq_iff node.expire c 8
  have h14 := or_mask_eq_iff node.expire c 14
  have h20 := or_mask_eq_iff node.expire c 20
  have h26 := or_mask_eq_iff node.expire c 26
  have m8 := Nat.and_two_pow_sub_one_eq_mod node.expire 8
  have m6 (x : Nat) := Nat.and_two_pow_sub_one_eq_mod x 6
  simp only [Nat.reducePow, Nat.reduceSub] at h8 h14 h20 h26 m8 m6 ⊢
  simp only [place, findLevel, timeNearMask, timeLevelMask, timeNear, timeLevel, timeNearShift, timeLevelShift,
    Nat.reduceShiftLeft, Nat.reduceSub, h8, h14, h20, h26, m8, m6, Nat.shiftRight_eq_div_pow]
  split_ifs <;> rfl

/-- The lists after a node has been added to one of `near`. -/
theorem table_linkNear (T : Timer) (jdx : Nat) (node : TimerNode) :
    (T.linkNear jdx node).table = Function.update T.table (.near jdx) (T.near jdx ++ [node]) := by
  funext p
  cases p with
  | near idx =>
    by_cases h : idx = jdx
    · subst h
      simp [table, linkNear]
    · simp [table, linkNear, h]
  | level i idx => simp [table, linkNear]

/-- The lists after a node has been added to one of a level. -/
theorem table_linkLevel (T : Timer) (j jdx : Nat) (node : TimerNode) :
    (T.linkLevel j jdx node).table = Function.update T.table (.level j jdx) (T.t j jdx ++ [node]) := by
  funext p
  cases p with
  | near idx => simp [table, linkLevel]
  | level i idx =>
    by_cases hi : i = j
    · subst hi
      by_cases h : idx = jdx
      · subst h
        simp [table, linkLevel]
      · simp [table, linkLevel, h]
    · simp [table, linkLevel, hi]

/-- Where the node goes, by the block it is in. -/
theorem addNode_near {T : Timer} {node : TimerNode} (h : node.expire ||| timeNearMask = T.time ||| timeNearMask) :
    T.addNode node = T.linkNear (node.expire &&& timeNearMask) node := if_pos h

theorem addNode_level {T : Timer} {node : TimerNode} (h : ¬node.expire ||| timeNearMask = T.time ||| timeNearMask) :
    ∃ i idx, place T.time node = .level i idx ∧ T.addNode node = T.linkLevel i idx node := ⟨_, _, if_neg h, if_neg h⟩

/-- `add_node` adds the node to the list of its place. -/
theorem table_addNode (T : Timer) (node : TimerNode) : (T.addNode node).table = Buckets.add (place T.time) T.table node := by
  unfold Buckets.add
  by_cases h : node.expire ||| timeNearMask = T.time ||| timeNearMask
  · rw [place, if_pos h, addNode_near h, table_linkNear]
    rfl
  · obtain ⟨i, idx, hp, ha⟩ := addNode_level h
    rw [hp, ha, table_linkLevel]
    rfl

theorem time_addNode (T : Timer) (node : TimerNode) : (T.addNode node).time = T.time := by
  by_cases h : node.expire ||| timeNearMask = T.time ||| timeNearMask
  · rw [addNode_near h]
    rfl
  · obtain ⟨i, idx, _, ha⟩ := addNode_level h
    rw [ha]
    rfl

/-- The clocks do not go on by that. -/
theorem clock_addNode (T : Timer) (node : TimerNode) :
    (T.addNode node).current = T.current ∧ (T.addNode node).currentPoint = T.currentPoint := by
  by_cases h : node.expire ||| timeNearMask = T.time ||| timeNearMask
  · rw [addNode_near h]
    exact ⟨rfl, rfl⟩
  · obtain ⟨i, idx, _, ha⟩ := addNode_level h
    rw [ha]
    exact ⟨rfl, rfl⟩

/-- Nodes are put back one after the other. -/
theorem foldl_addNode (nodes : List TimerNode) (T : Timer) :
    (nodes.foldl addNode T).table = nodes.foldl (Buckets.add (place T.time)) T.table ∧
      (nodes.foldl addNode T).time = T.time ∧
      (nodes.foldl addNode T).current = T.current ∧ (nodes.foldl addNode T).currentPoint = T.currentPoint := by
  induction nodes generalizing T with
  | nil => exact ⟨rfl, rfl, rfl, rfl⟩
  | cons node nodes ih =>
    obtain ⟨h1, h2, h3, h4⟩ := ih (T.addNode node)
    rw [time_addNode, table_addNode] at h1
    rw [List.foldl_cons, List.foldl_cons]
    exact ⟨h1, h2.trans (time_addNode T node), h3.trans (clock_addNode T node).1, h4.trans (clock_addNode T node).2⟩

/-- `move_list` moves the nodes of one list to their places. -/
theorem moveList_spec (T : Timer) (i idx : Nat) :
    (T.moveList i idx).table = Buckets.move (place T.time) T.table (.level i idx) ∧ (T.moveList i idx).time = T.time ∧
      (T.moveList i idx).current = T.current ∧ (T.moveList i idx).currentPoint = T.currentPoint := by
  have ht : ({ T with t := Function.update T.t i (Function.update (T.t i) idx []) } : Timer).table
      = Function.update T.table (.level i idx) [] := by
    funext p
    cases p with
    | near jdx => simp [table]
    | level j jdx =>
      by_cases hj : j = i
      · subst hj
        by_cases h : jdx = idx
        · subst h
          simp [table]
        · simp [table, h]
      · simp [table, hj]
  have h := foldl_addNode (T.t i idx) { T with t := Function.update T.t i (Function.update (T.t i) idx []) }
  rw [ht] at h
  exact h

/-- The loop of `timer_execute` takes the list of `near` that the time points to. -/
theorem table_clearNear (T : Timer) :
    T.clearNear.1 = T.table (.near (T.time % 2 ^ 8)) ∧
      T.clearNear.2.table = Function.update T.table (.near (T.time % 2 ^ 8)) [] := by
  rw [← show T.time &&& timeNearMask = T.time % 2 ^ 8 from Nat.and_two_pow_sub_one_eq_mod T.time 8]
  refine ⟨rfl, ?_⟩
  funext p
  cases p with
  | near idx =>
    by_cases h : idx = T.time &&& timeNearMask
    · subst h
      simp [clearNear, table]
    · simp [clearNear, table, h]
  | level i idx => simp [clearNear, table]

/-! ### The blocks of ticks -/

/-- The block of a tick that level `i` tells apart: `near` for each tick of a block of `2 ^ 8`, and each level for 64
blocks of the one before. -/
def block (i x : Nat) : Nat := x / 2 ^ (8 + 6 * i)

section Blocks

variable {c c' : Nat} {node : TimerNode}

theorem rank_place_le (c : Nat) (node : TimerNode) : (place c node).rank ≤ 4 := by
  rw [place_eq]
  split_ifs <;> simp [TimerPlace.rank]

/-- A node is at most at a level when it is in the block of the time there. -/
theorem rank_place_le_iff {i : Nat} (hi : i ≤ 3) : (place c node).rank ≤ i ↔ block i node.expire = block i c := by
  unfold block
  rw [place_eq]
  interval_cases i <;> split_ifs <;> simp only [TimerPlace.rank] <;> omega

/-- The list of a level that a node is in. -/
theorem place_of_rank {i : Nat} (h : (place c node).rank = i + 1) :
    place c node = .level i (block i node.expire % 2 ^ 6) := by
  unfold block
  rw [place_eq] at h ⊢
  split_ifs at h ⊢ <;> simp only [TimerPlace.rank] at h
  all_goals first | omega | (obtain rfl := Nat.succ.inj h; rfl)

/-- The place of a node is given by how far it is from `near`. -/
theorem place_eq_of_rank (h : (place c node).rank = (place c' node).rank) : place c node = place c' node := by
  cases hr : (place c' node).rank with
  | succ i => rw [place_of_rank hr, place_of_rank (h.trans hr)]
  | zero =>
    rw [hr] at h
    rw [place_eq] at h hr ⊢
    rw [place_eq]
    split_ifs at h hr ⊢ <;> simp only [TimerPlace.rank] at h hr
    all_goals first | rfl | omega

/-- A tick that is still to come, less than half a round away. -/
def Ahead (c e : Nat) : Prop := c < e ∧ e < c + 2 ^ 31 ∨ e + 2 ^ 32 < c + 2 ^ 31

/-- Level `i` is the last one of which a block begins. -/
structure Begins (c i : Nat) : Prop where
  le : i ≤ 3
  mod : (c + 1) % 2 ^ 32 % 2 ^ (8 + 6 * i) = 0
  next : i < 3 → (c + 1) % 2 ^ 32 % 2 ^ (8 + 6 * (i + 1)) ≠ 0

/-- The blocks of the levels above do not begin. -/
theorem Begins.block_eq {i k : Nat} (h : Begins c i) (hc : c < 2 ^ 32) (hik : i < k) (hk : k ≤ 3) :
    block k ((c + 1) % 2 ^ 32) = block k c := by
  have h1 := h.next (by omega)
  have hd : (c + 1) % 2 ^ 32 % 2 ^ (8 + 6 * k) ≠ 0 := fun e =>
    h1 (Nat.mod_eq_zero_of_dvd (Nat.dvd_trans (Nat.pow_dvd_pow 2 (by omega)) (Nat.dvd_of_mod_eq_zero e)))
  have h0 : (c + 1) % 2 ^ 32 = c + 1 := Nat.mod_eq_of_lt (by
    refine Nat.lt_of_le_of_ne hc fun e => hd ?_
    rw [← e, Nat.mod_self, Nat.zero_mod])
  rw [h0] at hd ⊢
  unfold block
  interval_cases k <;> omega

/-- When a block begins, no node that is still to come is in the one before. -/
theorem Begins.lt_rank {i : Nat} (h : Begins c i) (ha : Ahead c node.expire) :
    i < (place c node).rank := by
  rw [← Nat.not_le, rank_place_le_iff h.le]
  have h1 := h.le
  have h2 := h.mod
  unfold block
  unfold Ahead at ha
  interval_cases i <;> omega

/-- The nodes of the block that begins come below its level. -/
theorem Begins.rank_le {i : Nat} (h : Begins c i) (hc : c < 2 ^ 32) (he : node.expire < 2 ^ 32)
    (hp : place c node = .level i (block i ((c + 1) % 2 ^ 32) % 2 ^ 6)) : (place ((c + 1) % 2 ^ 32) node).rank ≤ i := by
  have hr : (place c node).rank = i + 1 := by rw [hp]; rfl
  have hb : block i node.expire % 2 ^ 6 = block i ((c + 1) % 2 ^ 32) % 2 ^ 6 := by
    rw [place_of_rank hr] at hp
    exact (TimerPlace.level.inj hp).2
  rw [rank_place_le_iff h.le]
  rcases Nat.lt_or_ge i 3 with hi | hi
  · have hn : block (i + 1) node.expire = block (i + 1) ((c + 1) % 2 ^ 32) := by
      rw [h.block_eq hc (Nat.lt_succ_self i) hi, ← rank_place_le_iff hi, hr]
    unfold block at *
    interval_cases i <;> omega
  · obtain rfl : i = 3 := Nat.le_antisymm h.le hi
    have hc' : (c + 1) % 2 ^ 32 < 2 ^ 32 := Nat.mod_lt _ (Nat.two_pow_pos 32)
    unfold block at *
    omega

/-- The other nodes stay where they are. -/
theorem Begins.place_eq {i : Nat} (h : Begins c i) (hc : c < 2 ^ 32) (ha : Ahead c node.expire)
    (hp : place c node ≠ .level i (block i ((c + 1) % 2 ^ 32) % 2 ^ 6)) : place c node = place ((c + 1) % 2 ^ 32) node := by
  have h1 := h.lt_rank ha
  have h4 := rank_place_le c node
  have h4' := rank_place_le ((c + 1) % 2 ^ 32) node
  have same (k : Nat) (hik : i < k) (hk : k ≤ 3) : (place c node).rank ≤ k ↔ (place ((c + 1) % 2 ^ 32) node).rank ≤ k := by
    rw [rank_place_le_iff hk, rank_place_le_iff hk, h.block_eq hc hik hk]
  have h1' : i < (place ((c + 1) % 2 ^ 32) node).rank := by
    rw [← Nat.not_le]
    intro hle
    refine hp ?_
    have hr : (place c node).rank = i + 1 := by
      rcases Nat.lt_or_ge i 3 with hi | hi
      · have := (same (i + 1) (Nat.lt_succ_self i) hi).2 (Nat.le_succ_of_le hle)
        omega
      · have := h.le
        omega
    rw [place_of_rank hr, (rank_place_le_iff h.le).1 hle]
  refine place_eq_of_rank (Nat.le_antisymm ?_ ?_)
  · by_contra hlt
    have := same (place ((c + 1) % 2 ^ 32) node).rank h1' (by omega)
    omega
  · by_contra hlt
    have := same (place c node).rank h1 (by omega)
    omega

/-- Within a block of `near` every node stays where it is. -/
theorem place_succ (h : (c + 1) % 2 ^ 8 ≠ 0) : place c node = place (c + 1) node := by
  have hb (k : Nat) (hk : k ≤ 3) : block k (c + 1) = block k c := by
    unfold block
    interval_cases k <;> omega
  have same (k : Nat) (hk : k ≤ 3) : (place c node).rank ≤ k ↔ (place (c + 1) node).rank ≤ k := by
    rw [rank_place_le_iff hk, rank_place_le_iff hk, hb k hk]
  have h4 := rank_place_le c node
  have h4' := rank_place_le (c + 1) node
  refine place_eq_of_rank (Nat.le_antisymm ?_ ?_)
  · by_contra hlt
    have := same (place (c + 1) node).rank (by omega)
    omega
  · by_contra hlt
    have := same (place c node).rank (by omega)
    omega

end Blocks

/-! ### A shift -/

/-- What the loop of `timer_shift` does, by the last level of which a block begins. -/
theorem shiftLevel_eq (T : Timer) {ct : Nat} (hc : ct < 2 ^ 32) (h0 : ct ≠ 0) :
    shiftLevel T ct (ct >>> timeNearShift) timeNear 0 4 =
    if ct % 2 ^ 8 ≠ 0 then T
    else if ct % 2 ^ 14 ≠ 0 then T.moveList 0 (ct / 2 ^ 8 % 2 ^ 6)
    else if ct % 2 ^ 20 ≠ 0 then T.moveList 1 (ct / 2 ^ 14 % 2 ^ 6)
    else if ct % 2 ^ 26 ≠ 0 then T.moveList 2 (ct / 2 ^ 20 % 2 ^ 6)
    else T.moveList 3 (ct / 2 ^ 26 % 2 ^ 6) := by
  have m8 := Nat.and_two_pow_sub_one_eq_mod ct 8
  have m14 := Nat.and_two_pow_sub_one_eq_mod ct 14
  have m20 := Nat.and_two_pow_sub_one_eq_mod ct 20
  have m26 := Nat.and_two_pow_sub_one_eq_mod ct 26
  have m6 (x : Nat) := Nat.and_two_pow_sub_one_eq_mod x 6
  simp only [Nat.reducePow, Nat.reduceSub] at hc m8 m14 m20 m26 m6 ⊢
  simp only [shiftLevel, timeLevelMask, timeNear, timeLevel, timeNearShift, timeLevelShift, Nat.reduceShiftLeft,
    Nat.reduceSub, m8, m14, m20, m26, m6, Nat.shiftRight_eq_div_pow, Nat.reducePow, Nat.div_div_eq_div_mul, Nat.reduceMul,
      Nat.reduceAdd, ne_eq]
  -- a digit is zero exactly when the block of the next level begins too
  have d1 : ct % 256 = 0 → (ct / 256 % 64 = 0 ↔ ct % 16384 = 0) := by omega
  have d2 : ct % 16384 = 0 → (ct / 16384 % 64 = 0 ↔ ct % 1048576 = 0) := by omega
  have d3 : ct % 1048576 = 0 → (ct / 1048576 % 64 = 0 ↔ ct % 67108864 = 0) := by omega
  have d4 : ct % 67108864 = 0 → ct / 67108864 % 64 ≠ 0 := by omega
  by_cases h1 : ct % 256 = 0
  · by_cases h2 : ct % 16384 = 0
    · by_cases h3 : ct % 1048576 = 0
      · by_cases h4 : ct % 67108864 = 0
        · simp [h1, h2, h3, h4, d1, d2, d3, d4]
        · simp [h1, h2, h3, h4, d1, d2, d3]
      · simp [h1, h2, h3, d1, d2]
    · simp [h1, h2, d1]
  · simp [h1]

/-- `timer_shift` moves the list of the block that begins, if one does. -/
theorem timerShift_cases {T : Timer} (hc : T.time < 2 ^ 32) :
    (T.time + 1) % 2 ^ 8 ≠ 0 ∧ (T.time + 1) % 2 ^ 32 = T.time + 1 ∧ T.timerShift = { T with time := T.time + 1 } ∨
      ∃ i, Begins T.time i ∧ T.timerShift =
        moveList { T with time := (T.time + 1) % 2 ^ 32 } i (block i ((T.time + 1) % 2 ^ 32) % 2 ^ 6) := by
  by_cases h0 : (T.time + 1) % 2 ^ 32 = 0
  · refine Or.inr ⟨3, ⟨Nat.le_refl 3, by rw [h0, Nat.zero_mod], fun h => absurd h (Nat.lt_irrefl 3)⟩, ?_⟩
    rw [timerShift, if_pos h0, h0]
    rfl
  · have hs : T.timerShift = shiftLevel { T with time := (T.time + 1) % 2 ^ 32 } ((T.time + 1) % 2 ^ 32)
        (((T.time + 1) % 2 ^ 32) >>> timeNearShift) timeNear 0 4 := if_neg h0
    rw [hs, shiftLevel_eq _ (Nat.mod_lt _ (Nat.two_pow_pos 32)) h0]
    split_ifs with h1 h2 h3 h4
    · have he : (T.time + 1) % 2 ^ 32 = T.time + 1 := by omega
      exact Or.inl ⟨by rwa [he] at h1, he, by rw [he]⟩
    · exact Or.inr ⟨0, ⟨by omega, by simpa using h1, fun _ => h2⟩, rfl⟩
    · exact Or.inr ⟨1, ⟨by omega, by simpa using h2, fun _ => h3⟩, rfl⟩
    · exact Or.inr ⟨2, ⟨by omega, by simpa using h3, fun _ => h4⟩, rfl⟩
    · exact Or.inr ⟨3, ⟨by omega, by simpa using h4, fun h => absurd h (Nat.lt_irrefl 3)⟩, rfl⟩

/-- A shift leaves the nodes that are still to come where they belong. -/
theorem holds_timerShift {T : Timer} {nodes : List TimerNode} (hc : T.time < 2 ^ 32)
    (h : Buckets.Holds T.table (place T.time) nodes)
    (hn : ∀ node ∈ nodes, node.expire < 2 ^ 32 ∧ Ahead T.time node.expire) :
    Buckets.Holds T.timerShift.table (place T.timerShift.time) nodes ∧ T.timerShift.time = (T.time + 1) % 2 ^ 32 ∧
      T.timerShift.current = T.current ∧ T.timerShift.currentPoint = T.currentPoint := by
  rcases timerShift_cases hc with ⟨h8, he, hs⟩ | ⟨i, hi, hs⟩
  · rw [hs, he]
    exact ⟨h.congr fun node _ => place_succ h8, rfl, rfl, rfl⟩
  · have hm := moveList_spec { T with time := (T.time + 1) % 2 ^ 32 } i (block i ((T.time + 1) % 2 ^ 32) % 2 ^ 6)
    rw [hs, hm.1, hm.2.1]
    refine ⟨?_, rfl, hm.2.2⟩
    refine Buckets.Holds.move h _ (fun node hmem hp => hi.place_eq hc (hn node hmem).2 hp) ?_
    intro node hmem hp node' hmem' hp' he
    have hle := hi.rank_le hc (hn node hmem).1 hp
    rw [← he, ← hi.place_eq hc (hn node' hmem').2 hp'] at hle
    exact Nat.not_le_of_lt (hi.lt_rank (hn node' hmem').2) hle

end Timer

end SasyServer.Skynet
