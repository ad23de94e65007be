import SasyServer.Table.BossGold
import SasyServer.Theorems.TableGold

/-!
# Theorem: the shots at a world boss are refunded once

`iWorldBossGold` is what a refund pays and what it sets to zero, without a wait in between; so it does not matter which of
the three ways comes first.
-/

namespace SasyServer.Table

variable {cfg : CannonMultiple} {s s' : BossSeat}

/-- The multiple of a shot that is accepted in the scene of a world boss. -/
def bossShot (cfg : CannonMultiple) (s : BossSeat) : BossSeatLabel → Int
  | .seat (.userFire m) => if s.seat.bWorldBossScene ∧ accepts cfg s.seat m then m.bulletMultiple else 0
  | _ => 0

/-- The labels that refund. -/
def refunds : BossSeatLabel → Bool
  | .sendWorldBossInvalidGold | .saveInvalidGunGold | .standUp => true
  | _ => false

/-- What a label that refunds adds to `fishScore`. -/
def addedScore (cfg : CannonMultiple) (s : BossSeat) (l : BossSeatLabel) : Int :=
  if refunds l then (bossSeatStep cfg s l).elim 0 fun s' => s'.seat.gameData.fishScore - s.seat.gameData.fishScore else 0

/-- The changes of gold that a label that refunds sends to the bag of the user. -/
def sentGold (cfg : CannonMultiple) (s : BossSeat) (l : BossSeatLabel) : List Int :=
  if refunds l then
    (bossSeatStep cfg s l).elim [] fun s' => (s'.seat.messages.drop s.seat.messages.length).map Message.goodsCount
  else []

/-- What is added to `fishScore` is sent, in one message, and nothing else is. -/
def sends (cfg : CannonMultiple) (s : BossSeat) (l : BossSeatLabel) : Prop :=
  sentGold cfg s l = if addedScore cfg s l = 0 then [] else [addedScore cfg s l]

/-- A shot is counted when it is accepted in the scene of a world boss. -/
theorem iWorldBossGold_userFire (s : Seat) (m : UserFire) : (userFire cfg s m).gameData.iWorldBossGold =
    s.gameData.iWorldBossGold + if s.bWorldBossScene ∧ accepts cfg s m then m.bulletMultiple else 0 := by
  by_cases ha : accepts cfg s m
  · obtain ⟨hlock, -⟩ := accepts_spec ha
    have hwait : ∀ s' : Seat, (if ¬s'.bWorldBossScene ∧ ¬s'.bFengHuangScene then
        { s' with work := some (.fire m.bulletMultiple m.userGoodsInfo) }
        else fireLoop s' m.bulletMultiple m.userGoodsInfo).gameData = s'.gameData := by
      intro s'
      split
      · rfl
      · exact gameData_fireLoop s' _ _
    rw [userFire, if_neg (Bool.eq_false_iff.1 hlock)]
    dsimp only
    rw [if_pos ha, hwait]
    by_cases hboss : s.bWorldBossScene
    · simp only [hboss, ha, and_self, if_true]
      rfl
    · simp only [hboss, Bool.false_eq_true, false_and, if_false, add_zero]
      rfl
  · simp only [userFire, ha, Bool.false_eq_true, and_false, if_false, add_zero]
    split <;> rfl

/-- The other labels of the seat leave it alone. -/
theorem iWorldBossGold_catchSweepFish (s : Seat) (sweepID : Int) (fishIDList : List Int) (draws : Catch.FishTrace → Nat)
    (fishMultipleMax : Nat) :
    (catchSweepFish s sweepID fishIDList draws fishMultipleMax).gameData.iWorldBossGold = s.gameData.iWorldBossGold := by
  cases hfish : sweepFishInfo s sweepID with
  | none => simp only [catchSweepFish, hfish]
  | some fish =>
    simp only [catchSweepFish, hfish]
    split
    · split <;> rfl
    · rfl

theorem iWorldBossGold_proceed (s : Seat) (w : Work) : (proceed s w).gameData = s.gameData := by
  cases w with
  | fire m rest => exact gameData_fireLoop s m rest
  | sweep score => rfl

/-- A label of the seat that is no refund counts the shots that are accepted. -/
theorem iWorldBossGold_step {s s' : Seat} {l : Label} (hl : l ≠ .worldBossEnd) (hl' : l ≠ .saveInvalidGunGold)
    (hs : step cfg s l = some s') : s'.gameData.iWorldBossGold = s.gameData.iWorldBossGold +
      bossShot cfg ⟨s, .seated, 0⟩ (.seat l) := by
  cases l with
  | userFire m =>
    simp only [step, Option.ite_none_right_eq_some, Option.some.injEq] at hs
    obtain ⟨-, rfl⟩ := hs
    exact iWorldBossGold_userFire s m
  | catchSweepFish sweepID fishIDList draws fishMultipleMax =>
    simp only [step, Option.ite_none_right_eq_some, Option.some.injEq] at hs
    obtain ⟨-, rfl⟩ := hs
    simp only [bossShot, add_zero]
    exact iWorldBossGold_catchSweepFish s sweepID fishIDList draws fishMultipleMax
  | proceed =>
    simp only [step, Option.map_eq_some_iff] at hs
    obtain ⟨w, -, rfl⟩ := hs
    rw [iWorldBossGold_proceed]
    simp only [bossShot, add_zero]
  | worldBossEnd => exact absurd rfl hl
  | saveInvalidGunGold => exact absurd rfl hl'
  | deliver now =>
    simp only [step] at hs
    split at hs
    · cases hs
    · cases hs
      simp only [bossShot, add_zero]
  | bag k online now =>
    simp only [step, Option.map_eq_some_iff] at hs
    obtain ⟨bag, -, rfl⟩ := hs
    simp only [bossShot, add_zero]
  | worldBossStart | fengHuang | scoreLock | fishTrace | sweepFish =>
    cases hs
    simp only [bossShot, add_zero]

/-! ## What a refund does -/

/-- A refund pays what is counted, to `fishScore` and to the bag, and nothing is counted any more. -/
theorem refund_spec (s : Seat) (n : Bool) :
    (refund s n).gameData.iWorldBossGold = 0 ∧
    (refund s n).gameData.fishScore = s.gameData.fishScore + s.gameData.iWorldBossGold ∧
    ((refund s n).messages.drop s.messages.length).map Message.goodsCount =
      if s.gameData.iWorldBossGold = 0 then [] else [s.gameData.iWorldBossGold] := by
  refine ⟨?_, fishScore_refund s n, ?_⟩
  · unfold refund
    split
    · rfl
    · rename_i hz
      exact not_not.1 hz
  · unfold refund
    split
    · rename_i hz
      simp [Seat.send, Seat.addFishScore]
    · rename_i hz
      simp [not_not.1 hz]

/-- A label that refunds, when it has led to a refund of the seat. -/
theorem sends_of_refund {l : BossSeatLabel} {n : Bool} {standing : Standing} {ends : Nat} (hl : refunds l)
    (hs : bossSeatStep cfg s l = some ⟨refund s.seat n, standing, ends⟩) :
    sends cfg s l ∧ addedScore cfg s l = s.seat.gameData.iWorldBossGold := by
  obtain ⟨-, hscore, hsent⟩ := refund_spec s.seat n
  have hadded : addedScore cfg s l = s.seat.gameData.iWorldBossGold := by
    simp only [addedScore, hl, if_true, hs, Option.elim_some, hscore]
    omega
  refine ⟨?_, hadded⟩
  rw [sends, hadded, sentGold, if_pos hl, hs]
  exact hsent

/-- A label that refunds, when there are no game data. -/
theorem sends_of_gone {l : BossSeatLabel} {standing : Standing} {ends : Nat} (hl : refunds l)
    (hs : bossSeatStep cfg s l = some ⟨s.seat, standing, ends⟩) : sends cfg s l ∧ addedScore cfg s l = 0 := by
  have hadded : addedScore cfg s l = 0 := by simp [addedScore, hl, hs]
  refine ⟨?_, hadded⟩
  rw [sends, hadded, sentGold, if_pos hl, hs]
  simp

/-! ## The runs -/

/-- What is counted after a label: the shot it accepts is added, and what it refunds is taken away; and a player who is
leaving has nothing counted. -/
structure Counted (counted : Int) (s : BossSeat) : Prop where
  gold : s.seat.gameData.iWorldBossGold = counted
  leaving : s.standing ≠ .seated → s.seat.gameData.iWorldBossGold = 0

/-- A label that refunds takes what is counted. -/
theorem counted_refund {m : Int} (h : Counted m s) {l : BossSeatLabel} {n : Bool} {standing : Standing} {ends : Nat}
    (hl : refunds l) (hs : bossSeatStep cfg s l = some ⟨refund s.seat n, standing, ends⟩) :
    Counted (m + (0 - addedScore cfg s l)) ⟨refund s.seat n, standing, ends⟩ := by
  obtain ⟨hzero, -, -⟩ := refund_spec s.seat n
  refine ⟨?_, fun _ => hzero⟩
  rw [(sends_of_refund hl hs).2, ← h.gold, hzero]
  omega

/-- One label. -/
theorem Counted.step {m : Int} (h : Counted m s) {l : BossSeatLabel} (hs : bossSeatStep cfg s l = some s') :
    Counted (m + (bossShot cfg s l - addedScore cfg s l)) s' := by
  cases l with
  | seat l =>
    have hseat : l ≠ .worldBossEnd ∧ l ≠ .saveInvalidGunGold ∧ (needsSeated l → s.standing = .seated) ∧
        ∃ seat, Table.step cfg s.seat l = some seat ∧ s' = { s with seat := seat } := by
      cases l
      case worldBossEnd | saveInvalidGunGold => cases hs
      all_goals
        simp only [bossSeatStep, Option.ite_none_left_eq_some, Option.map_eq_some_iff] at hs
        obtain ⟨hneeds, seat, hstep, rfl⟩ := hs
        refine ⟨by simp, by simp, fun hn => ?_, seat, hstep, rfl⟩
        by_contra hseated
        exact hneeds ⟨hn, hseated⟩
    obtain ⟨hl, hl', hneeds, seat, hstep, rfl⟩ := hseat
    have hshot : bossShot cfg ⟨s.seat, .seated, 0⟩ (.seat l) = bossShot cfg s (.seat l) := by cases l <;> rfl
    have hgold := iWorldBossGold_step hl hl' hstep
    rw [hshot] at hgold
    rw [show addedScore cfg s (.seat l) = 0 from rfl, sub_zero]
    refine ⟨by rw [hgold, h.gold], fun hleaving => ?_⟩
    rw [hgold, h.leaving hleaving, zero_add]
    cases l with
    | userFire m => exact absurd (hneeds rfl) hleaving
    | _ => rfl
  | worldBossEnd =>
    cases hs
    rw [show bossShot cfg s .worldBossEnd - addedScore cfg s .worldBossEnd = 0 from rfl, add_zero]
    exact ⟨h.gold, h.leaving⟩
  | sendWorldBossInvalidGold =>
    have hstep := hs
    simp only [bossSeatStep, Option.ite_none_right_eq_some, Option.some.injEq, Table.sendWorldBossInvalidGold] at hs
    obtain ⟨-, hs⟩ := hs
    split at hs
    · subst hs
      rw [(sends_of_gone rfl hstep).2, show bossShot cfg s .sendWorldBossInvalidGold = 0 from rfl, sub_zero, add_zero]
      exact ⟨h.gold, h.leaving⟩
    · subst hs
      exact counted_refund h rfl hstep
  | saveInvalidGunGold =>
    have hstep := hs
    simp only [bossSeatStep, Option.some.injEq, cmdSaveInvalidGunGold] at hs
    split at hs
    · subst hs
      rw [(sends_of_gone rfl hstep).2, show bossShot cfg s .saveInvalidGunGold = 0 from rfl, sub_zero, add_zero]
      exact h
    · subst hs
      exact counted_refund h rfl hstep
  | standUp =>
    have hstep := hs
    simp only [bossSeatStep, Option.ite_none_right_eq_some, Option.some.injEq] at hs
    obtain ⟨-, rfl⟩ := hs
    exact counted_refund h rfl hstep
  | stoodUp =>
    simp only [bossSeatStep, Option.ite_none_right_eq_some, Option.some.injEq] at hs
    obtain ⟨hleaving, rfl⟩ := hs
    rw [show bossShot cfg s .stoodUp - addedScore cfg s .stoodUp = 0 from rfl, add_zero]
    exact ⟨h.gold, fun _ => h.leaving (by simp [hleaving])⟩

/-- Whatever the label, what it adds to `fishScore` as a refund is what it sends. -/
theorem sends_all (cfg : CannonMultiple) (s : BossSeat) (l : BossSeatLabel) : sends cfg s l := by
  have hnone : ∀ l, (refunds l → bossSeatStep cfg s l = none) → sends cfg s l := by
    intro l h
    by_cases hl : refunds l
    · simp [sends, sentGold, addedScore, hl, h hl]
    · simp [sends, sentGold, addedScore, hl]
  cases l with
  | seat l => exact hnone _ fun h => by cases h
  | worldBossEnd => exact hnone _ fun h => by cases h
  | stoodUp => exact hnone _ fun h => by cases h
  | sendWorldBossInvalidGold =>
    by_cases hends : 0 < s.ends
    · by_cases hgone : s.standing = .stoodUp
      · exact (sends_of_gone rfl (by simp only [bossSeatStep, hends, if_true, Table.sendWorldBossInvalidGold, hgone]; rfl)).1
      · exact (sends_of_refund rfl
          (by simp only [bossSeatStep, hends, if_true, Table.sendWorldBossInvalidGold, hgone, if_false]; rfl)).1
    · exact hnone _ fun _ => by simp only [bossSeatStep, hends, if_false]
  | saveInvalidGunGold =>
    by_cases hgone : s.standing = .stoodUp
    · exact (sends_of_gone rfl (by simp only [bossSeatStep, cmdSaveInvalidGunGold, hgone, if_true]; rfl)).1
    · exact (sends_of_refund rfl (by simp only [bossSeatStep, cmdSaveInvalidGunGold, hgone, if_false]; rfl)).1
  | standUp =>
    by_cases hfree : s.standing = .seated ∧ s.seat.work = none
    · exact (sends_of_refund rfl (by simp only [bossSeatStep, hfree, and_self, if_true]; rfl)).1
    · exact hnone _ fun _ => by simp only [bossSeatStep, hfree, if_false]

/-- Every run of a player who has sat down: what the refunds have added to `fishScore` and what is still counted make up the
shots that were accepted in the scene of a world boss; each refund was sent to the bag, with its amount; and once the player
has begun to stand up, nothing is left to be refunded. -/
theorem boss_shots_refunded (cfg : CannonMultiple) (s : Seat) (labels : List BossSeatLabel) (t : BossSeat)
    (hrun : Steps.exec (bossSeatStep cfg) (.sitDown s) labels = some t) :
    Steps.total (bossSeatStep cfg) (addedScore cfg) (.sitDown s) labels + t.seat.gameData.iWorldBossGold =
      Steps.total (bossSeatStep cfg) (bossShot cfg) (.sitDown s) labels ∧
    Steps.Meets (bossSeatStep cfg) (sends cfg) (.sitDown s) labels ∧
    (t.standing ≠ .seated → t.seat.gameData.iWorldBossGold = 0) := by
  have hcounted := Steps.exec_total (f := fun s l => bossShot cfg s l - addedScore cfg s l) (I := fun s m => Counted m s)
    (C := fun _ _ => True) (fun _ _ _ _ h _ hs => h.step hs) labels _ t 0 ⟨rfl, fun _ => rfl⟩
    (Steps.meets_of_forall (fun _ _ => trivial) labels _) hrun
  have hsum :=
    @Steps.total_add _ _ (bossSeatStep cfg) _ _ (fun s l => bossShot cfg s l - addedScore cfg s l) (addedScore cfg) labels
    (.sitDown s)
  simp only [sub_add_cancel] at hsum
  refine ⟨?_, Steps.meets_of_forall (sends_all cfg) labels _, hcounted.leaving⟩
  rw [hcounted.gold, hsum, zero_add, add_comm]

/-- Two shots at a boss: the first is refunded when the user goes offline, the second when the player stands up while the
end of the boss waits. -/
theorem boss_shots_refunded_stand_up :
    ∃ t, Steps.exec (bossSeatStep ⟨1, 100⟩) (.sitDown goldSeat) [.seat .worldBossStart, .seat (.userFire ⟨0, 1, 100, []⟩),
        .saveInvalidGunGold, .seat (.userFire ⟨0, 2, 100, []⟩), .worldBossEnd, .standUp, .sendWorldBossInvalidGold,
          .stoodUp] = some t ∧
      Steps.total (bossSeatStep ⟨1, 100⟩) (addedScore ⟨1, 100⟩) (.sitDown goldSeat) [.seat .worldBossStart,
        .seat (.userFire ⟨0, 1, 100, []⟩), .saveInvalidGunGold, .seat (.userFire ⟨0, 2, 100, []⟩), .worldBossEnd, .standUp,
        .sendWorldBossInvalidGold, .stoodUp] + t.seat.gameData.iWorldBossGold = 200 :=
  ⟨_, rfl, (boss_shots_refunded ⟨1, 100⟩ goldSeat
    [.seat .worldBossStart, .seat (.userFire ⟨0, 1, 100, []⟩), .saveInvalidGunGold,
    .seat (.userFire ⟨0, 2, 100, []⟩), .worldBossEnd, .standUp, .sendWorldBossInvalidGold, .stoodUp] _ rfl).1⟩

end SasyServer.Table
