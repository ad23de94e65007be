import SasyServer.Table.FirePiece

/-!
# The charge for the pieces of a fire cannon

Every boss fish is also a reward fish, and the reward fish are looked at first: a drop is one piece, never the two or three
of a boss fish, whose count from the empty pool would be 0.
-/

namespace SasyServer.Table

open Catch (isRewardGoldFish)
open OperatorLimit

/-- What a drop is to do: at least one piece, a pool that is not overdrawn, an allowance that is
kept, and the exact price. -/
structure FairDrop (d : FirePieceDrop) (contribution : Int)
    (firePiece firePiece' boxDropValue boxDropValue' : Int) : Prop where
  atLeastOne : 1 ≤ d.goodsCount
  pool : firePiece' ≠ firePiece → 0 ≤ firePiece'
  allowance : boxDropValue' ≠ boxDropValue → (boxDropValue' : ℚ) ≤ 40 + 0.2 * max 0 (contribution - 200)
  price : (firePiece' = firePiece - d.goodsCount ∧ boxDropValue' = boxDropValue) ∨
    (firePiece' = firePiece ∧ boxDropValue' = boxDropValue + 10 * d.goodsCount)

/-- The branches of the boss fish are never reached. -/
theorem isRewardGoldFish_of_isBossFish {kindId : Nat} (h : isBossFish kindId) : isRewardGoldFish kindId := by
  simp only [isBossFish, isRewardGoldFish, decide_eq_true_eq] at h ⊢
  omega

/-- What the allowance has left, the two branches in one. -/
theorem iMaxBoxDropValue_eq (contribution nowBoxValue : Int) :
    iMaxBoxDropValue contribution nowBoxValue = 40 + 0.2 * max 0 ((contribution : ℚ) - 200) - nowBoxValue := by
  unfold iMaxBoxDropValue
  split
  · rename_i h
    have hpos : (0 : ℚ) ≤ contribution - 200 := by exact_mod_cast h.le
    rw [max_eq_right hpos]
    ring
  · rename_i h
    have hneg : (contribution : ℚ) - 200 ≤ 0 := by exact_mod_cast not_lt.1 h
    rw [max_eq_left hneg]
    ring

/-- A drop is one piece, from a pool that is not empty or from an allowance that has 10 left. -/
theorem eq_firePieceDrop {opLimitHash : OpLimitHash} {userID fishKind : Nat} {contribution iRandRate : Int}
    {d : FirePieceDrop} (h : firePieceDrop opLimitHash userID contribution fishKind iRandRate = some d) :
    getLimitCount opLimitHash userID opLimitIdPaoTaiLv = cannonFire ∧
      ((0 < getLimitCount opLimitHash userID opLimitIdFirePiece ∧ d = ⟨1, opLimitIdFirePiece, -1⟩) ∨
        (10 ≤ iMaxBoxDropValue contribution (getLimitCount opLimitHash userID opLimitIdBoxDropValue) ∧
          d = ⟨1, opLimitIdBoxDropValue, 10⟩)) := by
  unfold firePieceDrop at h
  dsimp only at h
  split at h
  · rename_i hfire
    refine ⟨hfire, ?_⟩
    split at h
    · rename_i hpool
      split at h
      · split at h
        · exact Or.inl ⟨hpool, (Option.some.inj h).symm⟩
        · cases h
      · rename_i hreward
        rw [if_neg fun hboss => hreward (isRewardGoldFish_of_isBossFish hboss)] at h
        cases h
    · split at h
      · rename_i hbox
        split at h
        · split at h
          · exact Or.inr ⟨hbox, (Option.some.inj h).symm⟩
          · cases h
        · rename_i hreward
          rw [if_neg fun hboss => hreward (isRewardGoldFish_of_isBossFish hboss)] at h
          cases h
      · cases h
  · cases h

/-- Every drop of every catch, for all limits, contributions, kinds of fish and draws. -/
theorem fairDrop_of_drop (opLimitHash : OpLimitHash) (userID : Nat) (contribution : Int) (fishKind : Nat)
    (iRandRate day time : Int) (d : FirePieceDrop)
    (h : firePieceDrop opLimitHash userID contribution fishKind iRandRate = some d) :
    FairDrop d contribution
      (getLimitCount opLimitHash userID opLimitIdFirePiece)
      (getLimitCount (d.charge opLimitHash userID day time) userID opLimitIdFirePiece)
      (getLimitCount opLimitHash userID opLimitIdBoxDropValue)
      (getLimitCount (d.charge opLimitHash userID day time) userID opLimitIdBoxDropValue) := by
  obtain ⟨hfire, hd⟩ := eq_firePieceDrop h
  obtain ⟨info, hinfo⟩ := loaded_of_count (by rw [hfire]; decide)
  rcases hd with ⟨hpool, rfl⟩ | ⟨hbox, rfl⟩
  · have htaken := getLimitCount_addLimit_self (-1) day time hinfo clamp_firePiece
    have hkept : getLimitCount (addLimit opLimitHash userID opLimitIdFirePiece (-1) day time) userID opLimitIdBoxDropValue =
        getLimitCount opLimitHash userID opLimitIdBoxDropValue := getLimitCount_addLimit_of_ne (-1) day time (by decide)
    refine ⟨le_rfl, fun _ => ?_, fun hne => absurd hkept hne, Or.inl ⟨htaken, hkept⟩⟩
    rw [FirePieceDrop.charge, htaken]
    omega
  · have htaken := getLimitCount_addLimit_self 10 day time hinfo clamp_boxDropValue
    have hkept : getLimitCount (addLimit opLimitHash userID opLimitIdBoxDropValue 10 day time) userID opLimitIdFirePiece =
        getLimitCount opLimitHash userID opLimitIdFirePiece := getLimitCount_addLimit_of_ne 10 day time (by decide)
    refine ⟨le_rfl, fun hne => absurd hkept hne, fun _ => ?_, Or.inr ⟨hkept, htaken⟩⟩
    rw [iMaxBoxDropValue_eq] at hbox
    rw [FirePieceDrop.charge, htaken]
    push_cast
    linarith

/-- The user 7 has the fire cannon, no piece left in the pool, and a box of 50 within an allowance of 60. -/
def fireCannonLimits : OpLimitHash := fun userID =>
  if userID = 7 then some [⟨opLimitIdPaoTaiLv, cannonFire, 0⟩, ⟨opLimitIdBoxDropValue, 50, 0⟩] else none

theorem fairDrop_of_drop_box : FairDrop ⟨1, opLimitIdBoxDropValue, 10⟩ 300 0 0 50 60 :=
  fairDrop_of_drop fireCannonLimits 7 300 27 19 0 0 _ (by decide +kernel)

end SasyServer.Table
