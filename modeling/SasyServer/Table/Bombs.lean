import SasyServer.Table.Catch

/-!
# The score of a bomb

`pbCatchSweepFish` and `getfishMultiple` of `comprise/testGame/lualib/tableFrameSink.lua`, with the configuration of
the fish and with what the player's score is told to: the gold of the reward fish, the drop box and the bag. To the
table it does what `cash` of `Catch` does, which is about any multiples; here they come from the configuration, and a
fish without one is an error.

Left out are the scores of a match and of the system, the volcano and the packet.
-/

namespace SasyServer.Catch

open Table (CannonMultiple)

/-- The `multiple` of an entry of `fishHash`: a number, or the bounds between which one is drawn. -/
inductive Multiple where
  | number (n : Nat)
  | range (low high : Nat)
  deriving DecidableEq, Repr

/-- The kinds for which `createFishTraceItem` is called: the fish that are built in time, those of the scenes, the
phoenix and the two bosses. -/
def isBuilt (fishKind : Nat) : Bool := (fishKind ≤ 37 ∧ fishKind ≠ 31 ∧ fishKind ≠ 32) ∨ (99 ≤ fishKind ∧ fishKind ≤ 103)

/-- `fishHash` of a configuration, as far as it is about multiples. It has every kind of fish that is built. -/
structure FishConfig where
  fishHash : List (Nat × Multiple)
  complete : ∀ fishKind, isBuilt fishKind = true → (fishHash.lookup fishKind).isSome = true

/-- `getfishMultiple`; `random` is what is drawn between two bounds. -/
def getfishMultiple (config : FishConfig) (random : Nat → Nat → Nat) (fishKind : Nat) : Option Nat :=
  if 41 ≤ fishKind ∧ fishKind ≤ 45 then some 0
  else
    match config.fishHash.lookup fishKind with
    | none => none
    | some (.number n) => some n
    | some (.range low high) => some (random low high)

/-- The message `CatchSweepFish`. -/
structure CatchSweepFish where
  sweepID : Int
  fishIDList : List Int
  deriving DecidableEq, Repr

/-- What other services are told of a score: `ChangeRewardGfInfo`, `changeScore` of the drop box, and
`ChangeItemCount` of gold. -/
inductive Entry where
  | changeRewardGfInfo (userID : Nat) (gold : Int)
  | changeScore (score : Int)
  | changeItemCount (userID : Nat) (goodsCount : Int)
  deriving DecidableEq, Repr

/-- The gold that is taken for the reward fish. -/
def Entry.share : Entry → Int
  | .changeRewardGfInfo _ gold => gold
  | _ => 0

/-- The gold for the bag. -/
def Entry.bag : Entry → Int
  | .changeItemCount _ goodsCount => goodsCount
  | _ => 0

/-- The loop over `fishIDList`. `random f` is what is drawn for the fish `f`. -/
def sweepFishes (config : FishConfig) (random : FishTrace → Nat → Nat → Nat) : List Int → Sweep → Option Sweep
  | [], w => some w
  | fishID :: rest, w =>
    match w.fish.find fishID with
    | none => sweepFishes config random rest w
    | some f =>
      if isBomb f.fishKind then sweepFishes config random rest { w with fish := w.fish.remove fishID }
      else
        match getfishMultiple config (random f) f.fishKind with
        | none => none
        | some multiple =>
          sweepFishes config random rest ⟨w.fish.remove fishID, w.fishMultiple + multiple, f.serial :: w.awards⟩

/-- What is told of a bomb that is cashed: the share of the reward fish, which is
`math.floor(score*0.1)`, and what remains. -/
def scoreEntries (gameData : GameData) (bomb : SweepFish) (fishMultiple : Nat) : List Entry :=
  let score := sweepScore gameData.isAndroid bomb fishMultiple
  (if ¬gameData.isAndroid ∧ isRewardGoldFish bomb.fishKind then
      [.changeRewardGfInfo gameData.userID (fishMultiple * bomb.bulletMultiple / 10)]
    else []) ++ [.changeScore score, .changeItemCount gameData.userID score]

/-- `pbCatchSweepFish`. `randomMax` is what is drawn for the bomb. -/
def pbCatchSweepFish (config : FishConfig) (s : State) (chairID : Nat) (gameData : GameData) (m : CatchSweepFish)
    (random : FishTrace → Nat → Nat → Nat) (randomMax : Nat → Nat → Nat) : Option (State × List Entry) :=
  match s.sweepFishHash.find? fun b => b.fishID = m.sweepID with
  | none => some (s, [])
  | some bomb =>
    if bomb.chairID ≠ chairID then some (s, [])
    else if ¬isBomb bomb.fishKind then none
    else
      match getfishMultiple config randomMax bomb.fishKind, sweepFishes config random m.fishIDList ⟨s.fish, 0, s.awards⟩ with
      | some fishMultipleMax, some w =>
        some (cash s chairID gameData bomb w fishMultipleMax,
          scoreEntries gameData bomb (min w.fishMultiple fishMultipleMax))
      | _, _ => none

/-- `fishHash` of `lualib/config/testGame_201.lua`. -/
def fishHash201 : List (Nat × Multiple) :=
  [(0, .number 2), (1, .number 2), (2, .number 3), (3, .number 4), (4, .number 5), (5, .number 6), (6, .number 7),
    (7, .number 8),
    (8, .number 9), (9, .number 10), (10, .number 12), (11, .number 15), (12, .number 20), (13, .number 25),
      (14, .number 30),
    (15, .number 35), (16, .number 100), (17, .range 40 120), (18, .range 120 300), (19, .number 320), (20, .range 300 500),
    (21, .number 200), (22, .number 1000), (23, .number 20), (24, .number 22), (25, .number 32), (26, .number 200),
      (27, .number 500),
    (28, .number 600), (29, .number 800), (30, .number 0), (31, .number 15), (32, .number 200), (33, .number 800),
      (34, .number 100),
    (35, .number 10), (36, .number 15), (37, .number 200), (40, .number 200), (99, .number 10), (100, .number 10),
      (101, .number 10),
    (102, .number 10), (103, .number 10)]

/-- The kinds that are built end with 103. -/
theorem lt_of_isBuilt {fishKind : Nat} (h : isBuilt fishKind = true) : fishKind < 104 := by
  simp only [isBuilt, decide_eq_true_eq] at h
  omega

theorem complete_fishHash201 :
    ∀ fishKind < 104, isBuilt fishKind = true → (fishHash201.lookup fishKind).isSome = true := by decide

/-- `lualib/config/testGame_201.lua`. -/
def testGame201 : FishConfig := ⟨fishHash201, fun fishKind h => complete_fishHash201 fishKind (lt_of_isBuilt h) h⟩

/-- `createFishTraceItem` is called with a kind that is built. -/
def buildsKnown : Label → Bool
  | .createFishTraceItem fishKind _ _ _ => isBuilt fishKind
  | _ => true

end SasyServer.Catch
