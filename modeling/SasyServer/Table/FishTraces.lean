import Mathlib.Data.List.Basic

/-!
# The fish of a table

`getNewFishID`, `createFishTraceItem` and `clearFishTrace` of `comprise/testGame/lualib/tableFrameSink.lua`, and the two ways
in which the handlers use `fishTraceHash`: they look a number up, and they take the fish of a number out. The caught bombs
are here too, and what `pbCatchSweepFish` makes of the fish it is given. Moments are in hundredths of a second.
-/

namespace SasyServer.Catch

def tickStep : Int := 100
def fishLiveTicks : Int := 18000

/-- An item of `fishTraceHash`. `serial` is not in the code: it tells apart the fish that get the same number, when
the numbers begin again. -/
structure FishTrace where
  fishKind : Nat
  buildTick : Int
  fishID : Int
  serial : Nat
  deriving DecidableEq, Repr

/-- The counter of the numbers and the fish; `created` is the next serial. -/
structure Fish where
  fishID : Int
  fishTraceHash : List FishTrace
  created : Nat
  deriving DecidableEq, Repr

/-- The two kinds of a world boss. -/
def isWorldBoss (fishKind : Nat) : Bool := fishKind = 29 ∨ fishKind = 33

/-- The three ways to call `clearFishTrace`: with `isForce`, with `isForce` and `isWorldBoss`, and without. -/
inductive Clear where
  | force
  | forceWorldBoss
  | old (nowTick : Int)
  deriving DecidableEq, Repr

namespace Fish

def init : Fish := ⟨0, [], 0⟩

/-- `getNewFishID`. -/
def getNewFishID (s : Fish) : Int := if s.fishID + 1 > 0xffffffff then 1 else s.fishID + 1

/-- `fishTraceHash[fishID]`. -/
def find (s : Fish) (fishID : Int) : Option FishTrace := s.fishTraceHash.find? fun f => f.fishID = fishID

/-- `fishTraceHash[fishID] = nil`. -/
def remove (s : Fish) (fishID : Int) : Fish := { s with fishTraceHash := s.fishTraceHash.filter fun f => f.fishID ≠ fishID }

/-- `createFishTraceItem`. A world boss that has been going on at other tables is as old as there; `time` is `os.time()`. -/
def createFishTraceItem (s : Fish) (fishKind : Nat) (buildTick worldBossStartTime time : Int) : Fish where
  fishID := s.getNewFishID
  fishTraceHash :=
    ⟨fishKind, if isWorldBoss fishKind ∧ worldBossStartTime ≠ 0 then buildTick - (time - worldBossStartTime) * tickStep
      else buildTick, s.getNewFishID, s.created⟩ :: s.fishTraceHash.filter fun f => f.fishID ≠ s.getNewFishID
  created := s.created + 1

/-- `clearFishTrace`. -/
def clearFishTrace (s : Fish) : Clear → Fish
  | .force => { s with fishTraceHash := [] }
  | .forceWorldBoss => { s with fishTraceHash := s.fishTraceHash.filter fun f => f.fishKind = 30 }
  | .old nowTick => { s with fishTraceHash := s.fishTraceHash.filter fun f => ¬f.buildTick + fishLiveTicks ≤ nowTick }

section Lemmas

variable {s : Fish} {f : FishTrace} {fishID : Int}

theorem of_find (h : s.find fishID = some f) : f ∈ s.fishTraceHash ∧ f.fishID = fishID :=
  ⟨List.mem_of_find?_eq_some h, by simpa using List.find?_some h⟩

@[simp]
theorem created_remove : (s.remove fishID).created = s.created := rfl

@[simp]
theorem mem_remove : f ∈ (s.remove fishID).fishTraceHash ↔ f ∈ s.fishTraceHash ∧ f.fishID ≠ fishID := by
  simp [remove]

@[simp]
theorem created_clearFishTrace (c : Clear) : (s.clearFishTrace c).created = s.created := by
  cases c <;> rfl

theorem mem_of_mem_clearFishTrace {c : Clear} (h : f ∈ (s.clearFishTrace c).fishTraceHash) : f ∈ s.fishTraceHash := by
  cases c with
  | force => cases h
  | forceWorldBoss => exact List.mem_of_mem_filter h
  | old nowTick => exact List.mem_of_mem_filter h

/-- The fish after a creation: the new one, and those that were there with other numbers. -/
theorem mem_createFishTraceItem {fishKind : Nat} {buildTick worldBossStartTime time : Int}
    (h : f ∈ (s.createFishTraceItem fishKind buildTick worldBossStartTime time).fishTraceHash) :
    (f.serial = s.created ∧ f.fishID = s.getNewFishID ∧ f.fishKind = fishKind) ∨
      (f ∈ s.fishTraceHash ∧ f.fishID ≠ s.getNewFishID) := by
  rcases List.mem_cons.1 h with rfl | h
  · exact Or.inl ⟨rfl, rfl, rfl⟩
  · exact Or.inr (by simpa using h)

end Lemmas

end Fish

/-! ## Bombs -/

/-- The three kinds of bombs. -/
def isBomb (fishKind : Nat) : Bool := fishKind = 21 ∨ fishKind = 22 ∨ fishKind = 23

/-- `isRewardGoldFish`. -/
def isRewardGoldFish (kindId : Nat) : Bool :=
  kindId = 16 ∨ kindId = 18 ∨ kindId = 19 ∨ kindId = 20 ∨ kindId = 26 ∨ kindId = 27 ∨ kindId = 28

/-- An entry of `sweepFishHash`. Not in the code: the user who has caught the bomb, and the serial of the fish. -/
structure SweepFish where
  chairID : Nat
  fishID : Int
  fishKind : Nat
  bulletKind : Int
  bulletMultiple : Int
  userID : Nat
  serial : Nat
  deriving DecidableEq, Repr

/-- What the loop of `pbCatchSweepFish` changes. Not in the code: the serials of the fish it pays for. -/
structure Sweep where
  fish : Fish
  fishMultiple : Nat
  awards : List Nat
  deriving DecidableEq, Repr

/-- The loop of `pbCatchSweepFish`: a fish that is there counts once, and is gone. `draws` is what
`getfishMultiple` gives. -/
def sweepLoop (draws : FishTrace → Nat) : List Int → Sweep → Sweep
  | [], w => w
  | fishID :: rest, w =>
    match w.fish.find fishID with
    | none => sweepLoop draws rest w
    | some f =>
      sweepLoop draws rest
        { fish := w.fish.remove fishID
          fishMultiple := if isBomb f.fishKind then w.fishMultiple else w.fishMultiple + draws f
          awards := if isBomb f.fishKind then w.awards else f.serial :: w.awards }

/-- The score of a bomb. `math.floor(score*0.1)` goes to another fund for some kinds, unless it is an android's. -/
def sweepScore (isAndroid : Bool) (bomb : SweepFish) (fishMultiple : Nat) : Int :=
  let score := fishMultiple * bomb.bulletMultiple
  if ¬isAndroid ∧ isRewardGoldFish bomb.fishKind then score - score / 10 else score

end SasyServer.Catch
