import Mathlib.Data.List.AList
import SasyServer.Lib.Steps

/-!
# The paths of the fish

`lualib/utility/path.lua`. A configuration has the numbers of its paths, and the paths that are used with the ticks at which
they were taken. What `randHandle.random` draws is given, and so is the tick of a call. The loop of `getPathID` is given a
number of rounds, and what it does after these is not said.
-/

namespace SasyServer.Path

/-- An entry of `_pathConfigItemHash`. -/
structure PathConfigItem where
  min : Int
  max : Int
  count : Int
  intervalTicks : Int
  idHash : AList fun _ : Int => Int

/-- `_pathConfigItemHash`. -/
abbrev PathConfigItemHash := String → Option PathConfigItem

/-- The entry that `initPathConfig` makes. -/
def PathConfigItem.init (min max intervalTicks : Int) : PathConfigItem :=
  { min := min, max := max, count := max - min + 1, intervalTicks := intervalTicks, idHash := ∅ }

/-- `checkPathStatus`, for an entry. -/
def checkPathStatus (pathConfigItem : PathConfigItem) (nowTick : Int) : PathConfigItem :=
  { pathConfigItem with
    idHash :=
      { entries := pathConfigItem.idHash.entries.filter fun e => ¬(e.2 + pathConfigItem.intervalTicks < nowTick)
        nodupKeys := pathConfigItem.idHash.nodupKeys.sublist List.filter_sublist } }

/-- The loop of `getPathID`, from `pathID` on: it ends at a path that is free, or where it began. -/
def probe (pathConfigItem : PathConfigItem) (originalPathID : Int) : Nat → Int → Option Int
  | 0, _ => none
  | rounds + 1, pathID =>
    let pathID := pathID + 1
    let pathID := if pathID > pathConfigItem.max then pathConfigItem.min else pathID
    if pathID ∉ pathConfigItem.idHash then some pathID
    else if pathID = originalPathID then some pathID
    else probe pathConfigItem originalPathID rounds pathID

/-- The path of `getPathID`, if there is one. -/
def findPathID (rounds : Nat) (pathConfigItem : PathConfigItem) (draw : Int) : Option (Option Int) :=
  if draw ∈ pathConfigItem.idHash then
    (probe pathConfigItem draw rounds draw).map fun pathID => if pathID = draw then none else some pathID
  else some (some draw)

/-- `getPathID`, for an entry. -/
def getPathID (rounds : Nat) (pathConfigItem : PathConfigItem) (draw nowTick : Int) : Option (Option Int × PathConfigItem) :=
  (findPathID rounds pathConfigItem draw).map fun
    | some pathID => (some pathID, { pathConfigItem with idHash := pathConfigItem.idHash.insert pathID nowTick })
    | none => (none, pathConfigItem)

/-- `isPathAllUsed`, for an entry. -/
def isPathAllUsed (pathConfigItem : PathConfigItem) : Bool := pathConfigItem.idHash.entries.length ≥ pathConfigItem.count

/-- `reset`, for an entry. -/
def reset (pathConfigItem : PathConfigItem) : PathConfigItem := { pathConfigItem with idHash := ∅ }

/-- The functions of the module, with the draw of `getPathID`. -/
inductive Call where
  | initPathConfig (name : String) (min max intervalTicks : Int)
  | checkPathStatus (name : String) (nowTick : Int)
  | checkAllPathStatus (nowTick : Int)
  | getPathID (name : String) (nowTick draw : Int)
  | isPathAllUsed (name : String)
  | reset (name : String)
  | resetAll
  deriving DecidableEq, Repr

/-- What they return, or the error they raise. -/
inductive Answer where
  | nothing
  | pathID (pathID : Option Int)
  | isPathAllUsed (r : Bool)
  | error (text : String)
  deriving DecidableEq, Repr

section Calls

variable (serviceName : String) (rounds : Nat) (pathConfigItemHash : PathConfigItemHash)

/-- `getPathConfigItem`, and what its caller does with the entry. -/
def withPathConfigItem (name : String) (f : PathConfigItem → Option (PathConfigItemHash × Answer)) :
    Option (PathConfigItemHash × Answer) :=
  match pathConfigItemHash name with
  | some pathConfigItem => f pathConfigItem
  | none => some (pathConfigItemHash, .error (serviceName ++ " 找不到路径配置 " ++ name))

/-- One call, if its loop ends within the rounds. -/
def call : Call → Option (PathConfigItemHash × Answer)
  | .initPathConfig name min max intervalTicks =>
    some (Function.update pathConfigItemHash name (some (.init min max intervalTicks)), .nothing)
  | .checkPathStatus name nowTick =>
    withPathConfigItem serviceName pathConfigItemHash name fun item =>
      some (Function.update pathConfigItemHash name (some (checkPathStatus item nowTick)), .nothing)
  | .checkAllPathStatus nowTick =>
    some (fun name => (pathConfigItemHash name).map fun item => checkPathStatus item nowTick, .nothing)
  | .getPathID name nowTick draw =>
    withPathConfigItem serviceName pathConfigItemHash name fun item =>
      (getPathID rounds item draw nowTick).map fun p => (Function.update pathConfigItemHash name (some p.2), .pathID p.1)
  | .isPathAllUsed name =>
    withPathConfigItem serviceName pathConfigItemHash name fun item =>
      some (pathConfigItemHash, .isPathAllUsed (isPathAllUsed item))
  | .reset name =>
    withPathConfigItem serviceName pathConfigItemHash name fun item =>
      some (Function.update pathConfigItemHash name (some (reset item)), .nothing)
  | .resetAll => some (fun name => (pathConfigItemHash name).map reset, .nothing)

/-- The entries after one call. -/
def step (c : Call) : Option PathConfigItemHash := (call serviceName rounds pathConfigItemHash c).map Prod.fst

end Calls

/-- A configuration has `min ≤ max`, and the generator draws a number from `min` to `max`. -/
def Drawn (pathConfigItemHash : PathConfigItemHash) : Call → Prop
  | .initPathConfig _ min max _ => min ≤ max
  | .getPathID name _ draw => ∀ item ∈ pathConfigItemHash name, item.min ≤ draw ∧ draw ≤ item.max
  | _ => True

instance Drawn.decidable (pathConfigItemHash : PathConfigItemHash) : ∀ c : Call, Decidable (Drawn pathConfigItemHash c)
  | .initPathConfig _ min max _ => inferInstanceAs (Decidable (min ≤ max))
  | .getPathID name _ draw =>
    inferInstanceAs (Decidable (∀ item ∈ pathConfigItemHash name, item.min ≤ draw ∧ draw ≤ item.max))
  | .checkPathStatus .. | .checkAllPathStatus _ | .isPathAllUsed _ | .reset _ | .resetAll => .isTrue trivial

/-- The number of paths that a call configures. -/
def Call.count : Call → Int
  | .initPathConfig _ min max _ => max - min + 1
  | _ => 0

/-- No configuration yet. -/
def noPaths : PathConfigItemHash := fun _ => none

end SasyServer.Path
