import Mathlib.Logic.Function.Basic
import SasyServer.Lib.Steps

/-!
# The timer thread

`skynet/skynet-src/skynet_timer.c`: the wheel of lists a timeout waits in, the thread that turns it, and the threads
of the services that ask for timeouts meanwhile. The thread gives the lock up while it hands messages over, and then
other threads may take it.
-/

namespace SasyServer.Skynet

abbrev timeNearShift : Nat := 8
abbrev timeNear : Nat := 1 <<< timeNearShift
abbrev timeLevelShift : Nat := 6
abbrev timeLevel : Nat := 1 <<< timeLevelShift
abbrev timeNearMask : Nat := timeNear - 1
abbrev timeLevelMask : Nat := timeLevel - 1

/-- `struct timer_event`. -/
structure TimerEvent where
  handle : Nat
  session : Nat
  deriving DecidableEq, Repr

/-- `struct timer_node` with its event. -/
structure TimerNode where
  expire : Nat
  event : TimerEvent
  /-- Not in the code: the tick the node is for, counted without the bound of 32 bits. -/
  due : Nat
  deriving DecidableEq, Repr

/-- `struct timer`. The lists of `t` are four times `timeLevel`. -/
structure Timer where
  near : Nat → List TimerNode
  t : Nat → Nat → List TimerNode
  time : Nat
  current : Nat
  currentPoint : Nat

namespace Timer

/-- `link` at a list of `near`. -/
def linkNear (T : Timer) (idx : Nat) (node : TimerNode) : Timer :=
  { T with near := Function.update T.near idx (T.near idx ++ [node]) }

/-- `link` at a list of `t`. -/
def linkLevel (T : Timer) (i idx : Nat) (node : TimerNode) : Timer :=
  { T with t := Function.update T.t i (Function.update (T.t i) idx (T.t i idx ++ [node])) }

/-- The loop of `add_node`, with the turns that are left. -/
def findLevel (time currentTime mask i : Nat) : Nat → Nat
  | 0 => i
  | n + 1 =>
    if time ||| (mask - 1) = currentTime ||| (mask - 1) then i
    else findLevel time currentTime (mask <<< timeLevelShift) (i + 1) n

/-- `add_node`. -/
def addNode (T : Timer) (node : TimerNode) : Timer :=
  let time := node.expire
  let currentTime := T.time
  if time ||| timeNearMask = currentTime ||| timeNearMask then T.linkNear (time &&& timeNearMask) node
  else
    let i := findLevel time currentTime (timeNear <<< timeLevelShift) 0 3
    T.linkLevel i ((time >>> (timeNearShift + i * timeLevelShift)) &&& timeLevelMask) node

/-- `timer_add`, with the tick that the node is for. -/
def timerAdd (T : Timer) (event : TimerEvent) (time due : Nat) : Timer × TimerNode :=
  let node := ⟨(time + T.time) % 2 ^ 32, event, due⟩
  (T.addNode node, node)

/-- `move_list`. -/
def moveList (T : Timer) (level idx : Nat) : Timer :=
  (T.t level idx).foldl addNode { T with t := Function.update T.t level (Function.update (T.t level) idx []) }

/-- The loop of `timer_shift`, with a bound on its turns. -/
def shiftLevel (T : Timer) (ct time mask i : Nat) : Nat → Timer
  | 0 => T
  | n + 1 =>
    if ct &&& (mask - 1) = 0 then
      let idx := time &&& timeLevelMask
      if idx ≠ 0 then T.moveList i idx else shiftLevel T ct (time >>> timeLevelShift) (mask <<< timeLevelShift) (i + 1) n
    else T

/-- `timer_shift`. -/
def timerShift (T : Timer) : Timer :=
  let ct := (T.time + 1) % 2 ^ 32
  let T := { T with time := ct }
  if ct = 0 then T.moveList 3 0 else shiftLevel T ct (ct >>> timeNearShift) timeNear 0 4

/-- The test and the first line of the loop of `timer_execute`. -/
def clearNear (T : Timer) : List TimerNode × Timer :=
  let idx := T.time &&& timeNearMask
  (T.near idx, { T with near := Function.update T.near idx [] })

end Timer

/-- Where the thread is in `timer_update`: not there, or in the first or the second `timer_execute`. -/
inductive TimerPhase where
  | idle
  | before
  | after
  deriving DecidableEq, Repr

/-- The timer, the timer thread and what it has sent. -/
structure TimerState where
  T : Timer
  phase : TimerPhase
  /-- The turns that are left of the loop of `skynet_updatetime`. -/
  left : Nat
  /-- What is left of the list that `dispatch_list` goes through. -/
  current : List TimerNode
  /-- Not in the code: the calls of `timer_shift`, the nodes in the order they have been made, and the messages with the
  tick they were sent in. -/
  now : Nat
  nodes : List TimerNode
  pushed : List (Nat × TimerEvent)
  /-- Not in the code: the messages that `skynet_timeout` has sent itself. -/
  direct : List TimerEvent

namespace TimerState

/-- After `skynet_timer_init`, at the given time. -/
def init (current currentPoint : Nat) : TimerState :=
  ⟨⟨fun _ => [], fun _ _ => [], 0, current, currentPoint⟩, .idle, 0, [], 0, [], [], []⟩

/-- `skynet_timeout`. -/
def skynetTimeout (s : TimerState) (handle : Nat) (time : BitVec 32) (session : Nat) : TimerState :=
  if time.toInt ≤ 0 then { s with direct := s.direct ++ [⟨handle, session⟩] }
  else
    let (T, node) := s.T.timerAdd ⟨handle, session⟩ time.toNat (s.now + time.toNat)
    { s with T, nodes := s.nodes ++ [node] }

/-- `skynet_updatetime` up to its loop, at a reading of the clock. -/
def skynetUpdatetime (s : TimerState) (cp : Nat) : TimerState :=
  if cp < s.T.currentPoint then { s with T := { s.T with currentPoint := cp } }
  else if cp ≠ s.T.currentPoint then
    let diff := (cp - s.T.currentPoint) % 2 ^ 32
    { s with T := { s.T with currentPoint := cp, current := s.T.current + diff }, left := diff }
  else s

/-- `timer_update` from where it takes the lock in the second `timer_execute`, to where it gives it up. -/
def executeAfter (s : TimerState) : TimerState :=
  let (list, T) := s.T.clearNear
  if list ≠ [] then { s with T, current := list, phase := .after } else { s with left := s.left - 1, phase := .idle }

/-- `timer_update` from where it takes the lock in the first `timer_execute`, to where it gives it up. -/
def executeBefore (s : TimerState) : TimerState :=
  let (list, T) := s.T.clearNear
  if list ≠ [] then { s with T, current := list, phase := .before }
  else executeAfter { s with T := s.T.timerShift, now := s.now + 1 }

end TimerState

/-- What happens next. -/
inductive TimerLabel where
  /-- A thread asks for a timeout. -/
  | timeout (handle : Nat) (time : BitVec 32) (session : Nat)
  /-- The timer thread reads the clock. -/
  | updatetime (cp : Nat)
  /-- The timer thread takes the lock. -/
  | lock
  /-- The timer thread sends the next message of `dispatch_list`. -/
  | push
  deriving DecidableEq, Repr

/-- One label; the timer thread does one thing after the other. -/
def timerStep (s : TimerState) : TimerLabel → Option TimerState
  | .timeout handle time session => some (s.skynetTimeout handle time session)
  | .updatetime cp => if s.phase = .idle ∧ s.left = 0 then some (s.skynetUpdatetime cp) else none
  | .lock =>
    if s.current = [] then
      match s.phase with
      | .idle => if s.left = 0 then none else some s.executeBefore
      | .before => some s.executeBefore
      | .after => some s.executeAfter
    else none
  | .push =>
    match s.current with
    | [] => none
    | node :: current => some { s with pushed := s.pushed ++ [(s.now, node.event)], current }

end SasyServer.Skynet
