import Mathlib.Data.List.Basic

/-!
# The timers of a service

`lualib/utility/timer.lua`. The ticker wakes up, counts a tick, calls the functions of the timers that are due, one after the
other, and sleeps again. The function of a timer may have to wait for its turn: `running` is the timeout whose function has
been called and has not returned. Only timeouts of one function are kept, with the parameter bound to it. All of the module
is in `Ticker`, of which this is what a service sees that has nothing but such timeouts.
-/

namespace SasyServer

/-- An item of `_activeTimer`. -/
structure Timeout where
  timerID : Nat
  nextTick : Nat
  bindParameter : Nat
  deriving DecidableEq, Repr

/-- The ticker. `tickStep` says that `_tickStep` is positive, `awake` that the ticker does not sleep. -/
structure Timer where
  timerIDGenerator : Nat
  tick : Nat
  tickStep : Bool
  isTickerEnable : Bool
  activeTimer : List Timeout
  awake : Bool
  running : Option Timeout
  deriving DecidableEq, Repr

namespace Timer

/-- Before the first `start`. -/
def init : Timer := ⟨10, 0, false, false, [], false, none⟩

/-- `setTimeout`; without the ticker it is an error. -/
def setTimeout (t : Timer) (delay bindParameter : Nat) : Option (Timer × Nat) :=
  if t.isTickerEnable then
    some ({ t with
      timerIDGenerator := t.timerIDGenerator + 1
      activeTimer := t.activeTimer ++ [⟨t.timerIDGenerator + 1, t.tick + delay, bindParameter⟩] }, t.timerIDGenerator + 1)
  else none

/-- `clearTimer`. -/
def clearTimer (t : Timer) (timerID : Nat) : Timer :=
  { t with activeTimer := t.activeTimer.filter fun i => i.timerID ≠ timerID }

/-- `start`. A ticker that has been stopped and has not ended yet goes on. -/
def start (t : Timer) : Timer :=
  if t.isTickerEnable then { t with tickStep := true }
  else { t with tickStep := true, isTickerEnable := true, tick := 0, activeTimer := [] }

/-- `stop`. -/
def stop (t : Timer) : Timer := { t with tickStep := false, tick := 0, activeTimer := [] }

/-- The ticker wakes up: a new tick, or its end when it has been stopped. -/
def wake (t : Timer) : Option Timer :=
  if t.isTickerEnable ∧ ¬t.awake then
    some (if t.tickStep then { t with tick := t.tick + 1, awake := true } else { t with isTickerEnable := false })
  else none

/-- The ticker calls the function of a timer that is due. -/
def call (t : Timer) (timerID : Nat) : Option Timer :=
  match t.running, t.activeTimer.find? fun i => i.timerID = timerID with
  | none, some i => if t.awake ∧ i.nextTick ≤ t.tick then some { t with running := some i } else none
  | _, _ => none

/-- The function has returned, or has raised an error: the timer is cleared. -/
def returned (t : Timer) (i : Timeout) : Timer := { t.clearTimer i.timerID with running := none }

/-- No timer is due any more: the ticker sleeps, or ends when it has been stopped. -/
def sleep (t : Timer) : Option Timer :=
  if t.awake ∧ t.running = none ∧ t.activeTimer.all (fun i => t.tick < i.nextTick) then
    some { t with awake := false, isTickerEnable := t.tickStep }
  else none

end Timer

end SasyServer
