import Mathlib.Algebra.Order.Ring.Rat

/-!
# The ticker and its timers

`lualib/utility/timer.lua`. The ticker is a coroutine, and `start` forks one whenever `_isTickerEnable` is false; `tickers`
holds the place of each one that has not ended. It tests `_tickStep`, counts a tick, calls the functions of the timers that
are due, and sleeps. Which timer `pairs` gives first is not determined, and what a function does is a program: both are in
the events, in which calls of the module stand anywhere except while a ticker goes through the timers without waiting.

A number is a rational. Left out are the functions, with the parameters bound to them; the exception handler counts as part
of the function that raised the error.
-/

namespace SasyServer.Ticker

/-- An item of `_activeTimer`. -/
structure Item where
  timerID : Nat
  isInterval : Bool
  interval : ℚ
  nextTick : ℚ
  deriving DecidableEq, Repr

/-- Where a ticker is: it will test `_tickStep` (it has been forked, or it sleeps), it goes through `_activeTimer`, or it has
called the function of a timer, which has not returned. -/
inductive Place where
  | tests
  | traverses
  | calls (item : Item)
  deriving DecidableEq, Repr

structure State where
  timerIDGenerator : Nat
  tick : Nat
  tickStep : ℚ
  isTickerEnable : Bool
  activeTimer : List Item
  tickers : List Place
  deriving DecidableEq, Repr

/-- The module when it has been loaded. -/
def State.init : State := ⟨10, 0, 0, false, [], []⟩

/-- The errors: "the 2nd argument must not be a negative number", "timer is not active" and "tickStep
should greater than 0". -/
inductive Refusal where
  | negativeInterval
  | notActive
  | tickStep
  deriving DecidableEq, Repr

/-- `doAddTimer`. -/
def doAddTimer (s : State) (isInterval : Bool) (interval : ℚ) : Except Refusal (State × Nat) :=
  if interval < 0 then .error .negativeInterval
  else if ¬s.isTickerEnable then .error .notActive
  else
    .ok ({ s with
      timerIDGenerator := s.timerIDGenerator + 1
      activeTimer := s.activeTimer ++ [⟨s.timerIDGenerator + 1, isInterval, interval, s.tick + interval⟩] },
        s.timerIDGenerator + 1)

/-- `setTimeout`. -/
def setTimeout (s : State) (delay : ℚ) : Except Refusal (State × Nat) := doAddTimer s false delay

/-- `setInterval`. -/
def setInterval (s : State) (interval : ℚ) : Except Refusal (State × Nat) := doAddTimer s true interval

/-- `clearTimer`. -/
def clearTimer (s : State) (timerID : Nat) : State :=
  { s with activeTimer := s.activeTimer.filter fun i => i.timerID ≠ timerID }

/-- `start`. -/
def start (s : State) (tickStep : ℚ) : Except Refusal State :=
  if tickStep ≤ 0 then .error .tickStep
  else if s.isTickerEnable then .ok { s with tickStep := tickStep }
  else .ok
    { s with tickStep := tickStep, isTickerEnable := true, tick := 0, activeTimer := [], tickers := s.tickers ++ [.tests] }

/-- `stop`. -/
def stop (s : State) : State := { s with tickStep := 0, tick := 0, activeTimer := [] }

/-! ## `ticker` -/

/-- The end of a ticker. -/
def State.ends (s : State) (k : Nat) : State := { s with isTickerEnable := false, tickers := s.tickers.eraseIdx k }

/-- The test of the outer loop, and the next tick. -/
def tests (s : State) (k : Nat) : Option State :=
  match s.tickers[k]? with
  | some .tests =>
    some (if 0 < s.tickStep then { s with tick := s.tick + 1, tickers := s.tickers.set k .traverses } else s.ends k)
  | _ => none

/-- The function of a timer that is due is called. -/
def calls (s : State) (k timerID : Nat) : Option State :=
  match s.tickers[k]?, s.activeTimer.find? fun i => i.timerID = timerID with
  | some .traverses, some item =>
    if item.nextTick ≤ s.tick then some { s with tickers := s.tickers.set k (.calls item) } else none
  | _, _ => none

/-- What the ticker does with a timer whose function has returned or has raised an error. -/
def State.returned (s : State) (item : Item) : State :=
  if item.isInterval then
    { s with
      activeTimer :=
        s.activeTimer.map fun i => if i.timerID = item.timerID then { i with nextTick := s.tick + item.interval } else i }
  else clearTimer s item.timerID

/-- The function returns, and the traversal begins again. -/
def returns (s : State) (k : Nat) : Option State :=
  match s.tickers[k]? with
  | some (.calls item) => some { s.returned item with tickers := s.tickers.set k .traverses }
  | _ => none

/-- No timer is due: the ticker sleeps, or ends when it has been stopped. -/
def sleeps (s : State) (k : Nat) : Option State :=
  match s.tickers[k]? with
  | some .traverses =>
    if s.activeTimer.all fun i => s.tick < i.nextTick then
      some (if 0 < s.tickStep then { s with tickers := s.tickers.set k .tests } else s.ends k)
    else none
  | _ => none

/-! ## The runs -/

/-- What happens next: a call of the module, or a ticker goes on. -/
inductive Event where
  | start (tickStep : ℚ)
  | stop
  | setTimeout (delay : ℚ)
  | setInterval (interval : ℚ)
  | clearTimer (timerID : Nat)
  | tests (k : Nat)
  | calls (k timerID : Nat)
  | returns (k : Nat)
  | sleeps (k : Nat)
  deriving DecidableEq, Repr

/-- No ticker is in the middle of its traversal. -/
def State.waits (s : State) : Bool := s.tickers.all fun p => p ≠ .traverses

/-- One event. A call that raises an error is refused. -/
def step (s : State) : Event → Option State
  | .start tickStep => if s.waits then (start s tickStep).toOption else none
  | .stop => if s.waits then some (stop s) else none
  | .setTimeout delay => if s.waits then (setTimeout s delay).toOption.map Prod.fst else none
  | .setInterval interval => if s.waits then (setInterval s interval).toOption.map Prod.fst else none
  | .clearTimer timerID => if s.waits then some (clearTimer s timerID) else none
  | .tests k => if s.waits then tests s k else none
  | .calls k timerID => calls s k timerID
  | .returns k => if s.waits then returns s k else none
  | .sleeps k => sleeps s k

end SasyServer.Ticker
