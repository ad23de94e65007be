import Mathlib.Data.List.Nodup
import Mathlib.Logic.Function.Basic
import SasyServer.Lib.Steps

/-!
# The critical section

`skynet/lualib/skynet/queue.lua`, which the table frames, the connections and the android manager run their handlers in: the
variables of one queue, and the threads that call it. A function called in the queue may wait, and then other threads run; it
may call the queue again; and it may end with an error, which `xpcall_ret` raises again after it has left.

A thread that is in `skynet.wait` does nothing until `skynet.wakeup` has put it into the list of the scheduler, and the
scheduler resumes it some time later.
-/

namespace SasyServer.CriticalSection

/-- The variables of `skynet.queue`, and where the threads are. -/
structure State where
  currentThread : Option Nat
  ref : Int
  threadQueue : List Nat
  /-- The calls of the queue on the stack of a thread whose functions are running. -/
  depth : Nat → Nat
  /-- The threads that have been woken and not resumed. -/
  woken : List Nat
  /-- Not in the code: an assertion has failed. -/
  failed : Bool
  /-- Not in the code: the threads that have called the queue from outside, and those whose function has been
  started, in this order. -/
  asked : List Nat
  entered : List Nat

def State.init : State := ⟨none, 0, [], fun _ => 0, [], false, [], []⟩

/-- The last lines of the function that `skynet.queue` returns, which start `f`. -/
def enter (s : State) (thread : Nat) : State :=
  { s with
    currentThread := some thread
    ref := s.ref + 1
    depth := Function.update s.depth thread (s.depth thread + 1)
    entered := if s.depth thread = 0 then s.entered ++ [thread] else s.entered }

/-- A thread calls the queue. -/
def call (s : State) (thread : Nat) : State :=
  let s := if s.depth thread = 0 then { s with asked := s.asked ++ [thread] } else s
  if s.currentThread ≠ none ∧ s.currentThread ≠ some thread then { s with threadQueue := s.threadQueue ++ [thread] }
  else enter s thread

/-- `skynet.wait` returns, with the assertion after it. -/
def resume (s : State) (thread : Nat) : State :=
  let s := { s with woken := s.woken.erase thread }
  if s.ref = 0 then enter s thread else { s with failed := true }

/-- `xpcall_ret`. -/
def xpcallRet (s : State) (thread : Nat) : State :=
  let s := { s with ref := s.ref - 1, depth := Function.update s.depth thread (s.depth thread - 1) }
  if s.ref = 0 then
    { s with
      currentThread := s.threadQueue.head?, threadQueue := s.threadQueue.tail,
      woken := s.woken ++ s.threadQueue.head?.toList }
  else s

/-- What a thread does next. -/
inductive Label where
  | call (thread : Nat)
  | resume (thread : Nat)
  | ret (thread : Nat)
  deriving DecidableEq, Repr

/-- One label. A thread that waits does nothing, and only a function that is running returns. -/
def step (s : State) : Label → Option State
  | .call thread => if thread ∈ s.threadQueue ∨ thread ∈ s.woken then none else some (call s thread)
  | .resume thread => if thread ∈ s.woken then some (resume s thread) else none
  | .ret thread => if thread ∈ s.threadQueue ∨ thread ∈ s.woken ∨ s.depth thread = 0 then none else some (xpcallRet s thread)

end SasyServer.CriticalSection
