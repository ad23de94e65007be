import SasyServer.Lib.Steps
import SasyServer.Skynet.MessageQueue

/-!
# The workers of skynet

`skynet/skynet-src/skynet_server.c` with the list of the queues of `skynet_mq.c` and the table of `skynet_handle.c`: what the
threads of a process do to services and their queues. One step is what a thread does under one lock, one change of a
reference count, or one access to a context that the thread has no reference to. A service is known by its handle, and a
handle is not given out again before the queue of the service that had it has been freed; the code does not ask for that.

The threads that send messages and retire services are not told apart: `holding` says how many references to a service they
have, and whoever has one may send a message or give it back. Whichever thread gives the last reference back deletes the
service, some time later.
-/

namespace SasyServer.Skynet

/-- What the workers use of `struct skynet_context`. -/
structure Context where
  ref : Int
  init : Bool
  deriving DecidableEq, Repr

/-- Where a thread is. -/
inductive Phase where
  /-- Not in use. -/
  | off
  /-- `skynet_context_message_dispatch` is going to take a queue from the list. -/
  | fetch
  /-- It has the queue of a service. -/
  | take (handle : Nat)
  /-- `skynet_mq_release`, called by a worker or by `skynet_context_new`. -/
  | discard (handle : Nat) (worker : Bool)
  /-- `_drop_queue`. -/
  | drop (handle : Nat) (worker : Bool)
  /-- The loop of the worker, with `i` and `n`: before the message is taken, before its length is read, and
  while the callback runs. -/
  | loop (handle i n : Nat)
  | popped (handle i n : Nat) (message : Message)
  | call (handle i n : Nat) (message : Message)
  /-- The queue was empty. -/
  | empty (handle : Nat)
  /-- After the loop: before the next queue is taken, before the queue is put back, and before the context is released. -/
  | done (handle : Nat)
  | push (handle nq : Nat)
  | release (handle q : Nat)
  /-- `skynet_context_new`: in the init function, and after it has failed. -/
  | init (handle : Nat)
  | failed (handle : Nat)
  /-- After the init function has succeeded and the thread has given its reference back, which may have been the
  last one: before `ctx->init = true`, before the queue is put into the list, in `skynet_error`, and where the
  caller reads the handle. -/
  | ready (handle : Nat)
  | start (handle : Nat) (ret : Bool)
  | report (handle : Nat)
  | result (handle : Nat)
  deriving DecidableEq, Repr

/-- The process. -/
structure Node where
  threads : List Phase
  /-- The list of `struct global_queue`. -/
  globalQueue : List Nat
  queue : Nat → Option MessageQueue
  context : Nat → Option Context
  /-- The service is in the table of `skynet_handle.c`. -/
  slot : Nat → Bool
  /-- The references that threads outside the workers' loop have. -/
  holding : Nat → Nat
  /-- Not in the code: an assertion has failed, or something freed has been used, in any other place than in `stale`. -/
  broken : Bool
  /-- Not in the code: the thread that created a service has used its context when that had been freed. -/
  stale : Bool
  /-- Not in the code: the messages pushed to the queue of a service, taken from it by a worker, and dropped with it. -/
  sent : Nat → List Message
  taken : Nat → List Message
  dropped : Nat → List Message

namespace Node

/-- The workers, and other threads that may create services. -/
def start (workers others : Nat) : Node :=
  ⟨List.replicate workers .fetch ++ List.replicate others .off, [], fun _ => none, fun _ => none, fun _ => false,
    fun _ => 0, false, false, fun _ => [], fun _ => [], fun _ => []⟩

def setPhase (s : Node) (t : Nat) (phase : Phase) : Node := { s with threads := s.threads.set t phase }

def setQueue (s : Node) (handle : Nat) (q : Option MessageQueue) : Node :=
  { s with queue := Function.update s.queue handle q }

def setContext (s : Node) (handle : Nat) (ctx : Option Context) : Node :=
  { s with context := Function.update s.context handle ctx }

/-- Something that does not exist is used. -/
def fail (s : Node) : Node := { s with broken := true }

/-- `skynet_globalmq_push`, with its assertion. -/
def globalmqPush (s : Node) (handle : Nat) : Node :=
  { s with globalQueue := s.globalQueue ++ [handle], broken := s.broken || decide (handle ∈ s.globalQueue) }

/-- `skynet_mq_push`. -/
def mqPush (s : Node) (handle : Nat) (message : Message) : Node :=
  match s.queue handle with
  | none => s.fail
  | some q =>
    let s := { s with sent := Function.update s.sent handle (s.sent handle ++ [message]) }
    let q := q.push message
    if q.inGlobal then s.setQueue handle (some q)
    else (s.setQueue handle (some { q with inGlobal := true })).globalmqPush handle

/-- `skynet_context_grab`. -/
def contextGrab (s : Node) (handle : Nat) : Node :=
  match s.context handle with
  | none => s.fail
  | some ctx => s.setContext handle (some { ctx with ref := ctx.ref + 1 })

/-- The change of the reference count in `skynet_context_release`. -/
def contextRelease (s : Node) (handle : Nat) : Node :=
  match s.context handle with
  | none => s.fail
  | some ctx => s.setContext handle (some { ctx with ref := ctx.ref - 1 })

/-- The rest of `skynet_context_release`, when the count is zero: `delete_context` with `skynet_mq_mark_release`. -/
def deleteContext (s : Node) (handle : Nat) : Node :=
  match s.queue handle with
  | none => s.fail
  | some q =>
    let s := (s.setContext handle none).setQueue handle (some { q with release := true })
    let s := { s with broken := s.broken || q.release }
    if q.inGlobal then s else s.globalmqPush handle

/-- A thread without a reference reads a context. -/
def readContext (s : Node) (handle : Nat) : Node := if (s.context handle).isSome then s else { s with stale := true }

/-- `ctx->init = true` in `skynet_context_new`. -/
def setInit (s : Node) (handle : Nat) : Node :=
  match s.context handle with
  | none => { s with stale := true }
  | some ctx => s.setContext handle (some { ctx with init := true })

/-- A thread that is not a worker's has nothing to do after `skynet_mq_release`. -/
def idle (worker : Bool) : Phase := if worker then .fetch else .off

/-- The next step of a thread, of the weight given. -/
def run (s : Node) (t : Nat) (weight : Int) : Phase → Option Node
  | .off => none
  | .fetch =>
    match s.globalQueue with
    | [] => some s
    | handle :: rest => some (setPhase { s with globalQueue := rest } t (.take handle))
  | .take handle =>
    if s.slot handle then some ((s.contextGrab handle).setPhase t (.loop handle 0 1))
    else some (s.setPhase t (.discard handle true))
  | .discard handle worker =>
    match s.queue handle with
    | none => some s.fail
    | some q =>
      if q.release then some (s.setPhase t (.drop handle worker))
      else some ((s.globalmqPush handle).setPhase t (idle worker))
  | .drop handle worker =>
    match s.queue handle with
    | none => some s.fail
    | some q =>
      match q.pop with
      | (some message, q) =>
        some (setQueue { s with dropped := Function.update s.dropped handle (s.dropped handle ++ [message]) }
          handle (some q))
      | (none, _) =>
        let s := { s with broken := s.broken || decide (handle ∈ s.globalQueue) }
        some ((s.setQueue handle none).setPhase t (idle worker))
  | .loop handle i n =>
    match s.queue handle with
    | none => some s.fail
    | some q =>
      match q.pop with
      | (some message, q) =>
        let s := { s with taken := Function.update s.taken handle (s.taken handle ++ [message]) }
        some ((s.setQueue handle (some q)).setPhase t (.popped handle i n message))
      | (none, q) => some ((s.setQueue handle (some q)).setPhase t (.empty handle))
  | .popped handle i n message =>
    match s.queue handle, s.context handle with
    | some q, some ctx =>
      let n := if i = 0 ∧ weight ≥ 0 then q.length >>> weight.toNat else n
      let s := { s with broken := s.broken || !ctx.init }
      some ((s.setQueue handle (some { q with overload := 0 })).setPhase t (.call handle i n message))
    | _, _ => some s.fail
  | .call handle i n _ =>
    if i + 1 < n then some (s.setPhase t (.loop handle (i + 1) n)) else some (s.setPhase t (.done handle))
  | .empty handle => some ((s.contextRelease handle).setPhase t .fetch)
  | .done handle =>
    match s.globalQueue with
    | [] => some (s.setPhase t (.release handle handle))
    | nq :: rest => some (setPhase { s with globalQueue := rest } t (.push handle nq))
  | .push handle nq => some ((s.globalmqPush handle).setPhase t (.release handle nq))
  | .release handle q => some ((s.contextRelease handle).setPhase t (.take q))
  | .init _ => none
  | .ready handle => some ((s.setInit handle).setPhase t (.start handle true))
  | .start handle ret => some ((s.globalmqPush handle).setPhase t (if ret then .report handle else .off))
  | .report handle => some ((s.readContext handle).setPhase t (.result handle))
  | .result handle => some ((s.readContext handle).setPhase t .off)
  | .failed handle =>
    if s.slot handle then
      some (setPhase { s with
        slot := Function.update s.slot handle false,
        holding := Function.update s.holding handle (s.holding handle + 1) } t
        (.discard handle false))
    else some (s.setPhase t (.discard handle false))

/-- `skynet_context_new` up to the init function. -/
def contextNew (s : Node) (t handle : Nat) : Node :=
  { s with
    threads := s.threads.set t (.init handle)
    queue := Function.update s.queue handle (some .create)
    context := Function.update s.context handle (some ⟨2, false⟩)
    slot := Function.update s.slot handle true
    sent := Function.update s.sent handle []
    taken := Function.update s.taken handle []
    dropped := Function.update s.dropped handle [] }

/-- The init function has returned `0`: the change of the reference count, and its answer. -/
def initDone (s : Node) (t handle : Nat) : Node :=
  match s.context handle with
  | none => s.fail
  | some ctx => (s.contextRelease handle).setPhase t (if ctx.ref - 1 = 0 then .start handle false else .ready handle)

end Node

/-- What happens next. -/
inductive NodeLabel where
  /-- A thread does its next step. -/
  | run (t : Nat)
  /-- A thread creates a service, and its init function returns. -/
  | contextNew (t handle : Nat)
  | initDone (t : Nat)
  | initFailed (t : Nat)
  /-- `skynet_handle_grab`, `skynet_mq_push`, `skynet_context_release` and `skynet_handle_retire` by any thread. -/
  | grab (handle : Nat)
  | send (handle : Nat) (message : Message)
  | unref (handle : Nat)
  | retire (handle : Nat)
  /-- A thread has given the last reference back. -/
  | delete (handle : Nat)
  deriving DecidableEq, Repr

open Node in
/-- One label, in a process whose threads have the weights given. -/
def nodeStep (weight : Nat → Int) (s : Node) : NodeLabel → Option Node
  | .run t => (s.threads[t]?).bind (s.run t (weight t))
  | .contextNew t handle => if s.threads[t]? = some .off ∧ s.queue handle = none then some (s.contextNew t handle) else none
  | .initDone t =>
    match s.threads[t]? with
    | some (.init handle) => some (s.initDone t handle)
    | _ => none
  | .initFailed t =>
    match s.threads[t]? with
    | some (.init handle) => some ((s.contextRelease handle).setPhase t (.failed handle))
    | _ => none
  | .grab handle =>
    if s.slot handle then
      some (contextGrab { s with holding := Function.update s.holding handle (s.holding handle + 1) } handle)
    else none
  | .send handle message => if 0 < s.holding handle then some (s.mqPush handle message) else none
  | .unref handle =>
    if 0 < s.holding handle then
      some (contextRelease { s with holding := Function.update s.holding handle (s.holding handle - 1) } handle)
    else none
  | .retire handle =>
    if s.slot handle then
      some { s with
        slot := Function.update s.slot handle false,
        holding := Function.update s.holding handle (s.holding handle + 1) }
    else none
  | .delete handle =>
    match s.context handle with
    | some ctx => if ctx.ref = 0 then some (s.deleteContext handle) else none
    | none => none

end SasyServer.Skynet
