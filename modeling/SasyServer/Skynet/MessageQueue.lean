import SasyServer.Lib.RingBuffer

/-!
# The message queue of a service

`skynet/skynet-src/skynet_mq.c` without the locks and the list of the queues: what happens to one
queue while its lock is held.
-/

namespace SasyServer.Skynet

def defaultQueueSize : Nat := 64
def mqOverload : Nat := 1024

/-- `struct skynet_message`. -/
structure Message where
  source : Nat
  session : Int
  data : List UInt8
  sz : Nat
  deriving DecidableEq, Repr

/-- `struct message_queue`; `queue` is the ring of `cap`, `head` and `tail`. -/
structure MessageQueue where
  queue : RingBuffer Message
  release : Bool
  inGlobal : Bool
  overload : Nat
  overloadThreshold : Nat

namespace MessageQueue

/-- `skynet_mq_create`. -/
def create : MessageQueue :=
  { queue := ⟨defaultQueueSize, 0, 0, fun _ => ⟨0, 0, [], 0⟩⟩
    release := false
    inGlobal := true
    overload := 0
    overloadThreshold := mqOverload }

/-- `skynet_mq_length`. -/
def length (q : MessageQueue) : Nat :=
  if q.queue.head ≤ q.queue.tail then q.queue.tail - q.queue.head else q.queue.tail + q.queue.cap - q.queue.head

/-- The loop of `skynet_mq_pop` that raises the threshold, with a bound on its turns. -/
def raise (length : Nat) : Nat → MessageQueue → MessageQueue
  | 0, q => q
  | n + 1, q =>
    if length > q.overloadThreshold then
      raise length n { q with overload := length, overloadThreshold := q.overloadThreshold * 2 } else q

/-- `skynet_mq_pop`. -/
def pop (q : MessageQueue) : Option Message × MessageQueue :=
  match q.queue.pop with
  | some (message, queue) =>
    let q := { q with queue }
    (some message, raise q.length q.length q)
  | none => (none, { q with overloadThreshold := mqOverload, inGlobal := false })

/-- `skynet_mq_push` up to where the queue is put into the list: the ring doubles when it is full. -/
def push (q : MessageQueue) (message : Message) : MessageQueue := { q with queue := q.queue.push q.queue.cap message }

/-- The messages, the oldest first. -/
def toList (q : MessageQueue) : List Message := q.queue.toList

@[simp] theorem queue_raise (length n : Nat) (q : MessageQueue) : (raise length n q).queue = q.queue := by
  induction n generalizing q with
  | zero => rfl
  | succ n ih =>
    unfold raise
    split
    · exact ih _
    · rfl

@[simp] theorem flags_raise (length n : Nat) (q : MessageQueue) :
    (raise length n q).release = q.release ∧ (raise length n q).inGlobal = q.inGlobal := by
  induction n generalizing q with
  | zero => exact ⟨rfl, rfl⟩
  | succ n ih =>
    unfold raise
    split
    · exact ih _
    · exact ⟨rfl, rfl⟩

theorem wf_create : create.queue.WF := ⟨by decide, by decide⟩

/-- The length is the number of messages. -/
theorem length_eq {q : MessageQueue} (h : q.queue.WF) : q.length = q.toList.length := by
  rw [toList, RingBuffer.length_toList, RingBuffer.count_eq h]
  rfl

/-- A push puts the message last. -/
theorem push_spec {q : MessageQueue} (h : q.queue.WF) (message : Message) :
    (q.push message).queue.WF ∧ (q.push message).toList = q.toList ++ [message] :=
  have hcap : 0 < q.queue.cap := Nat.lt_of_le_of_lt (Nat.zero_le _) h.head_lt
  ⟨h.push hcap message, RingBuffer.toList_push h hcap message⟩

/-- A pop takes the first message. -/
theorem pop_some {q q' : MessageQueue} {message : Message} (h : q.queue.WF) (hp : q.pop = (some message, q')) :
    q'.queue.WF ∧ q.toList = message :: q'.toList ∧ q'.release = q.release ∧ q'.inGlobal = q.inGlobal := by
  unfold pop at hp
  split at hp
  · rename_i m queue hq
    obtain ⟨hm, rfl⟩ := Prod.mk.inj hp
    obtain rfl := Option.some.inj hm
    obtain ⟨hwf, hl⟩ := RingBuffer.pop_eq_some h hq
    refine ⟨?_, ?_, flags_raise _ _ _⟩
    · rwa [queue_raise]
    · rwa [toList, toList, queue_raise]
  · cases (Prod.mk.inj hp).1

/-- A pop of an empty queue says that the queue is not in the list any more. -/
theorem pop_none {q q' : MessageQueue} (h : q.queue.WF) (hp : q.pop = (none, q')) :
    q'.queue.WF ∧ q.toList = [] ∧ q'.toList = [] ∧ q'.release = q.release ∧ q'.inGlobal = false := by
  unfold pop at hp
  split at hp
  · cases (Prod.mk.inj hp).1
  · rename_i hq
    obtain rfl := (Prod.mk.inj hp).2
    have hn := (RingBuffer.pop_eq_none h).1 hq
    exact ⟨h, hn, hn, rfl, rfl⟩

end MessageQueue

end SasyServer.Skynet
