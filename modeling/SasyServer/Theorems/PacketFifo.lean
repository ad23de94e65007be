import SasyServer.Lemmas.PacketQueue

/-!
# Theorem: the queue of packets is a first-in first-out list

Any sequence of `pushData` and `lpop`, from a queue that does not exist yet or has just been made, whatever its table of
unfinished packets. The ring keeps its indices on the circle, and one operation on it is the same operation on the list of
its packets; the table is never touched.
-/

namespace SasyServer.Websocket

/-- An operation on the queue. -/
inductive QueueOp where
  | pushData (fd : Nat) (buffer : List UInt8) (size : Int)
  | lpop
  deriving DecidableEq, Repr

/-- A sequence of operations: what each pop has returned, and the queue. -/
def queueRun : Option Queue → List QueueOp → List (Option NetPack) × Option Queue
  | L, [] => ([], L)
  | L, .pushData fd buffer size :: ops => queueRun (some (pushData L fd buffer size)) ops
  | L, .lpop :: ops =>
    match lpop L with
    | some (p, L') => (some p :: (queueRun L' ops).1, (queueRun L' ops).2)
    | none => (none :: (queueRun L ops).1, (queueRun L ops).2)

/-- The same operations on a list. -/
def fifoRun : List NetPack → List QueueOp → List (Option NetPack) × List NetPack
  | l, [] => ([], l)
  | l, .pushData fd buffer size :: ops => fifoRun (l ++ [⟨fd, size, buffer⟩]) ops
  | p :: l, .lpop :: ops => (some p :: (fifoRun l ops).1, (fifoRun l ops).2)
  | [], .lpop :: ops => (none :: (fifoRun [] ops).1, (fifoRun [] ops).2)

/-- The queue at the start: none, or a new one with a table. -/
def startQueue (table : Option (Nat → List Uncomplete)) : Option Queue :=
  table.map fun hash => { getQueue none with hash := hash }

/-- The table of a queue. -/
def tableOf (L : Option Queue) : Nat → List Uncomplete := (getQueue L).hash

/-- A pop takes the first packet of the list and leaves the table. -/
theorem lpop_cases {L : Option Queue} (hwf : (getQueue L).toRingBuffer.WF) :
    (lpop L = none ∧ packets L = []) ∨
      ∃ p L', lpop L = some (p, L') ∧ packets L = p :: packets L' ∧ (getQueue L').toRingBuffer.WF ∧
        tableOf L' = tableOf L := by
  cases L with
  | none => exact Or.inl ⟨rfl, rfl⟩
  | some q =>
    cases hpop : q.toRingBuffer.pop with
    | none =>
      refine Or.inl ⟨?_, (RingBuffer.pop_eq_none hwf).1 hpop⟩
      rw [lpop, Option.bind_some, hpop, Option.map_none]
    | some x =>
      obtain ⟨p, r⟩ := x
      obtain ⟨hwf', hlist⟩ := RingBuffer.pop_eq_some hwf hpop
      refine Or.inr ⟨p, some { r with hash := q.hash }, ?_, hlist, hwf', rfl⟩
      rw [lpop, Option.bind_some, hpop, Option.map_some]

/-- The operations on a ring whose indices are on the circle. -/
theorem queueRun_eq (ops : List QueueOp) : ∀ {L : Option Queue}, (getQueue L).toRingBuffer.WF →
    (queueRun L ops).1 = (fifoRun (packets L) ops).1 ∧ packets (queueRun L ops).2 = (fifoRun (packets L) ops).2 ∧
      tableOf (queueRun L ops).2 = tableOf L := by
  induction ops with
  | nil => exact fun _ => ⟨rfl, rfl, rfl⟩
  | cons op ops ih =>
    intro L hwf
    cases op with
    | pushData fd buffer size =>
      have hpush : packets (some (pushData L fd buffer size)) = packets L ++ [⟨fd, size, buffer⟩] :=
        RingBuffer.toList_push hwf (by decide) _
      obtain ⟨hpops, hrest, htable⟩ := ih (L := some (pushData L fd buffer size)) (hwf.push (by decide) _)
      rw [queueRun, fifoRun, ← hpush]
      exact ⟨hpops, hrest, htable⟩
    | lpop =>
      obtain ⟨hnone, hempty⟩ | ⟨p, L', hsome, hlist, hwf', htable'⟩ := lpop_cases hwf
      · obtain ⟨hpops, hrest, htable⟩ := ih hwf
        rw [hempty] at hpops hrest
        rw [queueRun, hnone, hempty, fifoRun]
        exact ⟨congrArg _ hpops, hrest, htable⟩
      · obtain ⟨hpops, hrest, htable⟩ := ih hwf'
        rw [queueRun, hsome, hlist, fifoRun]
        exact ⟨congrArg _ hpops, hrest, htable.trans htable'⟩

/-- For every sequence of operations: every pop returns what it returns on a list, what is left is what is left of the list,
and the table is the one at the start. -/
theorem queueRun_fifo (table : Option (Nat → List Uncomplete)) (ops : List QueueOp) :
    (queueRun (startQueue table) ops).1 = (fifoRun [] ops).1 ∧
      packets (queueRun (startQueue table) ops).2 = (fifoRun [] ops).2 ∧
      tableOf (queueRun (startQueue table) ops).2 = tableOf (startQueue table) := by
  have hring : (getQueue (startQueue table)).toRingBuffer = (getQueue none).toRingBuffer := by
    cases table with
    | none => rfl
    | some hash => rfl
  have hempty : packets (startQueue table) = [] := by
    rw [packets, hring]
    rfl
  have hrun := queueRun_eq ops (L := startQueue table) (by rw [hring]; exact good_none.ring)
  rwa [hempty] at hrun

end SasyServer.Websocket
