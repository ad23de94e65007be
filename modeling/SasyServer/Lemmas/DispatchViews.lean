import Mathlib.Algebra.Ring.Nat
import SasyServer.Skynet.Dispatch

/-!
# What the threads have of one service

The invariant of the workers speaks of one service at a time: of its queue, its context and its place in the table, and of
how many threads have its queue or a reference to it (`View`). Every label changes the views of one or two services, and how
each change keeps `View.Good` is a lemma about views alone.
-/

namespace SasyServer.Skynet

namespace Phase

/-- How often a thread has the queue of a service. -/
def queues (handle : Nat) : Phase → Nat
  | off | fetch | empty _ | report _ | result _ => 0
  | take h | discard h _ | drop h _ | loop h _ _ | popped h _ _ _ | call h _ _ _ | done h | release _ h | init h | failed h |
    ready h | start h _ =>
    if h = handle then 1 else 0
  | push h nq => (if h = handle then 1 else 0) + if nq = handle then 1 else 0

/-- How often a thread has a reference to a service. -/
def contexts (handle : Nat) : Phase → Nat
  | off | fetch | take _ | discard _ _ | drop _ _ | failed _ | ready _ | start _ _ | report _ | result _ => 0
  | loop h _ _ | popped h _ _ _ | call h _ _ _ | empty h | done h | push h _ | release h _ | init h =>
    if h = handle then 1 else 0

/-- The thread is creating the service. -/
def creates (handle : Nat) : Phase → Nat
  | init h | failed h | ready h => if h = handle then 1 else 0
  | _ => 0

/-- The thread takes messages of the service, or a callback is running. -/
def dispatches (handle : Nat) : Phase → Nat
  | loop h _ _ | popped h _ _ _ | call h _ _ _ => if h = handle then 1 else 0
  | _ => 0

/-- The thread drops the queue of the service. -/
def drops (handle : Nat) : Phase → Nat
  | drop h _ => if h = handle then 1 else 0
  | _ => 0

/-- The thread has created the service, has given its reference back and is still going to use the context. -/
def uses (handle : Nat) : Phase → Bool
  | ready h | start h true | report h | result h => h = handle
  | _ => false

theorem creates_le (handle : Nat) (p : Phase) : p.creates handle ≤ p.queues handle := by
  cases p <;> simp [creates, queues]

theorem dispatches_le (handle : Nat) (p : Phase) : p.dispatches handle ≤ p.contexts handle := by
  cases p <;> simp [dispatches, contexts]

theorem drops_le (handle : Nat) (p : Phase) : p.drops handle ≤ p.queues handle := by
  cases p <;> simp [drops, queues]

end Phase

/-- One service, and how many threads have what of it. -/
structure View where
  queue : Option MessageQueue
  context : Option Context
  slot : Bool
  holding : Nat
  sent : List Message
  taken : List Message
  dropped : List Message
  inList : Nat
  queues : Nat
  contexts : Nat
  creates : Nat
  dispatches : Nat
  drops : Nat

def Node.count (s : Node) (f : Phase → Nat) : Nat := (s.threads.map f).sum

/-- What of the node is about the handle. -/
def Node.view (s : Node) (handle : Nat) : View where
  queue := s.queue handle
  context := s.context handle
  slot := s.slot handle
  holding := s.holding handle
  sent := s.sent handle
  taken := s.taken handle
  dropped := s.dropped handle
  inList := s.globalQueue.count handle
  queues := s.count (Phase.queues handle)
  contexts := s.count (Phase.contexts handle)
  creates := s.count (Phase.creates handle)
  dispatches := s.count (Phase.dispatches handle)
  drops := s.count (Phase.drops handle)

/-- The references to a context. -/
def View.refs (v : View) : Nat := v.contexts + v.holding + v.slot.toNat

/-- What holds of every service. -/
structure View.Good (v : View) : Prop where
  /-- A queue is in one place as long as it exists and its flag says so, or the service has been deleted. -/
  noQueue : v.queue = none → v.queues = 0 ∧ v.inList = 0 ∧ v.context = none
  place : ∀ q, v.queue = some q → v.queues + v.inList = (q.inGlobal || q.release).toNat
  wf : ∀ q, v.queue = some q → q.queue.WF
  released : ∀ q, v.queue = some q → (q.release = true ↔ v.context = none)
  empty : ∀ q, v.queue = some q → q.inGlobal = false → q.toList = []
  noContext : v.context = none → v.refs = 0
  refs : ∀ ctx, v.context = some ctx → ctx.ref = v.refs
  log : v.taken ++ v.dropped ++ (v.queue.elim [] MessageQueue.toList) = v.sent
  kept : v.dropped ≠ [] → v.context = none
  ready : 0 < v.dispatches → ∃ ctx, v.context = some ctx ∧ ctx.init = true
  creating : v.slot = true → ∀ ctx, v.context = some ctx → ctx.init = false → 0 < v.creates
  dropping : 0 < v.drops → ∃ q, v.queue = some q ∧ q.release = true

namespace View.Good

variable {v : View}

/-- A queue goes from one place to another. -/
theorem move (g : v.Good) {queues inList : Nat} (h : queues + inList = v.queues + v.inList) :
    View.Good { v with queues, inList } :=
  { g with
    noQueue := fun hq => by
      obtain ⟨h1, h2, h3⟩ := g.noQueue hq
      show queues = 0 ∧ inList = 0 ∧ v.context = none
      exact ⟨by omega, by omega, h3⟩
    place := fun q hq => h.trans (g.place q hq) }

/-- A queue that somebody has exists, and is nowhere else. -/
theorem queue_of_pos (g : v.Good) (h : 0 < v.queues) : ∃ q, v.queue = some q ∧ v.queues = 1 ∧ v.inList = 0 := by
  cases hq : v.queue with
  | none => exact absurd (g.noQueue hq).1 (Nat.ne_of_gt h)
  | some q =>
    have := g.place q hq
    have := Bool.toNat_le (q.inGlobal || q.release)
    exact ⟨q, rfl, by omega, by omega⟩

/-- A context that somebody has a reference to exists, and so does its queue. -/
theorem context_of_pos (g : v.Good) (h : 0 < v.refs) :
    ∃ ctx q, v.context = some ctx ∧ v.queue = some q ∧ q.release = false ∧ v.dropped = [] := by
  cases hc : v.context with
  | none => exact absurd (g.noContext hc) (Nat.ne_of_gt h)
  | some ctx =>
    cases hq : v.queue with
    | none =>
      have := (g.noQueue hq).2.2
      rw [hc] at this
      cases this
    | some q =>
      refine ⟨ctx, q, rfl, rfl, ?_, ?_⟩
      · rw [← Bool.not_eq_true, g.released q hq, hc]
        simp
      · by_contra hd
        have := g.kept hd
        rw [hc] at this
        cases this

/-- References are taken, handed on and given back; the service may leave the table. -/
theorem reref (g : v.Good) {ctx : Context} (hc : v.context = some ctx) (contexts holding : Nat) (slot : Bool) (ref : Int)
    (hr : ref = ((contexts + holding + slot.toNat : Nat) : Int)) (hs : slot = true → v.slot = true) :
    View.Good { v with context := some { ctx with ref }, contexts, holding, slot } :=
  { g with
    noQueue := fun hq => by
      have := (g.noQueue hq).2.2
      rw [hc] at this
      cases this
    released := fun q hq => by
      have := g.released q hq
      rw [hc] at this
      exact this.trans (by simp)
    noContext := by simp
    refs := fun c h => by
      obtain rfl := Option.some.inj h
      exact hr
    kept := fun hd => by
      have := g.kept hd
      rw [hc] at this
      cases this
    ready := fun hd => by
      obtain ⟨c, h1, h2⟩ := g.ready hd
      rw [hc] at h1
      obtain rfl := Option.some.inj h1
      exact ⟨_, rfl, h2⟩
    creating := fun hs' c h => by
      obtain rfl := Option.some.inj h
      exact g.creating (hs hs') ctx hc }

/-- A thread begins or ends to take messages. -/
theorem setDispatches (g : v.Good) {n : Nat} (h : 0 < n → ∃ ctx, v.context = some ctx ∧ ctx.init = true) :
    View.Good { v with dispatches := n } := { g with ready := h }

/-- A thread has done its part of the creation. -/
theorem setCreates (g : v.Good) {n : Nat} (h : v.slot = true → ∀ ctx, v.context = some ctx → ctx.init = false → 0 < n) :
    View.Good { v with creates := n } := { g with creating := h }

/-- A thread begins to drop the queue. -/
theorem setDrops (g : v.Good) {n : Nat} (h : 0 < n → ∃ q, v.queue = some q ∧ q.release = true) :
    View.Good { v with drops := n } :=
  { g with dropping := h }

/-- Another queue with the same flags. -/
theorem setQueue (g : v.Good) {q : MessageQueue} (hq : v.queue = some q) (q' : MessageQueue) (hr : q'.release = q.release)
    (hi : q'.inGlobal = q.inGlobal) (hwf : q'.queue.WF) (he : q'.inGlobal = false → q'.toList = [])
    {sent taken dropped : List Message} (hlog : taken ++ dropped ++ q'.toList = sent)
    (hk : dropped ≠ [] → v.context = none) :
    View.Good { v with queue := some q', sent, taken, dropped } where
  noQueue := by simp
  place := fun p hp => by
    obtain rfl := Option.some.inj hp
    rw [hr, hi]
    exact g.place q hq
  wf := fun p hp => by
    obtain rfl := Option.some.inj hp
    exact hwf
  released := fun p hp => by
    obtain rfl := Option.some.inj hp
    rw [hr]
    exact g.released q hq
  empty := fun p hp => by
    obtain rfl := Option.some.inj hp
    exact he
  noContext := g.noContext
  refs := g.refs
  log := hlog
  kept := hk
  ready := g.ready
  creating := g.creating
  dropping := fun hd => by
    obtain ⟨p, h1, h2⟩ := g.dropping hd
    rw [hq] at h1
    obtain rfl := Option.some.inj h1
    exact ⟨q', rfl, hr.trans h2⟩

/-- The log of a service with a queue. -/
theorem log_some (g : v.Good) {q : MessageQueue} (hq : v.queue = some q) : v.taken ++ v.dropped ++ q.toList = v.sent := by
  have := g.log
  rw [hq] at this
  exact this

/-- A message is taken from the queue of a service that has not been deleted. -/
theorem take (g : v.Good) {q q' : MessageQueue} {message : Message} (hq : v.queue = some q) (hd : v.dropped = [])
    (hp : q.pop = (some message, q')) : View.Good { v with queue := some q', taken := v.taken ++ [message] } := by
  obtain ⟨h1, h2, h3, h4⟩ := MessageQueue.pop_some (g.wf q hq) hp
  refine g.setQueue hq q' h3 h4 h1 (fun hi => ?_) ?_ g.kept
  · have := g.empty q hq (h4 ▸ hi)
    rw [h2] at this
    cases this
  · rw [← g.log_some hq, hd, h2]
    simp

/-- A message is dropped with the queue of a service that has been deleted. -/
theorem drop (g : v.Good) {q q' : MessageQueue} {message : Message} (hq : v.queue = some q) (hr : q.release = true)
    (hp : q.pop = (some message, q')) : View.Good { v with queue := some q', dropped := v.dropped ++ [message] } := by
  obtain ⟨h1, h2, h3, h4⟩ := MessageQueue.pop_some (g.wf q hq) hp
  refine g.setQueue hq q' h3 h4 h1 (fun hi => ?_) ?_ fun _ => (g.released q hq).1 hr
  · have := g.empty q hq (h4 ▸ hi)
    rw [h2] at this
    cases this
  · rw [← g.log_some hq, h2]
    simp

/-- A worker finds the queue empty and gives it up. -/
theorem popEmpty (g : v.Good) {q q' : MessageQueue} (hq : v.queue = some q) (hr : q.release = false) (hpos : 0 < v.queues)
    (hp : q.pop = (none, q')) : View.Good { v with queue := some q', queues := v.queues - 1 } := by
  obtain ⟨h1, h2, h3, h4, h5⟩ := MessageQueue.pop_none (g.wf q hq) hp
  obtain ⟨_, hq', h6, h7⟩ := g.queue_of_pos hpos
  refine { g with
    noQueue := by simp
    place := fun p hp => ?_
    wf := fun p hp => ?_
    released := fun p hp => ?_
    empty := fun p hp _ => ?_
    log := ?_
    dropping := fun hd => ?_ }
  · obtain rfl := Option.some.inj hp
    rw [h4, h5, hr, h6, h7]
    rfl
  · obtain rfl := Option.some.inj hp
    exact h1
  · obtain rfl := Option.some.inj hp
    rw [h4]
    exact g.released q hq
  · obtain rfl := Option.some.inj hp
    exact h3
  · have := g.log_some hq
    rw [h2] at this
    exact (congrArg (v.taken ++ v.dropped ++ ·) h3).trans this
  · obtain ⟨p, hp', hpr⟩ := g.dropping hd
    rw [hq] at hp'
    obtain rfl := Option.some.inj hp'
    rw [hr] at hpr
    cases hpr

/-- The queue of a service that has been deleted is freed. -/
theorem free (g : v.Good) {q q' : MessageQueue} (hq : v.queue = some q) (hr : q.release = true) (hpos : 0 < v.queues)
    (hp : q.pop = (none, q')) : View.Good { v with queue := none, queues := v.queues - 1, drops := 0 } := by
  obtain ⟨_, h2, _⟩ := MessageQueue.pop_none (g.wf q hq) hp
  obtain ⟨_, _, h6, h7⟩ := g.queue_of_pos hpos
  have hc := (g.released q hq).1 hr
  refine { g with
    noQueue := fun _ => ⟨by rw [h6], h7, hc⟩
    place := by simp
    wf := by simp
    released := by simp
    empty := by simp
    log := ?_
    dropping := fun hd => absurd hd (Nat.lt_irrefl 0) }
  have := g.log_some hq
  rwa [h2] at this

/-- A message is sent to a service that has not been deleted. A queue that was in no place comes into the list. -/
theorem send (g : v.Good) {q : MessageQueue} (hq : v.queue = some q) (hr : q.release = false) (hd : v.dropped = [])
    (message : Message) :
    View.Good { v with
      queue := some { q.push message with inGlobal := true }
      sent := v.sent ++ [message]
      inList := if q.inGlobal then v.inList else v.inList + 1 } := by
  obtain ⟨h1, h2⟩ := MessageQueue.push_spec (g.wf q hq) message
  refine { g with
    noQueue := by simp
    place := fun p hp => ?_
    wf := fun p hp => ?_
    released := fun p hp => ?_
    empty := fun p hp hi => ?_
    log := ?_
    kept := fun hd' => absurd hd hd'
    dropping := fun hd' => ?_ }
  · obtain rfl := Option.some.inj hp
    have := g.place q hq
    cases hi : q.inGlobal with
    | true =>
      rw [hi] at this
      exact this
    | false =>
      rw [hi, hr] at this
      show v.queues + (v.inList + 1) = 1
      simp only [Bool.or_self, Bool.toNat_false] at this
      omega
  · obtain rfl := Option.some.inj hp
    exact h1
  · obtain rfl := Option.some.inj hp
    exact g.released q hq
  · obtain rfl := Option.some.inj hp
    cases hi
  · show v.taken ++ v.dropped ++ (q.push message).toList = v.sent ++ [message]
    rw [h2, ← g.log_some hq, List.append_assoc]
    simp
  · obtain ⟨p, hp', hpr⟩ := g.dropping hd'
    rw [hq] at hp'
    obtain rfl := Option.some.inj hp'
    rw [hr] at hpr
    cases hpr

/-- A service is deleted when nobody has a reference to it. A queue that was in no place comes into the list. -/
theorem delete (g : v.Good) {q : MessageQueue} {ctx : Context} (hq : v.queue = some q) (hc : v.context = some ctx)
    (h0 : ctx.ref = 0) (hd : 0 = v.dispatches) :
    View.Good { v with
      context := none
      queue := some { q with release := true }
      inList := if q.inGlobal then v.inList else v.inList + 1 } := by
  have hrefs : v.refs = 0 := by
    have := g.refs ctx hc
    omega
  have hrel : q.release = false := by
    rw [← Bool.not_eq_true, g.released q hq, hc]
    simp
  refine { g with
    noQueue := by simp
    place := fun p hp => ?_
    wf := fun p hp => ?_
    released := fun p hp => ?_
    empty := fun p hp hi => ?_
    noContext := fun _ => hrefs
    refs := by simp
    log := ?_
    kept := fun _ => rfl
    ready := fun hd' => absurd hd' (by rw [← hd]; exact Nat.lt_irrefl 0)
    creating := by simp
    dropping := fun _ => ⟨_, rfl, rfl⟩ }
  · obtain rfl := Option.some.inj hp
    have := g.place q hq
    cases hi : q.inGlobal with
    | true =>
      rw [hi] at this
      exact this
    | false =>
      rw [hi, hrel] at this
      show v.queues + (v.inList + 1) = 1
      simp only [Bool.or_self, Bool.toNat_false] at this
      omega
  · obtain rfl := Option.some.inj hp
    exact g.wf q hq
  · obtain rfl := Option.some.inj hp
    exact iff_of_true rfl rfl
  · obtain rfl := Option.some.inj hp
    exact g.empty q hq hi
  · show v.taken ++ v.dropped ++ q.toList = v.sent
    exact g.log_some hq

/-- A service becomes ready. -/
theorem setInit (g : v.Good) {ctx : Context} (hc : v.context = some ctx) (init : Bool)
    (hi : ctx.init = true → init = true) {n : Nat} (hn : v.slot = true → init = false → 0 < n) :
    View.Good { v with context := some { ctx with init }, creates := n } :=
  { g with
    noQueue := fun hq => by
      have := (g.noQueue hq).2.2
      rw [hc] at this
      cases this
    released := fun q hq => by
      have := g.released q hq
      rw [hc] at this
      exact this.trans (by simp)
    noContext := by simp
    refs := fun c h => by
      obtain rfl := Option.some.inj h
      exact g.refs ctx hc
    kept := fun hd => by
      have := g.kept hd
      rw [hc] at this
      cases this
    ready := fun hd => by
      obtain ⟨c, h1, h2⟩ := g.ready hd
      rw [hc] at h1
      obtain rfl := Option.some.inj h1
      exact ⟨_, rfl, hi h2⟩
    creating := fun hs c h hf => by
      obtain rfl := Option.some.inj h
      exact hn hs hf }

end View.Good

/-- A thread, and the others. -/
theorem exists_rest {threads : List Phase} {t : Nat} {p : Phase} (hp : threads[t]? = some p) :
    ∃ rest : (Phase → Nat) → Nat, (∀ f, (threads.map f).sum = rest f + f p) ∧
      (∀ p' f, ((threads.set t p').map f).sum = rest f + f p') ∧ ∀ f g :
        Phase → Nat, (∀ p, f p ≤ g p) → rest f ≤ rest g := by
  refine ⟨fun f => ((threads.take t ++ threads.drop (t + 1)).map f).sum, fun f => ?_, fun p' f => ?_, fun f g h => ?_⟩
  · obtain ⟨ht, rfl⟩ := List.getElem?_eq_some_iff.1 hp
    conv_lhs => rw [← List.take_append_drop t threads, List.drop_eq_getElem_cons ht]
    simp only [List.map_append, List.map_cons, List.sum_append, List.sum_cons]
    omega
  · obtain ⟨ht, _⟩ := List.getElem?_eq_some_iff.1 hp
    rw [List.set_eq_take_append_cons_drop, if_pos ht]
    simp only [List.map_append, List.map_cons, List.sum_append, List.sum_cons]
    omega
  · generalize threads.take t ++ threads.drop (t + 1) = l
    induction l with
    | nil => exact Nat.le_refl 0
    | cons p l ih =>
      simp only [List.map_cons, List.sum_cons]
      exact Nat.add_le_add (h p) ih

end SasyServer.Skynet
