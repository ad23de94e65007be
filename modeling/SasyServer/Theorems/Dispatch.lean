import SasyServer.Lemmas.DispatchSteps

/-!
# Theorem: a service has one worker at a time, and no message is lost

Whatever the threads of a process do and in whichever order: the queue of a service is in one place, the list or one thread,
so that two callbacks of one service never run at the same time; the messages are taken in the order they have been pushed;
and a queue with messages in it is never outside the list without a thread that has it. A deleted service drops what its
workers have not taken, after they have let go of it.
-/

namespace SasyServer.Skynet

open Steps

namespace Node

/-- No service yet. -/
theorem good_start (workers others : Nat) : (start workers others).Good := by
  refine ⟨fun h => ?_, rfl⟩
  have hz (f : Phase → Nat) (h0 : f .fetch = 0) (h1 : f .off = 0) : (start workers others).count f = 0 := by
    simp [count, start, h0, h1]
  have hv : (start workers others).view h = ⟨none, none, false, 0, [], [], [], 0, 0, 0, 0, 0, 0⟩ := by
    simp only [view, hz (Phase.queues h) rfl rfl, hz (Phase.contexts h) rfl rfl, hz (Phase.creates h) rfl rfl,
      hz (Phase.dispatches h) rfl rfl, hz (Phase.drops h) rfl rfl]
    rfl
  rw [hv]
  exact
    { noQueue := fun _ => ⟨rfl, rfl, rfl⟩
      place := by simp
      wf := by simp
      released := by simp
      empty := by simp
      noContext := fun _ => rfl
      refs := by simp
      log := rfl
      kept := fun _ => rfl
      ready := by simp
      creating := by simp
      dropping := by simp }

variable {s s' : Node} {t : Nat}

/-- Every step of a thread keeps the invariant. -/
theorem Good.run (g : s.Good) {p : Phase} {weight : Int} (hp : s.threads[t]? = some p)
    (hs : s.run t weight p = some s') : s'.Good := by
  cases p with
  | off => cases hs
  | fetch =>
    rw [Node.run] at hs
    split at hs
    · obtain rfl := Option.some.inj hs
      exact g
    · rename_i handle rest hl
      obtain rfl := Option.some.inj hs
      exact g.fetch hp hl (by simp [Phase.queues]) (fun _ => rfl) (fun _ => rfl) (fun _ => rfl) (fun _ => rfl)
  | take handle =>
    rw [Node.run] at hs
    split at hs
    · rename_i hslot
      obtain rfl := Option.some.inj hs
      exact g.take hp hslot
    · obtain rfl := Option.some.inj hs
      refine ⟨fun h => ?_, g.sound⟩
      rw [show (s.setPhase t (.discard handle true)).view h = s.view h from view_setPhase hp rfl rfl rfl rfl rfl]
      exact g.views h
  | discard handle worker =>
    obtain ⟨q, hq, _⟩ := g.queue_of_thread hp handle (by simp [Phase.queues])
    simp only [Node.run, hq] at hs
    split at hs
    · rename_i hrel
      obtain rfl := Option.some.inj hs
      exact g.startDrop hp hq hrel
    · obtain rfl := Option.some.inj hs
      cases worker with
      | true =>
        exact g.pushBack hp (by simp [Phase.queues, idle]) (fun _ => rfl) (fun _ => rfl) (fun _ => rfl) (fun _ => rfl)
      | false =>
        exact g.pushBack hp (by simp [Phase.queues, idle]) (fun _ => rfl) (fun _ => rfl) (fun _ => rfl) (fun _ => rfl)
  | drop handle worker =>
    obtain ⟨q, hq, _⟩ := g.queue_of_thread hp handle (by simp [Phase.queues])
    simp only [Node.run, hq] at hs
    split at hs
    · rename_i message q' hpop
      obtain rfl := Option.some.inj hs
      exact g.dropMessage hp hq hpop
    · rename_i q' hpop
      obtain rfl := Option.some.inj hs
      exact g.endDrop hp hq hpop
  | loop handle i n =>
    obtain ⟨q, hq, _⟩ := g.queue_of_thread hp handle (by simp [Phase.queues])
    simp only [Node.run, hq] at hs
    split at hs
    · rename_i message q' hpop
      obtain rfl := Option.some.inj hs
      exact g.takeMessage hp hq hpop
    · rename_i q' hpop
      obtain rfl := Option.some.inj hs
      exact g.takeNothing hp hq hpop
  | popped handle i n message =>
    obtain ⟨ctx, q, hctx, hq, _⟩ := g.context_of_thread hp handle (by simp [Phase.contexts])
    simp only [Node.run, hq, hctx] at hs
    obtain rfl := Option.some.inj hs
    exact g.startCall hp hq hctx
  | call handle i n message =>
    rw [Node.run] at hs
    split at hs
    · obtain rfl := Option.some.inj hs
      exact g.endCall hp (Or.inl rfl)
    · obtain rfl := Option.some.inj hs
      exact g.endCall hp (Or.inr rfl)
  | empty handle =>
    obtain rfl := Option.some.inj hs
    exact g.release hp (fun _ => rfl) (by simp [Phase.contexts]) (fun _ => rfl) (fun _ => rfl) (fun _ => rfl)
  | done handle =>
    rw [Node.run] at hs
    split at hs
    · obtain rfl := Option.some.inj hs
      refine ⟨fun h => ?_, g.sound⟩
      rw [show (s.setPhase t (.release handle handle)).view h = s.view h from view_setPhase hp rfl rfl rfl rfl rfl]
      exact g.views h
    · rename_i nq rest hl
      obtain rfl := Option.some.inj hs
      exact g.fetch hp hl (fun _ => rfl) (fun _ => rfl) (fun _ => rfl) (fun _ => rfl) (fun _ => rfl)
  | push handle nq =>
    obtain rfl := Option.some.inj hs
    exact g.pushBack hp (fun _ => Nat.add_comm _ _) (fun _ => rfl) (fun _ => rfl) (fun _ => rfl) (fun _ => rfl)
  | release handle q =>
    obtain rfl := Option.some.inj hs
    exact g.release hp (fun _ => rfl) (by simp [Phase.contexts]) (fun _ => rfl) (fun _ => rfl) (fun _ => rfl)
  | init handle => cases hs
  | ready handle =>
    obtain rfl := Option.some.inj hs
    exact g.setInit hp
  | start handle ret =>
    obtain rfl := Option.some.inj hs
    cases ret with
    | true => exact g.pushBack hp (by simp [Phase.queues]) (fun _ => rfl) (fun _ => rfl) (fun _ => rfl) (fun _ => rfl)
    | false => exact g.pushBack hp (by simp [Phase.queues]) (fun _ => rfl) (fun _ => rfl) (fun _ => rfl) (fun _ => rfl)
  | report handle =>
    obtain rfl := Option.some.inj hs
    exact g.readContext hp (fun _ => rfl) (fun _ => rfl) (fun _ => rfl) (fun _ => rfl) (fun _ => rfl)
  | result handle =>
    obtain rfl := Option.some.inj hs
    exact g.readContext hp (fun _ => rfl) (fun _ => rfl) (fun _ => rfl) (fun _ => rfl) (fun _ => rfl)
  | failed handle =>
    rw [Node.run] at hs
    split at hs
    · rename_i hslot
      obtain rfl := Option.some.inj hs
      exact g.retireFailed hp hslot
    · rename_i hslot
      obtain rfl := Option.some.inj hs
      exact g.discardFailed hp (Bool.not_eq_true _ ▸ hslot)

/-- Every label keeps the invariant. -/
theorem Good.step (weight : Nat → Int) (s : Node) (l : NodeLabel) (s' : Node) (g : s.Good) (_ : True)
    (hs : nodeStep weight s l = some s') :
    s'.Good := by
  cases l with
  | run t =>
    obtain ⟨p, hp, hs⟩ := Option.bind_eq_some_iff.1 hs
    exact g.run hp hs
  | contextNew t handle =>
    rw [nodeStep] at hs
    split at hs
    · rename_i hg
      obtain rfl := Option.some.inj hs
      exact g.contextNew hg.1 hg.2
    · cases hs
  | initDone t =>
    rw [nodeStep] at hs
    split at hs
    · rename_i handle hp
      obtain rfl := Option.some.inj hs
      exact g.initDone hp
    · cases hs
  | initFailed t =>
    rw [nodeStep] at hs
    split at hs
    · rename_i handle hp
      obtain rfl := Option.some.inj hs
      exact g.release hp (fun _ => rfl) (by simp [Phase.contexts]) (fun _ => rfl) (fun _ => rfl) (fun _ => rfl)
    · cases hs
  | grab handle =>
    rw [nodeStep] at hs
    split at hs
    · rename_i hslot
      obtain rfl := Option.some.inj hs
      exact g.grab hslot
    · cases hs
  | send handle message =>
    rw [nodeStep] at hs
    split at hs
    · rename_i hh
      obtain rfl := Option.some.inj hs
      exact g.send hh message
    · cases hs
  | unref handle =>
    rw [nodeStep] at hs
    split at hs
    · rename_i hh
      obtain rfl := Option.some.inj hs
      obtain ⟨ctx, _, hctx, _⟩ := g.context_of_holding (Or.inl hh)
      rw [contextRelease, show s.context handle = some ctx from hctx]
      have := g.hold hctx (s.holding handle - 1) (s.slot handle) (ctx.ref - 1) (by omega) id
      rwa [Function.update_eq_self] at this
    · cases hs
  | retire handle =>
    rw [nodeStep] at hs
    split at hs
    · rename_i hslot
      obtain rfl := Option.some.inj hs
      obtain ⟨ctx, _, hctx, _⟩ := g.context_of_holding (Or.inr hslot)
      have := g.hold hctx (s.holding handle + 1) false ctx.ref
        (by rw [hslot, Bool.toNat_true, Bool.toNat_false]; omega) (by simp)
      rwa [show some { ctx with ref := ctx.ref } = s.context handle from hctx.symm, Function.update_eq_self] at this
    · cases hs
  | delete handle =>
    rw [nodeStep] at hs
    split at hs
    · rename_i ctx hctx
      split at hs
      · rename_i h0
        obtain rfl := Option.some.inj hs
        exact g.delete hctx h0
      · cases hs
    · cases hs

/-! ### The contexts of services that have just been created -/

/-- The condition on a label: a service is deleted when the thread that created it does not use it any more. -/
def outlives (s : Node) : NodeLabel → Bool
  | .delete handle => s.threads.all fun p => !p.uses handle
  | _ => true

/-- A step of a thread frees no context, and uses only one that is there. -/
theorem Kept.run (k : s.Kept) {p : Phase} {weight : Int} (hp : s.threads[t]? = some p)
    (hs : s.run t weight p = some s') : s'.Kept := by
  have hthere := k.there p (List.mem_of_getElem? hp)
  cases p with
  | off => cases hs
  | fetch =>
    rw [Node.run] at hs
    split at hs
    · obtain rfl := Option.some.inj hs
      exact k
    · obtain rfl := Option.some.inj hs
      exact k.leaves ⟨rfl, rfl, fun _ h => h⟩ fun _ => rfl
  | take handle =>
    rw [Node.run] at hs
    split at hs
    · obtain rfl := Option.some.inj hs
      exact k.leaves (tame_contextGrab s handle) fun _ => rfl
    · obtain rfl := Option.some.inj hs
      exact k.leaves (tame_refl s) fun _ => rfl
  | discard handle worker =>
    rw [Node.run] at hs
    split at hs
    · obtain rfl := Option.some.inj hs
      exact k.tame ⟨rfl, rfl, fun _ h => h⟩
    · split at hs
      · obtain rfl := Option.some.inj hs
        exact k.leaves (tame_refl s) fun _ => rfl
      · obtain rfl := Option.some.inj hs
        exact k.leaves ⟨rfl, rfl, fun _ h => h⟩ fun _ => by cases worker <;> rfl
  | drop handle worker =>
    rw [Node.run] at hs
    split at hs
    · obtain rfl := Option.some.inj hs
      exact k.tame ⟨rfl, rfl, fun _ h => h⟩
    · split at hs
      · obtain rfl := Option.some.inj hs
        exact k.tame ⟨rfl, rfl, fun _ h => h⟩
      · obtain rfl := Option.some.inj hs
        exact k.leaves ⟨rfl, rfl, fun _ h => h⟩ fun _ => by cases worker <;> rfl
  | loop handle i n =>
    rw [Node.run] at hs
    split at hs
    · obtain rfl := Option.some.inj hs
      exact k.tame ⟨rfl, rfl, fun _ h => h⟩
    · split at hs
      · obtain rfl := Option.some.inj hs
        exact k.leaves ⟨rfl, rfl, fun _ h => h⟩ fun _ => rfl
      · obtain rfl := Option.some.inj hs
        exact k.leaves ⟨rfl, rfl, fun _ h => h⟩ fun _ => rfl
  | popped handle i n message =>
    rw [Node.run] at hs
    split at hs
    · obtain rfl := Option.some.inj hs
      exact k.leaves ⟨rfl, rfl, fun _ h => h⟩ fun _ => rfl
    · obtain rfl := Option.some.inj hs
      exact k.tame ⟨rfl, rfl, fun _ h => h⟩
  | call handle i n message =>
    rw [Node.run] at hs
    split at hs
    · obtain rfl := Option.some.inj hs
      exact k.leaves (tame_refl s) fun _ => rfl
    · obtain rfl := Option.some.inj hs
      exact k.leaves (tame_refl s) fun _ => rfl
  | empty handle =>
    obtain rfl := Option.some.inj hs
    exact k.leaves (tame_contextRelease s handle) fun _ => rfl
  | done handle =>
    rw [Node.run] at hs
    split at hs
    · obtain rfl := Option.some.inj hs
      exact k.leaves (tame_refl s) fun _ => rfl
    · obtain rfl := Option.some.inj hs
      exact k.leaves ⟨rfl, rfl, fun _ h => h⟩ fun _ => rfl
  | push handle nq =>
    obtain rfl := Option.some.inj hs
    exact k.leaves ⟨rfl, rfl, fun _ h => h⟩ fun _ => rfl
  | release handle q =>
    obtain rfl := Option.some.inj hs
    exact k.leaves (tame_contextRelease s handle) fun _ => rfl
  | init handle => cases hs
  | failed handle =>
    rw [Node.run] at hs
    split at hs
    · obtain rfl := Option.some.inj hs
      exact k.leaves ⟨rfl, rfl, fun _ h => h⟩ fun _ => rfl
    · obtain rfl := Option.some.inj hs
      exact k.leaves (tame_refl s) fun _ => rfl
  | ready handle =>
    obtain rfl := Option.some.inj hs
    have htame := tame_setInit (hthere handle (by simp [Phase.uses]))
    exact (k.tame htame).setPhase fun h hu => htame.context h (hthere h hu)
  | start handle ret =>
    obtain rfl := Option.some.inj hs
    cases ret with
    | true =>
      have htame : Tame s (s.globalmqPush handle) := ⟨rfl, rfl, fun _ h => h⟩
      exact (k.tame htame).setPhase fun h hu => hthere h hu
    | false => exact k.leaves ⟨rfl, rfl, fun _ h => h⟩ fun _ => rfl
  | report handle =>
    obtain rfl := Option.some.inj hs
    rw [readContext_eq (hthere handle (by simp [Phase.uses]))]
    exact k.setPhase hthere
  | result handle =>
    obtain rfl := Option.some.inj hs
    rw [readContext_eq (hthere handle (by simp [Phase.uses]))]
    exact k.leaves (tame_refl s) fun _ => rfl

/-- A label that meets the condition frees no context that is still going to be used. -/
theorem Kept.step (weight : Nat → Int) (s : Node) (l : NodeLabel) (s' : Node) (k : s.Kept) (hc : outlives s l = true)
    (hs : nodeStep weight s l = some s') : s'.Kept := by
  cases l with
  | run t =>
    obtain ⟨p, hp, hs⟩ := Option.bind_eq_some_iff.1 hs
    exact k.run hp hs
  | contextNew t handle =>
    rw [nodeStep] at hs
    split at hs
    · obtain rfl := Option.some.inj hs
      have hnew : s.contextNew t handle = Node.setPhase { s with
          queue := Function.update s.queue handle (some .create)
          context := Function.update s.context handle (some ⟨2, false⟩)
          slot := Function.update s.slot handle true
          sent := Function.update s.sent handle []
          taken := Function.update s.taken handle []
          dropped := Function.update s.dropped handle [] } t (.init handle) := rfl
      rw [hnew]
      exact k.leaves ⟨rfl, rfl, (tame_setContext s handle ⟨2, false⟩).context⟩ fun _ => rfl
    · cases hs
  | initDone t =>
    rw [nodeStep] at hs
    split at hs
    · rename_i handle hp
      obtain rfl := Option.some.inj hs
      have htame := tame_contextRelease s handle
      unfold Node.initDone
      split
      · exact k.tame ⟨rfl, rfl, fun _ h => h⟩
      · rename_i ctx hctx
        have hsome := htame.context handle (by rw [hctx]; rfl)
        split
        · exact k.leaves htame fun _ => rfl
        · refine (k.tame htame).setPhase fun h hu => ?_
          simp only [Phase.uses, decide_eq_true_eq] at hu
          exact hu ▸ hsome
    · cases hs
  | initFailed t =>
    rw [nodeStep] at hs
    split at hs
    · obtain rfl := Option.some.inj hs
      exact k.leaves (tame_contextRelease s _) fun _ => rfl
    · cases hs
  | grab handle =>
    rw [nodeStep] at hs
    split at hs
    · obtain rfl := Option.some.inj hs
      have htame := tame_contextGrab { s with holding := Function.update s.holding handle (s.holding handle + 1) } handle
      exact k.tame ⟨htame.stale, htame.threads, htame.context⟩
    · cases hs
  | send handle message =>
    rw [nodeStep] at hs
    split at hs
    · obtain rfl := Option.some.inj hs
      exact k.tame (tame_mqPush s handle message)
    · cases hs
  | unref handle =>
    rw [nodeStep] at hs
    split at hs
    · obtain rfl := Option.some.inj hs
      have htame := tame_contextRelease { s with holding := Function.update s.holding handle (s.holding handle - 1) } handle
      exact k.tame ⟨htame.stale, htame.threads, htame.context⟩
    · cases hs
  | retire handle =>
    rw [nodeStep] at hs
    split at hs
    · obtain rfl := Option.some.inj hs
      exact k.tame ⟨rfl, rfl, fun _ h => h⟩
    · cases hs
  | delete handle =>
    rw [nodeStep] at hs
    split at hs
    · split at hs
      · obtain rfl := Option.some.inj hs
        exact k.delete handle (by simpa [outlives] using hc)
      · cases hs
    · cases hs

end Node

variable {weight : Nat → Int} {workers others : Nat} {ls : List NodeLabel} {s : Node}

theorem good_exec (h : exec (nodeStep weight) (Node.start workers others) ls = some s) : s.Good :=
  exec_invariant (Node.Good.step weight) ls _ s (Node.good_start workers others)
    (meets_of_forall (fun _ _ => trivial) ls _) h

/-- A service is retired, and its last reference given back, between the init function and `ctx->init = true`. -/
example : (exec (nodeStep fun _ => 0) (Node.start 1 1)
    [.contextNew 1 7, .initDone 1, .retire 7, .unref 7, .delete 7, .run 1]).map (·.stale) = some true := by decide +kernel

/-- After any run, the messages that have been pushed to a service are, in this order, those its workers have taken, those
dropped with it and those in its queue; nothing is dropped before the service is deleted; a queue with messages in it is in
the list or with a thread; and when the list is empty and no thread has a queue, every queue is empty and the queues of
deleted services have been freed. -/
theorem messages_in_order (h : exec (nodeStep weight) (Node.start workers others) ls = some s) (handle : Nat) :
    s.taken handle ++ s.dropped handle ++ (s.queue handle).elim [] MessageQueue.toList = s.sent handle ∧
      (s.dropped handle ≠ [] → s.context handle = none) ∧
      (∀ q, s.queue handle = some q → q.toList ≠ [] → handle ∈ s.globalQueue ∨ ∃ p ∈ s.threads, 0 < p.queues handle) ∧
      (s.globalQueue = [] → (∀ p ∈ s.threads, p.queues handle = 0) →
        s.taken handle ++ s.dropped handle = s.sent handle ∧ (s.context handle = none → s.queue handle = none)) := by
  have gh := (good_exec h).views handle
  have hcount (hn : ∀ p ∈ s.threads, p.queues handle = 0) : s.count (Phase.queues handle) = 0 :=
    List.sum_eq_zero_iff_forall_eq_nat.2 fun n hn' => by
      obtain ⟨p, hp, rfl⟩ := List.mem_map.1 hn'
      exact hn p hp
  refine ⟨gh.log, gh.kept, fun q hq hne => ?_, fun hl hn => ?_⟩
  · by_contra hno
    rw [not_or] at hno
    have hz := hcount fun p hp => Nat.eq_zero_of_not_pos fun hpos => hno.2 ⟨p, hp, hpos⟩
    have hp := gh.place q hq
    have hl : (s.view handle).inList = 0 := List.count_eq_zero.2 hno.1
    rw [hl, show (s.view handle).queues = 0 from hz] at hp
    cases hi : q.inGlobal with
    | true => rw [hi] at hp; cases hp
    | false => exact hne (gh.empty q hq hi)
  · have hlist : (s.view handle).inList = 0 := List.count_eq_zero.2 (by rw [hl]; exact List.not_mem_nil)
    cases hq : s.queue handle with
    | none =>
      have := gh.log
      rw [show (s.view handle).queue = none from hq] at this
      exact ⟨(List.append_nil _).symm.trans this, fun _ => rfl⟩
    | some q =>
      have hp := gh.place q hq
      rw [hlist, show (s.view handle).queues = 0 from hcount hn] at hp
      cases hi : q.inGlobal with
      | true => rw [hi] at hp; cases hp
      | false =>
        rw [hi, Bool.false_or] at hp
        have := gh.log_some hq
        rw [gh.empty q hq hi, List.append_nil] at this
        refine ⟨this, fun hc => ?_⟩
        rw [(gh.released q hq).2 hc] at hp
        cases hp

/-- Two workers and a third thread, which has created a service; the two messages sent to it meanwhile are with the first
worker and in the queue. -/
theorem messages_in_order_two_messages :
    ∃ s, exec (nodeStep fun _ => 0) (Node.start 2 1)
      [.contextNew 2 7, .grab 7, .send 7 ⟨1, 5, [1], 1⟩, .initDone 2, .send 7 ⟨1, 6, [2], 1⟩, .run 2,
        .run 2, .run 0, .run 0, .run 0, .run 1] = some s ∧
      s.taken 7 ++ s.dropped 7 ++ (s.queue 7).elim [] MessageQueue.toList = s.sent 7 ∧
        s.sent 7 = [⟨1, 5, [1], 1⟩, ⟨1, 6, [2], 1⟩] ∧
      s.taken 7 = [⟨1, 5, [1], 1⟩] := by
  have hrun : (exec (nodeStep fun _ => 0) (Node.start 2 1) [.contextNew 2 7, .grab 7, .send 7 ⟨1, 5, [1], 1⟩, .initDone 2,
        .send 7 ⟨1, 6, [2], 1⟩, .run 2, .run 2, .run 0, .run 0, .run 0, .run 1]).map (fun s => (s.sent 7, s.taken 7)) =
      some ([⟨1, 5, [1], 1⟩, ⟨1, 6, [2], 1⟩], [⟨1, 5, [1], 1⟩]) := by decide +kernel
  obtain ⟨s, hs, he⟩ := Option.map_eq_some_iff.1 hrun
  obtain ⟨h1, h2⟩ := Prod.mk.inj he
  exact ⟨s, hs, (messages_in_order hs 7).1, h1, h2⟩

end SasyServer.Skynet
