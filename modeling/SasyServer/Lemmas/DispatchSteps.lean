import SasyServer.Lemmas.DispatchViews

/-!
# What one step of a thread keeps

Each step of a thread changes the view of the service it is about, and of the service whose queue it takes or puts back. Of
every other service it has the same before and after.
-/

namespace SasyServer.Skynet

namespace Node

/-- The invariant: every service is in order, and no assertion has failed. -/
structure Good (s : Node) : Prop where
  views : ∀ h, (s.view h).Good
  sound : s.broken = false

variable {s : Node} {t : Nat}

/-- A thread that has the same of a service before and after. -/
theorem view_setPhase {p p' : Phase} (hp : s.threads[t]? = some p) {h : Nat} (hq : p'.queues h = p.queues h)
    (hc : p'.contexts h = p.contexts h) (hn : p'.creates h = p.creates h) (hd : p'.dispatches h = p.dispatches h)
    (hr : p'.drops h = p.drops h) : (s.setPhase t p').view h = s.view h := by
  obtain ⟨rest, h1, h2, _⟩ := exists_rest hp
  simp only [view, count, setPhase, h1, h2, hq, hc, hn, hd, hr]

/-- What a thread has of a service counts. -/
theorem le_count {p : Phase} (hp : s.threads[t]? = some p) (f : Phase → Nat) : f p ≤ s.count f := by
  obtain ⟨rest, h1, _⟩ := exists_rest hp
  rw [count, h1]
  exact Nat.le_add_left _ _

/-- What is at most something else in each thread is so in all together. -/
theorem count_le {f g : Phase → Nat} (h : ∀ p, f p ≤ g p) : s.count f ≤ s.count g := by
  unfold count
  induction s.threads with
  | nil => exact Nat.le_refl 0
  | cons p l ih =>
    simp only [List.map_cons, List.sum_cons]
    exact Nat.add_le_add (h p) ih

/-- A queue that a thread has exists and is not in the list. -/
theorem Good.queue_of_thread (g : s.Good) {p : Phase} (hp : s.threads[t]? = some p) (handle : Nat)
    (hq : 0 < p.queues handle) :
    ∃ q, s.queue handle = some q ∧ s.count (Phase.queues handle) = 1 ∧ handle ∉ s.globalQueue := by
  have hle := le_count hp (Phase.queues handle)
  obtain ⟨q, h1, h2, h3⟩ := (g.views handle).queue_of_pos (Nat.lt_of_lt_of_le hq hle)
  exact ⟨q, h1, h2, List.count_eq_zero.1 h3⟩

/-- A context that a thread has a reference to exists, and its queue has not been released. -/
theorem Good.context_of_thread (g : s.Good) {p : Phase} (hp : s.threads[t]? = some p) (handle : Nat)
    (hc : 0 < p.contexts handle) :
    ∃ ctx q, s.context handle = some ctx ∧ s.queue handle = some q ∧ q.release = false ∧ s.dropped handle = [] := by
  have hle := le_count hp (Phase.contexts handle)
  refine (g.views handle).context_of_pos ?_
  show 0 < s.count (Phase.contexts handle) + s.holding handle + (s.slot handle).toNat
  omega

/-- The assertion of `skynet_globalmq_push` holds for a queue that a thread has. -/
theorem sound_globalmqPush (g : s.Good) {handle : Nat} (h : handle ∉ s.globalQueue) :
    (s.globalmqPush handle).broken = false := by
  simp [globalmqPush, g.sound, h]

section Thread

variable {handle : Nat}

/-- A queue is taken from the list. -/
theorem Good.fetch (g : s.Good) {p p' : Phase} {rest : List Nat} (hp : s.threads[t]? = some p)
    (hl : s.globalQueue = handle :: rest) (hq : ∀ h, p'.queues h = p.queues h + if handle = h then 1 else 0)
    (hc : ∀ h, p'.contexts h = p.contexts h) (hn : ∀ h, p'.creates h = p.creates h)
    (hd : ∀ h, p'.dispatches h = p.dispatches h) (hr : ∀ h, p'.drops h = p.drops h) :
    (setPhase { s with globalQueue := rest } t p').Good := by
  refine ⟨fun h => ?_, g.sound⟩
  obtain ⟨others, h1, h2, _⟩ := exists_rest hp
  have gh := g.views h
  simp only [view, count, setPhase, h1, h2, hl, hq, hc, hn, hd, hr, List.count_cons, beq_iff_eq] at gh ⊢
  exact gh.move (by simp only; omega)

/-- A queue is put into the list by the thread that has it. -/
theorem Good.pushBack (g : s.Good) {p p' : Phase} (hp : s.threads[t]? = some p)
    (hq : ∀ h, p'.queues h + (if handle = h then 1 else 0) = p.queues h) (hc : ∀ h, p'.contexts h = p.contexts h)
    (hn : ∀ h, p'.creates h = p.creates h) (hd : ∀ h, p'.dispatches h = p.dispatches h) (hr : ∀ h, p'.drops h = p.drops h) :
    ((s.globalmqPush handle).setPhase t p').Good := by
  have hpos : 0 < p.queues handle := by
    have := hq handle
    rw [if_pos rfl] at this
    omega
  obtain ⟨_, _, _, hmem⟩ := g.queue_of_thread hp handle hpos
  refine ⟨fun h => ?_, sound_globalmqPush g hmem⟩
  obtain ⟨others, h1, h2, _⟩ := exists_rest hp
  have gh := g.views h
  have hqh := hq h
  simp only [view, count, setPhase, globalmqPush, h1, h2, hc, hn, hd, hr, List.count_append, List.count_singleton,
    beq_iff_eq] at gh ⊢
  exact gh.move (by simp only; omega)

/-- A reference is given back by the thread that has it. -/
theorem Good.release (g : s.Good) {p p' : Phase} (hp : s.threads[t]? = some p) (hq : ∀ h, p'.queues h = p.queues h)
    (hc : ∀ h, p'.contexts h + (if handle = h then 1 else 0) = p.contexts h) (hn : ∀ h, p'.creates h = p.creates h)
    (hd : ∀ h, p'.dispatches h = p.dispatches h) (hr : ∀ h, p'.drops h = p.drops h) :
    ((s.contextRelease handle).setPhase t p').Good := by
  have hpos : 0 < p.contexts handle := by
    have := hc handle
    rw [if_pos rfl] at this
    omega
  obtain ⟨ctx, _, hctx, _⟩ := g.context_of_thread hp handle hpos
  rw [contextRelease, hctx]
  refine ⟨fun h => ?_, g.sound⟩
  obtain ⟨others, h1, h2, _⟩ := exists_rest hp
  have gh := g.views h
  have hch := hc h
  simp only [view, count, setPhase, setContext, h1, h2, hq, hn, hd, hr] at gh ⊢
  by_cases hh : handle = h
  · subst hh
    have hrefs := gh.refs ctx hctx
    rw [if_pos rfl] at hch
    rw [Function.update_self]
    refine gh.reref hctx _ _ _ _ ?_ id
    simp only [View.refs] at hrefs ⊢
    omega
  · rw [if_neg hh, Nat.add_zero] at hch
    rw [Function.update_of_ne (Ne.symm hh), hch]
    exact gh

/-- A worker has a reference to the service whose queue it has. -/
theorem Good.take (g : s.Good) (hp : s.threads[t]? = some (.take handle)) (hs : s.slot handle = true) :
    ((s.contextGrab handle).setPhase t (.loop handle 0 1)).Good := by
  have hg := g.views handle
  obtain ⟨ctx, q, hctx, _⟩ := hg.context_of_pos (by simp [View.refs, view, hs])
  -- nobody is creating it, since the queue is here
  have hinit : ctx.init = true := by
    by_contra hi
    rw [Bool.not_eq_true] at hi
    have hc := hg.creating hs ctx hctx hi
    obtain ⟨rest, h1, _, h3⟩ := exists_rest hp
    have hle := h3 _ _ (Phase.creates_le handle)
    obtain ⟨_, _, h4, _⟩ := g.queue_of_thread hp handle (by simp [Phase.queues])
    simp only [view, count, h1, Phase.creates, Phase.queues, if_true] at hc h4
    omega
  rw [contextGrab, show s.context handle = some ctx from hctx]
  refine ⟨fun h => ?_, g.sound⟩
  obtain ⟨others, h1, h2, _⟩ := exists_rest hp
  have gh := g.views h
  simp only [view, count, setPhase, setContext, h1, h2] at gh ⊢
  by_cases hh : handle = h
  · subst hh
    have hrefs := gh.refs ctx hctx
    simp only [Phase.queues, Phase.contexts, Phase.creates, Phase.dispatches, Phase.drops, if_true, View.refs] at gh hrefs ⊢
    rw [Function.update_self]
    exact (gh.reref hctx (others (Phase.contexts handle) + 1) (s.holding handle) (s.slot handle) (ctx.ref + 1) (by omega)
      id).setDispatches
      fun _ => ⟨_, rfl, hinit⟩
  · simp only [Phase.queues, Phase.contexts, Phase.creates, Phase.dispatches, Phase.drops, if_neg hh] at gh ⊢
    rw [Function.update_of_ne (Ne.symm hh)]
    exact gh

/-- A worker takes a message. -/
theorem Good.takeMessage (g : s.Good) {i n : Nat} {q q' : MessageQueue} {message : Message}
    (hp : s.threads[t]? = some (.loop handle i n)) (hq : s.queue handle = some q) (hpop : q.pop = (some message, q')) :
    ((setQueue { s with taken := Function.update s.taken handle (s.taken handle ++ [message]) } handle (some q')).setPhase t
      (.popped handle i n message)).Good := by
  obtain ⟨_, _, _, _, _, hd⟩ := g.context_of_thread hp handle (by simp [Phase.contexts])
  refine ⟨fun h => ?_, g.sound⟩
  obtain ⟨others, h1, h2, _⟩ := exists_rest hp
  have gh := g.views h
  simp only [view, count, setPhase, setQueue, h1, h2] at gh ⊢
  by_cases hh : handle = h
  · subst hh
    simp only [Phase.queues, Phase.contexts, Phase.creates, Phase.dispatches, Phase.drops, if_true,
      Function.update_self] at gh ⊢
    exact gh.take hq hd hpop
  · simp only [Phase.queues, Phase.contexts, Phase.creates, Phase.dispatches, Phase.drops, if_neg hh] at gh ⊢
    rw [Function.update_of_ne (Ne.symm hh), Function.update_of_ne (Ne.symm hh)]
    exact gh

/-- A worker finds no message. -/
theorem Good.takeNothing (g : s.Good) {i n : Nat} {q q' : MessageQueue} (hp : s.threads[t]? = some (.loop handle i n))
    (hq : s.queue handle = some q) (hpop : q.pop = (none, q')) :
    ((s.setQueue handle (some q')).setPhase t (.empty handle)).Good := by
  obtain ⟨_, p, _, hq', hrel, _⟩ := g.context_of_thread hp handle (by simp [Phase.contexts])
  rw [hq] at hq'
  obtain rfl := Option.some.inj hq'
  refine ⟨fun h => ?_, g.sound⟩
  obtain ⟨others, h1, h2, _⟩ := exists_rest hp
  have gh := g.views h
  simp only [view, count, setPhase, setQueue, h1, h2] at gh ⊢
  by_cases hh : handle = h
  · subst hh
    simp only [Phase.queues, Phase.contexts, Phase.creates, Phase.dispatches, Phase.drops, if_true,
      Function.update_self] at gh ⊢
    exact (gh.popEmpty hq hrel (Nat.succ_pos _) hpop).setDispatches fun hd => gh.ready (Nat.lt_succ_of_lt hd)
  · simp only [Phase.queues, Phase.contexts, Phase.creates, Phase.dispatches, Phase.drops, if_neg hh] at gh ⊢
    rw [Function.update_of_ne (Ne.symm hh)]
    exact gh

/-- A worker calls the service, which is ready. -/
theorem Good.startCall (g : s.Good) {i n n' : Nat} {q : MessageQueue} {ctx : Context} {message : Message}
    (hp : s.threads[t]? = some (.popped handle i n message)) (hq : s.queue handle = some q)
    (hctx : s.context handle = some ctx) :
    ((setQueue { s with broken := s.broken || !ctx.init } handle (some { q with overload := 0 })).setPhase t
      (.call handle i n' message)).Good := by
  have hd := le_count hp (Phase.dispatches handle)
  obtain ⟨ctx', hctx', hinit⟩ := (g.views handle).ready (Nat.lt_of_lt_of_le (by simp [Phase.dispatches]) hd)
  have he : some ctx = some ctx' := hctx.symm.trans hctx'
  obtain rfl := Option.some.inj he
  refine ⟨fun h => ?_, by simp [setQueue, setPhase, g.sound, hinit]⟩
  obtain ⟨others, h1, h2, _⟩ := exists_rest hp
  have gh := g.views h
  simp only [view, count, setPhase, setQueue, h1, h2] at gh ⊢
  by_cases hh : handle = h
  · subst hh
    simp only [Phase.queues, Phase.contexts, Phase.creates, Phase.dispatches, Phase.drops, if_true,
      Function.update_self] at gh ⊢
    have hlog := gh.log_some hq
    exact gh.setQueue hq { q with overload := 0 } rfl rfl (gh.wf q hq) (gh.empty q hq) hlog gh.kept
  · simp only [Phase.queues, Phase.contexts, Phase.creates, Phase.dispatches, Phase.drops, if_neg hh] at gh ⊢
    rw [Function.update_of_ne (Ne.symm hh)]
    exact gh

/-- A callback returns. -/
theorem Good.endCall (g : s.Good) {i n : Nat} {message : Message} {p' : Phase}
    (hp : s.threads[t]? = some (.call handle i n message)) (hp' : p' = .loop handle (i + 1) n ∨ p' = .done handle) :
    (s.setPhase t p').Good := by
  refine ⟨fun h => ?_, g.sound⟩
  rcases hp' with rfl | rfl
  · rw [show (s.setPhase t (.loop handle (i + 1) n)).view h = s.view h from view_setPhase hp rfl rfl rfl rfl rfl]
    exact g.views h
  · obtain ⟨others, h1, h2, _⟩ := exists_rest hp
    have gh := g.views h
    simp only [view, count, setPhase, h1, h2] at gh ⊢
    refine gh.setDispatches fun hd => gh.ready ?_
    exact Nat.lt_of_lt_of_le hd (Nat.add_le_add_left (Nat.zero_le _) _)

/-- A thread begins to drop the queue of a service that has been deleted. -/
theorem Good.startDrop (g : s.Good) {worker : Bool} {q : MessageQueue} (hp : s.threads[t]? = some (.discard handle worker))
    (hq : s.queue handle = some q) (hr : q.release = true) : (s.setPhase t (.drop handle worker)).Good := by
  refine ⟨fun h => ?_, g.sound⟩
  obtain ⟨others, h1, h2, _⟩ := exists_rest hp
  have gh := g.views h
  simp only [view, count, setPhase, h1, h2] at gh ⊢
  by_cases hh : handle = h
  · subst hh
    exact gh.setDrops fun _ => ⟨q, hq, hr⟩
  · simp only [Phase.queues, Phase.contexts, Phase.creates, Phase.dispatches, Phase.drops, if_neg hh] at gh ⊢
    exact gh

/-- A queue that is being dropped has been released. -/
theorem Good.released_of_drop (g : s.Good) {worker : Bool} {q : MessageQueue}
    (hp : s.threads[t]? = some (.drop handle worker)) (hq : s.queue handle = some q) :
    q.release = true := by
  have hd := le_count hp (Phase.drops handle)
  obtain ⟨q', hq', hr⟩ := (g.views handle).dropping (Nat.lt_of_lt_of_le (by simp [Phase.drops]) hd)
  have he : some q = some q' := hq.symm.trans hq'
  exact Option.some.inj he ▸ hr

/-- A message is dropped. -/
theorem Good.dropMessage (g : s.Good) {worker : Bool} {q q' : MessageQueue} {message : Message}
    (hp : s.threads[t]? = some (.drop handle worker)) (hq : s.queue handle = some q) (hpop : q.pop = (some message, q')) :
    (setQueue { s with dropped := Function.update s.dropped handle (s.dropped handle ++ [message]) } handle
      (some q')).Good := by
  refine ⟨fun h => ?_, g.sound⟩
  have gh := g.views h
  by_cases hh : handle = h
  · subst hh
    simp only [view, count, setQueue, Function.update_self]
    exact gh.drop hq (g.released_of_drop hp hq) hpop
  · simp only [view, count, setQueue, Function.update_of_ne (Ne.symm hh)]
    exact gh

/-- The queue has been dropped. -/
theorem Good.endDrop (g : s.Good) {worker : Bool} {q q' : MessageQueue} (hp : s.threads[t]? = some (.drop handle worker))
    (hq : s.queue handle = some q) (hpop : q.pop = (none, q')) :
    ((setQueue { s with broken := s.broken || decide (handle ∈ s.globalQueue) } handle none).setPhase t
      (idle worker)).Good := by
  obtain ⟨_, _, hone, hmem⟩ := g.queue_of_thread hp handle (by simp [Phase.queues])
  refine ⟨fun h => ?_, by simp [setQueue, setPhase, g.sound, hmem]⟩
  obtain ⟨others, h1, h2, h3⟩ := exists_rest hp
  have gh := g.views h
  have hrel := g.released_of_drop hp hq
  have hidle (h : Nat) : (idle worker).queues h = 0 ∧ (idle worker).contexts h = 0 ∧ (idle worker).creates h = 0 ∧
      (idle worker).dispatches h = 0 ∧ (idle worker).drops h = 0 := by
    cases worker <;> exact ⟨rfl, rfl, rfl, rfl, rfl⟩
  obtain ⟨e1, e2, e3, e4, e5⟩ := hidle h
  simp only [view, count, setPhase, setQueue, h1, h2, e1, e2, e3, e4, e5] at gh ⊢
  by_cases hh : handle = h
  · subst hh
    have hle := h3 _ _ (Phase.drops_le handle)
    simp only [count, h1, Phase.queues, if_true] at hone
    simp only [Phase.queues, Phase.contexts, Phase.creates, Phase.dispatches, Phase.drops, if_true,
      Function.update_self] at gh ⊢
    have hz : others (Phase.drops handle) + 0 = 0 := by omega
    rw [hz]
    exact gh.free hq hrel (Nat.succ_pos _) hpop
  · simp only [Phase.queues, Phase.contexts, Phase.creates, Phase.dispatches, Phase.drops, if_neg hh] at gh ⊢
    rw [Function.update_of_ne (Ne.symm hh)]
    exact gh

/-- A service whose init function has failed leaves the table. -/
theorem Good.retireFailed (g : s.Good) (hp : s.threads[t]? = some (.failed handle)) (hs : s.slot handle = true) :
    (setPhase { s with
      slot := Function.update s.slot handle false,
      holding := Function.update s.holding handle (s.holding handle + 1) } t
      (.discard handle false)).Good := by
  refine ⟨fun h => ?_, g.sound⟩
  obtain ⟨others, h1, h2, _⟩ := exists_rest hp
  have gh := g.views h
  simp only [view, count, setPhase, h1, h2] at gh ⊢
  by_cases hh : handle = h
  · subst hh
    obtain ⟨ctx, _, hctx, _⟩ := gh.context_of_pos (by simp [View.refs, hs])
    have hrefs := gh.refs ctx hctx
    simp only [Phase.queues, Phase.contexts, Phase.creates, Phase.dispatches, Phase.drops, if_true, View.refs, hs,
      Function.update_self, Bool.toNat_true, Nat.add_zero] at gh hrefs ⊢
    have hr := gh.reref hctx (others (Phase.contexts handle)) (s.holding handle + 1) false ctx.ref
      (by rw [hrefs, Bool.toNat_false]; omega) (by simp)
    rw [show s.context handle = some { ctx with ref := ctx.ref } from hctx]
    exact hr.setCreates (by simp)
  · simp only [Phase.queues, Phase.contexts, Phase.creates, Phase.dispatches, Phase.drops, if_neg hh] at gh ⊢
    rw [Function.update_of_ne (Ne.symm hh), Function.update_of_ne (Ne.symm hh)]
    exact gh

/-- A service whose init function has failed has left the table before. -/
theorem Good.discardFailed (g : s.Good) (hp : s.threads[t]? = some (.failed handle)) (hs : s.slot handle = false) :
    (s.setPhase t (.discard handle false)).Good := by
  refine ⟨fun h => ?_, g.sound⟩
  obtain ⟨others, h1, h2, _⟩ := exists_rest hp
  have gh := g.views h
  simp only [view, count, setPhase, h1, h2] at gh ⊢
  by_cases hh : handle = h
  · subst hh
    exact gh.setCreates (by simp [hs])
  · simp only [Phase.queues, Phase.contexts, Phase.creates, Phase.dispatches, Phase.drops, if_neg hh] at gh ⊢
    exact gh

/-- The init function has succeeded, and the thread gives its reference back. -/
theorem Good.initDone (g : s.Good) (hp : s.threads[t]? = some (.init handle)) : (s.initDone t handle).Good := by
  obtain ⟨ctx, _, hctx, _⟩ := g.context_of_thread hp handle (by simp [Phase.contexts])
  rw [Node.initDone, hctx]
  dsimp only
  by_cases h0 : ctx.ref - 1 = 0
  · rw [if_pos h0, contextRelease, hctx]
    refine ⟨fun h => ?_, g.sound⟩
    obtain ⟨others, h1, h2, _⟩ := exists_rest hp
    have gh := g.views h
    simp only [view, count, setPhase, setContext, h1, h2] at gh ⊢
    by_cases hh : handle = h
    · subst hh
      have hrefs := gh.refs ctx hctx
      simp only [Phase.queues, Phase.contexts, Phase.creates, Phase.dispatches, Phase.drops, if_true, View.refs,
        Function.update_self, Nat.add_zero] at gh hrefs ⊢
      have hr := gh.reref hctx (others (Phase.contexts handle)) (s.holding handle) (s.slot handle)
        (ctx.ref - 1) (by omega) id
      refine hr.setCreates fun hs => ?_
      -- a service that is in the table keeps a reference
      rw [show s.slot handle = true from hs, Bool.toNat_true] at hrefs
      omega
    · simp only [Phase.queues, Phase.contexts, Phase.creates, Phase.dispatches, Phase.drops, if_neg hh] at gh ⊢
      rw [Function.update_of_ne (Ne.symm hh)]
      exact gh
  · rw [if_neg h0]
    exact g.release hp (fun _ => rfl) (by simp [Phase.contexts]) (fun _ => rfl) (fun _ => rfl) (fun _ => rfl)

/-- The service is made ready, unless it has been deleted. -/
theorem Good.setInit (g : s.Good) (hp : s.threads[t]? = some (.ready handle)) :
    ((s.setInit handle).setPhase t (.start handle true)).Good := by
  cases hctx : s.context handle with
  | none =>
    rw [Node.setInit, hctx]
    refine ⟨fun h => ?_, g.sound⟩
    obtain ⟨others, h1, h2, _⟩ := exists_rest hp
    have gh := g.views h
    simp only [view, count, setPhase, h1, h2] at gh ⊢
    by_cases hh : handle = h
    · subst hh
      simp only [Phase.queues, Phase.contexts, Phase.creates, Phase.dispatches, Phase.drops, if_true] at gh ⊢
      refine gh.setCreates fun _ ctx hc => ?_
      rw [show s.context handle = some ctx from hc] at hctx
      cases hctx
    · simp only [Phase.queues, Phase.contexts, Phase.creates, Phase.dispatches, Phase.drops, if_neg hh] at gh ⊢
      exact gh
  | some ctx =>
    rw [Node.setInit, hctx]
    refine ⟨fun h => ?_, g.sound⟩
    obtain ⟨others, h1, h2, _⟩ := exists_rest hp
    have gh := g.views h
    simp only [view, count, setPhase, setContext, h1, h2] at gh ⊢
    by_cases hh : handle = h
    · subst hh
      simp only [Phase.queues, Phase.contexts, Phase.creates, Phase.dispatches, Phase.drops, if_true,
        Function.update_self] at gh ⊢
      exact gh.setInit hctx true (fun _ => rfl) fun _ hi => absurd hi (by decide)
    · simp only [Phase.queues, Phase.contexts, Phase.creates, Phase.dispatches, Phase.drops, if_neg hh] at gh ⊢
      rw [Function.update_of_ne (Ne.symm hh)]
      exact gh

/-- A context is read, which changes nothing. -/
theorem Good.readContext (g : s.Good) {p p' : Phase} (hp : s.threads[t]? = some p) (hq : ∀ h, p'.queues h = p.queues h)
    (hc : ∀ h, p'.contexts h = p.contexts h) (hn : ∀ h, p'.creates h = p.creates h)
    (hd : ∀ h, p'.dispatches h = p.dispatches h) (hr : ∀ h, p'.drops h = p.drops h) :
    ((s.readContext handle).setPhase t p').Good := by
  have hgood : (s.setPhase t p').Good := by
    refine ⟨fun h => ?_, g.sound⟩
    rw [view_setPhase hp (hq h) (hc h) (hn h) (hd h) (hr h)]
    exact g.views h
  unfold Node.readContext
  split
  · exact hgood
  · exact ⟨hgood.views, hgood.sound⟩

theorem Good.contextNew (g : s.Good) (hp : s.threads[t]? = some .off) (hfree : s.queue handle = none) :
    (s.contextNew t handle).Good := by
  refine ⟨fun h => ?_, g.sound⟩
  obtain ⟨others, h1, h2, h3⟩ := exists_rest hp
  have gh := g.views h
  simp only [view, count, Node.contextNew, h1, h2] at gh ⊢
  by_cases hh : handle = h
  · subst hh
    obtain ⟨hq, hl, hc⟩ := gh.noQueue hfree
    have hrefs := gh.noContext hc
    have hd := h3 _ _ (Phase.dispatches_le handle)
    have hr := h3 _ _ (Phase.drops_le handle)
    simp only [Phase.queues, Phase.contexts, Phase.creates, Phase.dispatches, Phase.drops, if_true, View.refs,
      Function.update_self, Nat.add_zero] at hq hl hrefs ⊢
    have hslot : s.holding handle = 0 := by omega
    rw [hq, hl, hslot]
    exact
      { noQueue := by simp
        place := fun q hq => by
          obtain rfl := Option.some.inj hq
          rfl
        wf := fun q hq => by
          obtain rfl := Option.some.inj hq
          exact MessageQueue.wf_create
        released := fun q hq => by
          obtain rfl := Option.some.inj hq
          simp [MessageQueue.create]
        empty := fun q hq _ => by
          obtain rfl := Option.some.inj hq
          rfl
        noContext := by simp
        refs := fun ctx hctx => by
          obtain rfl := Option.some.inj hctx
          simp only [View.refs, Bool.toNat_true]
          omega
        log := rfl
        kept := by simp
        ready := fun hpos => by
          simp only at hpos
          omega
        creating := fun _ _ _ _ => Nat.succ_pos _
        dropping := fun hpos => by
          simp only at hpos
          omega }
  · simp only [Phase.queues, Phase.contexts, Phase.creates, Phase.dispatches, Phase.drops, if_neg hh] at gh ⊢
    simp only [Function.update_of_ne (Ne.symm hh)]
    exact gh

/-! ### The threads that send messages and retire services -/

/-- A reference is taken, handed on or given back outside the workers' loop. -/
theorem Good.hold (g : s.Good) {ctx : Context} (hctx : s.context handle = some ctx) (holding : Nat) (slot : Bool) (ref : Int)
    (hr : ref + s.holding handle + ((s.slot handle).toNat : Int) = ctx.ref + holding + (slot.toNat : Int))
    (hs : slot = true → s.slot handle = true) :
    Node.Good { s with
      context := Function.update s.context handle (some { ctx with ref })
      holding := Function.update s.holding handle holding
      slot := Function.update s.slot handle slot } := by
  refine ⟨fun h => ?_, g.sound⟩
  have gh := g.views h
  by_cases hh : handle = h
  · subst hh
    have hrefs := gh.refs ctx hctx
    simp only [view, count, Function.update_self, View.refs] at hrefs gh ⊢
    exact gh.reref hctx _ _ _ _ (by omega) hs
  · simp only [view, count, Function.update_of_ne (Ne.symm hh)] at gh ⊢
    exact gh

/-- A service in the table, or one that somebody holds, has a context. -/
theorem Good.context_of_holding (g : s.Good) (h : 0 < s.holding handle ∨ s.slot handle = true) :
    ∃ ctx q, s.context handle = some ctx ∧ s.queue handle = some q ∧ q.release = false ∧ s.dropped handle = [] := by
  refine (g.views handle).context_of_pos ?_
  show 0 < s.count (Phase.contexts handle) + s.holding handle + (s.slot handle).toNat
  rcases h with h | h
  · omega
  · rw [h, Bool.toNat_true]
    omega

theorem Good.grab (g : s.Good) (hs : s.slot handle = true) :
    (contextGrab { s with holding := Function.update s.holding handle (s.holding handle + 1) } handle).Good := by
  obtain ⟨ctx, _, hctx, _⟩ := g.context_of_holding (Or.inr hs)
  rw [contextGrab, show s.context handle = some ctx from hctx]
  have := g.hold hctx (s.holding handle + 1) (s.slot handle) (ctx.ref + 1) (by omega) id
  rwa [Function.update_eq_self] at this

/-- A message is pushed by a thread that holds the service. -/
theorem Good.send (g : s.Good) (hh : 0 < s.holding handle) (message : Message) : (s.mqPush handle message).Good := by
  obtain ⟨_, q, _, hq, hrel, hd⟩ := g.context_of_holding (Or.inl hh)
  have gs := g.views handle
  have gsend := gs.send hq hrel hd message
  rw [mqPush, hq]
  cases hi : q.inGlobal with
  | true =>
    refine ⟨fun h => ?_, ?_⟩
    · by_cases hhh : handle = h
      · subst hhh
        rw [hi] at gsend
        simp only [view, count, MessageQueue.push, hi, setQueue, if_true, Function.update_self] at gsend ⊢
        exact gsend
      · have gh := g.views h
        simp only [view, count, MessageQueue.push, hi, setQueue, if_true, Function.update_of_ne (Ne.symm hhh)] at gh ⊢
        exact gh
    · simp [MessageQueue.push, hi, setQueue, g.sound]
  | false =>
    have hmem : handle ∉ s.globalQueue := by
      have := gs.place q hq
      rw [hi, hrel] at this
      exact List.count_eq_zero.1 (Nat.eq_zero_of_add_eq_zero_left this)
    refine ⟨fun h => ?_, ?_⟩
    · by_cases hhh : handle = h
      · subst hhh
        rw [hi] at gsend
        simp only [view, count, MessageQueue.push, hi, setQueue, globalmqPush, Bool.false_eq_true, if_false,
          Function.update_self, List.count_append, List.count_singleton_self] at gsend ⊢
        exact gsend
      · have gh := g.views h
        simp only [view, count, MessageQueue.push, hi, setQueue, globalmqPush, Bool.false_eq_true, if_false,
          Function.update_of_ne (Ne.symm hhh), List.count_append, List.count_singleton, beq_iff_eq, hhh,
            Nat.add_zero] at gh ⊢
        exact gh
    · simp [MessageQueue.push, hi, setQueue, globalmqPush, g.sound, hmem]

/-- A service whose last reference has been given back is deleted. -/
theorem Good.delete (g : s.Good) {ctx : Context} (hctx : s.context handle = some ctx) (h0 : ctx.ref = 0) :
    (s.deleteContext handle).Good := by
  have gs := g.views handle
  obtain ⟨q, hq⟩ : ∃ q, s.queue handle = some q := by
    cases hq : s.queue handle with
    | none =>
      have : s.context handle = none := (gs.noQueue hq).2.2
      rw [hctx] at this
      cases this
    | some q => exact ⟨q, rfl⟩
  have hrel : q.release = false := by
    rw [← Bool.not_eq_true, gs.released q hq, show (s.view handle).context = some ctx from hctx]
    simp
  have hrefs : s.count (Phase.contexts handle) + s.holding handle + (s.slot handle).toNat = 0 := by
    have := gs.refs ctx hctx
    rw [h0] at this
    exact Int.ofNat_eq_zero.1 this.symm
  have hd : s.count (Phase.dispatches handle) = 0 := by
    have := count_le (s := s) (Phase.dispatches_le handle)
    omega
  have gdel := gs.delete hq hctx h0 hd.symm
  rw [deleteContext, hq]
  cases hi : q.inGlobal with
  | true =>
    refine ⟨fun h => ?_, ?_⟩
    · by_cases hh : handle = h
      · subst hh
        rw [hi] at gdel
        simp only [view, count, hi, setContext, setQueue, if_true, Function.update_self] at gdel ⊢
        exact gdel
      · have gh := g.views h
        simp only [view, count, hi, setContext, setQueue, if_true, Function.update_of_ne (Ne.symm hh)] at gh ⊢
        exact gh
    · simp [hi, setContext, setQueue, g.sound, hrel]
  | false =>
    have hmem : handle ∉ s.globalQueue := by
      have := gs.place q hq
      rw [hi, hrel] at this
      exact List.count_eq_zero.1 (Nat.eq_zero_of_add_eq_zero_left this)
    refine ⟨fun h => ?_, ?_⟩
    · by_cases hh : handle = h
      · subst hh
        rw [hi] at gdel
        simp only [view, count, hi, setContext, setQueue, globalmqPush, Bool.false_eq_true, if_false, Function.update_self,
          List.count_append, List.count_singleton_self] at gdel ⊢
        exact gdel
      · have gh := g.views h
        simp only [view, count, hi, setContext, setQueue, globalmqPush, Bool.false_eq_true, if_false,
          Function.update_of_ne (Ne.symm hh), List.count_append, List.count_singleton, beq_iff_eq, hh, Nat.add_zero] at gh ⊢
        exact gh
    · simp [hi, setContext, setQueue, globalmqPush, g.sound, hrel, hmem]

end Thread

/-! ### The contexts of services that have just been created -/

/-- Nobody has used a context that was freed, and the contexts that are still going to be used are there. -/
structure Kept (s : Node) : Prop where
  fresh : s.stale = false
  there : ∀ p ∈ s.threads, ∀ h, p.uses h = true → (s.context h).isSome

/-- The threads are where they were, and no context has been freed. -/
structure Tame (s s' : Node) : Prop where
  stale : s'.stale = s.stale
  threads : s'.threads = s.threads
  context : ∀ h, (s.context h).isSome → (s'.context h).isSome

theorem tame_setContext (s : Node) (handle : Nat) (ctx : Context) : Tame s (s.setContext handle (some ctx)) := by
  refine ⟨rfl, rfl, fun h hs => ?_⟩
  show (Function.update s.context handle (some ctx) h).isSome
  by_cases hh : h = handle
  · rw [hh, Function.update_self]
    rfl
  · rwa [Function.update_of_ne hh]

theorem tame_refl (s : Node) : Tame s s := ⟨rfl, rfl, fun _ hs => hs⟩

theorem tame_contextGrab (s : Node) (handle : Nat) : Tame s (s.contextGrab handle) := by
  unfold contextGrab
  split
  · exact ⟨rfl, rfl, fun _ hs => hs⟩
  · exact tame_setContext s handle _

theorem tame_contextRelease (s : Node) (handle : Nat) : Tame s (s.contextRelease handle) := by
  unfold contextRelease
  split
  · exact ⟨rfl, rfl, fun _ hs => hs⟩
  · exact tame_setContext s handle _

theorem tame_mqPush (s : Node) (handle : Nat) (message : Message) : Tame s (s.mqPush handle message) := by
  unfold mqPush
  split
  · exact ⟨rfl, rfl, fun _ hs => hs⟩
  · dsimp only
    split <;> exact ⟨rfl, rfl, fun _ hs => hs⟩

theorem Kept.tame {s s' : Node} (k : s.Kept) (h : Tame s s') : s'.Kept where
  fresh := h.stale.trans k.fresh
  there p hp handle hu := h.context handle (k.there p (h.threads ▸ hp) handle hu)

/-- A thread that goes on, with a context that is there if it is going to use one. -/
theorem Kept.setPhase {s : Node} (k : s.Kept) {p' : Phase}
    (h : ∀ handle, p'.uses handle = true → (s.context handle).isSome) :
    (s.setPhase t p').Kept := by
  refine ⟨k.fresh, fun p hp handle hu => ?_⟩
  rcases List.mem_or_eq_of_mem_set hp with hp | rfl
  · exact k.there p hp handle hu
  · exact h handle hu

/-- A thread that goes on and is not going to use a context. -/
theorem Kept.leaves {s s' : Node} (k : s.Kept) {p' : Phase} (htame : Tame s s') (h : ∀ handle, p'.uses handle = false) :
    (s'.setPhase t p').Kept :=
  (k.tame htame).setPhase fun handle hu => absurd hu (by rw [h handle]; decide)

/-- The context of a service is read while it is there. -/
theorem readContext_eq {s : Node} {handle : Nat} (h : (s.context handle).isSome) : s.readContext handle = s := if_pos h

/-- A service is deleted whose context nobody is going to use. -/
theorem Kept.delete {s : Node} (k : s.Kept) (handle : Nat) (h : ∀ p ∈ s.threads, p.uses handle = false) :
    (s.deleteContext handle).Kept := by
  have hkept : ∀ p ∈ s.threads, ∀ h, p.uses h = true → (Function.update s.context handle none h).isSome := by
    intro p hp h' hu
    rw [Function.update_of_ne]
    · exact k.there p hp h' hu
    rintro rfl
    rw [h p hp] at hu
    cases hu
  unfold deleteContext
  split
  · exact k.tame ⟨rfl, rfl, fun _ hs => hs⟩
  · dsimp only
    split <;> exact ⟨k.fresh, hkept⟩

theorem tame_setInit {s : Node} {handle : Nat} (h : (s.context handle).isSome) : Tame s (s.setInit handle) := by
  obtain ⟨ctx, hctx⟩ := Option.isSome_iff_exists.1 h
  rw [Node.setInit, hctx]
  exact tame_setContext s handle _

end Node

end SasyServer.Skynet
