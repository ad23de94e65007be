import Mathlib.Data.List.Nodup
import SasyServer.Gateway.Forwarding
import SasyServer.Lib.Steps

/-!
# Theorem: the agents of a gateway, as long as no client goes before its agent has called

`close_fd` tells only the agent that the record names, and the record names its agent only from `CMD.forward` on. A
client that goes before leaves an agent that nobody tells to exit, and an entry of `_forwarding` for a record that is
no longer in `_connection`. The condition `settled` is on the state in which a record is taken away: its handler does
not wait, and its agent has called.
-/

namespace SasyServer.Gateway

variable {s s' : State}

/-- What the tables are to hold. -/
structure Served (s : State) : Prop where
  kept : ∀ agent c, s.forwarding agent = some c → s.connection (s.record c).fd = some c
  one : ∀ agent agent' c, s.forwarding agent = some c → s.forwarding agent' = some c → agent = agent'
  told : ∀ agent c, s.created agent = some c → s.connection (s.record c).fd ≠ some c → agent ∈ s.exited

/-- The client's handler does not wait for `newservice`, and no agent that has still to call was started for it. -/
def settled (s : State) (fd : Nat) : Prop :=
  ∀ c, s.connection fd = some c → c ∉ s.connecting ∧ ∀ agent, s.created agent = some c → s.starting agent ≠ some fd

/-- The condition on a label in the state in which it is taken: a client whose record the label takes away is settled. -/
def closesSettled (s : State) : Label → Prop
  | .disconnect fd | .error fd => settled s fd
  | .message fd sz => dropsMessage s fd sz → settled s fd
  | .timeout fds => s.kind = .tcpGateway → ∀ fd ∈ fds, expired s fd → settled s fd
  | _ => True

/-- The invariant of the runs whose labels meet the condition. -/
structure Inv (s : State) : Prop where
  record : ∀ fd c, s.connection fd = some c → c < s.nextRecord ∧ (s.record c).fd = fd
  waits : ∀ c ∈ s.connecting, s.connection (s.record c).fd = some c
  nodup : s.connecting.Nodup
  created : ∀ agent c, s.created agent = some c → c < s.nextRecord ∧ c ∉ s.connecting
  single : ∀ agent agent' c, s.created agent = some c → s.created agent' = some c → agent = agent'
  forwarding : ∀ agent c, s.forwarding agent = some c → s.created agent = some c ∧ s.connection (s.record c).fd = some c
  agent : ∀ agent c, (s.record c).agent = some agent → s.forwarding agent = some c
  starting : ∀ agent fd, s.starting agent = some fd →
    ∃ c, s.connection fd = some c ∧ s.created agent = some c ∧ (s.record c).agent = none
  known : ∀ agent c, s.created agent = some c → s.forwarding agent = some c ∨ agent ∈ s.exited
  named : ∀ agent c, s.forwarding agent = some c → (s.record c).agent = some agent ∨ s.starting agent = some (s.record c).fd

/-- A gateway without connections. -/
theorem inv_init (kind : Kind) (threshold : Nat) : Inv (.init kind threshold) where
  record _ _ h := by cases h
  waits _ h := by cases h
  nodup := List.nodup_nil
  created _ _ h := by cases h
  single _ _ _ h := by cases h
  forwarding _ _ h := by cases h
  agent _ _ h := by cases h
  starting _ _ h := by cases h
  known _ _ h := by cases h
  named _ _ h := by cases h

theorem Inv.served (h : Inv s) : Served s where
  kept agent c hf := (h.forwarding agent c hf).2
  one agent agent' c hf hf' := h.single agent agent' c (h.forwarding agent c hf).1 (h.forwarding agent' c hf').1
  told agent c hc hgone := (h.known agent c hc).resolve_left fun hf => hgone (h.forwarding agent c hf).2

/-! ## What the functions keep -/

theorem Inv.setOpened (h : Inv s) (opened : Nat → Bool) : Inv { s with opened := opened } :=
  ⟨h.record, h.waits, h.nodup, h.created, h.single, h.forwarding, h.agent, h.starting, h.known, h.named⟩

theorem Inv.setNow (h : Inv s) (now : Nat) : Inv { s with now := now } :=
  ⟨h.record, h.waits, h.nodup, h.created, h.single, h.forwarding, h.agent, h.starting, h.known, h.named⟩

theorem update_record_fd (s : State) (c x : Nat) (agent : Option Nat) (tick : Nat) :
    (Function.update s.record c ⟨(s.record c).fd, agent, tick⟩ x).fd = (s.record x).fd := by
  by_cases hx : x = c
  · rw [hx, Function.update_self]
  · rw [Function.update_of_ne hx]

theorem update_record_agent (s : State) (c x tick : Nat) :
    (Function.update s.record c { s.record c with tick := tick } x).agent = (s.record x).agent := by
  by_cases hx : x = c
  · rw [hx, Function.update_self]
  · rw [Function.update_of_ne hx]

/-- A record is used. -/
theorem Inv.setTick (h : Inv s) (c tick : Nat) :
    Inv { s with record := Function.update s.record c { s.record c with tick := tick } } := by
  constructor <;> simp only [update_record_fd, update_record_agent]
  exacts [h.record, h.waits, h.nodup, h.created, h.single, h.forwarding, h.agent, h.starting, h.known, h.named]

/-- A record that names an agent: the agent is sent `exit`, and the record names none. -/
theorem Inv.unforward (h : Inv s) (c : Nat) : Inv (unforward s c) := by
  unfold Gateway.unforward
  cases ha : (s.record c).agent with
  | none => exact h
  | some a =>
    have hfa := h.agent a c ha
    have hca := (h.forwarding a c hfa).1
    have hother : ∀ b x, Function.update s.forwarding a none b = some x → b ≠ a ∧ s.forwarding b = some x := by
      intro b x hb
      by_cases hba : b = a
      · rw [hba, Function.update_self] at hb
        cases hb
      · exact ⟨hba, by rwa [Function.update_of_ne hba] at hb⟩
    constructor <;> simp only [update_record_fd]
    · exact h.record
    · exact h.waits
    · exact h.nodup
    · exact h.created
    · exact h.single
    · exact fun b x hb => h.forwarding b x (hother b x hb).2
    · intro b x hb
      by_cases hxc : x = c
      · rw [hxc, Function.update_self] at hb
        cases hb
      · rw [Function.update_of_ne hxc] at hb
        have hfb := h.agent b x hb
        have hba : b ≠ a := by
          rintro rfl
          exact hxc (Option.some.inj (hfb.symm.trans hfa))
        rwa [Function.update_of_ne hba]
    · intro b fd hb
      obtain ⟨x, hx, hcb, hnone⟩ := h.starting b fd hb
      refine ⟨x, hx, hcb, ?_⟩
      by_cases hxc : x = c
      · rw [hxc, Function.update_self]
      · rwa [Function.update_of_ne hxc]
    · intro b x hb
      by_cases hba : b = a
      · exact Or.inr (hba ▸ List.mem_cons_self)
      · rw [Function.update_of_ne hba]
        exact (h.known b x hb).imp_right (List.mem_cons_of_mem _)
    · intro b x hb
      obtain ⟨hba, hfb⟩ := hother b x hb
      refine (h.named b x hfb).imp_left fun hbx => ?_
      have hxc : x ≠ c := by
        rintro rfl
        exact hba (Option.some.inj (hbx.symm.trans ha))
      rwa [Function.update_of_ne hxc]

theorem unforward_agent (s : State) (c : Nat) : ((unforward s c).record c).agent = none := by
  unfold unforward
  split
  · simp only [Function.update_self]
  · assumption

/-- `unforward` takes nothing from `_connection`, and leaves the waiting handlers and agents alone. -/
theorem unforward_frame (s : State) (c : Nat) : (unforward s c).connection = s.connection ∧
    (unforward s c).connecting = s.connecting ∧ (unforward s c).starting = s.starting ∧ (unforward s c).created = s.created ∧
    (unforward s c).kind = s.kind ∧ (unforward s c).now = s.now ∧ (unforward s c).threshold = s.threshold := by
  unfold unforward
  split <;> simp

theorem unforward_tick (s : State) (c x : Nat) : ((unforward s c).record x).tick = (s.record x).tick := by
  unfold unforward
  split
  · by_cases hx : x = c
    · simp only [hx, Function.update_self]
    · simp only [Function.update_of_ne hx]
  · rfl

/-- A record that names no agent and is settled goes from `_connection`. -/
theorem Inv.removeRecord (h : Inv s) {fd c : Nat} (hc : s.connection fd = some c) (hagent : (s.record c).agent = none)
    (hset : settled s fd) : Inv { s with connection := Function.update s.connection fd none } := by
  have hfd := (h.record fd c hc).2
  have hcall : ∀ agent, s.forwarding agent ≠ some c := by
    intro agent hf
    rcases h.named agent c hf with hn | hn
    · rw [hagent] at hn
      cases hn
    · exact (hset c hc).2 agent (h.forwarding agent c hf).1 (hfd ▸ hn)
  have hkeep : ∀ x, s.connection (s.record x).fd = some x → x ≠ c →
      Function.update s.connection fd none (s.record x).fd = some x := by
    intro x hx hxc
    have hne : (s.record x).fd ≠ fd := fun he => hxc (Option.some.inj (hx.symm.trans (he ▸ hc)))
    rwa [Function.update_of_ne hne]
  constructor <;> dsimp only
  · intro fd' x hx
    by_cases he : fd' = fd
    · rw [he, Function.update_self] at hx
      cases hx
    · rw [Function.update_of_ne he] at hx
      exact h.record fd' x hx
  · exact fun x hx => hkeep x (h.waits x hx) fun he => (hset c hc).1 (he ▸ hx)
  · exact h.nodup
  · exact h.created
  · exact h.single
  · intro agent x hf
    obtain ⟨h1, h2⟩ := h.forwarding agent x hf
    exact ⟨h1, hkeep x h2 fun he => hcall agent (he ▸ hf)⟩
  · exact h.agent
  · intro agent fd' hs
    obtain ⟨x, hx, hcx, hn⟩ := h.starting agent fd' hs
    have hne : fd' ≠ fd := by
      rintro rfl
      have hxc : x = c := Option.some.inj (hx.symm.trans hc)
      exact (hset c hc).2 agent (hxc ▸ hcx) hs
    exact ⟨x, by rwa [Function.update_of_ne hne], hcx, hn⟩
  · exact h.known
  · exact h.named

theorem settled_unforward {fd c : Nat} (hset : settled s fd) : settled (unforward s c) fd := by
  obtain ⟨h1, h2, h3, h4, -⟩ := unforward_frame s c
  unfold settled
  rw [h1, h2, h3, h4]
  exact hset

theorem Inv.closeFd (h : Inv s) {fd : Nat} (hset : settled s fd) : Inv (closeFd s fd) := by
  unfold Gateway.closeFd
  cases hc : s.connection fd with
  | none => exact h
  | some c =>
    have hc' : (Gateway.unforward s c).connection fd = some c := by rw [(unforward_frame s c).1, hc]
    exact (h.unforward c).removeRecord hc' (unforward_agent s c) (settled_unforward hset)

/-- The entries after a connection is closed were there before. -/
theorem connection_closeFd {fd fd' x : Nat} (hx : (closeFd s fd).connection fd' = some x) : s.connection fd' = some x := by
  unfold Gateway.closeFd at hx
  cases hc : s.connection fd with
  | none => rwa [hc] at hx
  | some c =>
    simp only [hc, (unforward_frame s c).1] at hx
    by_cases he : fd' = fd
    · rw [he, Function.update_self] at hx
      cases hx
    · rwa [Function.update_of_ne he] at hx

/-- `close_fd` leaves the waiting handlers and agents alone, and uses no record. -/
theorem closeFd_frame (s : State) (fd : Nat) :
    (closeFd s fd).connecting = s.connecting ∧ (closeFd s fd).starting = s.starting ∧
    (closeFd s fd).created = s.created ∧ (closeFd s fd).kind = s.kind ∧ (closeFd s fd).now = s.now ∧
    (closeFd s fd).threshold = s.threshold ∧ ∀ x, ((closeFd s fd).record x).tick = (s.record x).tick := by
  unfold Gateway.closeFd
  cases s.connection fd with
  | none => simp
  | some c =>
    obtain ⟨-, h1, h2, h3, h4, h5, h6⟩ := unforward_frame s c
    exact ⟨h1, h2, h3, h4, h5, h6, unforward_tick s c⟩

/-- `close_fd` makes no client unsettled. -/
theorem settled_closeFd {fd fd' : Nat} (hset : settled s fd') : settled (closeFd s fd) fd' := by
  obtain ⟨h1, h2, h3, -⟩ := closeFd_frame s fd
  intro x hx
  rw [h1, h2, h3]
  exact hset x (connection_closeFd hx)

/-- `close_fd` lets no client expire. -/
theorem expired_closeFd {fd fd' : Nat} (hexp : expired (closeFd s fd) fd') : expired s fd' := by
  obtain ⟨-, -, -, -, h1, h2, h3⟩ := closeFd_frame s fd
  unfold expired at hexp ⊢
  cases hx : (closeFd s fd).connection fd' with
  | none =>
    rw [hx] at hexp
    cases hexp
  | some x =>
    rw [connection_closeFd hx]
    simpa only [hx, h1, h2, h3] using hexp

/-- The connections that have expired are closed, one after the other. -/
theorem Inv.onTimercheckTimeout (fds : List Nat) (h : Inv s)
    (hset : s.kind = .tcpGateway → ∀ fd ∈ fds, expired s fd → settled s fd) : Inv (onTimercheckTimeout s fds) := by
  induction fds generalizing s with
  | nil => exact h
  | cons fd fds ih =>
    unfold Gateway.onTimercheckTimeout
    cases hk : s.kind with
    | wsGateway => exact h
    | tcpGateway =>
      have hset := hset hk
      dsimp only
      split
      · rename_i hexp
        have hfd : settled (closeclient s fd) fd := hset fd List.mem_cons_self hexp
        refine ih ((h.setOpened _).closeFd hfd) fun _ fd' hfd' hexp' => settled_closeFd ?_
        exact hset fd' (List.mem_cons_of_mem _ hfd') (@expired_closeFd (closeclient s fd) fd fd' hexp')
      · exact ih h fun _ fd' hfd' => hset fd' (List.mem_cons_of_mem _ hfd')

theorem Inv.accept (h : Inv s) (fd : Nat) : Inv (accept s fd) := by
  unfold Gateway.accept
  split
  · exact h.unforward _
  · exact h

/-- A message is passed on, or its connection is closed. -/
theorem Inv.message (h : Inv s) {fd sz : Nat} (hset : dropsMessage s fd sz → settled s fd) : Inv (message s fd sz) := by
  unfold Gateway.message
  split
  · rename_i hd
    exact h.closeFd (hset hd)
  · split
    · exact h.setTick _ _
    · exact h

theorem Inv.kickAll (h : Inv s) (fds : List Nat) : Inv (kickAll s fds) := by
  unfold Gateway.kickAll
  induction fds generalizing s with
  | nil => exact h
  | cons fd fds ih => exact ih (h.setOpened _)

/-- A new record, which nothing holds yet. -/
theorem Inv.connect (h : Inv s) {fd : Nat} (hfd : s.connection fd = none) : Inv (connect s fd) := by
  have hold : ∀ c, c < s.nextRecord → Function.update s.record s.nextRecord ⟨fd, none, s.now⟩ c = s.record c :=
    fun c hc => Function.update_of_ne (Nat.ne_of_lt hc) _ _
  have hconn : ∀ fd' c, s.connection fd' = some c → Function.update s.connection fd (some s.nextRecord) fd' = some c := by
    intro fd' c hc
    have hne : fd' ≠ fd := by
      rintro rfl
      rw [hfd] at hc
      cases hc
    rwa [Function.update_of_ne hne]
  have hlt : ∀ fd' c, s.connection fd' = some c → c < s.nextRecord := fun fd' c hc => (h.record fd' c hc).1
  constructor <;> dsimp only [Gateway.connect]
  · intro fd' c hc
    by_cases he : fd' = fd
    · rw [he, Function.update_self, Option.some.injEq] at hc
      subst hc
      rw [Function.update_self]
      exact ⟨Nat.lt_succ_self _, he.symm⟩
    · rw [Function.update_of_ne he] at hc
      rw [hold c (hlt fd' c hc)]
      exact ⟨Nat.lt_succ_of_lt (hlt fd' c hc), (h.record fd' c hc).2⟩
  · intro c hc
    rcases List.mem_cons.1 hc with rfl | hc
    · simp only [Function.update_self]
    · have hw := h.waits c hc
      rw [hold c (hlt _ c hw)]
      exact hconn _ c hw
  · exact List.nodup_cons.2 ⟨fun hm => absurd (hlt _ _ (h.waits _ hm)) (Nat.lt_irrefl _), h.nodup⟩
  · intro agent c hc
    obtain ⟨h1, h2⟩ := h.created agent c hc
    refine ⟨Nat.lt_succ_of_lt h1, ?_⟩
    rw [List.mem_cons, not_or]
    exact ⟨Nat.ne_of_lt h1, h2⟩
  · exact h.single
  · intro agent c hf
    obtain ⟨h1, h2⟩ := h.forwarding agent c hf
    rw [hold c (hlt _ c h2)]
    exact ⟨h1, hconn _ c h2⟩
  · intro agent c ha
    by_cases hc : c = s.nextRecord
    · rw [hc, Function.update_self] at ha
      cases ha
    · rw [Function.update_of_ne hc] at ha
      exact h.agent agent c ha
  · intro agent fd' hs
    obtain ⟨c, hc, hcr, hn⟩ := h.starting agent fd' hs
    refine ⟨c, hconn fd' c hc, hcr, ?_⟩
    rwa [hold c (hlt fd' c hc)]
  · exact h.known
  · intro agent c hf
    rw [hold c (hlt _ c (h.forwarding agent c hf).2)]
    exact h.named agent c hf

/-- What a map with one new entry gives is the entry or was there. -/
theorem update_some_cases {f : Nat → Option Nat} {a b c x : Nat} (h : Function.update f a (some c) b = some x) :
    (b = a ∧ x = c) ∨ (b ≠ a ∧ f b = some x) := by
  by_cases hb : b = a
  · rw [hb, Function.update_self, Option.some.injEq] at h
    exact Or.inl ⟨hb, h.symm⟩
  · rw [Function.update_of_ne hb] at h
    exact Or.inr ⟨hb, h⟩

/-- The handler that waited goes on with a new agent. -/
theorem Inv.connected (h : Inv s) {c agent : Nat} (hc : c ∈ s.connecting) (ha : s.created agent = none) :
    Inv (connected s c agent) := by
  have hnew : ∀ x, s.forwarding agent ≠ some x := by
    intro x hf
    have := (h.forwarding agent x hf).1
    rw [ha] at this
    cases this
  have hnone : ∀ b, s.created b ≠ some c := fun b hb => (h.created b c hb).2 hc
  have hunnamed : ∀ b, (s.record c).agent ≠ some b := fun b hb => hnone b (h.forwarding b c (h.agent b c hb)).1
  constructor <;> dsimp only [Gateway.connected]
  · exact h.record
  · exact fun x hx => h.waits x (List.mem_of_mem_erase hx)
  · exact h.nodup.erase c
  · intro b x hb
    rcases update_some_cases hb with ⟨-, rfl⟩ | ⟨-, hb⟩
    · exact ⟨(h.record _ x (h.waits x hc)).1, h.nodup.not_mem_erase⟩
    · exact ⟨(h.created b x hb).1, fun hm => (h.created b x hb).2 (List.mem_of_mem_erase hm)⟩
  · intro b b' x hb hb'
    rcases update_some_cases hb with ⟨rfl, rfl⟩ | ⟨-, hold⟩ <;> rcases update_some_cases hb' with ⟨rfl, hx⟩ | ⟨-, hold'⟩
    · rfl
    · exact absurd hold' (hnone b')
    · exact absurd (hx ▸ hold) (hnone b)
    · exact h.single b b' x hold hold'
  · intro b x hb
    by_cases hba : b = agent
    · rw [hba, Function.update_self, Option.some.injEq] at hb
      rw [hba, Function.update_self, ← hb]
      exact ⟨rfl, h.waits c hc⟩
    · rw [Function.update_of_ne hba] at hb ⊢
      exact h.forwarding b x hb
  · intro b x hb
    have hfb := h.agent b x hb
    have hba : b ≠ agent := fun he => hnew x (he ▸ hfb)
    rwa [Function.update_of_ne hba]
  · intro b fd hb
    by_cases hba : b = agent
    · rw [hba, Function.update_self, Option.some.injEq] at hb
      rw [hba, Function.update_self, ← hb]
      exact ⟨c, h.waits c hc, rfl, Option.eq_none_iff_forall_ne_some.2 hunnamed⟩
    · rw [Function.update_of_ne hba] at hb ⊢
      exact h.starting b fd hb
  · intro b x hb
    rcases update_some_cases hb with ⟨rfl, rfl⟩ | ⟨hba, hb⟩
    · exact Or.inl (Function.update_self ..)
    · rw [Function.update_of_ne hba]
      exact h.known b x hb
  · intro b x hb
    by_cases hba : b = agent
    · rw [hba, Function.update_self, Option.some.injEq] at hb
      rw [hba, Function.update_self, hb]
      exact Or.inr rfl
    · rw [Function.update_of_ne hba] at hb ⊢
      exact h.named b x hb

/-- A handler whose `newservice` has failed. -/
theorem Inv.connectFailed (h : Inv s) (c : Nat) : Inv { s with connecting := s.connecting.erase c } where
  record := h.record
  waits x hx := h.waits x (List.mem_of_mem_erase hx)
  nodup := h.nodup.erase c
  created agent x hx := ⟨(h.created agent x hx).1, fun hm => (h.created agent x hx).2 (List.mem_of_mem_erase hm)⟩
  single := h.single
  forwarding := h.forwarding
  agent := h.agent
  starting := h.starting
  known := h.known
  named := h.named

/-- The agent that was started for the client calls `forward`, and the record names it. -/
theorem Inv.forward (h : Inv s) {agent fd : Nat} (hs : s.starting agent = some fd) :
    Inv (forward { s with starting := Function.update s.starting agent none } agent fd) := by
  obtain ⟨c, hc, hcr, hn⟩ := h.starting agent fd hs
  have hfd := (h.record fd c hc).2
  have hun : Gateway.unforward { s with starting := Function.update s.starting agent none } c =
      { s with starting := Function.update s.starting agent none } := by
    unfold Gateway.unforward
    simp only [hn]
  unfold Gateway.forward
  simp only [hc, hun]
  constructor <;> simp only [update_record_fd]
  · exact h.record
  · exact h.waits
  · exact h.nodup
  · exact h.created
  · exact h.single
  · intro b x hb
    rcases update_some_cases hb with ⟨rfl, rfl⟩ | ⟨-, hb⟩
    · exact ⟨hcr, hfd ▸ hc⟩
    · exact h.forwarding b x hb
  · intro b x hb
    by_cases hxc : x = c
    · rw [hxc, Function.update_self, Option.some.injEq] at hb
      rw [← hb, Function.update_self, hxc]
    · rw [Function.update_of_ne hxc] at hb
      have hfb := h.agent b x hb
      have hba : b ≠ agent := by
        rintro rfl
        exact hxc (Option.some.inj ((h.forwarding b x hfb).1.symm.trans hcr))
      rwa [Function.update_of_ne hba]
  · intro b fd' hb
    by_cases hba : b = agent
    · rw [hba, Function.update_self] at hb
      cases hb
    · rw [Function.update_of_ne hba] at hb
      obtain ⟨x, hx, hcx, hnx⟩ := h.starting b fd' hb
      have hxc : x ≠ c := by
        rintro rfl
        exact hba (h.single b agent x hcx hcr)
      exact ⟨x, hx, hcx, by rwa [Function.update_of_ne hxc]⟩
  · intro b x hb
    by_cases hba : b = agent
    · rw [hba, Function.update_self]
      exact Or.inl (by rw [← hcr, ← hb, hba])
    · rw [Function.update_of_ne hba]
      exact h.known b x hb
  · intro b x hb
    rcases update_some_cases hb with ⟨rfl, rfl⟩ | ⟨hba, hold⟩
    · rw [Function.update_self]
      exact Or.inl rfl
    · have hxc : x ≠ c := by
        rintro rfl
        exact hba (h.single b agent x (h.forwarding b x hold).1 hcr)
      rw [Function.update_of_ne hxc, Function.update_of_ne hba]
      exact h.named b x hold

/-- One label keeps the invariant, under the condition. -/
theorem Inv.step (h : Inv s) (l : Label) (hc : closesSettled s l) (hs : step s l = some s') : Inv s' := by
  cases l with
  | connect fd =>
    simp only [Gateway.step, Option.ite_none_right_eq_some, Option.some.injEq] at hs
    obtain ⟨⟨hfd, -⟩, rfl⟩ := hs
    exact h.connect hfd
  | connected c agent =>
    simp only [Gateway.step, Option.ite_none_right_eq_some, Option.some.injEq] at hs
    obtain ⟨⟨hmem, hnew⟩, rfl⟩ := hs
    exact h.connected hmem hnew
  | connectFailed c => cases hs; exact h.connectFailed c
  | forward source =>
    simp only [Gateway.step, Option.map_eq_some_iff] at hs
    obtain ⟨fd, hst, rfl⟩ := hs
    exact h.forward hst
  | accept fd => cases hs; exact h.accept fd
  | message fd sz =>
    simp only [Gateway.step, Option.ite_none_right_eq_some, Option.some.injEq] at hs
    obtain ⟨-, rfl⟩ := hs
    exact h.message hc
  | kick fd => cases hs; exact h.setOpened _
  | kickAll fds => cases hs; exact h.kickAll fds
  | disconnect fd => cases hs; exact (h.closeFd hc).setOpened _
  | error fd => cases hs; exact (h.closeFd hc).setOpened _
  | timeout fds => cases hs; exact h.onTimercheckTimeout fds hc
  | tick n => cases hs; exact h.setNow _

/-- Every run of a gateway in which each client whose record is taken away is settled: the entries of `_forwarding` are
one-to-one and for records that are in `_connection`, and the agent of a record that is gone was sent `exit`. -/
theorem served_of_closesSettled (kind : Kind) (threshold : Nat) (labels : List Label) (t : State)
    (hsafe : Steps.Meets step closesSettled (.init kind threshold) labels)
    (hrun : Steps.exec step (.init kind threshold) labels = some t) : Served t :=
  (Steps.exec_invariant (I := Inv) (fun _ l _ h hc hs => h.step l hc hs) labels _ t (inv_init kind threshold)
    hsafe hrun).served

/-- A client that sends a message and goes, after its agent has called. -/
theorem served_of_closesSettled_message :
    ∃ t, Steps.exec step (.init .tcpGateway 100)
      [.connect 5, .connected 0 9, .forward 9, .message 5 10, .disconnect 5] = some t ∧
      Served t := by
  refine ⟨_, rfl,
    served_of_closesSettled .tcpGateway 100 [.connect 5, .connected 0 9, .forward 9, .message 5 10, .disconnect 5]
    _ ?_ rfl⟩
  refine ⟨trivial, fun _ h => ?_⟩
  cases h
  refine ⟨trivial, fun _ h => ?_⟩
  cases h
  refine ⟨trivial, fun _ h => ?_⟩
  cases h
  refine ⟨fun hdrops => absurd hdrops (by decide), fun _ h => ?_⟩
  cases h
  refine ⟨fun c hc => ?_, fun _ _ => trivial⟩
  cases hc
  refine ⟨by decide, fun agent hagent hstarting => ?_⟩
  have hnine : agent = 9 := by
    by_contra hne
    simp [message, dropsMessage, Gateway.forward, Gateway.connected, Gateway.connect, Gateway.unforward, State.init,
      hne] at hagent
  subst hnine
  cases hstarting

/-- All clients are kicked, and one of them goes while its handler waits for `newservice`: its agent is never told. -/
theorem agent_of_gone_client :
    ¬∀ (kind : Kind) (threshold : Nat) (labels : List Label) (t : State),
      Steps.exec step (.init kind threshold) labels = some t → t.connecting = [] → Served t := by
  intro h
  have hserved := h .tcpGateway 100 [.connect 5, .kickAll [5], .disconnect 5, .connected 0 9, .forward 9] _ rfl rfl
  have htold := hserved.told 9 0 rfl (by decide)
  exact absurd htold (by decide)

end SasyServer.Gateway
