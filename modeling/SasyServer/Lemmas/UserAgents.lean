import SasyServer.Lemmas.UserEdits
import SasyServer.UserManager.Connections

/-!
# The agents of the records of the user manager

A record gets another agent when a label writes one into it (`writes`), and the record of a user also
when it is made (`inserts`).
-/

namespace SasyServer.UserManager

open TcpConnection (Agents)

/-- The record whose agent a label writes, and the agent: `cmd_switchUserItem` writes the new one, `US_OFFLINE` none. -/
def writes (s : State) (l : Label) : Option (Nat × Nat) :=
  (switched s l).or
    (match l with
      | .setUserStatus userID .usOffline _ _ =>
        ((s.userItem userID).filter fun i => (s.items i).any Sui.isAndroid).map fun i => (i, 0)
      | .resume k _ _ =>
        s.suspended[k]?.bind fun
          | .offline _ i _ _ => some (i, 0)
          | _ => none
      | _ => none)

/-- The user for whom a label makes a record, and the agent. -/
def inserts (s : State) : Label → Option (Nat × Nat)
  | .insertUserItem userInfo _ => if s.userItem userInfo.userID = none then some (userInfo.userID, userInfo.agent) else none
  | _ => none

/-- The record of a user after the handlers is the one before with the same agent, or with one that `W` allows,
or a new one of the user. -/
def Follows (W : Nat → Nat → Prop) (s s' : State) : Prop :=
  ∀ u y, s'.attr u = some y →
    (∃ x, s.attr u = some x ∧ y.userID = x.userID ∧ (y.agent = x.agent ∨ W u y.agent)) ∨ y.userID = u ∧ W u y.agent

section Follows

variable {W : Nat → Nat → Prop} {T : Thread → Prop} {s s' s'' : State}

/-- Two handlers, one after the other. -/
theorem Follows.trans (h : Follows W s s') (h' : Follows W s' s'') : Follows W s s'' := by
  intro u z hz
  rcases h' u z hz with ⟨y, hy, hzu, hza⟩ | hnew
  · rcases h u y hy with ⟨x, hx, hyu, hya⟩ | ⟨hyu, hw⟩
    · refine Or.inl ⟨x, hx, hzu.trans hyu, ?_⟩
      rcases hza with hza | hw
      · rw [hza]
        exact hya
      · exact Or.inr hw
    · refine Or.inr ⟨hzu.trans hyu, ?_⟩
      rcases hza with hza | hw'
      · rw [hza]
        exact hw
      · exact hw'
  · exact Or.inr hnew

/-- Where no record changes. -/
theorem Follows.same (h : ∀ u, s'.attr u = s.attr u) : Follows W s s' :=
  fun u y hy => Or.inl ⟨y, by rw [← h]; exact hy, rfl, Or.inl rfl⟩

theorem attr_eq_some {u : Nat} {x : Sui} : s.attr u = some x ↔ ∃ i, s.userItem u = some i ∧ s.items i = some x := by
  rw [State.attr, Option.bind_eq_some_iff]

/-- A record is written: its users have its agent. -/
theorem follows_setItem {i : Nat} {x y : Sui} (hx : s.items i = some x) (huser : y.userID = x.userID)
    (hw : y.agent = x.agent ∨ ∀ u, s.userItem u = some i → W u y.agent) : Follows W s (s.setItem i (some y)) := by
  intro u z hz
  obtain ⟨j, hu, hj⟩ := attr_eq_some.1 hz
  by_cases hji : j = i
  · subst hji
    simp only [State.setItem, Function.update_self, Option.some.injEq] at hj
    subst hj
    exact Or.inl ⟨x, attr_eq_some.2 ⟨j, hu, hx⟩, huser, hw.imp_right fun h => h u hu⟩
  · simp only [State.setItem, Function.update_of_ne hji] at hj
    exact Or.inl ⟨z, attr_eq_some.2 ⟨j, hu, hj⟩, rfl, Or.inl rfl⟩

/-- A user leaves `_userItemHash`. -/
theorem follows_remove (u : Nat) : Follows W s { s with userItemHash := s.userItemHash.filter fun p => p.1 ≠ u } := by
  intro v y hy
  obtain ⟨i, hv, hi⟩ := attr_eq_some.1 hy
  have hne : v ≠ u := by
    rintro rfl
    have hp := mem_of_userItem hv
    simp at hp
  rw [userItem_filter hne] at hv
  exact Or.inl ⟨y, attr_eq_some.2 ⟨i, hv, hi⟩, rfl, Or.inl rfl⟩

theorem Edits.follows (h : Edits W T s s') : Follows W s s' := by
  induction h with
  | refl => exact .same fun _ => rfl
  | emit _ _ ih => exact ih.trans (.same fun _ => rfl)
  | suspend _ _ _ ih => exact ih.trans (.same fun _ => rfl)
  | setItem _ i y hx huser hw ih => exact ih.trans (follows_setItem hx huser hw)
  | remove _ u ih => exact ih.trans (follows_remove u)

/-- A record that is made for a user is no other user's. -/
theorem follows_insertNew (h : Records [] s) (userInfo : Sui) (kick : Option Nat) (hw : W userInfo.userID userInfo.agent) :
    Follows W s (insertNew s userInfo kick) := by
  obtain ⟨-, hfree, -⟩ := CItemBuffer.allocate_spec h.wf
  intro u y hy
  obtain ⟨i, hu, hi⟩ := attr_eq_some.1 hy
  simp only [insertNew, State.suspend, State.userItem, List.find?_append, Option.map_or] at hu
  rcases Option.or_eq_some_iff.1 hu with hu | ⟨-, hu⟩
  · have hi' : i ≠ s.buffer.allocate.1 := by
      rintro rfl
      exact hfree (h.inUse _ (mem_held_of_userItem hu)).1
    simp only [insertNew, State.suspend, Function.update_of_ne hi'] at hi
    exact Or.inl ⟨y, attr_eq_some.2 ⟨i, hu, hi⟩, rfl, Or.inl rfl⟩
  · simp only [List.find?_singleton, Option.map_eq_some_iff, Option.ite_none_right_eq_some, decide_eq_true_eq,
      Option.some.injEq] at hu
    obtain ⟨p, ⟨rfl, rfl⟩, rfl⟩ := hu
    simp only [insertNew, State.suspend, Function.update_self, Option.some.injEq] at hi
    subst hi
    exact Or.inr ⟨rfl, hw⟩

/-- A record goes back to the pool. -/
theorem follows_release (i : Nat) : Follows W s { s.setItem i none with buffer := s.buffer.release i } := by
  intro v y hy
  obtain ⟨j, hv, hj⟩ := attr_eq_some.1 hy
  have hji : j ≠ i := by
    rintro rfl
    simp [State.setItem] at hj
  simp only [State.setItem, Function.update_of_ne hji] at hj
  exact Or.inl ⟨y, attr_eq_some.2 ⟨j, hv, hj⟩, rfl, Or.inl rfl⟩

end Follows

/-! ## One label -/

/-- The agent that a label gives the record of a user. -/
def Given (s : State) (l : Label) (user agent : Nat) : Prop :=
  (∃ i, writes s l = some (i, agent) ∧ s.userItem user = some i) ∨ inserts s l = some (user, agent)

theorem given_switched {s : State} {l : Label} {i agent u : Nat} (h : switched s l = some (i, agent))
    (hu : s.userItem u = some i) :
    Given s l u agent := Or.inl ⟨i, by simp [writes, h], hu⟩

/-- What begins to wait in a label: the work on a disconnect only in the one that handles it, and for
the user of the record. -/
def Begins (s : State) (l : Label) (t : Thread) : Prop :=
  ∀ v, t = .disconnect v → ∃ u tableFound x, l = .clientDisconnect u tableFound ∧ s.attr u = some x ∧ x.userID = v

theorem begins_of_calm (s : State) (l : Label) {t : Thread} (ht : t.calm) : Begins s l t := by
  rintro v rfl
  exact ht.elim

/-- The state in which the handlers of a label go on: those that wait still do, but for the one that is resumed or ended. -/
def State.waked (s : State) (l : Label) : State := { s with suspended := leftover s.suspended l }

/-- A label edits the records, makes one, or releases one. -/
theorem step_cases {cfg : ServerConfig} {s s' : State} (l : Label) (hs : step cfg s l = some s') :
    Edits (Given s l) (Begins s l) (s.waked l) s' ∨
    (∃ userInfo kick, inserts s l = some (userInfo.userID, userInfo.agent) ∧ s' = insertNew (s.waked l) userInfo kick) ∨
    ∃ k ok tableFound u i, l = .resume k ok tableFound ∧ s.suspended[k]? = some (.release u i) ∧
      s' = { (s.waked l).setItem i none with buffer := s.buffer.release i } := by
  have hT : ∀ t : Thread, t.calm → Begins s l t := fun t => begins_of_calm s l
  cases l with
  | setUserStatus u st tb c =>
    cases hs
    left
    cases hr : setUserStatus s u st tb c with
    | none => exact .refl
    | some s' =>
      refine Edits.setUserStatus (s := s) .refl hT hr ?_
      rintro rfl i x hu hx hand v hv
      refine Or.inl ⟨i, ?_, hv⟩
      simp [writes, switched, hu, hx, hand]
  | insertUserItem userInfo least =>
    obtain rfl | ⟨hnew, kick, rfl⟩ := insertUserItem_new hs
    · exact Or.inl .refl
    · exact Or.inr (Or.inl ⟨userInfo, kick, by simp [inserts, hnew], rfl⟩)
  | switchUserItem u agent deskCount =>
    cases hs
    refine Or.inl (Edits.switchUserItem (s := s) .refl hT u agent deskCount ?_)
    intro i x hu hx ha hst v hv
    exact given_switched (by simp [switched, hu, hx, ha, hst]) hv
  | kickUser u tableFound => cases hs; exact Or.inl (Edits.kickUser (s := s) .refl hT u tableFound)
  | clientDisconnect u tableFound =>
    cases hs
    refine Or.inl (Edits.onEventClientDisconnect (s := s) .refl hT u tableFound ?_)
    rintro x hx v hv
    cases hv
    exact ⟨u, tableFound, x, rfl, hx, rfl⟩
  | resume k ok tableFound =>
    simp only [UserManager.step, Option.map_eq_some_iff] at hs
    obtain ⟨t, ht, rfl⟩ := hs
    have hrefl : Edits (Given s (.resume k ok tableFound)) (Begins s (.resume k ok tableFound))
      (s.waked (.resume k ok tableFound))
        { s with suspended := s.suspended.eraseIdx k } := .refl
    cases t with
    | offline u i tb c =>
      refine Or.inl (hrefl.setStatusAttribute u i (fun _ => rfl) fun _ => Or.inr ?_)
      intro v hv
      exact Or.inl ⟨i, by simp [writes, switched, ht], hv⟩
    | logout u i =>
      left
      simp only [UserManager.resumeThread]
      split
      · exact hrefl.suspend _ (hT _ trivial)
      · exact hrefl
    | release u i => exact Or.inr (Or.inr ⟨k, ok, tableFound, u, i, rfl, ht, rfl⟩)
    | kick u => exact Or.inl (hrefl.setUserNull hT u)
    | disconnect u => exact Or.inl (hrefl.setUserNull hT u)
    | insert u kick =>
      left
      simp only [UserManager.resumeThread, insertLoaded]
      split
      · exact hrefl
      · cases kick with
        | none => exact hrefl
        | some v => exact hrefl.kickUser hT v tableFound
    | switchUserItem u i st tb c agent deskCount =>
      refine Or.inl (hrefl.switchCleared hT u i st tb c agent deskCount ?_)
      intro hst hi v hv
      refine given_switched (i := i) ?_ hv
      have hst' : ¬(st = .usOffline ∧ s.userItem u ≠ none) := hst
      obtain ⟨x, hx⟩ := Option.ne_none_iff_exists'.1 hi
      have hx' : s.items i = some x := hx
      simp only [switched, ht, Option.bind_some, if_neg hst', hx', Option.map_some]
    | switchPlaying i agent deskCount =>
      refine Or.inl (hrefl.switchAttribute i agent deskCount ?_)
      intro hi v hv
      refine given_switched (i := i) ?_ hv
      obtain ⟨x, hx⟩ := Option.ne_none_iff_exists'.1 hi
      have hx' : s.items i = some x := hx
      simp only [switched, ht, Option.bind_some, hx', Option.map_some]
  | abort k =>
    simp only [UserManager.step, Option.map_eq_some_iff] at hs
    obtain ⟨t, -, rfl⟩ := hs
    exact Or.inl .refl

theorem follows_step {cfg : ServerConfig} {s s' : State} (h : Records [] s) (l : Label) (hs : step cfg s l = some s') :
    Follows (Given s l) s s' := by
  have hwake : Follows (Given s l) s (s.waked l) := .same fun _ => rfl
  obtain he | ⟨userInfo, kick, hi, rfl⟩ | ⟨k, ok, tableFound, u, i, -, -, rfl⟩ := step_cases l hs
  · exact hwake.trans he.follows
  · exact follows_insertNew h userInfo kick (Or.inr hi)
  · exact hwake.trans (follows_release i)

theorem suspended_step {cfg : ServerConfig} {s s' : State} (l : Label) (hs : step cfg s l = some s') :
    ∃ ts, s'.suspended = leftover s.suspended l ++ ts ∧ ∀ t ∈ ts, Begins s l t := by
  obtain he | ⟨userInfo, kick, -, rfl⟩ | ⟨k, ok, tableFound, u, i, -, -, rfl⟩ := step_cases l hs
  · exact he.suspended
  · exact ⟨[.insert userInfo.userID kick], rfl, fun t ht => List.mem_singleton.1 ht ▸ begins_of_calm s l trivial⟩
  · exact ⟨[], by simp [State.waked, State.setItem], by simp⟩

/-! ## Who speaks for a user -/

/-- The disconnect event a handler works off, when it waits for `standUp`. -/
def leaver : Thread × Local → Option (Nat × Nat)
  | (.disconnect userID, .disconnect agent) => some (userID, agent)
  | _ => none

theorem leaver_eq_some {t : Thread × Local} {u a : Nat} : leaver t = some (u, a) ↔ t = (.disconnect u, .disconnect a) := by
  unfold leaver
  split
  · simp
  · rename_i hne
    refine ⟨fun h => ?_, fun h => (hne u a h).elim⟩
    cases h

/-- The disconnect events that are being worked off. -/
def leavers (s : Served) : List (Nat × Nat) := (s.manager.suspended.zip s.locals).filterMap leaver

/-- Who speaks for whom: the connections, and the events that are being handled. -/
def Served.speakers (s : Served) : List (Nat × Nat) := s.agents.speakers ++ leavers s

/-- The condition on a label in the state in which it is taken: an agent is written into a record, or a record with an
agent is made for a user, only when no other connection speaks for the user; and a cache is set only where the record of
the user has this agent. -/
def loginAlone (s : Served) : ServedLabel → Bool
  | .manager l =>
    ((writes s.manager l).all fun p => s.speakers.all fun q => s.manager.userItem q.1 ≠ some p.1 ∨ q.2 = p.2) &&
      (inserts s.manager l).all fun p => s.speakers.all fun q => q.1 ≠ p.1 ∨ q.2 = p.2
  | .agents (.deliver k) =>
    s.agents.mail[k]?.all fun
      | .setCache c => (s.manager.attr c.userID).all fun x => x.agent = c.agent
      | _ => true
  | _ => true

/-- The record of a user for whom a connection speaks has this connection as its agent. -/
structure AgentInv (s : Served) : Prop where
  records : Records [] s.manager
  aligned : s.manager.suspended.length = s.locals.length
  own : ∀ u x, s.manager.attr u = some x → x.userID = u
  speaks : ∀ p ∈ s.speakers, ∀ x, s.manager.attr p.1 = some x → x.agent = p.2

theorem agentInv_init : AgentInv Served.init :=
  ⟨records_init, rfl, by simp [Served.init, State.init, State.attr, State.userItem],
    by simp [Served.init, Served.speakers, leavers, State.init, Agents.init, Agents.speakers]⟩

theorem leftover_sublist {α : Type} (ts : List α) (l : Label) : (leftover ts l).Sublist ts := by
  cases l with
  | resume k _ _ => exact List.eraseIdx_sublist ..
  | abort k => exact List.eraseIdx_sublist ..
  | _ => exact List.Sublist.refl _

theorem leftover_zip {α β : Type} (ts : List α) (us : List β) (l : Label) :
    (leftover ts l).zip (leftover us l) = leftover (ts.zip us) l := by
  cases l with
  | resume k _ _ => exact Waiting.zip_eraseIdx ts us k
  | abort k => exact Waiting.zip_eraseIdx ts us k
  | _ => rfl

theorem length_leftover {α β : Type} {ts : List α} {us : List β} (h : ts.length = us.length) (l : Label) :
    (leftover ts l).length = (leftover us l).length := by
  cases l with
  | resume k _ _ => simp only [leftover, List.length_eraseIdx, h]
  | abort k => simp only [leftover, List.length_eraseIdx, h]
  | _ => exact h

section Run

variable {cfg : ServerConfig} {s s' : Served}

/-- After a handler, those that waited still wait side by side with what they keep, and so do those that begin to wait; an
event begins to be waited for only when it is handled. -/
theorem leavers_serve (h : AgentInv s) {l : Label} {event : Option Nat} (hs : s.serve cfg l event = some s') :
    s'.manager.suspended.length = s'.locals.length ∧ ∀ p ∈ leavers s', p ∈ leavers s ∨
      ∃ tableFound, l = .clientDisconnect p.1 tableFound ∧ event = some p.2 := by
  simp only [Served.serve, Option.map_eq_some_iff] at hs
  obtain ⟨m, hm, rfl⟩ := hs
  obtain ⟨ts, hts, hd⟩ := suspended_step l hm
  have hlen := length_leftover h.aligned l
  have hdrop : m.suspended.drop (leftover s.locals l).length = ts := by rw [hts, ← hlen, List.drop_left]
  simp only [leavers, hdrop]
  rw [hts]
  refine ⟨by simp only [List.length_append, List.length_map, hlen], ?_⟩
  intro p hp
  rw [List.zip_append hlen, List.filterMap_append, List.mem_append] at hp
  rcases hp with hp | hp
  · rw [leftover_zip] at hp
    exact Or.inl (((leftover_sublist _ l).filterMap _).subset hp)
  · right
    obtain ⟨v, a⟩ := p
    obtain ⟨p, hp, hv⟩ := List.mem_filterMap.1 hp
    cases leaver_eq_some.1 hv
    have ht := (List.of_mem_zip hp).1
    obtain ⟨u, tableFound, x, rfl, hx, rfl⟩ := hd _ ht v rfl
    refine ⟨tableFound, ?_, ?_⟩
    · rw [h.own u x hx]
    · rw [← List.map_prod_left_eq_zip, List.mem_map] at hp
      obtain ⟨t, -, ht⟩ := hp
      obtain ⟨rfl, hlocal⟩ := Prod.mk.inj ht
      cases event with
      | none => cases hlocal
      | some a' =>
        cases hlocal
        rfl

/-- A handler of the manager, under the condition; an event is that of the agent of the record. -/
theorem AgentInv.serve (h : AgentInv s) {l : Label} {event : Option Nat}
    (hc : ∀ u agent, Given s.manager l u agent → ∀ q ∈ s.speakers, q.1 = u → q.2 = agent)
    (hevent : ∀ u tableFound a, l = .clientDisconnect u tableFound → event = some a → ∀ x,
    s.manager.attr u = some x → x.agent = a)
    (hs : s.serve cfg l event = some s') : AgentInv s' := by
  obtain ⟨haligned, hleavers⟩ := leavers_serve h hs
  simp only [Served.serve, Option.map_eq_some_iff] at hs
  obtain ⟨m, hm, rfl⟩ := hs
  have hfollows := follows_step h.records l hm
  refine ⟨h.records.step l hm, haligned, ?_, ?_⟩
  · intro u y hy
    rcases hfollows u y hy with ⟨x, hx, hu, -⟩ | ⟨hu, -⟩
    · rw [hu]
      exact h.own u x hx
    · exact hu
  · intro p hp y hy
    have hp : p ∈ s.speakers ∨ ∃ tableFound, l = .clientDisconnect p.1 tableFound ∧ event = some p.2 := by
      rcases List.mem_append.1 hp with hp | hp
      · exact Or.inl (List.mem_append_left _ hp)
      · exact (hleavers p hp).imp_left (List.mem_append_right _)
    rcases hp with hp | ⟨tableFound, rfl, he⟩
    · rcases hfollows p.1 y hy with ⟨x, hx, -, ha | hg⟩ | ⟨-, hg⟩
      · rw [ha]
        exact h.speaks p hp x hx
      · exact (hc _ _ hg p hp rfl).symm
      · exact (hc _ _ hg p hp rfl).symm
    · have hnot : ∀ u agent, ¬Given s.manager (.clientDisconnect p.1 tableFound) u agent := by
        simp [Given, writes, inserts, switched]
      rcases hfollows p.1 y hy with ⟨x, hx, -, ha | hg⟩ | ⟨-, hg⟩
      · rw [ha]
        exact hevent _ _ _ rfl he x hx
      · exact (hnot _ _ hg).elim
      · exact (hnot _ _ hg).elim

/-- A step of the connections, under the condition. -/
theorem AgentInv.agents (h : AgentInv s) (agents : Agents Thread)
    (hspeak : ∀ p ∈ agents.speakers, p ∈ s.agents.speakers ∨ ∀ x, s.manager.attr p.1 = some x → x.agent = p.2)
    (entering : List TcpConnection.Cache) : AgentInv ⟨s.manager, s.locals, agents, entering⟩ := by
  refine ⟨h.records, h.aligned, h.own, ?_⟩
  intro p hp
  rcases List.mem_append.1 hp with hp | hp
  · rcases hspeak p hp with hp | hp
    · exact h.speaks p (List.mem_append_left _ hp)
    · exact hp
  · exact h.speaks p (List.mem_append_right _ hp)

/-- A message to the manager is handled after the answer its handler has waited for, if it has, is
taken and `exit` is sent. -/
theorem servedStep_manager {l : Label} (h : servedStep cfg s (.manager l) = some s') :
    (∀ u tableFound, l ≠ .clientDisconnect u tableFound) ∧
    ∃ agents : Agents Thread, agents.speakers = s.agents.speakers ∧ agents.copies = s.agents.copies ∧
      Served.serve cfg { s with agents := agents } l none = some s' := by
  unfold servedStep at h
  split at h
  · cases h
  · rename_i l hne hl
    cases hl
    refine ⟨hne, ?_⟩
    split at h
    · exact ⟨s.agents, rfl, rfl, h⟩
    · rw [Option.bind_eq_some_iff] at h
      obtain ⟨p, -, h⟩ := h
      exact ⟨Agents.send { s.agents with answers := s.agents.answers.erase p } [.exit p.1], rfl,
        by simp [Agents.copies, Agents.send, Agents.cacheOf], h⟩
  all_goals
    rename_i hl
    cases hl

/-- One label keeps the invariant, under the condition. -/
theorem AgentInv.step (h : AgentInv s) {l : ServedLabel} (hc : loginAlone s l)
    (hs : servedStep cfg s l = some s') : AgentInv s' := by
  cases l with
  | manager l =>
    simp only [loginAlone, Bool.and_eq_true] at hc
    obtain ⟨hne, agents, hsp, -, hs⟩ := servedStep_manager hs
    refine (h.agents agents (fun p hp => Or.inl (hsp ▸ hp)) s.entering).serve ?_
      (fun u tableFound _ hl => (hne u tableFound hl).elim) hs
    intro u agent hg q hq hu
    have hq : q ∈ s.speakers := by
      rw [Served.speakers, ← hsp]
      exact hq
    rcases hg with ⟨i, hw, hi⟩ | hi
    · have hw : writes s.manager l = some (i, agent) := hw
      have := hc.1
      simp only [hw, Option.all_some, List.all_eq_true, decide_eq_true_eq] at this
      exact (this q hq).resolve_left (not_not_intro (hu ▸ hi))
    · have hi : inserts s.manager l = some (u, agent) := hi
      have := hc.2
      simp only [hi, Option.all_some, List.all_eq_true, decide_eq_true_eq] at this
      exact (this q hq).resolve_left (not_not_intro hu)
  | disconnect k tableFound =>
    simp only [servedStep, Option.bind_eq_some_iff] at hs
    obtain ⟨p, hp, hs⟩ := hs
    refine (h.agents { s.agents with events := s.agents.events.eraseIdx k } ?_ s.entering).serve
      (l := .clientDisconnect p.1 tableFound) ?_ ?_ hs
    · intro q hq
      refine Or.inl ?_
      simp only [Agents.speakers, List.mem_append] at hq ⊢
      exact hq.imp_right List.mem_of_mem_eraseIdx
    · intro u agent hg
      simp [Given, writes, inserts, switched] at hg
    · rintro - - - ⟨⟩ ⟨⟩
      exact h.speaks p (List.mem_append_left _ (List.mem_append_right _ (List.mem_of_getElem? hp)))
  | inserted k =>
    simp only [servedStep, Option.map_eq_some_iff] at hs
    obtain ⟨c, -, rfl⟩ := hs
    exact h.agents (s.agents.send _) (fun p hp => Or.inl hp) _
  | notInserted k =>
    simp only [servedStep, Option.map_eq_some_iff] at hs
    obtain ⟨c, -, rfl⟩ := hs
    exact h.agents s.agents (fun p hp => Or.inl hp) _
  | agents l =>
    simp only [servedStep, Option.map_eq_some_iff] at hs
    obtain ⟨agents, hstep, rfl⟩ := hs
    refine h.agents _ ?_ _
    intro p hp
    rcases Agents.speakers_step hstep hp with hp | ⟨k, c, rfl, hm, rfl⟩
    · exact Or.inl hp
    · right
      intro x hx
      simp only [loginAlone, hm, Option.all_some] at hc
      have hx : s.manager.attr c.userID = some x := hx
      simpa [hx] using hc

end Run

end SasyServer.UserManager
