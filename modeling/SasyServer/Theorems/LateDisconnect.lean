import SasyServer.Lemmas.SessionAgents
import SasyServer.Lemmas.UserAgents

/-!
# Theorem: a disconnect only concerns the agent of the record, as long as a user's logins come one after the other

A disconnect event has the user and the connection, and both managers look only at the user. So an event of an old connection
logs out the connection that has replaced it, unless the old one has finished with the user before: the condition
`loginAlone` of each manager.
-/

namespace SasyServer

namespace Session

variable {account : Nat → Nat}

/-- A disconnect event that is handled changes a record only if the record's agent is the connection of the event. -/
def Honours (s : Served) : ServedLabel → Prop
  | .disconnect k => ∀ u a, s.agents.events[k]? = some (u, a) → ∀ i,
      (onEventClientDisconnect s.manager u).getAttribute i ≠ s.manager.getAttribute i →
        ∃ x, s.manager.getAttribute i = some x ∧ x.agent = a
  | _ => True

/-- The event changes nothing in a record without an agent. -/
theorem disconnected_same {x : Sui} (ha : x.agent = 0) (hst : x.userStatus.onLoginServer = false) :
    { x with agent := 0, userStatus := disconnectedStatus x.userStatus } = x := by
  obtain ⟨userID, agent, userStatus, kindID, nodeID, serverID⟩ := x
  subst ha
  cases userStatus <;> first | rfl | cases hst

/-- What the handler of the event does to the records. -/
theorem getAttribute_disconnect {s : State} (h : WF account s) (u i : Nat) :
    (onEventClientDisconnect s u).getAttribute i = s.getAttribute i ∨
      ∃ x, s.getAttribute i = some x ∧ x.userID = u ∧ (onEventClientDisconnect s u).getAttribute i =
        some { x with agent := 0, userStatus := disconnectedStatus x.userStatus } := by
  unfold onEventClientDisconnect
  cases hu : s.userID u with
  | none => exact Or.inl rfl
  | some j =>
    dsimp only
    cases hr : (s.items j).sui with
    | none => exact Or.inl rfl
    | some r =>
      dsimp only
      have ha := acts_setAttribute h hr
        (f := fun a => { a with agent := 0, userStatus := disconnectedStatus (s.sui r).userStatus }) rfl
      have hstamp : ∀ k, (if disconnectedStatus (s.sui r).userStatus = .usNull then
          (s.setAttribute r fun a => { a with agent := 0, userStatus := disconnectedStatus (s.sui r).userStatus }).setItem j
            fun it => { it with suiActiveTS := some s.now }
          else s.setAttribute r
            fun a => { a with agent := 0, userStatus := disconnectedStatus (s.sui r).userStatus }).getAttribute k =
          (s.setAttribute r
            fun a => { a with agent := 0, userStatus := disconnectedStatus (s.sui r).userStatus }).getAttribute k := by
        intro k
        split
        · have hts :=
            acts_setItem ha.wf j (f := fun it => { it with suiActiveTS := some s.now })
              (fun _ => rfl) (fun _ => rfl) fun _ => rfl
          by_cases hk : k = j
          · subst hk
            exact hts.self
          · exact hts.other k hk
        · rfl
      refine (Decidable.em (i = j)).symm.imp (fun hi => (hstamp i).trans (ha.other i hi)) ?_
      rintro rfl
      exact ⟨s.sui r, getAttribute_eq hr, userID_of_index h hu hr, (hstamp i).trans ha.self⟩

/-- The invariant is enough for an event. -/
theorem AgentInv.honours {s : Served} (h : AgentInv account s) (l : ServedLabel) : Honours s l := by
  cases l with
  | disconnect k =>
    intro u a hev i hne
    have hmem : (u, a) ∈ s.agents.speakers := List.mem_append_right _ (List.mem_of_getElem? hev)
    obtain ⟨x, hx, hxu, hy⟩ := (getAttribute_disconnect h.wf u i).resolve_left hne
    refine ⟨x, hx, (h.speaks _ hmem i x hx hxu).resolve_right ?_⟩
    intro ha
    rw [hy, hx, disconnected_same ha (h.off i x hx ha)] at hne
    exact hne rfl
  | _ => trivial

end Session

namespace UserManager

/-- A disconnect event that is handled, or whose handler goes on after `standUp`, finds no record of the user, or one whose
agent is the connection of the event. -/
def Honours (s : Served) : ServedLabel → Prop
  | .disconnect k _ => ∀ u a, s.agents.events[k]? = some (u, a) → ∀ x, s.manager.attr u = some x → x.agent = a
  | .manager (.resume k _ _) => ∀ u a, s.manager.suspended[k]? = some (.disconnect u) → s.locals[k]? = some (.disconnect a) →
      ∀ x, s.manager.attr u = some x → x.agent = a
  | _ => True

theorem AgentInv.honours {s : Served} (h : AgentInv s) (l : ServedLabel) : Honours s l := by
  cases l with
  | disconnect k tableFound =>
    intro u a hev
    exact h.speaks (u, a) (List.mem_append_left _ (List.mem_append_right _ (List.mem_of_getElem? hev)))
  | manager l =>
    cases l with
    | resume k ok tableFound =>
      intro u a hu ha
      have hz : (s.manager.suspended.zip s.locals)[k]? = some (.disconnect u, .disconnect a) :=
        List.getElem?_zip_eq_some.2 ⟨hu, ha⟩
      exact h.speaks (u, a) (List.mem_append_right _ (List.mem_filterMap.2 ⟨_, List.mem_of_getElem? hz, rfl⟩))
    | _ => trivial
  | _ => trivial

end UserManager

namespace TcpConnection

/-- Every run of the login server, and every run of a game server, whose labels meet the condition when they are taken: each
disconnect event that is handled concerns a record only if the record's agent is the connection of the event. -/
theorem disconnects_own_agent_of_loginAlone (account : Nat → Nat) (cfg : UserManager.ServerConfig)
    (login : List Session.ServedLabel) (game : List UserManager.ServedLabel) :
    (Steps.Meets (Session.servedStep account) (fun s l => Session.loginAlone account s l) .init login →
      Steps.Meets (Session.servedStep account) Session.Honours .init login) ∧
    (Steps.Meets (UserManager.servedStep cfg) (fun s l => UserManager.loginAlone s l) .init game →
      Steps.Meets (UserManager.servedStep cfg) UserManager.Honours .init game) := by
  constructor
  · intro hsafe
    exact hsafe.of_invariant (fun _ _ _ h hc hs => Session.AgentInv.step h hc hs) (fun _ l h _ => h.honours l)
      Session.agentInv_init
  · intro hsafe
    exact hsafe.of_invariant (fun _ _ _ h hc hs => UserManager.AgentInv.step h hc hs) (fun _ l h _ => h.honours l)
      UserManager.agentInv_init

/-- A user whose old connection is kicked before its client closes it, and one whose old connection is closed, with its event
handled, before the user comes back. -/
theorem disconnects_own_agent_of_loginAlone_two_logins :
    Steps.Meets (Session.servedStep id) Session.Honours .init
      [.manager (.registerSession "a" 1), .manager (.registerUser 1 7),
      .agents (.deliver 0), .manager (.switchUserItem 1 8), .agents (.deliver 0), .manager (.resume 0 []), .loaded 0,
      .agents (.deliver 0), .agents (.deliver 0), .agents (.close 8), .disconnect 0] ∧
    Steps.Meets (UserManager.servedStep ⟨1, 9⟩) UserManager.Honours .init
      [.manager (.insertUserItem ⟨1, UserManager.invalidTable, UserManager.invalidChair, .usFree, 7, 1, 6, false, 0⟩ 0),
        .manager (.resume 0 true true), .inserted 0, .agents (.deliver 0), .agents (.close 7), .disconnect 0 true,
        .manager (.resume 0 true true), .manager (.resume 0 true true),
        .manager (.insertUserItem ⟨1, UserManager.invalidTable, UserManager.invalidChair, .usFree, 8, 1, 6, false, 0⟩ 0)] :=
  have h := disconnects_own_agent_of_loginAlone id ⟨1, 9⟩ [.manager (.registerSession "a" 1), .manager (.registerUser 1 7),
      .agents (.deliver 0), .manager (.switchUserItem 1 8), .agents (.deliver 0), .manager (.resume 0 []), .loaded 0,
      .agents (.deliver 0), .agents (.deliver 0), .agents (.close 8), .disconnect 0]
    [.manager (.insertUserItem ⟨1, UserManager.invalidTable, UserManager.invalidChair, .usFree, 7, 1, 6, false, 0⟩ 0),
      .manager (.resume 0 true true), .inserted 0, .agents (.deliver 0), .agents (.close 7), .disconnect 0 true,
      .manager (.resume 0 true true), .manager (.resume 0 true true),
      .manager (.insertUserItem ⟨1, UserManager.invalidTable, UserManager.invalidChair, .usFree, 8, 1, 6, false, 0⟩ 0)]
  ⟨h.1 (by decide +kernel), h.2 (by decide +kernel)⟩

/-- The client closes the connection 7 and comes back on 8. On either server the new login is handled before the event of 7,
which then takes the agent 8 from the user's record, or the user out of `_userItemHash`. -/
theorem replaced_by_late_disconnect :
    (¬∀ (account : Nat → Nat) (labels : List Session.ServedLabel),
      Steps.Meets (Session.servedStep account) Session.Honours .init labels) ∧
    ¬∀ (cfg : UserManager.ServerConfig) (labels : List UserManager.ServedLabel),
      Steps.Meets (UserManager.servedStep cfg) UserManager.Honours .init labels := by
  constructor
  · intro hall
    have h := (hall id
      ([.manager (.registerSession "a" 1), .manager (.registerUser 1 7), .agents (.deliver 0), .agents (.close 7),
      .manager (.switchUserItem 1 8), .agents (.deliver 0), .manager (.resume 0 [])] ++
        [Session.ServedLabel.disconnect 0])).drop rfl
    obtain ⟨x, hx, ha⟩ := h.1 1 7 rfl 0 (by decide)
    cases hx
    exact absurd ha (by decide)
  · intro hall
    have h := (hall ⟨1, 9⟩
      ([.manager (.insertUserItem ⟨1, UserManager.invalidTable, UserManager.invalidChair, .usFree, 7, 1, 6, false, 0⟩ 0),
        .manager (.resume 0 true true), .inserted 0, .agents (.deliver 0), .agents (.close 7),
          .manager (.switchUserItem 1 8 6),
        .agents (.deliver 0), .manager (.resume 0 true true)] ++ [UserManager.ServedLabel.disconnect 0 true])).drop rfl
    have ha := h.1 1 7 rfl _ rfl
    exact absurd ha (by decide)

end TcpConnection

end SasyServer
