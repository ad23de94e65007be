import SasyServer.Relay.GSProxy

/-!
# Theorem: the messages for a game server are handled in order, none twice

Whatever is lost, fails or starts again, a puller handles a part of what has been put into its buffer, in the order in which
it was put there. Every call is in one place, so a list of messages goes to one caller; and an answer to a call that its
puller has given up is of no effect.
-/

namespace SasyServer.Relay

variable {μ : Type*}

namespace State

/-- The messages in the answer to a call. -/
def answer (s : State μ) (call : Nat) : List μ := ((s.responses call).getD none).getD []

/-- The messages on the way to the puller of a server that it will handle: the list it goes through, and
the answer it waits for. -/
def underWay (s : State μ) (serverID : Nat) : List μ :=
  (s.puller serverID).list ++ (s.puller serverID).waiting.elim [] s.answer

/-- The messages in the buffer of a server. -/
def buffer (s : State μ) (serverID : Nat) : List μ := (s.serverResponseHash serverID).elim [] (·.msgBuffer)

/-- A call waits at the proxy for a server. -/
def Responser (s : State μ) (serverID call : Nat) : Prop :=
  ∃ item, s.serverResponseHash serverID = some item ∧ item.responser = some call

end State

open State

/-- The invariant: a call belongs to one server and is in one place; and what has been handled, what is under way and what is
in the buffer are a part of what has been put into the buffer. -/
structure Inv (s : State μ) : Prop where
  waiting : ∀ g c, (s.puller g).waiting = some c → c < s.nextCall ∧ s.owner c = g
  request : ∀ c g sign, s.requests c = some (g, sign) → c < s.nextCall ∧ s.owner c = g ∧ s.responses c = none ∧
    ¬s.Responser g c
  responser : ∀ g c, s.Responser g c → c < s.nextCall ∧ s.owner c = g ∧ s.responses c = none
  response : ∀ c, s.responses c ≠ none → c < s.nextCall
  length_le : ∀ g, (s.buffer g).length ≤ 100
  log : ∀ g, (s.handled g ++ s.underWay g ++ s.buffer g).Sublist (s.sent g)

/-- A call does not wait while there are messages. -/
def Tidy (s : State μ) : Prop := ∀ g c, s.Responser g c → s.buffer g = []

theorem inv_init : Inv (State.init : State μ) where
  waiting := by simp [State.init]
  request := by simp [State.init]
  responser := by simp [State.init, Responser]
  response := by simp [State.init]
  length_le := by simp [State.init, buffer]
  log := by simp [State.init, buffer, underWay]

section Operations

variable {s : State μ} {g : Nat} {item : ResponseItem μ}

/-- Whose call waits, after the entry of a server has been written. -/
theorem responser_setItem {g' c : Nat} {i : Option (ResponseItem μ)} :
    (s.setItem g i).Responser g' c ↔ if g' = g then ∃ item, i = some item ∧
      item.responser = some c else s.Responser g' c := by
  unfold Responser setItem
  by_cases h : g' = g
  · subst h
    simp
  · simp [h]

theorem buffer_setItem {g' : Nat} {i : Option (ResponseItem μ)} :
    (s.setItem g i).buffer g' = if g' = g then i.elim [] (·.msgBuffer) else s.buffer g' := by
  unfold buffer setItem
  by_cases h : g' = g
  · subst h
    simp
  · simp [h]

theorem responser_respond {g' c call : Nat} {r : Option (List μ)} : (s.respond call r).Responser g' c ↔ s.Responser g' c :=
  Iff.rfl

theorem buffer_respond {g' call : Nat} {r : Option (List μ)} : (s.respond call r).buffer g' = s.buffer g' := rfl

theorem responses_respond {c call : Nat} {r : Option (List μ)} :
    (s.respond call r).responses c = if c = call then some r else s.responses c :=
  Function.update_apply _ _ _ _

/-- What is under way changes for the puller that waits for the answer. -/
theorem underWay_respond {g' call : Nat} {r : Option (List μ)} (h : s.responses call = none) :
    (s.respond call r).underWay g' = s.underWay g' ++ if (s.puller g').waiting = some call then r.getD [] else [] := by
  unfold underWay answer
  rw [show (s.respond call r).puller = s.puller from rfl]
  cases hw : (s.puller g').waiting with
  | none => simp
  | some c =>
    by_cases hc : c = call
    · subst hc
      simp [responses_respond, h]
    · simp [responses_respond, hc]

theorem underWay_setItem {g' : Nat} {i : Option (ResponseItem μ)} : (s.setItem g i).underWay g' = s.underWay g' := rfl

/-- An answer goes on its way. -/
theorem Inv.answered (h : Inv s) (hitem : s.serverResponseHash g = some item) {call : Nat}
    (hcall : item.responser = some call) :
    Inv ((s.setItem g (some { item with responser := none, msgBuffer := [] })).respond call (some item.msgBuffer)) := by
  have hres : s.Responser g call := ⟨item, hitem, hcall⟩
  obtain ⟨hlt, howner, hnone⟩ := h.responser g call hres
  refine ⟨h.waiting, fun c g' sign hreq => ?_, fun g' c hr => ?_, fun c hc => ?_, fun g' => ?_, fun g' => ?_⟩
  · obtain ⟨h1, h2, h3, h4⟩ := h.request c g' sign hreq
    rw [responser_respond, responser_setItem, responses_respond]
    grind [State.setItem, State.respond]
  · rw [responser_respond, responser_setItem] at hr
    rw [responses_respond]
    have := h.responser g' c
    grind [State.setItem, State.respond]
  · rw [responses_respond] at hc
    have := h.response c
    grind [State.setItem, State.respond]
  · rw [buffer_respond, buffer_setItem]
    have := h.length_le g'
    grind
  · rw [underWay_respond (show (s.setItem g _).responses call = none from hnone), underWay_setItem, buffer_respond,
      buffer_setItem]
    show (s.handled g' ++ (s.underWay g' ++ if (s.puller g').waiting = some call then item.msgBuffer else []) ++
      if g' = g then [] else s.buffer g').Sublist (s.sent g')
    have hlog := h.log g'
    have hw := h.waiting g' call
    by_cases hg : g' = g
    · subst hg
      have hb : s.buffer g' = item.msgBuffer := by rw [buffer, hitem]; rfl
      rw [hb] at hlog
      rw [if_pos rfl]
      split
      · simpa using hlog
      · refine List.Sublist.trans ?_ hlog
        simp
    · have hne : (s.puller g').waiting ≠ some call := fun e => hg ((hw e).2.symm.trans howner)
      rw [if_neg hg, if_neg hne]
      simpa using hlog

/-- Another item for a server, or none. -/
theorem Inv.setItem (h : Inv s) {i : Option (ResponseItem μ)}
    (hresponser : ∀ item c, i = some item → item.responser = some c →
      c < s.nextCall ∧ s.owner c = g ∧ s.responses c = none ∧ s.requests c = none)
    (hlength : (i.elim [] (·.msgBuffer)).length ≤ 100)
    (hlog : (s.handled g ++ s.underWay g ++ i.elim [] (·.msgBuffer)).Sublist (s.sent g)) : Inv (s.setItem g i) := by
  refine ⟨h.waiting, fun c g' sign hreq => ?_, fun g' c hr => ?_, h.response, fun g' => ?_, fun g' => ?_⟩
  · obtain ⟨h1, h2, h3, h4⟩ := h.request c g' sign hreq
    rw [responser_setItem]
    grind [State.setItem]
  · rw [responser_setItem] at hr
    have := h.responser g' c
    grind [State.setItem]
  · rw [buffer_setItem]
    have := h.length_le g'
    grind
  · rw [underWay_setItem, buffer_setItem]
    have := h.log g'
    grind [State.setItem]

/-- An error is answered to a call that is nowhere else. -/
theorem Inv.error (h : Inv s) {call : Nat} (hlt : call < s.nextCall) (hrequest : s.requests call = none)
    (hnone : s.responses call = none) (hresponser : ∀ g, ¬s.Responser g call) :
    Inv (s.respond call none) := by
  refine ⟨h.waiting, fun c g' sign hreq => ?_, fun g' c hr => ?_, fun c hc => ?_, h.length_le, fun g' => ?_⟩
  · obtain ⟨h1, h2, h3, h4⟩ := h.request c g' sign hreq
    rw [responser_respond, responses_respond]
    grind [State.respond]
  · rw [responser_respond] at hr
    rw [responses_respond]
    have := h.responser g' c hr
    grind [State.respond]
  · rw [responses_respond] at hc
    have := h.response c
    grind [State.respond]
  · rw [underWay_respond hnone, Option.getD_none, ite_self, List.append_nil, buffer_respond]
    exact h.log g'

/-- `checkMsg` with an item that could be there. -/
theorem Inv.checkMsg (h : Inv (s.setItem g (some item))) : Inv (s.checkMsg g item) := by
  unfold State.checkMsg
  split
  · rename_i call hcall
    split
    · have := h.answered (Function.update_self _ _ _) hcall
      rwa [show ∀ i, (s.setItem g (some item)).setItem g i = s.setItem g i from fun i => by simp [State.setItem]] at this
    · exact h
  · exact h

/-- What is left in the buffer: nothing, if a call waits. -/
theorem buffer_checkMsg {g' : Nat} : (s.checkMsg g item).buffer g' = if g' = g then
    (if item.responser = none then item.msgBuffer else []) else s.buffer g' := by
  unfold State.checkMsg
  split
  · rename_i call hcall
    rw [hcall]
    split
    · rw [buffer_respond, buffer_setItem]
      simp
    · rename_i hlen
      rw [buffer_setItem]
      have : item.msgBuffer = [] := List.length_eq_zero_iff.1 (Nat.eq_zero_of_not_pos hlen)
      simp [this]
  · rename_i hcall
    rw [hcall, buffer_setItem]
    simp

/-- `checkMsg` leaves no call waiting beside messages. -/
theorem Tidy.checkMsg (h : Tidy s) : Tidy (s.checkMsg g item) := by
  intro g' c hr
  rw [buffer_checkMsg]
  unfold State.checkMsg at hr
  split at hr
  · rename_i call hcall
    split at hr
    · rw [responser_respond, responser_setItem] at hr
      have := h g' c
      grind
    · rw [responser_setItem] at hr
      have := h g' c
      grind
  · rw [responser_setItem] at hr
    have := h g' c
    grind

/-- A call that waits at the proxy is not under way. -/
theorem Inv.request_none (h : Inv s) {c : Nat} (hr : s.Responser g c) : s.requests c = none := by
  cases hreq : s.requests c with
  | none => rfl
  | some r =>
    obtain ⟨g', sign⟩ := r
    obtain ⟨_, h2, _, h4⟩ := h.request c g' sign hreq
    have := (h.responser g c hr).2.1
    rw [h2] at this
    exact absurd (this ▸ hr) h4

/-- The item of a server could be put there again, with another buffer. -/
theorem Inv.setBuffer (h : Inv s) (hitem : s.serverResponseHash g = some item) {msgBuffer : List μ}
    (hlength : msgBuffer.length ≤ 100) (hlog : (s.handled g ++ s.underWay g ++ msgBuffer).Sublist (s.sent g)) :
    Inv (s.setItem g (some { item with msgBuffer })) := by
  refine h.setItem (fun i c hi hc => ?_) hlength hlog
  obtain rfl := Option.some.inj hi
  have hr : s.Responser g c := ⟨item, hitem, hc⟩
  obtain ⟨h1, h2, h3⟩ := h.responser g c hr
  exact ⟨h1, h2, h3, h.request_none hr⟩

/-- A message is put into a log. -/
theorem Inv.logged (h : Inv s) (msg : μ) : Inv { s with sent := Function.update s.sent g (s.sent g ++ [msg]) } := by
  refine ⟨h.waiting, h.request, h.responser, h.response, h.length_le, fun g' => ?_⟩
  by_cases hg : g' = g
  · subst hg
    refine (h.log g').trans ?_
    simp
  · simp only [Function.update_of_ne hg]
    exact h.log g'

/-- A message comes to the end of the buffer, and of more than a hundred the oldest is dropped. -/
theorem Inv.sendMsgToServer (h : Inv s) (msg : μ) : Inv (s.sendMsgToServer g msg) := by
  unfold State.sendMsgToServer
  split
  · exact h
  · rename_i item hitem
    have hb : s.buffer g = item.msgBuffer := by rw [buffer, hitem]; rfl
    have hlength := h.length_le g
    have hlog := h.log g
    rw [hb] at hlength hlog
    have happend : (s.handled g ++ s.underWay g ++ (item.msgBuffer ++ [msg])).Sublist (s.sent g ++ [msg]) := by
      rw [← List.append_assoc]
      exact hlog.append_right [msg]
    refine Inv.checkMsg ((h.logged msg).setBuffer hitem ?_ ?_)
    · split
      · rw [List.length_tail, List.length_append]
        exact Nat.le_trans (Nat.le_of_eq rfl) hlength
      · rename_i hle
        exact Nat.le_of_not_lt hle
    · show (s.handled g ++ s.underWay g ++ _).Sublist (Function.update s.sent g (s.sent g ++ [msg]) g)
      rw [Function.update_self]
      split
      · exact ((List.tail_sublist _).append_left _).trans happend
      · exact happend

theorem Tidy.sendMsgToServer (h : Tidy s) (msg : μ) : Tidy (s.sendMsgToServer g msg) := by
  unfold State.sendMsgToServer
  split
  · exact h
  · exact Tidy.checkMsg (s := { s with sent := Function.update s.sent g (s.sent g ++ [msg]) }) h

theorem cmdSend_induction {P : State μ → Prop} (msg : μ) (keep : ∀ s g, P s → P (s.sendMsgToServer g msg))
    (serverIDList : List Nat) :
    ∀ s, P s → P (s.cmdSend serverIDList msg) := by
  induction serverIDList with
  | nil => exact fun s h => h
  | cons g gs ih => exact fun s h => ih _ (keep s g h)

/-- A request that has arrived is not under way any more. -/
theorem Inv.arrive (h : Inv s) {call sign : Nat} (hreq : s.requests call = some (g, sign)) :
    Inv { s with requests := Function.update s.requests call none } := by
  refine ⟨h.waiting, fun c g' sign' hr => ?_, h.responser, h.response, h.length_le, h.log⟩
  by_cases hc : c = call
  · subst hc
    simp at hr
  · exact h.request c g' sign' ((Function.update_of_ne hc _ _).symm.trans hr)

/-- The call of another time is told that it is not answered any more. -/
theorem Inv.errorOld (h : Inv s) (hitem : s.serverResponseHash g = some item) {old : Nat}
    (hold : item.responser = some old) :
    Inv ((s.setItem g (some { item with responser := none })).respond old none) := by
  have hr : s.Responser g old := ⟨item, hitem, hold⟩
  obtain ⟨h1, h2, h3⟩ := h.responser g old hr
  have hb : s.buffer g = item.msgBuffer := by rw [buffer, hitem]; rfl
  have hs : Inv (s.setItem g (some { item with responser := none })) :=
    h.setItem (fun i c hi hc => by obtain rfl := Option.some.inj hi; cases hc) (hb ▸ h.length_le g) (hb ▸ h.log g)
  refine hs.error h1 (h.request_none hr) h3 fun g' hr' => ?_
  rw [responser_setItem] at hr'
  split at hr'
  · obtain ⟨i, hi, hi'⟩ := hr'
    obtain rfl := Option.some.inj hi
    cases hi'
  · rename_i hg
    exact hg ((h.responser g' old hr').2.1.symm.trans h2)

/-- A call takes its place at the proxy. -/
theorem Inv.cmdGsPull (h : Inv s) {call sign : Nat} (hlt : call < s.nextCall) (howner : s.owner call = g)
    (hrequest : s.requests call = none) (hnone : s.responses call = none) (hresponser : ∀ g, ¬s.Responser g call) :
    Inv (s.cmdGsPull call g sign) := by
  unfold State.cmdGsPull
  split
  · exact h.error hlt hrequest hnone hresponser
  · rename_i item hitem
    have hb : s.buffer g = item.msgBuffer := by rw [buffer, hitem]; rfl
    split
    · exact h.error hlt hrequest hnone hresponser
    · refine Inv.checkMsg ?_
      cases hold : item.responser with
      | none =>
        refine h.setItem (fun i c hi hc => ?_) (hb ▸ h.length_le g) (hb ▸ h.log g)
        obtain rfl := Option.some.inj hi
        obtain rfl := Option.some.inj hc
        exact ⟨hlt, howner, hnone, hrequest⟩
      | some old =>
        have ho := h.errorOld hitem hold
        have hne : call ≠ old := fun e => hresponser g ⟨item, hitem, e ▸ hold⟩
        have := ho.setItem (g := g) (i := some { item with responser := some call }) (fun i c hi hc => ?_) ?_ ?_
        · rwa [show ∀ j i : Option (ResponseItem μ),
            ((s.setItem g j).respond old none).setItem g i = (s.respond old none).setItem g i from
            fun j i => by simp [State.setItem, State.respond]] at this
        · obtain rfl := Option.some.inj hi
          obtain rfl := Option.some.inj hc
          exact ⟨hlt, howner, (responses_respond.trans (if_neg hne)).trans hnone, hrequest⟩
        · exact hb ▸ h.length_le g
        · have := ho.log g
          rw [buffer_respond, buffer_setItem, if_pos rfl] at this
          exact this

/-- A call waits only if there was nothing to answer it with. -/
theorem Tidy.cmdGsPull (h : Tidy s) {call sign : Nat} : Tidy (s.cmdGsPull call g sign) := by
  unfold State.cmdGsPull
  split
  · exact h
  · split
    · exact h
    · refine Tidy.checkMsg ?_
      split <;> exact h

/-- The item of a server begins anew, with one message. -/
theorem Inv.connect (h : Inv s) (hello : μ) (sign : Nat) : Inv (s.cmdOnEventGameServerConnect hello g sign) := by
  refine (h.logged hello).setItem (fun i c hi hc => ?_) (by decide : 1 ≤ 100) ?_
  · obtain rfl := Option.some.inj hi
    cases hc
  · show (s.handled g ++ s.underWay g ++ [hello]).Sublist (Function.update s.sent g (s.sent g ++ [hello]) g)
    rw [Function.update_self]
    have : (s.handled g ++ s.underWay g).Sublist (s.sent g) := (List.sublist_append_left _ _).trans (h.log g)
    exact this.append_right [hello]

/-- The entry is a new one, without a call. -/
theorem Tidy.connect (h : Tidy s) (hello : μ) (sign : Nat) : Tidy (s.cmdOnEventGameServerConnect hello g sign) := by
  intro g' c hr
  have hr' := responser_setItem.1 (show (State.setItem _ g _).Responser g' c from hr)
  rw [show (s.cmdOnEventGameServerConnect hello g sign).buffer g' = _ from buffer_setItem]
  split at hr'
  · obtain ⟨i, hi, hc⟩ := hr'
    obtain rfl := Option.some.inj hi
    cases hc
  · rename_i hg
    rw [if_neg hg]
    exact h g' c hr'

theorem Inv.disconnect (h : Inv s) : Inv (s.cmdOnEventGameServerDisconnect g) :=
  h.setItem (by simp) (Nat.zero_le _) (by
    rw [Option.elim_none, List.append_nil]
    exact (List.sublist_append_left _ _).trans (h.log g))

/-- The entry of the server is gone, with its call and its messages. -/
theorem Tidy.disconnect (h : Tidy s) : Tidy (s.cmdOnEventGameServerDisconnect g) := by
  intro g' c hr
  have hr' := responser_setItem.1 (show (State.setItem _ g _).Responser g' c from hr)
  rw [show (s.cmdOnEventGameServerDisconnect g).buffer g' = _ from buffer_setItem]
  split at hr'
  · obtain ⟨i, hi, _⟩ := hr'
    cases hi
  · rename_i hg
    rw [if_neg hg]
    exact h g' c hr'

/-- Another state of a puller, which waits for no other call than before. -/
theorem Inv.setPuller (h : Inv s) {p : Puller μ} (hwaiting : ∀ c, p.waiting = some c → (s.puller g).waiting = some c)
    (hlog : (s.handled g ++ (p.list ++ p.waiting.elim [] s.answer) ++ s.buffer g).Sublist (s.sent g)) : Inv
    (s.setPuller g p) := by
  refine ⟨fun g' c hc => ?_, h.request, h.responser, h.response, h.length_le, fun g' => ?_⟩
  · by_cases hg : g' = g
    · subst hg
      exact h.waiting g' c
        (hwaiting c (by rwa [show (s.setPuller g' p).puller g' = p from Function.update_self _ _ _] at hc))
    · exact h.waiting g' c (by rwa [show (s.setPuller g p).puller g' = s.puller g' from Function.update_of_ne hg _ _] at hc)
  · by_cases hg : g' = g
    · subst hg
      rw [underWay, show (s.setPuller g' p).puller g' = p from Function.update_self _ _ _]
      exact hlog
    · rw [underWay, show (s.setPuller g p).puller g' = s.puller g' from Function.update_of_ne hg _ _]
      exact h.log g'

/-- What is handled, or lost, of the list. -/
theorem log_shorter {h u b l : List μ} (hl : (h ++ u ++ b).Sublist l) {u' : List μ}
    (hu : u'.Sublist u) : (h ++ u' ++ b).Sublist l :=
  List.Sublist.trans ((hu.append_left h).append_right b) hl

/-- A puller handles a message. -/
theorem Inv.handle (h : Inv s) {msg : μ} {list : List μ} (hlist : (s.puller g).list = msg :: list) :
    Inv (State.setPuller { s with handled := Function.update s.handled g (s.handled g ++ [msg]) } g
      { s.puller g with list }) := by
  have hp (g' : Nat) : Function.update s.puller g { s.puller g with list } g' = if g' = g then { s.puller g with list }
    else s.puller g' :=
    Function.update_apply _ _ _ _
  refine ⟨fun g' c hc => ?_, h.request, h.responser, h.response, h.length_le, fun g' => ?_⟩
  · refine h.waiting g' c ?_
    rw [← hc]
    show _ = (Function.update s.puller g _ g').waiting
    rw [hp]
    split
    · rename_i hg
      rw [hg]
    · rfl
  · have hlog := h.log g'
    rw [underWay] at hlog
    show (Function.update s.handled g (s.handled g ++ [msg]) g' ++ ((Function.update s.puller g _ g').list ++
      (Function.update s.puller g _ g').waiting.elim [] s.answer) ++ s.buffer g').Sublist (s.sent g')
    rw [hp]
    by_cases hg : g' = g
    · subst hg
      rw [hlist] at hlog
      rw [if_pos rfl, Function.update_self]
      simpa using hlog
    · rw [if_neg hg, Function.update_of_ne hg]
      exact hlog

/-- A puller makes a call with a number of its own. -/
theorem Inv.doPulling (h : Inv s) (sign : Nat) (hfree : (s.puller g).waiting = none) (hlist : (s.puller g).list = []) :
    Inv (s.doPulling g sign) := by
  have hnew (c : Nat) (hc : c < s.nextCall) : c < s.nextCall + 1 ∧ Function.update s.owner s.nextCall g c = s.owner c :=
    ⟨Nat.lt_succ_of_lt hc, Function.update_of_ne (Nat.ne_of_lt hc) _ _⟩
  have hres : s.responses s.nextCall = none := by
    by_contra hne
    exact Nat.lt_irrefl _ (h.response _ hne)
  have hp (g' : Nat) : (s.doPulling g sign).puller g' =
      if g' = g then { s.puller g with waiting := some s.nextCall } else s.puller g' := Function.update_apply _ _ _ _
  refine ⟨fun g' c hc => ?_, fun c g' sign' hreq => ?_, fun g' c hr => ?_,
    fun c hc => Nat.lt_succ_of_lt (h.response c hc), h.length_le, fun g' => ?_⟩
  · rw [hp] at hc
    split at hc
    · obtain rfl := Option.some.inj hc
      rename_i hg
      exact ⟨Nat.lt_succ_self _, hg ▸ Function.update_self _ _ _⟩
    · obtain ⟨h1, h2⟩ := h.waiting g' c hc
      exact ⟨(hnew c h1).1, (hnew c h1).2.trans h2⟩
  · by_cases hc : c = s.nextCall
    · subst hc
      have he : some (g, sign) = some (g', sign') := by
        rw [← hreq]
        exact (Function.update_self s.nextCall (some (g, sign)) s.requests).symm
      obtain ⟨rfl, rfl⟩ := Prod.mk.inj (Option.some.inj he)
      exact ⟨Nat.lt_succ_self _, Function.update_self _ _ _, hres, fun hr => Nat.lt_irrefl _ (h.responser g _ hr).1⟩
    · obtain ⟨h1, h2, h3, h4⟩ := h.request c g' sign' ((Function.update_of_ne hc _ _).symm.trans hreq)
      exact ⟨(hnew c h1).1, (hnew c h1).2.trans h2, h3, h4⟩
  · obtain ⟨h1, h2, h3⟩ := h.responser g' c hr
    exact ⟨(hnew c h1).1, (hnew c h1).2.trans h2, h3⟩
  · have hlog := h.log g'
    have hu : (s.doPulling g sign).underWay g' = s.underWay g' := by
      rw [underWay, hp, underWay]
      split
      · rename_i hg
        subst hg
        show (s.puller g').list ++ s.answer s.nextCall = _
        rw [hfree, answer, hres]
        rfl
      · rfl
    rw [hu]
    exact hlog

/-- An answer is lost, or nobody waits for it. -/
theorem Inv.forget (h : Inv s) (call : Nat) : Inv { s with responses := Function.update s.responses call none } := by
  have hsome (c : Nat) (hc : s.responses c = none) : Function.update s.responses call none c = none := by
    by_cases he : c = call
    · exact he ▸ Function.update_self _ _ _
    · exact (Function.update_of_ne he _ _).trans hc
  refine ⟨h.waiting, fun c g' sign hreq => ?_, fun g' c hr => ?_, fun c hc => ?_, h.length_le, fun g' => ?_⟩
  · obtain ⟨h1, h2, h3, h4⟩ := h.request c g' sign hreq
    exact ⟨h1, h2, hsome c h3, h4⟩
  · obtain ⟨h1, h2, h3⟩ := h.responser g' c hr
    exact ⟨h1, h2, hsome c h3⟩
  · exact h.response c fun he => hc (hsome c he)
  · refine log_shorter (h.log g') ?_
    refine List.Sublist.append_left ?_ _
    cases (s.puller g').waiting with
    | none => exact List.Sublist.refl _
    | some c =>
      by_cases he : c = call
      · subst he
        show (((Function.update s.responses c none c).getD none).getD []).Sublist _
        rw [Function.update_self]
        exact List.nil_sublist _
      · show (((Function.update s.responses call none c).getD none).getD []).Sublist (s.answer c)
        rw [Function.update_of_ne he, answer]

theorem receive_of_waiting {call : Nat} {result : Option (List μ)} (hw : (s.puller (s.owner call)).waiting = some call) :
    s.receive call result = State.setPuller { s with responses := Function.update s.responses call none } (s.owner call)
      { s.puller (s.owner call) with waiting := none, list := result.getD [] } := if_pos hw

theorem receive_of_not_waiting {call : Nat} {result : Option (List μ)} (hw : (s.puller (s.owner call)).waiting ≠ some call) :
    s.receive call result = { s with responses := Function.update s.responses call none } := if_neg hw

/-- An answer arrives. -/
theorem Inv.receive (h : Inv s) {call : Nat} {result : Option (List μ)} (hres : s.responses call = some result) :
    Inv (s.receive call result) := by
  have hf := h.forget call
  by_cases hw : (s.puller (s.owner call)).waiting = some call
  · rw [receive_of_waiting hw]
    refine hf.setPuller (by simp) ?_
    have hlog := h.log (s.owner call)
    rw [underWay, hw, Option.elim_some, answer, hres] at hlog
    refine log_shorter hlog ?_
    rw [Option.elim_none, List.append_nil]
    exact List.sublist_append_right _ _
  · rw [receive_of_not_waiting hw]
    exact hf

end Operations

/-! ## What a label with a condition does -/

section Step

variable {hello : μ} {s s' : State μ} {serverID call : Nat}

theorem step_pull (hs : step hello s (.pull serverID) = some s') :
    ∃ sign, (s.puller serverID).waiting = none ∧ (s.puller serverID).list = [] ∧ s' = s.doPulling serverID sign := by
  rw [Relay.step] at hs
  split at hs
  · obtain ⟨hfree, hs⟩ := Option.ite_none_right_eq_some.1 hs
    exact ⟨_, hfree.1, hfree.2, (Option.some.inj hs).symm⟩
  · cases hs

/-- A message is handled when there is one. -/
theorem step_handle (hs : step hello s (.handle serverID) = some s') :
    ∃ msg list, (s.puller serverID).list = msg :: list ∧
      s' = State.setPuller { s with handled := Function.update s.handled serverID (s.handled serverID ++ [msg]) } serverID
        { s.puller serverID with list } := by
  rw [Relay.step] at hs
  split at hs
  · rename_i msg list hlist
    exact ⟨msg, list, hlist, (Option.some.inj hs).symm⟩
  · cases hs

theorem step_handleFails (hs : step hello s (.handleFails serverID) = some s') :
    (s.puller serverID).list ≠ [] ∧ s' = s.setPuller serverID { s.puller serverID with list := [] } := by
  obtain ⟨hlist, hs⟩ := Option.ite_none_right_eq_some.1 hs
  exact ⟨hlist, (Option.some.inj hs).symm⟩

/-- A request arrives when it is under way. -/
theorem step_requestArrives (hs : step hello s (.requestArrives call) = some s') :
    ∃ serverID sign, s.requests call = some (serverID, sign) ∧
      s' = State.cmdGsPull { s with requests := Function.update s.requests call none } call serverID sign := by
  rw [Relay.step] at hs
  split at hs
  · rename_i serverID sign hreq
    exact ⟨serverID, sign, hreq, (Option.some.inj hs).symm⟩
  · cases hs

theorem step_requestLost (hs : step hello s (.requestLost call) = some s') :
    s.requests call ≠ none ∧ s' = { s with requests := Function.update s.requests call none } := by
  obtain ⟨hreq, hs⟩ := Option.ite_none_right_eq_some.1 hs
  exact ⟨hreq, (Option.some.inj hs).symm⟩

theorem step_responseArrives (hs : step hello s (.responseArrives call) = some s') :
    ∃ result, s.responses call = some result ∧ s' = s.receive call result := by
  rw [Relay.step] at hs
  split at hs
  · rename_i result hres
    exact ⟨result, hres, (Option.some.inj hs).symm⟩
  · cases hs

theorem step_responseLost (hs : step hello s (.responseLost call) = some s') :
    s.responses call ≠ none ∧ s' = { s with responses := Function.update s.responses call none } := by
  obtain ⟨hres, hs⟩ := Option.ite_none_right_eq_some.1 hs
  exact ⟨hres, (Option.some.inj hs).symm⟩

theorem step_callFails (hs : step hello s (.callFails serverID) = some s') :
    (s.puller serverID).waiting ≠ none ∧ s' = s.setPuller serverID { s.puller serverID with waiting := none } := by
  obtain ⟨hwait, hs⟩ := Option.ite_none_right_eq_some.1 hs
  exact ⟨hwait, (Option.some.inj hs).symm⟩

end Step

/-! ## Runs -/

/-- Every label keeps the invariant. -/
theorem Inv.step {hello : μ} (s : State μ) (l : Label μ) (s' : State μ) (h : Inv s ∧ Tidy s) (_ : True)
    (hs : step hello s l = some s') :
    Inv s' ∧ Tidy s' := by
  obtain ⟨h, ht⟩ := h
  cases l with
  | send serverIDList msg =>
    obtain rfl := Option.some.inj hs
    exact @cmdSend_induction μ (fun s => Inv s ∧ Tidy s) msg
      (fun s g h => ⟨h.1.sendMsgToServer msg, h.2.sendMsgToServer msg⟩) serverIDList s ⟨h, ht⟩
  | connect serverID sign =>
    obtain rfl := Option.some.inj hs
    exact ⟨h.connect hello sign, ht.connect hello sign⟩
  | disconnect serverID =>
    obtain rfl := Option.some.inj hs
    exact ⟨h.disconnect, ht.disconnect⟩
  | register serverID sign =>
    obtain rfl := Option.some.inj hs
    exact ⟨h.setPuller (fun _ hc => hc) (h.log serverID), ht⟩
  | pull serverID =>
    obtain ⟨sign, hfree, hlist, rfl⟩ := step_pull hs
    exact ⟨h.doPulling sign hfree hlist, ht⟩
  | handle serverID =>
    obtain ⟨msg, list, hlist, rfl⟩ := step_handle hs
    exact ⟨h.handle hlist, ht⟩
  | handleFails serverID =>
    obtain ⟨_, rfl⟩ := step_handleFails hs
    exact ⟨h.setPuller (fun _ hc => hc) (log_shorter (h.log serverID) (List.sublist_append_right _ _)), ht⟩
  | requestArrives call =>
    obtain ⟨serverID, sign, hreq, rfl⟩ := step_requestArrives hs
    obtain ⟨h1, h2, h3, h4⟩ := h.request call serverID sign hreq
    refine ⟨(h.arrive hreq).cmdGsPull h1 h2 (Function.update_self _ _ _) h3 fun g hr => ?_,
      Tidy.cmdGsPull (s := { s with requests := Function.update s.requests call none }) ht⟩
    have := (h.responser g call hr).2.1
    rw [h2] at this
    exact h4 (this ▸ hr)
  | requestLost call =>
    obtain ⟨hsome, rfl⟩ := step_requestLost hs
    refine ⟨?_, ht⟩
    cases hreq : s.requests call with
    | none => exact absurd hreq hsome
    | some r => exact h.arrive hreq
  | responseArrives call =>
    obtain ⟨result, hres, rfl⟩ := step_responseArrives hs
    refine ⟨h.receive hres, ?_⟩
    by_cases hw : (s.puller (s.owner call)).waiting = some call
    · rw [receive_of_waiting hw]
      exact ht
    · rw [receive_of_not_waiting hw]
      exact ht
  | responseLost call =>
    obtain ⟨_, rfl⟩ := step_responseLost hs
    exact ⟨h.forget call, ht⟩
  | callFails serverID =>
    obtain ⟨_, rfl⟩ := step_callFails hs
    refine ⟨h.setPuller (by simp) (log_shorter (h.log serverID) ?_), ht⟩
    rw [Option.elim_none, List.append_nil]
    exact List.sublist_append_left _ _
  | restart serverID =>
    obtain rfl := Option.some.inj hs
    exact ⟨h.setPuller (by simp) (log_shorter (h.log serverID) (List.nil_sublist _)), ht⟩

/-- After any run of the proxy and the pullers, whatever has been lost and whoever has failed or started again: what a puller
has handled, what is on the way to it and what is in its buffer are, in this order, a part of the messages put into the
buffer; the buffer has at most 100 of them; and none while a call waits for one. -/
theorem handled_in_order (hello : μ) (ls : List (Label μ)) (s : State μ) (h : Steps.exec (step hello) State.init ls = some s)
    (serverID : Nat) :
    (s.handled serverID ++ s.underWay serverID ++ s.buffer serverID).Sublist (s.sent serverID) ∧
      (s.buffer serverID).length ≤ 100 ∧
      ∀ call, s.Responser serverID call → s.buffer serverID = [] := by
  obtain ⟨hi, ht⟩ := Steps.exec_invariant Inv.step ls _ s ⟨inv_init, by simp [Tidy, State.init, Responser]⟩
    (Steps.meets_of_forall (fun _ _ => trivial) ls _) h
  exact ⟨hi.log serverID, hi.length_le serverID, ht serverID⟩

/-- A call fails while its answer is on the way, and the messages of that answer are lost; the next ones are handled. -/
theorem handled_in_order_call_fails :
    ∃ s, Steps.exec (step 0) (State.init : State Nat)
      [.connect 1 7, .register 1 7, .pull 1, .requestArrives 0, .send [1] 5, .callFails 1, .pull 1,
        .requestArrives 1, .responseArrives 0, .responseArrives 1, .handle 1, .send [1] 6] = some s ∧
      s.handled 1 = [5] ∧ s.buffer 1 = [6] ∧ (s.handled 1 ++ s.underWay 1 ++ s.buffer 1).Sublist (s.sent 1) := by
  have hrun : (Steps.exec (step 0) (State.init : State Nat)
    [.connect 1 7, .register 1 7, .pull 1, .requestArrives 0, .send [1] 5, .callFails 1,
        .pull 1, .requestArrives 1, .responseArrives 0, .responseArrives 1, .handle 1, .send [1] 6]).map
          (fun s => (s.handled 1, s.buffer 1)) =
      some ([5], [6]) := by decide
  obtain ⟨s, hs, he⟩ := Option.map_eq_some_iff.1 hrun
  simp only [Prod.mk.injEq] at he
  exact ⟨s, hs, he.1, he.2, (handled_in_order 0 _ s hs 1).1⟩

end SasyServer.Relay
