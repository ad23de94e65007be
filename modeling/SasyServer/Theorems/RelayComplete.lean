import SasyServer.Theorems.RelayOrder

/-!
# Theorem: no message is lost where nothing fails

A run is smooth for a game server when nothing between its puller and the proxy is lost, the server connects once and
neither fails nor starts again, and its buffer does not overflow. Then every message that was put into the buffer is
handled, on its way or still in the buffer, whatever happens to the other servers; and when the puller waits while nothing
is under way, it has handled all of them.
-/

namespace SasyServer.Relay

open State

variable {μ : Type*}

/-- What the label must not do for the run to be smooth for the server `g`. -/
def Smooth (g : Nat) (s : State μ) : Label μ → Prop
  | .send serverIDList _ => (s.buffer g).length + serverIDList.count g ≤ 100
  | .connect serverID _ => serverID = g → s.serverResponseHash g = none
  | .disconnect serverID | .handleFails serverID | .callFails serverID | .restart serverID => serverID ≠ g
  | .requestLost call | .responseLost call => s.owner call ≠ g
  | .register _ _ | .pull _ | .handle _ | .requestArrives _ | .responseArrives _ => True

instance (g : Nat) (s : State μ) : DecidablePred (Smooth g s)
  | .send serverIDList _ => inferInstanceAs (Decidable ((s.buffer g).length + serverIDList.count g ≤ 100))
  | .connect serverID _ => inferInstanceAs (Decidable (serverID = g → s.serverResponseHash g = none))
  | .disconnect serverID | .handleFails serverID | .callFails serverID | .restart serverID =>
    inferInstanceAs (Decidable (serverID ≠ g))
  | .requestLost call | .responseLost call => inferInstanceAs (Decidable (s.owner call ≠ g))
  | .register _ _ | .pull _ | .handle _ | .requestArrives _ | .responseArrives _ => inferInstanceAs (Decidable True)

/-- A call of the server's puller is under way, or waits at the proxy. -/
def State.Live (s : State μ) (g c : Nat) : Prop :=
  s.owner c = g ∧ (s.requests c ≠ none ∨ s.Responser g c ∨ s.responses c ≠ none)

/-- The invariant of smooth runs: nothing is missing, and the one call of the puller is the one it waits for. -/
structure Whole (g : Nat) (s : State μ) : Prop where
  inv : Inv s
  tidy : Tidy s
  log : s.handled g ++ s.underWay g ++ s.buffer g = s.sent g
  live : ∀ c, s.Live g c ↔ (s.puller g).waiting = some c
  list : (s.puller g).waiting ≠ none → (s.puller g).list = []

/-- Two states that are the same for a server. -/
structure Same (g : Nat) (s s' : State μ) : Prop where
  item : s'.serverResponseHash g = s.serverResponseHash g
  puller : s'.puller g = s.puller g
  sent : s'.sent g = s.sent g
  handled : s'.handled g = s.handled g
  owner : ∀ c, s'.owner c = g ↔ s.owner c = g
  requests : ∀ c, s.owner c = g → s'.requests c = s.requests c
  responses : ∀ c, s.owner c = g → s'.responses c = s.responses c

theorem Same.refl (g : Nat) (s : State μ) : Same g s s :=
  ⟨rfl, rfl, rfl, rfl, fun _ => Iff.rfl, fun _ _ => rfl, fun _ _ => rfl⟩

theorem Same.trans {g : Nat} {s s' s'' : State μ} (h : Same g s s') (h' : Same g s' s'') : Same g s s'' :=
  ⟨h'.item.trans h.item, h'.puller.trans h.puller, h'.sent.trans h.sent, h'.handled.trans h.handled,
    fun c => (h'.owner c).trans (h.owner c), fun c hc => (h'.requests c ((h.owner c).2 hc)).trans (h.requests c hc),
    fun c hc => (h'.responses c ((h.owner c).2 hc)).trans (h.responses c hc)⟩

theorem init_whole (g : Nat) : Whole g (State.init : State μ) where
  inv := inv_init
  tidy := by simp [Tidy, State.init, Responser]
  log := rfl
  live := by simp [Live, State.init, Responser]
  list := by simp [State.init]

section Operations

variable {g : Nat} {s s' : State μ}

theorem Same.responser (h : Same g s s') (c : Nat) : s'.Responser g c ↔ s.Responser g c := by
  unfold Responser
  rw [h.item]

theorem Same.live (h : Same g s s') (c : Nat) : s'.Live g c ↔ s.Live g c := by
  unfold Live
  rw [h.owner, h.responser]
  refine and_congr_right fun hc => ?_
  rw [h.requests c hc, h.responses c hc]

/-- What happens to others leaves the server alone. -/
theorem Whole.same (h : Whole g s) (hs : Same g s s') (hi : Inv s') (ht : Tidy s') : Whole g s' := by
  refine ⟨hi, ht, ?_, fun c => by rw [hs.live, h.live, hs.puller], by rw [hs.puller]; exact h.list⟩
  have hlog := h.log
  have hu : s'.underWay g = s.underWay g := by
    unfold underWay
    rw [hs.puller]
    cases hw : (s.puller g).waiting with
    | none => rfl
    | some c =>
      have := hs.responses c (h.inv.waiting g c hw).2
      rw [Option.elim_some, Option.elim_some, answer, answer, this]
  rw [hs.handled, hu, hs.sent, buffer, hs.item]
  exact hlog

theorem same_setItem {g' : Nat} (hg : g' ≠ g) (i : Option (ResponseItem μ)) : Same g s (s.setItem g' i) :=
  ⟨Function.update_of_ne (Ne.symm hg) _ _, rfl, rfl, rfl, fun _ => Iff.rfl, fun _ _ => rfl, fun _ _ => rfl⟩

theorem same_respond {call : Nat} (hc : s.owner call ≠ g) (r : Option (List μ)) : Same g s (s.respond call r) :=
  ⟨rfl, rfl, rfl, rfl, fun _ => Iff.rfl, fun _ _ => rfl,
    fun c h => Function.update_of_ne (fun e : c = call => hc (e ▸ h)) _ _⟩

theorem same_setPuller {g' : Nat} (hg : g' ≠ g) (p : Puller μ) : Same g s (s.setPuller g' p) :=
  ⟨rfl, Function.update_of_ne (Ne.symm hg) _ _, rfl, rfl, fun _ => Iff.rfl, fun _ _ => rfl, fun _ _ => rfl⟩

theorem same_logged {g' : Nat} (hg : g' ≠ g) (msg : μ) :
    Same g s { s with sent := Function.update s.sent g' (s.sent g' ++ [msg]) } :=
  ⟨rfl, rfl, Function.update_of_ne (Ne.symm hg) _ _, rfl, fun _ => Iff.rfl, fun _ _ => rfl, fun _ _ => rfl⟩

/-- `checkMsg` for another server. -/
theorem same_checkMsg {g' : Nat} (hg : g' ≠ g) {item : ResponseItem μ}
    (hc : ∀ call, item.responser = some call → s.owner call ≠ g) :
    Same g s (s.checkMsg g' item) := by
  unfold State.checkMsg
  split
  · rename_i call hcall
    split
    · exact (same_setItem hg _).trans (same_respond (s := s.setItem g' _) (hc call hcall) _)
    · exact same_setItem hg _
  · exact same_setItem hg _

/-- A message to another server. -/
theorem same_sendMsgToServer (h : Inv s) {g' : Nat} (hg : g' ≠ g) (msg : μ) : Same g s (s.sendMsgToServer g' msg) := by
  unfold State.sendMsgToServer
  split
  · exact Same.refl g s
  · rename_i item hitem
    refine (same_logged hg msg).trans (same_checkMsg hg fun call hcall => ?_)
    show s.owner call ≠ g
    rw [(h.responser g' call ⟨item, hitem, hcall⟩).2.1]
    exact hg

/-- A call of another server. -/
theorem same_cmdGsPull (h : Inv s) {g' call sign : Nat} (hg : g' ≠ g) (hcall : s.owner call = g') :
    Same g s (s.cmdGsPull call g' sign) := by
  have hne : s.owner call ≠ g := hcall ▸ hg
  unfold State.cmdGsPull
  split
  · exact same_respond hne none
  · rename_i item hitem
    split
    · exact same_respond hne none
    · cases hold : item.responser with
      | none =>
        refine same_checkMsg hg fun c hc => ?_
        obtain rfl := Option.some.inj hc
        exact hne
      | some old =>
        have hold' : s.owner old ≠ g := by
          rw [(h.responser g' old ⟨item, hitem, hold⟩).2.1]
          exact hg
        refine (same_respond hold' none).trans (same_checkMsg hg fun c hc => ?_)
        obtain rfl := Option.some.inj hc
        exact hne

/-! ### The server itself -/

variable {item : ResponseItem μ}

/-- An item with a call and messages is answered; any other stays as it is. -/
theorem checkMsg_cases (s : State μ) (g : Nat) (item : ResponseItem μ) :
    s.checkMsg g item = s.setItem g (some item) ∧ (item.responser = none ∨ item.msgBuffer = []) ∨
      ∃ call, item.responser = some call ∧
        s.checkMsg g item = (s.setItem g (some { item with responser := none, msgBuffer := [] })).respond call
          (some item.msgBuffer) := by
  unfold State.checkMsg
  split
  · rename_i call hcall
    split
    · exact Or.inr ⟨call, hcall, rfl⟩
    · rename_i hlen
      exact Or.inl ⟨rfl, Or.inr (List.length_eq_zero_iff.1 (Nat.eq_zero_of_not_pos hlen))⟩
  · exact Or.inl ⟨rfl, Or.inl ‹_›⟩

/-- An item of the server goes through `checkMsg`. -/
theorem Whole.checkMsg (hi : Inv (s.setItem g (some item))) (ht : Tidy s)
    (hlive : ∀ c, (s.setItem g (some item)).Live g c ↔ (s.puller g).waiting = some c)
    (hlist : (s.puller g).waiting ≠ none → (s.puller g).list = [])
    (hlog : s.handled g ++ s.underWay g ++ item.msgBuffer = s.sent g) : Whole g (s.checkMsg g item) := by
  have hinv := hi.checkMsg
  have htidy : Tidy (s.checkMsg g item) := ht.checkMsg
  rcases checkMsg_cases s g item with ⟨he, _⟩ | ⟨call, hcall, he⟩
  · rw [he] at hinv htidy ⊢
    refine ⟨hinv, htidy, ?_, hlive, hlist⟩
    rw [underWay_setItem, buffer_setItem, if_pos rfl]
    exact hlog
  · rw [he] at hinv htidy ⊢
    have hr : (s.setItem g (some item)).Responser g call := ⟨item, Function.update_self _ _ _, hcall⟩
    obtain ⟨_, howner, hnone⟩ := hi.responser g call hr
    have hw : (s.puller g).waiting = some call := (hlive call).1 ⟨howner, Or.inr (Or.inl hr)⟩
    refine ⟨hinv, htidy, ?_, fun c => ?_, hlist⟩
    · rw [underWay_respond (s := s.setItem g (some { item with responser := none, msgBuffer := [] })) hnone,
        underWay_setItem, buffer_respond, buffer_setItem, if_pos rfl]
      show s.handled g ++ (s.underWay g ++ if (s.puller g).waiting = some call then item.msgBuffer else []) ++ [] = s.sent g
      rw [if_pos hw, List.append_nil, ← List.append_assoc]
      exact hlog
    · -- the answer takes the place of the call at the proxy
      refine Iff.trans ?_ (hlive c)
      unfold Live
      rw [responser_respond, responses_respond, responser_setItem, responser_setItem, if_pos rfl, if_pos rfl]
      by_cases hc : c = call
      · subst hc
        simp [State.setItem, State.respond, hcall]
      · have : item.responser ≠ some c := fun e => hc (Option.some.inj (e.symm.trans hcall))
        simp [State.setItem, State.respond, hc, this]

theorem Whole.buffer_some (h : Whole g s) (hitem : s.serverResponseHash g = some item) :
    s.handled g ++ s.underWay g ++ item.msgBuffer = s.sent g := by
  have := h.log
  rwa [show s.buffer g = item.msgBuffer by rw [buffer, hitem]; rfl] at this

/-- The item of the server is put there again, with another buffer. -/
theorem Whole.live_setBuffer (h : Whole g s) (hitem : s.serverResponseHash g = some item) (msgBuffer : List μ) (c : Nat) :
    (s.setItem g (some { item with msgBuffer })).Live g c ↔ (s.puller g).waiting = some c := by
  rw [← h.live c]
  unfold Live
  rw [responser_setItem, if_pos rfl]
  refine and_congr_right fun _ => or_congr_right (or_congr_left ?_)
  constructor
  · rintro ⟨i, hi, hc⟩
    obtain rfl := Option.some.inj hi
    exact ⟨item, hitem, hc⟩
  · rintro ⟨i, hi, hc⟩
    rw [hitem] at hi
    obtain rfl := Option.some.inj hi
    exact ⟨_, rfl, hc⟩

/-- A message is sent to the server, whose buffer has room for it. -/
theorem Whole.sendMsgToServer (h : Whole g s) (msg : μ) (hroom : (s.buffer g).length < 100) :
    Whole g (s.sendMsgToServer g msg) := by
  have hinv := h.inv.sendMsgToServer (g := g) msg
  unfold State.sendMsgToServer at hinv ⊢
  split
  · exact h
  · rename_i item hitem
    have hb : s.buffer g = item.msgBuffer := by rw [buffer, hitem]; rfl
    rw [hb] at hroom
    dsimp only
    rw [if_neg (show ¬(item.msgBuffer ++ [msg]).length > 100 by simp; omega)]
    have hlog : s.handled g ++ s.underWay g ++ (item.msgBuffer ++ [msg]) = s.sent g ++ [msg] := by
      rw [← List.append_assoc, h.buffer_some hitem]
    refine Whole.checkMsg (s := { s with sent := Function.update s.sent g (s.sent g ++ [msg]) }) ?_ h.tidy
      (h.live_setBuffer hitem (item.msgBuffer ++ [msg])) h.list ?_
    · refine (h.inv.logged msg).setBuffer hitem ?_ ?_
      · simp
        omega
      · show (s.handled g ++ s.underWay g ++ (item.msgBuffer ++ [msg])).Sublist
          (Function.update s.sent g (s.sent g ++ [msg]) g)
        rw [Function.update_self, hlog]
    · show s.handled g ++ s.underWay g ++ (item.msgBuffer ++ [msg]) = Function.update s.sent g (s.sent g ++ [msg]) g
      rw [Function.update_self, hlog]

/-- A message takes at most one place in a buffer. -/
theorem length_sendMsgToServer (s : State μ) (g : Nat) (msg : μ) :
    ((s.sendMsgToServer g msg).buffer g).length ≤ (s.buffer g).length + 1 := by
  unfold State.sendMsgToServer
  split
  · exact Nat.le_succ _
  · rename_i item hitem
    have hle (l : List μ) : (if l.length > 100 then l.tail else l).length ≤ l.length := by
      split
      · rw [List.length_tail]
        exact Nat.sub_le _ _
      · exact Nat.le_refl _
    rw [buffer_checkMsg, if_pos rfl, show s.buffer g = item.msgBuffer by rw [buffer, hitem]; rfl]
    by_cases hr : item.responser = none
    · rw [if_pos hr]
      exact Nat.le_trans (hle _) (Nat.le_of_eq (List.length_append))
    · rw [if_neg hr]
      exact Nat.zero_le _

/-- `cmd_send` to any servers. -/
theorem Whole.cmdSend (msg : μ) (serverIDList : List Nat) :
    ∀ s : State μ, Whole g s → (s.buffer g).length + serverIDList.count g ≤ 100 →
    Whole g (s.cmdSend serverIDList msg) := by
  induction serverIDList with
  | nil => exact fun s h _ => h
  | cons g' gs ih =>
    intro s h hroom
    by_cases hg : g' = g
    · subst hg
      rw [List.count_cons_self] at hroom
      refine ih _ (h.sendMsgToServer msg (by omega)) ?_
      have := length_sendMsgToServer s g' msg
      show ((s.sendMsgToServer g' msg).buffer g').length + gs.count g' ≤ 100
      omega
    · rw [List.count_cons_of_ne hg] at hroom
      have hs := same_sendMsgToServer h.inv hg msg
      refine ih _ (h.same hs (h.inv.sendMsgToServer msg) (h.tidy.sendMsgToServer msg)) ?_
      rw [buffer, hs.item]
      exact hroom

/-- The server connects. -/
theorem Whole.connect (h : Whole g s) (hello : μ) (sign : Nat) (hnone : s.serverResponseHash g = none) :
    Whole g (s.cmdOnEventGameServerConnect hello g sign) := by
  refine ⟨h.inv.connect hello sign, h.tidy.connect hello sign, ?_, fun c => ?_, h.list⟩
  · rw [show (s.cmdOnEventGameServerConnect hello g sign).buffer g = _ from buffer_setItem, if_pos rfl]
    show s.handled g ++ s.underWay g ++ [hello] = Function.update s.sent g (s.sent g ++ [hello]) g
    have hlog := h.log
    rw [show s.buffer g = [] by rw [buffer, hnone]; rfl, List.append_nil] at hlog
    rw [Function.update_self, hlog]
  · rw [show (s.cmdOnEventGameServerConnect hello g sign).puller = s.puller from rfl, ← h.live c]
    unfold Live
    rw [show (s.cmdOnEventGameServerConnect hello g sign).Responser g c ↔ _ from responser_setItem, if_pos rfl]
    refine and_congr_right fun _ => or_congr_right (or_congr_left ?_)
    refine iff_of_false ?_ ?_
    · rintro ⟨i, hi, hc⟩
      obtain rfl := Option.some.inj hi
      cases hc
    · rintro ⟨i, hi, _⟩
      rw [hnone] at hi
      cases hi

/-- A request of the server's puller arrives. -/
theorem Whole.requestArrives (h : Whole g s) {call sign : Nat} (hreq : s.requests call = some (g, sign)) :
    Whole g (State.cmdGsPull { s with requests := Function.update s.requests call none } call g sign) := by
  obtain ⟨hlt, howner, hnone, hresponser⟩ := h.inv.request call g sign hreq
  have hw : (s.puller g).waiting = some call := (h.live call).1 ⟨howner, Or.inl (by rw [hreq]; simp)⟩
  have hother (g' : Nat) (hr : s.Responser g' call) : False := by
    have := (h.inv.responser g' call hr).2.1
    rw [howner] at this
    exact hresponser (this ▸ hr)
  have hinv := h.inv.arrive hreq
  -- the call of the request is the only one of the puller
  have honly (c : Nat) (ho : s.owner c = g) (hc : c ≠ call) : s.requests c = none ∧ ¬s.Responser g c ∧
    s.responses c = none := by
    have hn : ¬s.Live g c := fun hl => hc (Option.some.inj (((h.live c).1 hl).symm.trans hw))
    rw [Live, not_and, not_or, not_or, not_not, not_not] at hn
    exact hn ho
  have hrespond : Whole g (State.respond { s with requests := Function.update s.requests call none } call none) := by
    refine ⟨hinv.error hlt (Function.update_self _ _ _) hnone fun g' hr => hother g' hr, h.tidy, ?_, fun c => ?_, h.list⟩
    · rw [underWay_respond (s := { s with requests := Function.update s.requests call none }) hnone,
        Option.getD_none, ite_self, List.append_nil, buffer_respond]
      exact h.log
    · show _ ↔ (s.puller g).waiting = some c
      rw [hw, Option.some.injEq, Live, responser_respond, responses_respond]
      by_cases hc : c = call
      · subst hc
        simp [State.respond, howner]
      · refine iff_of_false (fun hl => ?_) (Ne.symm hc)
        obtain ⟨h1, h2, h3⟩ := honly c hl.1 hc
        rw [if_neg hc] at hl
        rcases hl.2 with hl | hl | hl
        · exact hl ((Function.update_of_ne hc _ _).trans h1)
        · exact h2 hl
        · exact hl h3
  unfold State.cmdGsPull
  split
  · exact hrespond
  · rename_i item hitem
    split
    · exact hrespond
    · have hold : item.responser = none := by
        cases ho : item.responser with
        | none => rfl
        | some old =>
          have hr : s.Responser g old := ⟨item, hitem, ho⟩
          by_cases hc : old = call
          · exact (hother g (hc ▸ hr)).elim
          · exact absurd hr (honly old (h.inv.responser g old hr).2.1 hc).2.1
      have hb : s.buffer g = item.msgBuffer := by rw [buffer, show s.serverResponseHash g = some item from hitem]; rfl
      have hlog := h.buffer_some (show s.serverResponseHash g = some item from hitem)
      rw [hold]
      refine Whole.checkMsg (s := { s with requests := Function.update s.requests call none }) ?_ h.tidy
        (fun c => ?_) h.list hlog
      · refine hinv.setItem (fun i c hi hc => ?_) (hb ▸ h.inv.length_le g) (hb ▸ h.inv.log g)
        obtain rfl := Option.some.inj hi
        obtain rfl := Option.some.inj hc
        exact ⟨hlt, howner, hnone, Function.update_self _ _ _⟩
      · show _ ↔ (s.puller g).waiting = some c
        rw [hw, Option.some.injEq, Live, responser_setItem, if_pos rfl]
        by_cases hc : c = call
        · subst hc
          simp [State.setItem, howner]
        · refine iff_of_false (fun hl => ?_) (Ne.symm hc)
          obtain ⟨h1, _, h3⟩ := honly c hl.1 hc
          rcases hl.2 with hl | ⟨i, hi, hic⟩ | hl
          · exact hl ((Function.update_of_ne hc _ _).trans h1)
          · obtain rfl := Option.some.inj hi
            exact hc (Option.some.inj hic).symm
          · exact hl h3

/-- The server's puller makes a call. -/
theorem Whole.doPulling (h : Whole g s) (sign : Nat) (hfree : (s.puller g).waiting = none) (hlist : (s.puller g).list = []) :
    Whole g (s.doPulling g sign) := by
  have hres : s.responses s.nextCall = none := by
    by_contra hne
    exact Nat.lt_irrefl _ (h.inv.response _ hne)
  have hp : (s.doPulling g sign).puller g = { s.puller g with waiting := some s.nextCall } := Function.update_self _ _ _
  refine ⟨h.inv.doPulling sign hfree hlist, h.tidy, ?_, fun c => ?_, fun _ => by rw [hp]; exact hlist⟩
  · have hlog := h.log
    rw [underWay, hfree] at hlog
    rw [underWay, hp]
    show s.handled g ++ ((s.puller g).list ++ s.answer s.nextCall) ++ s.buffer g = s.sent g
    rwa [answer, hres]
  · rw [hp, Option.some.injEq]
    by_cases hc : c = s.nextCall
    · subst hc
      refine iff_of_true ⟨Function.update_self _ _ _, Or.inl ?_⟩ rfl
      show Function.update s.requests s.nextCall (some (g, sign)) s.nextCall ≠ none
      rw [Function.update_self]
      simp
    · refine iff_of_false (fun hl => ?_) (Ne.symm hc)
      have hlive : s.Live g c := by
        refine ⟨(Function.update_of_ne hc _ _).symm.trans hl.1, ?_⟩
        rcases hl.2 with hl | hl | hl
        · exact Or.inl fun e => hl ((Function.update_of_ne hc _ _).trans e)
        · exact Or.inr (Or.inl hl)
        · exact Or.inr (Or.inr hl)
      have := (h.live c).1 hlive
      rw [hfree] at this
      cases this

/-- The server's puller handles a message. -/
theorem Whole.handle (h : Whole g s) {msg : μ} {list : List μ} (hlist : (s.puller g).list = msg :: list) :
    Whole g (State.setPuller { s with handled := Function.update s.handled g (s.handled g ++ [msg]) } g
      { s.puller g with list }) := by
  have hwait : (s.puller g).waiting = none := by
    by_contra hne
    have := h.list hne
    rw [hlist] at this
    cases this
  have hp : Function.update s.puller g { s.puller g with list } g = { s.puller g with list } := Function.update_self _ _ _
  refine ⟨h.inv.handle hlist, h.tidy, ?_, fun c => ?_, fun hne => ?_⟩
  · have hlog := h.log
    rw [underWay, hlist, hwait] at hlog
    rw [underWay]
    show Function.update s.handled g (s.handled g ++ [msg]) g ++ ((Function.update s.puller g _ g).list ++
      (Function.update s.puller g _ g).waiting.elim [] s.answer) ++ s.buffer g = s.sent g
    rw [hp, Function.update_self, hwait]
    simpa using hlog
  · show _ ↔ (Function.update s.puller g _ g).waiting = some c
    rw [hp]
    exact h.live c
  · have hne' : (Function.update s.puller g { s.puller g with list } g).waiting ≠ none := hne
    rw [hp] at hne'
    exact absurd hwait hne'

/-- The answer that the server's puller waits for arrives. -/
theorem Whole.responseArrives (h : Whole g s) {call : Nat} {result : Option (List μ)} (hres : s.responses call = some result)
    (howner : s.owner call = g) : Whole g (s.receive call result) := by
  have hw : (s.puller g).waiting = some call := (h.live call).1 ⟨howner, Or.inr (Or.inr (by rw [hres]; simp))⟩
  have hw' : (s.puller (s.owner call)).waiting = some call := by rw [howner]; exact hw
  have hinv := h.inv.receive hres
  rw [receive_of_waiting hw', howner] at hinv ⊢
  have hp : Function.update s.puller g { s.puller g with waiting := none, list := result.getD [] } g =
      { s.puller g with waiting := none, list := result.getD [] } := Function.update_self _ _ _
  refine ⟨hinv, h.tidy, ?_, fun c => ?_, fun hne => ?_⟩
  · have hlog := h.log
    rw [underWay, hw, h.list (by rw [hw]; simp), Option.elim_some, answer, hres] at hlog
    rw [underWay]
    show s.handled g ++ ((Function.update s.puller g _ g).list ++ (Function.update s.puller g _ g).waiting.elim [] _) ++
      s.buffer g = s.sent g
    rw [hp]
    simpa using hlog
  · show _ ↔ (Function.update s.puller g _ g).waiting = some c
    rw [hp]
    refine iff_of_false (fun hl => ?_) (by simp)
    -- the call has been in one place only
    have hlive : s.Live g c := by
      refine ⟨hl.1, ?_⟩
      rcases hl.2 with hl | hl | hl
      · exact Or.inl hl
      · exact Or.inr (Or.inl hl)
      · refine Or.inr (Or.inr fun e => hl ?_)
        show Function.update s.responses call none c = none
        by_cases hc : c = call
        · exact hc ▸ Function.update_self _ _ _
        · exact (Function.update_of_ne hc _ _).trans e
    obtain rfl := Option.some.inj (((h.live c).1 hlive).symm.trans hw)
    rcases hl.2 with hl | hl | hl
    · cases hreq : s.requests c with
      | none => exact hl hreq
      | some r =>
        have := (h.inv.request c r.1 r.2 hreq).2.2.1
        rw [hres] at this
        cases this
    · have := (h.inv.responser g c hl).2.2
      rw [hres] at this
      cases this
    · exact hl (Function.update_self _ _ _)
  · have hne' : (Function.update s.puller g { s.puller g with waiting := none, list := result.getD [] } g).waiting ≠ none :=
      hne
    rw [hp] at hne'
    exact absurd rfl hne'

theorem same_requests {call : Nat} (hc : s.owner call ≠ g) :
    Same g s { s with requests := Function.update s.requests call none } :=
  ⟨rfl, rfl, rfl, rfl, fun _ => Iff.rfl, fun c h => Function.update_of_ne (fun e : c = call => hc (e ▸ h)) _ _,
    fun _ _ => rfl⟩

theorem same_responses {call : Nat} (hc : s.owner call ≠ g) :
    Same g s { s with responses := Function.update s.responses call none } :=
  ⟨rfl, rfl, rfl, rfl, fun _ => Iff.rfl, fun _ _ => rfl,
    fun c h => Function.update_of_ne (fun e : c = call => hc (e ▸ h)) _ _⟩

theorem same_receive {call : Nat} (hc : s.owner call ≠ g) (result : Option (List μ)) : Same g s (s.receive call result) := by
  by_cases hw : (s.puller (s.owner call)).waiting = some call
  · rw [receive_of_waiting hw]
    exact (same_responses hc).trans (same_setPuller hc _)
  · rw [receive_of_not_waiting hw]
    exact same_responses hc

/-- The puller of another server makes a call. -/
theorem Whole.doPullingOther (h : Whole g s) {g' : Nat} (hg : g' ≠ g) (sign : Nat) (hfree : (s.puller g').waiting = none)
    (hlist : (s.puller g').list = []) : Whole g (s.doPulling g' sign) := by
  have hp : (s.doPulling g' sign).puller g = s.puller g := Function.update_of_ne (Ne.symm hg) _ _
  refine ⟨h.inv.doPulling sign hfree hlist, h.tidy, ?_, fun c => ?_, by rw [hp]; exact h.list⟩
  · rw [underWay, hp]
    exact h.log
  · rw [hp, ← h.live c]
    by_cases hc : c = s.nextCall
    · subst hc
      refine iff_of_false (fun hl => hg ?_) fun hl => Nat.lt_irrefl s.nextCall (h.inv.waiting g _ ((h.live _).1 hl)).1
      rw [← hl.1]
      exact (Function.update_self s.nextCall g' s.owner).symm
    · unfold Live
      rw [show (s.doPulling g' sign).owner c = s.owner c from Function.update_of_ne hc _ _,
        show (s.doPulling g' sign).requests c = s.requests c from Function.update_of_ne hc _ _]
      rfl

/-- The puller gets another session. -/
theorem Whole.registerSuccess (h : Whole g s) (sign : Nat) (hi : Inv (s.cmdOnEventServerRegisterSuccess g sign))
    (ht : Tidy (s.cmdOnEventServerRegisterSuccess g sign)) : Whole g (s.cmdOnEventServerRegisterSuccess g sign) := by
  have hp : (s.cmdOnEventServerRegisterSuccess g sign).puller g = { s.puller g with sign := some sign } :=
    Function.update_self _ _ _
  refine ⟨hi, ht, ?_, fun c => ?_, ?_⟩
  · rw [underWay, hp]
    exact h.log
  · rw [hp]
    exact h.live c
  · rw [hp]
    exact h.list

end Operations

/-- Every label of a smooth run keeps the invariant. -/
theorem Whole.step {hello : μ} {g : Nat} (s : State μ) (l : Label μ) (s' : State μ) (h : Whole g s) (hsmooth : Smooth g s l)
    (hs : step hello s l = some s') : Whole g s' := by
  obtain ⟨hi, ht⟩ := Inv.step s l s' ⟨h.inv, h.tidy⟩ trivial hs
  cases l with
  | send serverIDList msg =>
    obtain rfl := Option.some.inj hs
    exact h.cmdSend msg serverIDList s hsmooth
  | connect serverID sign =>
    obtain rfl := Option.some.inj hs
    by_cases hg : serverID = g
    · subst hg
      exact h.connect hello sign (hsmooth rfl)
    · exact h.same ((same_logged hg hello).trans (same_setItem hg _)) hi ht
  | disconnect serverID =>
    obtain rfl := Option.some.inj hs
    exact h.same (same_setItem hsmooth _) hi ht
  | register serverID sign =>
    obtain rfl := Option.some.inj hs
    by_cases hg : serverID = g
    · subst hg
      exact h.registerSuccess sign hi ht
    · exact h.same (same_setPuller hg _) hi ht
  | pull serverID =>
    obtain ⟨sign, hfree, hlist, rfl⟩ := step_pull hs
    by_cases hg : serverID = g
    · subst hg
      exact h.doPulling sign hfree hlist
    · exact h.doPullingOther hg sign hfree hlist
  | handle serverID =>
    obtain ⟨msg, list, hlist, rfl⟩ := step_handle hs
    by_cases hg : serverID = g
    · subst hg
      exact h.handle hlist
    · refine h.same (Same.trans ?_ (same_setPuller (s := { s with
        handled := Function.update s.handled serverID (s.handled serverID ++ [msg]) }) hg _)) hi ht
      exact ⟨rfl, rfl, rfl, Function.update_of_ne (Ne.symm hg) _ _, fun _ => Iff.rfl, fun _ _ => rfl, fun _ _ => rfl⟩
  | handleFails serverID =>
    obtain ⟨_, rfl⟩ := step_handleFails hs
    exact h.same (same_setPuller hsmooth _) hi ht
  | requestArrives call =>
    obtain ⟨serverID, sign, hreq, rfl⟩ := step_requestArrives hs
    by_cases hg : serverID = g
    · subst hg
      exact h.requestArrives hreq
    · have ho := (h.inv.request call serverID sign hreq).2.1
      exact h.same ((same_requests (ho ▸ hg)).trans (same_cmdGsPull (h.inv.arrive hreq) hg ho)) hi ht
  | requestLost call =>
    obtain ⟨_, rfl⟩ := step_requestLost hs
    exact h.same (same_requests hsmooth) hi ht
  | responseArrives call =>
    obtain ⟨result, hres, rfl⟩ := step_responseArrives hs
    by_cases ho : s.owner call = g
    · exact h.responseArrives hres ho
    · exact h.same (same_receive ho result) hi ht
  | responseLost call =>
    obtain ⟨_, rfl⟩ := step_responseLost hs
    exact h.same (same_responses hsmooth) hi ht
  | callFails serverID =>
    obtain ⟨_, rfl⟩ := step_callFails hs
    exact h.same (same_setPuller hsmooth _) hi ht
  | restart serverID =>
    obtain rfl := Option.some.inj hs
    exact h.same (same_setPuller hsmooth _) hi ht

/-- After a run that is smooth for a server: what its puller has handled, what is on the way to it and what is in its buffer
are all the messages that were put into the buffer, in their order; and when the puller waits for a call that is not under
way, it has handled them all. -/
theorem nothing_is_lost (hello : μ) (g : Nat) (ls : List (Label μ)) (s : State μ)
    (hsmooth : Steps.Meets (step hello) (Smooth g) State.init ls) (h : Steps.exec (step hello) State.init ls = some s) :
    s.handled g ++ s.underWay g ++ s.buffer g = s.sent g ∧
      ∀ call, (s.puller g).waiting = some call → s.requests call = none → s.responses call = none →
        s.handled g = s.sent g := by
  have hw := Steps.exec_invariant Whole.step ls _ s (init_whole g) hsmooth h
  refine ⟨hw.log, fun call hcall hreq hres => ?_⟩
  have hr : s.Responser g call := by
    rcases ((hw.live call).2 hcall).2 with hl | hl | hl
    · exact absurd hreq hl
    · exact hl
    · exact absurd hres hl
  have hlog := hw.log
  rw [underWay, hcall, hw.list (by rw [hcall]; simp), Option.elim_some, answer, hres, hw.tidy g call hr] at hlog
  simpa using hlog

/-- Two servers; the second one fails, the first one gets all its messages. -/
theorem nothing_is_lost_two_servers :
    ∃ s, Steps.exec (step 0) (State.init : State Nat)
      [.connect 1 7, .connect 2 8, .register 1 7, .register 2 8, .pull 2, .pull 1, .send [1, 2] 5, .requestArrives 1,
        .restart 2, .responseArrives 1, .handle 1, .handle 1, .pull 1, .requestArrives 2, .send [1] 6, .responseArrives 2,
          .handle 1, .pull 1,
        .requestArrives 3] = some s ∧
      s.handled 1 = s.sent 1 ∧ s.sent 1 = [0, 5, 6] := by
  have hrun : (Steps.exec (step 0) (State.init : State Nat)
    [.connect 1 7, .connect 2 8, .register 1 7, .register 2 8, .pull 2, .pull 1, .send [1, 2] 5,
        .requestArrives 1, .restart 2, .responseArrives 1, .handle 1, .handle 1, .pull 1, .requestArrives 2, .send [1] 6,
          .responseArrives 2,
        .handle 1, .pull 1, .requestArrives 3]).map
          (fun s => ((s.puller 1).waiting, (s.requests 3).isNone, (s.responses 3).isNone, s.sent 1)) =
      some (some 3, true, true, [0, 5, 6]) := by decide
  obtain ⟨s, hs, he⟩ := Option.map_eq_some_iff.1 hrun
  simp only [Prod.mk.injEq] at he
  exact ⟨s, hs,
    (nothing_is_lost 0 1 _ s (by decide) hs).2 3 he.1 (Option.isNone_iff_eq_none.1 he.2.1)
    (Option.isNone_iff_eq_none.1 he.2.2.1), he.2.2.2⟩

end SasyServer.Relay
