import SasyServer.Lemmas.UserStays

/-!
# The calls of a handler fit what is going on

Each call of an insertion loads the data of one service, each call of a logout takes the user's status or the
data of one service away, and no other handler calls the data services. So what a handler still has to call says
what is loaded and what is not.
-/

namespace SasyServer.UserManager

section Turns

variable {h : Host} {s s' : Hosted} {u : Nat}

/-! ## The login server -/

/-- A logout from this game server ends with a status that does not name it. -/
theorem names_gsLogout {x : Session.Sui} (hx : names h x → matched h x) : names h (gsLogout h x) = false := by
  unfold gsLogout
  cases hst : x.userStatus <;> simp only [Session.loggedOutStatus]
  case usNull | usLs => simp [names, hst, Session.UserStatus.onGameServer]
  all_goals
    split
    · simp [names, Session.UserStatus.onGameServer]
    · rename_i hm
      exact Bool.eq_false_iff.2 fun hn => hm (hx hn)

/-- To go offline changes neither the server nor whether it is named. -/
theorem names_gsOffline (x : Session.Sui) :
    names h (gsOffline h x) = names h x ∧ matched h (gsOffline h x) = matched h x := by
  unfold gsOffline
  cases hst : x.userStatus <;> simp only [Session.offlineStatus]
  case usNull | usLs => exact ⟨trivial, trivial⟩
  all_goals
    split
    · simp [names, matched, hst, Session.UserStatus.onGameServer]
    · exact ⟨rfl, rfl⟩

/-- A login that succeeds names this server, with all its identities. -/
theorem names_gsLogin {x y : Session.Sui} (hx : names h x → matched h x) (hy : gsLogin h x = some y) :
    names h y ∧ matched h y := by
  have hkeep : ∀ st : Session.UserStatus, st.onGameServer → x.userStatus.onGameServer → x.serverID = h.serverID →
      names h { x with userStatus := st } ∧ matched h { x with userStatus := st } := by
    intro st hst hon hserver
    have hm := hx (by simp [names, hon, hserver])
    exact ⟨by simp [names, hst, hserver], hm⟩
  unfold gsLogin Session.loginUpdate at hy
  cases hst : x.userStatus with
  | usNull | usLs =>
    rw [hst] at hy
    cases hy
    simp [names, matched, Session.UserStatus.onGameServer]
  | usGs | usLsGs =>
    rw [hst] at hy
    simp only [Option.ite_none_right_eq_some, Option.some.injEq] at hy
    obtain ⟨hserver, rfl⟩ := hy
    exact hkeep x.userStatus (by rw [hst]; rfl) (by rw [hst]; rfl) hserver
  | usGsOffline | usLsGsOffline =>
    rw [hst] at hy
    simp only [Option.ite_none_right_eq_some, Option.some.injEq] at hy
    obtain ⟨hserver, rfl⟩ := hy
    exact hkeep _ rfl (by rw [hst]; rfl) hserver

/-- A message about a user changes the record of that user only. -/
theorem view_tell (s : Hosted) (u : Nat) (f : Session.Sui → Session.Sui) {w : Nat} (hw : w ≠ u) :
    view h (s.tell u f) w = view h s w := by
  simp only [view, Hosted.tell, Hosted.setLoginServer, Function.update_of_ne hw]

/-- After `gs_logout` the user is not named. -/
theorem named_tell_gsLogout (hm : ∀ u x, s.loginServer u = some x → names h x → matched h x) (u : Nat) :
    (view h (s.tell u (gsLogout h)) u).named = false := by
  simp only [view, Hosted.tell, Hosted.setLoginServer, Function.update_self]
  cases hx : s.loginServer u with
  | none => rfl
  | some x => exact names_gsLogout (hm u x hx)

/-- `gs_offline` does not change who is named. -/
theorem view_tell_gsOffline (s : Hosted) (u w : Nat) : view h (s.tell u (gsOffline h)) w = view h s w := by
  by_cases hw : w = u
  · subst hw
    simp only [view, Hosted.tell, Hosted.setLoginServer, Function.update_self]
    rw [View.mk.injEq]
    refine ⟨rfl, rfl, ?_⟩
    cases s.loginServer w with
    | none => rfl
    | some x => exact (names_gsOffline x).1
  · exact view_tell s u _ hw

/-- A change on the login server that keeps the identities of one record keeps those of all. -/
theorem matched_tell (hm : ∀ u x, s.loginServer u = some x → names h x → matched h x) (u : Nat)
    {f : Session.Sui → Session.Sui} (hf : ∀ x, s.loginServer u = some x → names h (f x) → matched h (f x)) :
    ∀ v x, (s.tell u f).loginServer v = some x → names h x → matched h x := by
  intro v x hx
  by_cases hv : v = u
  · subst hv
    simp only [Hosted.tell, Hosted.setLoginServer, Function.update_self, Option.map_eq_some_iff] at hx
    obtain ⟨y, hy, rfl⟩ := hx
    exact hf y hy
  · simp only [Hosted.tell, Hosted.setLoginServer, Function.update_of_ne hv] at hx
    exact hm v x hx

theorem matched_tell_gsLogout (hm : ∀ u x, s.loginServer u = some x → names h x → matched h x) (u : Nat) :
    ∀ v x, (s.tell u (gsLogout h)).loginServer v = some x → names h x → matched h x :=
  matched_tell hm u fun x hx hn => by
    rw [names_gsLogout (hm u x hx)] at hn
    cases hn

theorem matched_tell_gsOffline (hm : ∀ u x, s.loginServer u = some x → names h x → matched h x) (u : Nat) :
    ∀ v x, (s.tell u (gsOffline h)).loginServer v = some x → names h x → matched h x :=
  matched_tell hm u fun x hx hn => by
    rw [(names_gsOffline x).2]
    exact hm u x hx ((names_gsOffline x).1 ▸ hn)

/-! ## The calls of the handlers -/

/-- The handlers that have data loaded or released. -/
def Thread.callsData : Thread → Bool
  | .release _ _ => true
  | .insert _ _ => true
  | _ => false

/-- The other handlers only call `gs_offline`. -/
def Plain (s : Hosted) : Prop :=
  ∀ p ∈ s.manager.suspended.zip s.works, p.1.callsData = false → ∀ c ∈ p.2.calls, ∃ v, c = .gsOffline v

/-- Handlers that begin to wait have made the calls that belong to them. -/
theorem Plain.put (hp : Plain s) (haligned : s.manager.suspended.length = s.works.length) {m : State} (ts : List Thread)
    (hts : m.suspended = s.manager.suspended ++ ts) (b : Bool) : Plain (s.put m b) := by
  have hzip : (s.put m b).manager.suspended.zip (s.put m b).works =
      s.manager.suspended.zip s.works ++ ts.map fun t => (t, ⟨calls m t, b⟩) := zip_put haligned ts hts b
  intro p hmem hdata c hc
  rw [hzip, List.mem_append] at hmem
  rcases hmem with hmem | hmem
  · exact hp p hmem hdata c hc
  · obtain ⟨t, -, rfl⟩ := List.mem_map.1 hmem
    cases t with
    | offline u i tb c' => exact ⟨u, List.mem_singleton.1 hc⟩
    | release u i => cases hdata
    | insert u kick => cases hdata
    | _ => cases hc

/-- The calls of a handler are replaced. -/
theorem Plain.done (hp : Plain s) {k : Nat} {t : Thread} {w : Work} (ht : s.manager.suspended[k]? = some t)
    {rest : List Call} (hrest : t.callsData = false → ∀ c ∈ rest, ∃ v, c = .gsOffline v) :
    Plain (s.done k w rest) := by
  intro p hmem hdata
  simp only [Hosted.done, Waiting.zip_set s.works ht] at hmem
  rcases List.mem_or_eq_of_mem_set hmem with hmem | rfl
  · exact hp p hmem hdata
  · exact hrest hdata

/-- A call is done: the handler has the others still before it. -/
theorem acts_done (haligned : s.manager.suspended.length = s.works.length) {k : Nat} {t : Thread} {w : Work}
    (hp : (s.manager.suspended.zip s.works)[k]? = some (t, w)) (rest : List Call) :
    (s.done k w rest).manager.suspended.length = (s.done k w rest).works.length ∧
    (acts (s.done k w rest)).Perm ((threadAct (t, { w with calls := rest })).toList ++ acts (s.erase k)) := by
  refine ⟨by simp only [Hosted.done, List.length_set, haligned], ?_⟩
  have ht : s.manager.suspended[k]? = some t := (List.getElem?_zip_eq_some.1 hp).1
  simp only [acts, Hosted.done, Hosted.erase, Waiting.zip_eraseIdx, Waiting.zip_set s.works ht, ← List.append_assoc]
  refine List.Perm.append_right _ ?_
  refine ((Waiting.perm_cons_set hp _).filterMap threadAct).trans ?_
  rw [List.filterMap_cons]
  cases threadAct (t, { w with calls := rest }) <;> exact List.Perm.refl _

/-- The `k`-th handler that waits, with its work. -/
theorem exists_thread (haligned : s.manager.suspended.length = s.works.length) {k : Nat} {w : Work}
    (hw : s.works[k]? = some w) :
    ∃ t, (s.manager.suspended.zip s.works)[k]? = some (t, w) := by
  have hlt : k < s.manager.suspended.length := by
    rw [haligned]
    exact (List.getElem?_eq_some_iff.1 hw).1
  exact ⟨s.manager.suspended[k], List.getElem?_zip_eq_some.2 ⟨List.getElem?_eq_getElem hlt, hw⟩⟩

theorem exists_work (haligned : s.manager.suspended.length = s.works.length) {k : Nat} {t : Thread}
    (ht : s.manager.suspended[k]? = some t) : ∃ w, (s.manager.suspended.zip s.works)[k]? = some (t, w) := by
  have hlt : k < s.works.length := by
    rw [← haligned]
    exact (List.getElem?_eq_some_iff.1 ht).1
  exact ⟨s.works[k], List.getElem?_zip_eq_some.2 ⟨ht, List.getElem?_eq_getElem hlt⟩⟩

/-- A handler of an insertion or of a release has its next call done, which has made `s` to `r`. -/
theorem Stays.called (hi : Stays h s) {k : Nat} {t : Thread} {w : Work} {a b : Act} {rest : List Call}
    (hp : (s.manager.suspended.zip s.works)[k]? = some (t, w)) (ha : threadAct (t, w) = some (u, a))
    (hb : threadAct (t, { w with calls := rest }) = some (u, b)) (r : Hosted)
    (hr : r.manager = s.manager ∧ r.works = s.works ∧ r.logins = s.logins)
    (hmatched : ∀ u x, r.loginServer u = some x → names h x → UserManager.matched h x)
    (hview : ∀ w, w ≠ u → view h r w = view h s w) (hfit : Suits (h.android u) u b (view h r u)) :
    Stays h (r.done k w rest) := by
  obtain ⟨-, hold⟩ := acts_erase hi.aligned hp
  obtain ⟨haligned, hnew⟩ := acts_done hi.aligned hp rest
  have hacts : acts (r.done k w rest) = acts (s.done k w rest) := by
    simp only [acts, Hosted.done, hr.1, hr.2.1, hr.2.2]
  rw [ha] at hold
  rw [hb] at hnew
  refine hi.turn (u := u) (some a) (some b) ?_ hmatched hold (hacts ▸ hnew) (by simp) hview hfit
  simpa only [Hosted.done, hr.1, hr.2.1] using haligned

/-- The call of a handler about which nothing else is known. -/
theorem Stays.offline (hi : Stays h s) {k : Nat} {t : Thread} {w : Work} {rest : List Call} {ok : Bool} {v : Nat}
    (hp : (s.manager.suspended.zip s.works)[k]? = some (t, w))
    (ht : threadAct (t, { w with calls := rest }) = threadAct (t, w))
    (hs : s.perform h k w rest ok (.gsOffline v) = some s') : Stays h s' := by
  obtain ⟨-, hold⟩ := acts_erase hi.aligned hp
  obtain ⟨haligned, hnew⟩ := acts_done hi.aligned hp rest
  rw [ht] at hnew
  have hacts := hnew.trans hold.symm
  simp only [Hosted.perform, Option.some.injEq] at hs
  subst hs
  cases ok with
  | true => exact hi.same haligned (matched_tell_gsOffline hi.matched v) hacts fun w => view_tell_gsOffline s v w
  | false => exact hi.same haligned hi.matched hacts fun _ => rfl

theorem view_setData (s : Hosted) (c : DataService) (u : Nat) (b : Bool) {w : Nat} (hw : w ≠ u) :
    view h (s.setData c u b) w = view h s w := by
  simp only [view, Hosted.setData, hw, and_false, if_false]

/-- The next call of a handler. -/
theorem Stays.perform (hi : Stays h s) (hpl : Plain s) (hk : Kinds h.android s.manager) {k : Nat} {w : Work} {c : Call}
    {rest : List Call} (hw : s.works[k]? = some w) (hc : w.calls = c :: rest) {ok : Bool}
    (hok : (∃ v, c = .gsOffline v) ∨ ok = true) (hs : s.perform h k w rest ok c = some s') :
    Stays h s' := by
  obtain ⟨t, hp⟩ := exists_thread hi.aligned hw
  have hmem := List.mem_of_getElem? hp
  have hplain : t.callsData = false → ∃ v, c = .gsOffline v := fun ht => hpl _ hmem ht c (by simp [hc])
  have hfit : ∀ {u a}, threadAct (t, w) = some (u, a) → Suits (h.android u) u a (view h s u) := fun ha =>
    hi.suits _ (List.mem_append_left _ (List.mem_filterMap.2 ⟨_, hmem, ha⟩))
  have hcall : c ∈ w.calls := by simp [hc]
  cases t with
  | insert u kick =>
    have hins := hfit (u := u) rfl
    rw [hc] at hins
    obtain ⟨i, hitem, hall, hnodup, hdata, hnamed⟩ := hins
    have hrest : ∀ c ∈ rest, ∃ service, c = .loadItem service i ∨ c = .load service u :=
      fun c hc => hall c (List.mem_cons_of_mem _ hc)
    obtain ⟨service, rfl | rfl⟩ := hall c (List.mem_cons_self ..)
    · -- the record is still that of the user
      simp only [Hosted.perform, Option.map_eq_some_iff] at hs
      obtain ⟨x, hx, rfl⟩ := hs
      obtain ⟨x', hx', hxu, -⟩ := hk.hash u i hitem
      rw [hx, Option.some.injEq] at hx'
      subst hx'
      refine hi.called hp rfl rfl s ⟨rfl, rfl, rfl⟩ hi.matched (fun _ _ => rfl) ⟨i, hitem, ?_, hnodup, hdata, hnamed⟩
      intro c hc
      rcases List.mem_cons.1 hc with rfl | hc
      · exact ⟨service, Or.inr (by rw [hxu])⟩
      · exact hrest c hc
    · obtain rfl : ok = true := by simpa using hok
      simp only [Hosted.perform, if_true, Option.some.injEq] at hs
      subst hs
      obtain ⟨hnot, hnodup⟩ := List.nodup_cons.1 (show (service :: rest.filterMap Call.loads).Nodup from hnodup)
      refine hi.called hp rfl rfl (s.setData service u true) ⟨rfl, rfl, rfl⟩ hi.matched
        (fun w hw => view_setData s service u true hw)
        ⟨i, hitem, hrest, hnodup, ?_, hnamed⟩
      intro c
      by_cases hcs : c = service
      · subst hcs
        simp [view, Hosted.setData, hnot]
      · have := hdata c
        simpa [view, Hosted.setData, hcs, Call.loads] using this
  | release u i =>
    have hrel := hfit (u := u) rfl
    rw [hc] at hrel
    obtain ⟨hitem, hnodup, hall, hdata, hnamed⟩ := hrel
    obtain ⟨hnot, hnodup'⟩ := List.nodup_cons.1 hnodup
    have hrest : ∀ c ∈ rest, c = .gsLogout u ∨ ∃ service, c = .release service u :=
      fun c hc => hall c (List.mem_cons_of_mem _ hc)
    obtain rfl | ⟨service, rfl⟩ := hall c (List.mem_cons_self ..)
    · obtain rfl : ok = true := by simpa using hok
      simp only [Hosted.perform, if_true, Option.some.injEq] at hs
      subst hs
      refine hi.called hp rfl rfl (s.tell u (gsLogout h)) ⟨rfl, rfl, rfl⟩ (matched_tell_gsLogout hi.matched u)
        (fun w hw => view_tell s u _ hw) ⟨hitem, hnodup', hrest, ?_, ?_⟩
      · intro c
        exact (hdata c).trans (by simp)
      · rw [named_tell_gsLogout hi.matched u]
        exact (decide_eq_false hnot).symm
    · obtain rfl : ok = true := by simpa using hok
      simp only [Hosted.perform, if_true, Option.some.injEq] at hs
      subst hs
      refine hi.called hp rfl rfl (s.setData service u false) ⟨rfl, rfl, rfl⟩ hi.matched
        (fun w hw => view_setData s service u false hw)
        ⟨hitem, hnodup', hrest, ?_, by simpa [view, Hosted.setData] using hnamed⟩
      intro c
      by_cases hcs : c = service
      · subst hcs
        simp [view, Hosted.setData, hnot]
      · have := hdata c
        simpa [view, Hosted.setData, hcs] using this
  | _ =>
    obtain ⟨v, rfl⟩ := hplain rfl
    exact hi.offline hp (show threadAct (_, { w with calls := rest }) = _ from rfl) hs

/-- The next call of a handler leaves the other handlers to theirs. -/
theorem Plain.perform (hpl : Plain s) (haligned : s.manager.suspended.length = s.works.length) {k : Nat}
    {w : Work} {c : Call} {rest : List Call} (hw : s.works[k]? = some w) (hc : w.calls = c :: rest) {ok : Bool}
    (hs : s.perform h k w rest ok c = some s') :
    Plain s' := by
  obtain ⟨t, hp⟩ := exists_thread haligned hw
  have ht := (List.getElem?_zip_eq_some.1 hp).1
  have hall : t.callsData = false → ∀ c' ∈ c :: rest, ∃ v, c' = .gsOffline v := fun hd c' hc' =>
    hpl _ (List.mem_of_getElem? hp) hd c' (hc ▸ hc')
  have hrest : ∀ r : Hosted, r.manager = s.manager → r.works = s.works → Plain (r.done k w rest) := by
    intro r hm hr
    refine Plain.done (s := r) ?_ (hm ▸ ht) fun hd c' hc' => hall hd c' (List.mem_cons_of_mem _ hc')
    intro p
    rw [hm, hr]
    exact hpl p
  cases c with
  | loadItem service i =>
    simp only [Hosted.perform, Option.map_eq_some_iff] at hs
    obtain ⟨x, -, rfl⟩ := hs
    refine hpl.done ht fun hd => ?_
    obtain ⟨v, hv⟩ := hall hd _ (List.mem_cons_self ..)
    cases hv
  | load service u =>
    simp only [Hosted.perform] at hs
    split at hs
    · cases hs
      exact hrest _ rfl rfl
    · split at hs
      · cases hs
        exact hrest _ rfl rfl
      · cases hs
  | release service u =>
    simp only [Hosted.perform, Option.ite_none_right_eq_some, Option.some.injEq] at hs
    obtain ⟨-, rfl⟩ := hs
    exact hrest _ rfl rfl
  | gsLogout u =>
    simp only [Hosted.perform, Option.some.injEq] at hs
    subst hs
    split <;> exact hrest _ rfl rfl
  | gsOffline u =>
    simp only [Hosted.perform, Option.some.injEq] at hs
    subst hs
    split <;> exact hrest _ rfl rfl

end Turns

end SasyServer.UserManager
