import SasyServer.Lemmas.UserCalls

/-!
# Theorem: data and status go with the user, as long as one thing at a time is going on about each user

A logout first takes the user out of `_userItemHash`, and then, call by call, tells the login server and releases the data,
all by `userID`. A login that comes in the meantime finds the user gone but the status still naming this server, makes a new
record and loads the same data.
-/

namespace SasyServer.UserManager

variable {h : Host} {s s' : Hosted}

/-- The invariant of the game server with its data services. -/
structure Present (h : Host) (s : Hosted) : Prop where
  records : Records [] s.manager
  kinds : Kinds h.android s.manager
  plain : Plain s
  stays : Stays h s

theorem present_init (h : Host) : Present h .init :=
  ⟨records_init, kinds_init _, by simp [Plain, Hosted.init, State.init], stays_init h⟩

/-! ## The manager -/

/-- The handlers that still wait after the label is taken. -/
def Hosted.waked (s : Hosted) (l : Label) : Hosted := { s with manager := s.manager.waked l, works := leftover s.works l }

/-- A login whose handler goes on finds its user there. -/
theorem Stays.returned (hi : Stays h s) (l : Label) : s.returned l = none := by
  cases l with
  | resume k ok tableFound =>
    unfold Hosted.returned
    dsimp only
    split
    · rename_i u kick w ht hw
      rw [if_neg]
      rintro ⟨-, hnone⟩
      have hp : (s.manager.suspended.zip s.works)[k]? = some (.insert u kick, w) := List.getElem?_zip_eq_some.2 ⟨ht, hw⟩
      have hfit := hi.suits (u, .insert w.calls)
        (List.mem_append_left _ (List.mem_filterMap.2 ⟨_, List.mem_of_getElem? hp, rfl⟩))
      obtain ⟨i, hitem, -⟩ := hfit
      have hsome : s.manager.userItem u = some i := hitem
      rw [hnone] at hsome
      cases hsome
    · rfl
  | _ => rfl

/-- What is going on after a label is taken was going on before. -/
theorem busy_waked {l : Label} {u : Nat} (hu : busy s u = false) : busy (s.waked l) u = false := by
  rw [busy_eq_false] at hu ⊢
  intro a ha
  refine hu a ?_
  simp only [acts, Hosted.waked, State.waked, leftover_zip] at ha
  simp only [acts, List.mem_append] at ha ⊢
  exact ha.imp_left fun ha => ((leftover_sublist _ l).filterMap _).subset ha

/-- A label is taken whose handler, if it has waited, has made its calls, and is not a logout. -/
theorem Stays.waked (hi : Stays h s) {l : Label}
    (hover : ∀ k, (∃ ok tableFound, l = .resume k ok tableFound) ∨ l = .abort k →
      ∀ p, (s.manager.suspended.zip s.works)[k]? = some p → finished p) {m : State}
        (hm : step h.config s.manager l = some m) :
    Stays h (s.waked l) := by
  cases l with
  | resume k ok tableFound =>
    simp only [step, Option.map_eq_some_iff] at hm
    obtain ⟨t, ht, -⟩ := hm
    obtain ⟨w, hp⟩ := exists_work hi.aligned ht
    exact hi.erase hp (hover k (Or.inl ⟨ok, tableFound, rfl⟩) _ hp)
  | abort k =>
    simp only [step, Option.map_eq_some_iff] at hm
    obtain ⟨t, ht, -⟩ := hm
    obtain ⟨w, hp⟩ := exists_work hi.aligned ht
    exact hi.erase hp (hover k (Or.inr rfl) _ hp)
  | _ => exact hi

theorem aligned_waked (haligned : s.manager.suspended.length = s.works.length) (l : Label) :
    (s.waked l).manager.suspended.length = (s.waked l).works.length := length_leftover haligned l

theorem Plain.waked (hp : Plain s) (l : Label) : Plain (s.waked l) := by
  intro p hmem
  simp only [Hosted.waked, State.waked, leftover_zip] at hmem
  exact hp p ((leftover_sublist _ l).subset hmem)

/-- A handler that goes on and is not a logout has made its calls. -/
theorem finished_of_ready {k : Nat} {ok tableFound : Bool} (hready : s.ready (.resume k ok tableFound))
    (hnot : ∀ u i, s.manager.suspended[k]? ≠ some (.logout u i)) {p : Thread × Work}
    (hp : (s.manager.suspended.zip s.works)[k]? = some p) : finished p := by
  obtain ⟨t, w⟩ := p
  obtain ⟨ht, hw⟩ := List.getElem?_zip_eq_some.1 hp
  have hcalls : w.calls = [] := by simpa [Hosted.ready, hw] using hready
  cases t with
  | logout u i => exact absurd ht (hnot u i)
  | release u i => simpa [finished, threadAct] using hcalls
  | insert u kick => simpa [finished, threadAct] using hcalls
  | _ => rfl

/-- A handler of the manager, under the condition. -/
theorem Present.stays_serve (hi : Present h s) {l : Label} (hready : s.ready l) (hc : alone s (.manager l))
    (hins : ∀ userInfo least, l = .insertUserItem userInfo least → userInfo.isAndroid = true ∧
    h.android userInfo.userID = true)
    {m : State} (hm : step h.config s.manager l = some m) : Stays h ((s.waked l).put m false) := by
  simp only [alone, Bool.and_eq_true] at hc
  obtain ⟨hleaves, hc⟩ := hc
  by_cases hlogout : ∃ k ok tableFound u i, l = .resume k ok tableFound ∧ s.manager.suspended[k]? = some (.logout u i)
  · obtain ⟨k, ok, tableFound, u, i, rfl, ht⟩ := hlogout
    obtain rfl : ok = true := by simpa [ht] using hc
    obtain ⟨w, hp⟩ := exists_work hi.stays.aligned ht
    have hlog := hi.stays.logout hp (hi.kinds.logout u i (List.mem_of_getElem? ht)) false
    simp only [step, ht, Option.map_some, Option.some.injEq] at hm
    subst hm
    exact hlog
  · have hnot : ∀ k ok tableFound, l = .resume k ok tableFound → ∀ u i, s.manager.suspended[k]? ≠ some (.logout u i) :=
      fun k ok tableFound hl u i ht => hlogout ⟨k, ok, tableFound, u, i, hl, ht⟩
    have hwaked : Stays h (s.waked l) := by
      refine hi.stays.waked ?_ hm
      rintro k (⟨ok, tableFound, rfl⟩ | rfl) p hp
      · exact finished_of_ready hready (hnot k ok tableFound rfl) hp
      · simpa [hp] using hc
    cases turn_step l hm with
    | turns ht =>
      refine hwaked.turns ht (fun u hu => busy_waked ?_) false
      simpa [hu] using hleaves
    | logout k tableFound u i hl ht hm => exact absurd ht (hnot k true tableFound hl u i)
    | release k ok tableFound u i hl ht hm =>
      subst hm
      refine hwaked.calm ?_ ⟨[], ?_, by simp⟩ false
      · rfl
      · simp [Hosted.waked, State.setItem]
    | insert userInfo least kick hl hnew hm =>
      subst hm hl
      obtain ⟨-, hand⟩ := hins userInfo least rfl
      have hfree : busy s userInfo.userID = false := by simpa using hc
      obtain ⟨hdata, hnamed⟩ := hi.stays.settled userInfo.userID hfree
      have hitem : (view h s userInfo.userID).item = none := hnew
      rw [hitem] at hdata hnamed
      refine hi.stays.insertNew kick hnew none s.logins (List.Perm.refl _) (fun _ => hfree) hdata ?_ false
      rw [hnamed, hand]
      rfl

/-- Who has been told that a user is not there does not matter here. -/
theorem Stays.notices (hi : Stays h s) (notices : List Nat) : Stays h { s with notices := notices } :=
  ⟨hi.aligned, hi.matched, hi.nodup, hi.suits, hi.settled⟩

/-- A handler that makes no calls of the login server itself, or only `gs_offline`. -/
theorem Present.serve (hi : Present h s) {l : Label} (hready : s.ready l) (hc : alone s (.manager l))
    (hins : ∀ userInfo least, l = .insertUserItem userInfo least → userInfo.isAndroid = true ∧
    h.android userInfo.userID = true)
    (hs : s.serve h l = some s') : Present h s' := by
  simp only [Hosted.serve, hi.stays.returned, Option.toList_none, List.append_nil, Option.map_eq_some_iff] at hs
  obtain ⟨m, hm, rfl⟩ := hs
  refine ⟨hi.records.step l hm, ?_, ?_, (hi.stays_serve hready hc hins hm).notices _⟩
  · refine hi.kinds.step hi.records l hm fun userInfo least hl => ?_
    obtain ⟨h1, h2⟩ := hins userInfo least hl
    rw [h1, h2]
  · obtain ⟨ts, hts, -⟩ := suspended_step l hm
    exact (hi.plain.waked l).put (aligned_waked hi.stays.aligned l) ts hts false

/-! ## The login server -/

/-- A message about a user who is not there and about whom nothing is going on finds nothing to change. -/
theorem Stays.notify (hi : Stays h s) {u : Nat} (hfree : busy s u = false) (hnone : s.manager.userItem u = none) :
    Stays h (s.tell u (gsLogout h)) := by
  refine hi.same hi.aligned (matched_tell_gsLogout hi.matched u) (List.Perm.refl _) fun w => ?_
  by_cases hw : w = u
  · subst hw
    obtain ⟨-, hnamed⟩ := hi.settled w hfree
    rw [show (view h s w).item = none from hnone] at hnamed
    rw [View.mk.injEq]
    exact ⟨rfl, rfl, (named_tell_gsLogout hi.matched w).trans hnamed.symm⟩
  · exact view_tell s u _ hw

/-- A change on the login server that is not of the game server's making. -/
theorem Stays.setLoginServer (hi : Stays h s) {u : Nat} {x : Option Session.Sui}
    (hx : x.any (names h) = (s.loginServer u).any (names h))
    (hm : ∀ y, x = some y → names h y = false ∨ UserManager.matched h y) : Stays h (s.setLoginServer u x) := by
  refine hi.same hi.aligned ?_ (List.Perm.refl _) fun w => ?_
  · intro v y hy hn
    by_cases hv : v = u
    · subst hv
      simp only [Hosted.setLoginServer, Function.update_self] at hy
      exact (hm y hy).resolve_left (by rw [hn]; simp)
    · simp only [Hosted.setLoginServer, Function.update_of_ne hv] at hy
      exact hi.matched v y hy hn
  · by_cases hw : w = u
    · subst hw
      simp only [view, Hosted.setLoginServer, Function.update_self, hx]
    · simp only [view, Hosted.setLoginServer, Function.update_of_ne hw]

/-! ## The logins -/

/-- One of the logins and what is going on besides it. -/
theorem acts_logins {k : Nat} {x : Login} (hx : s.logins[k]? = some x) :
    (acts s).Perm ((loginAct x).toList ++ acts { s with logins := s.logins.eraseIdx k }) := by
  have hold := (Waiting.perm_cons_eraseIdx hx).filterMap loginAct
  rw [List.filterMap_cons] at hold
  refine (hold.append_left ((s.manager.suspended.zip s.works).filterMap threadAct)).trans ?_
  cases loginAct x with
  | none => exact List.Perm.refl _
  | some p => exact List.perm_middle

/-- One of the logins goes on. -/
theorem acts_logins_set {k : Nat} {x : Login} (hx : s.logins[k]? = some x) (y : Login) :
    (acts { s with logins := s.logins.set k y }).Perm
      ((loginAct y).toList ++ acts { s with logins := s.logins.eraseIdx k }) := by
  have hnew := (Waiting.perm_cons_set hx y).filterMap loginAct
  rw [List.filterMap_cons] at hnew
  refine (hnew.append_left ((s.manager.suspended.zip s.works).filterMap threadAct)).trans ?_
  cases loginAct y with
  | none => exact List.Perm.refl _
  | some p => exact List.perm_middle

/-- What is going on in a login fits. -/
theorem Stays.suits_login (hi : Stays h s) {k : Nat} {x : Login} {u : Nat} {a : Act} (hx : s.logins[k]? = some x)
    (ha : loginAct x = some (u, a)) : Suits (h.android u) u a (view h s u) :=
  hi.suits (u, a) (List.mem_append_right _ (List.mem_filterMap.2 ⟨x, List.mem_of_getElem? hx, ha⟩))

/-- A login goes on with its next call. -/
theorem Stays.login (hi : Stays h s) {k : Nat} {x y : Login} {u : Nat} {a : Act} (hx : s.logins[k]? = some x)
    (ha : loginAct x = some (u, a)) (new : Option Act) (hy : (loginAct y).toList = new.toList.map (Prod.mk u))
    (hfit : new.elim (Settled (h.android u) (view h s u)) fun b => Suits (h.android u) u b (view h s u)) :
    Stays h { s with logins := s.logins.set k y } := by
  have hold := acts_logins hx
  have hnew := acts_logins_set hx y
  rw [ha] at hold
  rw [hy] at hnew
  exact hi.turn (u := u) (some a) new hi.aligned hi.matched hold hnew (by simp) (fun _ _ => rfl) hfit

/-- `gs_login` has succeeded. -/
theorem Stays.gsLogin (hi : Stays h s) {u : Nat} {x y : Session.Sui} (hand : h.android u = false) (hfree : busy s u = false)
    (hx : s.loginServer u = some x) (hy : gsLogin h x = some y) :
    Stays h { s.setLoginServer u (some y) with logins := s.logins ++ [.getUserItem u] } := by
  obtain ⟨hdata, -⟩ := hi.settled u hfree
  obtain ⟨hnamed, hmatched⟩ := names_gsLogin (hi.matched u x hx) hy
  refine hi.turn none (some .getUserItem) hi.aligned ?_ (List.Perm.refl _) ?_ (fun _ => hfree) ?_ ⟨hand, hdata, ?_⟩
  · intro v z hz hn
    by_cases hv : v = u
    · subst hv
      simp only [Hosted.setLoginServer, Function.update_self, Option.some.injEq] at hz
      exact hz ▸ hmatched
    · simp only [Hosted.setLoginServer, Function.update_of_ne hv] at hz
      exact hi.matched v z hz hn
  · simp only [acts, Hosted.setLoginServer, List.filterMap_append, ← List.append_assoc]
    exact List.perm_append_comm
  · intro w hw
    simp only [view, Hosted.setLoginServer, Function.update_of_ne hw]
  · simp only [view, Hosted.setLoginServer, Function.update_self, Option.any_some, hnamed]

/-- A login of a user who was not inserted takes back what it has told the login server. -/
theorem Stays.gsLogout (hi : Stays h s) {k u : Nat} (hx : s.logins[k]? = some (.gsLogout u)) :
    Stays h { s.tell u (UserManager.gsLogout h) with logins := s.logins.eraseIdx k } := by
  obtain ⟨hand, hitem, hdata, -⟩ := hi.suits_login hx rfl
  refine hi.turn (u := u) (some .gsLogout) none hi.aligned (matched_tell_gsLogout hi.matched u) (acts_logins hx)
    (List.Perm.refl _) (by simp)
    (fun w hw => view_tell s u _ hw) ⟨?_, ?_⟩
  · intro c
    exact (hdata c).trans (congrArg Option.isSome hitem).symm
  · exact (named_tell_gsLogout hi.matched u).trans (by
      rw [show (view h { s.tell u (UserManager.gsLogout h) with logins := s.logins.eraseIdx k } u).item = none from hitem]
      rfl)

/-- A login that finds its user there has no more to do. -/
theorem Stays.switchUserItem (hi : Stays h s) {k u : Nat} (hx : s.logins[k]? = some (.switchUserItem u)) (agent : Nat)
    (deskCount : Int) :
    Stays h
      ({ s with logins := s.logins.eraseIdx k }.put (UserManager.switchUserItem s.manager u agent deskCount) false) := by
  have hcalm := calm_switchUserItem s.manager u agent deskCount
  have hrest : Stays h { s with logins := s.logins.eraseIdx k } :=
    hi.same hi.aligned hi.matched (acts_logins hx).symm fun _ => rfl
  exact hrest.calm hcalm.hash hcalm.suspended false

/-- The login goes on: the record of the user is switched. -/
theorem Present.switchUserItem (hi : Present h s) {k u : Nat} (hx : s.logins[k]? = some (.switchUserItem u)) (agent : Nat)
    (deskCount : Int) :
    Present h ({ s with logins := s.logins.eraseIdx k }.put
      (UserManager.switchUserItem s.manager u agent deskCount) false) := by
  have hstep : step h.config s.manager (.switchUserItem u agent deskCount) =
    some (UserManager.switchUserItem s.manager u agent deskCount) := rfl
  obtain ⟨ts, hts, -⟩ := suspended_step (.switchUserItem u agent deskCount) hstep
  exact ⟨hi.records.step _ hstep, hi.kinds.step hi.records _ hstep (by simp),
    Plain.put (s := { s with logins := s.logins.eraseIdx k }) hi.plain hi.stays.aligned ts hts false,
      hi.stays.switchUserItem hx agent deskCount⟩

/-- A login asks the manager to insert its user. -/
theorem Present.insertUserItem (hi : Present h s) {k leastUserID : Nat} {userInfo : Sui}
    (hx : s.logins[k]? = some (.insertUserItem userInfo.userID)) (hand : userInfo.isAndroid = false) {m : State}
    (hm : insertUserItem h.config s.manager userInfo leastUserID = some m) :
    Present h (if m.userItem userInfo.userID = none then { s with logins := s.logins.set k (.gsLogout userInfo.userID) }
      else { s with logins := s.logins.eraseIdx k }.put m true) := by
  obtain ⟨hplayer, hitem, hdata, hnamed⟩ := hi.stays.suits_login hx rfl
  have hstep : step h.config s.manager (.insertUserItem userInfo leastUserID) = some m := hm
  split
  · exact ⟨hi.records, hi.kinds, hi.plain, hi.stays.login hx rfl (some .gsLogout) rfl ⟨hplayer, hitem, hdata, hnamed⟩⟩
  · rename_i hin
    obtain ⟨ts, hts, -⟩ := suspended_step (.insertUserItem userInfo leastUserID) hstep
    refine ⟨hi.records.step _ hstep, hi.kinds.step hi.records _ hstep ?_,
      Plain.put (s := { s with logins := s.logins.eraseIdx k }) hi.plain hi.stays.aligned ts hts true, ?_⟩
    · intro userInfo' least hl
      cases hl
      rw [hand, hplayer]
    · obtain rfl | ⟨hnew, kick, rfl⟩ := insertUserItem_new hm
      · exact absurd hitem hin
      · refine hi.stays.insertNew kick hnew (some .insertUserItem) (s.logins.eraseIdx k) (acts_logins hx)
          (by simp) hdata ?_ true
        rw [hnamed, hplayer]
        rfl

/-! ## One step -/

/-- A handler of the user manager. -/
theorem Present.manager (hi : Present h s) {l : Label} (hc : alone s (.manager l))
    (hs : hostedStep h s (.manager l) = some s') :
    Present h s' := by
  cases l with
  | insertUserItem userInfo least =>
    simp only [hostedStep, Option.ite_none_right_eq_some] at hs
    refine hi.serve rfl hc ?_ hs.2
    intro userInfo' least' hl
    cases hl
    exact hs.1
  | _ =>
    simp only [hostedStep, Option.ite_none_right_eq_some] at hs
    exact hi.serve hs.1 hc (by simp) hs.2

/-- The condition on a call that a handler makes. -/
theorem Present.call (hi : Present h s) {k : Nat} {ok : Bool} (hc : alone s (.call k ok))
    (hs : hostedStep h s (.call k ok) = some s') :
    Present h s' := by
  simp only [hostedStep, Option.bind_eq_some_iff] at hs
  obtain ⟨w, hw, hs⟩ := hs
  cases hcalls : w.calls with
  | nil =>
    rw [hcalls] at hs
    cases hs
  | cons c rest =>
    rw [hcalls] at hs
    have hok : (∃ v, c = .gsOffline v) ∨ ok = true := by
      simp only [alone, hw, Option.all_some, hcalls] at hc
      cases c with
      | gsOffline v => exact Or.inl ⟨v, rfl⟩
      | _ => exact Or.inr hc
    have hmanager : s'.manager = s.manager := by
      cases c with
      | loadItem service i =>
        simp only [Hosted.perform, Option.map_eq_some_iff] at hs
        obtain ⟨x, -, rfl⟩ := hs
        rfl
      | load service u =>
        simp only [Hosted.perform] at hs
        split at hs
        · cases hs
          rfl
        · split at hs
          · cases hs
            rfl
          · cases hs
      | release service u =>
        simp only [Hosted.perform, Option.ite_none_right_eq_some, Option.some.injEq] at hs
        rw [← hs.2]
        rfl
      | gsLogout u | gsOffline u =>
        simp only [Hosted.perform, Option.some.injEq] at hs
        rw [← hs]
        split <;> rfl
    exact ⟨hmanager ▸ hi.records, hmanager ▸ hi.kinds, hi.plain.perform hi.stays.aligned hw hcalls hs,
      hi.stays.perform hi.plain hi.kinds hw hcalls hok hs⟩

/-- One label. -/
theorem Present.step (hi : Present h s) {l : HostedLabel} (hc : alone s l)
    (hs : hostedStep h s l = some s') : Present h s' := by
  cases l with
  | manager l => exact hi.manager hc hs
  | call k ok => exact hi.call hc hs
  | gsLogin u =>
    simp only [hostedStep, Option.ite_none_left_eq_some, Option.map_eq_some_iff, Option.bind_eq_some_iff] at hs
    obtain ⟨hand, y, ⟨x, hx, hy⟩, rfl⟩ := hs
    refine ⟨hi.records, hi.kinds, hi.plain, hi.stays.gsLogin (by simpa using hand) ?_ hx hy⟩
    simpa [alone] using hc
  | getUserItem k =>
    simp only [hostedStep, Option.bind_eq_some_iff] at hs
    obtain ⟨x, hx, hs⟩ := hs
    cases x <;> simp only [Option.some.injEq, reduceCtorEq] at hs
    subst hs
    rename_i u
    obtain ⟨hplayer, hdata, hnamed⟩ := hi.stays.suits_login hx rfl
    refine ⟨hi.records, hi.kinds, hi.plain, ?_⟩
    split
    · rename_i hnone
      have hnone' : (view h s u).item = none := hnone
      refine hi.stays.login hx rfl (some .insertUserItem) rfl ⟨hplayer, hnone, fun c => ?_, hnamed⟩
      rw [hdata, hnone']
      rfl
    · rename_i hsome
      obtain ⟨i, hitem⟩ := Option.ne_none_iff_exists'.1 hsome
      have hitem' : (view h s u).item = some i := hitem
      refine hi.stays.login hx rfl none rfl ⟨hdata, ?_⟩
      rw [hnamed, hitem', hplayer]
      rfl
  | switchUserItem k agent deskCount =>
    simp only [hostedStep, Option.bind_eq_some_iff] at hs
    obtain ⟨x, hx, hs⟩ := hs
    cases x <;> simp only [Option.some.injEq, reduceCtorEq] at hs
    subst hs
    exact hi.switchUserItem hx agent deskCount
  | insertUserItem k userInfo least =>
    simp only [hostedStep, Option.bind_eq_some_iff] at hs
    obtain ⟨x, hx, hs⟩ := hs
    cases x <;> simp only [Option.ite_none_right_eq_some, Option.map_eq_some_iff, reduceCtorEq] at hs
    obtain ⟨⟨hu, hand⟩, m, hm, rfl⟩ := hs
    subst hu
    exact hi.insertUserItem hx (by simpa using hand) hm
  | refused k =>
    simp only [hostedStep, Option.bind_eq_some_iff] at hs
    obtain ⟨x, hx, hs⟩ := hs
    cases x <;> simp only [Option.some.injEq, reduceCtorEq] at hs
    subst hs
    exact ⟨hi.records, hi.kinds, hi.plain, hi.stays.login hx rfl (some .gsLogout) rfl (hi.stays.suits_login hx rfl)⟩
  | gsLogout k ok =>
    simp only [hostedStep, Option.bind_eq_some_iff] at hs
    obtain ⟨x, hx, hs⟩ := hs
    cases x <;> simp only [Option.some.injEq, reduceCtorEq] at hs
    obtain rfl : ok = true := hc
    subst hs
    exact ⟨hi.records, hi.kinds, hi.plain, hi.stays.gsLogout hx⟩
  | notify k ok =>
    simp only [hostedStep, Option.map_eq_some_iff] at hs
    obtain ⟨u, hu, rfl⟩ := hs
    simp only [alone, hu, Option.all_some, Bool.decide_and, Bool.and_eq_true, decide_eq_true_eq, Bool.not_eq_true'] at hc
    obtain ⟨hfree, hnone⟩ := hc
    cases ok with
    | false => exact ⟨hi.records, hi.kinds, hi.plain, hi.stays.notices _⟩
    | true => exact ⟨hi.records, hi.kinds, hi.plain, (hi.stays.notify hfree hnone).notices _⟩
  | loginServer u x =>
    simp only [hostedStep, Option.ite_none_right_eq_some, Option.some.injEq] at hs
    obtain ⟨⟨hnamed, hmatched⟩, rfl⟩ := hs
    refine ⟨hi.records, hi.kinds, hi.plain, hi.stays.setLoginServer hnamed ?_⟩
    intro y hy
    subst hy
    simpa using hmatched

/-! ## Runs -/

theorem busy_of_acts_nil (hs : acts s = []) (u : Nat) : busy s u = false := by
  simp [busy, hs]

/-- In every run in which one thing at a time goes on about each user and no call fails, a user about whom nothing is going
on is in `_userItemHash` if and only if each service has the user's data, and, a player, if and only if the login server
names this game server. -/
theorem settled_of_alone (h : Host) (labels : List HostedLabel) (t : Hosted)
    (hm : Steps.Meets (hostedStep h) (fun s l => alone s l) .init labels)
    (ht : Steps.exec (hostedStep h) .init labels = some t) (userID : Nat) (hu : busy t userID = false) :
    Settled (h.android userID) (view h t userID) :=
  (Steps.exec_invariant (I := Present h) (fun _ _ _ hi hc hs => hi.step hc hs) labels .init t (present_init h) hm
    ht).stays.settled userID hu

/-- A game server to which user 1 comes, a player. -/
def demoHost : Host := ⟨⟨3, 100⟩, 2, 7, fun _ => false⟩

/-- User 1 has logged in at the login server. -/
def demoArrival : HostedLabel := .loginServer 1 (some ⟨1, 5, .usLs, 0, 0, 0⟩)

/-- A login up to the calls of `cmd_insertUserItem`. -/
def demoLogin : List HostedLabel :=
  [.gsLogin 1, .getUserItem 0, .insertUserItem 0 ⟨1, invalidTable, invalidChair, .usFree, 9, 0, 0, false, 100⟩ 0]

/-- The handler that has waited longest makes `n` calls and goes on. -/
def demoCalls (n : Nat) : List HostedLabel := List.replicate n (.call 0 true) ++ [.manager (.resume 0 true false)]

/-- User 1 leaves. -/
def demoLogout : HostedLabel := .manager (.setUserStatus 1 .usNull invalidTable invalidChair)

/-- User 1 logs in and out, and logs in again. -/
theorem settled_of_alone_demo :
    ∃ t, Steps.exec (hostedStep demoHost) .init
        (demoArrival :: demoLogin ++ demoCalls 8 ++ demoLogout :: demoCalls 0 ++ demoCalls 7 ++ demoLogin ++ demoCalls 8) =
        some t ∧
      (∀ c, t.data c 1 = true) ∧ (t.loginServer 1).any (names demoHost) = true := by
  refine ⟨_, rfl, ?_⟩
  have hset := settled_of_alone demoHost
    (demoArrival :: demoLogin ++ demoCalls 8 ++ demoLogout :: demoCalls 0 ++ demoCalls 7 ++ demoLogin ++ demoCalls 8) _
    (by decide +kernel) rfl 1 (by decide +kernel)
  exact ⟨fun c => (hset.1 c).trans (by decide +kernel), hset.2.trans (by decide +kernel)⟩

/-- User 1 logs in again while the logout waits for the database. The login server takes the login, as the status still names
this game server; then the logout goes on, tells the login server and releases the data of the new record. -/
theorem not_settled :
    ¬∀ (h : Host) (labels : List HostedLabel) (t : Hosted), Steps.exec (hostedStep h) .init labels = some t →
      (∀ u, busy t u = false) → ∀ userID, Settled (h.android userID) (view h t userID) := by
  intro hall
  have hset := hall demoHost
    (demoArrival :: demoLogin ++ demoCalls 8 ++ demoLogout :: demoLogin ++ demoCalls 0 ++ demoCalls 8 ++ demoCalls 7) _ rfl
    (busy_of_acts_nil (by decide +kernel)) 1
  have hbag := hset.1 .bag
  revert hbag
  decide +kernel

end SasyServer.UserManager
