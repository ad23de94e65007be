import SasyServer.Lemmas.UserTurns
import SasyServer.UserManager.UserData

/-!
# One thing at a time for each user

What is going on about the users (`acts`): the handlers that a user's coming or going waits for, and the logins that may
make a record. `alone` is the condition that nothing begins about a user while something else is going on about the user,
and that no call fails. Then each act fits what is to be seen of its user (`Suits`), and a user about whom nothing is
going on is settled (`Settled`).
-/

namespace SasyServer.UserManager

/-! ## What is going on about the users -/

/-- What is going on about a user: the logout, the calls of a handler, or the next call of a login. -/
inductive Act where
  | logout
  | release (calls : List Call)
  | insert (calls : List Call)
  | getUserItem
  | insertUserItem
  | gsLogout
  deriving DecidableEq, Repr

/-- What a handler that waits does about a user. -/
def threadAct : Thread × Work → Option (Nat × Act)
  | (.logout userID _, _) => some (userID, .logout)
  | (.release userID _, w) => some (userID, .release w.calls)
  | (.insert userID _, w) => some (userID, .insert w.calls)
  | _ => none

/-- What a login does about its user. One that will switch an agent makes no record. -/
def loginAct : Login → Option (Nat × Act)
  | .getUserItem userID => some (userID, .getUserItem)
  | .switchUserItem _ => none
  | .insertUserItem userID => some (userID, .insertUserItem)
  | .gsLogout userID => some (userID, .gsLogout)

/-- All that is going on. -/
def acts (s : Hosted) : List (Nat × Act) :=
  (s.manager.suspended.zip s.works).filterMap threadAct ++ s.logins.filterMap loginAct

/-- Something is going on about the user. -/
def busy (s : Hosted) (userID : Nat) : Bool := (acts s).any fun p => p.1 = userID

/-- A handler that is about no user, or has made its calls. -/
def finished (p : Thread × Work) : Bool :=
  match threadAct p with
  | none => true
  | some (_, .insert calls) => calls = []
  | some (_, .release calls) => calls = []
  | some _ => false

/-- The condition on a label in the state in which it is taken: a user's coming or going begins only while nothing is
going on about the user, no handler fails in it, and the login server handles a `gs_logout` of `kickUser` only while
the user is not there. -/
def alone (s : Hosted) : HostedLabel → Bool
  | .manager l =>
    (leaves s.manager l).all (fun u => !busy s u) &&
      match l with
      | .insertUserItem userInfo _ => !busy s userInfo.userID
      | .resume k ok _ =>
        s.manager.suspended[k]?.all fun
          | .logout _ _ => ok
          | _ => true
      | .abort k => (s.manager.suspended.zip s.works)[k]?.all finished
      | _ => true
  | .call k ok =>
    s.works[k]?.all fun w =>
      match w.calls with
      | .gsOffline _ :: _ => true
      | _ => ok
  | .gsLogin userID => !busy s userID
  | .gsLogout _ ok => ok
  | .notify k _ => s.notices[k]?.all fun u => !busy s u ∧ s.manager.userItem u = none
  | _ => true

/-- What is to be seen of a user: the record, whose services have the data, and whether the login server
names the game server. -/
structure View where
  item : Option Nat
  data : DataService → Bool
  named : Bool

def view (h : Host) (s : Hosted) (userID : Nat) : View :=
  ⟨s.manager.userItem userID, fun c => s.data c userID, (s.loginServer userID).any (names h)⟩

/-- A user who is there has all data loaded and is named, and a user who is not there has none and is not named. -/
def Settled (android : Bool) (v : View) : Prop := (∀ c, v.data c = v.item.isSome) ∧ v.named = (v.item.isSome && !android)

/-- The service a call loads. -/
def Call.loads : Call → Option DataService
  | .loadItem service _ => some service
  | .load service _ => some service
  | _ => none

/-- What is going on fits what is to be seen. -/
def Suits (android : Bool) (userID : Nat) : Act → View → Prop
  | .logout, v => v.item = none ∧ (∀ c, v.data c = true) ∧ v.named = !android
  | .release calls, v =>
    v.item = none ∧ calls.Nodup ∧ (∀ c ∈ calls, c = .gsLogout userID ∨ ∃ service, c = .release service userID) ∧
      (∀ c, v.data c = decide (.release c userID ∈ calls)) ∧ v.named = decide (.gsLogout userID ∈ calls)
  | .insert calls, v => ∃ i, v.item = some i ∧ (∀ c ∈ calls, ∃ service, c = .loadItem service i ∨ c = .load service userID) ∧
      (calls.filterMap Call.loads).Nodup ∧ (∀ c, v.data c = decide (c ∉ calls.filterMap Call.loads)) ∧ v.named = !android
  | .getUserItem, v => android = false ∧ (∀ c, v.data c = v.item.isSome) ∧ v.named = true
  | .insertUserItem, v => android = false ∧ v.item = none ∧ (∀ c, v.data c = false) ∧ v.named = true
  | .gsLogout, v => android = false ∧ v.item = none ∧ (∀ c, v.data c = false) ∧ v.named = true

/-- One thing at a time is going on about a user, and it fits; the other users are settled. -/
structure Stays (h : Host) (s : Hosted) : Prop where
  aligned : s.manager.suspended.length = s.works.length
  matched : ∀ u x, s.loginServer u = some x → names h x → matched h x
  nodup : ((acts s).map Prod.fst).Nodup
  suits : ∀ p ∈ acts s, Suits (h.android p.1) p.1 p.2 (view h s p.1)
  settled : ∀ u, busy s u = false → Settled (h.android u) (view h s u)

theorem stays_init (h : Host) : Stays h .init :=
  ⟨rfl, by simp [Hosted.init], by simp [acts, Hosted.init, State.init], by simp [acts, Hosted.init, State.init],
    fun u _ => ⟨fun _ => rfl, rfl⟩⟩

section Turns

variable {h : Host} {s s' : Hosted} {u : Nat}

theorem busy_eq_false : busy s u = false ↔ ∀ a, (u, a) ∉ acts s := by
  simp only [busy, List.any_eq_false, decide_eq_true_eq]
  exact ⟨fun h a ha => h (u, a) ha rfl, fun h p hp hu => h p.2 (by rw [← hu]; exact hp)⟩

/-- The rule for a step that is about one user: instead of `old`, `new` goes on about the user. -/
theorem Stays.turn (hi : Stays h s) (old new : Option Act) {rest : List (Nat × Act)}
    (haligned : s'.manager.suspended.length = s'.works.length)
    (hmatched : ∀ u x, s'.loginServer u = some x → names h x → UserManager.matched h x)
    (hold : (acts s).Perm (old.toList.map (Prod.mk u) ++ rest)) (hnew : (acts s').Perm (new.toList.map (Prod.mk u) ++ rest))
    (hfree : old = none → busy s u = false) (hview : ∀ w, w ≠ u → view h s' w = view h s w)
    (hfit : new.elim (Settled (h.android u) (view h s' u)) fun a => Suits (h.android u) u a (view h s' u)) : Stays h s' := by
  have hnodup := (hold.map Prod.fst).nodup_iff.1 hi.nodup
  have hrest : u ∉ rest.map Prod.fst := by
    cases old with
    | none =>
      intro hu
      obtain ⟨⟨v, a⟩, hp, rfl⟩ := List.mem_map.1 hu
      exact busy_eq_false.1 (hfree rfl) a (hold.mem_iff.2 hp)
    | some a => exact (List.nodup_cons.1 hnodup).1
  have hrestNodup : (rest.map Prod.fst).Nodup := by
    rw [List.map_append] at hnodup
    exact (List.nodup_append.1 hnodup).2.1
  refine ⟨haligned, hmatched, ?_, ?_, ?_⟩
  · rw [(hnew.map Prod.fst).nodup_iff]
    cases new with
    | none => exact hrestNodup
    | some a => exact List.nodup_cons.2 ⟨hrest, hrestNodup⟩
  · rintro ⟨w, a⟩ hp
    rcases List.mem_append.1 (hnew.mem_iff.1 hp) with hp | hp
    · obtain ⟨a', ha', he⟩ := List.mem_map.1 hp
      cases he
      rw [Option.mem_toList] at ha'
      rw [ha'] at hfit
      exact hfit
    · have hw : w ≠ u := by
        rintro rfl
        exact hrest (List.mem_map.2 ⟨_, hp, rfl⟩)
      simp only [hview w hw]
      exact hi.suits (w, a) (hold.mem_iff.2 (List.mem_append_right _ hp))
  · intro w hw
    by_cases hwu : w = u
    · subst hwu
      cases new with
      | none => exact hfit
      | some a =>
        refine absurd ?_ (busy_eq_false.1 hw a)
        exact hnew.mem_iff.2 (by simp)
    · rw [hview w hwu]
      refine hi.settled w (busy_eq_false.2 fun a ha => ?_)
      rcases List.mem_append.1 (hold.mem_iff.1 ha) with ha | ha
      · obtain ⟨_, _, he⟩ := List.mem_map.1 ha
        cases he
        exact hwu rfl
      · exact busy_eq_false.1 hw a (hnew.mem_iff.2 (List.mem_append_right _ ha))

/-! ## The handlers of the manager -/

/-- A step that is about no user. -/
theorem Stays.same (hi : Stays h s) (haligned : s'.manager.suspended.length = s'.works.length)
    (hmatched : ∀ u x, s'.loginServer u = some x → names h x → UserManager.matched h x)
    (hacts : (acts s').Perm (acts s)) (hview : ∀ w, view h s' w = view h s w) : Stays h s' := by
  refine ⟨haligned, hmatched, (hacts.map Prod.fst).nodup_iff.2 hi.nodup, ?_, ?_⟩
  · intro p hp
    rw [hview]
    exact hi.suits p (hacts.mem_iff.1 hp)
  · intro w hw
    rw [hview]
    exact hi.settled w (busy_eq_false.2 fun a ha => busy_eq_false.1 hw a (hacts.mem_iff.2 ha))

theorem zip_put (haligned : s.manager.suspended.length = s.works.length) {m : State} (ts : List Thread)
    (hts : m.suspended = s.manager.suspended ++ ts) (b : Bool) : (s.put m b).manager.suspended.zip (s.put m b).works =
      s.manager.suspended.zip s.works ++ ts.map fun t => (t, ⟨calls m t, b⟩) := by
  have hworks : (s.put m b).works = s.works ++ ts.map fun t => ⟨calls m t, b⟩ := by
    simp only [Hosted.put, hts, ← haligned, List.drop_left]
  rw [hworks, show (s.put m b).manager.suspended = m.suspended from rfl, hts, List.zip_append haligned,
    ← List.map_prod_left_eq_zip]

/-- What is going on after handlers have begun to wait. -/
theorem acts_put (haligned : s.manager.suspended.length = s.works.length) {m : State} (ts : List Thread)
    (hts : m.suspended = s.manager.suspended ++ ts) (b : Bool) :
    (s.put m b).manager.suspended.length = (s.put m b).works.length ∧
    (acts (s.put m b)).Perm ((ts.filterMap fun t => threadAct (t, ⟨calls m t, b⟩)) ++ acts s) := by
  refine ⟨?_, ?_⟩
  · simp only [Hosted.put, hts, ← haligned, List.drop_left, List.length_append, List.length_map]
  · simp only [acts, zip_put haligned ts hts b, List.filterMap_append, List.filterMap_map]
    rw [← List.append_assoc]
    exact List.perm_append_comm.append_right _

/-- Nobody begins to come or to go. -/
theorem Stays.calm (hi : Stays h s) {m : State} (hhash : m.userItemHash = s.manager.userItemHash)
    (hsuspended : ∃ ts, m.suspended = s.manager.suspended ++ ts ∧ ∀ t ∈ ts, t.moves = false) (b : Bool) : Stays h
    (s.put m b) := by
  obtain ⟨ts, hts, hcalm⟩ := hsuspended
  obtain ⟨haligned, hacts⟩ := acts_put hi.aligned ts hts b
  refine hi.same haligned hi.matched (hacts.trans ?_) ?_
  · have hnone : (ts.filterMap fun t => threadAct (t, ⟨calls m t, b⟩)) = [] := by
      rw [List.filterMap_eq_nil_iff]
      intro t ht
      have := hcalm t ht
      cases t <;> first | rfl | cases this
    rw [hnone, List.nil_append]
  · intro w
    simp only [view, Hosted.put, State.userItem, hhash]

/-- A user is taken out of `_userItemHash`. -/
theorem Stays.leave (hi : Stays h s) {i : Nat} (hu : s.manager.userItem u = some i) (hfree : busy s u = false) (b : Bool) :
    Stays h (s.put (s.manager.leave u i) b) := by
  obtain ⟨haligned, hacts⟩ := acts_put hi.aligned (m := s.manager.leave u i) [.logout u i] rfl b
  obtain ⟨hdata, hnamed⟩ := hi.settled u hfree
  have hgone : (s.manager.leave u i).userItem u = none := by
    simp [State.leave, State.suspend, State.userItem]
  refine hi.turn none (some .logout) haligned hi.matched (List.Perm.refl _) hacts (fun _ => hfree) ?_ ?_
  · intro w hw
    simp only [view, Hosted.put, State.leave, State.suspend]
    rw [View.mk.injEq]
    exact ⟨userItem_filter hw, rfl, rfl⟩
  · refine ⟨hgone, ?_, ?_⟩
    · intro c
      have := hdata c
      simpa [view, hu, Hosted.put] using this
    · simpa [view, hu, Hosted.put] using hnamed

theorem Stays.turns (hi : Stays h s) {v : Option Nat} {m : State} (ht : Turns v s.manager m)
    (hfree : ∀ u, v = some u → busy s u = false) (b : Bool) :
    Stays h (s.put m b) := by
  obtain ⟨-, hc⟩ | ⟨u, i, hv, hu, rfl⟩ := ht
  · exact hi.calm hc.hash hc.suspended b
  · exact hi.leave hu (hfree u hv) b

/-- A handler no longer waits. -/
def Hosted.erase (s : Hosted) (k : Nat) : Hosted :=
  { s with manager := { s.manager with suspended := s.manager.suspended.eraseIdx k }, works := s.works.eraseIdx k }

/-- A handler that has ended is erased with its calls. -/
theorem acts_erase (haligned : s.manager.suspended.length = s.works.length) {k : Nat} {p : Thread × Work}
    (hp : (s.manager.suspended.zip s.works)[k]? = some p) :
    (s.erase k).manager.suspended.length = (s.erase k).works.length ∧
    (acts s).Perm ((threadAct p).toList ++ acts (s.erase k)) := by
  refine ⟨by simp only [Hosted.erase, List.length_eraseIdx, haligned], ?_⟩
  simp only [acts, Hosted.erase, Waiting.zip_eraseIdx, ← List.append_assoc]
  refine List.Perm.append_right _ ?_
  refine ((Waiting.perm_cons_eraseIdx hp).filterMap threadAct).trans ?_
  rw [List.filterMap_cons]
  cases threadAct p <;> exact List.Perm.refl _

/-- A handler that has made its calls goes on. -/
theorem Stays.erase (hi : Stays h s) {k : Nat} {p : Thread × Work} (hp : (s.manager.suspended.zip s.works)[k]? = some p)
    (hover : finished p) : Stays h (s.erase k) := by
  obtain ⟨haligned, hold⟩ := acts_erase hi.aligned hp
  cases ha : threadAct p with
  | none =>
    rw [ha] at hold
    exact hi.same haligned hi.matched hold.symm fun _ => rfl
  | some q =>
    obtain ⟨u, a⟩ := q
    rw [ha] at hold
    have hfit := hi.suits (u, a) (hold.mem_iff.2 (List.mem_append_left _ (List.mem_singleton_self _)))
    refine hi.turn (u := u) (some a) none haligned hi.matched hold (List.Perm.refl _) (by simp) (fun _ _ => rfl) ?_
    simp only [finished, ha] at hover
    show Settled (h.android u) (view h s u)
    cases a with
    | insert calls =>
      obtain rfl : calls = [] := by simpa using hover
      obtain ⟨i, hitem, -, -, hdata, hnamed⟩ := hfit
      exact ⟨fun c => by rw [hdata, hitem]; rfl, by rw [hnamed, hitem]; rfl⟩
    | release calls =>
      obtain rfl : calls = [] := by simpa using hover
      obtain ⟨hitem, -, -, hdata, hnamed⟩ := hfit
      exact ⟨fun c => by rw [hdata, hitem]; rfl, by rw [hnamed, hitem]; rfl⟩
    | _ => cases hover

/-- A logout goes on to `gs_logout`, unless it is an android's, and to the releases. -/
theorem Stays.logout (hi : Stays h s) {k i : Nat} {w : Work}
    (hp : (s.manager.suspended.zip s.works)[k]? = some (.logout u i, w)) (hkind : Kind h.android s.manager u i)
    (b : Bool) :
    Stays h ((s.erase k).put ((s.erase k).manager.suspend (.release u i)) b) := by
  obtain ⟨haligned, hold⟩ := acts_erase hi.aligned hp
  obtain ⟨haligned, hnew⟩ := acts_put haligned (m := (s.erase k).manager.suspend (.release u i)) [.release u i] rfl b
  have hfit := hi.suits (u, .logout) (hold.mem_iff.2 (List.mem_append_left _ (List.mem_singleton_self _)))
  obtain ⟨hitem, hdata, hnamed⟩ := hfit
  obtain ⟨x, hx, -, hand⟩ := hkind
  have hcalls : calls ((s.erase k).manager.suspend (.release u i)) (.release u i) =
      (if h.android u then [] else [.gsLogout u]) ++ releaseUserData u := by
    simp [calls, Hosted.erase, State.suspend, hx, hand]
  refine hi.turn (u := u) (some .logout)
    (some (.release (calls ((s.erase k).manager.suspend (.release u i)) (.release u i))))
    haligned hi.matched hold hnew (by simp) (fun _ _ => rfl) ?_
  rw [hcalls]
  refine ⟨hitem, ?_, ?_, ?_, ?_⟩
  · split <;> simp [releaseUserData]
  · intro c hc
    simp only [releaseUserData, List.mem_append, List.mem_cons, List.not_mem_nil, or_false] at hc
    rcases hc with hc | hc | hc | hc | hc | hc | hc
    · left
      split at hc
      · cases hc
      · exact List.mem_singleton.1 hc
    all_goals exact Or.inr ⟨_, hc⟩
  · intro c
    refine (hdata c).trans (decide_eq_true ?_).symm
    cases c <;> simp [releaseUserData]
  · rw [show (view h ((s.erase k).put ((s.erase k).manager.suspend (.release u i)) b) u).named = !h.android u from hnamed]
    cases h.android u <;> simp [releaseUserData]

/-- A record is made for a user who is not there, and the handler begins to load the data. -/
theorem Stays.insertNew (hi : Stays h s) {userInfo : Sui} (kick : Option Nat)
    (hnone : s.manager.userItem userInfo.userID = none) (old : Option Act) (logins : List Login)
    (hold : (acts s).Perm (old.toList.map (Prod.mk userInfo.userID) ++ acts { s with logins := logins }))
    (hfree : old = none → busy s userInfo.userID = false) (hdata : ∀ c, s.data c userInfo.userID = false)
    (hnamed : (view h s userInfo.userID).named = !h.android userInfo.userID) (b : Bool) :
    Stays h (Hosted.put { s with logins := logins } (UserManager.insertNew s.manager userInfo kick) b) := by
  have hitem := userItem_insertNew hnone kick
  obtain ⟨haligned, hnew⟩ :=
    acts_put (s := { s with logins := logins }) hi.aligned (m := UserManager.insertNew s.manager userInfo kick)
    [.insert userInfo.userID kick] rfl b
  have hcalls : calls (UserManager.insertNew s.manager userInfo kick) (.insert userInfo.userID kick) =
      loadUserData s.manager.buffer.allocate.1 userInfo.userID := by
    simp [calls, hitem]
  refine hi.turn (u := userInfo.userID) old
    (some (.insert (calls (UserManager.insertNew s.manager userInfo kick) (.insert userInfo.userID kick)))) haligned
      hi.matched hold hnew hfree
    ?_ ?_
  · intro w hw
    simp only [view, Hosted.put, hitem, if_neg hw]
  · rw [hcalls]
    refine ⟨s.manager.buffer.allocate.1, (hitem _).trans (if_pos rfl), ?_, by simp [loadUserData, Call.loads], ?_, hnamed⟩
    · intro c hc
      simp only [loadUserData, List.mem_cons, List.not_mem_nil, or_false] at hc
      rcases hc with hc | hc | hc | hc | hc | hc
      · exact ⟨_, Or.inl hc⟩
      · exact ⟨_, Or.inr hc⟩
      · exact ⟨_, Or.inr hc⟩
      · exact ⟨_, Or.inr hc⟩
      · exact ⟨_, Or.inl hc⟩
      · exact ⟨_, Or.inr hc⟩
    · intro c
      refine (hdata c).trans (decide_eq_false ?_).symm
      cases c <;> simp [loadUserData, Call.loads]

end Turns

end SasyServer.UserManager
