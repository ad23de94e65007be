import SasyServer.Lemmas.UserRecords
import SasyServer.UserManager.Logout

/-!
# A user who has logged out

A logout takes the user out of `_userItemHash` first and gives the record back last. Where the database refuses the logout
the handler returns in between.
-/

namespace SasyServer.UserManager

/-- The user has logged out: no longer in `_userItemHash`, the record in the pool exactly once, no data left in the services,
and the login server told of it, if the user is no android. -/
structure LoggedOut (s t : Server) (userID userItem : Nat) : Prop where
  hash : t.manager.userItem userID = none
  item : t.manager.buffer.itemList.count userItem = 1
  data : ∀ c, t.data c userID = false
  told : (s.manager.items userItem).any Sui.isAndroid = false → s.told.count userID < t.told.count userID

/-- What the others do has nothing to do with the user: they neither insert the user nor give the user's record away, and
leave alone the user's data and what the login server knows of the user. -/
structure Apart (userID userItem : Nat) (f : Server → Server) : Prop where
  hash : ∀ s, s.manager.userItem userID = none → (f s).manager.userItem userID = none
  item : ∀ s, userItem ∉ s.manager.buffer.itemList → userItem ∉ (f s).manager.buffer.itemList
  data : ∀ s c, (f s).data c userID = s.data c userID
  told : ∀ s, (f s).told.count userID = s.told.count userID

section Logout

variable {a : Answers} {others : Wait → Server → Server} {s t : Server} {userID userItem n : Nat}

/-- What holds from the first step of the logout to the last one: the user is out of the hash, the record is not in the pool,
and the login server has been told `n` times. -/
structure Leaving (userID userItem n : Nat) (t : Server) : Prop where
  hash : t.manager.userItem userID = none
  item : userItem ∉ t.manager.buffer.itemList
  told : t.told.count userID = n

theorem Leaving.wait (h : Leaving userID userItem n t) {f : Server → Server} (hf : Apart userID userItem f) :
    Leaving userID userItem n (f t) :=
  ⟨hf.hash t h.hash, hf.item t h.item, (hf.told t).trans h.told⟩

theorem userItem_remove (s : Server) (userID : Nat) : (s.remove userID).manager.userItem userID = none := by
  simp [Server.remove, State.userItem, List.find?_filter]

/-- The login server is told once, unless the call fails. -/
theorem notifyLSUserLogout_leaving (hothers : ∀ w, Apart userID userItem (others w)) (h : Leaving userID userItem n t)
    (st : UserStatus) :
    (notifyLSUserLogout a others userID st t).Ends (Leaving userID userItem (if a.gsLogout then n + 1 else n))
      fun _ _ => True := by
  unfold notifyLSUserLogout
  refine Attempt.Ends.andThen (P := Leaving userID userItem n) ?_ fun t ht => ?_
  · split
    · split
      · exact h.wait (hothers .itemList)
      · trivial
    · exact h
  · have hwait := ht.wait (hothers .gsLogout)
    refine Attempt.ends_ok ?_
    split
    · refine ⟨hwait.hash, hwait.item, ?_⟩
      rw [List.count_cons_self, hwait.told]
    · exact hwait

/-- An android logs out without the login server. -/
theorem notify_leaving (hothers : ∀ w, Apart userID userItem (others w)) (h : Leaving userID userItem n t) (isAndroid : Bool)
    (st : UserStatus) :
    (if isAndroid then .ok t else notifyLSUserLogout a others userID st t).Ends
      (Leaving userID userItem (if isAndroid = false ∧ a.gsLogout = true then n + 1 else n)) fun _ _ => True := by
  cases isAndroid with
  | true => exact h
  | false => simpa using notifyLSUserLogout_leaving (a := a) hothers h st

/-- The services release the data of the user one after the other. -/
theorem releaseData_leaving (hothers : ∀ w, Apart userID userItem (others w)) (h : Leaving userID userItem n t)
    (c : DataService) :
    (releaseData a others userID t c).Ends (fun t' => Leaving userID userItem n t' ∧ t'.data c userID = false ∧
      ∀ c', t.data c' userID = false → t'.data c' userID = false) fun _ _ => True := by
  have hwait := h.wait (hothers (.release c))
  unfold releaseData
  dsimp only
  split
  · refine Attempt.ends_ok ⟨⟨hwait.hash, hwait.item, hwait.told⟩, by simp, fun c' hc' => ?_⟩
    dsimp only
    split
    · rfl
    · exact ((hothers (.release c)).data t c').trans hc'
  · trivial

theorem mem_dataServices (c : DataService) : c ∈ dataServices := by cases c <;> decide

/-- The last part of a logout that the database has accepted. -/
theorem released_leaving (hothers : ∀ w, Apart userID userItem (others w)) (h : Leaving userID userItem n t) :
    ((Attempt.forEach (releaseData a others userID) dataServices t).andThen fun t => .ok (t.release userItem)).Ends
      (fun t => t.manager.userItem userID = none ∧ t.manager.buffer.itemList.count userItem = 1 ∧
        (∀ c, t.data c userID = false) ∧
        t.told.count userID = n) fun _ _ => True := by
  refine Attempt.Ends.andThen
    (Attempt.ends_forEach_all (fun t c ht => releaseData_leaving hothers ht c) dataServices t h) ?_
  rintro t' ⟨ht', hdata, -⟩
  refine Attempt.ends_ok ⟨ht'.hash, ?_, fun c => hdata c (mem_dataServices c), ht'.told⟩
  rw [Server.release, CItemBuffer.release, List.count_append, List.count_eq_zero.2 ht'.item, List.count_singleton_self]

end Logout

/-- For every user in `_userItemHash`, every record, and whatever the logout is answered, while the other handlers have
nothing to do with this user: a logout that comes to its end leaves the user logged out if and only if the database has
logged the user out and, where the user is no android, the call of `gs_logout` has not failed. -/
theorem loggedOut_iff (a : Answers) (others : Wait → Server → Server) (s : Server) (userID userItem : Nat)
    (hs : Records [] s.manager) (hu : s.manager.userItem userID = some userItem)
    (hothers : ∀ w, Apart userID userItem (others w)) (hdone : (setUserStatusNull a others s userID).failure = none) :
    LoggedOut s (setUserStatusNull a others s userID).state userID userItem ↔
      doDBUserLogout a.dbLogout = true ∧ ((s.manager.items userItem).any Sui.isAndroid = true ∨ a.gsLogout = true) := by
  obtain ⟨hinUse, hsome⟩ := hs.inUse userItem (mem_held_of_userItem hu)
  obtain ⟨x, hx⟩ := Option.isSome_iff_exists.1 hsome
  have hbegin : Leaving userID userItem (s.told.count userID) (others .dbLogout (s.remove userID)) :=
    Leaving.wait ⟨userItem_remove s userID, hinUse.2, rfl⟩ (hothers .dbLogout)
  unfold setUserStatusNull at hdone ⊢
  simp only [hu, hx, Option.any_some] at hdone ⊢
  by_cases hdb : doDBUserLogout a.dbLogout = true
  · rw [if_neg (not_not.2 hdb)] at hdone ⊢
    have hends :=
      (notify_leaving (a := a) hothers hbegin x.isAndroid x.userStatus).andThen
      fun t ht => released_leaving (a := a) hothers ht
    unfold Attempt.Ends at hends
    rw [hdone] at hends
    obtain ⟨hhash, hitem, hdata, htold⟩ := hends
    constructor
    · intro hout
      refine ⟨hdb, ?_⟩
      cases hand : x.isAndroid with
      | true => exact Or.inl rfl
      | false =>
        have hlt := hout.told (by rw [hx, Option.any_some, hand])
        rw [htold] at hlt
        by_contra hno
        rw [if_neg (fun hc => hno (Or.inr hc.2))] at hlt
        exact absurd hlt (Nat.lt_irrefl _)
    · rintro ⟨-, hor⟩
      refine ⟨hhash, hitem, hdata, fun hand => ?_⟩
      rw [hx, Option.any_some] at hand
      rw [hand] at hor
      rw [htold, if_pos ⟨hand, hor.resolve_left (by decide)⟩]
      exact Nat.lt_succ_self _
  · rw [if_pos hdb]
    refine iff_of_false (fun hout => ?_) fun hcond => hdb hcond.1
    have hcount := hout.item
    rw [Attempt.ok, List.count_eq_zero.2 hbegin.item] at hcount
    cases hcount

/-- A server with one player. -/
def onePlayer : Server where
  manager :=
    { items := Function.update (fun _ => none) 0 (some ⟨1, invalidTable, invalidChair, .usFree, 0, 1, 10, false, 0⟩)
      userItemHash := [(1, 0)]
      buffer := ⟨[], 1⟩
      suspended := []
      log := [] }
  data := fun _ userID => userID = 1
  told := []

theorem records_onePlayer : Records [] onePlayer.manager :=
  ⟨⟨List.nodup_nil, nofun⟩, by decide, fun i hi => by
    obtain rfl := List.mem_singleton.1 hi
    exact ⟨⟨by decide, by decide⟩, rfl⟩⟩

/-- In no wait does anything else happen. -/
theorem apart_id (userID userItem : Nat) : Apart userID userItem id :=
  ⟨fun _ h => h, fun _ h => h, fun _ _ => rfl, fun _ => rfl⟩

theorem loggedOut_iff_onePlayer :
    LoggedOut onePlayer (setUserStatusNull { dbLogout := .row 0 } (fun _ => id) onePlayer 1).state 1 0 :=
  (loggedOut_iff { dbLogout := .row 0 } (fun _ => id) onePlayer 1 0 records_onePlayer rfl (fun _ => apart_id 1 0) rfl).2
    ⟨rfl, Or.inr rfl⟩

/-- The database answers with an error code. -/
theorem not_loggedOut_errorCode :
    ¬∀ (a : Answers) (others : Wait → Server → Server) (s : Server) (userID userItem : Nat), Records [] s.manager →
      s.manager.userItem userID = some userItem → (∀ w, Apart userID userItem (others w)) → a.gsLogout = true →
      (setUserStatusNull a others s userID).failure = none →
        LoggedOut s (setUserStatusNull a others s userID).state userID userItem := by
  intro h
  have hout := h { dbLogout := .row 1 } (fun _ => id) onePlayer 1 0 records_onePlayer rfl (fun _ => apart_id 1 0) rfl rfl
  exact absurd hout.item (by decide)

end SasyServer.UserManager
