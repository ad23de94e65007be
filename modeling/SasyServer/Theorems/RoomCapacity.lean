import Mathlib.Data.Finset.Card
import SasyServer.Lemmas.UserRecords

/-!
# Theorem: a room does not hold more than `MaxPlayer` users, as long as no user is displaced twice

An insertion into a full room chooses the user with the least score, adds the new user, waits for the data of the new
user, and only then kicks the user it has chosen. The condition `displaceSafe` is on the state in which the choice is
made: the chosen user is not about to be kicked, and has no part in another displacement that waits, neither as the one
who leaves nor as the one who came.

A set of users may stay when the handlers that wait do not kick one of them: no kick of one of them waits, and no insertion
of one of them that displaces another one. The invariant is that no such set is larger than `MaxPlayer`.
-/

namespace SasyServer.UserManager

/-- A label of the service, or a change of a score, which other services make in the record itself. -/
inductive RoomLabel where
  | service (l : Label)
  | score (userItem : Nat) (score : Int)
  deriving DecidableEq, Repr

/-- `ServerUserItem.setAttribute` of a score by another service. -/
def setScore (s : State) (userItem : Nat) (score : Int) : State :=
  match s.items userItem with
  | none => s
  | some x => s.setItem userItem (some { x with score := score })

/-- One label. -/
def roomStep (cfg : ServerConfig) (s : State) : RoomLabel → Option State
  | .service l => step cfg s l
  | .score userItem score => some (setScore s userItem score)

/-- The users of the room. -/
def State.users (s : State) : List Nat := s.userItemHash.map Prod.fst

/-- `cmd_insertUserItem` finds the room full and displaces `leastUserID`. -/
def displaces (cfg : ServerConfig) (s : State) (userInfo : Sui) (leastUserID : Nat) : Bool :=
  (s.userItem userInfo.userID).isNone && s.userItemHash.length ≥ cfg.maxPlayer &&
    (s.attr leastUserID).any fun x => userInfo.score > x.score

/-- The user is about to be kicked, or has a part in a displacement of users of the room. -/
def leaving (s : State) (userID : Nat) : Bool :=
  s.suspended.any fun t => match t with
    | .kick u => u = userID
    | .insert u (some v) => (v = userID && u ∈ s.users) || (u = userID && v ∈ s.users)
    | _ => false

/-- The handler is going to kick a user of the room. -/
def Thread.kicks : Thread → Bool
  | .kick _ => true
  | .insert _ (some _) => true
  | _ => false

/-- The condition on a label in the state in which it is taken. -/
def displaceSafe (cfg : ServerConfig) (s : State) : RoomLabel → Bool
  | .service (.insertUserItem userInfo leastUserID) => !displaces cfg s userInfo leastUserID || !leaving s leastUserID
  | .service (.abort k) => s.suspended[k]?.all fun t => !t.kicks
  | _ => true

/-! ## Users who may stay -/

/-- The handlers that wait leave all users of the set in the room. -/
structure MayStay (s : State) (stay : Finset Nat) : Prop where
  present : ∀ u ∈ stay, u ∈ s.users
  displaced : ∀ u v, .insert u (some v) ∈ s.suspended → u ∈ stay → v ∉ stay
  kicked : ∀ u, .kick u ∈ s.suspended → u ∉ stay

/-- No set of users that may stay is too large for the room. -/
def Fits (cfg : ServerConfig) (s : State) : Prop := ∀ stay, MayStay s stay → stay.card ≤ cfg.maxPlayer

/-- Nobody came, and whoever waited still waits. -/
structure Leaves (s s' : State) : Prop where
  users : s'.users.Sublist s.users
  suspended : ∀ t ∈ s.suspended, t ∈ s'.suspended

theorem Leaves.refl (s : State) : Leaves s s := ⟨List.Sublist.refl _, fun _ ht => ht⟩

theorem Leaves.trans {s s' s'' : State} (h : Leaves s s') (h' : Leaves s' s'') : Leaves s s'' :=
  ⟨h'.users.trans h.users, fun t ht => h'.suspended t (h.suspended t ht)⟩

/-- A step that changes records only. -/
theorem Leaves.of_eq {s s' : State} (hu : s'.userItemHash = s.userItemHash)
    (ht : s'.suspended = s.suspended) : Leaves s s' :=
  ⟨by rw [State.users, State.users, hu], fun t h => ht ▸ h⟩

theorem Leaves.mayStay {s s' : State} {stay : Finset Nat} (h : Leaves s s') (hs : MayStay s' stay) : MayStay s stay :=
  ⟨fun u hu => h.users.subset (hs.present u hu), fun u v ht => hs.displaced u v (h.suspended _ ht),
    fun u ht => hs.kicked u (h.suspended _ ht)⟩

theorem mem_users_of_userItem {s : State} {u i : Nat} (h : s.userItem u = some i) : u ∈ s.users :=
  List.mem_map.2 ⟨_, mem_of_userItem h, rfl⟩

theorem userItem_of_mem_users {s : State} {u : Nat} (h : u ∈ s.users) : ∃ i, s.userItem u = some i := by
  obtain ⟨⟨v, i⟩, hp, rfl⟩ := List.mem_map.1 h
  rw [← Option.isSome_iff_exists, State.userItem, Option.isSome_map, List.find?_isSome]
  exact ⟨(v, i), hp, by simp⟩

section Handlers

variable {cfg : ServerConfig} {s s' : State}

theorem leaves_suspend (s : State) (t : Thread) : Leaves s (s.suspend t) :=
  ⟨List.Sublist.refl _, fun _ ht => List.mem_append_left _ ht⟩

theorem leaves_setStatusAttribute (s : State) (u i : Nat) (f : Sui → Sui) : Leaves s (setStatusAttribute s u i f) := by
  unfold setStatusAttribute
  split
  · exact Leaves.of_eq rfl rfl
  · exact Leaves.of_eq rfl rfl

/-- A status is set: the user goes at most. -/
theorem leaves_setUserStatus {u : Nat} {st : UserStatus} {tb c : Int} (hs : setUserStatus s u st tb c = some s') :
    Leaves s s' := by
  unfold setUserStatus at hs
  cases hu : s.userItem u with
  | none =>
    rw [hu] at hs
    cases hs
    exact Leaves.refl s
  | some i =>
    rw [hu, Option.map_eq_some_iff] at hs
    obtain ⟨x, -, rfl⟩ := hs
    cases st with
    | usNull => exact ⟨List.filter_sublist.map Prod.fst, fun _ ht => List.mem_append_left _ ht⟩
    | usOffline =>
      dsimp only
      split
      · exact leaves_setStatusAttribute s u i _
      · exact leaves_suspend s _
    | usFree => exact leaves_setStatusAttribute s u i _
    | usSit => exact leaves_setStatusAttribute s u i _
    | usReady => exact leaves_setStatusAttribute s u i _
    | usLookon => exact leaves_setStatusAttribute s u i _
    | usPlaying => exact leaves_setStatusAttribute s u i _

theorem leaves_setUserNull (s : State) (u : Nat) : Leaves s (setUserNull s u) := by
  unfold setUserNull
  cases hs : setUserStatus s u .usNull invalidTable invalidChair with
  | none => exact Leaves.refl s
  | some s' => exact leaves_setUserStatus hs

/-- `US_NULL` takes the user out of the room. -/
theorem not_mem_setUserNull (h : Records [] s) (u : Nat) : u ∉ (setUserNull s u).users := by
  intro hm
  obtain ⟨i, hi⟩ := userItem_of_mem_users ((leaves_setUserNull s u).users.subset hm)
  obtain ⟨x, hx⟩ := Option.isSome_iff_exists.1 (h.inUse i (mem_held_of_userItem hi)).2
  rw [setUserNull, setUserStatus] at hm
  simp only [hi, hx, Option.map_some, Option.getD_some, State.suspend, State.users, List.mem_map, List.mem_filter] at hm
  obtain ⟨p, ⟨-, hp⟩, rfl⟩ := hm
  simp at hp

theorem leaves_kickUser (s : State) (u : Nat) (tableFound : Bool) : Leaves s (kickUser s u tableFound) := by
  unfold kickUser
  split
  · exact leaves_suspend s _
  · exact leaves_setUserNull s u

/-- A user who is kicked does not stay. -/
theorem not_mem_kickUser (h : Records [] s) {u : Nat} {tableFound : Bool} {stay : Finset Nat}
    (hs : MayStay (kickUser s u tableFound) stay) : u ∉ stay := by
  unfold kickUser at hs
  split at hs
  · exact hs.kicked u (List.mem_append_right _ (List.mem_singleton_self _))
  · exact fun hu => not_mem_setUserNull h u (hs.present u hu)

/-- A client is gone: the user goes at most. -/
theorem leaves_onEventClientDisconnect (s : State) (u : Nat) (tableFound : Bool) :
    Leaves s (onEventClientDisconnect cfg s u tableFound) := by
  unfold onEventClientDisconnect
  split
  · exact Leaves.refl s
  · split
    · split
      · exact leaves_suspend s _
      · exact Leaves.refl s
    · exact leaves_setUserNull s u

theorem leaves_switchAttribute (s : State) (i agent : Nat) (deskCount : Int) :
    Leaves s (switchAttribute s i agent deskCount) := by
  unfold switchAttribute
  split
  · exact Leaves.refl s
  · exact Leaves.of_eq rfl rfl

/-- A user is switched: nobody comes. -/
theorem leaves_switchCleared (s : State) (u i : Nat) (st : UserStatus) (tb c : Int) (agent : Nat) (deskCount : Int) :
    Leaves s (switchCleared s u i st tb c agent deskCount) := by
  unfold switchCleared
  split
  · split
    · exact leaves_switchAttribute s i agent deskCount
    · cases hs : setUserStatus s u .usPlaying tb c with
      | none => exact Leaves.refl s
      | some s' => exact (leaves_setUserStatus hs).trans (leaves_suspend s' _)
  · exact leaves_switchAttribute s i agent deskCount

/-- A user is switched, at once or behind a wait: nobody comes. -/
theorem leaves_switchUserItem (s : State) (u agent : Nat) (deskCount : Int) :
    Leaves s (switchUserItem s u agent deskCount) := by
  unfold switchUserItem
  split
  · exact Leaves.refl s
  · split
    · exact Leaves.refl s
    · split
      · exact leaves_suspend s _
      · exact leaves_switchCleared s _ _ _ _ _ _ _

/-- A handler that goes on after a wait. -/
theorem leaves_resumeThread (s : State) (ok tableFound : Bool) (t : Thread) : Leaves s (resumeThread s ok tableFound t) := by
  cases t with
  | offline u i tb c => exact leaves_setStatusAttribute s u i _
  | logout u i =>
    simp only [resumeThread]
    split
    · exact leaves_suspend s _
    · exact Leaves.refl s
  | release u i => exact Leaves.of_eq rfl rfl
  | kick u => exact leaves_setUserNull s u
  | disconnect u => exact leaves_setUserNull s u
  | insert u kick =>
    simp only [resumeThread, insertLoaded]
    split
    · exact Leaves.refl s
    · cases kick with
      | none => exact Leaves.refl s
      | some v => exact leaves_kickUser s v tableFound
  | switchUserItem u i st tb c agent deskCount => exact leaves_switchCleared s u i st tb c agent deskCount
  | switchPlaying i agent deskCount => exact leaves_switchAttribute s i agent deskCount

theorem leaves_setScore (s : State) (i : Nat) (score : Int) : Leaves s (setScore s i score) := by
  unfold setScore
  split
  · exact Leaves.refl s
  · exact Leaves.of_eq rfl rfl

theorem Records.setScore (h : Records [] s) (i : Nat) (score : Int) : Records [] (setScore s i score) := by
  unfold UserManager.setScore
  split
  · exact h
  · exact h.setItem i _

/-- When a handler goes on, the users who stay are users who could stay while it waited. -/
theorem mayStay_resume (h : Records [] s) {k : Nat} {t : Thread} (ht : s.suspended[k]? = some t) {ok tableFound : Bool}
    {stay : Finset Nat} (hs : MayStay (resumeThread { s with suspended := s.suspended.eraseIdx k } ok tableFound t) stay) :
    MayStay s stay := by
  have hwake := (leaves_resumeThread { s with suspended := s.suspended.eraseIdx k } ok tableFound t).mayStay hs
  have hmem : ∀ t', t' ∈ s.suspended → t' = t ∨ t' ∈ s.suspended.eraseIdx k := fun t' ht' =>
    List.mem_cons.1 ((Waiting.perm_cons_eraseIdx ht).mem_iff.1 ht')
  have hrec := h.wake ht
  refine ⟨hwake.present, ?_, ?_⟩
  · intro u v hw hu
    rcases hmem _ hw with rfl | hw
    · -- The new user has stayed, so the other one is kicked.
      obtain ⟨i, hi⟩ := userItem_of_mem_users (hwake.present u hu)
      simp only [resumeThread, insertLoaded, hi] at hs
      exact not_mem_kickUser hrec hs
    · exact hwake.displaced u v hw hu
  · intro u hw
    rcases hmem _ hw with rfl | hw
    · exact fun hu => not_mem_setUserNull hrec u (hs.present u hu)
    · exact hwake.kicked u hw

/-- An insertion that displaces a user who is not about to leave: in a set that stays, the new user has
the place of that user. -/
theorem Fits.displace (h : Fits cfg s) (userInfo : Sui) {least : Nat} (hleast : least ∈ s.users)
    (hsafe : leaving s least = false) : Fits cfg (insertNew s userInfo (some least)) := by
  intro stay hs
  have hold : ∀ t ∈ s.suspended, t ∈ (insertNew s userInfo (some least)).suspended := fun t ht => List.mem_append_left _ ht
  have huser : ∀ u ∈ stay, u ≠ userInfo.userID → u ∈ s.users := by
    intro u hu hne
    have hm := hs.present u hu
    simp only [insertNew, State.suspend, State.users, List.map_append, List.mem_append, List.map_cons, List.map_nil,
      List.mem_singleton] at hm
    exact hm.resolve_right hne
  rw [leaving, List.any_eq_false] at hsafe
  by_cases hstay : userInfo.userID ∈ stay
  · have hgone : least ∉ stay := hs.displaced _ _ (List.mem_append_right _ (List.mem_singleton_self _)) hstay
    have hswap : MayStay s (insert least (stay.erase userInfo.userID)) := by
      refine ⟨?_, ?_, ?_⟩
      · intro u hu
        rcases Finset.mem_insert.1 hu with rfl | hu
        · exact hleast
        · exact huser u (Finset.mem_of_mem_erase hu) (Finset.ne_of_mem_erase hu)
      · intro u v ht hu hv
        have hpart := hsafe _ ht
        simp only [Bool.or_eq_true, Bool.and_eq_true, decide_eq_true_eq, not_or, not_and] at hpart
        rcases Finset.mem_insert.1 hu with hu | hu
        · rcases Finset.mem_insert.1 hv with hv | hv
          · exact hpart.1 hv (hu ▸ hleast)
          · exact hpart.2 hu (huser v (Finset.mem_of_mem_erase hv) (Finset.ne_of_mem_erase hv))
        · rcases Finset.mem_insert.1 hv with hv | hv
          · exact hpart.1 hv (huser u (Finset.mem_of_mem_erase hu) (Finset.ne_of_mem_erase hu))
          · exact hs.displaced u v (hold _ ht) (Finset.mem_of_mem_erase hu) (Finset.mem_of_mem_erase hv)
      · intro u ht hu
        rcases Finset.mem_insert.1 hu with rfl | hu
        · simpa using hsafe _ ht
        · exact hs.kicked u (hold _ ht) (Finset.mem_of_mem_erase hu)
    have hcard := h _ hswap
    rw [Finset.card_insert_of_notMem fun hm => hgone (Finset.mem_of_mem_erase hm), Finset.card_erase_add_one hstay] at hcard
    exact hcard
  · refine h stay ⟨?_, fun u v ht => hs.displaced u v (hold _ ht), fun u ht => hs.kicked u (hold _ ht)⟩
    intro u hu
    exact huser u hu fun hh => hstay (hh ▸ hu)

end Handlers

/-! ## Runs -/

section Run

variable {cfg : ServerConfig} {s s' : State}

/-- What `cmd_insertUserItem` does up to its wait: nothing, an insertion into a room that is not full, or a displacement. -/
theorem insertUserItem_cases {userInfo : Sui} {least : Nat} (hs : insertUserItem cfg s userInfo least = some s') :
    s' = s ∨ userInfo.userID ∉ s.users ∧
      (s.userItemHash.length < cfg.maxPlayer ∧ s' = insertNew s userInfo none ∨
        displaces cfg s userInfo least = true ∧ least ∈ s.users ∧ s' = insertNew s userInfo (some least)) := by
  unfold insertUserItem at hs
  cases hu : s.userItem userInfo.userID with
  | some i =>
    rw [hu] at hs
    exact Or.inl (Option.some.inj hs).symm
  | none =>
    have hnew : userInfo.userID ∉ s.users := by
      intro hm
      obtain ⟨i, hi⟩ := userItem_of_mem_users hm
      rw [hu] at hi
      cases hi
    rw [hu] at hs
    dsimp only at hs
    split at hs
    · rename_i hfull
      split at hs
      · exact Or.inl (Option.some.inj hs).symm
      · split at hs
        · split at hs
          · rename_i hscore
            refine Or.inr ⟨hnew, Or.inr ⟨?_, ?_, (Option.some.inj hs).symm⟩⟩
            · simpa [displaces, hu, hfull] using hscore
            · obtain ⟨x, hx, -⟩ := (Option.any_eq_true _ _).1 hscore
              obtain ⟨i, hi, -⟩ := Option.bind_eq_some_iff.1 hx
              exact mem_users_of_userItem hi
          · exact Or.inl (Option.some.inj hs).symm
        · nomatch hs
    · rename_i hroom
      exact Or.inr ⟨hnew, Or.inl ⟨Nat.lt_of_not_ge hroom, (Option.some.inj hs).symm⟩⟩

/-- The records and the users, whatever the label is. -/
structure RoomRecords (s : State) : Prop where
  records : Records [] s
  nodup : s.users.Nodup

theorem roomRecords_init : RoomRecords State.init := ⟨records_init, List.nodup_nil⟩

theorem RoomRecords.leaves (h : RoomRecords s) (hl : Leaves s s') (hr : Records [] s') : RoomRecords s' :=
  ⟨hr, h.nodup.sublist hl.users⟩

theorem RoomRecords.insertNew (h : RoomRecords s) {userInfo : Sui} (hnew : userInfo.userID ∉ s.users) (kick : Option Nat) :
    RoomRecords (insertNew s userInfo kick) := by
  refine ⟨h.records.insertNew userInfo kick, ?_⟩
  simp only [UserManager.insertNew, State.suspend, State.users, List.map_append, List.map_cons, List.map_nil]
  refine List.nodup_append.2 ⟨h.nodup, by simp, ?_⟩
  rintro a ha b hb rfl
  exact hnew (List.mem_singleton.1 hb ▸ ha)

/-- A user who comes has a record that nobody else has. -/
theorem RoomRecords.roomStep (h : RoomRecords s) {l : RoomLabel} (hs : roomStep cfg s l = some s') : RoomRecords s' := by
  cases l with
  | score i score =>
    cases hs
    exact h.leaves (leaves_setScore s i score) (h.records.setScore i score)
  | service l =>
    cases l with
    | setUserStatus u st tb c =>
      cases hs
      cases hr : setUserStatus s u st tb c with
      | none => exact h
      | some s' => exact h.leaves (leaves_setUserStatus hr) (h.records.setUserStatus hr)
    | insertUserItem userInfo least =>
      obtain rfl | ⟨hnew, ⟨-, rfl⟩ | ⟨-, -, rfl⟩⟩ := insertUserItem_cases hs
      · exact h
      · exact h.insertNew hnew none
      · exact h.insertNew hnew (some least)
    | switchUserItem u agent deskCount =>
      cases hs
      exact h.leaves (leaves_switchUserItem s u agent deskCount) (h.records.switchUserItem u agent deskCount)
    | kickUser u tableFound =>
      cases hs
      exact h.leaves (leaves_kickUser s u tableFound) (h.records.kickUser u tableFound)
    | clientDisconnect u tableFound =>
      cases hs
      exact h.leaves (leaves_onEventClientDisconnect s u tableFound) (h.records.onEventClientDisconnect u tableFound)
    | resume k ok tableFound =>
      obtain ⟨t, ht, rfl⟩ := Option.map_eq_some_iff.1 hs
      have hl := leaves_resumeThread { s with suspended := s.suspended.eraseIdx k } ok tableFound t
      exact ⟨(h.records.wake ht).resumeThread ok tableFound, h.nodup.sublist hl.users⟩
    | abort k =>
      obtain ⟨t, ht, rfl⟩ := Option.map_eq_some_iff.1 hs
      exact ⟨(h.records.wake ht).forget, h.nodup⟩

/-- A room that is not full fits whatever set of its users stays, and one user more. -/
theorem Fits.room (hlt : s.userItemHash.length < cfg.maxPlayer) (userInfo : Sui) : Fits cfg (insertNew s userInfo none) := by
  intro stay hs
  have hsub : stay ⊆ (insertNew s userInfo none).users.toFinset := fun u hu => List.mem_toFinset.2 (hs.present u hu)
  have hle := (Finset.card_le_card hsub).trans (List.toFinset_card_le _)
  simp only [insertNew, State.suspend, State.users, List.length_map, List.length_append, List.length_cons,
    List.length_nil] at hle
  omega

/-- One label keeps the bound on the users who may stay, under the condition. -/
theorem Fits.roomStep (h : Fits cfg s) (hr : RoomRecords s) {l : RoomLabel} (hc : displaceSafe cfg s l)
    (hs : roomStep cfg s l = some s') : Fits cfg s' := by
  cases l with
  | score i score =>
    cases hs
    exact fun stay hm => h stay ((leaves_setScore s i score).mayStay hm)
  | service l =>
    cases l with
    | setUserStatus u st tb c =>
      cases hs
      cases hn : setUserStatus s u st tb c with
      | none => exact h
      | some s' => exact fun stay hm => h stay ((leaves_setUserStatus hn).mayStay hm)
    | insertUserItem userInfo least =>
      obtain rfl | ⟨-, ⟨hlt, rfl⟩ | ⟨hd, hmem, rfl⟩⟩ := insertUserItem_cases hs
      · exact h
      · exact Fits.room hlt userInfo
      · refine h.displace userInfo hmem ?_
        simpa [displaceSafe, hd] using hc
    | switchUserItem u agent deskCount =>
      cases hs
      exact fun stay hm => h stay ((leaves_switchUserItem s u agent deskCount).mayStay hm)
    | kickUser u tableFound =>
      cases hs
      exact fun stay hm => h stay ((leaves_kickUser s u tableFound).mayStay hm)
    | clientDisconnect u tableFound =>
      cases hs
      exact fun stay hm => h stay ((leaves_onEventClientDisconnect s u tableFound).mayStay hm)
    | resume k ok tableFound =>
      obtain ⟨t, ht, rfl⟩ := Option.map_eq_some_iff.1 hs
      exact fun stay hm => h stay (mayStay_resume hr.records ht hm)
    | abort k =>
      obtain ⟨t, ht, rfl⟩ := Option.map_eq_some_iff.1 hs
      -- A handler that fails was not going to kick anybody.
      have hkicks : t.kicks = false := by simpa [displaceSafe, ht] using hc
      have hmem : ∀ t' ∈ s.suspended, t'.kicks = true → t' ∈ s.suspended.eraseIdx k := by
        intro t' ht' hk
        rcases List.mem_cons.1 ((Waiting.perm_cons_eraseIdx ht).mem_iff.1 ht') with rfl | ht'
        · rw [hkicks] at hk
          cases hk
        · exact ht'
      intro stay hm
      exact h stay ⟨hm.present, fun u v hw => hm.displaced u v (hmem _ hw rfl), fun u hw => hm.kicked u (hmem _ hw rfl)⟩

end Run

/-- No handler that waits is going to kick a user. -/
def noKickWaits (s : State) : Bool := s.suspended.all fun t => !t.kicks

/-- Where no kick waits, the bound is one on all users. -/
theorem fits_iff {cfg : ServerConfig} {s : State} (hr : RoomRecords s) (hw : noKickWaits s = true) :
    Fits cfg s ↔ s.userItemHash.length ≤ cfg.maxPlayer := by
  have hnone : ∀ t ∈ s.suspended, t.kicks = false := by simpa [noKickWaits] using hw
  have hcard : s.users.toFinset.card = s.userItemHash.length := by
    rw [List.toFinset_card_of_nodup hr.nodup, State.users, List.length_map]
  have hall : ∀ stay, MayStay s stay ↔ stay ⊆ s.users.toFinset := by
    intro stay
    refine ⟨fun hs u hu => List.mem_toFinset.2 (hs.present u hu),
      fun hs => ⟨fun u hu => List.mem_toFinset.1 (hs hu), ?_, ?_⟩⟩
    · intro u v ht
      cases hnone _ ht
    · intro u ht
      cases hnone _ ht
  constructor
  · intro h
    rw [← hcard]
    exact h _ ((hall _).2 (Finset.Subset.refl _))
  · intro h stay hs
    rw [← hcard] at h
    exact (Finset.card_le_card ((hall stay).1 hs)).trans h

/-- From every reachable state with at most `MaxPlayer` users in which no kick waits, and in every run whose steps meet the
condition: in every state in which no kick and no displacement waits, the room has at most `MaxPlayer` users. -/
theorem room_within_maxPlayer_of_displaceSafe {cfg : ServerConfig} {s t : State} {before labels : List RoomLabel}
    (hreach : Steps.exec (roomStep cfg) State.init before = some s) (hidle : noKickWaits s)
    (hle : s.userItemHash.length ≤ cfg.maxPlayer)
    (hsafe : Steps.Meets (roomStep cfg) (fun s l => displaceSafe cfg s l) s labels)
    (hrun : Steps.exec (roomStep cfg) s labels = some t) (hdone : noKickWaits t) :
    t.userItemHash.length ≤ cfg.maxPlayer := by
  have hrec : ∀ (ls : List RoomLabel) (s t : State), RoomRecords s → Steps.exec (roomStep cfg) s ls = some t →
    RoomRecords t :=
    fun ls s t h hr => Steps.exec_invariant (C := fun _ _ => True) (fun _ _ _ h _ hs => h.roomStep hs) ls s t h
      (Steps.meets_of_forall (fun _ _ => trivial) ls s) hr
  have hs := hrec before State.init s roomRecords_init hreach
  have hinv := Steps.exec_invariant (I := fun s => RoomRecords s ∧ Fits cfg s) (C := fun s l => displaceSafe cfg s l)
    (fun _ _ _ h hc hstep => ⟨h.1.roomStep hstep, h.2.roomStep h.1 hc hstep⟩) labels s t
      ⟨hs, (fits_iff hs hidle).2 hle⟩ hsafe hrun
  exact (fits_iff hinv.1 hdone).1 hinv.2

/-- The attributes of a user who comes with a score. -/
def guest (userID : Nat) (score : Int) : Sui :=
  ⟨userID, invalidTable, invalidChair, .usFree, 900 + userID, 1, 20, false, score⟩

/-- A room for one user: the user 2 displaces the user 1, and after that the user 3 the user 2. -/
theorem room_within_maxPlayer_of_displaceSafe_in_turn :
    ∃ s t, Steps.exec (roomStep ⟨2010, 1⟩) State.init
      [.service (.insertUserItem (guest 1 10) 0), .service (.resume 0 true true)] = some s ∧
      Steps.exec (roomStep ⟨2010, 1⟩) s [.service (.insertUserItem (guest 2 20) 1), .service (.resume 0 true true),
        .service (.insertUserItem (guest 3 30) 2), .service (.resume 1 true true)] = some t ∧
      t.users = [3] ∧ t.userItemHash.length ≤ 1 := by
  refine ⟨_, _, rfl, rfl, by decide, ?_⟩
  exact @room_within_maxPlayer_of_displaceSafe ⟨2010, 1⟩ _ _
    [.service (.insertUserItem (guest 1 10) 0), .service (.resume 0 true true)]
    [.service (.insertUserItem (guest 2 20) 1), .service (.resume 0 true true),
      .service (.insertUserItem (guest 3 30) 2), .service (.resume 1 true true)]
    rfl (by decide) (by decide) (by decide +kernel) rfl (by decide)

/-- A room for one user: the users 2 and 3 both displace the user 1 while the data of the user 2 are loaded,
and both of them stay. -/
theorem two_insertions_displace_one_user :
    ∃ s t, Steps.exec (roomStep ⟨2010, 1⟩) State.init
      [.service (.insertUserItem (guest 1 10) 0), .service (.resume 0 true true)] = some s ∧
      s.suspended = [] ∧ s.userItemHash.length = 1 ∧
      Steps.exec (roomStep ⟨2010, 1⟩) s
        [.service (.insertUserItem (guest 2 20) 1), .service (.insertUserItem (guest 3 30) 1),
        .service (.resume 0 true true), .service (.resume 0 true true), .service (.resume 0 true true),
        .service (.resume 0 true true)] = some t ∧
      t.suspended = [] ∧ t.users = [2, 3] :=
  ⟨_, _, rfl, by decide, by decide, rfl, by decide, by decide⟩

end SasyServer.UserManager
