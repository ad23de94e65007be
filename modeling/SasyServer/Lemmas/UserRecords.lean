import Mathlib.Data.List.Nodup
import SasyServer.Lib.Waiting
import SasyServer.UserManager.Service

/-!
# Who holds a user record

`_userItemHash`, a handler that is going to release it, or the running handler holds a record, no two of them hold the same
one, and a record that is held is in use. Every handler of the user manager keeps this, whatever else it does.
-/

namespace SasyServer.UserManager

/-- The record a handler is going to release. -/
def Thread.item : Thread → Option Nat
  | .logout _ i => some i
  | .release _ i => some i
  | _ => none

/-- The records that are held; `own` are those of the running handler. -/
def held (own : List Nat) (s : State) : List Nat := s.userItemHash.map Prod.snd ++ s.suspended.filterMap Thread.item ++ own

/-- Every record has one holder and is in use. -/
structure Records (own : List Nat) (s : State) : Prop where
  wf : s.buffer.WF
  nodup : (held own s).Nodup
  inUse : ∀ i ∈ held own s, s.buffer.InUse i ∧ (s.items i).isSome

theorem records_init : Records [] State.init :=
  ⟨CItemBuffer.wf_empty, by simp [held, State.init], by simp [held, State.init]⟩

section Primitives

variable {own : List Nat} {s : State}

theorem mem_of_userItem {u i : Nat} (h : s.userItem u = some i) : (u, i) ∈ s.userItemHash := by
  rw [State.userItem, Option.map_eq_some_iff] at h
  obtain ⟨⟨u', i'⟩, hf, rfl⟩ := h
  have : u' = u := by simpa using List.find?_some hf
  exact this ▸ List.mem_of_find?_eq_some hf

theorem mem_held_of_userItem {u i : Nat} (h : s.userItem u = some i) : i ∈ held own s := by
  refine List.mem_append_left _ (List.mem_append_left _ ?_)
  exact List.mem_map.2 ⟨_, mem_of_userItem h, rfl⟩

/-- Another user's entry of the hash is not touched when one is removed. -/
theorem userItem_filter {u v : Nat} (hv : v ≠ u) :
    State.userItem { s with userItemHash := s.userItemHash.filter fun p => p.1 ≠ u } v = s.userItem v := by
  simp only [State.userItem, List.find?_filter]
  congr 2
  funext p
  by_cases hp : p.1 = v
  · simp [hp, hv]
  · simp [hp]

/-- The log does not matter. -/
theorem Records.emit (h : Records own s) (e : Event) : Records own (s.emit e) := ⟨h.wf, h.nodup, h.inUse⟩

/-- A record gets other values. -/
theorem Records.setItem (h : Records own s) (i : Nat) (x : Sui) : Records own (s.setItem i (some x)) := by
  refine ⟨h.wf, h.nodup, ?_⟩
  intro j hj
  refine ⟨(h.inUse j hj).1, ?_⟩
  show (Function.update s.items i (some x) j).isSome
  by_cases hji : j = i
  · subst hji
    rw [Function.update_self]
    rfl
  · rw [Function.update_of_ne hji]
    exact (h.inUse j hj).2

/-- The write of `setUserStatus`. -/
theorem Records.setStatusAttribute (h : Records own s) (u i : Nat) (f : Sui → Sui) :
    Records own (setStatusAttribute s u i f) := by
  unfold UserManager.setStatusAttribute
  split
  · exact h.emit _
  · exact (h.setItem i _).emit _

/-- The running handler begins to wait, and keeps the record it is going to release. -/
theorem Records.suspend {t : Thread} (h : Records t.item.toList s) : Records [] (s.suspend t) := by
  have hheld : held [] (s.suspend t) = held t.item.toList s := by
    simp only [held, State.suspend, List.filterMap_append, List.append_nil, List.append_assoc]
    congr 2
  exact ⟨h.wf, by rw [hheld]; exact h.nodup, by rw [hheld]; exact h.inUse⟩

/-- A handler that has waited becomes the running one. -/
theorem Records.wake (h : Records [] s) {k : Nat} {t : Thread} (hk : s.suspended[k]? = some t) :
    Records t.item.toList { s with suspended := s.suspended.eraseIdx k } := by
  have hperm : (held [] s).Perm (held t.item.toList { s with suspended := s.suspended.eraseIdx k }) := by
    simp only [held, List.append_nil, List.append_assoc]
    refine List.Perm.append_left _ ?_
    refine ((Waiting.perm_cons_eraseIdx hk).filterMap Thread.item).trans ?_
    rw [List.filterMap_cons]
    cases t.item with
    | none => simp
    | some i => exact @List.perm_append_comm _ [i] _
  exact ⟨h.wf, hperm.nodup_iff.1 h.nodup, fun i hi => h.inUse i (hperm.mem_iff.2 hi)⟩

/-- The running handler forgets the records it was going to release. -/
theorem Records.forget (h : Records own s) : Records [] s := by
  have hsub : (held [] s).Sublist (held own s) := by
    simp only [held, List.append_nil]
    exact List.sublist_append_left _ _
  exact ⟨h.wf, h.nodup.sublist hsub, fun i hi => h.inUse i (hsub.subset hi)⟩

/-- `CItemBuffer.release`. -/
theorem Records.release {i : Nat} (h : Records [i] s) :
    Records [] { s.setItem i none with buffer := s.buffer.release i } := by
  have hi : i ∈ held [i] s := by simp [held]
  have hnot : i ∉ held [] s := by
    have hn := h.nodup
    rw [show held [i] s = held [] s ++ [i] by simp [held], List.nodup_append] at hn
    exact fun hm => hn.2.2 i hm i (List.mem_singleton_self i) rfl
  obtain ⟨hwf, hin⟩ := CItemBuffer.release_spec h.wf (h.inUse i hi).1
  have hf := h.forget
  refine ⟨hwf, hf.nodup, ?_⟩
  intro j hj
  have hj' : j ∈ held [] s := hj
  have hji : j ≠ i := fun hh => hnot (hh ▸ hj')
  refine ⟨(hin j).2 ⟨hji, (hf.inUse j hj').1⟩, ?_⟩
  show (Function.update s.items i none j).isSome
  rw [Function.update_of_ne hji]
  exact (hf.inUse j hj').2

/-- `setUserStatus` with `US_NULL`. -/
theorem Records.setNull (h : Records [] s) {u i : Nat} (hu : s.userItem u = some i) :
    Records [] ({ s with userItemHash := s.userItemHash.filter fun p => p.1 ≠ u }.suspend (.logout u i)) := by
  refine Records.suspend ?_
  have hmem := mem_of_userItem hu
  have hnodup := h.nodup
  simp only [held, List.append_nil, List.nodup_append] at hnodup
  obtain ⟨hn1, hn2, hdisj⟩ := hnodup
  have hsub : ∀ j ∈ (s.userItemHash.filter fun p => p.1 ≠ u).map Prod.snd, j ∈ s.userItemHash.map Prod.snd := fun j hj =>
    (List.filter_sublist.map Prod.snd).subset hj
  refine ⟨h.wf, ?_, ?_⟩
  · simp only [held, Thread.item, Option.toList_some, List.nodup_append, List.mem_append]
    refine ⟨⟨hn1.sublist (List.filter_sublist.map Prod.snd), hn2, fun a ha b hb => hdisj a (hsub a ha) b hb⟩, by simp, ?_⟩
    rintro a (ha | ha) b hb rfl
    · -- The record of the user is that of no other user.
      rw [List.mem_singleton] at hb
      subst hb
      obtain ⟨⟨v, a'⟩, hp, rfl⟩ := List.mem_map.1 ha
      obtain ⟨hp, hne⟩ := List.mem_filter.1 hp
      have hinj := List.inj_on_of_nodup_map hn1 hp hmem rfl
      simp only [Prod.mk.injEq, and_true] at hinj
      simp [hinj] at hne
    · rw [List.mem_singleton] at hb
      subst hb
      exact hdisj a (List.mem_map.2 ⟨_, hmem, rfl⟩) a ha rfl
  · intro j hj
    refine h.inUse j ?_
    simp only [held, Thread.item, Option.toList_some, List.mem_append, List.mem_singleton, List.append_nil] at hj ⊢
    rcases hj with (hj | hj) | rfl
    · exact Or.inl (hsub j hj)
    · exact Or.inr hj
    · exact Or.inl (List.mem_map.2 ⟨_, hmem, rfl⟩)

/-- `cmd_insertUserItem` for a user without a record. -/
theorem Records.insertNew (h : Records [] s) (userInfo : Sui) (kick : Option Nat) :
    Records [] (insertNew s userInfo kick) := by
  obtain ⟨hwf, hfresh, hin⟩ := CItemBuffer.allocate_spec h.wf
  have hnot : s.buffer.allocate.1 ∉ held [] s := fun hm => hfresh (h.inUse _ hm).1
  unfold UserManager.insertNew
  refine Records.suspend (t := .insert userInfo.userID kick) ?_
  show Records [] _
  have hperm : (held [] { s with
      items := Function.update s.items s.buffer.allocate.1 (some userInfo)
      userItemHash := s.userItemHash ++ [(userInfo.userID, s.buffer.allocate.1)]
      buffer := s.buffer.allocate.2 }).Perm (s.buffer.allocate.1 :: held [] s) := by
    simp only [held, List.map_append, List.map_cons, List.map_nil, List.append_nil, List.append_assoc]
    exact List.perm_middle
  refine ⟨hwf, hperm.nodup_iff.2 (List.nodup_cons.2 ⟨hnot, h.nodup⟩), ?_⟩
  intro j hj
  show s.buffer.allocate.2.InUse j ∧ (Function.update s.items s.buffer.allocate.1 (some userInfo) j).isSome
  rw [hin]
  rcases List.mem_cons.1 (hperm.mem_iff.1 hj) with rfl | hj
  · exact ⟨Or.inl rfl, by rw [Function.update_self]; rfl⟩
  · have hne : j ≠ s.buffer.allocate.1 := fun hh => hnot (hh ▸ hj)
    exact ⟨Or.inr (h.inUse j hj).1, by rw [Function.update_of_ne hne]; exact (h.inUse j hj).2⟩

end Primitives

section Handlers

variable {cfg : ServerConfig} {s s' : State}

/-- `setUserStatus`, up to its first wait. -/
theorem Records.setUserStatus (h : Records [] s) {u : Nat} {st : UserStatus} {tb c : Int}
    (hs : setUserStatus s u st tb c = some s') : Records [] s' := by
  unfold UserManager.setUserStatus at hs
  cases hu : s.userItem u with
  | none =>
    rw [hu] at hs
    cases hs
    exact h
  | some i =>
    rw [hu, Option.map_eq_some_iff] at hs
    obtain ⟨x, -, rfl⟩ := hs
    cases st with
    | usNull => exact h.setNull hu
    | usOffline =>
      dsimp only
      split
      · exact h.setStatusAttribute u i _
      · exact Records.suspend h
    | usFree => exact h.setStatusAttribute u i _
    | usSit => exact h.setStatusAttribute u i _
    | usReady => exact h.setStatusAttribute u i _
    | usLookon => exact h.setStatusAttribute u i _
    | usPlaying => exact h.setStatusAttribute u i _

theorem Records.setUserNull (h : Records [] s) (u : Nat) : Records [] (setUserNull s u) := by
  unfold UserManager.setUserNull
  cases hs : UserManager.setUserStatus s u .usNull invalidTable invalidChair with
  | none => exact h
  | some s' => exact h.setUserStatus hs

theorem Records.kickUser (h : Records [] s) (u : Nat) (tableFound : Bool) : Records [] (kickUser s u tableFound) := by
  unfold UserManager.kickUser
  split
  · exact Records.suspend h
  · exact h.setUserNull u

/-- The client of a user is gone: the record is changed or released. -/
theorem Records.onEventClientDisconnect (h : Records [] s) (u : Nat) (tableFound : Bool) :
    Records [] (onEventClientDisconnect cfg s u tableFound) := by
  unfold UserManager.onEventClientDisconnect
  split
  · exact h
  · split
    · split
      · exact Records.suspend h
      · exact h
    · exact h.setUserNull u

theorem Records.switchAttribute (h : Records [] s) (i agent : Nat) (deskCount : Int) :
    Records [] (switchAttribute s i agent deskCount) := by
  unfold UserManager.switchAttribute
  split
  · exact h
  · exact h.setItem i _

/-- A record is changed behind a wait. -/
theorem Records.switchCleared (h : Records [] s) (u i : Nat) (st : UserStatus) (tb c : Int) (agent : Nat) (deskCount : Int) :
    Records [] (switchCleared s u i st tb c agent deskCount) := by
  unfold UserManager.switchCleared
  split
  · split
    · exact h.switchAttribute i agent deskCount
    · cases hs : UserManager.setUserStatus s u .usPlaying tb c with
      | none => exact h
      | some s' => exact Records.suspend (t := .switchPlaying i agent deskCount) (h.setUserStatus hs)
  · exact h.switchAttribute i agent deskCount

/-- A record is changed at once, or a wait begins. -/
theorem Records.switchUserItem (h : Records [] s) (u agent : Nat) (deskCount : Int) :
    Records [] (switchUserItem s u agent deskCount) := by
  unfold UserManager.switchUserItem
  split
  · exact h
  · split
    · exact h
    · split
      · exact Records.suspend h
      · exact h.switchCleared _ _ _ _ _ _ _

/-- A handler that goes on after a wait. -/
theorem Records.resumeThread {t : Thread} (h : Records t.item.toList s) (ok tableFound : Bool) :
    Records [] (resumeThread s ok tableFound t) := by
  cases t with
  | offline u i tb c => exact h.setStatusAttribute u i _
  | logout u i =>
    simp only [UserManager.resumeThread]
    split
    · exact Records.suspend (t := .release u i) h
    · exact h.forget
  | release u i => exact h.release
  | kick u => exact h.setUserNull u
  | disconnect u => exact h.setUserNull u
  | insert u kick =>
    simp only [UserManager.resumeThread, insertLoaded]
    split
    · exact h
    · cases kick with
      | none => exact h
      | some v => exact h.kickUser v tableFound
  | switchUserItem u i st tb c agent deskCount => exact h.switchCleared u i st tb c agent deskCount
  | switchPlaying i agent deskCount => exact h.switchAttribute i agent deskCount

/-- `cmd_insertUserItem` changes nothing, or makes a record for a user without one. -/
theorem insertUserItem_new {userInfo : Sui} {leastUserID : Nat} (hs : insertUserItem cfg s userInfo leastUserID = some s') :
    s' = s ∨ s.userItem userInfo.userID = none ∧ ∃ kick, s' = UserManager.insertNew s userInfo kick := by
  unfold UserManager.insertUserItem at hs
  cases hu : s.userItem userInfo.userID with
  | some i =>
    rw [hu] at hs
    exact Or.inl (Option.some.inj hs).symm
  | none =>
    rw [hu] at hs
    dsimp only at hs
    repeat' split at hs
    all_goals cases hs
    all_goals first | exact Or.inl rfl | exact Or.inr ⟨rfl, _, rfl⟩

/-- One label. -/
theorem Records.step (h : Records [] s) (l : Label) (hs : step cfg s l = some s') : Records [] s' := by
  cases l with
  | setUserStatus u st tb c =>
    cases hs
    cases hr : UserManager.setUserStatus s u st tb c with
    | none => exact h
    | some s' => exact h.setUserStatus hr
  | insertUserItem userInfo least =>
    obtain rfl | ⟨-, kick, rfl⟩ := insertUserItem_new hs
    · exact h
    · exact h.insertNew userInfo kick
  | switchUserItem u agent deskCount => cases hs; exact h.switchUserItem u agent deskCount
  | kickUser u tableFound => cases hs; exact h.kickUser u tableFound
  | clientDisconnect u tableFound => cases hs; exact h.onEventClientDisconnect u tableFound
  | resume k ok tableFound =>
    simp only [UserManager.step, Option.map_eq_some_iff] at hs
    obtain ⟨t, ht, rfl⟩ := hs
    exact (h.wake ht).resumeThread ok tableFound
  | abort k =>
    simp only [UserManager.step, Option.map_eq_some_iff] at hs
    obtain ⟨t, ht, rfl⟩ := hs
    exact (h.wake ht).forget

end Handlers

end SasyServer.UserManager
