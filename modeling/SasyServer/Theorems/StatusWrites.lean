import SasyServer.Lemmas.UserRecords

/-!
# Theorem: a status is written to the record of its user, as long as no user leaves during a save

`setUserStatus` with `US_OFFLINE` finds the record of the user, waits for the user's data to be saved, and then writes the
record; with `US_NULL` it takes the record out of `_userItemHash` and, after other waits, puts it into the pool. The
condition `nullSafe` is on the state in which a user is given `US_NULL`: no `US_OFFLINE` of that user waits.

The invariant says who holds a record: `_userItemHash`, a handler that is going to release it, or the running handler, and no
two of them hold the same one.
-/

namespace SasyServer.UserManager

/-- The user whom a label gives `US_NULL`. -/
def givesNull (s : State) : Label → Option Nat
  | .setUserStatus userID .usNull _ _ => some userID
  | .kickUser userID tableFound => if standsUp s userID tableFound then none else some userID
  | .clientDisconnect userID tableFound => if standsUp s userID tableFound then none else some userID
  | .resume k _ tableFound =>
    match s.suspended[k]? with
    | some (.kick userID) => some userID
    | some (.disconnect userID) => some userID
    | some (.insert _ (some userIDToKick)) => if standsUp s userIDToKick tableFound then none else some userIDToKick
    | _ => none
  | _ => none

/-- A `US_OFFLINE` of the user waits. -/
def offlineWaits (s : State) (userID : Nat) : Bool :=
  s.suspended.any fun t => match t with
    | .offline u _ _ _ => u = userID
    | _ => false

/-- The condition on a label in the state in which it is taken. -/
def nullSafe (s : State) (l : Label) : Bool := (givesNull s l).all fun userID => !offlineWaits s userID

/-- A write to the record the user has, which is not in the pool. -/
def Event.Right : Event → Prop
  | .write _ i mapped released => mapped = some i ∧ released = false
  | .unused _ _ => False

/-- Every record has one holder and is in use, a `US_OFFLINE` that waits has the record of its user, and
all writes were right. -/
structure ItemInv (own : List Nat) (s : State) : Prop where
  wf : s.buffer.WF
  nodup : (held own s).Nodup
  inUse : ∀ i ∈ held own s, s.buffer.InUse i ∧ (s.items i).isSome
  offline : ∀ u i t c, .offline u i t c ∈ s.suspended → s.userItem u = some i
  log : ∀ e ∈ s.log, e.Right

theorem ItemInv.records {own : List Nat} {s : State} (h : ItemInv own s) : Records own s := ⟨h.wf, h.nodup, h.inUse⟩

theorem Records.itemInv {own : List Nat} {s : State} (h : Records own s)
    (offline : ∀ u i t c, .offline u i t c ∈ s.suspended → s.userItem u = some i) (log : ∀ e ∈ s.log, e.Right) :
    ItemInv own s :=
  ⟨h.wf, h.nodup, h.inUse, offline, log⟩

theorem itemInv_init : ItemInv [] State.init := records_init.itemInv (by simp [State.init]) (by simp [State.init])

section Primitives

variable {own : List Nat} {s : State}

/-- A record of the hash gets other values. -/
theorem ItemInv.setItem (h : ItemInv own s) (i : Nat) (x : Sui) : ItemInv own (s.setItem i (some x)) :=
  (h.records.setItem i x).itemInv h.offline h.log

/-- The write of `setUserStatus` to the record the user has. -/
theorem ItemInv.setStatusAttribute (h : ItemInv own s) {u i : Nat} (hu : s.userItem u = some i) (f : Sui → Sui) :
    ItemInv own (setStatusAttribute s u i f) := by
  obtain ⟨huse, hsome⟩ := h.inUse i (mem_held_of_userItem hu)
  have hrecords := h.records.setStatusAttribute u i f
  unfold UserManager.setStatusAttribute at hrecords ⊢
  split at hrecords
  · rename_i hn
    rw [hn] at hsome
    cases hsome
  · refine hrecords.itemInv h.offline ?_
    intro e he
    rcases List.mem_cons.1 he with rfl | he
    · exact ⟨hu, by simpa using huse.2⟩
    · exact h.log e he

/-- The running handler begins to wait, and keeps the record it is going to release. -/
theorem ItemInv.suspend {t : Thread} (h : ItemInv t.item.toList s)
    (ht : ∀ u i tb c, t = .offline u i tb c → s.userItem u = some i) : ItemInv [] (s.suspend t) := by
  refine h.records.suspend.itemInv ?_ h.log
  intro u i tb c hm
  simp only [State.suspend, List.mem_append, List.mem_singleton] at hm
  rcases hm with hm | hm
  · exact h.offline u i tb c hm
  · exact ht u i tb c hm.symm

/-- A wait of a handler that has no record to release. -/
theorem ItemInv.suspend_nil {t : Thread} (h : ItemInv [] s) (hn : t.item = none)
    (ht : ∀ u i tb c, t = .offline u i tb c → s.userItem u = some i) : ItemInv [] (s.suspend t) :=
  ItemInv.suspend (by rw [hn]; exact h) ht

/-- A handler that has waited becomes the running one. -/
theorem ItemInv.wake (h : ItemInv [] s) {k : Nat} {t : Thread} (hk : s.suspended[k]? = some t) :
    ItemInv t.item.toList { s with suspended := s.suspended.eraseIdx k } := by
  refine (h.records.wake hk).itemInv ?_ h.log
  intro u i tb c hm
  exact h.offline u i tb c (List.mem_of_mem_eraseIdx hm)

/-- The running handler forgets the records it was going to release. -/
theorem ItemInv.forget (h : ItemInv own s) : ItemInv [] s := h.records.forget.itemInv h.offline h.log

/-- `CItemBuffer.release`. -/
theorem ItemInv.release {i : Nat} (h : ItemInv [i] s) : ItemInv [] { s.setItem i none with buffer := s.buffer.release i } :=
  h.records.release.itemInv h.offline h.log

/-- `setUserStatus` with `US_NULL`, when no `US_OFFLINE` of the user waits. -/
theorem ItemInv.setNull (h : ItemInv [] s) {u i : Nat} (hu : s.userItem u = some i) (hw : offlineWaits s u = false) :
    ItemInv [] ({ s with userItemHash := s.userItemHash.filter fun p => p.1 ≠ u }.suspend (.logout u i)) := by
  refine (h.records.setNull hu).itemInv ?_ h.log
  intro v j tb c hm
  simp only [State.suspend, List.mem_append, List.mem_singleton, reduceCtorEq, or_false] at hm
  have hne : v ≠ u := by
    rintro rfl
    have : offlineWaits s v = true := List.any_eq_true.2 ⟨_, hm, by simp⟩
    rw [hw] at this
    cases this
  exact (userItem_filter hne).trans (h.offline v j tb c hm)

/-- `cmd_insertUserItem` for a user without a record. -/
theorem ItemInv.insertNew (h : ItemInv [] s) (userInfo : Sui) (kick : Option Nat) :
    ItemInv [] (insertNew s userInfo kick) := by
  refine (h.records.insertNew userInfo kick).itemInv ?_ h.log
  intro v j tb c hm
  simp only [UserManager.insertNew, State.suspend, List.mem_append, List.mem_singleton, reduceCtorEq, or_false] at hm
  have hv := h.offline v j tb c hm
  simp only [UserManager.insertNew, State.suspend, State.userItem, List.find?_append, Option.map_eq_some_iff] at hv ⊢
  obtain ⟨p, hp, hpj⟩ := hv
  exact ⟨p, by rw [hp]; rfl, hpj⟩

end Primitives

section Handlers

variable {cfg : ServerConfig} {s s' : State}

/-- `setUserStatus`, up to its first wait. -/
theorem ItemInv.setUserStatus (h : ItemInv [] s) {u : Nat} {st : UserStatus} {tb c : Int}
    (hw : st = .usNull → offlineWaits s u = false) (hs : setUserStatus s u st tb c = some s') : ItemInv [] s' := by
  unfold UserManager.setUserStatus at hs
  cases hu : s.userItem u with
  | none =>
    rw [hu] at hs
    cases hs
    exact h
  | some i =>
    rw [hu, Option.map_eq_some_iff] at hs
    obtain ⟨x, -, rfl⟩ := hs
    cases st with
    | usNull => exact h.setNull hu (hw rfl)
    | usOffline =>
      dsimp only
      split
      · exact h.setStatusAttribute hu _
      · refine h.suspend_nil rfl ?_
        intro u' i' tb' c' hh
        cases hh
        exact hu
    | usFree => exact h.setStatusAttribute hu _
    | usSit => exact h.setStatusAttribute hu _
    | usReady => exact h.setStatusAttribute hu _
    | usLookon => exact h.setStatusAttribute hu _
    | usPlaying => exact h.setStatusAttribute hu _

theorem ItemInv.setUserNull (h : ItemInv [] s) {u : Nat} (hw : offlineWaits s u = false) : ItemInv [] (setUserNull s u) := by
  unfold UserManager.setUserNull
  cases hs : UserManager.setUserStatus s u .usNull invalidTable invalidChair with
  | none => exact h
  | some s' => exact h.setUserStatus (fun _ => hw) hs

theorem ItemInv.kickUser (h : ItemInv [] s) {u : Nat} {tableFound : Bool}
    (hw : standsUp s u tableFound = false → offlineWaits s u = false) : ItemInv [] (kickUser s u tableFound) := by
  unfold UserManager.kickUser
  split
  · exact h.suspend_nil rfl (fun _ _ _ _ hh => by cases hh)
  · rename_i hst
    exact h.setUserNull (hw (by simpa using hst))

/-- A client is gone: unless the user stands up first, no `US_OFFLINE` waits for the record that is released. -/
theorem ItemInv.onEventClientDisconnect (h : ItemInv [] s) {u : Nat} {tableFound : Bool}
    (hw : standsUp s u tableFound = false → offlineWaits s u = false) :
    ItemInv [] (onEventClientDisconnect cfg s u tableFound) := by
  unfold UserManager.onEventClientDisconnect
  split
  · exact h
  · split
    · split
      · exact h.suspend_nil rfl (fun _ _ _ _ hh => by cases hh)
      · exact h
    · rename_i hst
      exact h.setUserNull (hw (by simpa using hst))

/-- The new record is in use from now on. -/
theorem ItemInv.insertUserItem (h : ItemInv [] s) {userInfo : Sui} {leastUserID : Nat}
    (hs : insertUserItem cfg s userInfo leastUserID = some s') : ItemInv [] s' := by
  unfold UserManager.insertUserItem at hs
  cases hu : s.userItem userInfo.userID with
  | some i =>
    rw [hu] at hs
    cases hs
    exact h
  | none =>
    rw [hu] at hs
    dsimp only at hs
    repeat' split at hs
    all_goals cases hs
    all_goals first | exact h | exact h.insertNew userInfo _

theorem ItemInv.switchAttribute (h : ItemInv [] s) (i agent : Nat) (deskCount : Int) :
    ItemInv [] (switchAttribute s i agent deskCount) := by
  unfold UserManager.switchAttribute
  split
  · exact h
  · exact h.setItem i _

/-- A user who is switched keeps the record. -/
theorem ItemInv.switchCleared (h : ItemInv [] s) (u i : Nat) (st : UserStatus) (tb c : Int) (agent : Nat) (deskCount : Int) :
    ItemInv [] (switchCleared s u i st tb c agent deskCount) := by
  unfold UserManager.switchCleared
  split
  · split
    · exact h.switchAttribute i agent deskCount
    · cases hs : UserManager.setUserStatus s u .usPlaying tb c with
      | none => exact h
      | some s' =>
        have h' := h.setUserStatus (fun hh => by cases hh) hs
        exact h'.suspend_nil rfl (fun _ _ _ _ hh => by cases hh)
  · exact h.switchAttribute i agent deskCount

/-- So it is when the former agent has to be cleared first. -/
theorem ItemInv.switchUserItem (h : ItemInv [] s) (u agent : Nat) (deskCount : Int) :
    ItemInv [] (switchUserItem s u agent deskCount) := by
  unfold UserManager.switchUserItem
  split
  · exact h
  · split
    · exact h
    · split
      · exact h.suspend_nil rfl (fun _ _ _ _ hh => by cases hh)
      · exact h.switchCleared _ _ _ _ _ _ _

/-- A handler that goes on after a wait. `hoff` is what the invariant says of it while it waits. -/
theorem ItemInv.resumeThread {t : Thread} (h : ItemInv t.item.toList s) (ok tableFound : Bool)
    (hoff : ∀ u i tb c, t = .offline u i tb c → s.userItem u = some i)
    (hkick : ∀ u, t = .kick u ∨ t = .disconnect u → offlineWaits s u = false)
    (hins : ∀ u v, t = .insert u (some v) → standsUp s v tableFound = false → offlineWaits s v = false) :
    ItemInv [] (resumeThread s ok tableFound t) := by
  cases t with
  | offline u i tb c => exact h.setStatusAttribute (hoff u i tb c rfl) _
  | logout u i =>
    simp only [UserManager.resumeThread]
    split
    · exact ItemInv.suspend (t := .release u i) h (fun _ _ _ _ hh => by cases hh)
    · exact h.forget
  | release u i => exact h.release
  | kick u => exact h.setUserNull (hkick u (Or.inl rfl))
  | disconnect u => exact h.setUserNull (hkick u (Or.inr rfl))
  | insert u kick =>
    simp only [UserManager.resumeThread, insertLoaded]
    split
    · exact h
    · cases kick with
      | none => exact h
      | some v => exact h.kickUser (hins u v rfl)
  | switchUserItem u i st tb c agent deskCount => exact h.switchCleared u i st tb c agent deskCount
  | switchPlaying i agent deskCount => exact h.switchAttribute i agent deskCount

/-- A handler that waits in another place does not hold up a kick. -/
theorem offlineWaits_eraseIdx {u k : Nat} (h : offlineWaits s u = false) :
    offlineWaits { s with suspended := s.suspended.eraseIdx k } u = false := by
  rw [offlineWaits, List.any_eq_false] at h ⊢
  exact fun t ht => h t (List.mem_of_mem_eraseIdx ht)

/-- One label keeps the invariant, under the condition. -/
theorem ItemInv.step (h : ItemInv [] s) (l : Label) (hc : nullSafe s l) (hs : step cfg s l = some s') : ItemInv [] s' := by
  cases l with
  | setUserStatus u st tb c =>
    cases hs
    cases hr : UserManager.setUserStatus s u st tb c with
    | none => exact h
    | some s' =>
      refine h.setUserStatus ?_ hr
      intro hn
      subst hn
      simpa [nullSafe, givesNull] using hc
  | insertUserItem userInfo least => exact h.insertUserItem hs
  | switchUserItem u agent deskCount => cases hs; exact h.switchUserItem u agent deskCount
  | kickUser u tableFound =>
    cases hs
    exact h.kickUser fun hst => by simpa [nullSafe, givesNull, hst] using hc
  | clientDisconnect u tableFound =>
    cases hs
    exact h.onEventClientDisconnect fun hst => by simpa [nullSafe, givesNull, hst] using hc
  | resume k ok tableFound =>
    simp only [UserManager.step, Option.map_eq_some_iff] at hs
    obtain ⟨t, ht, rfl⟩ := hs
    refine (h.wake ht).resumeThread ok tableFound ?_ ?_ ?_
    · intro u i tb c he
      subst he
      exact h.offline u i tb c (List.mem_of_getElem? ht)
    · intro u he
      refine offlineWaits_eraseIdx ?_
      rcases he with rfl | rfl
      · simpa [nullSafe, givesNull, ht] using hc
      · simpa [nullSafe, givesNull, ht] using hc
    · intro u v he hst
      subst he
      refine offlineWaits_eraseIdx ?_
      have hst' : standsUp s v tableFound = false := hst
      simpa [nullSafe, givesNull, ht, hst'] using hc
  | abort k =>
    simp only [UserManager.step, Option.map_eq_some_iff] at hs
    obtain ⟨t, ht, rfl⟩ := hs
    exact (h.wake ht).forget

end Handlers

/-- Every run in which each `US_NULL` meets the condition when it is given: whatever `setUserStatus` has written it
has written to the record that `_userItemHash` had for the user at that moment, which was not in the pool, and it
has never met an unused record. -/
theorem writes_own_item_of_nullSafe (cfg : ServerConfig) (labels : List Label) (t : State)
    (hsafe : Steps.Meets (step cfg) (fun s l => nullSafe s l) State.init labels)
    (hrun : Steps.exec (step cfg) State.init labels = some t) :
    (∀ u i mapped released, .write u i mapped released ∈ t.log → mapped = some i ∧ released = false) ∧
      ∀ u i, Event.unused u i ∉ t.log := by
  have h := Steps.exec_invariant (I := ItemInv []) (fun _ l _ h hc hs => h.step l hc hs) labels State.init t
    itemInv_init hsafe hrun
  exact ⟨fun u i mapped released hm => h.log _ hm, fun u i hm => h.log _ hm⟩

/-- The attributes of a user who has just come to the game server. -/
def newUser (userID : Nat) : Sui := ⟨userID, invalidTable, invalidChair, .usFree, 900 + userID, 1, 20, false, 5000⟩

/-- The user 1 sits down, loses the connection, and leaves when the data are saved. -/
theorem writes_own_item_of_nullSafe_offline :
    ∃ t, Steps.exec (step ⟨2010, 100⟩) State.init
      [.insertUserItem (newUser 1) 0, .resume 0 true true, .setUserStatus 1 .usSit 3 2,
        .setUserStatus 1 .usOffline 3 2, .resume 0 true true, .setUserStatus 1 .usNull invalidTable invalidChair,
        .resume 0 true true, .resume 0 true true] = some t ∧
      (∀ u i mapped released, .write u i mapped released ∈ t.log → mapped = some i ∧ released = false) ∧
      ∀ u i, Event.unused u i ∉ t.log :=
  ⟨_, rfl, writes_own_item_of_nullSafe ⟨2010, 100⟩
    [.insertUserItem (newUser 1) 0, .resume 0 true true, .setUserStatus 1 .usSit 3 2,
    .setUserStatus 1 .usOffline 3 2, .resume 0 true true, .setUserStatus 1 .usNull invalidTable invalidChair,
    .resume 0 true true, .resume 0 true true] _ (by decide +kernel) rfl⟩

/-- The user 1 is given `US_NULL` while the `US_OFFLINE` waits for the save, and the user 2 gets the record: the `US_OFFLINE`
then takes the table and the agent of the user 2. -/
theorem offline_written_to_another_user :
    ∃ t, Steps.exec (step ⟨2010, 100⟩) State.init
      [.insertUserItem (newUser 1) 0, .resume 0 true true, .setUserStatus 1 .usSit 3 2,
        .setUserStatus 1 .usOffline 3 2, .setUserStatus 1 .usNull invalidTable invalidChair, .resume 1 true true,
          .resume 1 true true,
        .insertUserItem (newUser 2) 0, .resume 0 true true] = some t ∧
      .write 1 0 none false ∈ t.log ∧ t.userItem 2 = some 0 ∧
      (t.items 0).map (fun x => (x.userID, x.userStatus, x.agent)) = some (2, .usOffline, 0) :=
  ⟨_, rfl, by decide, by decide, by decide⟩

end SasyServer.UserManager
