import SasyServer.Lemmas.UserAgents

/-!
# Who comes and who goes

Most handlers leave `_userItemHash` alone (`Calm`). A label otherwise makes a record, takes a user out of `_userItemHash`
(`leaves`), which begins a logout, or goes on with a logout: `turn_step`.
-/

namespace SasyServer.UserManager

/-- A handler that a user's coming or going waits for. -/
def Thread.moves : Thread → Bool
  | .logout _ _ => true
  | .release _ _ => true
  | .insert _ _ => true
  | _ => false

/-- `_userItemHash` is as before, the records stay what they are, and nobody begins to come or to go. -/
structure Calm (s s' : State) : Prop where
  hash : s'.userItemHash = s.userItemHash
  suspended : ∃ ts, s'.suspended = s.suspended ++ ts ∧ ∀ t ∈ ts, t.moves = false
  record : ∀ i x, s.items i = some x → ∃ y, s'.items i = some y ∧ y.userID = x.userID ∧ y.isAndroid = x.isAndroid

section Calm

variable {s s' s'' : State}

theorem Calm.refl (s : State) : Calm s s := ⟨rfl, ⟨[], by simp, by simp⟩, fun _ x h => ⟨x, h, rfl, rfl⟩⟩

/-- Two handlers, one after the other. -/
theorem Calm.trans (h : Calm s s') (h' : Calm s' s'') : Calm s s'' := by
  obtain ⟨ts, hs, ht⟩ := h.suspended
  obtain ⟨ts', hs', ht'⟩ := h'.suspended
  refine ⟨h'.hash.trans h.hash, ⟨ts ++ ts', by rw [hs', hs, List.append_assoc], ?_⟩, ?_⟩
  · intro t hm
    rcases List.mem_append.1 hm with hm | hm
    · exact ht t hm
    · exact ht' t hm
  · intro i x hx
    obtain ⟨y, hy, hu, ha⟩ := h.record i x hx
    obtain ⟨z, hz, hu', ha'⟩ := h'.record i y hy
    exact ⟨z, hz, hu'.trans hu, ha'.trans ha⟩

theorem calm_suspend (s : State) {t : Thread} (ht : t.moves = false) : Calm s (s.suspend t) :=
  ⟨rfl, ⟨[t], rfl, by simpa using ht⟩, fun _ x h => ⟨x, h, rfl, rfl⟩⟩

theorem calm_emit (s : State) (e : Event) : Calm s (s.emit e) :=
  ⟨rfl, ⟨[], by simp [State.emit], by simp⟩, fun _ x h => ⟨x, h, rfl, rfl⟩⟩

/-- A record is written without another user or another kind. -/
theorem calm_setItem {i : Nat} {x y : Sui} (hx : s.items i = some x) (hu : y.userID = x.userID)
    (ha : y.isAndroid = x.isAndroid) :
    Calm s (s.setItem i (some y)) := by
  refine ⟨rfl, ⟨[], by simp [State.setItem], by simp⟩, ?_⟩
  intro j z hz
  by_cases hj : j = i
  · subst hj
    rw [hx, Option.some.injEq] at hz
    exact ⟨y, by simp [State.setItem], hz ▸ hu, hz ▸ ha⟩
  · exact ⟨z, by simpa only [State.setItem, Function.update_of_ne hj] using hz, rfl, rfl⟩

theorem calm_setStatusAttribute (s : State) (u i : Nat) {f : Sui → Sui}
    (hf : ∀ x, (f x).userID = x.userID ∧ (f x).isAndroid = x.isAndroid) : Calm s (setStatusAttribute s u i f) := by
  unfold setStatusAttribute
  split
  · exact calm_emit s _
  · rename_i x hx
    exact (calm_setItem hx (hf x).1 (hf x).2).trans (calm_emit _ _)

/-- Only `US_NULL` takes a user out. -/
theorem calm_setUserStatus {u : Nat} {st : UserStatus} {tb c : Int} (hst : st ≠ .usNull)
    (hs : setUserStatus s u st tb c = some s') :
    Calm s s' := by
  unfold setUserStatus at hs
  cases hu : s.userItem u with
  | none =>
    rw [hu] at hs
    cases hs
    exact .refl s
  | some i =>
    rw [hu] at hs
    dsimp only at hs
    rw [Option.map_eq_some_iff] at hs
    obtain ⟨x, -, rfl⟩ := hs
    cases st with
    | usNull => exact absurd rfl hst
    | usOffline =>
      dsimp only
      split
      · exact calm_setStatusAttribute s u i fun _ => ⟨rfl, rfl⟩
      · exact calm_suspend s rfl
    | usFree => exact calm_setStatusAttribute s u i fun _ => ⟨rfl, rfl⟩
    | usSit => exact calm_setStatusAttribute s u i fun _ => ⟨rfl, rfl⟩
    | usReady => exact calm_setStatusAttribute s u i fun _ => ⟨rfl, rfl⟩
    | usLookon => exact calm_setStatusAttribute s u i fun _ => ⟨rfl, rfl⟩
    | usPlaying => exact calm_setStatusAttribute s u i fun _ => ⟨rfl, rfl⟩

theorem calm_switchAttribute (s : State) (i agent : Nat) (deskCount : Int) :
    Calm s (switchAttribute s i agent deskCount) := by
  unfold switchAttribute
  split
  · exact .refl s
  · rename_i x hx
    exact calm_setItem hx rfl rfl

/-- The record of the user who is switched is only changed. -/
theorem calm_switchCleared (s : State) (u i : Nat) (st : UserStatus) (tb c : Int) (agent : Nat) (deskCount : Int) :
    Calm s (switchCleared s u i st tb c agent deskCount) := by
  unfold switchCleared
  split
  · split
    · exact calm_switchAttribute s i agent deskCount
    · cases hs : setUserStatus s u .usPlaying tb c with
      | none => exact .refl s
      | some s' => exact (calm_setUserStatus (by simp) hs).trans (calm_suspend s' rfl)
  · exact calm_switchAttribute s i agent deskCount

/-- A switch changes the record at once, or waits before it does. -/
theorem calm_switchUserItem (s : State) (u agent : Nat) (deskCount : Int) : Calm s (switchUserItem s u agent deskCount) := by
  unfold switchUserItem
  split
  · exact .refl s
  · split
    · exact .refl s
    · split
      · exact calm_suspend s rfl
      · exact calm_switchCleared s _ _ _ _ _ _ _

end Calm

/-! ## Going -/

/-- `setUserStatus` with `US_NULL` for a user in `_userItemHash`. -/
def State.leave (s : State) (userID i : Nat) : State :=
  { s with userItemHash := s.userItemHash.filter fun p => p.1 ≠ userID }.suspend (.logout userID i)

/-- The user, if `setUserStatus` with `US_NULL` takes the user out. -/
def gone (s : State) (userID : Nat) : Option Nat := (s.attr userID).map fun _ => userID

/-- The same for `kickUser` and `cmd_onEventClientDisconnect`, which may have to wait for `standUp`. -/
def kicked (s : State) (userID : Nat) (tableFound : Bool) : Option Nat :=
  if standsUp s userID tableFound then none else gone s userID

/-- The user a label takes out of `_userItemHash`. -/
def leaves (s : State) : Label → Option Nat
  | .setUserStatus userID .usNull _ _ => gone s userID
  | .kickUser userID tableFound => kicked s userID tableFound
  | .clientDisconnect userID tableFound => kicked s userID tableFound
  | .resume k _ tableFound =>
    s.suspended[k]?.bind fun
      | .kick userID => gone s userID
      | .disconnect userID => gone s userID
      | .insert userID (some userIDToKick) => if s.userItem userID = none then none else kicked s userIDToKick tableFound
      | _ => none
  | _ => none

section Going

variable {cfg : ServerConfig} {s s' : State}

/-- `setUserStatus` with `US_NULL` takes the user out, or changes nothing. -/
theorem setUserNull_cases (s : State) (u : Nat) :
    gone s u = none ∧ setUserNull s u = s ∨ ∃ i, gone s u = some u ∧ s.userItem u = some i ∧
      setUserNull s u = s.leave u i := by
  cases hu : s.userItem u with
  | none => exact Or.inl (by simp [gone, State.attr, setUserNull, setUserStatus, hu])
  | some i =>
    cases hx : s.items i with
    | none => exact Or.inl (by simp [gone, State.attr, setUserNull, setUserStatus, hu, hx])
    | some x =>
      exact Or.inr ⟨i, by simp [gone, State.attr, hu, hx], rfl, by simp [setUserNull, setUserStatus, hu, hx, State.leave]⟩

/-- A handler that may take the user `v` out of `_userItemHash`. -/
def Turns (v : Option Nat) (s s' : State) : Prop :=
  v = none ∧ Calm s s' ∨ ∃ u i, v = some u ∧ s.userItem u = some i ∧ s' = s.leave u i

theorem turns_setUserNull (s : State) (u : Nat) : Turns (gone s u) s (setUserNull s u) := by
  obtain ⟨hg, hs⟩ | ⟨i, hg, hu, hs⟩ := setUserNull_cases s u
  · rw [hs]
    exact Or.inl ⟨hg, .refl s⟩
  · exact Or.inr ⟨u, i, hg, hu, hs⟩

theorem turns_kickUser (s : State) (u : Nat) (tableFound : Bool) :
    Turns (kicked s u tableFound) s (kickUser s u tableFound) := by
  unfold kickUser kicked
  split
  · exact Or.inl ⟨rfl, calm_suspend s rfl⟩
  · exact turns_setUserNull s u

/-- A client that is gone: the user goes offline at the table, or leaves. -/
theorem turns_onEventClientDisconnect (s : State) (u : Nat) (tableFound : Bool) :
    Turns (kicked s u tableFound) s (onEventClientDisconnect cfg s u tableFound) := by
  unfold onEventClientDisconnect kicked
  cases hx : s.attr u with
  | none => exact Or.inl ⟨by simp [standsUp, gone, hx], .refl s⟩
  | some x =>
    dsimp only
    split
    · split
      · exact Or.inl ⟨rfl, calm_suspend s rfl⟩
      · exact Or.inl ⟨rfl, .refl s⟩
    · exact turns_setUserNull s u

/-- What a label does to those who come and go. -/
inductive Turn (s : State) (l : Label) (s' : State) : Prop where
  | turns (h : Turns (leaves s l) (s.waked l) s')
  | logout (k : Nat) (tableFound : Bool) (u i : Nat) (hl : l = .resume k true tableFound)
    (ht : s.suspended[k]? = some (.logout u i))
      (h : s' = (s.waked l).suspend (.release u i))
  | release (k : Nat) (ok tableFound : Bool) (u i : Nat) (hl : l = .resume k ok tableFound)
    (ht : s.suspended[k]? = some (.release u i))
      (h : s' = { (s.waked l).setItem i none with buffer := s.buffer.release i })
  | insert (userInfo : Sui) (leastUserID : Nat) (kick : Option Nat) (hl : l = .insertUserItem userInfo leastUserID)
      (hnew : s.userItem userInfo.userID = none) (h : s' = insertNew s userInfo kick)

/-- Every label, handler by handler. -/
theorem turn_step (l : Label) (hs : step cfg s l = some s') : Turn s l s' := by
  have hcalm : leaves s l = none → Calm (s.waked l) s' → Turn s l s' := fun hl h => .turns (Or.inl ⟨hl, h⟩)
  cases l with
  | setUserStatus u st tb c =>
    cases hs
    by_cases hst : st = .usNull
    · subst hst
      exact .turns (turns_setUserNull s u)
    · have hl : leaves s (.setUserStatus u st tb c) = none := by
        cases st <;> first | rfl | exact absurd rfl hst
      refine hcalm hl ?_
      cases hr : setUserStatus s u st tb c with
      | none => exact .refl s
      | some s' => exact calm_setUserStatus hst hr
  | insertUserItem userInfo least =>
    obtain rfl | ⟨hnew, kick, rfl⟩ := insertUserItem_new hs
    · exact hcalm rfl (.refl s')
    · exact .insert userInfo least kick rfl hnew rfl
  | switchUserItem u agent deskCount => cases hs; exact hcalm rfl (calm_switchUserItem s u agent deskCount)
  | kickUser u tableFound => cases hs; exact .turns (turns_kickUser s u tableFound)
  | clientDisconnect u tableFound => cases hs; exact .turns (turns_onEventClientDisconnect s u tableFound)
  | resume k ok tableFound =>
    simp only [UserManager.step, Option.map_eq_some_iff] at hs
    obtain ⟨t, ht, rfl⟩ := hs
    cases t with
    | offline u i tb c => exact hcalm (by simp [leaves, ht]) (calm_setStatusAttribute _ u i fun _ => ⟨rfl, rfl⟩)
    | logout u i =>
      cases ok with
      | true => exact .logout k tableFound u i rfl ht rfl
      | false => exact hcalm (by simp [leaves, ht]) (.refl _)
    | release u i => exact .release k ok tableFound u i rfl ht rfl
    | kick u =>
      refine .turns ?_
      simp only [leaves, ht, Option.bind_some]
      exact turns_setUserNull (s.waked (.resume k ok tableFound)) u
    | disconnect u =>
      refine .turns ?_
      simp only [leaves, ht, Option.bind_some]
      exact turns_setUserNull (s.waked (.resume k ok tableFound)) u
    | insert u kick =>
      refine .turns ?_
      cases kick with
      | none =>
        simp only [leaves, ht, Option.bind_some, UserManager.resumeThread, insertLoaded]
        split
        · exact Or.inl ⟨rfl, .refl _⟩
        · exact Or.inl ⟨rfl, .refl _⟩
      | some v =>
        have hl : leaves s (.resume k ok tableFound) = if s.userItem u = none then none else kicked s v tableFound := by
          simp only [leaves, ht, Option.bind_some]
        simp only [UserManager.resumeThread, insertLoaded]
        split
        · rename_i hu
          exact Or.inl ⟨hl.trans (if_pos hu), .refl _⟩
        · rename_i hu
          have hu' : s.userItem u = some _ := hu
          rw [hl, if_neg (by simp [hu'])]
          exact turns_kickUser (s.waked (.resume k ok tableFound)) v tableFound
    | switchUserItem u i st tb c agent deskCount =>
      exact hcalm (by simp [leaves, ht]) (calm_switchCleared _ u i st tb c agent deskCount)
    | switchPlaying i agent deskCount => exact hcalm (by simp [leaves, ht]) (calm_switchAttribute _ i agent deskCount)
  | abort k =>
    simp only [UserManager.step, Option.map_eq_some_iff] at hs
    obtain ⟨t, -, rfl⟩ := hs
    exact hcalm rfl (.refl _)

end Going

/-! ## The records of players and of androids -/

/-- The record is the user's, and an android's if the user is one. -/
def Kind (android : Nat → Bool) (s : State) (u i : Nat) : Prop :=
  ∃ x, s.items i = some x ∧ x.userID = u ∧ x.isAndroid = android u

/-- The records in `_userItemHash` and those of logouts are of the kind of their users. -/
structure Kinds (android : Nat → Bool) (s : State) : Prop where
  hash : ∀ u i, s.userItem u = some i → Kind android s u i
  logout : ∀ u i, .logout u i ∈ s.suspended → Kind android s u i

theorem kinds_init (android : Nat → Bool) : Kinds android State.init :=
  ⟨by simp [State.init, State.userItem], by simp [State.init]⟩

section Kinds

variable {android : Nat → Bool} {cfg : ServerConfig} {s s' : State}

theorem waked_sublist (s : State) (l : Label) : (s.waked l).suspended.Sublist s.suspended := leftover_sublist _ l

/-- A record that is in `_userItemHash` was there before. -/
theorem userItem_of_leave {u v i j : Nat} (h : (s.leave u i).userItem v = some j) : v ≠ u ∧ s.userItem v = some j := by
  have hne : v ≠ u := by
    rintro rfl
    have hp := mem_of_userItem h
    simp [State.leave, State.suspend] at hp
  exact ⟨hne, (userItem_filter hne).symm.trans h⟩

/-- A new record, beside those that were there before. -/
theorem userItem_insertNew {userInfo : Sui} (hnew : s.userItem userInfo.userID = none) (kick : Option Nat) (v : Nat) :
    (insertNew s userInfo kick).userItem v = if v = userInfo.userID then some s.buffer.allocate.1 else s.userItem v := by
  by_cases hv : v = userInfo.userID
  · subst hv
    simp only [insertNew, State.suspend, State.userItem, List.find?_append, Option.map_or, if_true] at hnew ⊢
    rw [hnew]
    simp
  · have hf : [(userInfo.userID, s.buffer.allocate.1)].find? (fun p => p.1 = v) = none := by
      simpa using fun h => hv h.symm
    simp [insertNew, State.suspend, State.userItem, List.find?_append, hf, hv]

/-- A record that comes is of the kind of its user, and no handler makes another of it. -/
theorem Kinds.step (h : Kinds android s) (hr : Records [] s) (l : Label) (hs : step cfg s l = some s')
    (hl : ∀ userInfo least, l = .insertUserItem userInfo least → userInfo.isAndroid = android userInfo.userID) :
    Kinds android s' := by
  have hsub : ∀ {t}, t ∈ (s.waked l).suspended → t ∈ s.suspended := fun ht => (waked_sublist s l).subset ht
  cases turn_step l hs with
  | turns ht =>
    obtain ⟨-, hc⟩ | ⟨u, i, -, hu, rfl⟩ := ht
    · have hkeep : ∀ u i, Kind android s u i → Kind android s' u i := by
        rintro u i ⟨x, hx, rfl, ha⟩
        obtain ⟨y, hy, hyu, hya⟩ := hc.record i x hx
        exact ⟨y, hy, hyu, hya.trans ha⟩
      refine ⟨?_, ?_⟩
      · intro u i hu
        refine hkeep u i (h.hash u i ?_)
        simpa only [State.userItem, hc.hash, State.waked] using hu
      · intro u i ht
        obtain ⟨ts, hts, hcalm⟩ := hc.suspended
        rw [hts, List.mem_append] at ht
        rcases ht with ht | ht
        · exact hkeep u i (h.logout u i (hsub ht))
        · cases hcalm _ ht
    · refine ⟨fun v j hv => h.hash v j (userItem_of_leave hv).2, ?_⟩
      intro v j ht
      rcases List.mem_append.1 ht with ht | ht
      · exact h.logout v j (hsub ht)
      · cases List.mem_singleton.1 ht
        exact h.hash u i hu
  | logout k tableFound u i _ _ hs =>
    subst hs
    refine ⟨h.hash, ?_⟩
    intro v j ht
    rcases List.mem_append.1 ht with ht | ht
    · exact h.logout v j (hsub ht)
    · cases List.mem_singleton.1 ht
  | release k ok tableFound u i hl hk hs =>
    subst hs hl
    have hnot : i ∉ held [] (s.waked (.resume k ok tableFound)) := by
      have hn := (hr.wake hk).nodup
      have hheld : held (Thread.item (.release u i)).toList { s with suspended := s.suspended.eraseIdx k } =
          held [] (s.waked (.resume k ok tableFound)) ++ [i] := by
        simp [held, Thread.item, State.waked, leftover]
      rw [hheld, List.nodup_append] at hn
      exact fun hm => hn.2.2 i hm i (List.mem_singleton_self i) rfl
    have hkeep : ∀ v j, j ≠ i → Kind android s v j → Kind android { (s.waked (.resume k ok tableFound)).setItem i none with
        buffer := s.buffer.release i } v j := by
      rintro v j hj ⟨x, hx, hxu⟩
      exact ⟨x, by simpa only [State.setItem, State.waked, Function.update_of_ne hj] using hx, hxu⟩
    refine ⟨?_, ?_⟩
    · intro v j hv
      refine hkeep v j ?_ (h.hash v j hv)
      rintro rfl
      exact hnot (mem_held_of_userItem hv)
    · intro v j ht
      refine hkeep v j ?_ (h.logout v j (hsub ht))
      rintro rfl
      refine hnot (List.mem_append_left _ (List.mem_append_right _ ?_))
      exact List.mem_filterMap.2 ⟨_, ht, rfl⟩
  | insert userInfo least kick hl' hnew hs =>
    subst hs hl'
    obtain ⟨-, hfree, -⟩ := CItemBuffer.allocate_spec hr.wf
    have hkeep : ∀ v j, s.buffer.InUse j → Kind android s v j → Kind android (insertNew s userInfo kick) v j := by
      rintro v j huse ⟨x, hx, hxu⟩
      have hj : j ≠ s.buffer.allocate.1 := fun hj => hfree (hj ▸ huse)
      exact ⟨x, by simpa only [insertNew, State.suspend, Function.update_of_ne hj] using hx, hxu⟩
    refine ⟨?_, ?_⟩
    · intro v j hv
      rw [userItem_insertNew hnew] at hv
      split at hv
      · rename_i hvu
        cases hv
        exact ⟨userInfo, by simp [insertNew, State.suspend], hvu.symm, hvu ▸ hl userInfo least rfl⟩
      · exact hkeep v j (hr.inUse j (mem_held_of_userItem hv)).1 (h.hash v j hv)
    · intro v j ht
      rcases List.mem_append.1 ht with ht | ht
      · refine hkeep v j (hr.inUse j ?_).1 (h.logout v j ht)
        refine List.mem_append_left _ (List.mem_append_right _ ?_)
        exact List.mem_filterMap.2 ⟨_, ht, rfl⟩
      · cases List.mem_singleton.1 ht

end Kinds

end SasyServer.UserManager
