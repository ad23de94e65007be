import SasyServer.Lemmas.SessionEdits

/-!
# Theorem: the indexes of the session manager agree, as long as no item is swept twice

The session index, the platform index and the index of users are written by different handlers. What most of them do does not
touch the indexes at all (`Edits`), and the others change them together, but for one: the work on a game server's disconnect
clears the index of users first and looks at the item afterwards. The condition `indexSafe` is on the state in which a label
is taken: where such a handler goes on, the item still has a record, or the user is not in the index; and a user is
registered only while no other item has a record of this user.
-/

namespace SasyServer.Session

variable {account : Nat → Nat}

/-- The three indexes hold the same items and lead from a user to the item with the user's record, and the records of these
items are different ones and not in the pool. -/
structure Indexes (s : State) : Prop where
  session : ∀ k i, s.session k = some i → (s.items i).session = k ∧ s.platformID (s.items i).platformID = some i
  platform : ∀ p i, s.platformID p = some i → (s.items i).platformID = p ∧ s.session (s.items i).session = some i
  user : ∀ u i, s.userID u = some i →
    s.platformID (s.items i).platformID = some i ∧ ∃ r, (s.items i).sui = some r ∧ (s.sui r).userID = u
  record : ∀ i r, (s.items i).sui = some r → s.userID (s.sui r).userID = some i
  live : ∀ i r, (s.items i).sui = some r → s.buffer.InUse r
  own : ∀ i j r, (s.items i).sui = some r → (s.items j).sui = some r → i = j

/-- A session string that is registered is not in use. -/
def freshSession (s : State) : Label → Bool
  | .registerSession session _ => s.session session = none
  | _ => true

/-- The condition on a label in the state in which it is taken. -/
def indexSafe (account : Nat → Nat) (s : State) : Label → Bool
  | .resume k _ =>
    s.suspended[k]?.all fun
      | .gameServerDisconnect _ item _ userID => (s.items item).sui ≠ none ∨ s.userID userID = none
      | _ => true
  | .registerUser platformID agent => freshUser account s (.registerUser platformID agent)
  | _ => true

/-- What the indexes need between the steps; the handlers that work on a disconnect remember the user of the item. -/
structure IndexInv (account : Nat → Nat) (s : State) : Prop where
  wf : WF account s
  named : ∀ p i, s.platformID p = some i → s.session (s.items i).session = some i
  user : ∀ u i, s.userID u = some i → (s.items i).sui ≠ none
  record : ∀ i r, (s.items i).sui = some r → s.userID (s.sui r).userID = some i
  swept : ∀ server i agent u, .gameServerDisconnect server i agent u ∈ s.suspended →
    u = account (s.items i).platformID ∧ i < s.itemCount

theorem indexInv_init : IndexInv account State.init :=
  ⟨wf_init, by simp [State.init], by simp [State.init], by simp [State.init], by simp [State.init]⟩

theorem IndexInv.indexes {s : State} (h : IndexInv account s) : Indexes s := by
  refine ⟨h.wf.named, ?_, ?_, h.record, h.wf.inUse, h.wf.inj⟩
  · intro p i hp
    exact ⟨(h.wf.platform p i hp).1, h.named p i hp⟩
  · intro u i hu
    obtain ⟨r, hr⟩ := Option.ne_none_iff_exists'.1 (h.user u i hu)
    exact ⟨h.wf.indexed i r hr, r, hr, userID_of_index h.wf hu hr⟩

/-- A handler that waits, but not in the work on a disconnect. -/
def Thread.sweeps : Thread → Bool
  | .gameServerDisconnect _ _ _ _ => true
  | _ => false

/-- The edits of a handler that does not begin to work on a disconnect. -/
def Still (s s' : State) : Prop := Edits (fun _ _ => True) (fun t => t.sweeps = false) s s'

/-- The invariant is about what such a handler leaves alone. -/
theorem IndexInv.still {s s' : State} (h : IndexInv account s) (hwf : WF account s')
    (he : Still s s') : IndexInv account s' := by
  have hq : Quiet s s' := he.quiet
  refine ⟨hwf, ?_, ?_, ?_, ?_⟩
  · intro p i hp
    rw [hq.session, (hq.item i).2.1]
    exact h.named p i (hq.platformID ▸ hp)
  · intro u i hu
    rw [(hq.item i).1]
    exact h.user u i (hq.userID ▸ hu)
  · intro i r hr
    rw [hq.sui, hq.userID]
    exact h.record i r ((hq.item i).1 ▸ hr)
  · intro server i agent u ht
    rw [(hq.item i).2.2, hq.itemCount]
    exact h.swept server i agent u ((he.suspended ht).resolve_right (by simp [Thread.sweeps]))

theorem IndexInv.emit {s : State} (h : IndexInv account s) (e : Event) : IndexInv account (s.emit e) :=
  h.still (h.wf.emit e) ((Edits.refl s).emit e)

/-! ## Handlers that change the indexes -/

/-- An item with a session that is not in use is renamed. -/
theorem IndexInv.rename {s : State} (h : IndexInv account s) {i p : Nat} (hi : s.platformID p = some i) {name : String}
    (hfresh : s.session name = none) (now : Nat) :
    IndexInv account (State.setItem { s with
      session := Function.update (Function.update s.session (s.items i).session none) name (some i) } i
      fun it => { it with session := name, sessionActiveTS := now }) := by
  have hwf := (acts_rename h.wf hi name now).wf
  have hsui := field_setItem Item.sui (s := { s with
    session := Function.update (Function.update s.session (s.items i).session none) name (some i) }) (i := i)
    (f := fun it => { it with session := name, sessionActiveTS := now }) rfl
  have hplat := field_setItem Item.platformID (s := { s with
    session := Function.update (Function.update s.session (s.items i).session none) name (some i) }) (i := i)
    (f := fun it => { it with session := name, sessionActiveTS := now }) rfl
  refine ⟨hwf, ?_, ?_, ?_, ?_⟩
  · intro q j hq
    by_cases hj : j = i
    · subst hj
      simp [State.setItem]
    · -- another item has another session than the old one and the new one
      have hk := h.named q j hq
      have hnew : (s.items j).session ≠ name := by
        intro hk'
        rw [hk', hfresh] at hk
        cases hk
      have hold : (s.items j).session ≠ (s.items i).session := by
        intro hk'
        rw [hk', h.named p i hi, Option.some.injEq] at hk
        exact hj hk.symm
      rw [items_setItem_of_ne hj]
      simp only [State.setItem, Function.update_of_ne hnew, Function.update_of_ne hold]
      exact hk
  · intro u j hu
    rw [hsui]
    exact h.user u j hu
  · intro j r hr
    rw [hsui] at hr
    exact h.record j r hr
  · intro server j agent u ht
    rw [hplat]
    exact h.swept server j agent u ht

/-- A new item. -/
theorem IndexInv.create {s : State} (h : IndexInv account s) {p : Nat} (hp : s.platformID p = none) {name : String}
    (hfresh : s.session name = none) (now : Nat) :
    IndexInv account { s with
      items := Function.update s.items s.itemCount ⟨p, name, now, none, none⟩
      itemCount := s.itemCount + 1
      platformID := Function.update s.platformID p (some s.itemCount)
      session := Function.update s.session name (some s.itemCount) } := by
  have hwf := (acts_create h.wf hp name now).wf
  have hold : ∀ j, j < s.itemCount → Function.update s.items s.itemCount ⟨p, name, now, none, none⟩ j = s.items j :=
    fun j hj => Function.update_of_ne (Nat.ne_of_lt hj) ..
  refine ⟨hwf, ?_, ?_, ?_, ?_⟩
  · intro q j hq
    simp only [Function.update_apply s.platformID] at hq
    split at hq
    · cases hq
      simp
    · have hlt := (h.wf.platform q j hq).2
      have hk := h.named q j hq
      have hnew : (s.items j).session ≠ name := by
        intro hk'
        rw [hk', hfresh] at hk
        cases hk
      simp only [hold j hlt, Function.update_of_ne hnew]
      exact hk
  · intro u j hu
    simp only [hold j (h.wf.index u j hu).2]
    exact h.user u j hu
  · intro j r hr
    by_cases hj : j = s.itemCount
    · subst hj
      simp at hr
    · simp only [Function.update_of_ne hj] at hr
      exact h.record j r hr
  · intro server j agent u ht
    obtain ⟨h1, h2⟩ := h.swept server j agent u ht
    simp only [hold j h2]
    exact ⟨h1, Nat.lt_succ_of_lt h2⟩

/-- The session has a name that is not in use. -/
theorem IndexInv.registerSession {s : State} (h : IndexInv account s) {name : String} (p : Nat)
    (hfresh : s.session name = none) :
    IndexInv account (registerSession s name p) := by
  have hwf := (moves1_registerSession h.wf name p).wf
  revert hwf
  unfold Session.registerSession
  intro hwf
  split at hwf
  · rename_i i hp
    exact (h.rename hp hfresh s.now).still hwf ((Edits.refl _).kickOld i fun _ _ _ _ _ => rfl)
  · rename_i hp
    exact h.create hp hfresh s.now

/-- A new record for an item. Another item with a record has another user. -/
theorem IndexInv.register {s : State} (h : IndexInv account s) {p i agent : Nat}
    (hc : freshUser account s (.registerUser p agent)) (hi : s.platformID p = some i) (hnone : (s.items i).sui = none)
    (now : Nat) :
    IndexInv account (State.setItem { s with
      buffer := s.buffer.allocate.2
      sui := Function.update s.sui s.buffer.allocate.1 ⟨account p, agent, .usLs, 0, 0, 0⟩
      userID := Function.update s.userID (account p) (some i) } i
      fun it => { it with sui := some s.buffer.allocate.1, sessionActiveTS := now, suiActiveTS := none }) := by
  have hwf := (acts_register h.wf hi hnone agent now).wf
  obtain ⟨hpi, -⟩ := h.wf.platform p i hi
  obtain ⟨-, hfree, -⟩ := CItemBuffer.allocate_spec h.wf.pool
  have hother : ∀ j, j ≠ i → Function.update s.items i
      { s.items i with sui := some s.buffer.allocate.1, sessionActiveTS := now, suiActiveTS := none } j = s.items j :=
    fun j hj => Function.update_of_ne hj ..
  refine ⟨hwf, ?_, ?_, ?_, ?_⟩
  · intro q j hq
    have hk := h.named q j hq
    by_cases hj : j = i
    · subst hj
      simpa [State.setItem] using hk
    · simp only [State.setItem, hother j hj]
      exact hk
  · intro u j hu
    by_cases hj : j = i
    · subst hj
      simp [State.setItem]
    · simp only [State.setItem, hother j hj]
      simp only [State.setItem, Function.update_apply s.userID] at hu
      split at hu
      · rw [Option.some.injEq] at hu
        exact absurd hu.symm hj
      · exact h.user u j hu
  · intro j r hr
    by_cases hj : j = i
    · subst hj
      simp only [State.setItem, Function.update_self, Option.some.injEq] at hr
      subst hr
      simp [State.setItem]
    · simp only [State.setItem, hother j hj] at hr
      have hne : r ≠ s.buffer.allocate.1 := by
        rintro rfl
        exact hfree (h.wf.inUse j _ hr)
      have huser : (s.sui r).userID ≠ account p := h.wf.freshUser hc hi hnone (getAttribute_eq hr)
      simp only [State.setItem, Function.update_of_ne hne, Function.update_of_ne huser]
      exact h.record j r hr
  · intro server j agent u ht
    have hplat := field_setItem Item.platformID (s := s) (i := i)
      (f := fun it => { it with sui := some s.buffer.allocate.1, sessionActiveTS := now, suiActiveTS := none }) rfl j
    obtain ⟨h1, h2⟩ := h.swept server j agent u ht
    exact ⟨h1.trans (congrArg account hplat.symm), h2⟩

/-- The user has no record under the platform. -/
theorem IndexInv.registerUser {s : State} (h : IndexInv account s) {p agent : Nat}
    (hc : freshUser account s (.registerUser p agent)) : IndexInv account (registerUser s p (account p) agent) := by
  unfold Session.registerUser
  split
  · exact h.emit _
  · rename_i i hi
    split
    · exact h.emit _
    · rename_i hnone
      exact h.register hc hi (not_ne_iff.1 hnone) s.now

/-- An item's record goes back to the pool, and its user out of the index. -/
theorem IndexInv.releaseSui {s : State} (h : IndexInv account s) {i r : Nat}
    (hi : (s.items i).sui = some r) : IndexInv account (releaseSui s i r (s.sui r).userID) := by
  have hwf := (acts_releaseSui h.wf hi (s.sui r).userID).wf
  have hother : ∀ j, j ≠ i → (Session.releaseSui s i r (s.sui r).userID).items j = s.items j :=
    fun j hj => Function.update_of_ne hj ..
  have hself : ((Session.releaseSui s i r (s.sui r).userID).items i).sui = none := by
    simp [Session.releaseSui, State.setItem]
  have hfield : ∀ j, ((Session.releaseSui s i r (s.sui r).userID).items j).session = (s.items j).session ∧
      ((Session.releaseSui s i r (s.sui r).userID).items j).platformID = (s.items j).platformID := by
    intro j
    by_cases hj : j = i
    · subst hj
      simp [Session.releaseSui, State.setItem]
    · rw [hother j hj]
      exact ⟨rfl, rfl⟩
  refine ⟨hwf, ?_, ?_, ?_, ?_⟩
  · intro p j hp
    rw [(hfield j).1]
    exact h.named p j hp
  · intro u j hu
    simp only [Session.releaseSui, State.setItem, Function.update_apply s.userID] at hu
    split at hu
    · cases hu
    · rename_i hne
      have hj : j ≠ i := by
        rintro rfl
        exact hne (userID_of_index h.wf hu hi).symm
      rw [hother j hj]
      exact h.user u j hu
  · intro j x hx
    have hj : j ≠ i := by
      rintro rfl
      rw [hself] at hx
      cases hx
    rw [hother j hj] at hx
    have hne : x ≠ r := fun hxr => hj (h.wf.inj j i r (hxr ▸ hx) hi)
    have huser : (s.sui x).userID ≠ (s.sui r).userID := by
      intro hu
      have hrec := h.record j x hx
      rw [hu, h.record i r hi, Option.some.injEq] at hrec
      exact hj hrec.symm
    simp only [Session.releaseSui, State.setItem, Function.update_of_ne hne, Function.update_of_ne huser]
    exact h.record j x hx
  · intro server j agent u ht
    rw [(hfield j).2]
    exact h.swept server j agent u ht

/-- A user who is not in the index is taken out of it. -/
theorem IndexInv.forgetUser {s : State} (h : IndexInv account s) {u : Nat} (hu : s.userID u = none) (i : Nat) :
    IndexInv account (forgetUser s i u) := by
  have hsame : Function.update s.userID u none = s.userID := by
    rw [← hu]
    exact Function.update_eq_self u s.userID
  refine h.still (acts_forgetUser h.wf i u).wf ?_
  rw [Session.forgetUser, hsame]
  exact (Edits.refl s).setItem i _ (fun _ => rfl) (fun _ => rfl) fun _ => rfl

/-- An expired session is forgotten. -/
theorem IndexInv.cleanSession {s : State} (h : IndexInv account s) {k : String} {i : Nat} (hk : s.session k = some i) :
    IndexInv account (cleanSession s i) := by
  have hwf := (acts_cleanSession h.wf hk).wf
  revert hwf
  unfold Session.cleanSession
  split
  · intro hwf
    refine ⟨hwf, ?_, h.user, h.record, h.swept⟩
    intro p j hp
    simp only [Function.update_apply s.platformID] at hp
    split at hp
    · cases hp
    · rename_i hne
      have hnamed := h.named p j hp
      have hold : (s.items j).session ≠ (s.items i).session := by
        intro hs
        rw [hs, (h.wf.named k i hk).1, hk, Option.some.injEq] at hnamed
        exact hne (hnamed ▸ (h.wf.platform p j hp).1.symm)
      simp only [Function.update_of_ne hold]
      exact hnamed
  · exact fun _ => h

/-- The loop over the items of a game server. -/
theorem IndexInv.disconnectLoop {s : State} (h : IndexInv account s) (serverID : Nat)
    (order : List String) : IndexInv account (disconnectLoop serverID s order) := by
  induction order generalizing s with
  | nil => exact h
  | cons k order ih =>
    unfold Session.disconnectLoop
    split
    · exact ih h
    · rename_i i _
      split
      · exact ih h
      · rename_i r hr
        split
        · split
          · refine ⟨h.wf.suspend _, h.named, h.user, h.record, ?_⟩
            intro server j agent u ht
            simp only [State.suspend, List.mem_append, List.mem_singleton, Thread.gameServerDisconnect.injEq] at ht
            rcases ht with ht | ⟨-, rfl, -, rfl⟩
            · exact h.swept server j agent u ht
            · exact ⟨h.wf.user j r hr, (h.wf.platform _ _ (h.wf.indexed j r hr)).2⟩
          · exact ih (h.releaseSui hr)
        · exact ih h

/-- The loop of `cleanExpiredInfo`. -/
theorem IndexInv.cleanLoop {s : State} (h : IndexInv account s) (order : List String) :
    IndexInv account (cleanLoop s order) := by
  induction order generalizing s with
  | nil => exact h
  | cons k order ih =>
    unfold Session.cleanLoop
    split
    · exact ih h
    · rename_i i hk
      split
      · exact ih (h.cleanSession hk)
      · rename_i r hr
        split
        · split
          · exact h.emit _
          · exact ih ((h.releaseSui hr).cleanSession hk)
        · exact ih (h.cleanSession hk)

/-! ## Runs -/

/-- A handler that goes on after a wait; one that works on a disconnect finds the item with a record, or its
user out of the index. -/
theorem IndexInv.resumeThread {s : State} (h : IndexInv account s) (order : List String)
    {t : Thread} (ht : ∀ server i agent u, t = .gameServerDisconnect server i agent u →
      u = account (s.items i).platformID ∧ ((s.items i).sui ≠ none ∨ s.userID u = none)) :
    IndexInv account (resumeThread s order t) := by
  have hwf := h.wf.resumeThread order t
  cases t with
  | kickLS i agent seen new kick =>
    exact h.still hwf (((Edits.refl s).emit _).kickLSWrite i (fun _ => ⟨rfl, Or.inr (Or.inr trivial)⟩) kick)
  | switchUserItem i agent seen new newAgent =>
    exact h.still hwf (((Edits.refl s).emit _).switchWrite i new newAgent fun _ _ => trivial)
  | gsLogout i new => exact h.still hwf ((Edits.refl s).gsLogoutStamp i new)
  | gameServerDisconnect serverID i agent u =>
    obtain ⟨hu, hsafe⟩ := ht serverID i agent u rfl
    have he := h.emit (.kickAgent agent)
    simp only [Session.resumeThread, disconnectResume]
    cases hr : (s.items i).sui with
    | none =>
      have hnone := hsafe.resolve_left (not_not_intro hr)
      rw [show ((s.emit (.kickAgent agent)).items i).sui = none from hr]
      exact (he.forgetUser hnone i).disconnectLoop serverID order
    | some r =>
      have hur : u = ((s.emit (.kickAgent agent)).sui r).userID := hu.trans (h.wf.user i r hr).symm
      rw [show ((s.emit (.kickAgent agent)).items i).sui = some r from hr, hur]
      exact (he.releaseSui hr).disconnectLoop serverID order

theorem IndexInv.setSuspended {s : State} (h : IndexInv account s) {ts : List Thread} (hts : ∀ t ∈ ts, t ∈ s.suspended) :
    IndexInv account { s with suspended := ts } :=
  ⟨h.wf.setSuspended ts, h.named, h.user, h.record, fun server i agent u ht => h.swept server i agent u (hts _ ht)⟩

/-- One label keeps the invariant, under the two conditions. -/
theorem IndexInv.step {s s' : State} (l : Label) (h : IndexInv account s)
    (hfresh : freshSession s l) (hc : indexSafe account s l) (hs : step account s l = some s') : IndexInv account s' := by
  have hwf := h.wf.step l hs
  cases l with
  | registerSession name p => cases hs; exact h.registerSession p (by simpa [freshSession] using hfresh)
  | getUserItemByPlatformID p u => cases hs; exact h.still hwf (edits_getUserItemByPlatformID p u)
  | switchUserItem p a =>
    cases hs; exact h.still hwf (edits_switchUserItem p a (fun _ _ _ _ _ => trivial) fun _ _ _ _ => rfl)
  | registerUser p a => cases hs; exact h.registerUser hc
  | gsLogin name k n srv => cases hs; exact h.still hwf (edits_gsLogin name k n srv)
  | gsLogout u k n srv b => cases hs; exact h.still hwf (edits_gsLogout u k n srv b fun _ _ => rfl)
  | gsOffline u k n srv => cases hs; exact h.still hwf (edits_gsOffline u k n srv)
  | clientDisconnect u => cases hs; exact h.still hwf (edits_onEventClientDisconnect u)
  | gameServerDisconnect serverID order =>
    cases hs
    exact (h.emit _).disconnectLoop serverID order
  | cleanExpiredInfo order => cases hs; exact h.cleanLoop order
  | tick n => cases hs; exact ⟨hwf, h.named, h.user, h.record, h.swept⟩
  | resume k order =>
    simp only [Session.step, Option.map_eq_some_iff] at hs
    obtain ⟨t, ht, rfl⟩ := hs
    refine (h.setSuspended fun t' ht' => List.mem_of_mem_eraseIdx ht').resumeThread order ?_
    rintro server i agent u rfl
    refine ⟨(h.swept server i agent u (List.mem_of_getElem? ht)).1, ?_⟩
    simpa [indexSafe, ht] using hc
  | abort k =>
    simp only [Session.step, Option.bind_eq_some_iff] at hs
    obtain ⟨t, ht, hs⟩ := hs
    split at hs
    · cases hs
      exact h.setSuspended fun t' ht' => List.mem_of_mem_eraseIdx ht'
    · cases hs

/-- Every run in which a session string that is registered is not in use, and whose labels meet the condition when they are
taken: the indexes agree, whether handlers wait or not. -/
theorem indexes_of_indexSafe (account : Nat → Nat) (labels : List Label) (t : State)
    (hfresh : Steps.Meets (step account) (fun s l => freshSession s l) State.init labels)
    (hsafe : Steps.Meets (step account) (fun s l => indexSafe account s l) State.init labels)
    (hrun : Steps.exec (step account) State.init labels = some t) : Indexes t :=
  (Steps.exec_invariant (I := IndexInv account) (fun _ l _ h hc hs => h.step l hc.1 hc.2 hs) labels State.init
    t indexInv_init
    (hfresh.and hsafe) hrun).indexes

/-- A user with a connection to the login server and one on the game server, which is disconnected; the
user is registered again. -/
theorem indexes_of_indexSafe_disconnect :
    ∃ t, Steps.exec (step id) State.init [.registerSession "a" 1, .registerUser 1 7, .gsLogin "a" 0 0 10,
      .gameServerDisconnect 10 ["a"], .resume 0 [], .registerSession "b" 1, .registerUser 1 8] = some t ∧ Indexes t :=
  ⟨_, rfl, indexes_of_indexSafe id [.registerSession "a" 1, .registerUser 1 7, .gsLogin "a" 0 0 10,
    .gameServerDisconnect 10 ["a"], .resume 0 [], .registerSession "b" 1, .registerUser 1 8] _ (by decide +kernel)
    (by decide +kernel) rfl⟩

/-- The game server is disconnected twice while the user's connection to the login server is slow to answer, after three
hours of play. The first sweep releases the record, the item expires, and the user is registered again in a new item; the
second sweep takes this user out of the index. Every platform has a user of its own here. -/
theorem user_lost_after_two_sweeps :
    ¬∀ (labels : List Label) (t : State),
      Steps.Meets (step id) (fun s l => freshSession s l && freshUser id s l) State.init labels →
      Steps.exec (step id) State.init labels = some t → t.suspended = [] → Indexes t := by
  intro hall
  have h := hall [.registerSession "a" 1, .registerUser 1 7, .gsLogin "a" 0 0 10, .tick 1080001,
    .gameServerDisconnect 10 ["a"], .gameServerDisconnect 10 ["a"], .resume 0 [], .cleanExpiredInfo ["a"],
      .registerSession "b" 1,
    .registerUser 1 8, .resume 0 []] _ (by decide +kernel) rfl rfl
  have := h.record 1 0 rfl
  revert this
  decide

end SasyServer.Session
