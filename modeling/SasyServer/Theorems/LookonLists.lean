import SasyServer.Table.Lookon

/-!
# Theorem: the lists of watchers are those of the users who watch, as long as nobody loses a list

`standUp` gives up the list of the chair, and `cmd_userOffLine` releases the record of a watcher, but neither does the other
half: the watchers of the list keep their status, and the released one stays in the list. Two `removeOldLookonUser` that wait
on one list have both found their places before the first `table.remove`, which moves what comes after it.
-/

namespace SasyServer.TableLookon

open UserManager (UserStatus)
open TableFrame (ServerConfig invalidTable invalidChair)

/-! ## The condition -/

/-- A `removeOldLookonUser` of the user waits. -/
def State.removing (s : State) (userID : Nat) : Bool := s.removals.any fun r => r.userID = userID

/-- The handler gives up no chair with a watcher who stays. -/
def leaveSafe (cfg : ServerConfig) (s : State) (todo : List Todo) : Bool :=
  match nextAct cfg s todo with
  | some (.leave _ chairID _, _) => (s.watchers chairID).all s.removing
  | _ => true

/-- The condition: a chair that is given up has no watchers but those who are being removed, and so does a watcher who goes
offline; nobody asks to watch while being removed; of the `removeOldLookonUser` that wait on one list, the one with the last
place goes on first; and a user whom `setUserStatus` is about to make a watcher does not log out before. -/
def lookonSafe (cfg : ServerConfig) (s : State) : Label → Bool
  | .userLookon userID chairID refused _ => !admits s userID chairID refused || !s.removing userID
  | .standUp userID turns => leaveSafe cfg s (.standUp userID :: concludeGame turns)
  | .userOffLine userID turns =>
    leaveSafe cfg s (userOffLine cfg s userID (concludeGame turns)) &&
      (!(s.users userID).any (User.watches cfg) || s.removing userID)
  | .concludeGame turns => leaveSafe cfg s (concludeGame turns)
  | .resume _ =>
    match s.holder with
    | some (.asking _ _ todo) => leaveSafe cfg s todo
    | _ => true
  | .resumeRemoval i _ =>
    (s.removals[i]?).all fun r => (s.removals.eraseIdx i).all fun r' => r'.userIDs ≠ r.userIDs || r'.k < r.k
  | .elsewhere userID user => user.isSome || s.messages.all fun q => q.userID ≠ userID || q.userStatus ≠ .usLookon
  | _ => true

/-! ## The invariant -/

/-- The user watches at the chair. -/
def State.Watches (cfg : ServerConfig) (s : State) (userID chairID : Nat) : Prop :=
  s.users userID = some ⟨.usLookon, cfg.id, chairID⟩

/-- A `removeOldLookonUser` of the user waits. -/
def State.Removing (s : State) (userID : Nat) : Prop := ∃ r ∈ s.removals, r.userID = userID

/-- A message makes the user a watcher of the chair. -/
def State.Coming (s : State) (userID chairID : Nat) : Prop :=
  ∃ q ∈ s.messages, q.userID = userID ∧ q.userStatus = .usLookon ∧ q.chairID = chairID

/-- A message gives the user another status. -/
def State.Parting (s : State) (userID : Nat) : Prop := ∃ q ∈ s.messages, q.userID = userID ∧ q.userStatus ≠ .usLookon

/-- The handler in the critical section will ask for another status of the user. -/
def State.Planned (s : State) (q : Request) : Prop :=
  ∃ q' session todo, s.holder = some (.asking q' session todo) ∧ .setUserStatus q ∈ todo

/-- Each chair has its own list, and a `removeOldLookonUser` that waits knows the place of its user; one that has come to its
end has removed nobody else. -/
structure Linked (s : State) : Prop where
  apart : ∀ c c' l, s.lookonUser.lookup c = some l → s.lookonUser.lookup c' = some l → c = c'
  old : ∀ c l, s.lookonUser.lookup c = some l → l < s.nextList
  nodup : ∀ c, (s.watchers c).Nodup
  one : ∀ u c c', u ∈ s.watchers c → u ∈ s.watchers c' → c = c'
  oldRemoval : ∀ r ∈ s.removals, r.userIDs < s.nextList
  found : ∀ r ∈ s.removals, (s.lists r.userIDs)[r.k]? = some r.userID
  own : ∀ r ∈ s.removals, ∀ c, r.userID ∈ s.watchers c → s.lookonUser.lookup c = some r.userIDs
  right : ∀ e ∈ s.log, ∀ v, e.value = some v → v = e.userID

/-- The messages are those the handlers wait for. -/
structure Mailed (s : State) : Prop where
  queued : ∀ r ∈ s.removals, s.handled ≤ r.session → s.messages[r.session - s.handled]? = some (Request.free r.userID)
  sent : ∀ (i : Nat) (q : Request), s.messages[i]? = some q →
    (∃ r ∈ s.removals, r.session = s.handled + i ∧ q = Request.free r.userID) ∨
      ∃ todo, s.holder = some (.asking q (s.handled + i) todo)
  plain : ∀ c r, s.holder ≠ some (.replacing c r)

/-- A user in a list watches, or is about to, or is being removed. -/
structure Watched (cfg : ServerConfig) (s : State) : Prop where
  member : ∀ u c, u ∈ s.watchers c → s.Watches cfg u c ∨ s.Removing u ∨ s.Coming u c
  watcher : ∀ u c, s.Watches cfg u c → u ∈ s.watchers c ∨ s.Parting u
  coming : ∀ (i : Nat) (q : Request), s.messages[i]? = some q → q.userStatus = .usLookon →
    q.tableID = cfg.id ∧ q.userID ∈ s.watchers q.chairID ∧ s.users q.userID ≠ none ∧
      ∀ (j : Nat) (p : Request), j < i → s.messages[j]? = some p → p.userID ≠ q.userID
  parting : ∀ q, q ∈ s.messages ∧ q.userStatus ≠ .usLookon ∨ s.Planned q → ∀ c, q.userID ∈ s.watchers c → s.Removing q.userID
  planned : ∀ q, s.Planned q → q.userStatus ≠ .usLookon
  gone : ∀ r ∈ s.removals, r.session < s.handled → ∀ c, ¬s.Watches cfg r.userID c ∧ ¬s.Coming r.userID c

/-- The invariant. -/
structure Lists (cfg : ServerConfig) (s : State) : Prop extends Linked s, Mailed s, Watched cfg s

section Lookon

variable {cfg : ServerConfig} {s s' : State}

theorem removing_iff {u : Nat} : s.removing u = true ↔ s.Removing u := by
  simp [State.removing, State.Removing]

theorem watches_iff {u : Nat} : (s.users u).any (User.watches cfg) = true ↔ ∃ c, s.Watches cfg u c := by
  unfold State.Watches
  cases s.users u with
  | none => simp
  | some x =>
    cases x with
    | mk st t c => simp [User.watches]

/-! ## The watchers -/

theorem watchers_of_lookup {c l : Nat} (h : s.lookonUser.lookup c = some l) : s.watchers c = s.lists l := by
  rw [State.watchers, h]
  rfl

theorem watchers_of_none {c : Nat} (h : s.lookonUser.lookup c = none) : s.watchers c = [] := by
  rw [State.watchers, h]
  rfl

theorem watchers_congr (hl : s'.lookonUser = s.lookonUser) (hls : s'.lists = s.lists) (c : Nat) :
    s'.watchers c = s.watchers c := by
  rw [State.watchers, State.watchers, hl, hls]

/-- A chair that is given up has no watchers. -/
theorem watchers_leave (s : State) (c c' : Nat) : (leave s c).watchers c' = if c' = c then [] else s.watchers c' := by
  unfold leave State.watchers
  dsimp only
  split
  · rename_i h
    rw [h, AList.lookup_erase]
    rfl
  · rename_i h
    rw [AList.lookup_erase_ne h]

/-- The new list of a chair has the one watcher. -/
theorem watchers_newList (h : Linked s) (c u c' : Nat) :
    (newList s c u).watchers c' = if c' = c then [u] else s.watchers c' := by
  unfold newList State.watchers
  dsimp only
  split
  · rename_i hc
    rw [hc, AList.lookup_insert, Option.elim_some, Function.update_self]
  · rename_i hc
    rw [AList.lookup_insert_ne hc]
    cases hl : s.lookonUser.lookup c' with
    | none => rfl
    | some l => rw [Option.elim_some, Option.elim_some, Function.update_of_ne (Nat.ne_of_lt (h.old c' l hl))]

/-- The user comes to the end of the list of the chair. -/
theorem watchers_tableInsert (h : Linked s) {c l : Nat} (hl : s.lookonUser.lookup c = some l) (u c' : Nat) :
    (tableInsert s l u).watchers c' = if c' = c then s.watchers c ++ [u] else s.watchers c' := by
  unfold tableInsert State.watchers
  dsimp only
  split
  · rename_i hc
    rw [hc, hl, Option.elim_some, Option.elim_some, Function.update_self]
  · rename_i hc
    cases hl' : s.lookonUser.lookup c' with
    | none => rfl
    | some l' =>
      have hne : l' ≠ l := fun he => hc (h.apart c' c l (he ▸ hl') hl)
      rw [Option.elim_some, Option.elim_some, Function.update_of_ne hne]

/-! ## The layout of the lists -/

/-- What `Linked` speaks of is the lists, their places and the `removeOldLookonUser` that wait; fewer of these do no
harm. -/
theorem Linked.congr (h : Linked s) (hl : s'.lookonUser = s.lookonUser) (hls : s'.lists = s.lists)
    (hn : s'.nextList = s.nextList) (hlog : s'.log = s.log) (hr : ∀ r ∈ s'.removals, r ∈ s.removals) :
    Linked s' where
  apart := by rw [hl]; exact h.apart
  old := by rw [hl, hn]; exact h.old
  nodup := fun c => watchers_congr hl hls c ▸ h.nodup c
  one := fun u c c' hu hu' => h.one u c c' (watchers_congr hl hls c ▸ hu) (watchers_congr hl hls c' ▸ hu')
  oldRemoval := by rw [hn]; exact fun r hm => h.oldRemoval r (hr r hm)
  found := by rw [hls]; exact fun r hm => h.found r (hr r hm)
  own := by rw [hl]; exact fun r hm c hu => h.own r (hr r hm) c (watchers_congr hl hls c ▸ hu)
  right := by rw [hlog]; exact h.right

/-- A chair and its list are given up. -/
theorem Linked.leave (h : Linked s) (c : Nat) : Linked (leave s c) := by
  have hlookup : ∀ c' l, (TableLookon.leave s c).lookonUser.lookup c' = some l → s.lookonUser.lookup c' = some l := by
    intro c' l hl
    rw [TableLookon.leave] at hl
    by_cases hc : c' = c
    · rw [hc, AList.lookup_erase] at hl
      cases hl
    · rwa [AList.lookup_erase_ne hc] at hl
  have hsub : ∀ u c', u ∈ (TableLookon.leave s c).watchers c' → c' ≠ c ∧ u ∈ s.watchers c' := by
    intro u c' hu
    rw [watchers_leave] at hu
    split at hu
    · cases hu
    · rename_i hc
      exact ⟨hc, hu⟩
  refine ⟨fun c1 c2 l h1 h2 => h.apart c1 c2 l (hlookup c1 l h1) (hlookup c2 l h2),
    fun c' l hl => h.old c' l (hlookup c' l hl), ?_, fun u c1 c2 h1 h2 => h.one u c1 c2 (hsub u c1 h1).2 (hsub u c2 h2).2,
      h.oldRemoval, h.found, ?_, h.right⟩
  · intro c'
    rw [watchers_leave]
    split
    · exact List.nodup_nil
    · exact h.nodup c'
  · intro r hr c' hu
    obtain ⟨hc, hu⟩ := hsub r.userID c' hu
    rw [TableLookon.leave, AList.lookup_erase_ne hc]
    exact h.own r hr c' hu

/-- The watchers after a user has come to the end of the list of a chair. -/
def State.Joined (s s' : State) (u c : Nat) : Prop :=
  ∀ c', s'.watchers c' = if c' = c then s.watchers c ++ [u] else s.watchers c'

/-- Who is in a list after a user has come to it. -/
theorem State.Joined.mem_iff {u c : Nat} (h : s.Joined s' u c) (v c' : Nat) :
    v ∈ s'.watchers c' ↔ v ∈ s.watchers c' ∨ v = u ∧ c' = c := by
  rw [h c']
  split
  · rename_i hc
    simp [hc]
  · rename_i hc
    simp [hc]

/-- A user in no list, whom nobody removes, comes to a list. -/
theorem Linked.join (h : Linked s) {u c : Nat} (hj : s.Joined s' u c) (hnew : ∀ c', u ∉ s.watchers c')
    (hremoving : ¬s.Removing u) (hr : s'.removals = s.removals) (hlog : s'.log = s.log)
    (hn : s.nextList ≤ s'.nextList)
    (hkeep : ∀ c' l, s.lookonUser.lookup c' = some l → s'.lookonUser.lookup c' = some l)
    (hapart : ∀ c1 c2 l, s'.lookonUser.lookup c1 = some l → s'.lookonUser.lookup c2 = some l → c1 = c2)
    (hold : ∀ c' l, s'.lookonUser.lookup c' = some l → l < s'.nextList)
    (hlists : ∀ (l i v : Nat), l < s.nextList → (s.lists l)[i]? = some v → (s'.lists l)[i]? = some v) : Linked s' := by
  refine ⟨hapart, hold, ?_, ?_, ?_, ?_, ?_, hlog ▸ h.right⟩
  · intro c'
    rw [hj c']
    split
    · refine List.nodup_append.2 ⟨h.nodup c, List.nodup_singleton u, ?_⟩
      rintro v hv w hw rfl
      exact hnew c (List.mem_singleton.1 hw ▸ hv)
    · exact h.nodup c'
  · intro v c1 c2 h1 h2
    rcases (hj.mem_iff v c1).1 h1 with h1 | ⟨rfl, rfl⟩
    · rcases (hj.mem_iff v c2).1 h2 with h2 | ⟨rfl, rfl⟩
      · exact h.one v c1 c2 h1 h2
      · exact absurd h1 (hnew c1)
    · rcases (hj.mem_iff v c2).1 h2 with h2 | ⟨-, rfl⟩
      · exact absurd h2 (hnew c2)
      · rfl
  · rw [hr]
    exact fun r hm => Nat.lt_of_lt_of_le (h.oldRemoval r hm) hn
  · rw [hr]
    exact fun r hm => hlists _ _ _ (h.oldRemoval r hm) (h.found r hm)
  · rw [hr]
    intro r hm c' hu
    rcases (hj.mem_iff r.userID c').1 hu with hu | ⟨rfl, -⟩
    · exact hkeep c' _ (h.own r hm c' hu)
    · exact absurd ⟨r, hm, rfl⟩ hremoving

theorem joined_newList (h : Linked s) {u c : Nat} (hc : s.lookonUser.lookup c = none) : s.Joined (newList s c u) u c := by
  intro c'
  rw [watchers_newList h, watchers_of_none hc]
  rfl

theorem joined_tableInsert (h : Linked s) {u c l : Nat} (hl : s.lookonUser.lookup c = some l) :
    s.Joined (tableInsert s l u) u c :=
  watchers_tableInsert h hl u

/-- A user in no list gets a list of a chair that had none. -/
theorem Linked.newList (h : Linked s) {u c : Nat} (hc : s.lookonUser.lookup c = none) (hnew : ∀ c', u ∉ s.watchers c')
    (hremoving : ¬s.Removing u) : Linked (newList s c u) := by
  have hlookup : ∀ c' l, (TableLookon.newList s c u).lookonUser.lookup c' = some l →
      c' = c ∧ l = s.nextList ∨ c' ≠ c ∧ s.lookonUser.lookup c' = some l := by
    intro c' l hl
    rw [TableLookon.newList] at hl
    by_cases hc' : c' = c
    · rw [hc', AList.lookup_insert] at hl
      exact Or.inl ⟨hc', (Option.some.inj hl).symm⟩
    · rw [AList.lookup_insert_ne hc'] at hl
      exact Or.inr ⟨hc', hl⟩
  refine h.join (joined_newList h hc) hnew hremoving rfl rfl (Nat.le_succ _) ?_ ?_ ?_ ?_
  · intro c' l hl
    have hc' : c' ≠ c := fun he => by rw [he, hc] at hl; cases hl
    exact (AList.lookup_insert_ne hc').trans hl
  · intro c1 c2 l h1 h2
    rcases hlookup c1 l h1 with ⟨rfl, rfl⟩ | ⟨-, h1⟩
    · rcases hlookup c2 _ h2 with ⟨rfl, -⟩ | ⟨-, h2⟩
      · rfl
      · exact absurd (h.old c2 _ h2) (Nat.lt_irrefl _)
    · rcases hlookup c2 l h2 with ⟨-, rfl⟩ | ⟨-, h2⟩
      · exact absurd (h.old c1 _ h1) (Nat.lt_irrefl _)
      · exact h.apart c1 c2 l h1 h2
  · intro c' l hl
    rcases hlookup c' l hl with ⟨-, rfl⟩ | ⟨-, hl⟩
    · exact Nat.lt_succ_self _
    · exact Nat.lt_succ_of_lt (h.old c' l hl)
  · intro l i v hl hv
    rw [TableLookon.newList]
    dsimp only
    rw [Function.update_of_ne (Nat.ne_of_lt hl)]
    exact hv

/-- A user in no list comes to the list of a chair. -/
theorem Linked.tableInsert (h : Linked s) {u c l : Nat} (hl : s.lookonUser.lookup c = some l)
    (hnew : ∀ c', u ∉ s.watchers c') (hremoving : ¬s.Removing u) :
    Linked (tableInsert s l u) := by
  refine h.join (joined_tableInsert h hl) hnew hremoving rfl rfl (Nat.le_refl _) (fun _ _ hl => hl) h.apart h.old ?_
  intro l' i v _ hv
  rw [TableLookon.tableInsert]
  dsimp only
  by_cases he : l' = l
  · subst he
    obtain ⟨hi, -⟩ := List.getElem?_eq_some_iff.1 hv
    rw [Function.update_self, List.getElem?_append_left hi]
    exact hv
  · rw [Function.update_of_ne he]
    exact hv

/-- What the search finds. -/
theorem search_some {u : Nat} {chairs : List Nat} {r : Removal} (h : search s u chairs = some r) :
    r.userID = u ∧ r.session = s.session ∧
      ∃ c, s.lookonUser.lookup c = some r.userIDs ∧ (s.lists r.userIDs)[r.k]? = some u := by
  obtain ⟨c, -, hc⟩ := List.exists_of_findSome?_eq_some h
  obtain ⟨l, hl, hl'⟩ := Option.bind_eq_some_iff.1 hc
  obtain ⟨k, hk, rfl⟩ := Option.map_eq_some_iff.1 hl'
  obtain ⟨hlt, hget, -⟩ := List.idxOf?_eq_some_iff.1 hk
  exact ⟨rfl, rfl, c, hl, List.getElem?_eq_some_iff.2 ⟨hlt, hget⟩⟩

/-- A user in no list is not found. -/
theorem search_none {u : Nat} (h : ∀ c, u ∉ s.watchers c) (chairs : List Nat) : search s u chairs = none := by
  refine List.findSome?_eq_none_iff.2 fun c _ => ?_
  cases hl : s.lookonUser.lookup c with
  | none => rfl
  | some l =>
    have hu : u ∉ s.lists l := watchers_of_lookup hl ▸ h c
    rw [Option.bind_some, List.idxOf?_eq_none_iff.2 hu]
    rfl

/-- `table.remove` after the wait, with the handler gone. -/
def State.removedAt (s : State) (i : Nat) (r : Removal) : State :=
  { s with
    removals := s.removals.eraseIdx i
    lists := Function.update s.lists r.userIDs ((s.lists r.userIDs).eraseIdx r.k)
    log := ⟨r.userID, some r.userID⟩ :: s.log }

/-- `tableRemove` takes away the user at the place that was kept, which is still the right one. -/
theorem tableRemove_eq (h : Linked s) {i : Nat} {r : Removal} (hr : r ∈ s.removals) :
    tableRemove { s with removals := s.removals.eraseIdx i } r = some (s.removedAt i r) := by
  have hf := h.found r hr
  obtain ⟨hlt, -⟩ := List.getElem?_eq_some_iff.1 hf
  rw [tableRemove, if_pos (Nat.le_of_lt hlt)]
  dsimp only
  rw [hf]
  rfl

theorem eraseIdx_eq_erase {l : List Nat} (h : l.Nodup) {k u : Nat} (hk : l[k]? = some u) : l.eraseIdx k = l.erase u := by
  obtain ⟨hlt, rfl⟩ := List.getElem?_eq_some_iff.1 hk
  conv_lhs => rw [← h.idxOf_getElem k hlt]
  exact List.eraseIdx_idxOf_eq_erase _ _

/-- The user, and nobody else, goes from the lists of the table. -/
theorem watchers_removedAt (h : Linked s) (i : Nat) {r : Removal} (hr : r ∈ s.removals) (c : Nat) :
    (s.removedAt i r).watchers c = (s.watchers c).erase r.userID := by
  unfold State.removedAt State.watchers
  dsimp only
  cases hl : s.lookonUser.lookup c with
  | none => rfl
  | some l =>
    rw [Option.elim_some, Option.elim_some]
    by_cases he : l = r.userIDs
    · subst he
      rw [Function.update_self, eraseIdx_eq_erase (watchers_of_lookup hl ▸ h.nodup c) (h.found r hr)]
    · rw [Function.update_of_ne he, List.erase_of_not_mem]
      intro hu
      have := h.own r hr c (watchers_of_lookup hl ▸ hu)
      exact he (Option.some.inj (hl.symm.trans this))

theorem mem_watchers_removedAt (h : Linked s) (i : Nat) {r : Removal} (hr : r ∈ s.removals) (v c : Nat) :
    v ∈ (s.removedAt i r).watchers c ↔ v ≠ r.userID ∧ v ∈ s.watchers c := by
  rw [watchers_removedAt h i hr, (h.nodup c).mem_erase_iff]

/-- The places that come before the removed one stay what they are. -/
theorem Linked.removedAt (h : Linked s) {i : Nat} {r : Removal} (hr : r ∈ s.removals)
    (hsafe : ∀ r' ∈ s.removals.eraseIdx i, r'.userIDs = r.userIDs → r'.k < r.k) : Linked (s.removedAt i r) := by
  have hmem : ∀ r' ∈ s.removals.eraseIdx i, r' ∈ s.removals := fun r' => List.mem_of_mem_eraseIdx
  refine ⟨h.apart, h.old, ?_, ?_, fun r' hr' => h.oldRemoval r' (hmem r' hr'), ?_, ?_, ?_⟩
  · intro c
    rw [watchers_removedAt h i hr]
    exact (h.nodup c).erase r.userID
  · intro v c c' hv hv'
    exact h.one v c c' ((mem_watchers_removedAt h i hr v c).1 hv).2 ((mem_watchers_removedAt h i hr v c').1 hv').2
  · intro r' hr'
    rw [State.removedAt]
    dsimp only
    by_cases he : r'.userIDs = r.userIDs
    · rw [he, Function.update_self, List.getElem?_eraseIdx_of_lt (hsafe r' hr' he), ← he]
      exact h.found r' (hmem r' hr')
    · rw [Function.update_of_ne he]
      exact h.found r' (hmem r' hr')
  · intro r' hr' c hu
    exact h.own r' (hmem r' hr') c ((mem_watchers_removedAt h i hr r'.userID c).1 hu).2
  · rintro e (_ | ⟨_, he⟩) v hv
    · exact (Option.some.inj hv).symm
    · exact h.right e he v hv

/-! ## The user manager -/

/-- `setUserStatus` changes the record of its user only. -/
theorem setUserStatus_cases (s : State) (q : Request) :
    ∃ x, setUserStatus s q = { s with users := Function.update s.users q.userID x } ∧
      (x = none ∧ (s.users q.userID = none ∨ q.userStatus = .usNull) ∨ x = some ⟨q.userStatus, q.tableID, q.chairID⟩) := by
  unfold setUserStatus
  split
  · rename_i hn
    refine ⟨none, ?_, Or.inl ⟨rfl, Or.inl hn⟩⟩
    rw [← hn, Function.update_eq_self]
  · refine ⟨_, rfl, ?_⟩
    split
    · rename_i hq
      exact Or.inl ⟨rfl, Or.inr hq⟩
    · exact Or.inr rfl

section Update

variable {u : Nat} {x : Option User} (hu : s'.users = Function.update s.users u x)

include hu

theorem watches_of_ne {v : Nat} (hv : v ≠ u) (c : Nat) : s'.Watches cfg v c ↔ s.Watches cfg v c := by
  rw [State.Watches, hu, Function.update_of_ne hv]
  rfl

theorem watches_self (c : Nat) : s'.Watches cfg u c ↔ x = some ⟨.usLookon, cfg.id, c⟩ := by
  rw [State.Watches, hu, Function.update_self]

end Update

/-- A message that the user manager has handled is no longer there. -/
theorem Mailed.serve (h : Mailed s) {q : Request} {messages : List Request} (hm : s.messages = q :: messages)
    (x : Nat → Option User) :
    Mailed { s with users := x, messages := messages, handled := s.handled + 1 } := by
  refine ⟨?_, ?_, h.plain⟩
  · intro r hr hle
    have hle' : s.handled + 1 ≤ r.session := hle
    have hq := h.queued r hr (by omega)
    rw [hm, show r.session - s.handled = r.session - (s.handled + 1) + 1 by omega, List.getElem?_cons_succ] at hq
    exact hq
  · intro i p hp
    have hp' : s.messages[i + 1]? = some p := by rw [hm, List.getElem?_cons_succ]; exact hp
    have hi : s.handled + 1 + i = s.handled + (i + 1) := by omega
    dsimp only
    rw [hi]
    exact h.sent (i + 1) p hp'

/-- The user manager handles a message. -/
theorem Lists.serve (h : Lists cfg s) (hs : TableLookon.serve s = some s') : Lists cfg s' := by
  unfold TableLookon.serve at hs
  split at hs
  · cases hs
  rename_i q messages hm
  obtain rfl := Option.some.inj hs
  obtain ⟨x, heq, hx⟩ := setUserStatus_cases s q
  rw [heq]
  have hmem : ∀ p, p ∈ s.messages ↔ p = q ∨ p ∈ messages := fun p => by rw [hm, List.mem_cons]
  have hindex : ∀ (i : Nat) (p : Request), messages[i]? = some p → s.messages[i + 1]? = some p := fun i p hp => by
    rw [hm, List.getElem?_cons_succ, hp]
  have hhead : s.messages[0]? = some q := by rw [hm]; rfl
  -- A message that makes a watcher finds the record.
  have hlookon : q.userStatus = .usLookon → x = some ⟨.usLookon, cfg.id, q.chairID⟩ ∧ q.userID ∈ s.watchers q.chairID := by
    intro hq
    obtain ⟨ht, hw, hu, -⟩ := h.coming 0 q hhead hq
    rcases hx with ⟨-, hn | hn⟩ | hx
    · exact absurd hn hu
    · exact absurd (hq.symm.trans hn) (by decide)
    · rw [hx, hq, ht]
      exact ⟨rfl, hw⟩
  have hother : q.userStatus ≠ .usLookon → ∀ c, x ≠ some ⟨.usLookon, cfg.id, c⟩ := by
    rintro hq c rfl
    rcases hx with ⟨hx, -⟩ | hx
    · cases hx
    · exact hq (congrArg User.userStatus (Option.some.inj hx)).symm
  have hmailed := h.toMailed.serve hm (Function.update s.users q.userID x)
  have hlinked : Linked
    { s with users := Function.update s.users q.userID x, messages := messages, handled := s.handled + 1 } :=
    h.toLinked.congr rfl rfl rfl rfl fun _ hr => hr
  have husers : ({ s with
      users := Function.update s.users q.userID x
      messages := messages
      handled := s.handled + 1 } : State).users = Function.update s.users q.userID x := rfl
  refine ⟨hlinked, hmailed, ?_, ?_, ?_, ?_, h.planned, ?_⟩
  · intro u c hu
    by_cases hq : u = q.userID
    · subst hq
      by_cases hst : q.userStatus = .usLookon
      · obtain ⟨hx', hw⟩ := hlookon hst
        left
        rw [watches_self husers, hx', h.one _ c q.chairID hu hw]
      · exact Or.inr (Or.inl (h.parting q (Or.inl ⟨(hmem q).2 (Or.inl rfl), hst⟩) c hu))
    · rw [watches_of_ne husers hq]
      refine (h.member u c hu).imp_right (Or.imp_right ?_)
      rintro ⟨p, hp, rfl, hst, hc⟩
      rcases (hmem p).1 hp with rfl | hp
      · exact absurd rfl hq
      · exact ⟨p, hp, rfl, hst, hc⟩
  · intro u c hu
    by_cases hq : u = q.userID
    · subst hq
      rw [watches_self husers] at hu
      by_cases hst : q.userStatus = .usLookon
      · obtain ⟨hx', hw⟩ := hlookon hst
        obtain rfl : q.chairID = c := congrArg User.chairID (Option.some.inj (hx'.symm.trans hu))
        exact Or.inl hw
      · exact absurd hu (hother hst c)
    · rw [watches_of_ne husers hq] at hu
      refine (h.watcher u c hu).imp_right ?_
      rintro ⟨p, hp, rfl, hst⟩
      rcases (hmem p).1 hp with rfl | hp
      · exact absurd rfl hq
      · exact ⟨p, hp, rfl, hst⟩
  · intro i p hp hst
    obtain ⟨ht, hw, hu, hbefore⟩ := h.coming (i + 1) p (hindex i p hp) hst
    have hne : p.userID ≠ q.userID := (hbefore 0 q (Nat.succ_pos i) hhead).symm
    refine ⟨ht, hw, ?_, fun j p' hj hp' => hbefore (j + 1) p' (Nat.succ_lt_succ hj) (hindex j p' hp')⟩
    rw [husers, Function.update_of_ne hne]
    exact hu
  · intro p hp
    exact h.parting p (hp.imp_left fun hp => ⟨(hmem p).2 (Or.inr hp.1), hp.2⟩)
  · intro r hr hlt c
    have hlt' : r.session < s.handled + 1 := hlt
    -- Either the answer was there before, or the message that is handled is the one of this handler.
    rcases Nat.lt_or_ge r.session s.handled with hbefore | hge
    · obtain ⟨hw, hc⟩ := h.gone r hr hbefore c
      constructor
      · by_cases hq : r.userID = q.userID
        · rw [hq, watches_self husers]
          refine fun hx' => hother (fun hst => ?_) c hx'
          obtain rfl : q.chairID = c := congrArg User.chairID (Option.some.inj ((hlookon hst).1.symm.trans hx'))
          exact hc ⟨q, (hmem q).2 (Or.inl rfl), hq.symm, hst, rfl⟩
        · rw [watches_of_ne husers hq]
          exact hw
      · rintro ⟨p, hp, hid, hst, hc'⟩
        exact hc ⟨p, (hmem p).2 (Or.inr hp), hid, hst, hc'⟩
    · have hq := h.queued r hr hge
      rw [show r.session - s.handled = 0 by omega, hhead, Option.some.injEq] at hq
      constructor
      · rw [show r.userID = q.userID by rw [hq]; rfl, watches_self husers]
        exact hother (by rw [hq]; nofun) c
      · rintro ⟨p, hp, hid, hst, -⟩
        obtain ⟨i, hi⟩ := List.getElem?_of_mem hp
        obtain ⟨-, -, -, hfirst⟩ := h.coming (i + 1) p (hindex i p hi) hst
        exact hfirst 0 q (Nat.succ_pos i) hhead (by rw [hq, hid]; rfl)

/-! ## Messages -/

/-- A message in the queue, or the one that has been put behind it. -/
theorem getElem?_concat_iff {α : Type*} {l : List α} {x y : α} {i : Nat} :
    (l ++ [x])[i]? = some y ↔ l[i]? = some y ∨ i = l.length ∧ y = x := by
  rcases Nat.lt_trichotomy i l.length with hi | rfl | hi
  · rw [List.getElem?_append_left hi]
    exact ⟨Or.inl, Or.rec id fun h => absurd h.1 (Nat.ne_of_lt hi)⟩
  · rw [List.getElem?_concat_length, List.getElem?_eq_none (Nat.le_refl _)]
    simp [eq_comm]
  · rw [List.getElem?_eq_none (by simp; omega), List.getElem?_eq_none (by omega)]
    simp
    omega

/-- While nobody is in the critical section, the messages are those of `removeOldLookonUser`. -/
theorem Mailed.removing (h : Mailed s) (hn : s.holder = none) {q : Request} (hq : q ∈ s.messages) :
    s.Removing q.userID ∧ q.userStatus ≠ .usLookon := by
  obtain ⟨i, hi⟩ := List.getElem?_of_mem hq
  rcases h.sent i q hi with ⟨r, hr, -, rfl⟩ | ⟨todo, hh⟩
  · exact ⟨⟨r, hr, rfl⟩, nofun⟩
  · rw [hn] at hh
    cases hh

theorem Mailed.not_coming (h : Mailed s) (hn : s.holder = none) (u c : Nat) : ¬s.Coming u c :=
  fun ⟨_, hq, _, hst, _⟩ => (h.removing hn hq).2 hst

/-- A handler in the critical section sends a message. -/
theorem Mailed.ask (h : Mailed s) (hn : s.holder = none) (q : Request) (todo : List Todo) : Mailed (s.ask q todo) := by
  refine ⟨?_, ?_, fun _ _ => nofun⟩
  · intro r hr hle
    exact getElem?_concat_iff.2 (Or.inl (h.queued r hr hle))
  · intro i p hp
    rcases getElem?_concat_iff.1 hp with hp | ⟨rfl, rfl⟩
    · rcases h.sent i p hp with hr | ⟨todo, hh⟩
      · exact Or.inl hr
      · rw [hn] at hh
        cases hh
    · exact Or.inr ⟨todo, rfl⟩

/-- A handler in the critical section whose answer has come waits for nothing. -/
theorem Lists.resumed (h : Lists cfg s) {q : Request} {session : Nat} {todo : List Todo}
    (hs : s.holder = some (.asking q session todo)) (hlt : session < s.handled) : Lists cfg s.release := by
  refine ⟨h.toLinked.congr rfl rfl rfl rfl fun _ hr => hr, ⟨h.queued, ?_, fun _ _ => nofun⟩, h.member, h.watcher, h.coming,
    ?_, ?_, h.gone⟩
  · intro i p hp
    rcases h.sent i p hp with hr | ⟨todo', hh⟩
    · exact Or.inl hr
    · obtain ⟨rfl, rfl, rfl⟩ := Holder.asking.inj (Option.some.inj (hs.symm.trans hh))
      exact absurd hlt (Nat.not_lt.2 (Nat.le_add_right _ _))
  · rintro p (hp | ⟨_, _, _, hh, -⟩)
    · exact h.parting p (Or.inl hp)
    · cases hh
  · rintro p ⟨_, _, _, hh, -⟩
    cases hh

/-- A handler in the critical section asks for another status of a user who is in no list, or is being removed. -/
theorem Lists.ask (h : Lists cfg s) (hn : s.holder = none) {q : Request} {todo : List Todo} (hq : q.userStatus ≠ .usLookon)
    (hp : ∀ c, q.userID ∈ s.watchers c → s.Removing q.userID)
    (htodo : ∀ p, .setUserStatus p ∈ todo → p.userStatus ≠ .usLookon ∧ ∀ c, p.userID ∈ s.watchers c → s.Removing p.userID) :
    Lists cfg (s.ask q todo) := by
  have hmem : ∀ p, p ∈ (s.ask q todo).messages ↔ p ∈ s.messages ∨ p = q := fun p => by
    rw [State.ask, State.send, List.mem_append, List.mem_singleton]
  have hplanned : ∀ p, (s.ask q todo).Planned p → .setUserStatus p ∈ todo := by
    rintro p ⟨q', session, todo', hh, hp⟩
    obtain ⟨rfl, rfl, rfl⟩ := Holder.asking.inj (Option.some.inj hh)
    exact hp
  refine ⟨h.toLinked.congr rfl rfl rfl rfl fun _ hr => hr, h.toMailed.ask hn q todo, ?_, ?_, ?_, ?_,
    fun p hp => (htodo p (hplanned p hp)).1, ?_⟩
  · exact fun u c hu => (h.member u c hu).imp_right (Or.imp_right fun hc => absurd hc (h.not_coming hn u c))
  · intro u c hu
    exact (h.watcher u c hu).imp_right fun ⟨p, hp, hid⟩ => ⟨p, (hmem p).2 (Or.inl hp), hid⟩
  · intro i p hp hst
    rcases (hmem p).1 (List.mem_of_getElem? hp) with hp | rfl
    · exact absurd hst (h.toMailed.removing hn hp).2
    · exact absurd hst hq
  · rintro p (⟨hp', hst⟩ | hp')
    · rcases (hmem p).1 hp' with hp' | rfl
      · exact h.parting p (Or.inl ⟨hp', hst⟩)
      · exact hp
    · exact (htodo p (hplanned p hp')).2
  · intro r hr hlt c
    refine ⟨(h.gone r hr hlt c).1, ?_⟩
    rintro ⟨p, hp, -, hst, -⟩
    rcases (hmem p).1 hp with hp | rfl
    · exact (h.toMailed.removing hn hp).2 hst
    · exact hq hst

/-- A chair is given up whose watchers are all being removed. -/
theorem Lists.leave (h : Lists cfg s) (hn : s.holder = none) {c : Nat} (hc : ∀ v ∈ s.watchers c, s.Removing v) : Lists cfg
    (leave s c) := by
  have hsub : ∀ u c', u ∈ (TableLookon.leave s c).watchers c' → u ∈ s.watchers c' := by
    intro u c' hu
    rw [watchers_leave] at hu
    split at hu
    · cases hu
    · exact hu
  refine ⟨h.toLinked.leave c, ⟨h.queued, h.sent, h.plain⟩, fun u c' hu => h.member u c' (hsub u c' hu), ?_, ?_,
    fun q hq c' hu => h.parting q hq c' (hsub _ c' hu), h.planned, h.gone⟩
  · intro u c' hu
    have hu' : s.Watches cfg u c' := hu
    rcases h.watcher u c' hu' with hw | hp
    · rw [watchers_leave]
      split
      · -- The watcher has not been removed yet, so that the message is still there.
        rename_i hc'
        obtain ⟨r, hr, rfl⟩ := hc u (hc' ▸ hw)
        right
        rcases Nat.lt_or_ge r.session s.handled with hlt | hge
        · exact absurd hu' (h.gone r hr hlt c').1
        · exact ⟨_, List.mem_of_getElem? (h.queued r hr hge), rfl, nofun⟩
      · exact Or.inl hw
    · exact Or.inr hp
  · intro i q hq hst
    exact absurd hst (h.toMailed.removing hn (List.mem_of_getElem? hq)).2

/-! ## In the critical section -/

/-- The user of the act is not one who watches another chair, and gets another status than `US_LOOKON`. -/
def Act.Apart (cfg : ServerConfig) (s : State) : Act → Prop
  | .error => True
  | .leave userID chairID us => us ≠ .usLookon ∧ ∀ c, s.Watches cfg userID c → c = chairID
  | .ask q more => (q.userStatus ≠ .usLookon ∧ ∀ c, ¬s.Watches cfg q.userID c) ∧ ∀ p, .setUserStatus p ∉ more

/-- What `standUp` begins with keeps apart from the lists. -/
theorem apart_standUp {u : Nat} {a : Act} (h : standUp s u = some a) : a.Apart cfg s := by
  unfold standUp at h
  split at h
  · obtain rfl := Option.some.inj h
    trivial
  · rename_i x hx
    split at h
    · cases h
    · obtain rfl := Option.some.inj h
      refine ⟨by split <;> nofun, fun c hc => ?_⟩
      exact (congrArg User.chairID (Option.some.inj (hx.symm.trans hc))).symm

/-- So does what the loop of `concludeGame` begins with for a chair. -/
theorem apart_concludeUser {c : Nat} {kick : Bool} {a : Act} (h : concludeUser cfg s c kick = some a) : a.Apart cfg s := by
  unfold concludeUser at h
  split at h
  · cases h
  split at h
  · obtain rfl := Option.some.inj h
    trivial
  rename_i v _ _ x hx
  split at h
  · exact apart_standUp h
  split at h
  · rename_i hst
    obtain rfl := Option.some.inj h
    refine ⟨⟨nofun, fun c hc => ?_⟩, fun p hp => ?_⟩
    · have hlookon := congrArg User.userStatus (Option.some.inj (hx.symm.trans hc))
      exact absurd (hst.symm.trans hlookon) nofun
    · cases kick <;> simp at hp
  split at h
  · exact apart_standUp h
  · cases h

/-- What is done next is done for something the handler has to do, or is a call of `setUserStatus` it has planned. -/
theorem nextAct_cases {a : Act} {rest : List Todo} : ∀ {todo : List Todo}, nextAct cfg s todo = some (a, rest) →
    (∀ t ∈ rest, t ∈ todo) ∧ (a.Apart cfg s ∨ ∃ q, .setUserStatus q ∈ todo ∧ a = .ask q []) := by
  intro todo
  induction todo with
  | nil => exact nofun
  | cons t todo ih =>
    intro h
    rw [nextAct] at h
    split at h
    · obtain ⟨hrest, ha⟩ := ih h
      exact ⟨fun t' ht' => List.mem_cons_of_mem t (hrest t' ht'),
        ha.imp_right fun ⟨q, hq, ha⟩ => ⟨q, List.mem_cons_of_mem t hq, ha⟩⟩
    · rename_i a' ha
      obtain ⟨rfl, rfl⟩ := Prod.mk.inj (Option.some.inj h)
      refine ⟨fun t' ht' => List.mem_cons_of_mem t ht', ?_⟩
      cases t with
      | standUp u => exact Or.inl (apart_standUp ha)
      | concludeUser c kick => exact Or.inl (apart_concludeUser ha)
      | setUserStatus q => exact Or.inr ⟨q, List.mem_cons_self, (Option.some.inj ha).symm⟩

/-- A user who does not watch is in no list while nobody is in the critical section, or is being removed. -/
theorem Lists.removing_of_not_watches (h : Lists cfg s) (hn : s.holder = none) {u c : Nat} (hu : u ∈ s.watchers c)
    (hw : ¬s.Watches cfg u c) : s.Removing u := by
  rcases h.member u c hu with hw' | hr | hc
  · exact absurd hw' hw
  · exact hr
  · exact absurd hc (h.not_coming hn u c)

/-- A handler in the critical section goes on. -/
theorem Lists.advance (h : Lists cfg s.release) {todo : List Todo}
    (htodo : ∀ p, .setUserStatus p ∈ todo → p.userStatus ≠ .usLookon ∧ ∀ c, p.userID ∈ s.watchers c → s.Removing p.userID)
    (hsafe : leaveSafe cfg s todo) : Lists cfg (advance cfg s todo) := by
  unfold leaveSafe at hsafe
  unfold TableLookon.advance
  split
  · exact h
  · exact h
  · rename_i v c us rest hnext
    rw [hnext] at hsafe
    obtain ⟨hrest, hapart | ⟨_, _, ha⟩⟩ := nextAct_cases hnext
    · have hleave := h.leave rfl fun w hw => removing_iff.1 (List.all_eq_true.1 hsafe w hw)
      have hsub : ∀ w c', w ∈ (TableLookon.leave s.release c).watchers c' → c' ≠ c ∧ w ∈ s.watchers c' := by
        intro w c' hw
        rw [watchers_leave] at hw
        split at hw
        · cases hw
        · rename_i hc'
          exact ⟨hc', hw⟩
      refine hleave.ask rfl hapart.1 ?_ ?_
      · intro c' hw
        obtain ⟨hc', hw⟩ := hsub v c' hw
        exact h.removing_of_not_watches rfl hw fun hwatch => hc' (hapart.2 c' hwatch)
      · intro p hp
        obtain ⟨hst, hp⟩ := htodo p (hrest _ hp)
        exact ⟨hst, fun c' hw => hp c' (hsub p.userID c' hw).2⟩
    · cases ha
  · rename_i q more rest hnext
    obtain ⟨hrest, ⟨⟨hst, hw⟩, hmore⟩ | ⟨p, hp, ha⟩⟩ := nextAct_cases hnext
    · refine h.ask rfl hst (fun c hu => h.removing_of_not_watches rfl hu (hw c)) ?_
      intro p hp
      rcases List.mem_append.1 hp with hp | hp
      · exact absurd hp (hmore p)
      · exact htodo p (hrest _ hp)
    · obtain ⟨rfl, rfl⟩ := Act.ask.inj ha
      refine h.ask rfl (htodo q hp).1 (htodo q hp).2 ?_
      rw [List.nil_append]
      exact fun p' hp' => htodo p' (hrest _ hp')

theorem setUserStatus_not_mem_concludeGame (turns : List (Nat × Bool)) (p : Request) :
    .setUserStatus p ∉ concludeGame turns := by
  intro hp
  obtain ⟨t, -, ht⟩ := List.mem_map.1 hp
  cases ht

/-- `cmd_userOffLine` plans no status for a watcher who stays. -/
theorem Lists.userOffLine (h : Lists cfg s) (hn : s.holder = none) {u : Nat} {turns : List (Nat × Bool)}
    (hsafe : (!(s.users u).any (User.watches cfg) || s.removing u) = true) (p : Request)
    (hp : .setUserStatus p ∈ userOffLine cfg s u (concludeGame turns)) :
    p.userStatus ≠ .usLookon ∧ ∀ c, p.userID ∈ s.watchers c → s.Removing p.userID := by
  have hu : ∀ c, u ∈ s.watchers c → s.Removing u := by
    intro c hc
    rcases Bool.or_eq_true_iff.1 hsafe with hw | hr
    · refine h.removing_of_not_watches hn hc fun hwatch => ?_
      rw [watches_iff.2 ⟨c, hwatch⟩] at hw
      cases hw
    · exact removing_iff.1 hr
  unfold TableLookon.userOffLine at hp
  split at hp
  · cases hp
  split at hp
  · obtain rfl := Todo.setUserStatus.inj (List.mem_singleton.1 hp)
    exact ⟨nofun, hu⟩
  split at hp
  · obtain rfl := Todo.setUserStatus.inj (List.mem_singleton.1 hp)
    exact ⟨nofun, hu⟩
  · rcases List.mem_cons.1 hp with hp | hp
    · cases hp
    rcases List.mem_append.1 hp with hp | hp
    · exact absurd hp (setUserStatus_not_mem_concludeGame turns p)
    · obtain rfl := Todo.setUserStatus.inj (List.mem_singleton.1 hp)
      exact ⟨nofun, hu⟩

/-! ## Coming to a list -/

/-- A user in no list, whom nobody removes, comes to the list of a chair, and asks for the status. -/
theorem Lists.join (h : Lists cfg s) (hn : s.holder = none) {u c : Nat} (hl : Linked s') (hj : s.Joined s' u c)
    (hs : s' = { s with lookonUser := s'.lookonUser, lists := s'.lists, nextList := s'.nextList })
    (hnew : ∀ c', u ∉ s.watchers c') (hremoving : ¬s.Removing u) (hu : s.users u ≠ none) :
    Lists cfg (askLookon cfg s' u c) := by
  have hmailed : Mailed s' := by
    rw [hs]
    exact ⟨h.queued, h.sent, h.plain⟩
  have hholder : s'.holder = none := by rw [hs]; exact hn
  have husers : s'.users = s.users := by rw [hs]
  have hremovals : s'.removals = s.removals := by rw [hs]
  have hhandled : s'.handled = s.handled := by rw [hs]
  have hmessages : s'.messages = s.messages := by rw [hs]
  replace husers : (askLookon cfg s' u c).users = s.users := husers
  replace hremovals : (askLookon cfg s' u c).removals = s.removals := hremovals
  replace hhandled : (askLookon cfg s' u c).handled = s.handled := hhandled
  replace hmessages : (askLookon cfg s' u c).messages = s.messages ++ [⟨u, .usLookon, cfg.id, c⟩] := hmessages ▸ rfl
  have hold : ∀ p, p ∈ (askLookon cfg s' u c).messages ↔ p ∈ s.messages ∨ p = ⟨u, .usLookon, cfg.id, c⟩ := by
    rw [hmessages]
    exact fun p => by rw [List.mem_append, List.mem_singleton]
  have hother : ∀ p, p ∈ s.messages → p.userID ≠ u ∧ p.userStatus ≠ .usLookon := by
    intro p hp
    obtain ⟨hr, hst⟩ := h.toMailed.removing hn hp
    exact ⟨fun he => hremoving (he ▸ hr), hst⟩
  have hmem : ∀ v c', v ∈ (askLookon cfg s' u c).watchers c' ↔ v ∈ s.watchers c' ∨ v = u ∧ c' = c := hj.mem_iff
  have hplanned : ∀ q, ¬(askLookon cfg s' u c).Planned q := by
    rintro q ⟨q', session, todo, hh, hq⟩
    obtain ⟨rfl, rfl, rfl⟩ := Holder.asking.inj (Option.some.inj hh)
    cases hq
  refine ⟨hl.congr rfl rfl rfl rfl fun _ hr => hr, hmailed.ask hholder _ _, ?_, ?_, ?_, ?_,
    fun q hq => absurd hq (hplanned q), ?_⟩
  · intro v c' hv
    rcases (hmem v c').1 hv with hv | ⟨rfl, rfl⟩
    · refine (h.member v c' hv).imp (fun hw => ?_) (Or.imp (fun hr => ?_) fun hc => absurd hc (h.not_coming hn v c'))
      · rw [State.Watches, husers]
        exact hw
      · rw [State.Removing, hremovals]
        exact hr
    · exact Or.inr (Or.inr ⟨_, (hold _).2 (Or.inr rfl), rfl, rfl, rfl⟩)
  · intro v c' hv
    rw [State.Watches, husers] at hv
    refine (h.watcher v c' hv).imp (fun hw => (hmem v c').2 (Or.inl hw)) ?_
    rintro ⟨p, hp, hid⟩
    exact ⟨p, (hold p).2 (Or.inl hp), hid⟩
  · intro i q hq hst
    rw [hmessages, getElem?_concat_iff] at hq
    rcases hq with hq | ⟨rfl, rfl⟩
    · exact absurd hst (hother q (List.mem_of_getElem? hq)).2
    · refine ⟨rfl, (hmem u c).2 (Or.inr ⟨rfl, rfl⟩), by rw [husers]; exact hu, fun j p hj' hp => ?_⟩
      rw [hmessages, List.getElem?_append_left hj'] at hp
      exact (hother p (List.mem_of_getElem? hp)).1
  · rintro q (⟨hq, hst⟩ | hq) c' hv
    · rcases (hold q).1 hq with hq | rfl
      · rcases (hmem _ c').1 hv with hv | ⟨hid, -⟩
        · rw [State.Removing, hremovals]
          exact h.parting q (Or.inl ⟨hq, hst⟩) c' hv
        · exact absurd hid (hother q hq).1
      · exact absurd rfl hst
    · exact absurd hq (hplanned q)
  · rw [hremovals, hhandled]
    intro r hr hlt c'
    rw [State.Watches, husers]
    refine ⟨(h.gone r hr hlt c').1, ?_⟩
    rintro ⟨p, hp, hid, hst, -⟩
    rcases (hold p).1 hp with hp | rfl
    · exact (hother p hp).2 hst
    · exact hremoving ⟨r, hr, hid.symm⟩

/-- `cmd_userLookon`. -/
theorem Lists.userLookon (h : Lists cfg s) (hn : s.holder = none) {u c : Nat} {refused : Bool} (chairs : List Nat)
    (hsafe : (!admits s u c refused || !s.removing u) = true) : Lists cfg (userLookon cfg s u c refused chairs) := by
  unfold TableLookon.userLookon
  split
  · exact h
  rename_i hadmits
  rw [not_not] at hadmits
  have hremoving : ¬s.Removing u := by
    rw [hadmits, Bool.not_true, Bool.false_or, Bool.not_eq_true'] at hsafe
    rw [← removing_iff, hsafe]
    exact nofun
  simp only [admits, Bool.and_eq_true, Option.any_eq_true] at hadmits
  obtain ⟨⟨⟨⟨x, hx, hat⟩, -⟩, -⟩, -⟩ := hadmits
  -- The user is at no table, so that the user watches no chair of this one.
  have hnew : ∀ c', u ∉ s.watchers c' := by
    intro c' hu
    refine hremoving (h.removing_of_not_watches hn hu fun hw => ?_)
    have htable := congrArg User.tableID (Option.some.inj (hx.symm.trans hw))
    exact cfg.id_ne (htable.symm.trans (of_decide_eq_true hat.1))
  have hu : s.users u ≠ none := by
    rw [hx]
    exact nofun
  split
  · rename_i hc
    exact h.join hn (h.toLinked.newList hc hnew hremoving) (joined_newList h.toLinked hc) rfl hnew hremoving hu
  · rename_i l hl
    rw [replaceOld, search_none hnew]
    dsimp only
    rw [hl]
    exact h.join hn (h.toLinked.tableInsert hl hnew hremoving) (joined_tableInsert h.toLinked hl) rfl hnew hremoving hu

/-! ## Outside of the critical section -/

/-- A `removeOldLookonUser` has found its user and waits. -/
theorem Lists.removeOldLookonUser (h : Lists cfg s) (u : Nat) (chairs : List Nat) :
    Lists cfg (removeOldLookonUser s u chairs) := by
  unfold TableLookon.removeOldLookonUser
  split
  · exact h
  rename_i r hr
  obtain ⟨rfl, hsession, c, hl, hfound⟩ := search_some hr
  have hu : r.userID ∈ s.watchers c := watchers_of_lookup hl ▸ List.mem_of_getElem? hfound
  have hold : ∀ r', r' ∈ s.removals ++ [r] ↔ r' ∈ s.removals ∨ r' = r :=
    fun r' => by rw [List.mem_append, List.mem_singleton]
  have hmem : ∀ p, p ∈ s.messages ++ [Request.free r.userID] ↔ p ∈ s.messages ∨ p = Request.free r.userID := fun p => by
    rw [List.mem_append, List.mem_singleton]
  have hremoving : ∀ v, s.Removing v →
    ({ s.send (Request.free r.userID) with removals := s.removals ++ [r] } : State).Removing v :=
    fun v ⟨r', hr', hid⟩ => ⟨r', (hold r').2 (Or.inl hr'), hid⟩
  refine ⟨⟨h.apart, h.old, h.nodup, h.one, ?_, ?_, ?_, h.right⟩, ⟨?_, ?_, h.plain⟩, ?_, ?_, ?_, ?_, h.planned, ?_⟩
  · intro r' hr'
    rcases (hold r').1 hr' with hr' | rfl
    · exact h.oldRemoval r' hr'
    · exact h.old c _ hl
  · intro r' hr'
    rcases (hold r').1 hr' with hr' | rfl
    · exact h.found r' hr'
    · exact hfound
  · intro r' hr' c' hc'
    rcases (hold r').1 hr' with hr' | rfl
    · exact h.own r' hr' c' hc'
    · rw [h.one _ c' c hc' hu]
      exact hl
  · intro r' hr' hle
    refine getElem?_concat_iff.2 ?_
    rcases (hold r').1 hr' with hr' | rfl
    · exact Or.inl (h.queued r' hr' hle)
    · right
      refine ⟨?_, rfl⟩
      rw [hsession, State.session]
      exact Nat.add_sub_cancel_left _ _
  · intro i q hq
    rcases getElem?_concat_iff.1 hq with hq | ⟨rfl, rfl⟩
    · exact (h.sent i q hq).imp_left fun ⟨r', hr', hid⟩ => ⟨r', (hold r').2 (Or.inl hr'), hid⟩
    · exact Or.inl ⟨r, (hold r).2 (Or.inr rfl), hsession, rfl⟩
  · intro v c' hv
    refine (h.member v c' hv).imp_right (Or.imp (hremoving v) ?_)
    rintro ⟨p, hp, hid⟩
    exact ⟨p, (hmem p).2 (Or.inl hp), hid⟩
  · intro v c' hv
    refine (h.watcher v c' hv).imp_right ?_
    rintro ⟨p, hp, hid⟩
    exact ⟨p, (hmem p).2 (Or.inl hp), hid⟩
  · intro i q hq hst
    rcases getElem?_concat_iff.1 hq with hq | ⟨-, rfl⟩
    · obtain ⟨ht, hw, hn, hbefore⟩ := h.coming i q hq hst
      refine ⟨ht, hw, hn, fun j p hj hp => hbefore j p hj ?_⟩
      have hlt : i < s.messages.length := (List.getElem?_eq_some_iff.1 hq).1
      rcases getElem?_concat_iff.1 hp with hp | ⟨rfl, -⟩
      · exact hp
      · exact absurd hj (Nat.not_lt.2 (Nat.le_of_lt hlt))
    · cases hst
  · rintro q (⟨hq, hst⟩ | hq) c' hv
    · rcases (hmem q).1 hq with hq | rfl
      · exact hremoving _ (h.parting q (Or.inl ⟨hq, hst⟩) c' hv)
      · exact ⟨r, (hold r).2 (Or.inr rfl), rfl⟩
    · exact hremoving _ (h.parting q (Or.inr hq) c' hv)
  · intro r' hr' hlt c'
    rcases (hold r').1 hr' with hr' | rfl
    · refine ⟨(h.gone r' hr' hlt c').1, ?_⟩
      rintro ⟨p, hp, hid, hst, hc⟩
      rcases (hmem p).1 hp with hp | rfl
      · exact (h.gone r' hr' hlt c').2 ⟨p, hp, hid, hst, hc⟩
      · cases hst
    · have hlt' : r'.session < s.handled := hlt
      rw [hsession, State.session] at hlt'
      omega

/-- A `removeOldLookonUser` has come to its end. -/
theorem Lists.removedAt (h : Lists cfg s) {i : Nat} {r : Removal} (hr : s.removals[i]? = some r)
    (hlt : r.session < s.handled) (hsafe : ∀ r' ∈ s.removals.eraseIdx i, r'.userIDs = r.userIDs → r'.k < r.k) :
    Lists cfg (s.removedAt i r) := by
  have hrmem := List.mem_of_getElem? hr
  have hmem := mem_watchers_removedAt h.toLinked i hrmem
  have hold : ∀ r' ∈ s.removals.eraseIdx i, r' ∈ s.removals := fun r' => List.mem_of_mem_eraseIdx
  have hkeep : ∀ r' ∈ s.removals, r' ≠ r → r' ∈ s.removals.eraseIdx i := by
    intro r' hr' hne
    obtain ⟨j, hj⟩ := List.getElem?_of_mem hr'
    refine List.mem_eraseIdx_iff_getElem?.2 ⟨j, ?_, hj⟩
    rintro rfl
    exact hne (Option.some.inj (hj.symm.trans hr))
  -- Another user who is being removed still is.
  have hremoving : ∀ v, v ≠ r.userID → s.Removing v → (s.removedAt i r).Removing v := by
    rintro v hv ⟨r', hr', rfl⟩
    exact ⟨r', hkeep r' hr' fun he => hv (he ▸ rfl), rfl⟩
  refine ⟨h.toLinked.removedAt hrmem hsafe, ⟨fun r' hr' => h.queued r' (hold r' hr'), ?_, h.plain⟩, ?_, ?_, ?_,
    ?_, h.planned, fun r' hr' => h.gone r' (hold r' hr')⟩
  · intro j q hq
    refine (h.sent j q hq).imp_left ?_
    rintro ⟨r', hr', hs, hq'⟩
    refine ⟨r', hkeep r' hr' ?_, hs, hq'⟩
    rintro rfl
    omega
  · intro v c hv
    obtain ⟨hne, hv⟩ := (hmem v c).1 hv
    exact (h.member v c hv).imp_right (Or.imp_left (hremoving v hne))
  · intro v c hv
    by_cases hne : v = r.userID
    · exact absurd hv (hne ▸ (h.gone r hrmem hlt c).1)
    · exact (h.watcher v c hv).imp_left fun hw => (hmem v c).2 ⟨hne, hw⟩
  · intro j q hq hst
    obtain ⟨ht, hw, hu, hbefore⟩ := h.coming j q hq hst
    refine ⟨ht, (hmem _ _).2 ⟨fun he => ?_, hw⟩, hu, hbefore⟩
    exact (h.gone r hrmem hlt q.chairID).2 ⟨q, List.mem_of_getElem? hq, he, hst, rfl⟩
  · intro q hq c hv
    obtain ⟨hne, hv⟩ := (hmem _ c).1 hv
    exact hremoving _ hne (h.parting q hq c hv)

/-- A `removeOldLookonUser` goes on: its user is taken from the place that was found, and looks for the next chair. -/
theorem Lists.resumeRemoval (h : Lists cfg s) {i : Nat} {chairs : List Nat}
    (hsafe : lookonSafe cfg s (.resumeRemoval i chairs)) (hs : resumeRemoval s i chairs = some s') : Lists cfg s' := by
  unfold TableLookon.resumeRemoval at hs
  split at hs
  · cases hs
  rename_i r hr
  split at hs
  · rename_i hanswered
    have hrmem := List.mem_of_getElem? hr
    simp only [lookonSafe, hr, Option.all_some, List.all_eq_true, Bool.or_eq_true, decide_eq_true_eq] at hsafe
    have hremoved := h.removedAt hr (of_decide_eq_true hanswered) fun r' hr' he =>
      (hsafe r' hr').resolve_left (by simpa using he)
    dsimp only at hs
    rw [tableRemove_eq h.toLinked hrmem] at hs
    dsimp only at hs
    rw [TableLookon.removeOldLookonUser, search_none] at hs
    · exact Option.some.inj hs ▸ hremoved
    · exact fun c hu => ((mem_watchers_removedAt h.toLinked i hrmem _ c).1 hu).1 rfl
  · cases hs

/-! ## The users -/

/-- The record of a user changes who watches neither before nor after. -/
theorem Lists.record (h : Lists cfg s) {u : Nat} {x : Option User} (hbefore : ∀ c, ¬s.Watches cfg u c)
    (hafter : ∀ c, x ≠ some ⟨.usLookon, cfg.id, c⟩)
    (hx : x = none → ∀ q ∈ s.messages, q.userID = u → q.userStatus ≠ .usLookon) (chairs : Nat → Option Nat) :
    Lists cfg { s with users := Function.update s.users u x, chairs := chairs } := by
  have husers : ({ s with users := Function.update s.users u x, chairs := chairs } : State).users =
    Function.update s.users u x := rfl
  have hwatches : ∀ v c, ({ s with users := Function.update s.users u x, chairs := chairs } : State).Watches cfg v c ↔
    s.Watches cfg v c := by
    intro v c
    by_cases hv : v = u
    · rw [hv, watches_self husers]
      exact iff_of_false (hafter c) (hbefore c)
    · exact watches_of_ne husers hv c
  refine ⟨h.toLinked.congr rfl rfl rfl rfl fun _ hr => hr, ⟨h.queued, h.sent, h.plain⟩, ?_, ?_, ?_, h.parting, h.planned, ?_⟩
  · exact fun v c hv => (h.member v c hv).imp_left (hwatches v c).2
  · exact fun v c hv => h.watcher v c ((hwatches v c).1 hv)
  · intro i q hq hst
    obtain ⟨ht, hw, hu, hfirst⟩ := h.coming i q hq hst
    refine ⟨ht, hw, ?_, hfirst⟩
    rw [husers]
    by_cases he : q.userID = u
    · rw [he, Function.update_self]
      exact fun hn => hx hn q (List.mem_of_getElem? hq) he hst
    · rw [Function.update_of_ne he]
      exact hu
  · intro r hr hlt c
    rw [hwatches]
    exact h.gone r hr hlt c

/-- An empty table. -/
theorem lists_init (cfg : ServerConfig) : Lists cfg State.init := by
  have hwatchers : ∀ c, State.init.watchers c = [] := fun c => watchers_of_none (AList.lookup_empty c)
  have hmem : ∀ u c, u ∉ State.init.watchers c := fun u c hu => by rw [hwatchers] at hu; cases hu
  refine ⟨⟨?_, ?_, ?_, fun u c _ hu => absurd hu (hmem u c), nofun, nofun, nofun, nofun⟩, ⟨nofun, ?_, nofun⟩,
    fun u c hu => absurd hu (hmem u c), nofun, ?_, fun _ _ c hu => absurd hu (hmem _ c), ?_, nofun⟩
  · intro c c' l hl
    rw [show State.init.lookonUser = ∅ from rfl, AList.lookup_empty] at hl
    cases hl
  · intro c l hl
    rw [show State.init.lookonUser = ∅ from rfl, AList.lookup_empty] at hl
    cases hl
  · intro c
    rw [hwatchers]
    exact List.nodup_nil
  · intro i q hq
    cases hq
  · intro i q hq
    cases hq
  · rintro q ⟨_, _, _, hh, -⟩
    cases hh

end Lookon

/-- One label. -/
theorem Lists.step {cfg : ServerConfig} {s s' : State} {i : Label} (h : Lists cfg s) (hsafe : lookonSafe cfg s i)
    (hs : step cfg s i = some s') : Lists cfg s' := by
  have hfree : s.holder = none → s.release = s := fun hn => by
    rw [State.release, ← hn]
  cases i with
  | userLookon u c refused chairs =>
    simp only [TableLookon.step] at hs
    split at hs
    · rename_i hn
      exact Option.some.inj hs ▸ h.userLookon hn.1 chairs hsafe
    · cases hs
  | removeOldLookonUser u chairs =>
    simp only [TableLookon.step] at hs
    split at hs
    · exact Option.some.inj hs ▸ h.removeOldLookonUser u chairs
    · cases hs
  | standUp u turns =>
    simp only [TableLookon.step] at hs
    split at hs
    · rename_i hn
      refine Option.some.inj hs ▸ ((hfree hn).symm ▸ h : Lists cfg s.release).advance ?_ hsafe
      intro p hp
      rcases List.mem_cons.1 hp with hp | hp
      · cases hp
      · exact absurd hp (setUserStatus_not_mem_concludeGame turns p)
    · cases hs
  | userOffLine u turns =>
    simp only [TableLookon.step] at hs
    split at hs
    · rename_i hn
      obtain ⟨hleave, hoff⟩ := (Bool.and_eq_true_iff.1 hsafe : _ ∧ _)
      exact Option.some.inj hs ▸ ((hfree hn).symm ▸ h : Lists cfg s.release).advance (h.userOffLine hn hoff) hleave
    · cases hs
  | concludeGame turns =>
    simp only [TableLookon.step] at hs
    split at hs
    · rename_i hn
      refine Option.some.inj hs ▸ ((hfree hn).symm ▸ h : Lists cfg s.release).advance ?_ hsafe
      exact fun p hp => absurd hp (setUserStatus_not_mem_concludeGame turns p)
    · cases hs
  | serve => exact h.serve hs
  | resume chairs =>
    simp only [TableLookon.step, TableLookon.resume] at hs
    split at hs
    · cases hs
    · rename_i q session todo hholder
      split at hs
      · rename_i hanswered
        have hsafe' : leaveSafe cfg s todo := by
          simp only [lookonSafe, hholder] at hsafe
          exact hsafe
        refine Option.some.inj hs ▸ (h.resumed hholder (of_decide_eq_true hanswered)).advance ?_ hsafe'
        intro p hp
        have hplanned : s.Planned p := ⟨q, session, todo, hholder, hp⟩
        exact ⟨h.planned p hplanned, h.parting p (Or.inr hplanned)⟩
      · cases hs
    · rename_i c r hholder
      exact absurd hholder (h.plain c r)
  | resumeRemoval i chairs => exact h.resumeRemoval hsafe hs
  | sitDown u c st =>
    simp only [TableLookon.step] at hs
    split at hs
    case isFalse => cases hs
    rename_i hn
    unfold TableLookon.sitDown at hs
    split at hs
    · cases hs
    rename_i x hx
    split at hs
    · rename_i hat
      obtain rfl := Option.some.inj hs
      refine h.record (fun c' hw => ?_) (fun c' hc' => ?_) (fun hx => by cases hx) _
      · have htable := congrArg User.tableID (Option.some.inj (hx.symm.trans hw))
        exact cfg.id_ne (htable.symm.trans hat.1)
      · have hst : st = .usLookon := congrArg User.userStatus (Option.some.inj hc')
        rcases hat.2.2.2 with h | h | h <;> cases hst.symm.trans h
    · cases hs
  | elsewhere u x =>
    simp only [TableLookon.step] at hs
    split at hs
    · cases hs
    rename_i hother
    obtain ⟨hbefore, hafter⟩ := not_or.1 hother
    obtain rfl := Option.some.inj hs
    refine h.record (fun c hw => hbefore (watches_iff.2 ⟨c, hw⟩)) (fun c hc => hafter ?_) (fun hx q hq hid => ?_) s.chairs
    · rw [hc]
      simp [User.watches]
    · subst hx
      simp only [lookonSafe, Option.isSome_none, Bool.false_or, List.all_eq_true] at hsafe
      have := hsafe q hq
      simpa [hid] using this

/-- In every run of the handlers of one table, in any order and with any waits, all of whose steps meet the condition:
whenever no handler waits, a user is in the list of a chair once if the user has `US_LOOKON` with this table and this chair,
and else not at all; and no `table.remove` ever removes another user than the one of its `removeOldLookonUser`. -/
theorem lists_of_lookonSafe (cfg : ServerConfig) (is : List Label) (s : State)
    (hm : Steps.Meets (step cfg) (fun s i => lookonSafe cfg s i) State.init is)
    (h : Steps.exec (step cfg) State.init is = some s) :
    (s.holder = none → s.removals = [] →
      ∀ userID chairID, (s.watchers chairID).count userID =
        if s.users userID = some ⟨.usLookon, cfg.id, chairID⟩ then 1 else 0) ∧
    ∀ e ∈ s.log, ∀ v, e.value = some v → v = e.userID := by
  have hinv : Lists cfg s := Steps.exec_invariant (fun s i s' hs hc hstep => hs.step hc hstep) is _ s (lists_init cfg) hm h
  refine ⟨fun hn hr u c => ?_, hinv.right⟩
  have hremoving : ∀ v, ¬s.Removing v := by
    rintro v ⟨r, hmem, -⟩
    rw [hr] at hmem
    cases hmem
  rw [(hinv.nodup c).count]
  have hiff : u ∈ s.watchers c ↔ s.users u = some ⟨.usLookon, cfg.id, c⟩ := by
    constructor
    · intro hu
      rcases hinv.member u c hu with hw | hr' | hc
      · exact hw
      · exact absurd hr' (hremoving u)
      · exact absurd hc (hinv.not_coming hn u c)
    · intro hw
      rcases hinv.watcher u c hw with hu | ⟨q, hq, -⟩
      · exact hu
      · exact absurd (hinv.toMailed.removing hn hq).1 (hremoving q.userID)
  simp only [hiff]

/-- Users 1, 2, 3 and 4 log in, 1 sits down in chair 1, and the others watch the chair. -/
def threeWatchers : List Label :=
  [.elsewhere 1 (some ⟨.usFree, 0xffff, 0xffff⟩), .elsewhere 2 (some ⟨.usFree, 0xffff, 0xffff⟩),
    .elsewhere 3 (some ⟨.usFree, 0xffff, 0xffff⟩), .elsewhere 4 (some ⟨.usFree, 0xffff, 0xffff⟩), .sitDown 1 1 .usSit,
      .userLookon 2 1 false [], .serve, .resume [], .userLookon 3 1 false [1],
    .serve, .resume [], .userLookon 4 1 false [1], .serve, .resume []]

/-- The last watcher is removed, and then the second one. -/
theorem lists_of_lookonSafe_threeWatchers :
    ∃ s, Steps.exec (step { id := 7, serverID := 1, kindID := 1, chairPerTable := 4 }) State.init
        (threeWatchers ++
          [.removeOldLookonUser 3 [1], .removeOldLookonUser 4 [1], .serve, .serve, .resumeRemoval 1 [],
          .resumeRemoval 0 []]) =
          some s ∧
      s.watchers 1 = [2] ∧ s.users 3 = some ⟨.usFree, 0xffff, 0xffff⟩ ∧ ∀ e ∈ s.log, ∀ v, e.value = some v → v = e.userID :=
  ⟨_, rfl, by decide +kernel, by decide +kernel,
    (lists_of_lookonSafe { id := 7, serverID := 1, kindID := 1, chairPerTable := 4 }
      (threeWatchers ++
        [.removeOldLookonUser 3 [1], .removeOldLookonUser 4 [1], .serve, .serve, .resumeRemoval 1 [], .resumeRemoval 0 []]) _
      (by decide +kernel) rfl).2⟩

/-- The player whom three users watch stands up, and they still have `US_LOOKON`, but are in no list. Two of the three are
removed at the same time, and the third goes from the list instead of the second. -/
theorem watchers_without_list :
    (¬∀ (cfg : ServerConfig) (is : List Label) (s : State), Steps.exec (step cfg) State.init is = some s →
      s.holder = none → s.removals = [] →
        ∀ userID chairID, (s.watchers chairID).count userID =
          if s.users userID = some ⟨.usLookon, cfg.id, chairID⟩ then 1 else 0) ∧
    ¬∀ (cfg : ServerConfig) (is : List Label) (s : State), Steps.exec (step cfg) State.init is = some s →
      ∀ e ∈ s.log, ∀ v, e.value = some v → v = e.userID := by
  constructor
  · intro h
    have hleft :=
      h { id := 7, serverID := 1, kindID := 1, chairPerTable := 4 }
      (threeWatchers ++ [.standUp 1 [], .serve, .resume []]) _ rfl
      (by decide +kernel) (by decide +kernel) 2 1
    exact absurd hleft (by decide +kernel)
  · intro h
    have hright := h { id := 7, serverID := 1, kindID := 1, chairPerTable := 4 }
      (threeWatchers ++
        [.removeOldLookonUser 2 [1], .removeOldLookonUser 3 [1], .serve, .serve, .resumeRemoval 0 [], .resumeRemoval 0 []]) _
        rfl
      ⟨3, some 4⟩ (by decide +kernel) 4 rfl
    exact absurd hright (by decide)

end SasyServer.TableLookon
