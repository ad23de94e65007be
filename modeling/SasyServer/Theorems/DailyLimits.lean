import Mathlib.Algebra.Group.Int.Defs
import SasyServer.Lemmas.LimitEntries

/-!
# Theorems: the counts of a day

An entry has one count and one date. What `GetLimitComposeCD` and `CheckIsEverydayLimit` look at is the count of a day: that
of the entry if its date is the day, and 0 otherwise. Both drop the count of another day. `AddLimit` does not: it gives the
old count the new date. And `SetLimitComposeCD` has it add the count to itself.

The conditions are that nothing is left from another day when something is added (`addSafe`), and nothing at all
when a composition is counted (`composeSafe`). The invariant is that the count of today, and of each day to come, is
what has been added on it.
-/

namespace SasyServer.OperatorLimit

/-- The count of a day. -/
def onDay (opLimitHash : OpLimitHash) (userID limitId : Nat) (day : Int) : Int :=
  ((entry opLimitHash userID limitId).map fun v => if v.limitDate = day then v.limitCount else 0).getD 0

/-- The limits that `AddLimit` has no special case for. -/
def isPlain (limitId : Nat) : Bool :=
  limitId ≠ opLimitIdPayRmbNew && limitId ≠ opLimitIdPayRmbNew1 && limitId ≠ opLimitIdSendTitle && limitId ≠
    opLimitIdExperienceVip

/-- A message about another entry, or one of `AddLimit` and `CheckIsEverydayLimit`. -/
def Call.addsOrChecks (userID limitId : Nat) : Call → Bool
  | .addLimit .. | .checkIsEverydayLimit .. => true
  | c => userID ≠ c.userID || limitId ≠ c.limitId

/-- A message about another entry, or one of `SetLimitComposeCD` and `GetLimitComposeCD`. -/
def Call.composes (userID limitId : Nat) : Call → Bool
  | .setLimitComposeCD .. | .getLimitComposeCD .. => true
  | c => userID ≠ c.userID || limitId ≠ c.limitId

/-- Nothing is left from another day when something is added. -/
def addSafe (userID limitId : Nat) (s : State) : Call → Bool
  | .addLimit u l _ day _ =>
    userID ≠ u || limitId ≠ l ||
      (s.opLimitHash u).any fun info => (entryIn l info).all fun v => v.limitDate = day || v.limitCount = 0
  | _ => true

/-- Nothing is stored when a composition is counted, and the date is that of the day. -/
def composeSafe (userID itemID : Nat) (s : State) : Call → Bool
  | .setLimitComposeCD u l day time =>
    userID ≠ u || itemID ≠ l ||
      (limitDate l day time = day && (s.opLimitHash u).any fun info => (entryIn l info).all fun v => v.limitCount = 0)
  | _ => true

/-- What a message adds for a day. -/
def addedOn (userID limitId : Nat) (day : Int) (_s : State) : Call → Int
  | .addLimit u l limitCount d _ => if userID = u ∧ limitId = l ∧ d = day then limitCount else 0
  | _ => 0

/-- A `SetLimitComposeCD` of a day. -/
def composedOn (userID itemID : Nat) (day : Int) (_s : State) : Call → Int
  | .setLimitComposeCD u l d _ => if userID = u ∧ itemID = l ∧ d = day then 1 else 0
  | _ => 0

/-- Nothing is stored for a day to come. -/
def Past (userID limitId : Nat) (s : State) : Prop := ∀ day, s.day < day → onDay s.opLimitHash userID limitId day = 0

/-! ## One message -/

section Step

variable {userID limitId : Nat} {s : State} {day today time : Int}

theorem onDay_of_entry {opLimitHash : OpLimitHash} {v : LimitInfo}
    (h : entry opLimitHash userID limitId = some v) (day : Int) :
    onDay opLimitHash userID limitId day = if v.limitDate = day then v.limitCount else 0 := by
  rw [onDay, h]
  rfl

theorem onDay_of_none {opLimitHash : OpLimitHash} (h : entry opLimitHash userID limitId = none) (day : Int) :
    onDay opLimitHash userID limitId day = 0 := by
  rw [onDay, h]
  rfl

theorem onDay_run_of_ne {c : Call} (h : userID ≠ c.userID ∨ limitId ≠ c.limitId) (day : Int) :
    onDay (c.run s.opLimitHash) userID limitId day = onDay s.opLimitHash userID limitId day := by
  rw [onDay, onDay, entry_run_of_ne h]

/-- An entry that is left alone if it is of the day, and dropped to 0 otherwise. -/
theorem onDay_of_dropped {opLimitHash : OpLimitHash}
    (hkeep : ∀ v, entry s.opLimitHash userID limitId = some v → v.limitDate = today →
    entry opLimitHash userID limitId = some v)
    (hdrop : (∀ v, entry s.opLimitHash userID limitId = some v → v.limitDate ≠ today) →
      ∀ w, entry opLimitHash userID limitId = some w → w.limitCount = 0)
    (hpast : Past userID limitId s) (hday : s.day ≤ today) (hd : today ≤ day) :
    onDay opLimitHash userID limitId day = onDay s.opLimitHash userID limitId day := by
  by_cases hof : ∃ v, entry s.opLimitHash userID limitId = some v ∧ v.limitDate = today
  · obtain ⟨v, hv, htoday⟩ := hof
    rw [onDay_of_entry hv, onDay_of_entry (hkeep v hv htoday)]
  · have hnot : ∀ v, entry s.opLimitHash userID limitId = some v → v.limitDate ≠ today := fun v hv ht => hof ⟨v, hv, ht⟩
    have hzero : onDay opLimitHash userID limitId day = 0 := by
      cases hw : entry opLimitHash userID limitId with
      | none => exact onDay_of_none hw day
      | some w => rw [onDay_of_entry hw, hdrop hnot w hw, ite_self]
    rw [hzero]
    rcases Int.le_iff_lt_or_eq.1 hd with hlt | rfl
    · exact (hpast day (Int.lt_of_le_of_lt hday hlt)).symm
    · cases hv : entry s.opLimitHash userID limitId with
      | none => exact (onDay_of_none hv today).symm
      | some v => rw [onDay_of_entry hv, if_neg (hnot v hv)]

/-- An entry that gets the date of the day, with its count on that day and `n` more. -/
theorem onDay_of_dated {opLimitHash : OpLimitHash} {n : Int} {w : LimitInfo} (hw : entry opLimitHash userID limitId = some w)
    (hdate : w.limitDate = today) (hcount : w.limitCount = onDay s.opLimitHash userID limitId today + n)
    (hpast : Past userID limitId s) (hday : s.day ≤ today) (hd : today ≤ day) :
    onDay opLimitHash userID limitId day = onDay s.opLimitHash userID limitId day + if today = day then n else 0 := by
  rw [onDay_of_entry hw, hdate]
  rcases Int.le_iff_lt_or_eq.1 hd with hlt | rfl
  · rw [if_neg (Int.ne_of_lt hlt), if_neg (Int.ne_of_lt hlt), hpast day (Int.lt_of_le_of_lt hday hlt), Int.add_zero]
  · rw [if_pos rfl, if_pos rfl, hcount]

theorem limitDate_of_isPlain (h : isPlain limitId) (day time : Int) : limitDate limitId day time = day := by
  simp only [isPlain, Bool.and_eq_true, decide_eq_true_eq] at h
  rw [limitDate, if_neg fun hor => hor.elim h.1.2 h.2]

theorem clamp_of_isPlain (h : isPlain limitId) (x : Int) : clamp limitId x = x := by
  simp only [isPlain, Bool.and_eq_true, decide_eq_true_eq] at h
  rw [clamp, if_neg h.1.1.1, if_neg h.1.1.2]

theorem clamp_one (limitId : Nat) : clamp limitId 1 = 1 := by
  unfold clamp
  split
  · rfl
  · split <;> rfl

/-- An addition to a plain limit, where nothing is left from another day. -/
theorem onDay_addLimit (hplain : isPlain limitId) {n : Int}
    (hsafe : addSafe userID limitId s (.addLimit userID limitId n today time)) (hpast : Past userID limitId s)
    (hday : s.day ≤ today) (hd : today ≤ day) :
    onDay (addLimit s.opLimitHash userID limitId n today time) userID limitId day =
      onDay s.opLimitHash userID limitId day + if today = day then n else 0 := by
  simp only [addSafe, ne_eq, not_true_eq_false, decide_false, Bool.false_or] at hsafe
  cases hinfo : s.opLimitHash userID with
  | none =>
    rw [hinfo] at hsafe
    cases hsafe
  | some info =>
    rw [hinfo] at hsafe
    have hv : entry s.opLimitHash userID limitId = entryIn limitId info := by rw [entry, hinfo]; rfl
    have hw : entry ((Call.addLimit userID limitId n today time).run s.opLimitHash) userID limitId = _ :=
      (entry_run_self hinfo).trans (entryIn_addTo_self n today time info)
    have hdate := limitDate_of_isPlain hplain today time
    cases he : entryIn limitId info with
    | none =>
      rw [he] at hw hv
      refine onDay_of_dated hw hdate ?_ hpast hday hd
      rw [onDay_of_none hv, Int.zero_add]
      rfl
    | some v =>
      rw [he] at hw hv
      refine onDay_of_dated hw hdate ?_ hpast hday hd
      have hleft : v.limitDate = today ∨ v.limitCount = 0 := by
        rw [Option.any_some, he] at hsafe
        simpa using hsafe
      rw [entryAdded, clamp_of_isPlain hplain, onDay_of_entry hv]
      rcases hleft with hof | hzero
      · rw [if_pos hof]
      · rw [hzero, ite_self]

/-- The check brings the entry to the day. -/
theorem entry_checkIsEverydayLimit (n : Int) :
    entry (checkIsEverydayLimit s.opLimitHash userID limitId n today).1 userID limitId =
      (entry s.opLimitHash userID limitId).map
        fun v => if v.limitDate ≠ today then { v with limitDate := today, limitCount := 0 } else v := by
  cases hinfo : s.opLimitHash userID with
  | none => simp only [entry, checkIsEverydayLimit_apply, if_true, hinfo, Option.map_none, Option.bind_none]
  | some info =>
    simp only [entry, checkIsEverydayLimit_apply, if_true, hinfo, Option.map_some, Option.bind_some]
    exact (entryIn_everydayIn_self n today info).1

/-- The look-up resets an entry of another day. -/
theorem entry_getLimitComposeCD (time : Int) :
    entry (getLimitComposeCD s.opLimitHash userID limitId today time).1 userID limitId =
      (entry s.opLimitHash userID limitId).map fun v => if today = v.limitDate then v
        else entryReset limitId today time v := by
  have hrun : (Call.getLimitComposeCD userID limitId today time).run s.opLimitHash userID = _ := run_apply _
  rw [Call.run, Call.userID, if_pos rfl] at hrun
  rw [entry, entry, hrun]
  cases hinfo : s.opLimitHash userID with
  | none => rfl
  | some info =>
    simp only [Option.map_some, Option.bind_some, Call.runIn]
    cases hv : entryIn limitId info with
    | none => exact hv
    | some v =>
      by_cases htoday : today = v.limitDate
      · simp only [htoday, if_true, Option.map_some]
        exact hv
      · simp only [htoday, if_false, Option.map_some]
        rw [entryIn_resetIn_self, hv, Option.map_some]

/-- A check. -/
theorem onDay_checkIsEverydayLimit (n : Int) (hpast : Past userID limitId s) (hday : s.day ≤ today) (hd : today ≤ day) :
    onDay (checkIsEverydayLimit s.opLimitHash userID limitId n today).1 userID limitId day =
      onDay s.opLimitHash userID limitId day := by
  refine onDay_of_dropped ?_ ?_ hpast hday hd
  · intro v hv htoday
    rw [entry_checkIsEverydayLimit, hv, Option.map_some, if_neg (not_not_intro htoday)]
  · intro hnot w hw
    rw [entry_checkIsEverydayLimit, Option.map_eq_some_iff] at hw
    obtain ⟨v, hv, rfl⟩ := hw
    rw [if_pos (hnot v hv)]

/-- The reading of the compositions. -/
theorem onDay_getLimitComposeCD (time : Int) (hpast : Past userID limitId s) (hday : s.day ≤ today) (hd : today ≤ day) :
    onDay (getLimitComposeCD s.opLimitHash userID limitId today time).1 userID limitId day =
      onDay s.opLimitHash userID limitId day := by
  refine onDay_of_dropped ?_ ?_ hpast hday hd
  · intro v hv htoday
    rw [entry_getLimitComposeCD, hv, Option.map_some, if_pos htoday.symm]
  · intro hnot w hw
    rw [entry_getLimitComposeCD, Option.map_eq_some_iff] at hw
    obtain ⟨v, hv, rfl⟩ := hw
    rw [if_neg (hnot v hv).symm]
    rfl

/-- A composition that is counted, where nothing is stored. -/
theorem onDay_setLimitComposeCD (hsafe : composeSafe userID limitId s (.setLimitComposeCD userID limitId today time))
    (hpast : Past userID limitId s) (hday : s.day ≤ today) (hd : today ≤ day) :
    onDay (setLimitComposeCD s.opLimitHash userID limitId today time) userID limitId day =
      onDay s.opLimitHash userID limitId day + if today = day then 1 else 0 := by
  simp only [composeSafe, ne_eq, not_true_eq_false, decide_false, Bool.false_or, Bool.and_eq_true,
    decide_eq_true_eq] at hsafe
  obtain ⟨hdate, hsafe⟩ := hsafe
  cases hinfo : s.opLimitHash userID with
  | none =>
    rw [hinfo] at hsafe
    cases hsafe
  | some info =>
    rw [hinfo, Option.any_some] at hsafe
    have hv : entry s.opLimitHash userID limitId = entryIn limitId info := by rw [entry, hinfo]; rfl
    have hw : entry ((Call.setLimitComposeCD userID limitId today time).run s.opLimitHash) userID limitId = _ :=
      entry_run_self hinfo
    rw [Call.runIn] at hw
    cases he : entryIn limitId info with
    | none =>
      simp only [he] at hw
      rw [entryIn_addTo_self, he] at hw
      refine onDay_of_dated hw hdate ?_ hpast hday hd
      rw [onDay_of_none (hv.trans he), Int.zero_add]
      rfl
    | some v =>
      have hzero : v.limitCount = 0 := by
        rw [he] at hsafe
        simpa using hsafe
      -- the count to add is 1, whatever the date is
      simp only [he, hzero, Int.zero_add, ite_self] at hw
      rw [entryIn_addTo_self, he] at hw
      refine onDay_of_dated hw hdate ?_ hpast hday hd
      rw [entryAdded, hzero, onDay_of_entry (hv.trans he), hzero, ite_self, Int.zero_add, clamp_one]

/-! ## A message -/

variable {c : Call}

/-- An addition or a check. -/
theorem onDay_addsOrChecks (hplain : isPlain limitId) (hc : c.addsOrChecks userID limitId)
    (hsafe : addSafe userID limitId s c) (hpast : Past userID limitId s) (hday : s.day ≤ c.day) (hd : c.day ≤ day) :
    onDay (c.run s.opLimitHash) userID limitId day = onDay s.opLimitHash userID limitId day +
      addedOn userID limitId day s c := by
  by_cases hne : userID ≠ c.userID ∨ limitId ≠ c.limitId
  · have hzero : addedOn userID limitId day s c = 0 := by
      cases c with
      | addLimit u l n today time => exact if_neg fun h => hne.elim (fun hu => hu h.1) fun hl => hl h.2.1
      | _ => rfl
    rw [onDay_run_of_ne hne, hzero, Int.add_zero]
  · obtain ⟨hu, hl⟩ := not_or.1 hne
    cases c with
    | addLimit u l n today time =>
      obtain rfl : userID = u := not_ne_iff.1 hu
      obtain rfl : limitId = l := not_ne_iff.1 hl
      simp only [addedOn, true_and]
      exact onDay_addLimit hplain hsafe hpast hday hd
    | checkIsEverydayLimit u l n today time =>
      obtain rfl : userID = u := not_ne_iff.1 hu
      obtain rfl : limitId = l := not_ne_iff.1 hl
      exact (onDay_checkIsEverydayLimit n hpast hday hd).trans (Int.add_zero _).symm
    | _ => simp [Call.addsOrChecks, hu, hl] at hc

/-- A composition that is counted, or a reading. -/
theorem onDay_composes (hc : c.composes userID limitId) (hsafe : composeSafe userID limitId s c)
    (hpast : Past userID limitId s) (hday : s.day ≤ c.day) (hd : c.day ≤ day) :
    onDay (c.run s.opLimitHash) userID limitId day =
      onDay s.opLimitHash userID limitId day + composedOn userID limitId day s c := by
  by_cases hne : userID ≠ c.userID ∨ limitId ≠ c.limitId
  · have hzero : composedOn userID limitId day s c = 0 := by
      cases c with
      | setLimitComposeCD u l today time => exact if_neg fun h => hne.elim (fun hu => hu h.1) fun hl => hl h.2.1
      | _ => rfl
    rw [onDay_run_of_ne hne, hzero, Int.add_zero]
  · obtain ⟨hu, hl⟩ := not_or.1 hne
    cases c with
    | setLimitComposeCD u l today time =>
      obtain rfl : userID = u := not_ne_iff.1 hu
      obtain rfl : limitId = l := not_ne_iff.1 hl
      simp only [composedOn, true_and]
      exact onDay_setLimitComposeCD hsafe hpast hday hd
    | getLimitComposeCD u l today time =>
      obtain rfl : userID = u := not_ne_iff.1 hu
      obtain rfl : limitId = l := not_ne_iff.1 hl
      exact (onDay_getLimitComposeCD time hpast hday hd).trans (Int.add_zero _).symm
    | _ => simp [Call.composes, hu, hl] at hc

end Step

/-! ## A run -/

section Run

variable {userID limitId : Nat}

/-- What a run adds for a day is what the count of the day grows by, where that holds of each message. -/
theorem onDay_exec {C : State → Call → Prop} {added : Int → State → Call → Int}
    (hother : ∀ day s c, c.day ≠ day → added day s c = 0)
    (hstep : ∀ s c day, C s c → Past userID limitId s → s.day ≤ c.day → c.day ≤ day →
      onDay (c.run s.opLimitHash) userID limitId day = onDay s.opLimitHash userID limitId day + added day s c)
    {is : List Call} {s t : State} (hpast : Past userID limitId s) (hm : Steps.Meets step C s is)
    (h : Steps.exec step s is = some t) {day : Int} (hday : t.day ≤ day) :
    onDay t.opLimitHash userID limitId day =
      onDay s.opLimitHash userID limitId day + Steps.total step (added day) s is := by
  let Inv (s : State) (m : Int) : Prop := Past userID limitId s ∧ (s.day ≤ day → onDay s.opLimitHash userID limitId day = m)
  have hinv : Inv t (onDay s.opLimitHash userID limitId day + Steps.total step (added day) s is) := by
    refine Steps.exec_total ?_ is s t _ ⟨hpast, fun _ => rfl⟩ hm h
    intro s c s' m hs hC hstep'
    unfold step at hstep'
    split at hstep'
    · rename_i hle
      cases hstep'
      refine ⟨?_, ?_⟩
      · intro d hd
        have hd : c.day < d := hd
        rw [hstep s c d hC hs.1 hle (Int.le_of_lt hd), hother d s c (Int.ne_of_lt hd), hs.1 d (Int.lt_of_le_of_lt hle hd)]
        rfl
      · intro hd
        rw [hstep s c day hC hs.1 hle hd, hs.2 (Int.le_trans hle hd)]
    · cases hstep'
  exact hinv.2 hday

theorem addedOn_of_ne (day : Int) (s : State) (c : Call) (h : c.day ≠ day) : addedOn userID limitId day s c = 0 := by
  cases c with
  | addLimit u l n today time => exact if_neg fun h' => h h'.2.2
  | _ => rfl

theorem composedOn_of_ne (day : Int) (s : State) (c : Call) (h : c.day ≠ day) : composedOn userID limitId day s c = 0 := by
  cases c with
  | setLimitComposeCD u l today time => exact if_neg fun h' => h h'.2.2
  | _ => rfl

/-- The users that are loaded stay so. -/
theorem isSome_exec (is : List Call) (s t : State) (h : Steps.exec step s is = some t) (hs : (s.opLimitHash userID).isSome) :
    (t.opLimitHash userID).isSome := by
  refine Steps.exec_invariant (I := fun s => (s.opLimitHash userID).isSome) (C := fun _ _ => True) ?_ is s t hs
    (Steps.meets_of_forall (fun _ _ => trivial) is s) h
  intro s c s' hs _ hstep
  unfold step at hstep
  split at hstep
  · cases hstep
    exact (isSome_run c).trans hs
  · cases hstep

end Run

/-- What `GetLimitComposeCD` answers is the count of the day. -/
theorem getLimitComposeCD_snd (opLimitHash : OpLimitHash) (userID itemID : Nat) (day time : Int) :
    (getLimitComposeCD opLimitHash userID itemID day time).2 = onDay opLimitHash userID itemID day := by
  unfold getLimitComposeCD onDay entry
  change _ = (((opLimitHash userID).bind fun info => info.find? fun v => v.limitId = itemID).map _).getD 0
  cases (opLimitHash userID).bind fun info => info.find? fun v => v.limitId = itemID with
  | none => rfl
  | some v =>
    by_cases hd : day = v.limitDate
    · simp [hd]
    · simp [hd, Ne.symm hd]

/-- What `CheckIsEverydayLimit` answers about a user who is loaded: the count of the day is large enough. -/
theorem checkIsEverydayLimit_snd {opLimitHash : OpLimitHash} {userID limitId : Nat} {n day : Int} (hn : 0 < n)
    (hloaded : (opLimitHash userID).isSome) :
    (checkIsEverydayLimit opLimitHash userID limitId n day).2 = true ↔ n ≤ onDay opLimitHash userID limitId day := by
  obtain ⟨info, hinfo⟩ := Option.isSome_iff_exists.1 hloaded
  have hv : entry opLimitHash userID limitId = entryIn limitId info := by rw [entry, hinfo]; rfl
  unfold checkIsEverydayLimit
  rw [hinfo]
  dsimp only
  rw [(entryIn_everydayIn_self n day info).2]
  cases he : entryIn limitId info with
  | none =>
    rw [onDay_of_none (hv.trans he)]
    simpa using hn
  | some v =>
    rw [onDay_of_entry (hv.trans he)]
    by_cases hd : v.limitDate = day
    · simp [hd]
    · simpa [hd] using hn

/-- In every run of compositions and readings (and of other messages about other entries) whose steps meet the
condition, `GetLimitComposeCD` answers with the compositions counted on its day: what is stored for the day at the
start, and those of the run. -/
theorem getLimitComposeCD_of_composeSafe (userID itemID : Nat) (is : List Call) (s t : State) (hpast : Past userID itemID s)
    (hcalls : ∀ c ∈ is, c.composes userID itemID) (hm : Steps.Meets step (fun s c => composeSafe userID itemID s c) s is)
    (h : Steps.exec step s is = some t) (day time : Int) (hday : t.day ≤ day) :
    (getLimitComposeCD t.opLimitHash userID itemID day time).2 =
      onDay s.opLimitHash userID itemID day + Steps.total step (composedOn userID itemID day) s is := by
  rw [getLimitComposeCD_snd]
  exact onDay_exec (fun day s c => composedOn_of_ne day s c)
    (fun s c day hC hp hle hd => onDay_composes hC.1 hC.2 hp hle hd) hpast ((Steps.meets_of_mem is s hcalls).and hm) h hday

/-- The user 7 is loaded, with a day of drops and two days of compositions of the item 1030. -/
def loadedLimits : State := ⟨fun userID => if userID = 7 then some [⟨6, 50, 20170101⟩] else none, 20170101⟩

/-- A composition on the first day, and one on the second after the item has been looked at. -/
def composeDaily : List Call :=
  [.setLimitComposeCD 7 1030 20170101 10, .getLimitComposeCD 7 1030 20170101 11, .addLimit 7 6 10 20170101 12,
    .getLimitComposeCD 7 1030 20170102 20, .setLimitComposeCD 7 1030 20170102 21]

/-- No limit of the list is of a day to come, but the one for the cool-down. -/
theorem past_loadedLimits {userID limitId : Nat} (h : limitId ≠ 6) : Past userID limitId loadedLimits := by
  intro day _
  refine onDay_of_none ?_ day
  unfold entry loadedLimits
  dsimp only
  split
  · rw [Option.bind_some, entryIn_cons, if_neg h.symm]
    rfl
  · rfl

theorem getLimitComposeCD_of_composeSafe_daily :
    ∃ t, Steps.exec step loadedLimits composeDaily = some t ∧ (getLimitComposeCD t.opLimitHash 7 1030 20170102 22).2 = 1 :=
  ⟨_, rfl, getLimitComposeCD_of_composeSafe 7 1030 composeDaily loadedLimits _ (past_loadedLimits (by decide)) (by decide)
    (by decide +kernel) rfl 20170102 22 (by decide)⟩

/-- Two compositions on one day are counted as three. -/
theorem composed_twice_counted_thrice :
    ¬∀ (userID itemID : Nat) (is : List Call) (s t : State), Past userID itemID s → (∀ c ∈ is, c.composes userID itemID) →
      Steps.exec step s is = some t → ∀ day time : Int, t.day ≤ day →
        (getLimitComposeCD t.opLimitHash userID itemID day time).2 =
          onDay s.opLimitHash userID itemID day + Steps.total step (composedOn userID itemID day) s is := by
  intro h
  have hthree := h 7 1030 [.setLimitComposeCD 7 1030 20170101 10, .setLimitComposeCD 7 1030 20170101 11] loadedLimits _
    (past_loadedLimits (by decide)) (by decide) rfl 20170101 12 (by decide)
  exact absurd hthree (by decide +kernel)

/-- In every run of additions and checks (and of other messages about other entries) whose steps meet the condition,
`CheckIsEverydayLimit` of a limit without special cases says whether what has been added on its day is enough: what is stored
for the day at the start, and the additions of the run. -/
theorem checkIsEverydayLimit_of_addSafe (userID limitId : Nat) (hplain : isPlain limitId) (is : List Call) (s t : State)
    (hloaded : (s.opLimitHash userID).isSome) (hpast : Past userID limitId s)
    (hcalls : ∀ c ∈ is, c.addsOrChecks userID limitId)
    (hm : Steps.Meets step (fun s c => addSafe userID limitId s c) s is) (h : Steps.exec step s is = some t) (n day : Int)
    (hn : 0 < n) (hday : t.day ≤ day) :
    (checkIsEverydayLimit t.opLimitHash userID limitId n day).2 = true ↔
      n ≤ onDay s.opLimitHash userID limitId day + Steps.total step (addedOn userID limitId day) s is := by
  rw [checkIsEverydayLimit_snd hn (isSome_exec is s t h hloaded), ← onDay_exec (fun day s c => addedOn_of_ne day s c)
    (fun s c day hC hp hle hd => onDay_addsOrChecks hplain hC.1 hC.2 hp hle hd) hpast
      ((Steps.meets_of_mem is s hcalls).and hm) h hday]

/-- Two additions on the first day, and one on the second after a check. -/
def addDaily : List Call :=
  [.addLimit 7 12 1 20170101 10, .addLimit 7 12 2 20170101 11, .checkIsEverydayLimit 7 12 1 20170102 20,
    .addLimit 7 12 1 20170102 21]

theorem checkIsEverydayLimit_of_addSafe_daily :
    ∃ t, Steps.exec step loadedLimits addDaily = some t ∧
      ((checkIsEverydayLimit t.opLimitHash 7 12 2 20170102).2 = true ↔
        2 ≤ onDay loadedLimits.opLimitHash 7 12 20170102 + Steps.total step (addedOn 7 12 20170102) loadedLimits addDaily) :=
  ⟨_, rfl, checkIsEverydayLimit_of_addSafe 7 12 (by decide) addDaily loadedLimits _ rfl
    (past_loadedLimits (by decide)) (by decide)
    (by decide +kernel) rfl 2 20170102 (by decide) (by decide)⟩

/-- Without a check in between, the additions of the first day count on the second. -/
theorem added_yesterday_counted_today :
    ¬∀ (userID limitId : Nat) (is : List Call) (s t : State), isPlain limitId → (s.opLimitHash userID).isSome →
      Past userID limitId s → (∀ c ∈ is, c.addsOrChecks userID limitId) → Steps.exec step s is = some t →
        ∀ n day : Int, 0 < n →
        t.day ≤ day → ((checkIsEverydayLimit t.opLimitHash userID limitId n day).2 = true ↔
          n ≤ onDay s.opLimitHash userID limitId day + Steps.total step (addedOn userID limitId day) s is) := by
  intro h
  have htwo := h 7 12 [.addLimit 7 12 1 20170101 10, .addLimit 7 12 1 20170102 20] loadedLimits _ (by decide) rfl
    (past_loadedLimits (by decide)) (by decide) rfl 2 20170102 (by decide) (by decide)
  exact absurd htwo (by decide +kernel)

end SasyServer.OperatorLimit
