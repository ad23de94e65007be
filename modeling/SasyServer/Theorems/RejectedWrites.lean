import SasyServer.Bag.Service
import SasyServer.Lib.Waiting
import SasyServer.Sui.AttemperEngine
import SasyServer.Theorems.Variation

/-!
# Writes that the database rejects

The variation of a user leaves the record before the database is asked, and an entry of a bag counts as saved after it has
been asked, whatever the answer is. So an amount the database has rejected is pending nowhere, unless it is nothing.
-/

namespace SasyServer.Sui

/-- The database has accepted the variation. -/
def isAccepted (answer : Distilled × Option Int) : Bool := answer.2 = some 0

/-- What of a field the database has accepted, is being asked to write, or waits in the record. -/
def Attemper.amount (s : Attemper) (f : Field) : Int :=
  ((s.answered.filter isAccepted).map fun e => e.1.variationInfo.get f).sum +
    (s.waiting.map fun d => d.variationInfo.get f).sum +
    s.userItem.variationInfo.get f

/-- What a call writes to a field. -/
def asked (f : Field) (p : UserInfo) : AttemperLabel → Int
  | .writeUserScore scores type gamePlayTime => recordDelta f p scores type gamePlayTime
  | .writeVariation => 0
  | .answer _ _ => 0

/-- No amount appears or disappears in the step: all that has been written is accepted, on its way, or pending. -/
def StaysPending (s : Attemper) (i : AttemperLabel) : Prop :=
  ∀ s', attemperStep s i = some s' → ∀ f, s'.amount f = s.amount f + asked f s.userItem i

/-- The variation is accepted, or there is nothing in it. -/
def acceptedOrZero (s : Attemper) : AttemperLabel → Bool
  | .answer k retCode => s.waiting[k]?.all fun d => retCode = some 0 || d.variationInfo = VariationInfo.zero
  | _ => true

section Attemper

variable {s s' : Attemper}

/-- Nothing is pending exactly when every field is zero. -/
theorem VariationInfo.eq_zero_iff (v : VariationInfo) : v = VariationInfo.zero ↔ ∀ f, v.get f = 0 := by
  constructor
  · rintro rfl f
    exact VariationInfo.get_zero f
  · intro h
    obtain ⟨⟩ := v
    simp only [VariationInfo.zero, VariationInfo.mk.injEq]
    exact ⟨h .revenue, h .score, h .insure, h .grade, h .medal, h .gift, h .present, h .experience, h .loveliness,
      h .playTimeCount, h .winCount, h .lostCount, h .drawCount, h .fleeCount⟩

/-- A call of `writeVariation` puts the variation on its way. -/
theorem amount_writeVariation (h : attemperStep s .writeVariation = some s') (f : Field) : s'.amount f = s.amount f := by
  obtain ⟨⟨tmp, q⟩, hd, rfl⟩ := Option.map_eq_some_iff.1 h
  unfold distillVariation at hd
  dsimp only [Attemper.amount]
  split at hd
  · split at hd
    · obtain ⟨rfl, rfl⟩ := Prod.mk.inj (Option.some.inj hd)
      simp [add_assoc]
    · obtain ⟨rfl, rfl⟩ := Prod.mk.inj (Option.some.inj hd)
      simp
  · cases hd

/-- An answer moves what was asked for to what is accepted, or nowhere. -/
theorem amount_answer {k : Nat} {retCode : Option Int} {d : Distilled} (hk : s.waiting[k]? = some d)
    (h : attemperStep s (.answer k retCode) = some s') (f : Field) :
    s'.amount f = s.amount f - if retCode = some 0 then 0 else d.variationInfo.get f := by
  obtain ⟨d', hd', rfl⟩ := Option.map_eq_some_iff.1 h
  obtain rfl := Option.some.inj (hk.symm.trans hd')
  have hsum := Waiting.sum_map_eraseIdx hk fun d => d.variationInfo.get f
  dsimp only [Attemper.amount]
  by_cases hr : retCode = some 0
  · rw [List.filter_cons_of_pos (by simp [isAccepted, hr]), List.map_cons, List.sum_cons, if_pos hr]
    dsimp only
    omega
  · rw [List.filter_cons_of_neg (by simp [isAccepted, hr]), if_neg hr]
    omega

/-- A label loses no pending amount exactly when what it writes is accepted, or is nothing. -/
theorem staysPending_iff (s : Attemper) (i : AttemperLabel) : StaysPending s i ↔ acceptedOrZero s i = true := by
  cases i with
  | writeUserScore scores type gamePlayTime =>
    refine iff_of_true (fun s' h f => ?_) rfl
    obtain ⟨q, hq, rfl⟩ := Option.map_eq_some_iff.1 h
    have hasked := writeUserScore_variation hq f
    dsimp only [Attemper.amount, asked]
    omega
  | writeVariation => exact iff_of_true (fun s' h f => (amount_writeVariation h f).trans (add_zero _).symm) rfl
  | answer k retCode =>
    cases hk : s.waiting[k]? with
    | none =>
      refine iff_of_true (fun s' h => ?_) (by simp [acceptedOrZero, hk])
      rw [attemperStep, hk] at h
      cases h
    | some d =>
      have hstep : attemperStep s (.answer k retCode) =
          some { s with waiting := s.waiting.eraseIdx k, answered := (d, retCode) :: s.answered } := by
            rw [attemperStep, hk]; rfl
      simp only [acceptedOrZero, hk, Option.all_some, Bool.or_eq_true, decide_eq_true_eq, VariationInfo.eq_zero_iff]
      constructor
      · intro hstays
        by_contra! hno
        obtain ⟨hr, f, hf⟩ := hno
        have hamount := (hstays _ hstep f).symm.trans (amount_answer hk hstep f)
        rw [if_neg hr, asked] at hamount
        omega
      · intro hor s' h f
        rw [amount_answer hk h f, asked]
        split
        · omega
        · rename_i hr
          have := hor.resolve_left hr f
          omega

end Attemper

end SasyServer.Sui

namespace SasyServer.Bag

/-- The pending difference of the entry at a position of a list. -/
def difference (s : State) (l position : Nat) : Option Int :=
  (s.lists l)[position]?.map fun v => v.goodsCount - v.oldGoodsCount

/-- A write that the database has rolled back leaves the difference of its entry as it was. -/
def StaysPending (s : State) : Label → Prop
  | .resume k retCode order online now =>
    ∀ user l position goodsID addCount s', s.suspended[k]? = some (.save user l position goodsID addCount) →
      retCode = -1 → step s (.resume k retCode order online now) = some s' →
        difference s' l position = difference s l position
  | _ => True

/-- The write is not rolled back, or nothing is pending in its entry. -/
def writtenOrZero (s : State) : Label → Bool
  | .resume k retCode _ _ _ =>
    match s.suspended[k]? with
    | some (.save _ l position _ _) => retCode ≠ -1 || (difference s l position).all fun n => n = 0
    | _ => true
  | _ => true

section Bag

variable {s : State}

/-- The loop of `cmd_SaveUserItem` has nothing to do with an entry without a difference. -/
theorem difference_saveLoop (u l position : Nat) : ∀ (order : List Nat) (s : State), difference s l position = some 0 →
    difference (saveLoop s u l order) l position = some 0 := by
  intro order
  induction order with
  | nil => exact fun s h => h
  | cons k order ih =>
    intro s h
    unfold saveLoop
    cases hk : (s.lists l)[k]? with
    | none => exact ih s h
    | some v =>
      dsimp only
      split
      · rename_i hne
        have hkp : k ≠ position := by
          rintro rfl
          simp only [difference, hk, Option.map_some, Option.some.injEq] at h
          omega
        unfold difference at h ⊢
        rw [State.suspend, State.setList]
        dsimp only
        rw [Function.update_self, List.getElem?_set_ne hkp]
        exact h
      · exact ih s h

/-- The difference of an entry is 0 after its write, whatever the database has answered. -/
theorem difference_saveResume (s : State) (u l position goodsID : Nat) (addCount retCode : Int) (order : List Nat) :
    difference (saveResume s u l position goodsID addCount retCode order) l position = (difference s l position).map
      fun _ => 0 := by
  unfold saveResume
  dsimp only [State.request]
  cases hk : (s.lists l)[position]? with
  | none => simp [difference, hk]
  | some v =>
    have hsaved : difference (State.setList { s with log := .writeBag u goodsID addCount retCode :: s.log } l
        ((s.lists l).set position { v with oldGoodsCount := v.goodsCount })) l position = some 0 := by
      have hlt := (List.getElem?_eq_some_iff.1 hk).1
      simp [difference, State.setList, List.getElem?_set_self hlt]
    dsimp only
    rw [difference_saveLoop u l position order _ hsaved]
    simp [difference, hk]

/-- A write leaves its difference pending exactly when it is not rolled back, or the difference is nothing. -/
theorem staysPending_iff (s : State) (i : Label) : StaysPending s i ↔ writtenOrZero s i = true := by
  cases i with
  | resume k retCode order online now =>
    have hsame : ∀ l position, difference { s with suspended := s.suspended.eraseIdx k } l position =
      difference s l position :=
      fun _ _ => rfl
    simp only [StaysPending, writtenOrZero]
    cases hk : s.suspended[k]? with
    | none => exact iff_of_true (fun _ _ _ _ _ _ h => by cases h) rfl
    | some t =>
      cases t with
      | save user l position goodsID addCount =>
        have hstep : step s (.resume k retCode order online now) =
            some (saveResume { s with suspended := s.suspended.eraseIdx k } user l position goodsID addCount
              retCode order) := by
          rw [step, hk]
          rfl
        simp only [Bool.or_eq_true, decide_eq_true_eq, Option.all_eq_true]
        constructor
        · intro hstays
          by_contra! hno
          obtain ⟨hr, n, hn, hne⟩ := hno
          have hafter := hstays user l position goodsID addCount _ rfl hr hstep
          rw [difference_saveResume, hsame, hn, Option.map_some, Option.some.injEq] at hafter
          exact hne hafter.symm
        · rintro hor _ _ _ _ _ s' ⟨⟩ hr hs
          obtain rfl := Option.some.inj (hstep.symm.trans hs)
          rw [difference_saveResume, hsame]
          cases hd : difference s l position with
          | none => rfl
          | some n => rw [Option.map_some, (hor.resolve_left (not_not.2 hr)) n hd]
      | _ => exact iff_of_true (fun _ _ _ _ _ _ h => by cases h) rfl
  | _ => exact iff_of_true trivial rfl

end Bag

end SasyServer.Bag

namespace SasyServer

/-- In every run of the calls about the variation of a user, from any record, no amount disappears if and only if every
variation that is not nothing is accepted; and in every run of the bag service, from any state, a write that is rolled back
leaves the difference of its entry pending if and only if no write with something pending in its entry is rolled back. -/
theorem rejected_staysPending_iff (s : Sui.Attemper) (is : List Sui.AttemperLabel) (t : Bag.State) (js : List Bag.Label) :
    (Steps.Meets Sui.attemperStep Sui.StaysPending s is ↔
      Steps.Meets Sui.attemperStep (fun s i => Sui.acceptedOrZero s i) s is) ∧
    (Steps.Meets Bag.step Bag.StaysPending t js ↔ Steps.Meets Bag.step (fun s i => Bag.writtenOrZero s i) t js) :=
  ⟨Steps.meets_congr Sui.staysPending_iff is s, Steps.meets_congr Bag.staysPending_iff js t⟩

/-- A player wins 100, and the database refuses to write it. -/
def refusedScore : List Sui.AttemperLabel := [.writeUserScore [("score", 100)] 1 60, .writeVariation, .answer 0 (some 1)]

/-- Ten gold come into a bag with 100, and the database rolls the write back. -/
def rolledBackGold : List Bag.Label :=
  [.loadUserItem 7 [(Bag.itemIdGold, 100, 0)] 0, .resume 0 0 [] false 0,
    .changeItemCount ⟨7, Bag.itemIdGold, 10, .byFish, false⟩ false 0, .saveUserItem 7 [0], .resume 0 (-1) [] false 0]

/-- An amount that has been written is not pending any more, also when the database refuses it. -/
theorem not_rejected_staysPending :
    (¬∀ (p : Sui.UserInfo) (is : List Sui.AttemperLabel), Sui.Registered p →
      Steps.Meets Sui.attemperStep Sui.StaysPending ⟨p, [], []⟩ is) ∧
    ¬∀ is : List Bag.Label, Steps.Meets Bag.step Bag.StaysPending Bag.State.init is := by
  constructor
  · intro h
    have hrun := h { Sui.UserInfo.reset with isInit := true } refusedScore ⟨[], [], by decide, by decide⟩
    exact absurd ((Steps.meets_congr Sui.staysPending_iff _ _).1 hrun) (by decide +kernel)
  · intro h
    exact absurd ((Steps.meets_congr Bag.staysPending_iff _ _).1 (h rolledBackGold)) (by decide +kernel)

end SasyServer
