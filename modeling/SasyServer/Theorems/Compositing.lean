import SasyServer.Bag.Compositing
import SasyServer.Lemmas.LimitEntries
import SasyServer.Theorems.Comsume

/-!
# Theorem: when a composition of a fire crystal keeps its cool-down

A composition that succeeds leaves the limits as they are, as `CheckAndAddComposeCD` is called without arguments. The time
left after it is that of the cool-down exactly when the limit has been there before, and then the price of the step has been
paid if the jewels have been enough.
-/

namespace SasyServer.Compositing

open Bag BagCall Comsume
open OperatorLimit (OpLimitHash)
open Spending (ComposeConfig itemIdFireCrystal)

/-- The jewels of the user. -/
def jewels (bag : BagCall.UserBag) : Int := getItemCount bag.goods itemIdJewel

/-- The price in jewels of the current step of the cool-down. -/
def price (opLimitHash : OpLimitHash) (userID goodsID : Nat) (day now : Int) : Int :=
  ((getCleanComposeCDItem opLimitHash userID goodsID day now).2.map Prod.snd).getD 0

/-- The sources of a composition. -/
def sources (a : Answers) : List (Nat × Int) := (a.composeConfig.map ComposeConfig.sourceItem).getD []

/-- What is promised of a composition of a fire crystal that succeeds: within the cool-down of the one before, it takes the
price besides the sources, and right after it the time left is that of the cool-down. -/
def CoolsDown (userID : Nat) (s : State) : Call → Prop
  | .compositingGoodsInfo goodsID a =>
    let r := compositingGoodsInfo s.bag s.opLimitHash userID goodsID a
    goodsID = itemIdFireCrystal → r.composed →
      ((∃ t ∈ s.last, a.user.now < t + fireCrystalCdTime) →
        jewels r.bag = jewels s.bag -
          (required (sources a) itemIdJewel + price s.opLimitHash userID goodsID a.day a.user.now)) ∧
      checkComposeCD r.opLimitHash userID goodsID a.user.now = fireCrystalCdTime
  | _ => True

/-- The jewels are enough for the lines of a list that take some, one after the other. -/
def enough : List (Nat × Int) → Int → Bool
  | [], _ => true
  | l :: itemlist, count => if l.1 = itemIdJewel then l.2 ≤ count ∧ enough itemlist (count - l.2) else enough itemlist count

/-- A composition that is not refused and meets no error: the item and its sources are known, the bag has what is
taken, and no entry stops. -/
def goesThrough (bag : BagCall.UserBag) (opLimitHash : OpLimitHash) (userID goodsID : Nat) (a : Answers) : Bool :=
  a.itemFound && a.composeConfig.any fun composeConfig =>
    let itemlist := (sourceItem opLimitHash userID goodsID composeConfig a).2
    Spending.checkItem bag.goods itemlist && itemlist.all fun l => (bag.find l.1).all fun v => !stops v a.user

/-- The condition on a composition of a fire crystal: it does not go through, or the limit already ends when the cool-down
will, and the jewels are enough for the lines that take some, when the one before is within the cool-down. -/
def composeSafe (userID : Nat) (s : State) : Call → Bool
  | .compositingGoodsInfo goodsID a =>
    goodsID ≠ itemIdFireCrystal || !goesThrough s.bag s.opLimitHash userID goodsID a ||
      (OperatorLimit.getLimitCount s.opLimitHash userID OperatorLimit.opLimitIdFireCrystalCd = a.user.now +
        fireCrystalCdTime &&
        (!(s.last.any fun t => a.user.now < t + fireCrystalCdTime) ||
          a.composeConfig.all
            fun composeConfig => enough (sourceItem s.opLimitHash userID goodsID composeConfig a).2 (jewels s.bag)))
  | _ => true

/-! ## What is taken -/

/-- What the lines of a list leave of the jewels. -/
def jewelsLeft : List (Nat × Int) → Int → Int
  | [], count => count
  | l :: itemlist, count => jewelsLeft itemlist (if l.1 = itemIdJewel then max 0 (count - l.2) else count)

theorem required_append (l l' : List (Nat × Int)) (g : Nat) : required (l ++ l') g = required l g + required l' g := by
  induction l with
  | nil => exact (Int.zero_add _).symm
  | cons x l ih => rw [List.cons_append, required, required, ih, Int.add_assoc]

theorem le_jewelsLeft :
    ∀ (itemlist : List (Nat × Int)) (count : Int), count - required itemlist itemIdJewel ≤ jewelsLeft itemlist count := by
  intro itemlist
  induction itemlist with
  | nil =>
    intro count
    rw [required, jewelsLeft]
    omega
  | cons l itemlist ih =>
    intro count
    have h := ih (if l.1 = itemIdJewel then max 0 (count - l.2) else count)
    rw [required, jewelsLeft]
    split at h <;> rename_i hg <;> simp only [hg, if_true, if_false] <;> omega

/-- All of the price is taken exactly when every line finds enough. -/
theorem jewelsLeft_eq_iff : ∀ (itemlist : List (Nat × Int)) (count : Int),
    jewelsLeft itemlist count = count - required itemlist itemIdJewel ↔ enough itemlist count := by
  intro itemlist
  induction itemlist with
  | nil =>
    intro count
    rw [required, jewelsLeft, enough, Int.sub_zero]
    simp
  | cons l itemlist ih =>
    intro count
    rw [required, jewelsLeft, enough]
    by_cases hg : l.1 = itemIdJewel
    · simp only [hg, if_true, decide_eq_true_eq]
      by_cases hle : l.2 ≤ count
      · rw [Int.max_eq_right (by omega), ← Int.sub_sub, ih]
        exact (and_iff_right hle).symm
      · have hless := le_jewelsLeft itemlist (max 0 (count - l.2))
        refine iff_of_false ?_ fun h => hle h.1
        omega
    · simp only [hg, if_false, Int.zero_add]
      exact ih count

variable {b : BagCall.UserBag} {a : BagCall.Answers} {v : Goods}

/-- What one line leaves of the jewels. -/
theorem goodsCount_of_jewels (h : v.goodsID = itemIdJewel) (n : Int) (fromWhere : ItemSystemType) :
    (changed v (-n) fromWhere true false a).goodsCount = max 0 (v.goodsCount - n) := by
  have hkind : isOrdinary v.goodsID := by rw [h]; decide
  have hp : ¬checkIsPaoTaiItem v.goodsID := by rw [h]; decide
  have hcount := Goods.goodsCount_change v (-n) fromWhere a.now
  have hexp : ¬expired (v.change (-n) fromWhere false a.now) a.now := by simp [expired, Goods.goodsID_change, hkind]
  rw [if_neg hp, ← Int.sub_eq_add_neg] at hcount
  unfold changed
  dsimp only
  split
  · rw [goodsCount_informed, if_neg hexp, hcount]
  · exact hcount

/-- The jewels after the second loop of `CheckItemAndComsume`. -/
theorem jewels_comsume_loop (fromWhere : ItemSystemType) : ∀ (itemlist : List (Nat × Int)) (b : BagCall.UserBag),
    (∀ l ∈ itemlist, ∃ v, b.find l.1 = some v) → (Attempt.forEach (comsumeItem fromWhere a) itemlist b).failure = none →
    jewels (Attempt.forEach (comsumeItem fromWhere a) itemlist b).state = jewelsLeft itemlist (jewels b) := by
  intro itemlist
  induction itemlist with
  | nil => exact fun b _ _ => rfl
  | cons l itemlist ih =>
    intro b hfound hnone
    obtain ⟨⟨v, hv⟩, hfrest⟩ := List.forall_mem_cons.1 hfound
    obtain ⟨hok, hnone⟩ := failure_forEach_cons.1 hnone
    obtain ⟨-, hfail⟩ | ⟨-, -, w, hw, -, heq, hgoods, -⟩ := comsumeItem_cases (a := a) hv fromWhere
    · exact absurd hok hfail
    have hfind := findGoods_set hv hw
    rw [← hgoods] at hfind
    have hfound' := found_set hv hw hfrest
    rw [← hgoods] at hfound'
    have hline : jewels (comsumeItem fromWhere a b l).state = if l.1 = itemIdJewel then max 0 (jewels b - l.2)
      else jewels b := by
      unfold jewels
      by_cases hg : l.1 = itemIdJewel
      · have hgold : ¬(l.1 = itemIdGold ∧ ¬a.userFound) := fun h => by simp [hg, itemIdJewel, itemIdGold] at h
        have hafter := hfind l.1
        rw [if_pos rfl, hg] at hafter
        rw [if_neg hgold] at heq
        rw [hg] at hv
        rw [if_pos hg, getItemCount_of_find hafter,
          getItemCount_of_find (show findGoods b.goods itemIdJewel = some v from hv), heq]
        exact goodsCount_of_jewels (goodsID_of_find hv) l.2 fromWhere
      · have hafter := hfind itemIdJewel
        rw [if_neg (fun h => hg h.symm)] at hafter
        unfold findGoods at hafter
        rw [if_neg hg, getItemCount, getItemCount, hafter]
    rw [forEach_cons_of_ok hok, ih _ hfound' hnone, hline, jewelsLeft]

/-- The fire crystal that comes: the change does not stop, and leaves the jewels. -/
theorem changeItemCount_fireCrystal (b : BagCall.UserBag) (n : Int) (fromWhere : ItemSystemType) (a : BagCall.Answers) :
    (changeItemCount b itemIdFireCrystal n fromWhere true false a).failure = none ∧
      jewels (changeItemCount b itemIdFireCrystal n fromWhere true false a).state = jewels b := by
  have hne : itemIdJewel ≠ itemIdFireCrystal := by decide
  have hkind : isOrdinary itemIdFireCrystal := by decide
  cases hv : b.find itemIdFireCrystal with
  | none =>
    have hgoods := goods_changeItemCount_of_missing hv n fromWhere true false a
    refine ⟨?_, ?_⟩
    · have hadded : (addItemToBag b itemIdFireCrystal n a.now).find itemIdFireCrystal =
        some (Goods.added itemIdFireCrystal n) := by
        show findGoods (b.goods ++ [Goods.added itemIdFireCrystal n]) itemIdFireCrystal = _
        rw [findGoods, List.find?_append, show b.goods.find? _ = none from hv]
        rfl
      unfold BagCall.changeItemCount
      simp only [changeEntry, hv, if_true]
      refine (failure_goodsInfo hadded a).2 fun h => ?_
      have hend := h.2
      rw [endless, show (Goods.added itemIdFireCrystal n).goodsID = itemIdFireCrystal from rfl, hkind] at hend
      cases hend
    · unfold jewels getItemCount
      rw [hgoods, List.find?_append]
      have hnot : [Goods.added itemIdFireCrystal n].find? (fun v => v.goodsID = itemIdJewel) = none := rfl
      rw [hnot, Option.or_none]
  | some v =>
    have hid : v.goodsID = itemIdFireCrystal := goodsID_of_find hv
    have hother : findGoods (setGoods b.goods (changed v n fromWhere true false a)) itemIdJewel =
      findGoods b.goods itemIdJewel :=
      findGoods_setGoods_of_ne (by rw [goodsID_changed, hid]; exact hne)
    refine ⟨(failure_changeItemCount hv n fromWhere true false a).2 fun h => ?_, ?_⟩
    · simp [endless, Goods.goodsID_change, hid, hkind] at h
    · unfold jewels getItemCount
      rw [goods_changeItemCount hv]
      exact congrArg (fun o => (Option.map Goods.goodsCount o).getD 0) hother

/-! ## A composition -/

variable {bag : BagCall.UserBag} {opLimitHash : OpLimitHash} {userID : Nat} {answers : Answers}

/-- Asking for the price leaves the time of the limit. -/
theorem getLimitCount_sourceItem (composeConfig : ComposeConfig) :
    OperatorLimit.getLimitCount (sourceItem opLimitHash userID itemIdFireCrystal composeConfig answers).1 userID
        OperatorLimit.opLimitIdFireCrystalCd =
      OperatorLimit.getLimitCount opLimitHash userID OperatorLimit.opLimitIdFireCrystalCd := by
  have hne : OperatorLimit.opLimitIdFireCrystalCd ≠ itemIdFireCrystal := by decide
  have hentry : OperatorLimit.entry
      ((OperatorLimit.Call.getLimitComposeCD userID itemIdFireCrystal answers.day answers.user.now).run opLimitHash) userID
      OperatorLimit.opLimitIdFireCrystalCd = _ := OperatorLimit.entry_run_of_ne (Or.inr hne)
  unfold sourceItem
  split
  · rw [OperatorLimit.getLimitCount_eq_entry, OperatorLimit.getLimitCount_eq_entry]
    exact congrArg (fun o => (Option.map OperatorLimit.LimitInfo.limitCount o).getD 0) hentry
  · rfl

/-- A composition of a fire crystal that goes through. -/
theorem compositing_of_goesThrough (h : goesThrough bag opLimitHash userID itemIdFireCrystal answers) : ∃ composeConfig,
    answers.composeConfig = some composeConfig ∧
    let r := compositingGoodsInfo bag opLimitHash userID itemIdFireCrystal answers
    r.composed ∧ r.opLimitHash = (sourceItem opLimitHash userID itemIdFireCrystal composeConfig answers).1 ∧
      jewels r.bag = jewelsLeft (sourceItem opLimitHash userID itemIdFireCrystal composeConfig answers).2 (jewels bag) := by
  unfold goesThrough at h
  simp only [Bool.and_eq_true, Option.any_eq_true] at h
  obtain ⟨hitem, composeConfig, hconfig, hcheck, hgo⟩ := h
  have hfound := fun l hl => find_of_checked hcheck (v := l) hl
  have hloop : (Attempt.forEach (comsumeItem .byCompose answers.user)
    (sourceItem opLimitHash userID itemIdFireCrystal composeConfig answers).2
      bag).failure = none := by
    refine (failure_comsume_loop .byCompose _ bag hfound).2 fun l hl v hv => ?_
    have hline := List.all_eq_true.1 hgo l hl
    rw [hv] at hline
    simpa using hline
  have hjewels := jewels_comsume_loop .byCompose _ bag hfound hloop
  obtain ⟨hok, hkept⟩ := changeItemCount_fireCrystal
    (Attempt.forEach (comsumeItem .byCompose answers.user)
      (sourceItem opLimitHash userID itemIdFireCrystal composeConfig answers).2 bag).state
    composeConfig.itemCount .byCompose answers.user
  refine ⟨composeConfig, hconfig, ?_⟩
  unfold compositingGoodsInfo
  simp only [hitem, hconfig, checkItemAndComsume, hcheck, if_true, Attempt.andThen, hloop, hok, and_self]
  exact ⟨trivial, rfl, hkept.trans hjewels⟩

/-- A composition that succeeds has gone through. -/
theorem goesThrough_of_composed (h : (compositingGoodsInfo bag opLimitHash userID itemIdFireCrystal answers).composed) :
    goesThrough bag opLimitHash userID itemIdFireCrystal answers := by
  unfold compositingGoodsInfo at h
  cases hitem : answers.itemFound with
  | false => simp [hitem] at h
  | true =>
    cases hconfig : answers.composeConfig with
    | none => simp [hitem, hconfig] at h
    | some composeConfig =>
      by_cases hcheck : Spending.checkItem bag.goods
        (sourceItem opLimitHash userID itemIdFireCrystal composeConfig answers).2
      swap
      · simp [hitem, hconfig, checkItemAndComsume, hcheck] at h
      have hfound := fun l hl => find_of_checked hcheck (v := l) hl
      simp only [hitem, hconfig, checkItemAndComsume, hcheck, if_true, true_and] at h
      split at h
      · rename_i hnone
        have hgo := (failure_comsume_loop .byCompose _ bag hfound).1 (Attempt.failure_andThen.1 hnone).1
        simp only [goesThrough, hitem, hconfig, hcheck, Option.any_some, Bool.true_and, List.all_eq_true, Option.all_eq_true]
        exact fun l hl v hv => by simpa using hgo l hl v hv
      · simp at h

/-- The list that is taken within the cool-down: the sources, and the price of the step. -/
theorem required_sourceItem {composeConfig : ComposeConfig} (hconfig : answers.composeConfig = some composeConfig)
    (hcd : checkComposeCD opLimitHash userID itemIdFireCrystal answers.user.now > 0) :
    required (sourceItem opLimitHash userID itemIdFireCrystal composeConfig answers).2 itemIdJewel =
      required (sources answers) itemIdJewel + price opLimitHash userID itemIdFireCrystal answers.day answers.user.now := by
  unfold sourceItem sources price
  rw [if_pos hcd, hconfig]
  simp only [required_append, Option.map_some, Option.getD_some]
  congr 1
  unfold getCleanComposeCDItem Spending.getCleanComposeCDItem
  split
  · rw [Option.toList_some, required, required, if_pos rfl, Int.add_zero, Option.map_some, Option.getD_some]
  · rfl

/-- A composition of a fire crystal does what is promised exactly under the condition. -/
theorem coolsDown_iff (userID : Nat) (s : State) (c : Call) : CoolsDown userID s c ↔ composeSafe userID s c := by
  cases c with
  | compositingCDInfo goodsID day now => exact iff_of_true trivial rfl
  | bag c => exact iff_of_true trivial rfl
  | limit c now => exact iff_of_true trivial rfl
  | compositingGoodsInfo goodsID a =>
    unfold CoolsDown composeSafe
    by_cases hg : goodsID = itemIdFireCrystal
    swap
    · exact iff_of_true (fun h => absurd h hg) (by simp [hg])
    subst hg
    by_cases hgo : goesThrough s.bag s.opLimitHash userID itemIdFireCrystal a
    swap
    · exact iff_of_true (fun _ h => absurd (goesThrough_of_composed h) hgo) (by simp [hgo])
    obtain ⟨composeConfig, hconfig, hcomposed, hlimits, hjewels⟩ := compositing_of_goesThrough hgo
    have hleft : checkComposeCD (compositingGoodsInfo s.bag s.opLimitHash userID itemIdFireCrystal a).opLimitHash userID
      itemIdFireCrystal
        a.user.now = checkComposeCD s.opLimitHash userID itemIdFireCrystal a.user.now := by
      unfold checkComposeCD
      rw [hlimits, getLimitCount_sourceItem]
    have hcd : checkComposeCD s.opLimitHash userID itemIdFireCrystal a.user.now = fireCrystalCdTime ↔
        OperatorLimit.getLimitCount s.opLimitHash userID OperatorLimit.opLimitIdFireCrystalCd = a.user.now +
          fireCrystalCdTime := by
      have hpos : 0 < fireCrystalCdTime := by decide
      generalize fireCrystalCdTime = cdTime at hpos ⊢
      unfold checkComposeCD Spending.checkComposeCD
      split <;> omega
    simp only [hcomposed, hleft, hjewels, forall_const, ne_eq, not_true_eq_false, decide_false, hgo, Bool.not_true,
      Bool.or_self, Bool.false_or, Bool.and_eq_true, decide_eq_true_eq, hcd, hconfig, Option.all_some]
    rw [and_comm]
    refine and_congr_right fun hlimit => ?_
    have hrunning : checkComposeCD s.opLimitHash userID itemIdFireCrystal a.user.now > 0 := by
      rw [hcd.2 hlimit]
      decide
    rw [← required_sourceItem hconfig hrunning, jewelsLeft_eq_iff, Bool.or_eq_true, Bool.not_eq_true', ← Bool.not_eq_true,
      Option.any_eq_true]
    simp only [decide_eq_true_eq, imp_iff_not_or]
    rfl

/-- In every run, every composition of a fire crystal does what is promised exactly when every one meets the condition. -/
theorem meets_coolsDown_iff (userID : Nat) (s : State) (calls : List Call) :
    Steps.Meets (step userID) (CoolsDown userID) s calls ↔ Steps.Meets (step userID)
      (fun s c => composeSafe userID s c) s calls :=
  Steps.meets_congr (coolsDown_iff userID) calls s

/-- A fire crystal is composed of an item when there are no limits: no time is left right after it. -/
theorem composed_without_coolDown :
    ¬∀ (userID : Nat) (s : State) (calls : List Call), Steps.Meets (step userID) (CoolsDown userID) s calls := by
  intro h
  have hleft := ((h 7 ⟨⟨[⟨itemIdFish, 3, 3, 0, some 0⟩], 0, fun _ => 0, []⟩, fun _ => some [], none, 0⟩
    [.compositingGoodsInfo itemIdFireCrystal ⟨true, some ⟨[(itemIdFish, 1)], 1⟩, ⟨true, true, true, 1000⟩, 20170101⟩]).1 rfl
      (by decide)).2
  exact absurd hleft (by decide)

end SasyServer.Compositing
