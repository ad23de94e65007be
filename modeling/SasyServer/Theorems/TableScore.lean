import SasyServer.Lemmas.GoldBalance
import SasyServer.Table.Score

/-!
# The score of the table and the score of the user

`calcScore` writes what has changed at the table to the record of the user, and `onUserScoreNotify` takes over what others
have changed there. Both only move the point up to which `fishScore` has been counted: what `calcScore` has written and what
is still uncounted are the changes made at the table, whatever the other services do in between.
-/

namespace SasyServer.Table

/-- The sum of the scores `calcScore` has passed to `writeUserScore`. -/
def Chair.passed (s : Chair) : Int := (s.writes.map TagScoreInfo.score).sum

/-- The score of the credit that a waiting `calcScore` has taken. -/
def Chair.creditTaken (s : Chair) : Int := (s.calculating.map Credit.score).getD 0

/-- What a label changes `fishScore` by, when it is a change made at the table. -/
def inTable (cfg : Config) (s : Chair) : ChairLabel → Int
  | .seat i => gain cfg.cannonMultiple s.seat i
  | .catchFish x => x
  | _ => 0

/-- The score of the credit that a label takes. -/
def taken (s : Chair) : ChairLabel → Int
  | .calcScore => s.additionalCredit.score
  | _ => 0

/-- A player who has just sat down: `createGameDataItem` counts the whole `fishScore`. -/
structure SatDown (s : Chair) : Prop where
  calculating : s.calculating = none
  external : s.external = 0
  writes : s.writes = []
  counted : s.countedFishScore = s.fishScore

section Step

variable {cfg : Config} {s : Chair}

theorem score_calcTag (cfg : Config) (score : Int) (credit : Credit) : (calcTag cfg score credit).score = score := by
  unfold calcTag
  repeat' split
  all_goals rfl

/-- Without a fee, and outside of a match, the score that is written is the one that was passed on. -/
theorem score_writeUserScore (hc : cfg.counts) (hservice : cfg.serviceScore = 0) (p : UserInfo) (tag : TagScoreInfo) :
    (writeUserScore cfg p tag).score = p.score + tag.score := by
  simp only [Config.counts, decide_eq_true_eq] at hc
  simp only [writeUserScore, hc.2, hservice, ne_eq, not_true_eq_false, gt_iff_lt, lt_self_iff_false, false_and,
    and_false, if_false]
  rfl

/-- `calcScore` counts everything and passes on what was uncounted, with the credit. When that is zero
it may pass on nothing. -/
theorem calcRest_spec (hc : cfg.counts) (s : Chair) (credit : Credit) :
    ∃ tags sui, calcRest cfg s credit = { s with countedFishScore := s.fishScore, sui := sui, writes := tags ++ s.writes } ∧
      (tags.map TagScoreInfo.score).sum = credit.score + s.fishScore - s.countedFishScore ∧
      (cfg.serviceScore = 0 → sui.score = s.sui.score + (credit.score + s.fishScore - s.countedFishScore)) := by
  simp only [calcRest, hc, if_true]
  split
  · refine ⟨[_], _, rfl, ?_, ?_⟩
    · simp only [List.map_cons, List.map_nil, List.sum_cons, List.sum_nil, score_calcTag, add_zero]
    · intro hservice
      rw [score_writeUserScore hc hservice, score_calcTag]
  · rename_i hz
    have hzero : credit.score + s.fishScore - s.countedFishScore = 0 := by omega
    exact ⟨[], s.sui, rfl, hzero.symm, fun _ => by rw [hzero, add_zero]⟩

/-- What a label can do, with what it changes at the table and the credit it takes. -/
theorem chairStep_cases (i : ChairLabel) {s' : Chair} (hs : chairStep cfg s i = some s') :
    (∃ seat totalScore, s' = { s with seat := seat, totalScore := totalScore } ∧
      seat.gameData.fishScore = s.fishScore + inTable cfg s i ∧ taken s i = 0) ∨
    (s' = calcScore cfg s ∧ s.calculating = none ∧ inTable cfg s i = 0 ∧ taken s i = s.additionalCredit.score) ∨
    (∃ credit recordScore recordPresent, s.calculating = some credit ∧
      s' = calcRest cfg { s with calculating := none, recordScore := recordScore, recordPresent := recordPresent } credit ∧
      inTable cfg s i = 0 ∧ taken s i = 0) ∨
    (∃ x, s' = { addAttribute s x with external := s.external + 1 } ∧ inTable cfg s i = 0 ∧ taken s i = 0) ∨
    (∃ x external, s' = { onUserScoreNotify (addAttribute s x) with external := external } ∧
      inTable cfg s i = 0 ∧ taken s i = 0) ∨
    (∃ credit totalPresent isPayUser,
      s' = { s with additionalCredit := credit, totalPresent := totalPresent, isPayUser := isPayUser } ∧
      inTable cfg s i = 0 ∧ taken s i = 0) := by
  cases i with
  | seat i =>
    simp only [chairStep] at hs
    split at hs
    · cases hs
    · rw [Option.map_eq_some_iff] at hs
      obtain ⟨seat, hseat, rfl⟩ := hs
      exact Or.inl ⟨seat, _, rfl, fishScore_step i hseat, rfl⟩
  | catchFish x =>
    simp only [chairStep, Option.ite_none_right_eq_some, Option.some.injEq] at hs
    obtain ⟨-, rfl⟩ := hs
    exact Or.inl ⟨_, _, rfl, rfl, rfl⟩
  | calcScore =>
    simp only [chairStep, Option.ite_none_right_eq_some, Option.some.injEq, Chair.free, Bool.and_eq_true,
      Option.isNone_iff_eq_none] at hs
    obtain ⟨hfree, rfl⟩ := hs
    exact Or.inr (Or.inl ⟨rfl, hfree.2, rfl, rfl⟩)
  | recorded recordScore recordPresent =>
    simp only [chairStep, Option.map_eq_some_iff] at hs
    obtain ⟨credit, hcalc, rfl⟩ := hs
    exact Or.inr (Or.inr (Or.inl ⟨credit, _, _, hcalc, rfl, rfl, rfl⟩))
  | external x =>
    cases hs
    exact Or.inr (Or.inr (Or.inr (Or.inl ⟨x, rfl, rfl, rfl⟩)))
  | onUserScoreNotify =>
    simp only [chairStep, Option.ite_none_right_eq_some, Option.some.injEq] at hs
    obtain ⟨-, rfl⟩ := hs
    refine Or.inr (Or.inr (Or.inr (Or.inr (Or.inl ⟨0, s.external - 1, ?_, rfl, rfl⟩))))
    simp only [addAttribute, add_zero]
  | completeTask x =>
    cases hs
    exact Or.inr (Or.inr (Or.inr (Or.inr (Or.inl ⟨x, _, rfl, rfl, rfl⟩))))
  | catchPresent | goldRecordChange =>
    simp only [chairStep, Option.ite_none_right_eq_some, Option.some.injEq] at hs
    obtain ⟨-, rfl⟩ := hs
    exact Or.inr (Or.inr (Or.inr (Or.inr (Or.inr ⟨_, _, _, rfl, rfl, rfl⟩))))
  | credit c =>
    cases hs
    exact Or.inr (Or.inr (Or.inr (Or.inr (Or.inr ⟨_, _, _, rfl, rfl, rfl⟩))))

/-! ## The uncounted score -/

/-- What has been passed on, what is uncounted and what a waiting `calcScore` has taken are the changes at the
table and the credit taken. -/
def Accounted (s : Chair) (total : Int) : Prop := s.passed + (s.fishScore - s.countedFishScore) + s.creditTaken = total

/-- The rest of `calcScore` passes on what was uncounted, together with the credit it has taken. -/
theorem Accounted.calcRest {total : Int} (hc : cfg.counts) (h : Accounted s total) (hidle : s.calculating = none)
    (credit : Credit) :
    Accounted (calcRest cfg s credit) (total + credit.score) := by
  obtain ⟨tags, sui, he, hsum, -⟩ := calcRest_spec hc s credit
  rw [he]
  simp only [Accounted, Chair.passed, Chair.creditTaken, Chair.fishScore, hidle, List.map_append,
    List.sum_append] at h hsum ⊢
  omega

/-- `calcScore` takes the credit before it waits, or passes it on at once. -/
theorem Accounted.calcScore {total : Int} (hc : cfg.counts) (h : Accounted s total) (hidle : s.calculating = none) :
    Accounted (calcScore cfg s) (total + s.additionalCredit.score) := by
  unfold Table.calcScore
  dsimp only
  split
  · simp only [Accounted, Chair.passed, Chair.creditTaken, Chair.fishScore, hidle, Option.map_none, Option.getD_none,
      Option.map_some, Option.getD_some] at h ⊢
    omega
  · exact Accounted.calcRest (s := { s with additionalCredit := ⟨0, 0, 0⟩ }) hc h hidle s.additionalCredit

/-- The credit that a waiting `calcScore` has taken is passed on. -/
theorem Accounted.recorded {total : Int} (hc : cfg.counts) (h : Accounted s total) {credit : Credit}
    (hcalc : s.calculating = some credit) (recordScore recordPresent : Int) :
    Accounted
      (Table.calcRest cfg
        { s with calculating := none, recordScore := recordScore, recordPresent := recordPresent } credit)
      total := by
  have hwake : Accounted { s with calculating := none, recordScore := recordScore, recordPresent := recordPresent }
      (total - credit.score) := by
    simp only [Accounted, Chair.passed, Chair.creditTaken, Chair.fishScore, hcalc, Option.map_some, Option.getD_some,
      Option.map_none, Option.getD_none] at h ⊢
    omega
  have hrest := hwake.calcRest hc rfl credit
  rwa [sub_add_cancel] at hrest

/-- One label: what the game changes and the credit that is taken come to the total. -/
theorem Accounted.step {total : Int} (hc : cfg.counts) (h : Accounted s total) (i : ChairLabel) {s' : Chair}
    (hs : chairStep cfg s i = some s') : Accounted s' (total + (inTable cfg s i + taken s i)) := by
  rcases chairStep_cases i hs with ⟨seat, _, rfl, hf, ht⟩ | ⟨rfl, hidle, hi, ht⟩ | ⟨credit, _, _, hcalc, rfl, hi, ht⟩ |
    ⟨x, rfl, hi, ht⟩ | ⟨x, _, rfl, hi, ht⟩ | ⟨_, _, _, rfl, hi, ht⟩
  · simp only [Accounted, Chair.passed, Chair.creditTaken, Chair.fishScore] at h hf ⊢
    omega
  · rw [hi, ht, zero_add]
    exact h.calcScore hc hidle
  · rw [hi, ht, add_zero, add_zero]
    exact h.recorded hc hcalc _ _
  · rw [hi, ht, add_zero, add_zero]
    exact h
  · -- Taking over the score of the record leaves what is uncounted as it is.
    rw [hi, ht, add_zero, add_zero]
    simp only [Accounted, Chair.passed, Chair.creditTaken, Chair.fishScore, onUserScoreNotify, addAttribute] at h ⊢
    omega
  · rw [hi, ht, add_zero, add_zero]
    exact h

/-! ## The counted score -/

/-- A waiting `calcScore` has taken no credit of a score. -/
def NoCredit (s : Chair) : Prop := ∀ c, s.calculating = some c → c.score = 0

theorem calculating_calcRest (hc : cfg.counts) (s : Chair) (credit : Credit) :
    (calcRest cfg s credit).calculating = s.calculating := by
  obtain ⟨tags, sui, he, -⟩ := calcRest_spec hc s credit
  rw [he]

/-- Without a credit of a score there is none to be taken. -/
theorem NoCredit.calcScore (hc : cfg.counts) (h : NoCredit s) (hcredit : s.additionalCredit.score = 0) :
    NoCredit (calcScore cfg s) := by
  unfold Table.calcScore
  dsimp only
  split
  · intro c hcalc
    exact Option.some.inj hcalc ▸ hcredit
  · intro c hcalc
    rw [calculating_calcRest hc] at hcalc
    exact h c hcalc

/-- One label. -/
theorem NoCredit.step (hc : cfg.counts) (h : NoCredit s) (hcredit : s.additionalCredit.score = 0)
    (i : ChairLabel) {s' : Chair} (hs : chairStep cfg s i = some s') :
    NoCredit s' := by
  rcases chairStep_cases i hs with ⟨_, _, rfl, -⟩ | ⟨rfl, -⟩ | ⟨credit, _, _, -, rfl, -⟩ | ⟨_, rfl, -⟩ | ⟨_, _, rfl, -⟩ |
    ⟨_, _, _, rfl, -⟩
  · exact h
  · exact h.calcScore hc hcredit
  · intro c hcalc
    rw [calculating_calcRest hc] at hcalc
    cases hcalc
  · exact h
  · exact h
  · exact h

theorem NoCredit.creditTaken (h : NoCredit s) : s.creditTaken = 0 := by
  unfold Chair.creditTaken
  cases hcalc : s.calculating with
  | none => rfl
  | some c => exact h c hcalc

/-- What is counted is the score of the record, unless a change of the record is still to be notified. -/
def Even (s : Chair) : Prop := s.countedFishScore = s.sui.score ∨ 0 < s.external

/-- Without a credit the record gets just what was uncounted. -/
theorem Even.calcRest (hc : cfg.counts) (hservice : cfg.serviceScore = 0) (h : Even s) {credit : Credit}
    (hcredit : credit.score = 0) :
    Even (calcRest cfg s credit) := by
  obtain ⟨tags, sui, he, -, hsui⟩ := calcRest_spec hc s credit
  rw [he]
  refine h.imp_left ?_
  intro hcounted
  show s.fishScore = sui.score
  rw [hsui hservice, hcredit, hcounted]
  omega

/-- `calcScore` waits, or makes the two even at once. -/
theorem Even.calcScore (hc : cfg.counts) (hservice : cfg.serviceScore = 0) (h : Even s)
    (hcredit : s.additionalCredit.score = 0) :
    Even (calcScore cfg s) := by
  unfold Table.calcScore
  dsimp only
  split
  · exact h
  · exact Even.calcRest (s := { s with additionalCredit := ⟨0, 0, 0⟩ }) hc hservice h hcredit

/-- One label: a change of the record from outside is what is still to be notified. -/
theorem Even.step (hc : cfg.counts) (hservice : cfg.serviceScore = 0) (h : Even s) (hno : NoCredit s)
    (hcredit : s.additionalCredit.score = 0) (i : ChairLabel) {s' : Chair} (hs : chairStep cfg s i = some s') : Even s' := by
  rcases chairStep_cases i hs with ⟨_, _, rfl, -⟩ | ⟨rfl, -⟩ |
    ⟨credit, recordScore, recordPresent, hcalc, rfl, -⟩ | ⟨_, rfl, -⟩ |
    ⟨_, _, rfl, -⟩ | ⟨_, _, _, rfl, -⟩
  · exact h
  · exact h.calcScore hc hservice hcredit
  · exact Even.calcRest (s := { s with calculating := none, recordScore := recordScore, recordPresent := recordPresent })
      hc hservice h (hno credit hcalc)
  · exact Or.inr (Nat.succ_pos _)
  · exact Or.inl rfl
  · exact h

end Step

/-- Every run of a player who has sat down at a table that is neither for training nor for a match and takes no fee. 1. What
`calcScore` has passed to `writeUserScore`, what is uncounted and what a `calcScore` that waits has taken of the credit are
the changes of `fishScore` made at the table and the credit taken. Changes by other services do not enter. 2. If
`additionalCredit.score` stays 0, no `calcScore` waits with a credit of a score; and if the counted score was the score of
the user, then it is whenever no change by another service is waiting for its notification. -/
theorem passed_add_uncounted (cfg : Config) (s t : Chair) (labels : List ChairLabel)
    (heducate : cfg.serverType &&& genreEducate = 0) (hmatch : cfg.serverType &&& genreMatch = 0)
    (hservice : cfg.serviceScore = 0) (hs : SatDown s) (hrun : Steps.exec (chairStep cfg) s labels = some t) :
    t.passed + (t.fishScore - t.countedFishScore) + t.creditTaken =
      Steps.total (chairStep cfg) (inTable cfg) s labels + Steps.total (chairStep cfg) taken s labels ∧
    (Steps.Meets (chairStep cfg) (fun s _ => s.additionalCredit.score = 0) s labels →
      t.creditTaken = 0 ∧ (s.countedFishScore = s.sui.score → t.external = 0 → t.countedFishScore = t.sui.score)) := by
  have hc : cfg.counts := by simp only [Config.counts, heducate, hmatch, and_self, decide_true]
  constructor
  · have h0 : Accounted s 0 := by
      simp only [Accounted, Chair.passed, Chair.creditTaken, hs.writes, hs.calculating, hs.counted,
        List.map_nil, List.sum_nil, Option.map_none, Option.getD_none]
      omega
    have h := Steps.exec_total (I := Accounted) (C := fun _ _ => True) (fun s i s' total h _ hs => h.step hc i hs)
      labels s t 0 h0
      (Steps.meets_of_forall (fun _ _ => trivial) labels s) hrun
    rw [Steps.total_add, zero_add] at h
    exact h
  · intro hcredit
    have h0 : NoCredit s := fun c hcalc => by
      rw [hs.calculating] at hcalc
      cases hcalc
    have hno := Steps.exec_invariant (fun s i s' h hcredit hs => NoCredit.step hc h hcredit i hs) labels s t h0 hcredit hrun
    refine ⟨hno.creditTaken, ?_⟩
    intro hcounted hnone
    have h := Steps.exec_invariant (I := fun s => NoCredit s ∧ Even s)
      (fun s i s' h hcredit hs => ⟨h.1.step hc hcredit i hs, h.2.step hc hservice h.1 hcredit i hs⟩) labels s t
      ⟨h0, Or.inl hcounted⟩ hcredit hrun
    exact h.2.resolve_right (by omega)

/-- A player with 1000 gold and the score 1000 sits down in the basic room. -/
def scoreChair : Chair :=
  ⟨⟨7, 1, createGameDataItem 1000, false, false, [], .init, none, [], Bag.State.init⟩, 1000, ⟨0, 0, 0⟩, 0, 0, 0,
    0, false, none, ⟨1000, 0, 0, 0⟩, 0, []⟩

/-- A shot and a catch; while `calcScore` waits another service adds 500, and the notification comes after a second catch. -/
theorem passed_add_uncounted_external :
    ∃ t, Steps.exec (chairStep ⟨1100, genreGold, 0, ⟨1, 100⟩⟩) scoreChair
        [.seat (.userFire ⟨0, 1, 10, []⟩), .seat .proceed, .catchFish 30, .calcScore, .external 500,
          .recorded 30 0, .catchFish 5, .onUserScoreNotify] = some t ∧
      t.external = 0 ∧
      (t.passed + (t.fishScore - t.countedFishScore) + t.creditTaken =
        Steps.total (chairStep ⟨1100, genreGold, 0, ⟨1, 100⟩⟩) (inTable ⟨1100, genreGold, 0, ⟨1, 100⟩⟩) scoreChair
          [.seat (.userFire ⟨0, 1, 10, []⟩), .seat .proceed, .catchFish 30, .calcScore, .external 500,
            .recorded 30 0, .catchFish 5, .onUserScoreNotify] +
        Steps.total (chairStep ⟨1100, genreGold, 0, ⟨1, 100⟩⟩) taken scoreChair
          [.seat (.userFire ⟨0, 1, 10, []⟩), .seat .proceed, .catchFish 30, .calcScore, .external 500,
            .recorded 30 0, .catchFish 5, .onUserScoreNotify]) ∧
      t.countedFishScore = t.sui.score :=
  have h := passed_add_uncounted ⟨1100, genreGold, 0, ⟨1, 100⟩⟩ scoreChair _
    [.seat (.userFire ⟨0, 1, 10, []⟩), .seat .proceed, .catchFish 30, .calcScore, .external 500,
      .recorded 30 0, .catchFish 5, .onUserScoreNotify] (by decide) (by decide) rfl ⟨rfl, rfl, rfl, rfl⟩ rfl
  ⟨_, rfl, rfl, h.1, (h.2 (by decide +kernel)).2 rfl rfl⟩

end SasyServer.Table
