import SasyServer.Table.PracticePlay
import SasyServer.Theorems.Variation

/-!
# The score of a user after a practice play

At a table with the bit of `EDUCATE` the play does not reach the variation of the score: nothing that is fished is counted,
and only presents are credited. The score itself comes back where `ServerType` is `EDUCATE` and nothing else.
-/

namespace SasyServer.Practice

open Table (Credit TagScoreInfo ScoreType calcTag genreGold genreMatch genreEducate)

/-- What has been handed to `sp_write_score` of the score, and what waits in the record. -/
def Player.variation (p : Player) : Int := (p.handed.map fun d => d.variationInfo.score).sum + p.userItem.variationInfo.score

/-- A practice play leaves the user as before: the score after `standUp` is the score before `cmd_sitDown`, and whatever
happens after it, what is handed to `sp_write_score` of the score is what waited in the record before. -/
structure Unharmed (cfg : Config) : Prop where
  score : ∀ (p u : Player) (gold now now' : Int) (play : List Label), (∀ i ∈ play, i.isPlay = true) →
    Steps.exec (step cfg) p (.sitDown gold now :: (play ++ [.standUp now'])) = some u → u.userItem.score = p.userItem.score
  variation : ∀ (p u : Player) (gold now : Int) (is : List Label),
    Steps.exec (step cfg) p (.sitDown gold now :: is) = some u →
    u.variation = p.variation

section Play

variable {cfg : Config} {p q : Player}

/-! ## What a step leaves alone -/

theorem eq_setScore {score : Int} (h : setScore p score = some q) :
    q = { p with userItem := { p.userItem with score := score } } := by
  unfold setScore at h
  split at h
  · exact (Option.some.inj h).symm
  · cases h

/-- What has been handed and what waits are moved, not changed. -/
theorem writeVariation_kept (h : writeVariation p = some q) :
    q.variation = p.variation ∧ q.siteDownScore = p.siteDownScore ∧ q.gameData = p.gameData := by
  obtain ⟨⟨tmp, userItem⟩, hd, rfl⟩ := Option.map_eq_some_iff.1 h
  refine ⟨?_, rfl, rfl⟩
  unfold Sui.distillVariation at hd
  dsimp only [Player.variation]
  split at hd
  · split at hd
    · obtain ⟨rfl, rfl⟩ := Prod.mk.inj (Option.some.inj hd)
      simp [Sui.VariationInfo.zero, add_comm]
    · obtain ⟨rfl, rfl⟩ := Prod.mk.inj (Option.some.inj hd)
      simp
  · cases hd

theorem cmdWriteVariation_kept (h : cmdWriteVariation cfg p = some q) :
    q.variation = p.variation ∧ q.siteDownScore = p.siteDownScore ∧ q.gameData = p.gameData := by
  unfold cmdWriteVariation at h
  split at h
  · exact writeVariation_kept h
  · obtain rfl := Option.some.inj h
    exact ⟨rfl, rfl, rfl⟩

/-- A write of a score of 0 without a fee. -/
theorem writeUserScore_kept {tag : TagScoreInfo} {time : Int} (hscore : tag.score = 0) (hfee : fee cfg tag.type = 0)
    (h : writeUserScore cfg p tag time = some q) :
    q.variation = p.variation ∧ q.siteDownScore = p.siteDownScore ∧ q.gameData = p.gameData := by
  unfold writeUserScore at h
  split at h
  · obtain rfl := eq_setScore h
    exact ⟨rfl, rfl, rfl⟩
  · obtain ⟨userItem, hw, h⟩ := Option.bind_eq_some_iff.1 h
    have hsame : userItem.variationInfo.score = p.userItem.variationInfo.score := by
      have hvar := Sui.writeUserScore_variation hw .score
      rw [hscore, hfee] at hvar
      simpa [Sui.recordDelta, Sui.timeDelta, Sui.typeDelta, Sui.entryDelta, Sui.Field.gameType, Sui.Field.key,
        Sui.VariationInfo.get] using hvar
    have hkept : ({ p with userItem := userItem } : Player).variation = p.variation := by
      unfold Player.variation
      rw [hsame]
    dsimp only at h
    split at h
    · obtain ⟨hv, hs, hg⟩ := cmdWriteVariation_kept h
      exact ⟨hv.trans hkept, hs, hg⟩
    · obtain rfl := Option.some.inj h
      exact ⟨hkept, rfl, rfl⟩

/-- No score is credited. -/
def Uncredited (p : Player) : Prop := ∀ g, p.gameData = some g → g.additionalCredit.score = 0

theorem not_counts (hedu : cfg.serverType &&& genreEducate ≠ 0) : cfg.counts = false := by
  simp [Table.Config.counts, hedu]

/-- `calcScore` at a practice table. -/
theorem calcScore_kept (hedu : cfg.serverType &&& genreEducate ≠ 0) (hp : Uncredited p) {now : Int}
    (h : calcScore cfg now p = some q) :
    q.variation = p.variation ∧ q.siteDownScore = p.siteDownScore ∧ q.gameData.isSome = p.gameData.isSome ∧
      Uncredited q := by
  unfold calcScore at h
  cases hg : p.gameData with
  | none =>
    rw [hg] at h
    obtain rfl := Option.some.inj h
    exact ⟨rfl, rfl, by rw [hg], hp⟩
  | some g =>
    rw [hg] at h
    dsimp only at h
    rw [not_counts hedu] at h
    simp only [Bool.false_eq_true, if_false] at h
    split at h
    · have htag : (calcTag cfg.toConfig g.additionalCredit.score g.additionalCredit).score = 0 ∧
          fee cfg (calcTag cfg.toConfig g.additionalCredit.score g.additionalCredit).type = 0 := by
        unfold calcTag
        rw [not_counts hedu]
        exact ⟨hp g hg, by simp [fee, ScoreType.isDraw]⟩
      obtain ⟨hv, hs, hd⟩ := writeUserScore_kept htag.1 htag.2 h
      refine ⟨hv, hs, by rw [hd]; rfl, ?_⟩
      intro g' hg'
      rw [hd] at hg'
      obtain rfl := Option.some.inj hg'
      rfl
    · obtain rfl := Option.some.inj h
      refine ⟨rfl, rfl, rfl, ?_⟩
      rintro g' ⟨⟩
      rfl

/-- The user sits down at a practice table. -/
theorem eq_sitDown (hedu : cfg.serverType &&& genreEducate ≠ 0) {gold now : Int} (h : sitDown cfg gold now p = some q) :
    q.siteDownScore = p.userItem.score ∧ q.variation = p.variation ∧ Uncredited q := by
  unfold sitDown at h
  rw [if_pos hedu] at h
  split at h
  · obtain rfl := Option.some.inj h
    refine ⟨rfl, rfl, ?_⟩
    rintro g ⟨⟩
    rfl
  · cases h

/-- The user stands up. -/
theorem eq_standUp {now : Int} (h : standUp cfg now p = some q) : ∃ t, calcScore cfg now p = some t ∧
    q = { t with
      gameData := none
      userItem := if cfg.serverType = genreEducate then { t.userItem with score := p.siteDownScore } else t.userItem } := by
  unfold standUp at h
  split at h
  · cases h
  · obtain ⟨t, ht, h⟩ := Option.bind_eq_some_iff.1 h
    refine ⟨t, ht, ?_⟩
    dsimp only at h
    split at h
    · rename_i heq
      rw [if_pos heq]
      exact eq_setScore h
    · rename_i hne
      rw [if_neg hne]
      exact (Option.some.inj h).symm

/-- One step: nothing is added to the variation of the score, and what `standUp` gives back changes only
when the user sits down. -/
theorem step_kept (hedu : cfg.serverType &&& genreEducate ≠ 0) (hp : Uncredited p) {i : Label} (h : step cfg p i = some q) :
    q.variation = p.variation ∧ Uncredited q ∧ (i.isPlay = true → q.siteDownScore = p.siteDownScore) := by
  cases i with
  | sitDown gold now =>
    obtain ⟨-, hv, hun⟩ := eq_sitDown hedu h
    exact ⟨hv, hun, fun hplay => by cases hplay⟩
  | standUp now =>
    obtain ⟨t, ht, rfl⟩ := eq_standUp h
    obtain ⟨hv, -, -, -⟩ := calcScore_kept hedu hp ht
    refine ⟨?_, ?_, ?_⟩
    · rw [← hv]
      unfold Player.variation
      dsimp only
      split <;> rfl
    · intro g hg
      cases hg
    · intro hplay
      cases hplay
  | fish x =>
    obtain ⟨g, hg, rfl⟩ := Option.map_eq_some_iff.1 h
    refine ⟨rfl, ?_, fun _ => rfl⟩
    rintro g' ⟨⟩
    exact hp g hg
  | present x =>
    obtain ⟨g, hg, rfl⟩ := Option.map_eq_some_iff.1 h
    refine ⟨rfl, ?_, fun _ => rfl⟩
    rintro g' ⟨⟩
    exact hp g hg
  | calcScore now =>
    obtain ⟨hv, hs, -, hun⟩ := calcScore_kept hedu hp h
    exact ⟨hv, hun, fun _ => hs⟩
  | setScore x =>
    obtain rfl := eq_setScore h
    exact ⟨rfl, hp, fun _ => rfl⟩
  | writeVariation =>
    obtain ⟨hv, hs, hg⟩ := writeVariation_kept h
    exact ⟨hv, fun g hg' => hp g (hg ▸ hg'), fun _ => hs⟩

/-- A run of such steps. -/
theorem run_kept (hedu : cfg.serverType &&& genreEducate ≠ 0) : ∀ (is : List Label) (p : Player), Uncredited p →
    Steps.exec (step cfg) p is = some q →
      q.variation = p.variation ∧ Uncredited q ∧ ((∀ i ∈ is, i.isPlay = true) → q.siteDownScore = p.siteDownScore) := by
  intro is
  induction is with
  | nil =>
    intro p hp h
    obtain rfl := Option.some.inj h
    exact ⟨rfl, hp, fun _ => rfl⟩
  | cons i is ih =>
    intro p hp h
    obtain ⟨r, hr, h⟩ := Steps.exec_cons_some h
    obtain ⟨hv, hun, hs⟩ := step_kept hedu hp hr
    obtain ⟨hv', hun', hs'⟩ := ih r hun h
    refine ⟨hv'.trans hv, hun', fun hplay => ?_⟩
    exact (hs' fun j hj => hplay j (List.mem_cons_of_mem _ hj)).trans (hs (hplay i List.mem_cons_self))

end Play

/-- A user whose score is one more than the score that is tried. -/
def richer (cfg : Config) : Player := ⟨{ Sui.UserInfo.reset with isInit := true, score := cfg.tryScore + 1 }, 0, none, []⟩

/-- For every configuration with the bit of `EDUCATE`: every practice play of every user leaves the user as before if and
only if `ServerType` is `EDUCATE` and nothing else. -/
theorem unharmed_iff_educate (cfg : Config) (hedu : cfg.serverType &&& genreEducate ≠ 0) :
    Unharmed cfg ↔ cfg.serverType = genreEducate := by
  constructor
  · intro h
    by_contra hother
    have hcounts := not_counts hedu
    have hrun : Steps.exec (step cfg) (richer cfg) (.sitDown 0 0 :: ([] ++ [.standUp 0])) =
        some { richer cfg with
          siteDownScore := cfg.tryScore + 1
          userItem := { (richer cfg).userItem with score := cfg.tryScore } } := by
      simp [Steps.exec, step, sitDown, standUp, calcScore, richer, hedu, hother, hcounts]
    have hscore := h.score _ _ 0 0 0 [] (fun _ hi => by cases hi) hrun
    simp [richer] at hscore
  · intro heq
    refine ⟨?_, ?_⟩
    · intro p u gold now now' play hplay h
      obtain ⟨q, hq, h⟩ := Steps.exec_cons_some h
      rw [Steps.exec_append, Option.bind_eq_some_iff] at h
      obtain ⟨r, hr, h⟩ := h
      obtain ⟨hsite, -, hun⟩ := eq_sitDown hedu hq
      obtain ⟨-, -, hs⟩ := run_kept hedu play q hun hr
      obtain ⟨u', hu', h⟩ := Steps.exec_cons_some h
      obtain rfl := Option.some.inj h
      obtain ⟨t, -, rfl⟩ := eq_standUp hu'
      dsimp only
      rw [if_pos heq]
      exact (hs hplay).trans hsite
    · intro p u gold now is h
      obtain ⟨q, hq, h⟩ := Steps.exec_cons_some h
      obtain ⟨-, hv, hun⟩ := eq_sitDown hedu hq
      exact (run_kept hedu is q hun h).1.trans hv

/-- A server of the type and with a practice score of 100000. -/
def server (serverType : Nat) : Config where
  nodeID := 1
  serverType := serverType
  serviceScore := 0
  cannonMultiple := ⟨1, 100⟩
  tryScore := 100000
  immediateWriteScore := true

theorem unharmed_iff_educate_alone : Unharmed (server genreEducate) :=
  (unharmed_iff_educate (server genreEducate) (by decide)).2 rfl

/-- A practice server of gold. -/
theorem not_unharmed_gold : ¬∀ cfg : Config, cfg.serverType &&& genreEducate ≠ 0 → Unharmed cfg := by
  intro h
  have hscore :=
    (h (server (genreEducate ||| genreGold)) (by decide)).score (richer (server (genreEducate ||| genreGold))) _ 0 0 0 []
    (fun _ hi => by cases hi) rfl
  exact absurd hscore (by decide)

end SasyServer.Practice
