import Mathlib.Algebra.Ring.Int.Defs
import SasyServer.Sui.UserInfo

/-!
# The variation of a user record

Every field of `VariationInfo` is a ledger of its own: what `writeUserScore` adds to it is taken out by `distillVariation`
once, and, but for the revenue and the playing time, is added to the attribute of the same name as well.
-/

namespace SasyServer.Sui

/-- The fields of `VariationInfo`. -/
inductive Field where
  | revenue | score | insure | grade | medal | gift | present | experience | loveliness | playTimeCount
  | winCount | lostCount | drawCount | fleeCount
  deriving DecidableEq, Repr

/-- A field of the variation. -/
def VariationInfo.get (v : VariationInfo) : Field → Int
  | .revenue => v.revenue
  | .score => v.score
  | .insure => v.insure
  | .grade => v.grade
  | .medal => v.medal
  | .gift => v.gift
  | .present => v.present
  | .experience => v.experience
  | .loveliness => v.loveliness
  | .playTimeCount => v.playTimeCount
  | .winCount => v.winCount
  | .lostCount => v.lostCount
  | .drawCount => v.drawCount
  | .fleeCount => v.fleeCount

/-- The attribute of the record with the name of a field. -/
def UserInfo.attribute (p : UserInfo) : Field → Option Int
  | .revenue | .playTimeCount => none
  | .score => some p.score
  | .insure => some p.insure
  | .grade => some p.grade
  | .medal => some p.medal
  | .gift => some p.gift
  | .present => some p.present
  | .experience => some p.experience
  | .loveliness => some p.loveliness
  | .winCount => some p.winCount
  | .lostCount => some p.lostCount
  | .drawCount => some p.drawCount
  | .fleeCount => some p.fleeCount

/-- The key under which a table of scores names a field. -/
def Field.key : Field → Option String
  | .revenue => some "revenue"
  | .score => some "score"
  | .insure => some "insure"
  | .grade => some "grade"
  | .medal => some "medal"
  | .gift => some "gift"
  | .present => some "present"
  | .experience => some "experience"
  | .loveliness => some "loveliness"
  | _ => none

/-- The type of a game that counts for a field. -/
def Field.gameType : Field → Option Int
  | .winCount => some 1
  | .lostCount => some 2
  | .drawCount => some 3
  | .fleeCount => some 4
  | _ => none

/-- What an entry of a table of scores writes to a field. -/
def entryDelta (f : Field) (e : String × Int) : Int := if f.key = some e.1 then e.2 else 0

/-- What the type of a game writes to a field. -/
def typeDelta (f : Field) (t : Int) : Int := if f.gameType = some t then 1 else 0

/-- What the playing time writes to a field. -/
def timeDelta (f : Field) (gamePlayTime : Int) : Int := if f = .playTimeCount then gamePlayTime else 0

/-- What a call writes to a field of the record of a user who is not an android. -/
def delta (f : Field) : Call → Int
  | .writeUserScore scores type gamePlayTime =>
    timeDelta f gamePlayTime + typeDelta f (toInt type) + (scores.map (entryDelta f)).sum
  | .distillVariation => 0

/-- What a call takes out of a field for the database. -/
def distilled (f : Field) (p : UserInfo) : Call → Int
  | .writeUserScore .. => 0
  | .distillVariation =>
    match distillVariation p with
    | some (some d, _) => d.variationInfo.get f
    | _ => 0

/-- A record as `insertUserItem` and `registerUser` make it: a record that is reset, initialized with tables that
do not give a variation. -/
def Registered (p : UserInfo) : Prop :=
  ∃ userInfo userInfoPlus : List (String × LuaValue), (∀ e ∈ userInfo ++ userInfoPlus, e.1 ≠ "variationInfo") ∧
    lInitialize UserInfo.reset userInfo userInfoPlus = some p

@[simp] theorem VariationInfo.get_zero (f : Field) : VariationInfo.zero.get f = 0 := by
  cases f <;> rfl

/-- `q` has the variation of `p`, and is initialized when `p` is. -/
def SameVariation (p q : UserInfo) : Prop := q.variationInfo = p.variationInfo ∧ q.isInit = p.isInit

/-- Only the key `variationInfo` sets the variation, and no key sets `isInit`. -/
theorem testSet_sameVariation {k : String} (h : k ≠ "variationInfo") (p : UserInfo) (v : LuaValue) :
    SameVariation p (testSet p k v) := by
  unfold testSet
  refine iteInduction (motive := SameVariation p) (fun _ => ⟨rfl, rfl⟩) fun _ => ?_
  rw [if_neg h]
  iterate 15 refine iteInduction (motive := SameVariation p) (fun _ => ⟨rfl, rfl⟩) fun _ => ?_
  exact ⟨rfl, rfl⟩

/-- A registered record is initialized, and nothing of it waits to be taken out. -/
theorem Registered.start {p : UserInfo} (h : Registered p) : p.isInit = true ∧ p.variationInfo = VariationInfo.zero := by
  obtain ⟨userInfo, userInfoPlus, hkey, hp⟩ := h
  have hloop : ∀ (entries : List (String × LuaValue)) (q : UserInfo), (∀ e ∈ entries, e.1 ≠ "variationInfo") →
      SameVariation q (entries.foldl (fun p e => testSet p e.1 e.2) q) := by
    intro entries
    induction entries with
    | nil => exact fun q _ => ⟨rfl, rfl⟩
    | cons e entries ih =>
      intro q hk
      have hset := testSet_sameVariation (hk e List.mem_cons_self) q e.2
      have hrest := ih (testSet q e.1 e.2) fun x hx => hk x (List.mem_cons_of_mem _ hx)
      exact ⟨hrest.1.trans hset.1, hrest.2.trans hset.2⟩
  rw [lInitialize, if_neg (by decide), Option.some.injEq] at hp
  have hall := hloop (userInfo ++ userInfoPlus) { UserInfo.reset with isInit := true } hkey
  rw [hp] at hall
  exact ⟨hall.2, hall.1⟩

/-! ## What one call adds -/

/-- `q` is `p` with the amounts `d` added to the variation and to the attributes. -/
structure Adds (d : Field → Int) (p q : UserInfo) : Prop where
  variation : ∀ f, q.variationInfo.get f = p.variationInfo.get f + d f
  attributes : ∀ f, q.attribute f = (p.attribute f).map (· + d f)
  isInit : q.isInit = p.isInit
  isAndroid : q.isAndroid = p.isAndroid

/-- One after the other. -/
theorem Adds.trans {d e : Field → Int} {p q r : UserInfo} (h : Adds d p q) (h' : Adds e q r) :
    Adds (fun f => d f + e f) p r := by
  refine ⟨?_, ?_, h'.isInit.trans h.isInit, h'.isAndroid.trans h.isAndroid⟩
  · intro f
    rw [h'.variation, h.variation, add_assoc]
  · intro f
    rw [h'.attributes, h.attributes, Option.map_map]
    congr 1
    funext x
    exact add_assoc x (d f) (e f)

/-- Adding nothing. -/
theorem Adds.same {d : Field → Int} (p : UserInfo) (hd : ∀ f, d f = 0) : Adds d p p := by
  refine ⟨?_, ?_, rfl, rfl⟩
  · intro f
    rw [hd, add_zero]
  · intro f
    simp only [hd, add_zero, Option.map_id']

theorem Adds.congr {d e : Field → Int} {p q : UserInfo} (h : Adds d p q) (hd : ∀ f, d f = e f) : Adds e p q := by
  obtain rfl : d = e := funext hd
  exact h

/-- A sum of two `int64_t` that does not overflow is the sum. -/
theorem addInt64_eq {a b c : Int} (h : addInt64 a b = some c) : c = a + b := by
  unfold addInt64 at h
  split at h
  · exact (Option.some.inj h).symm
  · nomatch h

/-- A write to a field and to the attribute of its name. -/
theorem addBoth_eq {a b n : Int} {g : Int → Int → UserInfo} {q : UserInfo}
    (h : ((addInt64 a n).bind fun r => (addInt64 b n).bind fun t => some (g r t)) = some q) : q = g (a + n) (b + n) := by
  obtain ⟨r, hr, h⟩ := Option.bind_eq_some_iff.1 h
  obtain ⟨t, ht, h⟩ := Option.bind_eq_some_iff.1 h
  rw [← addInt64_eq hr, ← addInt64_eq ht]
  exact (Option.some.inj h).symm

/-! ### A field with the attribute of its name -/

/-- All the fields. -/
def Field.all : List Field :=
  [.revenue, .score, .insure, .grade, .medal, .gift, .present, .experience, .loveliness, .playTimeCount, .winCount,
    .lostCount, .drawCount, .fleeCount]

theorem Field.mem_all (f : Field) : f ∈ Field.all := by
  cases f <;> decide

/-- A variation with one field changed. -/
def VariationInfo.put (v : VariationInfo) (n : Int) : Field → VariationInfo
  | .revenue => { v with revenue := n }
  | .score => { v with score := n }
  | .insure => { v with insure := n }
  | .grade => { v with grade := n }
  | .medal => { v with medal := n }
  | .gift => { v with gift := n }
  | .present => { v with present := n }
  | .experience => { v with experience := n }
  | .loveliness => { v with loveliness := n }
  | .playTimeCount => { v with playTimeCount := n }
  | .winCount => { v with winCount := n }
  | .lostCount => { v with lostCount := n }
  | .drawCount => { v with drawCount := n }
  | .fleeCount => { v with fleeCount := n }

theorem VariationInfo.get_put (v : VariationInfo) (n : Int) (g f : Field) :
    (v.put n g).get f = if g = f then n else v.get f := by
  cases g <;> cases f <;> rfl

/-- A record with an amount added to the attribute of the name of a field, if there is one. -/
def UserInfo.addAttribute (p : UserInfo) (n : Int) : Field → UserInfo
  | .revenue | .playTimeCount => p
  | .score => { p with score := p.score + n }
  | .insure => { p with insure := p.insure + n }
  | .grade => { p with grade := p.grade + n }
  | .medal => { p with medal := p.medal + n }
  | .gift => { p with gift := p.gift + n }
  | .present => { p with present := p.present + n }
  | .experience => { p with experience := p.experience + n }
  | .loveliness => { p with loveliness := p.loveliness + n }
  | .winCount => { p with winCount := p.winCount + n }
  | .lostCount => { p with lostCount := p.lostCount + n }
  | .drawCount => { p with drawCount := p.drawCount + n }
  | .fleeCount => { p with fleeCount := p.fleeCount + n }

/-- An amount is added to a field and to the attribute of its name. -/
def UserInfo.add (p : UserInfo) (n : Int) (g : Field) : UserInfo :=
  { p.addAttribute n g with variationInfo := p.variationInfo.put (p.variationInfo.get g + n) g }

/-- To no other field, and to no other attribute. -/
theorem UserInfo.adds_add (p : UserInfo) (n : Int) (g : Field) : Adds (fun f => if g = f then n else 0) p (p.add n g) := by
  refine ⟨fun f => ?_, fun f => ?_, by cases g <;> rfl, by cases g <;> rfl⟩
  · refine (VariationInfo.get_put _ _ g f).trans ?_
    by_cases hf : g = f
    · subst hf
      rw [if_pos rfl, if_pos rfl]
    · rw [if_neg hf, if_neg hf, add_zero]
  · by_cases hf : g = f
    · subst hf
      simp only [if_true]
      cases g <;> rfl
    · simp only [if_neg hf, add_zero, Option.map_id']
      cases g <;> cases f <;> first | rfl | exact absurd rfl hf

/-- A branch that writes to a field and to the attribute of its name. -/
theorem Adds.of_add {d : Field → Int} {p q : UserInfo} {n : Int} (g : Field) (hq : q = p.add n g)
    (hd : ∀ f, (if g = f then n else 0) = d f) : Adds d p q :=
  hq ▸ (p.adds_add n g).congr hd

/-- The entry of a key is for its field alone. -/
theorem entryDelta_of_key {g : Field} {k : String} (hk : g.key = some k) (n : Int) (f : Field) :
    (if g = f then n else 0) = entryDelta f (k, n) := by
  have hall : ∀ f ∈ Field.all, ∀ g ∈ Field.all, f.key = g.key → f.key = none ∨ g = f := by decide +kernel
  refine if_congr ⟨?_, fun hf => ?_⟩ rfl rfl
  · rintro rfl
    exact hk
  · rcases hall f f.mem_all g g.mem_all (hf.trans hk.symm) with hnone | hgf
    · cases hnone.symm.trans hf
    · exact hgf

/-- The type of a game is for its field alone. -/
theorem typeDelta_of_gameType {g : Field} {t : Int} (ht : g.gameType = some t) (f : Field) :
    (if g = f then 1 else 0) = typeDelta f t := by
  have hall : ∀ f ∈ Field.all, ∀ g ∈ Field.all, f.gameType = g.gameType → f.gameType = none ∨ g = f := by decide
  refine if_congr ⟨?_, fun hf => ?_⟩ rfl rfl
  · rintro rfl
    exact ht
  · rcases hall f f.mem_all g g.mem_all (hf.trans ht.symm) with hnone | hgf
    · cases hnone.symm.trans hf
    · exact hgf

/-- An entry of the table is added to the field of its key. -/
theorem testWrite_adds {p q : UserInfo} {k : String} {n : Int} (h : testWrite p k n = some q) :
    Adds (fun f => entryDelta f (k, n)) p q := by
  unfold testWrite at h
  dsimp only [Option.bind_eq_bind] at h
  rcases ite_eq_iff.1 h with ⟨rfl, h⟩ | ⟨h0, h⟩
  · obtain ⟨r, hr, h⟩ := Option.bind_eq_some_iff.1 h
    obtain rfl := Option.some.inj h
    obtain rfl := addInt64_eq hr
    exact Adds.of_add .revenue rfl (entryDelta_of_key rfl n)
  rcases ite_eq_iff.1 h with ⟨rfl, h⟩ | ⟨h1, h⟩
  · exact Adds.of_add .score (addBoth_eq h) (entryDelta_of_key rfl n)
  rcases ite_eq_iff.1 h with ⟨rfl, h⟩ | ⟨h2, h⟩
  · exact Adds.of_add .insure (addBoth_eq h) (entryDelta_of_key rfl n)
  rcases ite_eq_iff.1 h with ⟨rfl, h⟩ | ⟨h3, h⟩
  · exact Adds.of_add .grade (addBoth_eq h) (entryDelta_of_key rfl n)
  rcases ite_eq_iff.1 h with ⟨rfl, h⟩ | ⟨h4, h⟩
  · exact Adds.of_add .medal (addBoth_eq h) (entryDelta_of_key rfl n)
  rcases ite_eq_iff.1 h with ⟨rfl, h⟩ | ⟨h5, h⟩
  · exact Adds.of_add .gift (addBoth_eq h) (entryDelta_of_key rfl n)
  rcases ite_eq_iff.1 h with ⟨rfl, h⟩ | ⟨h6, h⟩
  · exact Adds.of_add .present (addBoth_eq h) (entryDelta_of_key rfl n)
  rcases ite_eq_iff.1 h with ⟨rfl, h⟩ | ⟨h7, h⟩
  · exact Adds.of_add .experience (addBoth_eq h) (entryDelta_of_key rfl n)
  rcases ite_eq_iff.1 h with ⟨rfl, h⟩ | ⟨h8, h⟩
  · exact Adds.of_add .loveliness (addBoth_eq h) (entryDelta_of_key rfl n)
  obtain rfl := Option.some.inj h
  refine Adds.same p fun f => if_neg ?_
  cases f <;> simp only [Field.key, Option.some.injEq, reduceCtorEq, not_false_eq_true]
  all_goals exact Ne.symm ‹_›

/-- The type of the game counts once. -/
theorem countGame_adds {p q : UserInfo} {t : Int} (h : countGame p t = some q) : Adds (fun f => typeDelta f t) p q := by
  unfold countGame at h
  dsimp only [Option.bind_eq_bind] at h
  rcases ite_eq_iff.1 h with ⟨rfl, h⟩ | ⟨h1, h⟩
  · exact Adds.of_add .winCount (addBoth_eq h) (typeDelta_of_gameType rfl)
  rcases ite_eq_iff.1 h with ⟨rfl, h⟩ | ⟨h2, h⟩
  · exact Adds.of_add .lostCount (addBoth_eq h) (typeDelta_of_gameType rfl)
  rcases ite_eq_iff.1 h with ⟨rfl, h⟩ | ⟨h3, h⟩
  · exact Adds.of_add .drawCount (addBoth_eq h) (typeDelta_of_gameType rfl)
  rcases ite_eq_iff.1 h with ⟨rfl, h⟩ | ⟨h4, h⟩
  · exact Adds.of_add .fleeCount (addBoth_eq h) (typeDelta_of_gameType rfl)
  obtain rfl := Option.some.inj h
  refine Adds.same p fun f => if_neg ?_
  cases f <;> simp only [Field.gameType, Option.some.injEq, reduceCtorEq, not_false_eq_true]
  all_goals exact Ne.symm ‹_›

/-- The loop adds every entry of the table. -/
theorem writeLoop_adds {q : UserInfo} : ∀ (scores : List (String × Int)) (p : UserInfo), writeLoop p scores = some q →
    Adds (fun f => (scores.map (entryDelta f)).sum) p q := by
  intro scores
  induction scores with
  | nil =>
    intro p h
    obtain rfl := Option.some.inj h
    exact Adds.same p fun _ => rfl
  | cons e scores ih =>
    intro p h
    obtain ⟨r, hr, h⟩ := Option.bind_eq_some_iff.1 h
    exact ((testWrite_adds hr).trans (ih r h)).congr fun f => List.sum_cons.symm

/-- `writeUserScore` writes the time, counts the game and marks the record; one that is not an
android's then gets its scores. -/
theorem writeUserScore_cases {p q : UserInfo} {scores : List (String × Int)} {type gamePlayTime : Int}
    (h : writeUserScore p scores type gamePlayTime = some q) :
    ∃ r, Adds (fun f => timeDelta f gamePlayTime + typeDelta f (toInt type)) p r ∧
      ((p.isAndroid = true ∧ q = r) ∨ (p.isAndroid = false ∧ writeLoop r scores = some q)) := by
  unfold writeUserScore at h
  dsimp only [Option.bind_eq_bind] at h
  rcases ite_eq_iff.1 h with ⟨_, h⟩ | ⟨_, h⟩
  · obtain ⟨time, ht, h⟩ := Option.bind_eq_some_iff.1 h
    obtain rfl := addInt64_eq ht
    obtain ⟨r, hr, h⟩ := Option.bind_eq_some_iff.1 h
    have htime : Adds (fun f => timeDelta f gamePlayTime) p
        { p with
          variationInfo := { p.variationInfo with playTimeCount := p.variationInfo.playTimeCount + gamePlayTime } } := by
      refine Adds.of_add .playTimeCount rfl fun f => ?_
      exact if_congr eq_comm rfl rfl
    have hcount := htime.trans (countGame_adds hr)
    have hmark : Adds (fun _ => 0) r { r with isModified := true } := by
      refine ⟨fun f => (add_zero _).symm, fun f => ?_, rfl, rfl⟩
      simp only [add_zero, Option.map_id']
      cases f <;> rfl
    refine ⟨_, (hcount.trans hmark).congr fun f => add_zero _, ?_⟩
    cases ha : p.isAndroid with
    | true =>
      rw [if_pos (by simp [hcount.isAndroid, ha])] at h
      exact Or.inl ⟨rfl, (Option.some.inj h).symm⟩
    | false =>
      rw [if_neg (by simp [hcount.isAndroid, ha])] at h
      exact Or.inr ⟨rfl, h⟩
  · nomatch h

/-- A call of `writeUserScore` adds what it writes, and marks the record. -/
theorem writeUserScore_adds {p q : UserInfo} {scores : List (String × Int)} {type gamePlayTime : Int}
    (ha : p.isAndroid = false) (h : writeUserScore p scores type gamePlayTime = some q) :
    Adds (fun f => delta f (.writeUserScore scores type gamePlayTime)) p q := by
  obtain ⟨r, hcount, ⟨ht, -⟩ | ⟨-, h⟩⟩ := writeUserScore_cases h
  · rw [ha] at ht
    cases ht
  · exact (hcount.trans (writeLoop_adds scores r h)).congr fun f => rfl

/-- What a call of `writeUserScore` writes to a field of a record. An android has no scores. -/
def recordDelta (f : Field) (p : UserInfo) (scores : List (String × Int)) (type gamePlayTime : Int) : Int :=
  timeDelta f gamePlayTime + typeDelta f (toInt type) + if p.isAndroid then 0 else (scores.map (entryDelta f)).sum

/-- An android's record counts the game and its time, and leaves the scores alone. -/
theorem writeUserScore_android {p q : UserInfo} {scores : List (String × Int)} {type gamePlayTime : Int}
    (ha : p.isAndroid = true) (h : writeUserScore p scores type gamePlayTime = some q) (f : Field) :
    q.variationInfo.get f = p.variationInfo.get f + (timeDelta f gamePlayTime + typeDelta f (toInt type)) := by
  obtain ⟨r, hcount, ⟨-, rfl⟩ | ⟨hf, -⟩⟩ := writeUserScore_cases h
  · exact hcount.variation f
  · rw [ha] at hf
    cases hf

/-- A call of `writeUserScore` on any record. -/
theorem writeUserScore_variation {p q : UserInfo} {scores : List (String × Int)} {type gamePlayTime : Int}
    (h : writeUserScore p scores type gamePlayTime = some q) (f : Field) :
    q.variationInfo.get f = p.variationInfo.get f + recordDelta f p scores type gamePlayTime := by
  unfold recordDelta
  cases ha : p.isAndroid with
  | true => simpa using writeUserScore_android ha h f
  | false => simpa [delta] using (writeUserScore_adds ha h).variation f

/-- A record that is not marked gives nothing out and stays as it is. -/
theorem distillVariation_unmodified {p : UserInfo} (hi : p.isInit = true) (hm : p.isModified = false) :
    distillVariation p = some (none, p) := by
  rw [distillVariation, if_pos hi, if_neg (by simp [hm])]

/-- `distillVariation` moves the variation out, or leaves the record. -/
theorem distillVariation_moves {p q : UserInfo} (h : step p .distillVariation = some q) :
    q.isInit = p.isInit ∧ q.isAndroid = p.isAndroid ∧ (∀ f, q.attribute f = p.attribute f) ∧
      ∀ f, distilled f p .distillVariation + q.variationInfo.get f = p.variationInfo.get f := by
  by_cases hi : p.isInit = true
  · by_cases hm : p.isModified = true
    · have hd : distillVariation p = some (some ⟨p.variationInfo, p.userID, p.inoutIndex⟩,
          { p with isModified := false, variationInfo := VariationInfo.zero }) := by
        rw [distillVariation, if_pos hi, if_pos hm]
      rw [step, hd, Option.map_some, Option.some.injEq] at h
      subst h
      refine ⟨rfl, rfl, fun f => by cases f <;> rfl, fun f => ?_⟩
      simp [distilled, hd]
    · have hd := distillVariation_unmodified hi (Bool.eq_false_iff.2 hm)
      rw [step, hd, Option.map_some, Option.some.injEq] at h
      subst h
      refine ⟨rfl, rfl, fun _ => rfl, fun f => ?_⟩
      simp [distilled, hd]
  · rw [step, distillVariation, if_neg hi] at h
    cases h

/-! ## Runs -/

/-- What the calls of a run write to a field. -/
def written (f : Field) (calls : List Call) : Int := (calls.map (delta f)).sum

/-- The ledger of the calls between `p` and `q`: the attributes have grown by what was written, and what was written has been
taken out or waits in the variation. -/
structure Ledger (p q : UserInfo) (taken written : Field → Int) : Prop where
  isInit : q.isInit = p.isInit
  isAndroid : q.isAndroid = p.isAndroid
  attributes : ∀ f, q.attribute f = (p.attribute f).map (· + written f)
  variation : ∀ f, taken f + q.variationInfo.get f = p.variationInfo.get f + written f

/-- Two runs, one after the other. -/
theorem Ledger.trans {p q r : UserInfo} {taken taken' written written' : Field → Int} (h : Ledger p q taken written)
    (h' : Ledger q r taken' written') : Ledger p r (fun f => taken f + taken' f) (fun f => written f + written' f) := by
  refine ⟨h'.isInit.trans h.isInit, h'.isAndroid.trans h.isAndroid, ?_, ?_⟩
  · intro f
    rw [h'.attributes, h.attributes, Option.map_map]
    congr 1
    funext x
    exact add_assoc x (written f) (written' f)
  · intro f
    rw [add_assoc, h'.variation, ← add_assoc, h.variation, add_assoc]

/-- One call keeps the ledger. -/
theorem step_ledger {p q : UserInfo} {c : Call} (ha : p.isAndroid = false) (h : step p c = some q) :
    Ledger p q (fun f => distilled f p c) (fun f => delta f c) := by
  cases c with
  | writeUserScore scores type gamePlayTime =>
    have hadds := writeUserScore_adds ha h
    refine ⟨hadds.isInit, hadds.isAndroid, hadds.attributes, ?_⟩
    intro f
    rw [hadds.variation, distilled, zero_add]
  | distillVariation =>
    obtain ⟨hinit, handroid, hattr, hvar⟩ := distillVariation_moves h
    refine ⟨hinit, handroid, ?_, ?_⟩
    · intro f
      simp only [hattr, delta, add_zero, Option.map_id']
    · intro f
      rw [hvar, delta, add_zero]

/-- So does every run. -/
theorem run_ledger {q : UserInfo} : ∀ (calls : List Call) (p : UserInfo), p.isAndroid = false →
    Steps.exec step p calls = some q →
    Ledger p q (fun f => Steps.total step (distilled f) p calls) (fun f => written f calls) := by
  intro calls
  induction calls with
  | nil =>
    intro p _ h
    obtain rfl := Option.some.inj h
    refine ⟨rfl, rfl, ?_, ?_⟩
    · intro f
      simp only [written, List.map_nil, List.sum_nil, add_zero, Option.map_id']
    · intro f
      rw [Steps.total, zero_add]
      exact (add_zero _).symm
  | cons c calls ih =>
    intro p ha h
    obtain ⟨r, hr, h⟩ := Steps.exec_cons_some h
    have hstep := step_ledger ha hr
    have hrun := hstep.trans (ih r (hstep.isAndroid.trans ha) h)
    simpa only [Steps.total, hr, Option.elim_some, written, List.map_cons, List.sum_cons] using hrun

/-- For the record of a user who is not an android and for every sequence of calls that does not overflow a field: an
attribute is what it was at first and what was written to it, what was written to a field has been taken out or waits in the
variation, and taking out of a record that has not been modified gives nothing and changes nothing. -/
theorem variation_ledger {p q : UserInfo} {calls : List Call} (hp : Registered p) (ha : p.isAndroid = false)
    (hrun : Steps.exec step p calls = some q) :
    (∀ f, q.attribute f = (p.attribute f).map (· + written f calls)) ∧
      (∀ f, Steps.total step (distilled f) p calls + q.variationInfo.get f = written f calls) ∧
      (q.isModified = false → distillVariation q = some (none, q)) := by
  obtain ⟨hinit, hzero⟩ := hp.start
  have hledger := run_ledger calls p ha hrun
  refine ⟨hledger.attributes, ?_, distillVariation_unmodified (hledger.isInit.trans hinit)⟩
  intro f
  have hf := hledger.variation f
  rwa [hzero, VariationInfo.get_zero, zero_add] at hf

/-- A user who wins 30 of gold, with the variation taken out in between, and then loses 5. -/
theorem variation_ledger_two_games :
    ∃ p q, Registered p ∧ p.isAndroid = false ∧
      Steps.exec step p
        [.writeUserScore [("score", 30), ("revenue", 2)] 1 60, .distillVariation, .writeUserScore [("score", -5)] 2 9] =
        some q ∧
      q.attribute .score = some 125 ∧ q.variationInfo.get .score = -5 ∧
      Steps.total step (distilled .score) p
        [.writeUserScore [("score", 30), ("revenue", 2)] 1 60, .distillVariation, .writeUserScore [("score", -5)] 2 9] +
          q.variationInfo.get .score = 25 := by
  have hreg : Registered { UserInfo.reset with isInit := true, userID := 7, score := 100 } :=
    ⟨[("userID", .integer 7), ("score", .integer 100)], [], by decide, by decide⟩
  refine ⟨_, _, hreg, rfl, rfl, rfl, rfl, ?_⟩
  exact (variation_ledger hreg rfl rfl).2.1 .score

end SasyServer.Sui
