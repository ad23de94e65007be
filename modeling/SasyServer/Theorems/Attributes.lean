import SasyServer.Sui.Attributes
import SasyServer.Theorems.Variation

/-!
# Theorem: what is set of a user item is read

Both chains name every member, and name it alike, so that an attribute is read as it was set and no other is changed. The
table of the variation is made in a chain of its own, in which one field is missing: `loveliness` is set and never read. At
the end, the smaller record that the functions for scores are modelled with is set to the same by both.
-/

namespace SasyServer.ServerUserItem

open Sui (Field VariationInfo)

/-! ## Names -/

/-- The name of an attribute is that of its member. -/
def Flag.name : Flag → String
  | .isModified => "isModified"
  | .isAndroid => "isAndroid"
  | .isClientReady => "isClientReady"

def Text.name : Text → String
  | .ipAddr => "ipAddr"
  | .machineID => "machineID"
  | .nickName => "nickName"
  | .signature => "signature"
  | .platformFace => "platformFace"

/-- The name of the member in the source. -/
def Number.name : Number → String
  | .grade => "grade"
  | .trusteeScore => "trusteeScore"
  | .frozenedScore => "frozenedScore"
  | .deskPos => "deskPos"
  | .kindID => "kindID"
  | .nodeID => "nodeID"
  | .serverID => "serverID"
  | .tableID => "tableID"
  | .chairID => "chairID"
  | .userStatus => "userStatus"
  | .restrictScore => "restrictScore"
  | .enListStatus => "enListStatus"
  | .agent => "agent"
  | .deskCount => "deskCount"
  | .userRule => "userRule"
  | .mobileUserRule => "mobileUserRule"
  | .logonTime => "logonTime"
  | .inoutIndex => "inoutIndex"
  | .userID => "userID"
  | .gameID => "gameID"
  | .platformID => "platformID"
  | .gender => "gender"
  | .faceID => "faceID"
  | .userRight => "userRight"
  | .masterRight => "masterRight"
  | .memberOrder => "memberOrder"
  | .masterOrder => "masterOrder"
  | .siteDownScore => "siteDownScore"
  | .score => "score"
  | .insure => "insure"
  | .present => "present"
  | .loveliness => "loveliness"
  | .medal => "medal"
  | .gift => "gift"
  | .experience => "experience"
  | .winCount => "winCount"
  | .lostCount => "lostCount"
  | .drawCount => "drawCount"
  | .fleeCount => "fleeCount"
  | .contribution => "contribution"
  | .dbStatus => "dbStatus"

def Member.name : Member → String
  | .flag m => m.name
  | .variationInfo => "variationInfo"
  | .number m => m.name
  | .text m => m.name

/-- The name of a field of the variation. -/
def fieldName : Field → String
  | .revenue => "revenue"
  | .score => "score"
  | .insure => "insure"
  | .grade => "grade"
  | .medal => "medal"
  | .gift => "gift"
  | .present => "present"
  | .experience => "experience"
  | .loveliness => "loveliness"
  | .playTimeCount => "playTimeCount"
  | .winCount => "winCount"
  | .lostCount => "lostCount"
  | .drawCount => "drawCount"
  | .fleeCount => "fleeCount"

/-! ## The chains -/

/-- The chain of `testSet` has every member. -/
theorem mem_setChain (m : Member) : m ∈ setChain.map Prod.snd := by
  cases m with
  | flag m => cases m <;> decide
  | variationInfo => decide
  | number m => cases m <;> decide
  | text m => cases m <;> decide

theorem lookup_setChain (m : Member) : setChain.lookup m.name = some m := by
  have hall : ∀ m ∈ setChain.map Prod.snd, setChain.lookup m.name = some m := by decide +kernel
  exact hall m (mem_setChain m)

/-- The chain of `testGet` has every member, under the name of the other chain, and pushes that name. -/
theorem lookup_getChain (m : Member) : getChain.lookup m.name = some (m.name, m) := by
  have hall : ∀ m ∈ setChain.map Prod.snd, getChain.lookup m.name = some (m.name, m) := by decide +kernel
  exact hall m (mem_setChain m)

theorem name_of_lookup_setChain {k : String} {m : Member} (h : setChain.lookup k = some m) : k = m.name := by
  have hall : ∀ e ∈ setChain, e.1 = e.2.name := by decide +kernel
  obtain ⟨l₁, l₂, hl, -⟩ := List.lookup_eq_some_iff.1 h
  exact hall (k, m) (by rw [hl]; exact List.mem_append_right _ List.mem_cons_self)

theorem name_of_lookup_getChain {k name : String} {m : Member} (h : getChain.lookup k = some (name, m)) : k = m.name ∧
    name = m.name := by
  have hall : ∀ e ∈ getChain, e.1 = e.2.2.name ∧ e.2.1 = e.2.2.name := by decide +kernel
  obtain ⟨l₁, l₂, hl, -⟩ := List.lookup_eq_some_iff.1 h
  exact hall (k, name, m) (by rw [hl]; exact List.mem_append_right _ List.mem_cons_self)

/-- Two members have two names. -/
theorem Member.name_injective {m m' : Member} (h : m.name = m'.name) : m = m' := by
  have hlookup := lookup_setChain m
  rw [h, lookup_setChain m'] at hlookup
  exact (Option.some.inj hlookup).symm

/-! ## The variation -/

theorem fieldName_injective {f g : Field} (h : fieldName f = fieldName g) : f = g := by
  have hall : ∀ f ∈ Field.all, ∀ g ∈ Field.all, fieldName f = fieldName g → f = g := by decide +kernel
  exact hall f f.mem_all g g.mem_all h

/-- A chain of comparisons with the names of fields. -/
def setFirst (v : VariationInfo) (k : String) (n : Int) : List Field → VariationInfo
  | [] => v
  | f :: fs => if k = fieldName f then v.put n f else setFirst v k n fs

/-- The loop over the members writes the one with the name, and stops. -/
theorem get_setFirst (v : VariationInfo) (k : String) (n : Int) (fs : List Field) (f : Field) :
    (setFirst v k n fs).get f = if k = fieldName f ∧ f ∈ fs then n else v.get f := by
  induction fs with
  | nil =>
    rw [if_neg (by simp)]
    rfl
  | cons g fs ih =>
    rw [setFirst]
    by_cases hk : k = fieldName g
    · subst hk
      rw [if_pos rfl, VariationInfo.get_put]
      refine if_congr ⟨?_, fun h => fieldName_injective h.1⟩ rfl rfl
      rintro rfl
      exact ⟨rfl, List.mem_cons_self⟩
    · rw [if_neg hk, ih]
      refine if_congr (and_congr_right fun hf => ?_) rfl rfl
      rw [List.mem_cons, or_iff_right]
      rintro rfl
      exact hk hf

/-- The loop of `testSet` over a variation sets the field of the name, and no other. -/
theorem get_set (v : VariationInfo) (k : String) (n : Int) (f : Field) :
    (v.set k n).get f = if k = fieldName f then n else v.get f := by
  have hset : v.set k n = setFirst v k n Field.all := rfl
  rw [hset, get_setFirst]
  exact if_congr (and_iff_left f.mem_all) rfl rfl

/-- A whole table for the variation: the fields it gives are set, and the others are as they were. -/
theorem get_setAll {t : List (Sigma fun _ : String => Int)} (ht : t.NodupKeys) (v : VariationInfo) (f : Field) :
    (t.foldl (fun w e => w.set e.1 e.2) v).get f = (t.dlookup (fieldName f)).getD (v.get f) := by
  induction t generalizing v with
  | nil => rfl
  | cons e t ih =>
    obtain ⟨k, n⟩ := e
    rw [List.nodupKeys_cons] at ht
    rw [List.foldl_cons, ih ht.2, get_set]
    by_cases hk : k = fieldName f
    · subst hk
      rw [if_pos rfl, List.dlookup_cons_eq, List.dlookup_eq_none.2 ht.1]
      rfl
    · rw [if_neg hk, List.dlookup_cons_ne _ _ (Ne.symm hk)]

/-- The table that is read of a variation has every field but one. -/
theorem lookup_pushVariationInfo (v : VariationInfo) (f : Field) :
    (pushVariationInfo v).lookup (fieldName f) = if f = .loveliness then none else some (v.get f) := by
  rw [pushVariationInfo, AList.lookup_to_alist]
  cases f <;> rfl

/-! ## What is looked at -/

/-- An attribute other than the variation, or a field of the variation. -/
inductive Target where
  | flag (m : Flag)
  | number (m : Number)
  | text (m : Text)
  | variation (f : Field)
  deriving DecidableEq, Repr

/-- The member it is in. -/
def Target.member : Target → Member
  | .flag m => .flag m
  | .number m => .number m
  | .text m => .text m
  | .variation _ => .variationInfo

/-- What the record has of it. -/
def UserInfo.held (p : UserInfo) : Target → LuaValue
  | .flag m => .boolean (p.flag m)
  | .number m => .integer (p.number m)
  | .text m => .string (p.text m).string
  | .variation f => .integer (p.variationInfo.get f)

/-- A field of a table. -/
def LuaValue.field (k : String) : LuaValue → Option LuaValue
  | .table t => (t.lookup k).map .integer
  | _ => none

/-- What the value of an attribute gives of it. -/
def Target.part : Target → LuaValue → Option LuaValue
  | .variation f, v => v.field (fieldName f)
  | _, v => some v

theorem part_variation (f : Field) (t : AList fun _ : String => Int) :
    (Target.variation f).part (.table t) = (t.lookup (fieldName f)).map .integer := rfl

/-- What a table of attributes gives of it. -/
def Target.valueIn (t : AList fun _ : String => LuaValue) (x : Target) : Option LuaValue :=
  (t.lookup x.member.name).bind x.part

/-- A value inside the range of the member: a boolean, an integer of the width, a string without NUL that is shorter than the
array, or a table of integers. -/
def Member.Fits : Member → LuaValue → Prop
  | .flag _, .boolean _ => True
  | .variationInfo, .table t => ∀ e ∈ t.entries, IntType.int64.bounds.1 ≤ e.2 ∧ e.2 < IntType.int64.bounds.2
  | .number m, .integer n => m.type.bounds.1 ≤ n ∧ n < m.type.bounds.2
  | .text m, .string s => (∀ b ∈ s, b ≠ 0) ∧ s.length < m.size
  | _, _ => False

/-! ## One attribute -/

/-- A number in the range of a type is not changed by the conversion. -/
theorem convert_of_bounds (t : IntType) {n : Int} (h1 : t.bounds.1 ≤ n) (h2 : n < t.bounds.2) : t.convert n = n := by
  cases t with
  | int64 => rfl
  | int32 => exact Int.bmod_eq_of_le (by simpa [IntType.bounds] using h1) (by simpa [IntType.bounds] using h2)
  | uint32 => exact Int.emod_eq_of_lt h1 h2
  | uint16 => exact Int.emod_eq_of_lt h1 h2
  | uint8 => exact Int.emod_eq_of_lt h1 h2

theorem takeWhile_of_no_nul {s : List UInt8} (h : ∀ b ∈ s, b ≠ 0) (rest : List UInt8) :
    (s ++ 0 :: rest).takeWhile (· ≠ 0) = s := by
  rw [List.takeWhile_append_of_pos (by simpa using h), List.takeWhile_cons_of_neg (by simp), List.append_nil]

/-- What is copied into an array is read of it. -/
theorem string_strcpy {n : Nat} (a : CharArray n) {s : List UInt8} (h : s.length < n)
    (hs : ∀ b ∈ s, b ≠ 0) : (a.strcpy s h).string = s :=
  takeWhile_of_no_nul hs _

/-- A value inside the range is written, and nothing else of the record changes. -/
theorem write_spec (p : UserInfo) {m : Member} {v : LuaValue} (hfits : m.Fits v) :
    ∃ p', p.write v m = some p' ∧ p'.isInit = p.isInit ∧
      ∀ x : Target, p'.held x = if x.member = m then (x.part v).getD (p.held x) else p.held x := by
  cases m with
  | flag m =>
    cases v with
    | boolean b =>
      refine ⟨_, rfl, rfl, fun x => ?_⟩
      cases x with
      | flag m' =>
        by_cases hm : m' = m
        · subst hm
          rw [if_pos (by rfl)]
          exact congrArg LuaValue.boolean (Function.update_self ..)
        · rw [if_neg (by simpa [Target.member] using hm)]
          exact congrArg LuaValue.boolean (Function.update_of_ne hm ..)
      | number | text | variation => exact (if_neg (by simp [Target.member])).symm
    | integer | string | table => exact hfits.elim
  | variationInfo =>
    cases v with
    | table t =>
      refine ⟨_, rfl, rfl, fun x => ?_⟩
      cases x with
      | variation f =>
        rw [if_pos (by rfl)]
        refine (congrArg LuaValue.integer (get_setAll t.nodupKeys p.variationInfo f)).trans ?_
        rw [part_variation, AList.lookup]
        cases t.entries.dlookup (fieldName f) with
        | none => rfl
        | some n => rfl
      | flag | number | text => exact (if_neg (by simp [Target.member])).symm
    | boolean | integer | string => exact hfits.elim
  | number m =>
    cases v with
    | integer n =>
      refine ⟨_, rfl, rfl, fun x => ?_⟩
      cases x with
      | number m' =>
        by_cases hm : m' = m
        · subst hm
          rw [if_pos (by rfl)]
          exact congrArg LuaValue.integer ((Function.update_self ..).trans (convert_of_bounds _ hfits.1 hfits.2))
        · rw [if_neg (by simpa [Target.member] using hm)]
          exact congrArg LuaValue.integer (Function.update_of_ne hm ..)
      | flag | text | variation => exact (if_neg (by simp [Target.member])).symm
    | boolean | string | table => exact hfits.elim
  | text m =>
    cases v with
    | string s =>
      obtain ⟨hs, hlen⟩ := hfits
      have hread : s.takeWhile (· ≠ 0) = s := by
        rw [← List.append_nil s, List.takeWhile_append_of_pos (by simpa using hs), List.takeWhile_nil]
      refine ⟨{ p with text := Function.update p.text m ((p.text m).strcpy s hlen) }, ?_, rfl, fun x => ?_⟩
      · rw [UserInfo.write, LuaValue.toString, Option.bind_some]
        simp only [hread, dif_pos hlen]
      cases x with
      | text m' =>
        by_cases hm : m' = m
        · subst hm
          rw [if_pos (by rfl)]
          exact congrArg LuaValue.string
            ((congrArg CharArray.string (Function.update_self m' _ p.text)).trans (string_strcpy _ hlen hs))
        · rw [if_neg (by simpa [Target.member] using hm)]
          exact congrArg (fun a : CharArray m'.size => LuaValue.string a.string) (Function.update_of_ne hm ..)
      | flag | number | variation => exact (if_neg (by simp [Target.member])).symm
    | boolean | integer | table => exact hfits.elim

/-! ## A whole table -/

/-- A table of attributes with all its values inside their ranges. -/
def Fitting (t : List (Sigma fun _ : String => LuaValue)) : Prop := ∀ e ∈ t, ∀ m : Member, e.1 = m.name → m.Fits e.2

/-- What `testSet` writes: the part of the value that the member takes, where there is one. -/
theorem testSet_spec (p : UserInfo) {k : String} {v : LuaValue} (hfits : ∀ m : Member, k = m.name → m.Fits v) :
    ∃ p', testSet p k v = some p' ∧ p'.isInit = p.isInit ∧
      ∀ x : Target, p'.held x = if k = x.member.name then (x.part v).getD (p.held x) else p.held x := by
  unfold testSet
  cases hm : setChain.lookup k with
  | none =>
    refine ⟨p, rfl, rfl, fun x => (if_neg ?_).symm⟩
    rintro rfl
    rw [lookup_setChain] at hm
    cases hm
  | some m =>
    obtain rfl := name_of_lookup_setChain hm
    obtain ⟨p', hp, hinit, hheld⟩ := write_spec p (hfits m rfl)
    refine ⟨p', hp, hinit, fun x => (hheld x).trans (if_congr ?_ rfl rfl)⟩
    exact ⟨fun h => congrArg Member.name h.symm, fun h => (Member.name_injective h).symm⟩

/-- The loop of `setAttribute`: what a table gives is set, and the rest is as it was. -/
theorem setLoop_spec {t : List (Sigma fun _ : String => LuaValue)} (ht : t.NodupKeys) (hfits : Fitting t) (p : UserInfo) :
    ∃ p', setLoop p t = some p' ∧ p'.isInit = p.isInit ∧
      ∀ x : Target, p'.held x = ((t.dlookup x.member.name).bind x.part).getD (p.held x) := by
  induction t generalizing p with
  | nil => exact ⟨p, rfl, rfl, fun _ => rfl⟩
  | cons e t ih =>
    obtain ⟨k, v⟩ := e
    rw [List.nodupKeys_cons] at ht
    obtain ⟨q, hq, hinit, hheld⟩ := testSet_spec p (hfits ⟨k, v⟩ List.mem_cons_self)
    obtain ⟨p', hp, hinit', hheld'⟩ := ih ht.2 (fun e he => hfits e (List.mem_cons_of_mem _ he)) q
    refine ⟨p', ?_, hinit'.trans hinit, fun x => ?_⟩
    · rw [setLoop, hq, Option.bind_some, hp]
    · rw [hheld' x, hheld x]
      by_cases hk : k = x.member.name
      · subst hk
        rw [if_pos rfl, List.dlookup_cons_eq, List.dlookup_eq_none.2 ht.1]
        rfl
      · rw [if_neg hk, List.dlookup_cons_ne _ _ (Ne.symm hk)]

/-- The table that is returned has every member whose name is asked for. -/
theorem lookup_getLoop (p : UserInfo) (names : List String) (r : AList fun _ : String => LuaValue) (m : Member) :
    (names.foldl (fun r k => testGet p k r) r).lookup m.name = if m.name ∈ names then some (p.push m)
      else r.lookup m.name := by
  induction names generalizing r with
  | nil => rfl
  | cons k names ih =>
    have hone : (testGet p k r).lookup m.name = if k = m.name then some (p.push m) else r.lookup m.name := by
      unfold testGet
      cases hk : getChain.lookup k with
      | none =>
        refine (if_neg ?_).symm
        rintro rfl
        rw [lookup_getChain] at hk
        cases hk
      | some e =>
        obtain ⟨name, m'⟩ := e
        obtain ⟨rfl, rfl⟩ := name_of_lookup_getChain hk
        by_cases hm : m'.name = m.name
        · obtain rfl := Member.name_injective hm
          rw [if_pos rfl]
          exact AList.lookup_insert r
        · rw [if_neg hm]
          exact AList.lookup_insert_ne (Ne.symm hm)
    rw [List.foldl_cons, ih, hone]
    by_cases hmem : m.name ∈ names
    · rw [if_pos hmem, if_pos (List.mem_cons_of_mem _ hmem)]
    · rw [if_neg hmem]
      refine if_congr ?_ rfl rfl
      rw [List.mem_cons, or_iff_left hmem, eq_comm]

/-- What is pushed of a member: all the record has of it, but for one field of the variation. -/
theorem part_push (p : UserInfo) (x : Target) :
    x.part (p.push x.member) = if x = .variation .loveliness then none else some (p.held x) := by
  cases x with
  | flag | number | text => rfl
  | variation f =>
    refine (congrArg (Option.map LuaValue.integer) (lookup_pushVariationInfo p.variationInfo f)).trans ?_
    by_cases hf : f = .loveliness
    · rw [if_pos hf, if_pos (congrArg Target.variation hf)]
      rfl
    · rw [if_neg hf, if_neg fun h => hf (Target.variation.inj h)]
      rfl

/-- An initialized item, a table of attributes with values inside the ranges of their members, and the names to be read: an
attribute, or a field of the variation, that is read has the value that the table gives, and otherwise the one it had, if and
only if it is not the field `loveliness` of the variation. -/
theorem getAttribute_setAttribute_iff (p : UserInfo) (hinit : p.isInit = true) (t : AList fun _ : String => LuaValue)
    (hfits : Fitting t.entries) (names : List String) (x : Target) (hx : x.member.name ∈ names) :
    ∃ p' r, setAttribute (some p) t = .ok (some p') ∧ getAttribute (some p') names = .ok r ∧
      (x.valueIn r = some ((x.valueIn t).getD (p.held x)) ↔ x ≠ .variation .loveliness) := by
  obtain ⟨p', hp, hinit', hheld⟩ := setLoop_spec t.nodupKeys hfits p
  refine ⟨p', names.foldl (fun r k => testGet p' k r) ∅, ?_, ?_, ?_⟩
  · rw [setAttribute, checkItem, if_pos hinit]
    exact congrArg Except.ok hp
  · rw [getAttribute, checkItem, if_pos (hinit'.trans hinit)]
    rfl
  · rw [Target.valueIn, lookup_getLoop, if_pos hx, Option.bind_some, part_push, hheld x]
    by_cases hl : x = .variation .loveliness
    · rw [if_pos hl]
      exact iff_of_false (by simp) fun h => h hl
    · rw [if_neg hl]
      exact iff_of_true rfl hl

theorem Fitting.cons {t : List (Sigma fun _ : String => LuaValue)} (ht : Fitting t) (m : Member) {v : LuaValue}
    (hv : m.Fits v) :
    Fitting (⟨m.name, v⟩ :: t) := by
  intro e he m' hm'
  rcases List.mem_cons.1 he with rfl | he
  · exact Member.name_injective hm' ▸ hv
  · exact ht e he m' hm'

/-- The table `{chairID = 3, variationInfo = {loveliness = 5}}`. -/
def lovely : AList fun _ : String => LuaValue :=
  (∅ : AList fun _ : String => LuaValue).insert "variationInfo"
    (.table ((∅ : AList fun _ : String => Int).insert "loveliness" 5))
    |>.insert "chairID" (.integer 3)

theorem fitting_lovely : Fitting lovely.entries := by
  have hnil : Fitting [] := fun e he => by cases he
  have hvariation : Member.variationInfo.Fits (.table ((∅ : AList fun _ : String => Int).insert "loveliness" 5)) := by
    intro e he
    rcases List.mem_singleton.1 he with rfl
    exact ⟨by decide, by decide⟩
  exact (hnil.cons .variationInfo hvariation).cons (.number .chairID) ⟨by decide, by decide⟩

/-- The chair that is set is read. -/
theorem getAttribute_setAttribute_chair :
    ∃ p' r, setAttribute (some { UserInfo.new with isInit := true }) lovely = .ok (some p') ∧
      getAttribute (some p') ["variationInfo", "chairID"] = .ok r ∧
        Target.valueIn r (.number .chairID) = some (.integer 3) := by
  obtain ⟨p', r, hset, hget, hiff⟩ :=
    getAttribute_setAttribute_iff { UserInfo.new with isInit := true } rfl lovely fitting_lovely ["variationInfo", "chairID"]
      (.number .chairID)
      (by decide)
  exact ⟨p', r, hset, hget, hiff.2 (by decide)⟩

/-- The field `loveliness` of the variation that is set is not read. -/
theorem loveliness_not_read :
    ¬∀ (p : UserInfo), p.isInit = true → ∀ t : AList fun _ : String => LuaValue, Fitting t.entries →
      ∀ (names : List String) (x : Target), x.member.name ∈ names →
        ∃ p' r, setAttribute (some p) t = .ok (some p') ∧ getAttribute (some p') names = .ok r ∧
          x.valueIn r = some ((x.valueIn t).getD (p.held x)) := by
  intro h
  obtain ⟨p', r, hset, hget, hvalue⟩ :=
    h { UserInfo.new with isInit := true } rfl lovely fitting_lovely ["variationInfo"] (.variation .loveliness) (by decide)
  cases hset
  cases hget
  exact absurd (congrArg Option.isSome hvalue) (by decide +kernel)

/-! ## The record of the functions that write scores -/

/-- The record of the functions that write scores: the members that they read. -/
def UserInfo.restrict (p : UserInfo) : Sui.UserInfo where
  isInit := p.isInit
  isModified := p.flag .isModified
  variationInfo := p.variationInfo
  grade := p.number .grade
  isAndroid := p.flag .isAndroid
  inoutIndex := p.number .inoutIndex
  userID := p.number .userID
  score := p.number .score
  insure := p.number .insure
  present := p.number .present
  loveliness := p.number .loveliness
  medal := p.number .medal
  gift := p.number .gift
  experience := p.number .experience
  winCount := p.number .winCount
  lostCount := p.number .lostCount
  drawCount := p.number .drawCount
  fleeCount := p.number .fleeCount

/-- The same for a value; no string is read there. -/
def LuaValue.restrict : LuaValue → Sui.LuaValue
  | .boolean b => .boolean b
  | .integer n => .integer n
  | .string _ => .integer 0
  | .table t => .table (t.entries.map fun e => (e.1, e.2))

/-- A name that is no attribute changes nothing in that record. -/
theorem suiTestSet_of_ne {k : String} (hne : ∀ m : Member, k ≠ m.name) (q : Sui.UserInfo)
    (v : Sui.LuaValue) : Sui.testSet q k v = q := by
  unfold Sui.testSet
  rw [if_neg (show k ≠ "isModified" from hne (.flag .isModified)),
    if_neg (show k ≠ "variationInfo" from hne .variationInfo),
    if_neg (show k ≠ "grade" from hne (.number .grade)),
    if_neg (show k ≠ "isAndroid" from hne (.flag .isAndroid)),
    if_neg (show k ≠ "inoutIndex" from hne (.number .inoutIndex)),
    if_neg (show k ≠ "userID" from hne (.number .userID)),
    if_neg (show k ≠ "score" from hne (.number .score)),
    if_neg (show k ≠ "insure" from hne (.number .insure)),
    if_neg (show k ≠ "present" from hne (.number .present)),
    if_neg (show k ≠ "loveliness" from hne (.number .loveliness)),
    if_neg (show k ≠ "medal" from hne (.number .medal)),
    if_neg (show k ≠ "gift" from hne (.number .gift)),
    if_neg (show k ≠ "experience" from hne (.number .experience)),
    if_neg (show k ≠ "winCount" from hne (.number .winCount)),
    if_neg (show k ≠ "lostCount" from hne (.number .lostCount)),
    if_neg (show k ≠ "drawCount" from hne (.number .drawCount)),
    if_neg (show k ≠ "fleeCount" from hne (.number .fleeCount))]

/-- `testSet` does the same to both records. -/
theorem restrict_testSet {p p' : UserInfo} {k : String} {v : LuaValue} (h : testSet p k v = some p') :
    Sui.testSet p.restrict k v.restrict = p'.restrict := by
  unfold testSet at h
  cases hm : setChain.lookup k with
  | none =>
    rw [hm] at h
    cases h
    have hne : ∀ m : Member, k ≠ m.name := by
      rintro m rfl
      rw [lookup_setChain] at hm
      cases hm
    exact suiTestSet_of_ne hne p.restrict v.restrict
  | some m =>
    rw [hm] at h
    obtain rfl := name_of_lookup_setChain hm
    cases m with
    | flag m =>
      cases h
      cases v <;> cases m <;> rfl
    | variationInfo =>
      cases v with
      | table t =>
        cases h
        exact congrArg (fun w => { p.restrict with variationInfo := w }) (List.foldl_map ..)
      | boolean | integer | string => cases h
    | number m =>
      cases v with
      | integer n =>
        cases h
        cases m <;> rfl
      | boolean | string | table => cases h
    | text m =>
      cases v with
      | string s =>
        change p.write (.string s) (.text m) = some p' at h
        rw [UserInfo.write, Option.bind_eq_some_iff] at h
        obtain ⟨bytes, -, h⟩ := h
        split_ifs at h
        cases h
        cases m <;> rfl
      | boolean | integer | table => cases h

/-- A table for it. -/
def restrictTable (t : List (Sigma fun _ : String => LuaValue)) : List (String × Sui.LuaValue) :=
  t.map fun e => (e.1, e.2.restrict)

/-- A whole table does the same to both. -/
theorem restrict_setLoop {p p' : UserInfo} {t : List (Sigma fun _ : String => LuaValue)} (h : setLoop p t = some p') :
    (restrictTable t).foldl (fun p e => Sui.testSet p e.1 e.2) p.restrict = p'.restrict := by
  induction t generalizing p with
  | nil =>
    cases h
    rfl
  | cons e t ih =>
    obtain ⟨q, hq, h⟩ := Option.bind_eq_some_iff.1 h
    rw [restrictTable, List.map_cons, List.foldl_cons, restrict_testSet hq]
    exact ih h

/-- An item that is initialized is, for the functions that write scores, the record that these start from. -/
theorem restrict_lInitialize {p p' : UserInfo} {userInfo userInfoPlus : AList fun _ : String => LuaValue}
    (h : lInitialize (some p) userInfo userInfoPlus = .ok (some p')) :
    Sui.lInitialize p.restrict (restrictTable userInfo.entries) (restrictTable userInfoPlus.entries) = some p'.restrict := by
  unfold lInitialize at h
  simp only at h
  split_ifs at h with hinit
  obtain ⟨q, hq, hp⟩ := Option.bind_eq_some_iff.1 (Except.ok.inj h)
  rw [Sui.lInitialize, if_neg (show ¬p.restrict.isInit = true from hinit), List.foldl_append]
  have hfirst := restrict_setLoop hq
  have hsecond := restrict_setLoop hp
  rw [← hfirst] at hsecond
  exact congrArg some hsecond

end SasyServer.ServerUserItem
