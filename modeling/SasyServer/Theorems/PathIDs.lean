import Mathlib.Data.Int.Interval
import SasyServer.Lib.Circle
import SasyServer.Path

/-!
# Theorem: which paths are handed out

`getPathID` goes round the numbers of a configuration from the one it has drawn. It comes to each of them before
it is back, so that it fails only when all are used; and since no number outside is ever used, that is when as
many are used as there are.
-/

namespace SasyServer.Path

/-- The numbers of a configuration, and that only these are used. -/
structure PathConfigItem.Ok (item : PathConfigItem) : Prop where
  le : item.min ≤ item.max
  count : item.count = item.max - item.min + 1
  used : ∀ id ∈ item.idHash, item.min ≤ id ∧ id ≤ item.max

/-- Every number of the configuration is used. -/
def PathConfigItem.Full (item : PathConfigItem) : Prop := ∀ id, item.min ≤ id → id ≤ item.max → id ∈ item.idHash

variable {item : PathConfigItem}

/-! ## What keeps the entries -/

theorem ok_init {min max : Int} (h : min ≤ max) (intervalTicks : Int) : (PathConfigItem.init min max intervalTicks).Ok :=
  ⟨h, rfl, fun id hid => absurd hid (AList.notMem_empty id)⟩

theorem PathConfigItem.Ok.reset (h : item.Ok) : (reset item).Ok :=
  ⟨h.le, h.count, fun id hid => absurd hid (AList.notMem_empty id)⟩

theorem mem_of_mem_checkPathStatus {nowTick id : Int} (hid : id ∈ (checkPathStatus item nowTick).idHash) :
    id ∈ item.idHash := by
  rw [AList.mem_keys] at hid ⊢
  exact (List.filter_sublist.map Sigma.fst).subset hid

theorem PathConfigItem.Ok.checkPathStatus (h : item.Ok) (nowTick : Int) : (checkPathStatus item nowTick).Ok :=
  ⟨h.le, h.count, fun id hid => h.used id (mem_of_mem_checkPathStatus hid)⟩

theorem PathConfigItem.Ok.insert (h : item.Ok) {id : Int} (h1 : item.min ≤ id) (h2 : id ≤ item.max) (nowTick : Int) :
    { item with idHash := item.idHash.insert id nowTick }.Ok := by
  refine ⟨h.le, h.count, fun other hother => ?_⟩
  rcases (AList.mem_insert item.idHash).1 hother with rfl | hother
  · exact ⟨h1, h2⟩
  · exact h.used other hother

/-! ## Counting the paths that are used -/

/-- As many paths are used as there are exactly when each of them is. -/
theorem isPathAllUsed_iff (h : item.Ok) : isPathAllUsed item = true ↔ item.Full := by
  have hlen : item.idHash.entries.length = item.idHash.keys.toFinset.card := by
    rw [List.toFinset_card_of_nodup item.idHash.keys_nodup, AList.keys, List.keys, List.length_map]
  have hcard : ((Finset.Icc item.min item.max).card : Int) = item.count := by
    rw [Int.card_Icc_of_le _ _ (by have := h.le; omega), h.count]
    omega
  have hsub : item.idHash.keys.toFinset ⊆ Finset.Icc item.min item.max := by
    intro id hid
    exact Finset.mem_Icc.2 (h.used id (AList.mem_keys.2 (List.mem_toFinset.1 hid)))
  unfold isPathAllUsed
  rw [decide_eq_true_iff, hlen, ← hcard, ge_iff_le, Int.ofNat_le]
  constructor
  · intro hle id h1 h2
    have heq := Finset.eq_of_subset_of_card_le hsub hle
    exact AList.mem_keys.2 (List.mem_toFinset.1 (heq ▸ Finset.mem_Icc.2 ⟨h1, h2⟩))
  · intro hfull
    refine Finset.card_le_card fun id hid => ?_
    obtain ⟨h1, h2⟩ := Finset.mem_Icc.1 hid
    exact List.mem_toFinset.2 (AList.mem_keys.1 (hfull id h1 h2))

/-! ## The loop -/

/-- One round. -/
theorem probe_succ (item : PathConfigItem) (draw : Int) (rounds : Nat) (pathID : Int) :
    probe item draw (rounds + 1) pathID =
      if Circle.next item.min item.max pathID ∉ item.idHash then some (Circle.next item.min item.max pathID)
      else if Circle.next item.min item.max pathID = draw then some (Circle.next item.min item.max pathID)
      else probe item draw rounds (Circle.next item.min item.max pathID) := rfl

/-- The loop with `m` of its rounds before it, in which it has come to used paths only: it ends within these, and unless
every path is used, at a free one. -/
theorem probe_spec (h : item.Ok) {draw : Int} (h1 : item.min ≤ draw) (h2 : draw ≤ item.max) {m : Nat} (hm : 0 < m) (n : Nat)
    (hround : ((n + m : Nat) : Int) = item.count) (hused : ∀ k ≤ n, (Circle.next item.min item.max)^[k] draw ∈ item.idHash) :
    ∃ pathID, (∀ rounds, m ≤ rounds → probe item draw rounds ((Circle.next item.min item.max)^[n] draw) = some pathID) ∧
      ((pathID = draw ∧ item.Full) ∨ (item.min ≤ pathID ∧ pathID ≤ item.max ∧ pathID ∉ item.idHash)) := by
  induction m generalizing n with
  | zero => cases hm
  | succ m ih =>
    obtain ⟨hle1, hle2⟩ := Circle.iterate_mem h1 h2 (n + 1)
    have hprobe : ∀ rounds, m + 1 ≤ rounds → ∃ rest, m ≤ rest ∧
        probe item draw rounds ((Circle.next item.min item.max)^[n] draw) =
          if (Circle.next item.min item.max)^[n + 1] draw ∉ item.idHash then
            some ((Circle.next item.min item.max)^[n + 1] draw)
          else if (Circle.next item.min item.max)^[n + 1] draw = draw then
            some ((Circle.next item.min item.max)^[n + 1] draw)
          else probe item draw rest ((Circle.next item.min item.max)^[n + 1] draw) := by
      intro rounds hr
      obtain ⟨rest, rfl⟩ := Nat.exists_eq_succ_of_ne_zero (Nat.ne_of_gt (Nat.lt_of_lt_of_le (Nat.succ_pos m) hr))
      refine ⟨rest, Nat.le_of_succ_le_succ hr, ?_⟩
      rw [Function.iterate_succ_apply', probe_succ]
    by_cases hmem : (Circle.next item.min item.max)^[n + 1] draw ∈ item.idHash
    swap
    · refine ⟨_, fun rounds hr => ?_, Or.inr ⟨hle1, hle2, hmem⟩⟩
      obtain ⟨rest, -, hrest⟩ := hprobe rounds hr
      rw [hrest, if_pos hmem]
    have hused' : ∀ k ≤ n + 1, (Circle.next item.min item.max)^[k] draw ∈ item.idHash := by
      intro k hk
      rcases Nat.lt_or_eq_of_le hk with hlt | rfl
      · exact hused k (Nat.le_of_lt_succ hlt)
      · exact hmem
    have hcount := h.count
    have hback := Circle.iterate_eq_iff h1 h2 (n := n + 1) (by omega)
    by_cases hstart : (Circle.next item.min item.max)^[n + 1] draw = draw
    · refine ⟨draw, fun rounds hr => ?_, Or.inl ⟨rfl, fun id hid1 hid2 => ?_⟩⟩
      · obtain ⟨rest, -, hrest⟩ := hprobe rounds hr
        rw [hrest, if_neg (not_not_intro hmem), if_pos hstart, hstart]
      · -- the round is over, and it has come to every path
        obtain ⟨k, hk, rfl⟩ := Circle.exists_iterate h1 h2 hid1 hid2
        have hn := hback.1 hstart
        exact hused' k (by omega)
    · have hm : 0 < m := by
        rw [hback] at hstart
        omega
      obtain ⟨pathID, hloop, hid⟩ := ih hm (n + 1) (by omega) hused'
      refine ⟨pathID, fun rounds hr => ?_, hid⟩
      obtain ⟨rest, hle, hrest⟩ := hprobe rounds hr
      rw [hrest, if_neg (not_not_intro hmem), if_neg hstart, hloop rest hle]

/-- What is found, with enough rounds: nothing when every path is used, and otherwise a free path. -/
theorem findPathID_spec (h : item.Ok) {draw : Int} (h1 : item.min ≤ draw) (h2 : draw ≤ item.max) :
    ∃ r, (∀ rounds : Nat, item.count ≤ rounds → findPathID rounds item draw = some r) ∧
      ((r = none ∧ item.Full) ∨ ∃ id, r = some id ∧ item.min ≤ id ∧ id ≤ item.max ∧ id ∉ item.idHash) := by
  unfold findPathID
  by_cases hmem : draw ∈ item.idHash
  swap
  · refine ⟨some draw, fun rounds _ => ?_, Or.inr ⟨draw, rfl, h1, h2, hmem⟩⟩
    rw [if_neg hmem]
  have hle := h.le
  have hcount := h.count
  obtain ⟨pathID, hloop, hid⟩ := probe_spec h h1 h2 (m := item.count.toNat) (by omega) 0 (by omega) (fun k hk => by
    obtain rfl := Nat.le_zero.1 hk
    exact hmem)
  refine ⟨if pathID = draw then none else some pathID, fun rounds hr => ?_, ?_⟩
  · rw [if_pos hmem, show probe item draw rounds draw = some pathID from hloop rounds (by omega), Option.map_some]
  · rcases hid with ⟨rfl, hfull⟩ | ⟨hid1, hid2, hfree⟩
    · exact Or.inl ⟨if_pos rfl, hfull⟩
    · refine Or.inr ⟨pathID, if_neg ?_, hid1, hid2, hfree⟩
      rintro rfl
      exact hfree hmem

/-- What a call of `getPathID` returns and marks. -/
theorem getPathID_spec (h : item.Ok) {draw : Int} (h1 : item.min ≤ draw) (h2 : draw ≤ item.max) (nowTick : Int) :
    ∃ r item', (∀ rounds : Nat, item.count ≤ rounds → getPathID rounds item draw nowTick = some (r, item')) ∧
      (r = none ↔ isPathAllUsed item = true) ∧ (r = none → item' = item) ∧
      ∀ id, r = some id → item.min ≤ id ∧ id ≤ item.max ∧ id ∉ item.idHash ∧
        item' = { item with idHash := item.idHash.insert id nowTick } := by
  obtain ⟨r, hfind, ⟨rfl, hfull⟩ | ⟨id, rfl, hid1, hid2, hfree⟩⟩ := findPathID_spec h h1 h2
  · refine ⟨none, item, fun rounds hr => ?_, iff_of_true rfl ((isPathAllUsed_iff h).2 hfull), fun _ => rfl,
      fun id hid => by cases hid⟩
    rw [getPathID, hfind rounds hr, Option.map_some]
  · refine ⟨some id, { item with idHash := item.idHash.insert id nowTick }, fun rounds hr => ?_,
      iff_of_false (by simp) ?_, by simp, ?_⟩
    · rw [getPathID, hfind rounds hr, Option.map_some]
    · rw [isPathAllUsed_iff h]
      exact fun hfull => hfree (hfull id hid1 hid2)
    · intro id' hid'
      obtain rfl := Option.some.inj hid'
      exact ⟨hid1, hid2, hfree, rfl⟩

/-! ## Whatever the number of rounds -/

/-- The search stays within the bounds. -/
theorem probe_mem {draw pathID r : Int} {rounds : Nat} (h1 : item.min ≤ pathID) (h2 : pathID ≤ item.max)
    (hr : probe item draw rounds pathID = some r) : item.min ≤ r ∧ r ≤ item.max := by
  induction rounds generalizing pathID with
  | zero => cases hr
  | succ rounds ih =>
    obtain ⟨hnext1, hnext2⟩ := Circle.iterate_mem h1 h2 1
    rw [probe_succ] at hr
    split_ifs at hr
    · exact Option.some.inj hr ▸ ⟨hnext1, hnext2⟩
    · exact ih hnext1 hnext2 hr
    · exact Option.some.inj hr ▸ ⟨hnext1, hnext2⟩

/-- A path that is found is one of the configuration. -/
theorem findPathID_mem {draw id : Int} {rounds : Nat} (h1 : item.min ≤ draw) (h2 : draw ≤ item.max)
    (hfind : findPathID rounds item draw = some (some id)) : item.min ≤ id ∧ id ≤ item.max := by
  unfold findPathID at hfind
  split_ifs at hfind
  · obtain ⟨pathID, hprobe, he⟩ := Option.map_eq_some_iff.1 hfind
    split_ifs at he
    exact Option.some.inj he ▸ probe_mem h1 h2 hprobe
  · cases hfind
    exact ⟨h1, h2⟩

/-- A call of `getPathID` leaves the entry, or marks the path that is found. -/
theorem getPathID_cases {rounds : Nat} {draw nowTick : Int} {r : Option Int} {item' : PathConfigItem}
    (hp : getPathID rounds item draw nowTick = some (r, item')) :
    item' = item ∨ ∃ id, findPathID rounds item draw = some (some id) ∧
      item' = { item with idHash := item.idHash.insert id nowTick } := by
  obtain ⟨found, hfind, he⟩ := Option.map_eq_some_iff.1 hp
  cases found with
  | none =>
    cases he
    exact Or.inl rfl
  | some id =>
    cases he
    exact Or.inr ⟨id, hfind, rfl⟩

/-! ## The runs -/

/-- Every configuration is in order. -/
def AllOk (s : PathConfigItemHash) : Prop := ∀ name item, s name = some item → item.Ok

/-- Every configuration has at most so many paths. -/
def Within (rounds : Nat) (s : PathConfigItemHash) : Prop := ∀ name item, s name = some item → item.count ≤ rounds

theorem allOk_noPaths : AllOk noPaths := fun _ _ h => by cases h

theorem within_noPaths (rounds : Nat) : Within rounds noPaths := fun _ _ h => by cases h

/-- A property of every entry, when one of them is replaced. -/
theorem forall_update {P : PathConfigItem → Prop} {s : PathConfigItemHash} (h : ∀ name item, s name = some item → P item)
    {name : String} (hnew : P item) :
    ∀ name' item', Function.update s name (some item) name' = some item' → P item' := by
  intro name' item' hitem
  by_cases hname : name' = name
  · subst hname
    rw [Function.update_self] at hitem
    exact Option.some.inj hitem ▸ hnew
  · rw [Function.update_of_ne hname] at hitem
    exact h name' item' hitem

/-- A property of every entry, when each is changed. -/
theorem forall_map {P : PathConfigItem → Prop} {s : PathConfigItemHash} {f : PathConfigItem → PathConfigItem}
    (h : ∀ name item, s name = some item → P (f item)) : ∀ name item, (s name).map f = some item → P item := by
  intro name item hitem
  obtain ⟨old, hold, rfl⟩ := Option.map_eq_some_iff.1 hitem
  exact h name old hold

section Calls

variable {serviceName : String} {rounds : Nat} {s s' : PathConfigItemHash} {c : Call} {a : Answer}

/-- A call about a configuration: it is missing, and nothing happens, or the call goes on with it. -/
theorem withPathConfigItem_cases {name : String} {f : PathConfigItem → Option (PathConfigItemHash × Answer)}
    (h : withPathConfigItem serviceName s name f = some (s', a)) :
    s' = s ∨ ∃ item, s name = some item ∧ f item = some (s', a) := by
  unfold withPathConfigItem at h
  cases hitem : s name with
  | none =>
    rw [hitem] at h
    cases h
    exact Or.inl rfl
  | some item =>
    rw [hitem] at h
    exact Or.inr ⟨item, rfl, h⟩

/-- What a call leaves of the entries, when it keeps a property of each: of a new one, of one whose time is up, of one that
is reset, and of one in which a path is taken. -/
theorem call_keeps {P : PathConfigItem → Prop}
    (hinit : ∀ name min max ticks, c = .initPathConfig name min max ticks → P (.init min max ticks))
    (hcheck : ∀ item tick, P item → P (checkPathStatus item tick)) (hreset : ∀ item, P item → P (reset item))
    (hget : ∀ item r item' tick draw name, c = .getPathID name tick draw → s name = some item →
      getPathID rounds item draw tick = some (r, item') → P item → P item')
    (h : ∀ name item, s name = some item → P item) (hc : call serviceName rounds s c = some (s', a)) :
    ∀ name item, s' name = some item → P item := by
  cases c with
  | initPathConfig name min max ticks =>
    cases hc
    exact forall_update h (hinit name min max ticks rfl)
  | checkPathStatus name tick =>
    rcases withPathConfigItem_cases hc with rfl | ⟨item, hitem, hf⟩
    · exact h
    · cases hf
      exact forall_update h (hcheck item tick (h name item hitem))
  | checkAllPathStatus tick =>
    cases hc
    exact forall_map fun name item hitem => hcheck item tick (h name item hitem)
  | getPathID name tick draw =>
    rcases withPathConfigItem_cases hc with rfl | ⟨item, hitem, hf⟩
    · exact h
    · obtain ⟨⟨r, item'⟩, hp, he⟩ := Option.map_eq_some_iff.1 hf
      cases he
      exact forall_update h (hget item r item' tick draw name rfl hitem hp (h name item hitem))
  | isPathAllUsed name =>
    rcases withPathConfigItem_cases hc with rfl | ⟨item, hitem, hf⟩
    · exact h
    · cases hf
      exact h
  | reset name =>
    rcases withPathConfigItem_cases hc with rfl | ⟨item, hitem, hf⟩
    · exact h
    · cases hf
      exact forall_update h (hreset item (h name item hitem))
  | resetAll =>
    cases hc
    exact forall_map fun name item hitem => hreset item (h name item hitem)

/-- One call. -/
theorem allOk_step (h : AllOk s) (hd : Drawn s c) (hs : step serviceName rounds s c = some s') : AllOk s' := by
  obtain ⟨⟨t, a⟩, hc, rfl⟩ := Option.map_eq_some_iff.1 hs
  refine call_keeps (P := PathConfigItem.Ok) ?_ (fun _ tick hok => hok.checkPathStatus tick) (fun _ hok => hok.reset) ?_ h hc
  · rintro name min max ticks rfl
    exact ok_init hd ticks
  · rintro item r item' tick draw name rfl hitem hp hok
    obtain ⟨h1, h2⟩ := hd item hitem
    rcases getPathID_cases hp with rfl | ⟨id, hfind, rfl⟩
    · exact hok
    · obtain ⟨hid1, hid2⟩ := findPathID_mem h1 h2 hfind
      exact hok.insert hid1 hid2 tick

/-- One call that asks for no more than `n` paths. -/
theorem within_step {n : Nat} (h : Within n s) (hn : c.count ≤ n)
    (hs : step serviceName rounds s c = some s') : Within n s' := by
  obtain ⟨⟨t, a⟩, hc, rfl⟩ := Option.map_eq_some_iff.1 hs
  refine call_keeps (P := fun item => item.count ≤ n) ?_ (fun _ _ hle => hle) (fun _ hle => hle) ?_ h hc
  · rintro name min max ticks rfl
    exact hn
  · rintro item r item' tick draw name rfl hitem hp hle
    rcases getPathID_cases hp with rfl | ⟨id, -, rfl⟩
    · exact hle
    · exact hle

theorem isSome_withPathConfigItem {name : String} {f : PathConfigItem → Option (PathConfigItemHash × Answer)}
    (hf : ∀ item, s name = some item → (f item).isSome) : (withPathConfigItem serviceName s name f).isSome := by
  unfold withPathConfigItem
  cases hitem : s name with
  | none => rfl
  | some item => exact hf item hitem

/-- With as many rounds as there are paths, every call ends. -/
theorem isSome_step (h : AllOk s) (hwithin : Within rounds s) (hd : Drawn s c) : (step serviceName rounds s c).isSome := by
  rw [step, Option.isSome_map]
  cases c with
  | initPathConfig | checkAllPathStatus | resetAll => rfl
  | checkPathStatus | isPathAllUsed | reset => exact isSome_withPathConfigItem fun _ _ => rfl
  | getPathID name tick draw =>
    refine isSome_withPathConfigItem fun item hitem => ?_
    obtain ⟨h1, h2⟩ := hd item hitem
    obtain ⟨r, item', hget, -⟩ := getPathID_spec (h name item hitem) h1 h2 tick
    rw [Option.isSome_map, hget rounds (hwithin name item hitem)]
    rfl

end Calls

/-- Runs with as many rounds as there are paths in any configuration never get stuck. -/
theorem isSome_exec {serviceName : String} {rounds : Nat} {calls : List Call} {s : PathConfigItemHash} (h : AllOk s)
    (hwithin : Within rounds s) (hcount : ∀ c ∈ calls, c.count ≤ rounds)
    (hdrawn : Steps.Meets (step serviceName rounds) Drawn s calls) :
    (Steps.exec (step serviceName rounds) s calls).isSome := by
  induction calls generalizing s with
  | nil => rfl
  | cons c calls ih =>
    obtain ⟨hd, hrest⟩ := hdrawn
    obtain ⟨s', hs⟩ := Option.isSome_iff_exists.1 (isSome_step h hwithin hd)
    rw [Steps.exec_cons, hs, Option.bind_some]
    exact ih (allOk_step h hd hs) (within_step hwithin (hcount c List.mem_cons_self) hs)
      (fun d hmem => hcount d (List.mem_cons_of_mem _ hmem))
      (hrest s' hs)

/-- Any calls, with numbers from the configuration drawn. They all end, within as many rounds of the loop as there are paths.
Afterwards, in each configuration: only its own paths are used; `getPathID` with any draw ends within as many rounds as there
are paths, returns nothing exactly when `isPathAllUsed` is true, and otherwise a path of the configuration that was free,
which it marks with the tick, and no other. -/
theorem path_ids (serviceName : String) (rounds : Nat) (calls : List Call)
    (hdrawn : Steps.Meets (step serviceName rounds) Drawn noPaths calls) :
    ((∀ c ∈ calls, c.count ≤ rounds) → (Steps.exec (step serviceName rounds) noPaths calls).isSome) ∧
      ∀ s, Steps.exec (step serviceName rounds) noPaths calls = some s → ∀ name item, s name = some item →
        (∀ id ∈ item.idHash, item.min ≤ id ∧ id ≤ item.max) ∧
          ∀ nowTick draw, item.min ≤ draw → draw ≤ item.max →
            ∃ r item', (∀ n : Nat, item.max - item.min + 1 ≤ n →
                call serviceName n s (.getPathID name nowTick draw) = some
                  (Function.update s name (some item'), .pathID r)) ∧
              (r = none ↔ isPathAllUsed item = true) ∧ (r = none → item' = item) ∧
              ∀ id, r = some id → item.min ≤ id ∧ id ≤ item.max ∧ id ∉ item.idHash ∧ item'.idHash.lookup id = some nowTick ∧
                ∀ other, other ≠ id → item'.idHash.lookup other = item.idHash.lookup other := by
  refine ⟨fun hcount => isSome_exec allOk_noPaths (within_noPaths rounds) hcount hdrawn, fun s hrun name item hitem => ?_⟩
  have hok : item.Ok :=
    Steps.exec_invariant (I := AllOk) (fun _ _ _ h hd hs => allOk_step h hd hs) calls noPaths s allOk_noPaths hdrawn hrun
      name item hitem
  refine ⟨hok.used, fun nowTick draw h1 h2 => ?_⟩
  obtain ⟨r, item', hget, hnone, hsame, hsome⟩ := getPathID_spec hok h1 h2 nowTick
  refine ⟨r, item', fun n hn => ?_, hnone, hsame, fun id hid => ?_⟩
  · rw [← hok.count] at hn
    rw [call, withPathConfigItem, hitem]
    simp only [hget n hn, Option.map_some]
  · obtain ⟨hid1, hid2, hfree, rfl⟩ := hsome id hid
    exact ⟨hid1, hid2, hfree, AList.lookup_insert _, fun other hne => AList.lookup_insert_ne hne⟩

/-- Three paths, two of them taken, the second with the draw of the first, and the one of them given back that is too old. -/
def threePaths : List Call :=
  [.initPathConfig "pt_single" 1 3 10, .getPathID "pt_single" 0 3, .getPathID "pt_single" 8 3,
    .checkPathStatus "pt_single" 11]

/-- The third path is free again, and the draw of the first path, which is in use, leads to the second. -/
theorem path_ids_three :
    ∃ s item, Steps.exec (step "fish" 3) noPaths threePaths = some s ∧ s "pt_single" = some item ∧
      (∀ id ∈ item.idHash, item.min ≤ id ∧ id ≤ item.max) ∧
        ∃ r item', (∀ n : Nat, item.max - item.min + 1 ≤ n →
            call "fish" n s (.getPathID "pt_single" 12 1) = some (Function.update s "pt_single" (some item'), .pathID r)) ∧
          r ≠ none := by
  have hdrawn : Steps.Meets (step "fish" 3) Drawn noPaths threePaths := by decide +kernel
  have hview : ((Steps.exec (step "fish" 3) noPaths threePaths).bind fun s => s "pt_single").map (fun item =>
      (item.min, item.max, isPathAllUsed item)) = some (1, 3, false) := by decide +kernel
  obtain ⟨item, hitem, hview⟩ := Option.map_eq_some_iff.1 hview
  obtain ⟨s, hrun, hitem⟩ := Option.bind_eq_some_iff.1 hitem
  obtain ⟨hmin, hmax, hfree⟩ := by simpa only [Prod.mk.injEq] using hview
  obtain ⟨hused, hget⟩ := (path_ids "fish" 3 threePaths hdrawn).2 s hrun "pt_single" item hitem
  obtain ⟨r, item', hcall, hnone, -⟩ := hget 12 1 (by rw [hmin]) (by rw [hmax]; decide)
  refine ⟨s, item, hrun, hitem, hused, r, item', hcall, fun h => ?_⟩
  rw [hnone.1 h] at hfree
  cases hfree

end SasyServer.Path
