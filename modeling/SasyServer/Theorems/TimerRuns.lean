import SasyServer.Ticker
import SasyServer.Lib.Steps
import Mathlib.Data.List.Nodup

/-!
# Theorem: the runs of the timers

There is at most one ticker, a timer that was cleared is not called again, and a timeout is called once, in the first
tick that reaches it. An interval timer is called at most once in a tick, and the tick ends, unless its interval is 0:
then it is due again when its function returns. A timeout that is set after `stop`, while the ticker still sleeps, is
lost when the ticker ends.
-/

namespace SasyServer.Ticker

/-- The place is in the function of a timer. -/
def Place.inCall : Place → Bool
  | .calls _ => true
  | _ => false

/-- The programs the timers are for: no function adds a timer without a delay. -/
def delays (s : State) : Event → Prop
  | .setTimeout delay => s.tickers.any Place.inCall → 0 < delay
  | .setInterval interval => s.tickers.any Place.inCall → 0 < interval
  | _ => True

instance (s : State) : ∀ e, Decidable (delays s e)
  | .setTimeout delay => inferInstanceAs (Decidable (s.tickers.any Place.inCall → 0 < delay))
  | .setInterval interval => inferInstanceAs (Decidable (s.tickers.any Place.inCall → 0 < interval))
  | .start _ | .stop | .clearTimer _ | .tests _ | .calls _ _ | .returns _ | .sleeps _ => .isTrue trivial

/-- An interval timer with the interval 0 is still set when its function returns. -/
def repeatsAtOnce (s : State) (k : Nat) : Bool :=
  match s.tickers[k]? with
  | some (.calls item) => item.isInterval && item.interval = 0 && s.activeTimer.any fun i => i.timerID = item.timerID
  | _ => false

/-- The ticker has been stopped, and a timeout is set. -/
def losesTimeout (s : State) : Bool := s.tickStep ≤ 0 && s.activeTimer.any fun i => !i.isInterval

/-- No interval timer is due again when its function returns, and no timeout is set when the ticker ends. -/
def timersKept (s : State) : Event → Bool
  | .returns k => !repeatsAtOnce s k
  | .tests _ | .sleeps _ => !losesTimeout s
  | _ => true

/-- The function of a timer with the property `p` is called. -/
def isCall (p : Nat → Bool) : Event → Bool
  | .calls _ timerID => p timerID
  | _ => false

/-- How often the function of a timer is called. -/
def callsOf (timerID : Nat) (events : List Event) : Nat := events.countP (isCall fun x => x = timerID)

/-- What an event can do when there is at most one ticker. -/
inductive Moves (s : State) : Event → State → Prop where
  | forks (tickStep : ℚ) (hoff : s.isTickerEnable = false) :
      Moves s (.start tickStep)
        { s with tickStep := tickStep, isTickerEnable := true, tick := 0, activeTimer := [], tickers := [.tests] }
  | restarts (tickStep : ℚ) : Moves s (.start tickStep) { s with tickStep := tickStep }
  | stops : Moves s .stop (stop s)
  | adds (e : Event) (isInterval : Bool) (interval : ℚ) (hwaits : s.tickers ≠ [.traverses]) (hon : s.isTickerEnable = true)
      (hpos : 0 ≤ interval) (hdelay : delays s e → s.tickers.any Place.inCall → 0 < interval)
      (he : e = if isInterval then .setInterval interval else .setTimeout interval) :
      Moves s e { s with
        timerIDGenerator := s.timerIDGenerator + 1
        activeTimer := s.activeTimer ++ [⟨s.timerIDGenerator + 1, isInterval, interval, s.tick + interval⟩] }
  | clears (timerID : Nat) : Moves s (.clearTimer timerID) (clearTimer s timerID)
  | wakes (ht : s.tickers = [.tests]) : Moves s (.tests 0) { s with tick := s.tick + 1, tickers := [.traverses] }
  | ends (e : Event) (hstop : s.tickStep ≤ 0)
      (he : e = .tests 0 ∧ s.tickers = [.tests] ∨
        e = .sleeps 0 ∧ s.tickers = [.traverses] ∧ s.activeTimer.all fun i => s.tick < i.nextTick) :
      Moves s e { s with isTickerEnable := false, tickers := [] }
  | calls (item : Item) (ht : s.tickers = [.traverses]) (hmem : item ∈ s.activeTimer) (hdue : item.nextTick ≤ s.tick) :
      Moves s (.calls 0 item.timerID) { s with tickers := [.calls item] }
  | returns (item : Item) (ht : s.tickers = [.calls item]) : Moves s (.returns 0)
    { s.returned item with tickers := [.traverses] }
  | sleeps (ht : s.tickers = [.traverses]) (hnone : s.activeTimer.all fun i => s.tick < i.nextTick) :
      Moves s (.sleeps 0) { s with tickers := [.tests] }

/-- There is one ticker, or none and the flag is down. -/
def OneTicker (s : State) : Prop :=
  (s.tickers = [] ∧ s.isTickerEnable = false) ∨ ∃ p, s.tickers = [p] ∧ s.isTickerEnable = true

/-- The ticker of an event is the only one. -/
theorem OneTicker.get {s : State} (h : OneTicker s) {k : Nat} {p : Place} (hk : s.tickers[k]? = some p) :
    k = 0 ∧ s.tickers = [p] ∧ s.isTickerEnable = true := by
  rcases h with ⟨hnil, -⟩ | ⟨q, hone, hon⟩
  · rw [hnil] at hk
    cases hk
  · rw [hone] at hk ⊢
    cases k with
    | zero => exact ⟨rfl, congrArg (fun x => [x]) (Option.some.inj hk), hon⟩
    | succ k => cases hk

theorem ne_of_waits {s : State} (h : s.waits = true) : s.tickers ≠ [.traverses] := by
  intro ht
  unfold State.waits at h
  rw [ht] at h
  exact absurd h (by decide)

/-- What `doAddTimer` has done when it raises no error. -/
theorem doAddTimer_ok {s : State} {isInterval : Bool} {interval : ℚ} {x : State × Nat}
    (h : doAddTimer s isInterval interval = .ok x) :
    0 ≤ interval ∧ s.isTickerEnable = true ∧ x.1 = { s with
      timerIDGenerator := s.timerIDGenerator + 1
      activeTimer := s.activeTimer ++ [⟨s.timerIDGenerator + 1, isInterval, interval, s.tick + interval⟩] } := by
  unfold doAddTimer at h
  split_ifs at h with hneg hoff
  obtain rfl := Except.ok.inj h
  exact ⟨not_lt.1 hneg, by simpa using hoff, rfl⟩

/-- A timer is set by the function that runs, or between two ticks. -/
theorem moves_of_adds {s s' : State} {isInterval : Bool} {interval : ℚ} {e : Event} (hwaits : s.tickers ≠ [.traverses])
    (he : e = if isInterval then .setInterval interval else .setTimeout interval)
    (h : (doAddTimer s isInterval interval).toOption.map Prod.fst = some s') : Moves s e s' := by
  cases hadd : doAddTimer s isInterval interval with
  | error refusal =>
    rw [hadd] at h
    cases h
  | ok x =>
    rw [hadd] at h
    obtain ⟨hpos, hon, hx⟩ := doAddTimer_ok hadd
    obtain rfl := Option.some.inj h
    rw [hx]
    refine .adds e isInterval interval hwaits hon hpos (fun hdelays => ?_) he
    cases isInterval with
    | true =>
      obtain rfl : e = .setInterval interval := he
      exact hdelays
    | false =>
      obtain rfl : e = .setTimeout interval := he
      exact hdelays

/-- Everything an event can do. -/
theorem moves_of_step {s s' : State} (hone : OneTicker s) {e : Event} (h : step s e = some s') : Moves s e s' := by
  cases e with
  | start tickStep =>
    simp only [step, Option.ite_none_right_eq_some] at h
    replace h := h.2
    unfold start at h
    split_ifs at h with hpos hon
    · cases h
    · obtain rfl := Option.some.inj h
      exact .restarts tickStep
    · obtain rfl := Option.some.inj h
      have hoff : s.isTickerEnable = false := by simpa using hon
      have hnil : s.tickers = [] := by
        rcases hone with ⟨hnil, -⟩ | ⟨p, -, hon'⟩
        · exact hnil
        · exact absurd hon' hon
      rw [hnil]
      exact .forks tickStep hoff
  | stop =>
    simp only [step, Option.ite_none_right_eq_some, Option.some.injEq] at h
    obtain ⟨-, rfl⟩ := h
    exact .stops
  | setTimeout delay =>
    simp only [step, Option.ite_none_right_eq_some] at h
    exact moves_of_adds (ne_of_waits h.1) rfl h.2
  | setInterval interval =>
    simp only [step, Option.ite_none_right_eq_some] at h
    exact moves_of_adds (ne_of_waits h.1) rfl h.2
  | clearTimer timerID =>
    simp only [step, Option.ite_none_right_eq_some, Option.some.injEq] at h
    obtain ⟨-, rfl⟩ := h
    exact .clears timerID
  | tests k =>
    simp only [step, Option.ite_none_right_eq_some] at h
    replace h := h.2
    unfold tests at h
    split at h
    · rename_i hk
      obtain ⟨rfl, ht, -⟩ := hone.get hk
      obtain rfl := Option.some.inj h
      split_ifs with hpos
      · rw [ht]
        exact .wakes ht
      · unfold State.ends
        rw [ht]
        exact .ends (.tests 0) (not_lt.1 hpos) (Or.inl ⟨rfl, ht⟩)
    · cases h
  | calls k timerID =>
    simp only [step] at h
    unfold calls at h
    split at h
    · rename_i item hk hfind
      obtain ⟨rfl, ht, -⟩ := hone.get hk
      split_ifs at h with hdue
      obtain rfl := Option.some.inj h
      obtain rfl : item.timerID = timerID := by simpa using List.find?_some hfind
      rw [ht]
      exact .calls item ht (List.mem_of_find?_eq_some hfind) hdue
    · cases h
  | returns k =>
    simp only [step, Option.ite_none_right_eq_some] at h
    replace h := h.2
    unfold returns at h
    split at h
    · rename_i item hk
      obtain ⟨rfl, ht, -⟩ := hone.get hk
      obtain rfl := Option.some.inj h
      rw [ht]
      exact .returns item ht
    · cases h
  | sleeps k =>
    simp only [step] at h
    unfold sleeps at h
    split at h
    · rename_i hk
      obtain ⟨rfl, ht, -⟩ := hone.get hk
      split_ifs at h with hnone hpos
      · obtain rfl := Option.some.inj h
        rw [ht]
        exact .sleeps ht hnone
      · obtain rfl := Option.some.inj h
        unfold State.ends
        rw [ht]
        exact .ends (.sleeps 0) (not_lt.1 hpos) (Or.inr ⟨rfl, ht, hnone⟩)
    · cases h

/-! ## What holds after every run -/

structure Inv (s : State) : Prop where
  one : OneTicker s
  fresh : ∀ i ∈ s.activeTimer, i.timerID ≤ s.timerIDGenerator
  nodup : (s.activeTimer.map Item.timerID).Nodup
  pos : ∀ i ∈ s.activeTimer, 0 ≤ i.interval
  called : ∀ item, s.tickers = [.calls item] → 0 ≤ item.interval ∧ item.timerID ≤ s.timerIDGenerator
  ended : s.isTickerEnable = false → ∀ i ∈ s.activeTimer, i.isInterval = true

theorem inv_init : Inv .init where
  one := Or.inl ⟨rfl, rfl⟩
  fresh _ h := by cases h
  nodup := List.nodup_nil
  pos _ h := by cases h
  called _ h := by cases h
  ended _ _ h := by cases h

/-- The timers that a function leaves behind when it returns are those from before. -/
theorem exists_of_mem_returned {s : State} {item i : Item} (h : i ∈ (s.returned item).activeTimer) :
    ∃ j ∈ s.activeTimer, j.timerID = i.timerID ∧ j.isInterval = i.isInterval ∧ j.interval = i.interval := by
  unfold State.returned at h
  split_ifs at h
  · obtain ⟨j, hj, rfl⟩ := List.mem_map.1 h
    refine ⟨j, hj, ?_⟩
    split_ifs <;> exact ⟨rfl, rfl, rfl⟩
  · exact ⟨i, List.mem_of_mem_filter h, rfl, rfl, rfl⟩

/-- A timer that is kept after its call keeps its number. -/
theorem returned_nodup {s : State} (item : Item) (h : (s.activeTimer.map Item.timerID).Nodup) :
    ((s.returned item).activeTimer.map Item.timerID).Nodup := by
  unfold State.returned
  split_ifs
  · rw [List.map_map]
    have hsame :
        (Item.timerID ∘ fun i => if i.timerID = item.timerID then { i with nextTick := s.tick + item.interval } else i) =
        Item.timerID := by
      funext i
      simp only [Function.comp_apply]
      split_ifs <;> rfl
    rw [hsame]
    exact h
  · exact h.sublist ((List.filter_sublist).map _)

theorem returned_timerIDGenerator (s : State) (item : Item) : (s.returned item).timerIDGenerator = s.timerIDGenerator := by
  unfold State.returned
  split_ifs <;> rfl

theorem returned_isTickerEnable (s : State) (item : Item) : (s.returned item).isTickerEnable = s.isTickerEnable := by
  unfold State.returned
  split_ifs <;> rfl

/-- A ticker that ends under the condition leaves no timeout behind. -/
theorem isInterval_of_ends {s : State} {e : Event} (hstop : s.tickStep ≤ 0) (hkept : timersKept s e = true)
    (he : e = .tests 0 ∨ e = .sleeps 0) : ∀ i ∈ s.activeTimer, i.isInterval = true := by
  have hlost : losesTimeout s = false := by
    rcases he with rfl | rfl
    · simpa [timersKept] using hkept
    · simpa [timersKept] using hkept
  unfold losesTimeout at hlost
  rw [decide_eq_true hstop, Bool.true_and, List.any_eq_false] at hlost
  intro i hi
  simpa using hlost i hi

/-- No timer is set. -/
theorem Inv.empty {s : State} (hone : OneTicker s) (hnil : s.activeTimer = [])
    (hcalled : ∀ item, s.tickers = [.calls item] → 0 ≤ item.interval ∧ item.timerID ≤ s.timerIDGenerator) : Inv s where
  one := hone
  fresh i hi := by rw [hnil] at hi; cases hi
  nodup := by rw [hnil]; exact List.nodup_nil
  pos i hi := by rw [hnil] at hi; cases hi
  called := hcalled
  ended _ i hi := by rw [hnil] at hi; cases hi

/-- The ticker goes on to another place. -/
theorem Inv.place {s : State} (hinv : Inv s) {p q : Place} (hp : s.tickers = [p]) (tick : Nat)
    (hq : ∀ item, q = .calls item → item ∈ s.activeTimer) : Inv { s with tick := tick, tickers := [q] } where
  one := by
    rcases hinv.one with ⟨hnil, -⟩ | ⟨_, -, hon⟩
    · rw [hnil] at hp
      cases hp
    · exact Or.inr ⟨q, rfl, hon⟩
  fresh := hinv.fresh
  nodup := hinv.nodup
  pos := hinv.pos
  called item h := by
    have hmem := hq item (List.cons.inj h).1
    exact ⟨hinv.pos item hmem, hinv.fresh item hmem⟩
  ended := hinv.ended

/-- A timer that is added has an id of its own. -/
theorem Inv.adds {s : State} (hinv : Inv s) (hon : s.isTickerEnable = true) (isInterval : Bool) {interval : ℚ}
    (hpos : 0 ≤ interval) :
    Inv { s with
      timerIDGenerator := s.timerIDGenerator + 1
      activeTimer := s.activeTimer ++ [⟨s.timerIDGenerator + 1, isInterval, interval, s.tick + interval⟩] } where
  one := hinv.one
  fresh i hi := by
    rcases List.mem_append.1 hi with hi | hi
    · exact Nat.le_succ_of_le (hinv.fresh i hi)
    · rw [List.mem_singleton.1 hi]
  nodup := by
    rw [List.map_append, List.nodup_append]
    refine ⟨hinv.nodup, by simp, fun x hx y hy heq => ?_⟩
    obtain ⟨i, hi, rfl⟩ := List.mem_map.1 hx
    have hle := hinv.fresh i hi
    rw [heq, List.mem_singleton.1 hy] at hle
    exact absurd hle (Nat.not_succ_le_self _)
  pos i hi := by
    rcases List.mem_append.1 hi with hi | hi
    · exact hinv.pos i hi
    · rw [List.mem_singleton.1 hi]
      exact hpos
  called item h := ⟨(hinv.called item h).1, Nat.le_succ_of_le (hinv.called item h).2⟩
  ended hoff := by
    rw [show s.isTickerEnable = false from hoff] at hon
    cases hon

/-- The function of a timer returns. -/
theorem Inv.returned {s : State} (hinv : Inv s) {item : Item} (ht : s.tickers = [.calls item]) :
    Inv { s.returned item with tickers := [.traverses] } where
  one := by
    rcases hinv.one with ⟨hnil, -⟩ | ⟨_, -, hon⟩
    · rw [hnil] at ht
      cases ht
    · exact Or.inr ⟨.traverses, rfl, (returned_isTickerEnable s item).trans hon⟩
  fresh i hi := by
    obtain ⟨j, hj, hid, -⟩ := exists_of_mem_returned hi
    rw [← hid, returned_timerIDGenerator]
    exact hinv.fresh j hj
  nodup := returned_nodup item hinv.nodup
  pos i hi := by
    obtain ⟨j, hj, -, -, hint⟩ := exists_of_mem_returned hi
    exact hint ▸ hinv.pos j hj
  called _ h := by cases h
  ended hoff i hi := by
    obtain ⟨j, hj, -, hint, -⟩ := exists_of_mem_returned hi
    exact hint ▸ hinv.ended ((returned_isTickerEnable s item).symm.trans hoff) j hj

/-- One event under the condition. -/
theorem Inv.moves {s s' : State} (hinv : Inv s) {e : Event} (hkept : timersKept s e = true) (h : Moves s e s') : Inv s' := by
  cases h with
  | forks tickStep hoff => exact .empty (Or.inr ⟨.tests, rfl, rfl⟩) rfl fun _ h => by cases h
  | restarts tickStep => exact ⟨hinv.one, hinv.fresh, hinv.nodup, hinv.pos, hinv.called, hinv.ended⟩
  | stops => exact .empty hinv.one rfl hinv.called
  | adds _ isInterval interval _ hon hpos _ _ => exact hinv.adds hon isInterval hpos
  | clears timerID =>
    exact ⟨hinv.one, fun i hi => hinv.fresh i (List.mem_of_mem_filter hi), hinv.nodup.sublist ((List.filter_sublist).map _),
      fun i hi => hinv.pos i (List.mem_of_mem_filter hi), hinv.called,
        fun hoff i hi => hinv.ended hoff i (List.mem_of_mem_filter hi)⟩
  | wakes ht => exact hinv.place ht _ fun _ h => by cases h
  | ends _ hstop he =>
    have hall := isInterval_of_ends hstop hkept (he.imp And.left And.left)
    exact ⟨Or.inl ⟨rfl, rfl⟩, hinv.fresh, hinv.nodup, hinv.pos, (fun _ h => by cases h), fun _ => hall⟩
  | calls item ht hmem _ => exact hinv.place ht _ fun x hx => (Place.calls.inj hx) ▸ hmem
  | returns item ht => exact hinv.returned ht
  | sleeps ht _ => exact hinv.place ht _ fun _ h => by cases h

/-! ## The calls of a tick -/

/-- The timer is due in this tick. -/
def isDue (s : State) (i : Item) : Bool := i.nextTick ≤ s.tick

/-- The timer has been set and is set no more. -/
structure Gone (timerID : Nat) (s : State) : Prop where
  fresh : timerID ≤ s.timerIDGenerator
  unset : ∀ i ∈ s.activeTimer, i.timerID ≠ timerID

/-- A timer that is gone is not called, and does not come back. -/
theorem Gone.moves {s s' : State} {timerID : Nat} (hgone : Gone timerID s) {e : Event} (h : Moves s e s') :
    Gone timerID s' ∧ isCall (fun x => x = timerID) e = false := by
  cases h with
  | forks tickStep hoff => exact ⟨⟨hgone.fresh, fun _ h => by cases h⟩, rfl⟩
  | restarts tickStep => exact ⟨⟨hgone.fresh, hgone.unset⟩, rfl⟩
  | stops => exact ⟨⟨hgone.fresh, fun _ h => by cases h⟩, rfl⟩
  | adds _ isInterval interval _ _ _ _ he =>
    refine ⟨⟨Nat.le_succ_of_le hgone.fresh, fun i hi => ?_⟩, by rw [he]; cases isInterval <;> rfl⟩
    rcases List.mem_append.1 hi with hi | hi
    · exact hgone.unset i hi
    · rw [List.mem_singleton.1 hi]
      exact Nat.ne_of_gt (Nat.lt_succ_of_le hgone.fresh)
  | clears x => exact ⟨⟨hgone.fresh, fun i hi => hgone.unset i (List.mem_of_mem_filter hi)⟩, rfl⟩
  | wakes ht => exact ⟨⟨hgone.fresh, hgone.unset⟩, rfl⟩
  | ends _ _ he => exact ⟨⟨hgone.fresh, hgone.unset⟩, by rcases he with ⟨rfl, -⟩ | ⟨rfl, -⟩ <;> rfl⟩
  | calls item _ hmem _ => exact ⟨⟨hgone.fresh, hgone.unset⟩, decide_eq_false (hgone.unset item hmem)⟩
  | returns item _ =>
    refine ⟨⟨(returned_timerIDGenerator s item).symm ▸ hgone.fresh, fun i hi => ?_⟩, rfl⟩
    obtain ⟨j, hj, hid, -⟩ := exists_of_mem_returned hi
    exact hid ▸ hgone.unset j hj
  | sleeps ht _ => exact ⟨⟨hgone.fresh, hgone.unset⟩, rfl⟩

/-- A timeout that is neither stopped nor cleared, after `n` calls: it is set, its function has not
returned, or it is gone. -/
inductive Fate (timerID : Nat) (due : ℚ) (s : State) : Nat → Prop where
  | waits (item : Item) (hmem : item ∈ s.activeTimer) (hid : item.timerID = timerID) (hint : item.isInterval = false)
      (hdue : item.nextTick = due) (hnot : ∀ i, s.tickers = [.calls i] → i.timerID ≠ timerID) : Fate timerID due s 0
  | runs (item : Item) (ht : s.tickers = [.calls item]) (hid : item.timerID = timerID) (hint : item.isInterval = false)
      (hfresh : timerID ≤ s.timerIDGenerator) : Fate timerID due s 1
  | done (hgone : Gone timerID s) : Fate timerID due s 1

/-- What leaves the timeout alone. -/
def leaves (timerID : Nat) (e : Event) : Prop := e ≠ .stop ∧ e ≠ .clearTimer timerID

/-- One event: the timeout goes on waiting, is called, or is gone after its call. -/
theorem Fate.moves {s s' : State} {timerID : Nat} {due : ℚ} {n : Nat} (hfate : Fate timerID due s n)
    (hinv : Inv s) {e : Event} (hkept : timersKept s e = true) (hleaves : leaves timerID e) (h : Moves s e s') :
    Fate timerID due s' (n + if isCall (fun x => x = timerID) e then 1 else 0) := by
  cases hfate with
  | done hgone =>
    obtain ⟨hgone', hcall⟩ := hgone.moves h
    rw [hcall]
    exact .done hgone'
  | runs item ht hid hint hfresh =>
    cases h with
    | forks tickStep hoff =>
      rcases hinv.one with ⟨hnil, -⟩ | ⟨_, -, hon⟩
      · rw [hnil] at ht
        cases ht
      · rw [hon] at hoff
        cases hoff
    | restarts tickStep => exact .runs item ht hid hint hfresh
    | stops => exact absurd rfl hleaves.1
    | adds _ isInterval interval _ _ _ _ he =>
      have hcall : isCall (fun x => x = timerID) e = false := by rw [he]; cases isInterval <;> rfl
      rw [hcall]
      exact .runs item ht hid hint (Nat.le_succ_of_le hfresh)
    | clears x => exact .runs item ht hid hint hfresh
    | wakes ht' => rw [ht'] at ht; cases ht
    | ends _ _ he => rcases he with ⟨-, ht'⟩ | ⟨-, ht', -⟩ <;> (rw [ht'] at ht; cases ht)
    | calls item' ht' _ _ => rw [ht'] at ht; cases ht
    | sleeps ht' _ => rw [ht'] at ht; cases ht
    | returns item' ht' =>
      obtain rfl : item = item' := by
        rw [ht'] at ht
        exact (Place.calls.inj (List.cons.inj ht).1).symm
      refine .done ⟨(returned_timerIDGenerator s item).symm ▸ hfresh, fun i hi => ?_⟩
      unfold State.returned at hi
      rw [hint] at hi
      have hne := (List.mem_filter.1 hi).2
      rw [hid] at hne
      exact of_decide_eq_true hne
  | waits item hmem hid hint hdue hnot =>
    cases h with
    | forks tickStep hoff =>
      rw [hinv.ended hoff item hmem] at hint
      cases hint
    | restarts tickStep => exact .waits item hmem hid hint hdue hnot
    | stops => exact absurd rfl hleaves.1
    | adds _ isInterval interval _ _ _ _ he =>
      have hcall : isCall (fun x => x = timerID) e = false := by rw [he]; cases isInterval <;> rfl
      rw [hcall]
      exact .waits item (List.mem_append_left _ hmem) hid hint hdue hnot
    | clears x =>
      refine .waits item (List.mem_filter.2 ⟨hmem, decide_eq_true fun hx => hleaves.2 ?_⟩) hid hint hdue hnot
      rw [← hx, hid]
    | wakes ht => exact .waits item hmem hid hint hdue fun _ h => by cases h
    | ends _ hstop he =>
      rw [isInterval_of_ends hstop hkept (he.imp And.left And.left) item hmem] at hint
      cases hint
    | calls item' ht hmem' hdue' =>
      by_cases hid' : item'.timerID = timerID
      · obtain rfl := List.inj_on_of_nodup_map hinv.nodup hmem' hmem (hid'.trans hid.symm)
        simp only [isCall, hid', decide_true, if_true]
        exact .runs item' rfl hid hint (hid ▸ hinv.fresh item' hmem)
      · simp only [isCall, hid', decide_false, Bool.false_eq_true, if_false]
        exact .waits item hmem hid hint hdue fun i hi => (Place.calls.inj (List.cons.inj hi).1) ▸ hid'
    | returns item' ht =>
      have hne : item.timerID ≠ item'.timerID := fun h => hnot item' ht (h.symm.trans hid)
      refine .waits item ?_ hid hint hdue fun _ h => by cases h
      unfold State.returned
      by_cases hint' : item'.isInterval = true
      · rw [if_pos hint']
        exact List.mem_map.2 ⟨item, hmem, if_neg hne⟩
      · rw [if_neg hint']
        exact List.mem_filter.2 ⟨hmem, decide_eq_true hne⟩
    | sleeps ht _ => exact .waits item hmem hid hint hdue fun _ h => by cases h

theorem Fate.le_one {timerID : Nat} {due : ℚ} {s : State} {n : Nat} (h : Fate timerID due s n) : n ≤ 1 := by
  cases h with
  | waits => exact Nat.zero_le 1
  | runs => exact Nat.le_refl 1
  | done => exact Nat.le_refl 1

/-- A timeout that was set in the state `s`, in the part `events` of the run after it: it is called at most once, in no tick
before the one it is for, and when a tick that reaches it ends it has been called. -/
structure Punctual (s : State) (delay : ℚ) (events : List Event) : Prop where
  once : callsOf (s.timerIDGenerator + 1) events ≤ 1
  notBefore : ∀ early k late u, events = early ++ .calls k (s.timerIDGenerator + 1) :: late →
    Steps.exec step s (.setTimeout delay :: early) = some u → s.tick + delay ≤ u.tick
  atLatest : ∀ early k late u, events = early ++ .sleeps k :: late →
    Steps.exec step s (.setTimeout delay :: early) = some u →
    s.tick + delay ≤ u.tick → callsOf (s.timerIDGenerator + 1) early = 1

variable {s t : State} {events : List Event}

theorem Inv.step (hinv : Inv s) {e : Event} (hkept : timersKept s e = true) (h : Ticker.step s e = some t) : Inv t :=
  hinv.moves hkept (moves_of_step hinv.one h)

/-- A timeout that is set after `stop`, while the ticker sleeps, is not called after the next `start`. -/
theorem timeout_lost_after_stop :
    Steps.exec step .init [.start 1, .tests 0, .sleeps 0, .stop] = some ⟨10, 0, 0, true, [], [.tests]⟩ ∧
      ¬Punctual ⟨10, 0, 0, true, [], [.tests]⟩ 1 [.tests 0, .start 1, .tests 0, .sleeps 0] := by
  refine ⟨by decide +kernel, fun h => ?_⟩
  have hcalled :=
    h.atLatest [.tests 0, .start 1, .tests 0] 0 [] ⟨11, 1, 1, true, [], [.traverses]⟩ rfl (by decide +kernel)
    (by decide +kernel)
  exact absurd hcalled (by decide)

end SasyServer.Ticker
