import Mathlib.Data.List.Nodup
import Mathlib.Data.List.Infix
import SasyServer.EventDispatcher

/-!
# Theorem: an event goes once to each of its listeners, unless a listener was removed by name

`listens` is a listener as the table has it. An added listener is one under the number of its service; a removal looks for
the address as it is given, so that one by name finds nobody. In a sequence of calls without such a removal the table is the
registry, and the first one parts them.
-/

namespace SasyServer.EventDispatcher

variable {ε μ : Type} [DecidableEq ε]

/-- The tables of one event type have the listener. -/
def listensIn (addresses : AddressTable μ) (address : Address) (method : μ) : Prop :=
  ∃ methods, addresses.lookup address = some methods ∧ method ∈ methods

/-- The table has the listener. -/
def listens (handlers : Handlers ε μ) (eventType : ε) (address : Address) (method : μ) : Prop :=
  ∃ addresses, handlers.lookup eventType = some addresses ∧ listensIn addresses address method

theorem not_listens_empty (eventType : ε) (address : Address) (method : μ) :
    ¬listens (∅ : Handlers ε μ) eventType address method := by
  rintro ⟨addresses, h, -⟩
  cases h

/-! ## What is sent -/

/-- The event is sent to the listeners of the table. -/
theorem mem_dispatch {handlers : Handlers ε μ} {eventType : ε} {address : Address} {method : μ} :
    (address, method) ∈ dispatch handlers eventType ↔ listens handlers eventType address method := by
  unfold dispatch listens listensIn
  cases handlers.lookup eventType with
  | none => simp
  | some addresses =>
    simp only [Option.some.injEq, exists_eq_left', List.mem_flatMap, List.mem_map, Prod.mk.injEq]
    constructor
    · rintro ⟨⟨a, methods⟩, hmem, m, hm, rfl, rfl⟩
      exact ⟨methods, AList.mem_lookup_iff.2 hmem, hm⟩
    · rintro ⟨methods, hlookup, hm⟩
      exact ⟨⟨address, methods⟩, AList.mem_lookup_iff.1 hlookup, method, hm, rfl, rfl⟩

/-- No listener is sent the event twice. -/
theorem nodup_dispatch (handlers : Handlers ε μ) (eventType : ε) : (dispatch handlers eventType).Nodup := by
  unfold dispatch
  cases handlers.lookup eventType with
  | none => exact List.nodup_nil
  | some addresses =>
    refine List.nodup_flatMap.2 ⟨?_, ?_⟩
    · intro e _
      exact (AList.keys_nodup e.2).map fun m m' h => (Prod.mk.inj h).2
    · have hkeys : (addresses.entries.map Sigma.fst).Nodup := AList.keys_nodup addresses
      rw [List.Nodup, List.pairwise_map] at hkeys
      refine hkeys.imp fun {e e'} hne => ?_
      intro p hp hp'
      obtain ⟨m, -, rfl⟩ := List.mem_map.1 hp
      obtain ⟨m', -, heq⟩ := List.mem_map.1 hp'
      exact hne (Prod.mk.inj heq).1.symm

/-! ## What a call does to the listeners -/

/-- The tables of a type after they have been put in place. -/
theorem listens_insert {handlers : Handlers ε μ} {t : ε} {addresses : AddressTable μ} {e : ε} {a : Address} {m : μ} :
    listens (handlers.insert t addresses) e a m ↔ if e = t then listensIn addresses a m else listens handlers e a m := by
  unfold listens
  split
  · rename_i h
    rw [h, AList.lookup_insert]
    simp
  · rename_i h
    rw [AList.lookup_insert_ne h]

/-- The tables of a type after they have been taken away. -/
theorem listens_erase {handlers : Handlers ε μ} {t : ε} {e : ε} {a : Address} {m : μ} :
    listens (handlers.erase t) e a m ↔ e ≠ t ∧ listens handlers e a m := by
  unfold listens
  by_cases h : e = t
  · subst h
    rw [AList.lookup_erase]
    simp
  · rw [AList.lookup_erase_ne h]
    simp [h]

/-- Who listens after the methods of an address have been written. -/
theorem listensIn_insert {addresses : AddressTable μ} {address : Address} {methods : MethodTable μ} {a : Address} {m : μ} :
    listensIn (addresses.insert address methods) a m ↔ if a = address then m ∈ methods else listensIn addresses a m := by
  unfold listensIn
  split
  · rename_i h
    rw [h, AList.lookup_insert]
    simp
  · rename_i h
    rw [AList.lookup_insert_ne h]

/-- Who listens after an address has been removed. -/
theorem listensIn_erase {addresses : AddressTable μ} {address : Address} {a : Address} {m : μ} :
    listensIn (addresses.erase address) a m ↔ a ≠ address ∧ listensIn addresses a m := by
  unfold listensIn
  by_cases h : a = address
  · subst h
    rw [AList.lookup_erase]
    simp
  · rw [AList.lookup_erase_ne h]
    simp [h]

/-- An empty table has no listener. -/
theorem not_listensIn_of_isEmpty {addresses : AddressTable μ} (h : addresses.entries.isEmpty) (a : Address) (m : μ) :
    ¬listensIn addresses a m := by
  rintro ⟨methods, hlookup, -⟩
  have hmem := AList.mem_lookup_iff.1 (Option.mem_def.2 hlookup)
  rw [List.isEmpty_iff.1 h] at hmem
  cases hmem

variable [DecidableEq μ]

/-- An added listener is one under its number, and the others stay. -/
theorem listens_add {localname : String → Option Nat} {handlers : Handlers ε μ} {t : ε} {address : Address}
    {method : μ} {n : Nat} (hn : resolve localname address = some n) {e : ε} {a : Address} {m : μ} :
    listens (addEventListener localname handlers t address method) e a m ↔
      listens handlers e a m ∨ (e = t ∧ a = .number n ∧ m = method) := by
  unfold addEventListener
  rw [hn]
  simp only
  rw [listens_insert]
  by_cases he : e = t
  · subst he
    rw [if_pos rfl, listensIn_insert]
    by_cases ha : a = .number n
    · subst ha
      rw [if_pos rfl, AList.mem_insert]
      simp only [true_and]
      rw [or_comm]
      refine or_congr_left ?_
      unfold listens listensIn
      cases handlers.lookup e with
      | none => simp
      | some addresses =>
        simp only [Option.getD_some, Option.some.injEq, exists_eq_left']
        cases addresses.lookup (.number n) with
        | none => simp
        | some methods => simp
    · rw [if_neg ha]
      simp only [ha, false_and, and_false, or_false]
      unfold listens listensIn
      cases handlers.lookup e with
      | none => simp
      | some addresses => simp
  · rw [if_neg he]
    simp [he]

/-- Who does not listen cannot be removed. -/
theorem remove_of_not_listens {handlers : Handlers ε μ} {t : ε} {address : Address} {method : μ}
    (h : ¬listens handlers t address method) :
    removeEventListener handlers t address method = handlers := by
  unfold removeEventListener
  cases ht : handlers.lookup t with
  | none => rfl
  | some addresses =>
    simp only
    cases ha : addresses.lookup address with
    | none => rfl
    | some methods => exact if_neg fun hm => h ⟨addresses, ht, methods, ha, hm⟩

/-- A removed listener is none, under the address that was given, and the others stay. -/
theorem listens_remove {handlers : Handlers ε μ} {t : ε} {address : Address} {method : μ} {e : ε} {a : Address} {m : μ} :
    listens (removeEventListener handlers t address method) e a m ↔
      listens handlers e a m ∧ ¬(e = t ∧ a = address ∧ m = method) := by
  by_cases h : listens handlers t address method
  swap
  · rw [remove_of_not_listens h]
    refine (and_iff_left_of_imp ?_).symm
    rintro hl ⟨rfl, rfl, rfl⟩
    exact h hl
  obtain ⟨addresses, ht, methods, ha, hm⟩ := h
  -- what the tables of the type are afterwards
  have hinto : ∀ addresses' : AddressTable μ,
      (∀ a m, listensIn addresses' a m ↔ listensIn addresses a m ∧ ¬(a = address ∧ m = method)) →
      (listens (handlers.insert t addresses') e a m ↔ listens handlers e a m ∧ ¬(e = t ∧ a = address ∧ m = method)) := by
    intro addresses' h'
    rw [listens_insert]
    by_cases he : e = t
    · subst he
      have hself : listens handlers e a m ↔ listensIn addresses a m := by
        unfold listens
        rw [ht]
        simp
      rw [if_pos rfl, h', hself]
      simp
    · rw [if_neg he]
      simp [he]
  have herased : ∀ x, x ∈ methods.erase method ↔ x ≠ method ∧ x ∈ methods := fun x => AList.mem_erase
  have hin : listensIn addresses address method := ⟨methods, ha, hm⟩
  have hself : ∀ x, listensIn addresses address x ↔ x ∈ methods := by
    intro x
    unfold listensIn
    rw [ha]
    simp
  unfold removeEventListener
  simp only [ht, ha, hm, if_true]
  split
  · rename_i hempty
    have hgone : ∀ a m, listensIn (addresses.erase address) a m ↔ listensIn addresses a m ∧ ¬(a = address ∧ m = method) := by
      intro a m
      rw [listensIn_erase]
      by_cases haa : a = address
      · subst haa
        rw [hself]
        refine iff_of_false (fun h => h.1 rfl) ?_
        rintro ⟨hmem, hne⟩
        have hleft : m ∈ methods.erase method := (herased m).2 ⟨fun h => hne ⟨rfl, h⟩, hmem⟩
        rw [AList.mem_keys] at hleft
        unfold AList.keys at hleft
        rw [List.isEmpty_iff.1 hempty] at hleft
        cases hleft
      · simp [haa]
    split
    · rename_i hnone
      rw [← hinto _ hgone, listens_erase, listens_insert]
      by_cases he : e = t
      · rw [if_pos he]
        exact iff_of_false (fun h => h.1 he) (not_listensIn_of_isEmpty hnone a m)
      · simp [he]
    · exact hinto _ hgone
  · refine hinto _ fun a m => ?_
    rw [listensIn_insert]
    split
    · rename_i haa
      subst haa
      rw [herased, hself, and_comm]
      simp
    · rename_i haa
      simp [haa]

/-! ## A sequence of calls -/

theorem run_snoc (localname : String → Option Nat) (calls : List (Call ε μ)) (c : Call ε μ) :
    run localname (calls ++ [c]) = step localname (run localname calls) c := by
  rw [run, List.foldl_append]
  rfl

theorem registered_snoc (localname : String → Option Nat) (calls : List (Call ε μ)) (c : Call ε μ) :
    registered localname (calls ++ [c]) = (registered localname calls).note localname c := by
  rw [registered, List.foldl_append]
  rfl

/-- The table has exactly the listeners of the registry, under their numbers. -/
def Agree (handlers : Handlers ε μ) (r : Registry ε μ) : Prop :=
  ∀ e a m, listens handlers e a m ↔ ∃ n, a = .number n ∧ r e n m

theorem dispatches_iff_agree (localname : String → Option Nat) (calls : List (Call ε μ)) :
    Dispatches localname calls ↔ Agree (run localname calls) (registered localname calls) := by
  unfold Dispatches Agree
  refine forall_congr' fun e => ?_
  rw [and_iff_right (nodup_dispatch _ e)]
  simp only [mem_dispatch]

/-- The removal names a service with a number under which the listener is registered. -/
def misses (localname : String → Option Nat) (r : Registry ε μ) : Call ε μ → Bool
  | .removeEventListener eventType (.name s) method => (localname s).any fun n => r eventType n method
  | _ => false

/-- A call that misses nobody. -/
theorem Agree.step {localname : String → Option Nat} {handlers : Handlers ε μ} {r : Registry ε μ} (h : Agree handlers r)
    {c : Call ε μ} (hc : ¬misses localname r c) :
    Agree (step localname handlers c) (r.note localname c) := by
  intro e a m
  cases c with
  | addEventListener t address method =>
    rw [EventDispatcher.step]
    simp only [Registry.note, Bool.or_eq_true, decide_eq_true_eq]
    cases hn : resolve localname address with
    | none =>
      rw [addEventListener, hn, h]
      simp
    | some n =>
      rw [listens_add hn, h]
      constructor
      · rintro (⟨k, rfl, hk⟩ | ⟨rfl, rfl, rfl⟩)
        · exact ⟨k, rfl, Or.inl hk⟩
        · exact ⟨n, rfl, Or.inr ⟨rfl, rfl, rfl⟩⟩
      · rintro ⟨k, rfl, hk | ⟨rfl, hk, rfl⟩⟩
        · exact Or.inl ⟨k, rfl, hk⟩
        · exact Or.inr ⟨rfl, by rw [Option.some.inj hk], rfl⟩
  | removeEventListener t address method =>
    rw [EventDispatcher.step, listens_remove, h]
    simp only [Registry.note, Bool.and_eq_true, decide_eq_true_eq]
    cases address with
    | number n =>
      simp only [resolve, Option.some.injEq]
      constructor
      · rintro ⟨⟨k, rfl, hk⟩, hne⟩
        exact ⟨k, rfl, hk, fun ⟨he, hn, hm⟩ => hne ⟨he, by rw [hn], hm⟩⟩
      · rintro ⟨k, rfl, hk, hne⟩
        exact ⟨⟨k, rfl, hk⟩, fun ⟨he, hn, hm⟩ => hne ⟨he, (Address.number.inj hn).symm, hm⟩⟩
    | name s =>
      -- nobody is found under the name, and nobody is registered under its number
      simp only [misses, Option.any_eq_true, not_exists, not_and] at hc
      simp only [resolve]
      constructor
      · rintro ⟨⟨k, rfl, hk⟩, -⟩
        refine ⟨k, rfl, hk, ?_⟩
        rintro ⟨rfl, hs, rfl⟩
        exact hc k hs hk
      · rintro ⟨k, rfl, hk, -⟩
        exact ⟨⟨k, rfl, hk⟩, fun h => by cases h.2.1⟩

/-- A call that misses a listener leaves it in the table. -/
theorem not_agree_of_misses {localname : String → Option Nat} {handlers : Handlers ε μ} {r : Registry ε μ}
    (h : Agree handlers r) {c : Call ε μ} (hc : misses localname r c) :
    ¬Agree (step localname handlers c) (r.note localname c) := by
  intro h'
  cases c with
  | addEventListener t address method => cases hc
  | removeEventListener t address method =>
    cases address with
    | number n => cases hc
    | name s =>
      simp only [misses, Option.any_eq_true] at hc
      obtain ⟨n, hs, hr⟩ := hc
      have hin : listens (EventDispatcher.step localname handlers (.removeEventListener t (.name s) method)) t
        (.number n) method := by
        rw [EventDispatcher.step, listens_remove]
        exact ⟨(h t (.number n) method).2 ⟨n, rfl, hr⟩, fun h => by cases h.2.1⟩
      obtain ⟨k, hk, hr'⟩ := (h' _ _ _).1 hin
      cases hk
      simp [Registry.note, resolve, hs] at hr'

/-- For every sequence of calls: the dispatcher tells exactly the listeners, once each, after every call if and only if no
call removes by name a listener that is registered at that moment. -/
theorem dispatches_iff_removes_by_number (localname : String → Option Nat) (calls : List (Call ε μ)) :
    (∀ before, before <+: calls → Dispatches localname before) ↔
      ∀ before c, before ++ [c] <+: calls → ¬misses localname (registered localname before) c := by
  constructor
  · intro h before c hpre hmiss
    have hbefore := (dispatches_iff_agree localname before).1 (h before ((List.prefix_append before [c]).trans hpre))
    have hafter := (dispatches_iff_agree localname (before ++ [c])).1 (h (before ++ [c]) hpre)
    rw [run_snoc, registered_snoc] at hafter
    exact not_agree_of_misses hbefore hmiss hafter
  · intro h before
    induction before using List.reverseRecOn with
    | nil =>
      intro _
      rw [dispatches_iff_agree]
      intro e a m
      refine iff_of_false (not_listens_empty e a m) ?_
      rintro ⟨n, -, hr⟩
      cases hr
    | append_singleton before c ih =>
      intro hpre
      have hbefore := (dispatches_iff_agree localname before).1 (ih ((List.prefix_append before [c]).trans hpre))
      rw [dispatches_iff_agree, run_snoc, registered_snoc]
      exact hbefore.step (h before c hpre)

/-- The service `gameServer` has the number 7. A listener of it that is added and then removed by its name is still told. -/
theorem still_told_after_removal_by_name :
    ¬Dispatches (fun s => if s = "gameServer" then some 7 else none)
      [.addEventListener 1 (.name "gameServer") "onEvent", .removeEventListener 1 (.name "gameServer") "onEvent"] := by
  intro h
  have hsent := ((h 1).2 (.number 7) "onEvent").1 (by decide)
  obtain ⟨n, hn, hr⟩ := hsent
  cases hn
  exact absurd hr (by decide)

end SasyServer.EventDispatcher
