import Mathlib.Data.List.Nodup
import Mathlib.Data.List.Perm.Subperm
import SasyServer.Lemmas.CatchSteps

/-!
# Each bullet is used once

A shot that is accepted brings one bullet, and a net catch that is completed takes it away: no shot is in `nets` twice, and
each is there under the user who has fired it. That the counter of the bullets begins again does no harm, since a bullet then
only takes the place of another one.
-/

namespace SasyServer.Catch

open Table (CannonMultiple)

/-- The shots so far: those with a bullet, those of the handler in the critical section, and those that have been used. -/
structure ShotInv (s : State) : Prop where
  numbered : ∀ x ∈ s.fires, x.1 < s.fires.length
  nets : s.nets ⊆ s.fires
  once : (s.nets.map Prod.fst).Nodup
  known : ∀ c g b, s.chairID2GameData c = some g → b ∈ g.bulletInfoHash → (b.shot, g.userID) ∈ s.fires ∧
    b.shot ∉ s.nets.map Prod.fst
  apart : ∀ c g b, s.chairID2GameData c = some g → b ∈ g.bulletInfoHash →
    ∀ d g' b', s.chairID2GameData d = some g' → b' ∈ g'.bulletInfoHash → b'.shot = b.shot → d = c ∧ b'.id = b.id
  firing : ∀ c b, s.work = some (.fire c b) → b.shot < s.fires.length ∧ b.shot ∉ s.nets.map Prod.fst ∧
    (∀ g, s.chairID2GameData c = some g → (b.shot, g.userID) ∈ s.fires) ∧
    ∀ d g' b', s.chairID2GameData d = some g' → b' ∈ g'.bulletInfoHash → b'.shot ≠ b.shot
  catching : ∀ c userID b rest fish, s.work = some (.net c userID b rest fish) →
    (b.shot, userID) ∈ s.fires ∧ b.shot ∉ s.nets.map Prod.fst ∧
      ∀ d g' b', s.chairID2GameData d = some g' → b' ∈ g'.bulletInfoHash → b'.shot = b.shot → d = c ∧ b'.id = b.id

theorem shotInv_init : ShotInv .init := by
  refine ⟨by simp [State.init], by simp [State.init], by simp [State.init], ?_, ?_, ?_, ?_⟩ <;> intros <;> contradiction

section Step

variable {cfg : CannonMultiple} {s s' : State} {i : Label}

/-- All bullets are from before, in the same chairs and under the same users. -/
def Before (s s' : State) : Prop := ∀ d g' b, s'.chairID2GameData d = some g' → b ∈ g'.bulletInfoHash →
  ∃ g, s.chairID2GameData d = some g ∧ g.userID = g'.userID ∧ b ∈ g.bulletInfoHash

theorem before_of_chairs (hchairs : ∀ d g', s'.chairID2GameData d = some g' → Was s d g' ∨ SatDown s i d g') :
    Before s s' := by
  intro d g' b hg hb
  rcases hchairs d g' hg with ⟨g, hg, huser, hsub⟩ | ⟨-, hnone, -⟩
  · exact ⟨g, hg, huser, hsub hb⟩
  · rw [hnone] at hb
    cases hb

theorem before_of_was (hchairs : ∀ d g', s'.chairID2GameData d = some g' → Was s d g') : Before s s' :=
  before_of_chairs (i := .worldBossEnd) fun d g' hg => Or.inl (hchairs d g' hg)

theorem ShotInv.apart_of_before (h : ShotInv s) (hbefore : Before s s') :
    ∀ c g b, s'.chairID2GameData c = some g → b ∈ g.bulletInfoHash →
      ∀ d g' b', s'.chairID2GameData d = some g' → b' ∈ g'.bulletInfoHash → b'.shot = b.shot → d = c ∧ b'.id = b.id := by
  intro c g b hg hb d g' b' hg' hb' heq
  obtain ⟨g₁, hg₁, -, hb₁⟩ := hbefore c g b hg hb
  obtain ⟨g₂, hg₂, -, hb₂⟩ := hbefore d g' b' hg' hb'
  exact h.apart c g₁ b hg₁ hb₁ d g₂ b' hg₂ hb₂ heq

/-- A shot is fired: its number is new. -/
theorem ShotInv.fired (h : ShotInv s) {c : Nat} {g : GameData} {b : BulletInfo} (hold : s.chairID2GameData c = some g)
    (hwork : s'.work = some (.fire c b)) (hshot : b.shot = s.fires.length)
    (hfires : s'.fires = (s.fires.length, g.userID) :: s.fires) (hnets : s'.nets = s.nets)
    (hchairs : ∀ d g', s'.chairID2GameData d = some g' → Was s d g') : ShotInv s' := by
  have hnew : ∀ x ∈ s.nets.map Prod.fst, x ≠ s.fires.length := by
    intro x hx
    obtain ⟨y, hy, rfl⟩ := List.mem_map.1 hx
    exact Nat.ne_of_lt (h.numbered y (h.nets hy))
  have hbefore := before_of_was hchairs
  refine ⟨?_, ?_, ?_, ?_, ?_, ?_, ?_⟩
  · rw [hfires]
    intro x hx
    rcases List.mem_cons.1 hx with rfl | hx
    · exact Nat.lt_succ_self _
    · exact Nat.lt_succ_of_lt (h.numbered x hx)
  · rw [hnets, hfires]
    exact List.subset_cons_of_subset _ h.nets
  · rw [hnets]
    exact h.once
  · intro d g' b' hg hb
    obtain ⟨g₁, hg₁, huser, hb⟩ := hbefore d g' b' hg hb
    rw [hnets, hfires, ← huser]
    exact ⟨List.mem_cons_of_mem _ (h.known d g₁ b' hg₁ hb).1, (h.known d g₁ b' hg₁ hb).2⟩
  · exact h.apart_of_before hbefore
  · intro d b₁ hw
    rw [hwork] at hw
    obtain ⟨rfl, rfl⟩ := Work.fire.inj (Option.some.inj hw)
    rw [hfires, hnets, hshot]
    refine ⟨Nat.lt_succ_self _, fun hx => hnew _ hx rfl, ?_, ?_⟩
    · intro g' hg'
      obtain ⟨g₁, hg₁, huser, -⟩ := hchairs c g' hg'
      rw [hold] at hg₁
      obtain rfl := Option.some.inj hg₁
      rw [huser]
      exact List.mem_cons_self
    · intro e g' b' hg hb
      obtain ⟨g₁, hg₁, -, hb⟩ := hbefore e g' b' hg hb
      exact Nat.ne_of_lt (h.numbered _ (h.known e g₁ b' hg₁ hb).1)
  · intro d userID b₁ rest fish hw
    rw [hwork] at hw
    cases hw

/-- A bullet is stored. -/
theorem ShotInv.stored (h : ShotInv s) (hstep : ShotStep cfg s i s') {c : Nat} {b : BulletInfo}
    (hheld : s.work = some (.fire c b)) (hwork : s'.work = none) (hfires : s'.fires = s.fires)
    (hnets : s'.nets = s.nets) : ShotInv s' := by
  obtain ⟨-, hunused, hmine, hother⟩ := h.firing c b hheld
  -- a bullet of the table now is one from before, or the new one in its chair
  have hbefore : ∀ d g' b', s'.chairID2GameData d = some g' → b' ∈ g'.bulletInfoHash →
      ∃ g, s.chairID2GameData d = some g ∧ g.userID = g'.userID ∧ (b' ∈ g.bulletInfoHash ∨ (d = c ∧ b' = b)) := by
    intro d g' b' hg hb
    obtain ⟨g, hold, huser, hb | hw⟩ := hstep.bullet hg hb
    · exact ⟨g, hold, huser, Or.inl hb⟩
    · rw [hheld] at hw
      obtain ⟨rfl, rfl⟩ := Work.fire.inj (Option.some.inj hw)
      exact ⟨g, hold, huser, Or.inr ⟨rfl, rfl⟩⟩
  refine ⟨?_, ?_, ?_, ?_, ?_, ?_, ?_⟩
  · rw [hfires]
    exact h.numbered
  · rw [hnets, hfires]
    exact h.nets
  · rw [hnets]
    exact h.once
  · intro d g' b' hg hb
    rw [hnets, hfires]
    obtain ⟨g, hold, huser, hb | ⟨rfl, rfl⟩⟩ := hbefore d g' b' hg hb
    · rw [← huser]
      exact h.known d g b' hold hb
    · rw [← huser]
      exact ⟨hmine g hold, hunused⟩
  · intro d g₁ b₁ hg₁ hb₁ e g₂ b₂ hg₂ hb₂ heq
    obtain ⟨g₃, hg₃, -, hb₃ | ⟨rfl, rfl⟩⟩ := hbefore d g₁ b₁ hg₁ hb₁
    · obtain ⟨g₄, hg₄, -, hb₄ | ⟨rfl, rfl⟩⟩ := hbefore e g₂ b₂ hg₂ hb₂
      · exact h.apart d g₃ b₁ hg₃ hb₃ e g₄ b₂ hg₄ hb₄ heq
      · exact absurd heq.symm (hother d g₃ b₁ hg₃ hb₃)
    · obtain ⟨g₄, hg₄, -, hb₄ | ⟨rfl, rfl⟩⟩ := hbefore e g₂ b₂ hg₂ hb₂
      · exact absurd heq (hother e g₄ b₂ hg₄ hb₄)
      · exact ⟨rfl, rfl⟩
  · intro d b' hw
    rw [hwork] at hw
    cases hw
  · intro d userID b' rest fish hw
    rw [hwork] at hw
    cases hw

/-- A net catch is completed: its bullet is gone. -/
theorem ShotInv.completed (h : ShotInv s) {c userID : Nat} {b : BulletInfo} (hheld : s.work = some (.net c userID b [] none))
    (hwork : s'.work = none) (hfires : s'.fires = s.fires) (hnets : s'.nets = (b.shot, userID) :: s.nets)
    (hchairs : ∀ d g', s'.chairID2GameData d = some g' → Was s d g')
    (hgone : ∀ g', s'.chairID2GameData c = some g' → ∀ b' ∈ g'.bulletInfoHash, b'.id ≠ b.id) : ShotInv s' := by
  obtain ⟨hmine, hunused, honly⟩ := h.catching c userID b [] none hheld
  have hbefore := before_of_was hchairs
  refine ⟨?_, ?_, ?_, ?_, ?_, ?_, ?_⟩
  · rw [hfires]
    exact h.numbered
  · rw [hnets, hfires]
    exact List.cons_subset.2 ⟨hmine, h.nets⟩
  · rw [hnets, List.map_cons]
    exact List.nodup_cons.2 ⟨hunused, h.once⟩
  · intro d g' b' hg hb
    obtain ⟨g, hold, huser, hbold⟩ := hbefore d g' b' hg hb
    rw [hfires, hnets, ← huser, List.map_cons]
    refine ⟨(h.known d g b' hold hbold).1, fun hmem => ?_⟩
    rcases List.mem_cons.1 hmem with heq | hmem
    · obtain ⟨rfl, hid⟩ := honly d g b' hold hbold heq
      exact hgone g' hg b' hb hid
    · exact (h.known d g b' hold hbold).2 hmem
  · exact h.apart_of_before hbefore
  · intro d b' hw
    rw [hwork] at hw
    cases hw
  · intro d userID b' rest fish hw
    rw [hwork] at hw
    cases hw

/-- Every other step. -/
theorem ShotInv.other (h : ShotInv s) (hfire : ∀ c b, s'.work = some (.fire c b) → s.work = some (.fire c b))
    (hnet : ∀ c userID b rest fish, s'.work = some (.net c userID b rest fish) →
      (∃ rest fish, s.work = some (.net c userID b rest fish)) ∨
        ∃ g, s.chairID2GameData c = some g ∧ g.userID = userID ∧ b ∈ g.bulletInfoHash)
    (hfires : s'.fires = s.fires) (hnets : s'.nets = s.nets)
    (hchairs : ∀ d g', s'.chairID2GameData d = some g' → Was s d g' ∨ SatDown s i d g') : ShotInv s' := by
  have hbefore := before_of_chairs hchairs
  refine ⟨?_, ?_, ?_, ?_, ?_, ?_, ?_⟩
  · rw [hfires]
    exact h.numbered
  · rw [hnets, hfires]
    exact h.nets
  · rw [hnets]
    exact h.once
  · intro d g' b' hg hb
    obtain ⟨g, hold, huser, hb⟩ := hbefore d g' b' hg hb
    rw [hnets, hfires, ← huser]
    exact h.known d g b' hold hb
  · exact h.apart_of_before hbefore
  · intro c b hw
    have hw := hfire c b hw
    obtain ⟨hlt, hunused, hmine, hothers⟩ := h.firing c b hw
    rw [hnets, hfires]
    refine ⟨hlt, hunused, fun g' hg' => ?_, fun d g' b' hg hb => ?_⟩
    · rcases hchairs c g' hg' with ⟨g, hg, huser, -⟩ | ⟨hfree, -⟩
      · rw [← huser]
        exact hmine g hg
      · rw [hw] at hfree
        cases hfree
    · obtain ⟨g, hold, -, hb⟩ := hbefore d g' b' hg hb
      exact hothers d g b' hold hb
  · intro c userID b rest fish hw
    rw [hnets, hfires]
    have hstart : (b.shot, userID) ∈ s.fires ∧ b.shot ∉ s.nets.map Prod.fst ∧
        ∀ d g' b', s.chairID2GameData d = some g' → b' ∈ g'.bulletInfoHash → b'.shot = b.shot → d = c ∧ b'.id = b.id := by
      rcases hnet c userID b rest fish hw with ⟨rest₁, fish₁, hw⟩ | ⟨g, hg, rfl, hb⟩
      · exact h.catching c userID b rest₁ fish₁ hw
      · exact ⟨(h.known c g b hg hb).1, (h.known c g b hg hb).2, h.apart c g b hg hb⟩
    refine ⟨hstart.1, hstart.2.1, fun d g' b' hg hb heq => ?_⟩
    obtain ⟨g, hold, -, hb⟩ := hbefore d g' b' hg hb
    exact hstart.2.2 d g b' hold hb heq

theorem ShotInv.step (h : ShotInv s) (hs : step cfg s i = some s') : ShotInv s' := by
  have hstep := shotStep_of_step hs
  cases hstep with
  | fired c m left g hlabel hfree hg ha hwork hfires hnets hchairs => exact h.fired hg hwork rfl hfires hnets hchairs
  | stored c b hheld hwork hfires hnets hchairs => exact h.stored (shotStep_of_step hs) hheld hwork hfires hnets
  | completed c userID b hheld hwork hfires hnets hchairs hgone => exact h.completed hheld hwork hfires hnets hchairs hgone
  | other hfire hnet hfires hnets hchairs => exact h.other hfire hnet hfires hnets hchairs

/-- No player has completed more net catches than shots of that player were accepted. -/
theorem ShotInv.count_le (h : ShotInv s) (userID : Nat) :
    (s.nets.filter fun x => x.2 = userID).length ≤ (s.fires.filter fun x => x.2 = userID).length := by
  have hnodup : (s.nets.filter fun x => x.2 = userID).Nodup := (List.Nodup.of_map _ h.once).filter _
  refine (List.subperm_of_subset hnodup fun x hx => ?_).length_le
  rw [List.mem_filter] at hx ⊢
  exact ⟨h.nets hx.1, hx.2⟩

end Step

end SasyServer.Catch
