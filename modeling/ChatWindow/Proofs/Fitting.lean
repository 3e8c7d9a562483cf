import ChatWindow.Proofs.Grouping
import ChatWindow.Proofs.Longest
import Mathlib.Data.Nat.Find

/-!
# Fitting groups into a window

What a selection keeps, said of the groups of a conversation: all of them if they fit or if there is
nothing between the first message and the latest one, and otherwise the greatest number of latest
intermediates for which no smaller number is too much. What is fitted so fits or has nothing left to
leave out, and fitting it into a smaller window is as good as having done so at once.
-/

namespace ChatWindow

open Selection (standings)

namespace Grouping

variable (g : Grouping) (window : Int) (cost : List Message → Int)

/-- The greatest number of latest intermediates that fits with every smaller number. -/
def longest : Nat :=
  Nat.findGreatest (fun n => ∀ k ≤ n, cost (g.latest k).messages ≤ window) g.between

def fitted : Grouping :=
  if cost g.messages ≤ window ∨ g.between = 0 then g else g.latest (g.longest window cost)

theorem longest_le : g.longest window cost ≤ g.between := Nat.findGreatest_le _

variable {g window cost}

theorem fits_of_longest_ne_zero (h : g.longest window cost ≠ 0) :
    ∀ k ≤ g.longest window cost, cost (g.latest k).messages ≤ window :=
  Nat.findGreatest_of_ne_zero
    (P := fun n => ∀ k ≤ n, cost (g.latest k).messages ≤ window) rfl h

theorem le_longest {n : Nat} (hn : n ≤ g.between)
    (h : ∀ k ≤ n, cost (g.latest k).messages ≤ window) : n ≤ g.longest window cost :=
  Nat.le_findGreatest (P := fun n => ∀ k ≤ n, cost (g.latest k).messages ≤ window) hn h

theorem longest_eq_zero (h : window < cost (g.latest 0).messages) :
    g.longest window cost = 0 := by
  by_contra hne
  have hfit := fits_of_longest_ne_zero hne 0 (Nat.zero_le _)
  omega

theorem longest_le_longest {h : Grouping} {other : Int}
    (hbound : g.longest window cost ≤ h.between)
    (hfits : ∀ k ≤ g.longest window cost, cost (g.latest k).messages ≤ window →
      cost (h.latest k).messages ≤ other) :
    g.longest window cost ≤ h.longest other cost := by
  rcases Nat.eq_zero_or_pos (g.longest window cost) with hzero | hpos
  · rw [hzero]
    exact Nat.zero_le _
  · refine le_longest hbound fun k hk => ?_
    exact hfits k hk (fits_of_longest_ne_zero (Nat.ne_of_gt hpos) k hk)

theorem longest_mono {narrow wide : Int} (hle : narrow ≤ wide) :
    g.longest narrow cost ≤ g.longest wide cost :=
  longest_le_longest (g.longest_le narrow cost) fun _ _ hfit => Int.le_trans hfit hle

theorem longest_latest (j : Nat) :
    (g.latest j).longest window cost = min j (g.longest window cost) := by
  apply Nat.le_antisymm
  · have hbound := (g.latest j).longest_le window cost
    rw [between_latest] at hbound
    refine Nat.le_min.mpr ⟨by omega, longest_le_longest (by omega) fun k hk hfit => ?_⟩
    rwa [latest_latest, Nat.min_eq_right (by omega)] at hfit
  · rcases Nat.eq_zero_or_pos (g.longest window cost) with hzero | hpos
    · rw [hzero, Nat.min_zero]
      exact Nat.zero_le _
    · have hbound := g.longest_le window cost
      refine le_longest (by rw [between_latest]; omega) fun k hk => ?_
      rw [latest_latest, Nat.min_eq_right (by omega)]
      exact fits_of_longest_ne_zero (Nat.ne_of_gt hpos) k (by omega)

theorem fitted_of_fits (h : cost g.messages ≤ window ∨ g.between = 0) :
    g.fitted window cost = g := if_pos h

theorem fitted_of_not_fits (h : ¬(cost g.messages ≤ window ∨ g.between = 0)) :
    g.fitted window cost = g.latest (g.longest window cost) := if_neg h

theorem fitted_fits (g : Grouping) (window : Int) (cost : List Message → Int) :
    cost (g.fitted window cost).messages ≤ window ∨ (g.fitted window cost).between = 0 := by
  by_cases h : cost g.messages ≤ window ∨ g.between = 0
  · rw [fitted_of_fits h]
    exact h
  · rw [fitted_of_not_fits h]
    rcases Nat.eq_zero_or_pos (g.longest window cost) with hzero | hpos
    · right
      rw [between_latest, hzero, Nat.zero_min]
    · exact .inl (fits_of_longest_ne_zero (Nat.ne_of_gt hpos) _ (Nat.le_refl _))

theorem fitted_fitted_of_le {narrow wide : Int} (hle : narrow ≤ wide)
    (hcost : ∀ j k, j ≤ k → k ≤ g.between →
      cost (g.latest j).messages ≤ cost (g.latest k).messages) :
    (g.fitted wide cost).fitted narrow cost = g.fitted narrow cost := by
  by_cases hwide : cost g.messages ≤ wide ∨ g.between = 0
  · rw [fitted_of_fits hwide]
  · have hnarrow : ¬(cost g.messages ≤ narrow ∨ g.between = 0) := by omega
    have hbound := g.longest_le wide cost
    have hmono : g.longest narrow cost ≤ g.longest wide cost := longest_mono hle
    rw [fitted_of_not_fits hwide, fitted_of_not_fits hnarrow]
    -- If what the wide window leaves fits the narrow one, so does everything shorter, and the two
    -- searches have ended at the same number.
    by_cases hagain : cost (g.latest (g.longest wide cost)).messages ≤ narrow ∨
        (g.latest (g.longest wide cost)).between = 0
    · rw [fitted_of_fits hagain]
      congr 1
      apply Nat.le_antisymm _ hmono
      rcases hagain with hfits | hzero
      · refine le_longest hbound fun k hk => ?_
        exact Int.le_trans (hcost k _ hk hbound) hfits
      · rw [between_latest] at hzero
        omega
    · rw [fitted_of_not_fits hagain, longest_latest, latest_latest]
      congr 1
      omega

end Grouping

theorem Layout.Longest.eq_longest {messages : List Message} {l : Layout} {g : Grouping}
    {window : Int} {cost : List Message → Int} {s : Nat} (hg : Grouped messages g)
    (hl : (parts (standings messages)).layout? = some l)
    (hskeleton : cost (l.skeleton.messages messages) ≤ window)
    (h : l.Longest window (fun c => cost (c.messages messages)) s) :
    g.longest window cost = s := by
  have hread := hg.messages_keepingLatest hl
  have hcount := hg.length_intermediates hl
  rw [← l.keepingLatest_zero, hread] at hskeleton
  have hfits : ∀ k ≤ s, cost (g.latest k).messages ≤ window := by
    intro k hk
    rcases Nat.eq_zero_or_pos k with rfl | hpos
    · exact hskeleton
    · rw [← hread]
      exact h.fits k hpos hk
  apply Nat.le_antisymm _ (Grouping.le_longest (hcount ▸ h.le) hfits)
  -- A longer run would have every shorter one fit, the one that stopped the scan included.
  by_contra hlt
  have hbound := g.longest_le window cost
  have hfit : cost (g.latest (s + 1)).messages ≤ window :=
    Grouping.fits_of_longest_ne_zero (by omega) (s + 1) (by omega)
  have hstop := h.stops (by omega)
  rw [hread] at hstop
  omega

theorem Grouped.messages_chosenSlots {messages : List Message} {g : Grouping}
    (hg : Grouped messages g) (window : Int) (cost : List Message → Int) :
    (chosenSlots messages window fun c => cost (c.messages messages)).messages messages =
      (g.fitted window cost).messages := by
  obtain ⟨l, hl⟩ := hg.exists_layout
  have hfull := hg.messages_full hl
  have hread := hg.messages_keepingLatest hl
  have hcount := hg.length_intermediates hl
  have hnone : l.intermediates = [] ↔ g.between = 0 := by rw [← hcount, List.length_eq_zero_iff]
  have hchosen := l.choose_chosen window fun c => cost (c.messages messages)
  rw [chosenSlots, choose, hl]
  generalize (l.choose window).eval (fun c => cost (c.messages messages)) = c at hchosen
  cases hchosen with
  | everything h =>
    rw [hfull, hnone] at h
    rw [Grouping.fitted_of_fits h]
    exact hfull
  | skeleton hover hsome hskeleton =>
    rw [hfull] at hover
    have hnot := not_or.mpr ⟨Int.not_le.mpr hover, mt hnone.mpr hsome⟩
    rw [← l.keepingLatest_zero, hread] at hskeleton
    rw [Grouping.fitted_of_not_fits hnot, Grouping.longest_eq_zero hskeleton,
      ← l.keepingLatest_zero]
    exact hread 0
  | latest hover hsome hskeleton hs =>
    rw [hfull] at hover
    have hnot := not_or.mpr ⟨Int.not_le.mpr hover, mt hnone.mpr hsome⟩
    rw [Grouping.fitted_of_not_fits hnot, hs.eq_longest hg hl hskeleton]
    exact hread _

end ChatWindow
