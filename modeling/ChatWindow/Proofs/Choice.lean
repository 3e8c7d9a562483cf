import ChatWindow.Selection.Choice
import Mathlib.Data.List.DropRight

/-!
# What a choice can be

A choice keeps everything, the skeleton, or the skeleton with the longest run of latest
intermediates for which every shorter run fits as well. Which of these it is depends on what the
full candidate and the skeleton cost, and on nothing else.
-/

namespace ChatWindow.Layout

variable {l : Layout} {window : Int} {cost : Candidate → Int}

def keepingLatest (l : Layout) (k : Nat) : Candidate :=
  l.withSuffix (l.intermediates.rtake k)

@[simp] theorem keepingLatest_zero (l : Layout) : l.keepingLatest 0 = l.skeleton := by
  simp [keepingLatest, skeleton]

/-- Every number of latest intermediates up to `s` fits, and one more than `s` does not. -/
structure Longest (l : Layout) (window : Int) (cost : Candidate → Int) (s : Nat) : Prop where
  le : s ≤ l.intermediates.length
  fits : ∀ k, 1 ≤ k → k ≤ s → cost (l.keepingLatest k) ≤ window
  stops : s < l.intermediates.length → window < cost (l.keepingLatest (s + 1))

theorem Longest.le_window {s : Nat} (h : l.Longest window cost s)
    (hskeleton : cost l.skeleton ≤ window) : cost (l.keepingLatest s) ≤ window := by
  rcases Nat.eq_zero_or_pos s with rfl | hpos
  · rw [keepingLatest_zero]
    exact hskeleton
  · exact h.fits s hpos le_rfl

/-- The scan takes from `older` as long as what it has taken fits in front of `suffix`. -/
theorem eval_fill (l : Layout) (window : Int) (cost : Candidate → Int) (older suffix : List Nat) :
    ∃ t ≤ older.length,
      (l.fill window older suffix).eval cost = (older.take t).reverse ++ suffix ∧
      (∀ k, 1 ≤ k → k ≤ t → cost (l.withSuffix ((older.take k).reverse ++ suffix)) ≤ window) ∧
      (t < older.length →
        window < cost (l.withSuffix ((older.take (t + 1)).reverse ++ suffix))) := by
  -- What the scan takes moves from `older` to the front of `suffix`, so both change together.
  induction older generalizing suffix with
  | nil => exact ⟨0, le_rfl, rfl, by omega, by simp⟩
  | cons i older ih =>
    have hreverse : ∀ k, ((i :: older).take (k + 1)).reverse ++ suffix =
        (older.take k).reverse ++ (i :: suffix) := by simp
    rw [fill, Inquiry.eval_ask]
    by_cases hc : window < cost (l.withSuffix (i :: suffix))
    · rw [if_pos hc]
      exact ⟨0, Nat.zero_le _, rfl, by omega, fun _ => by simpa using hc⟩
    · rw [if_neg hc]
      obtain ⟨t, ht, heval, hfits, hstops⟩ := ih (i :: suffix)
      refine ⟨t + 1, by simpa using ht, by rw [heval, hreverse], ?_, ?_⟩
      · intro k hk hkt
        obtain ⟨k, rfl⟩ := Nat.exists_eq_add_of_le' hk
        rw [hreverse]
        rcases Nat.eq_zero_or_pos k with rfl | hpos
        · simpa using Int.not_lt.mp hc
        · exact hfits k hpos (by omega)
      · intro hlt
        rw [hreverse]
        exact hstops (by simpa using hlt)

theorem eval_fill_intermediates (l : Layout) (window : Int) (cost : Candidate → Int) :
    ∃ s, l.Longest window cost s ∧
      (l.fill window l.intermediates.reverse []).eval cost = l.intermediates.rtake s := by
  obtain ⟨s, hs, heval, hfits, hstops⟩ := l.eval_fill window cost l.intermediates.reverse []
  simp only [List.append_nil, ← List.rtake_eq_reverse_take_reverse, List.length_reverse] at *
  exact ⟨s, ⟨hs, hfits, hstops⟩, heval⟩

inductive Chosen (l : Layout) (window : Int) (cost : Candidate → Int) : Choice → Prop where
  | everything (h : cost l.full ≤ window ∨ l.intermediates = []) :
      Chosen l window cost ⟨l.full, false⟩
  | skeleton (hfull : window < cost l.full) (hsome : l.intermediates ≠ [])
      (hskeleton : window < cost l.skeleton) :
      Chosen l window cost ⟨l.skeleton, l.marker.isNone⟩
  | latest (hfull : window < cost l.full) (hsome : l.intermediates ≠ [])
      (hskeleton : cost l.skeleton ≤ window) {s : Nat} (hs : l.Longest window cost s) :
      Chosen l window cost ⟨l.keepingLatest s, l.marker.isNone⟩

theorem choose_chosen (l : Layout) (window : Int) (cost : Candidate → Int) :
    l.Chosen window cost ((l.choose window).eval cost) := by
  rw [choose, Inquiry.eval_ask, Inquiry.eval_remark]
  by_cases hfull : cost l.full ≤ window ∨ l.intermediates = []
  · rw [if_pos hfull]
    exact .everything hfull
  · rw [if_neg hfull, Inquiry.eval_ask]
    obtain ⟨hcost, hsome⟩ := not_or.mp hfull
    by_cases hskeleton : window < cost l.skeleton
    · rw [if_pos hskeleton]
      exact .skeleton (Int.not_le.mp hcost) hsome hskeleton
    · obtain ⟨s, hs, heval⟩ := l.eval_fill_intermediates window cost
      rw [if_neg hskeleton, Inquiry.eval_map, heval]
      exact .latest (Int.not_le.mp hcost) hsome (Int.not_lt.mp hskeleton) hs

theorem Chosen.slots_cases {c : Choice} (h : l.Chosen window cost c) :
    (c.slots = l.full ∧ c.markerInserted = false) ∨
      ∃ s, c.slots = l.keepingLatest s ∧ c.markerInserted = l.marker.isNone := by
  cases h with
  | everything => exact .inl ⟨rfl, rfl⟩
  | skeleton => exact .inr ⟨0, l.keepingLatest_zero.symm, rfl⟩
  | @latest _ _ _ s => exact .inr ⟨s, rfl, rfl⟩

end ChatWindow.Layout
