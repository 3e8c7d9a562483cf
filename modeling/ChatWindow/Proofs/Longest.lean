import ChatWindow.Proofs.Arrangement
import Mathlib.Order.Bounds.Basic

/-!
# The longest run that fits

Where a conversation does not fit but its skeleton does, the latest intermediates are added one by
one. What is kept is the greatest number of them for which every smaller number fits too. If one
more message never makes a candidate cheaper, that is as good as trying every number of them.
-/

namespace ChatWindow

theorem filter_mem_suffix {items suffix : List Nat} (hnodup : items.Nodup)
    (h : suffix <:+ items) : items.filter (fun i => decide (i ∈ suffix)) = suffix := by
  obtain ⟨early, rfl⟩ := h
  have hdisjoint := (List.nodup_append.mp hnodup).2.2
  have hearly : early.filter (fun i => decide (i ∈ suffix)) = [] := by
    rw [List.filter_eq_nil_iff]
    intro i hi hmem
    exact hdisjoint i hi i (of_decide_eq_true hmem) rfl
  have hsuffix : suffix.filter (fun i => decide (i ∈ suffix)) = suffix := by
    rw [List.filter_eq_self]
    exact fun i hi => decide_eq_true hi
  rw [List.filter_append, hearly, hsuffix, List.nil_append]

namespace Layout

variable {messages : List Message} {l : Layout} {window : Int} {cost : Candidate → Int} {s : Nat}

theorem some_mem_withSuffix_iff (h : (parts (Selection.standings messages)).layout? = some l)
    {suffix : List Nat} {i : Nat} (hi : i ∈ l.intermediates) :
    some i ∈ (l.withSuffix suffix).map Slot.position? ↔ i ∈ suffix := by
  have hnodup := order_nodup h
  have hother : i ∉ l.system ∧ i ≠ l.first ∧ l.marker ≠ some i ∧ l.latest ≠ some i := by
    simp only [order, List.nodup_append, List.nodup_cons, List.mem_cons, List.mem_append,
      Option.mem_toList] at hnodup
    grind
  rw [grouped_withSuffix]
  simp only [List.mem_append, List.mem_map, List.mem_singleton, Option.mem_toList]
  grind

theorem Longest.isGreatest (h : l.Longest window cost s) :
    IsGreatest {n | n ≤ l.intermediates.length ∧
      ∀ k, 1 ≤ k → k ≤ n → cost (l.keepingLatest k) ≤ window} s := by
  refine ⟨⟨h.le, h.fits⟩, ?_⟩
  rintro n ⟨hn, hfits⟩
  by_contra hlt
  have hs : s + 1 ≤ n := by omega
  have hfit := hfits (s + 1) (by omega) hs
  have hstop := h.stops (by omega)
  omega

/-- No number of latest intermediates costs less than a smaller one. -/
def NeverCheaper (l : Layout) (cost : Candidate → Int) : Prop :=
  ∀ k < l.intermediates.length, cost (l.keepingLatest k) ≤ cost (l.keepingLatest (k + 1))

theorem NeverCheaper.le (h : l.NeverCheaper cost) {j k : Nat} (hjk : j ≤ k)
    (hk : k ≤ l.intermediates.length) :
    cost (l.keepingLatest j) ≤ cost (l.keepingLatest k) := by
  induction k, hjk using Nat.le_induction with
  | base => exact Int.le_refl _
  | succ k hjk ih => exact Int.le_trans (ih (by omega)) (h k (by omega))

theorem Longest.exhaustive (h : l.Longest window cost s) (hskeleton : cost l.skeleton ≤ window)
    (hcost : l.NeverCheaper cost) :
    cost (l.keepingLatest s) ≤ window ∧
      ∀ k, s < k → k ≤ l.intermediates.length → window < cost (l.keepingLatest k) := by
  refine ⟨h.le_window hskeleton, fun k hsk hk => ?_⟩
  have hstop := h.stops (by omega)
  have hle := hcost.le (show s + 1 ≤ k by omega) hk
  omega

def keptIn (l : Layout) (sources : List (Option Nat)) : List Nat :=
  l.intermediates.filter fun i => decide (some i ∈ sources)

theorem keptIn_keepingLatest (h : (parts (Selection.standings messages)).layout? = some l)
    (s : Nat) :
    l.keptIn ((l.keepingLatest s).map Slot.position?) = l.intermediates.rtake s := by
  have hmem : l.keptIn ((l.keepingLatest s).map Slot.position?) =
      l.intermediates.filter fun i => decide (i ∈ l.intermediates.rtake s) := by
    apply List.filter_congr
    intro i hi
    rw [keepingLatest, decide_eq_decide]
    exact some_mem_withSuffix_iff h hi
  rw [hmem]
  exact filter_mem_suffix (intermediates_nodup h) (List.drop_suffix _ _)

theorem exists_longest_chosenSlots (h : (parts (Selection.standings messages)).layout? = some l)
    (hfull : window < cost l.full) (hsome : l.intermediates ≠ [])
    (hskeleton : cost l.skeleton ≤ window) :
    ∃ s, l.Longest window cost s ∧ chosenSlots messages window cost = l.keepingLatest s := by
  have hchosen := l.choose_chosen window cost
  rw [chosenSlots, ChatWindow.choose, h]
  generalize (l.choose window).eval cost = c at hchosen
  cases hchosen with
  | everything hfits =>
    rcases hfits with hfits | hnone
    · omega
    · exact absurd hnone hsome
  | skeleton _ _ hlarge => omega
  | latest _ _ _ hs => exact ⟨_, hs, rfl⟩

end Layout

namespace Selection

/-- Where everything is too much and the skeleton is not, the greatest number of latest
intermediates is kept for which every smaller number fits as well; and where one more message is
never cheaper, no greater number fits. -/
theorem select_keeps_longest (cost : List Message → Int) (messages : List Message) (window : Int)
    (requestId : Value) (known : Option Int) (p : Progress) (l : Layout)
    (hl : (parts (standings messages)).layout? = some l)
    (hfull : window < price cost messages known l.full) (hsome : l.intermediates ≠ [])
    (hskeleton : price cost messages known l.skeleton ≤ window) :
    ∃ s q n, (select (fun ms => .ok (cost ms)) messages window requestId known).run p =
        (.ok s, q) ∧
      s.sources = (l.keepingLatest n).map Slot.position? ∧
      l.keptIn s.sources = l.intermediates.rtake n ∧
      IsGreatest {n | n ≤ l.intermediates.length ∧ ∀ k, 1 ≤ k → k ≤ n →
        price cost messages known (l.keepingLatest k) ≤ window} n ∧
      (l.NeverCheaper (price cost messages known) →
        price cost messages known (l.keepingLatest n) ≤ window ∧
        ∀ k, n < k → k ≤ l.intermediates.length →
          window < price cost messages known (l.keepingLatest k)) := by
  have hne : messages ≠ [] := by
    rintro rfl
    cases hl
  obtain ⟨calls, q, hrun⟩ := exists_run_select hne
  obtain ⟨n, hlongest, hslots⟩ := Layout.exists_longest_chosenSlots hl hfull hsome hskeleton
  rw [← slots_eval_outcome] at hslots
  refine ⟨_, q, n, hrun, ?_, ?_, hlongest.isGreatest, hlongest.exhaustive hskeleton⟩
  · rw [ofOutcome, hslots]
  · rw [ofOutcome, hslots]
    exact Layout.keptIn_keepingLatest hl n

def sixMessages : List Message :=
  [.ofText .system "be brief", .ofText .user "one", .ofText .assistant "two",
    .ofText .user "three", .ofText .assistant "four", .ofText .user "five"]

theorem select_keeps_longest_sixMessages :
    (parts (standings sixMessages)).layout? = some ⟨[0], 1, none, [2, 3, 4], some 5⟩ ∧
      ∃ s q, (select (fun ms => .ok ms.length) sixMessages 5 .null none).run {} = (.ok s, q) ∧
        s.sources = [some 0, some 1, none, some 4, some 5] := by
  have hl : (parts (standings sixMessages)).layout? =
      some ⟨[0], 1, none, [2, 3, 4], some 5⟩ := by decide
  obtain ⟨s, q, n, hrun, hsources, -, hgreatest, -⟩ :=
    select_keeps_longest (fun ms => ms.length) sixMessages 5 .null none {} _ hl (by decide)
      (by decide) (by decide)
  have hn : n = 1 := by
    refine hgreatest.unique ⟨⟨by decide, ?_⟩, ?_⟩
    · intro k hk hk1
      obtain rfl : k = 1 := by omega
      decide
    · rintro m ⟨-, hm⟩
      by_contra hlt
      exact absurd (hm 2 (by omega) (by omega)) (by decide)
  refine ⟨hl, s, q, hrun, ?_⟩
  rw [hsources, hn]
  decide

end Selection

end ChatWindow
