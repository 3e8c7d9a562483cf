import ChatWindow.Proofs.Longest

/-!
# When the budget is exceeded

A selection gives up no more than it must. Where everything fits nothing is given up. What is
returned is too much only if everything was, and either nothing could be left out or not even the
skeleton fits; then none of the intermediates is kept.
-/

namespace ChatWindow

open Selection (standings)

namespace Layout

variable {messages : List Message} {l : Layout} {window : Int} {cost : Candidate → Int}
  {c : Choice}

theorem Chosen.everything_of_fits (h : l.Chosen window cost c) (hfits : cost l.full ≤ window) :
    c.slots = l.full ∧ c.markerInserted = false := by
  cases h with
  | everything => exact ⟨rfl, rfl⟩
  | skeleton hover => omega
  | latest hover => omega

theorem Chosen.cases_of_exceeds (h : l.Chosen window cost c) (hover : window < cost c.slots) :
    (c.slots = l.full ∧ l.intermediates = []) ∨
      (c.slots = l.skeleton ∧ window < cost l.full ∧ window < cost l.skeleton) := by
  cases h with
  | everything hfits =>
    rcases hfits with hfits | hnone
    · exact absurd hover (Int.not_lt.mpr hfits)
    · exact .inl ⟨rfl, hnone⟩
  | skeleton hfull _ hskeleton => exact .inr ⟨rfl, hfull, hskeleton⟩
  | latest _ _ hskeleton hs => exact absurd hover (Int.not_lt.mpr (hs.le_window hskeleton))

/-- What is chosen is too much exactly where all is and nothing, or not enough, can be left out. -/
theorem Chosen.exceeds_iff (h : l.Chosen window cost c) :
    window < cost c.slots ↔
      window < cost l.full ∧ (l.intermediates = [] ∨ window < cost l.skeleton) := by
  constructor
  · intro hover
    rcases h.cases_of_exceeds hover with ⟨hslots, hnone⟩ | ⟨-, hfull, hskeleton⟩
    · rw [hslots] at hover
      exact ⟨hover, .inl hnone⟩
    · exact ⟨hfull, .inr hskeleton⟩
  · rintro ⟨hfull, hleft⟩
    cases h with
    | everything => exact hfull
    | skeleton _ _ hskeleton => exact hskeleton
    | latest _ hsome hfits => exact absurd hleft (not_or.mpr ⟨hsome, Int.not_lt.mpr hfits⟩)

theorem Chosen.keptIn_of_exceeds (hl : (parts (standings messages)).layout? = some l)
    (h : l.Chosen window cost c) (hover : window < cost c.slots) :
    l.keptIn (c.slots.map Slot.position?) = [] := by
  rcases h.cases_of_exceeds hover with ⟨-, hnone⟩ | ⟨hslots, -⟩
  · rw [keptIn, hnone, List.filter_nil]
  · rw [hslots, ← l.keepingLatest_zero, keptIn_keepingLatest hl, List.rtake_zero]

end Layout

theorem Layout.messages_full_perm {messages : List Message} {l : Layout}
    (hl : (parts (standings messages)).layout? = some l) :
    (l.full.messages messages).Perm messages := by
  have hperm := (full_perm hl).map (Slot.message messages)
  rw [← Candidate.messages, ← Candidate.messages, Candidate.messages_identity] at hperm
  exact hperm

theorem Layout.sources_full_perm {messages : List Message} {l : Layout}
    (hl : (parts (standings messages)).layout? = some l) :
    (l.full.map Slot.position?).Perm ((List.range messages.length).map some) := by
  rw [← map_position?_keeping]
  exact (full_perm hl).map Slot.position?

namespace Selection

/-- If everything fits, every message is returned and no marker is put in. The budget is exceeded
exactly where everything is too much and there is nothing to leave out or the skeleton is too much
as well, and then no intermediate is kept; wherever it is not exceeded, what is returned fits. Of
system messages alone nothing is ever left out. -/
theorem select_within_budget (cost : List Message → Int) (messages : List Message) (window : Int)
    (requestId : Value) (known : Option Int) (p : Progress)
    (hknown : ∀ k, known = some k → cost messages = k) :
    ∃ s q, (select (fun ms => .ok (cost ms)) messages window requestId known).run p = (.ok s, q) ∧
      (∀ l, (parts (standings messages)).layout? = some l →
        (cost (l.full.messages messages) ≤ window →
          s.sources.Perm ((List.range messages.length).map some) ∧ s.messages.Perm messages ∧
            s.report.markerInserted = false) ∧
        (s.report.exceeded = true ↔
          window < cost (l.full.messages messages) ∧
            (l.intermediates = [] ∨ window < cost (l.skeleton.messages messages))) ∧
        (s.report.exceeded = true → l.keptIn s.sources = []) ∧
        (s.report.exceeded = false → cost s.messages ≤ window)) ∧
      ((∀ m ∈ messages, m.isSystem = true) →
        s.messages = messages ∧ s.report.markerInserted = false ∧
          (s.report.exceeded = true ↔ messages ≠ [] ∧ window < cost messages)) := by
  rcases eq_or_ne messages [] with rfl | hne
  · refine ⟨empty window requestId, p, run_select_nil, fun l hl => ?_, fun _ => ⟨rfl, rfl, ?_⟩⟩
    · cases hl
    · exact iff_of_false Bool.false_ne_true fun h => h.1 rfl
  · obtain ⟨s, q, hrun, hreturns⟩ := exists_run_select_returns hne hknown
    have hexceeded : s.report.exceeded = true ↔ window < cost s.messages := by
      rw [hreturns.exceeded, decide_eq_true_iff]
    refine ⟨s, q, hrun, fun l hl => ?_, fun hsystem => ?_⟩
    · have hchosen := l.choose_chosen window fun c => cost (c.messages messages)
      rw [choose, hl] at hreturns
      change Returns cost messages window ((l.choose window).eval _) s at hreturns
      -- All that matters from here on is how the choice was made.
      generalize (l.choose window).eval (fun c => cost (c.messages messages)) = c
        at hchosen hreturns
      refine ⟨fun hfits => ?_, ?_, fun hover => ?_, fun hfits => ?_⟩
      · obtain ⟨hslots, hinserted⟩ := hchosen.everything_of_fits hfits
        rw [hreturns.sources, hreturns.kept, hreturns.markerInserted, hslots]
        exact ⟨Layout.sources_full_perm hl, Layout.messages_full_perm hl, hinserted⟩
      · rw [hexceeded, hreturns.kept]
        exact hchosen.exceeds_iff
      · rw [hexceeded, hreturns.kept] at hover
        rw [hreturns.sources]
        exact hchosen.keptIn_of_exceeds hl hover
      · rw [← Bool.not_eq_true, hexceeded, Int.not_lt] at hfits
        exact hfits
    · have hchat := chatPositions_eq_nil_iff.mpr (filter_isChat_eq_nil_iff.mpr hsystem)
      rw [eval_choose_of_chat_nil hchat] at hreturns
      have hmessages : s.messages = messages := by
        rw [hreturns.kept, Candidate.messages_identity]
      rw [hexceeded, hmessages, and_iff_right hne]
      exact ⟨rfl, hreturns.markerInserted, Iff.rfl⟩

theorem select_within_budget_sixMessages :
    (∀ k, some 6 = some k → (sixMessages.length : Int) = k) ∧
      ∃ s q, (select (fun ms => .ok ms.length) sixMessages 3 .null (some 6)).run {} =
          (.ok s, q) ∧
        s.sources = [some 0, some 1, none, some 5] ∧ s.report.exceeded = true ∧
        (⟨[0], 1, none, [2, 3, 4], some 5⟩ : Layout).keptIn s.sources = [] := by
  have hknown : ∀ k, some 6 = some k → (sixMessages.length : Int) = k := by
    rintro k ⟨⟩
    rfl
  have hl : (parts (standings sixMessages)).layout? =
      some ⟨[0], 1, none, [2, 3, 4], some 5⟩ := by decide
  obtain ⟨s, q, hrun, hchat, -⟩ :=
    select_within_budget (fun ms => ms.length) sixMessages 3 .null (some 6) {} hknown
  obtain ⟨-, hiff, hnone, -⟩ := hchat _ hl
  have hexceeded : s.report.exceeded = true := hiff.mpr ⟨by decide, .inr (by decide)⟩
  obtain ⟨t, r, ht, hsources⟩ : ∃ t r,
      (select (fun ms => .ok ms.length) sixMessages 3 .null (some 6)).run {} = (.ok t, r) ∧
        t.sources = [some 0, some 1, none, some 5] := ⟨_, _, rfl, rfl⟩
  rw [hrun] at ht
  cases ht
  exact ⟨hknown, s, q, hrun, hsources, hexceeded, hnone hexceeded⟩

end Selection

end ChatWindow
