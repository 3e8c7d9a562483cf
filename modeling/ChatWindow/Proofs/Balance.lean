import ChatWindow.Proofs.Longest
import ChatWindow.Proofs.Widening

/-!
# Reports that balance

A selection leaves out intermediates and nothing else, and it puts in one marker at most. So what
its report counts as dropped are the positions that are missing from the sources, and the messages
before and after differ by them and by the marker. The costs that it reports are those of the
messages before and after, as long as there are any: of an empty conversation nothing is measured,
and it is reported to cost nothing and to exceed no window.
-/

namespace ChatWindow

open Selection (standings)

/-- The positions of a conversation that no message comes from. -/
def missing (messages : List Message) (sources : List (Option Nat)) : List Nat :=
  (List.range messages.length).filter fun i => !sources.contains (some i)

def returned (messages : List Message) (sources : List (Option Nat)) : List Nat :=
  (List.range messages.length).filter fun i => sources.contains (some i)

variable {messages kept : List Message} {sources : List (Option Nat)}

theorem length_returned_add_length_missing (messages : List Message)
    (sources : List (Option Nat)) :
    (returned messages sources).length + (missing messages sources).length = messages.length := by
  have hsplit := List.length_eq_length_filter_add (l := List.range messages.length)
    fun i => sources.contains (some i)
  rw [List.length_range] at hsplit
  exact hsplit.symm

theorem mem_missing_iff {i : Nat} :
    i ∈ missing messages sources ↔ i < messages.length ∧ some i ∉ sources := by
  simp [missing]

theorem missing_ne_nil_iff :
    missing messages sources ≠ [] ↔ ∃ i < messages.length, some i ∉ sources := by
  constructor
  · intro hne
    obtain ⟨i, hi⟩ := List.exists_mem_of_ne_nil _ hne
    exact ⟨i, mem_missing_iff.mp hi⟩
  · rintro ⟨i, hi⟩
    exact List.ne_nil_of_mem (mem_missing_iff.mpr hi)

namespace Arrangement

theorem lt_of_mem (h : Arrangement messages sources kept) {i : Nat} (hi : some i ∈ sources) :
    i < messages.length := by
  obtain ⟨n, hn, hget⟩ := List.mem_iff_getElem.mp hi
  have hsourced := (List.forall₂_iff_get.mp h.sourced).2 n hn (h.sourced.length_eq ▸ hn)
  rw [List.get_eq_getElem, hget] at hsourced
  exact (List.getElem?_eq_some_iff.mp hsourced).1

theorem mem_returned_iff (h : Arrangement messages sources kept) {i : Nat} :
    i ∈ returned messages sources ↔ some i ∈ sources := by
  rw [returned, List.mem_filter, List.mem_range, List.contains_iff_mem]
  exact and_iff_right_of_imp h.lt_of_mem

theorem sources_perm (h : Arrangement messages sources kept) :
    sources.Perm ((returned messages sources).map some ++
      if none ∈ sources then [none] else []) := by
  have hnodup : ((returned messages sources).map some ++
      if none ∈ sources then [none] else []).Nodup := by
    rw [List.nodup_append]
    refine ⟨(List.nodup_range.filter _).map (Option.some_injective Nat), ?_, ?_⟩
    · split <;> simp
    · intro a ha b hb
      obtain ⟨i, -, rfl⟩ := List.mem_map.mp ha
      split at hb
      · rw [List.mem_singleton.mp hb]
        exact Option.some_ne_none i
      · cases hb
  rw [List.perm_ext_iff_of_nodup h.nodup hnodup]
  intro source
  cases source with
  | some i => by_cases hnone : none ∈ sources <;> simp [hnone, h.mem_returned_iff]
  | none => by_cases hnone : none ∈ sources <;> simp [hnone]

theorem length_add_length_missing (h : Arrangement messages sources kept) :
    kept.length + (missing messages sources).length =
      messages.length + if none ∈ sources then 1 else 0 := by
  have hsources := h.sources_perm.length_eq
  have hsplit := length_returned_add_length_missing messages sources
  have hlength := h.sourced.length_eq
  have hinserted : (if none ∈ sources then [(none : Option Nat)] else []).length =
      if none ∈ sources then 1 else 0 := by split <;> rfl
  rw [List.length_append, List.length_map, hinserted] at hsources
  omega

end Arrangement

/-! ## What is left out -/

section
variable {l : Layout} {i : Nat}

theorem Layout.kept_mem_withSuffix (h : i ∈ l.order) (hbetween : i ∉ l.intermediates)
    (suffix : List Nat) : Slot.kept i ∈ l.withSuffix suffix := by
  have hkeeping : ∀ {ps : List Nat}, i ∈ ps → Slot.kept i ∈ keeping ps :=
    fun hi => List.mem_map_of_mem hi
  rw [order, List.mem_append, List.mem_cons, List.mem_append, List.mem_append] at h
  rw [withSuffix_eq, List.mem_append, List.mem_cons]
  rcases h with hsystem | hfirst | hmarker | hmiddle | hlatest
  · exact .inl (hkeeping (List.mem_append_left _ hsystem))
  · exact .inl (hkeeping (List.mem_append_right _ (hfirst ▸ List.mem_singleton_self _)))
  · rw [Option.mem_toList] at hmarker
    exact .inr (.inl (by rw [skip, hmarker]))
  · exact absurd hmiddle hbetween
  · exact .inr (.inr (hkeeping (List.mem_append_right _ hlatest)))

theorem kept_mem_chosenSlots (hi : i < messages.length)
    (hbetween : i ∉ (parts (standings messages)).intermediates) (window : Int)
    (cost : Candidate → Int) : Slot.kept i ∈ chosenSlots messages window cost := by
  rw [Parts.intermediates] at hbetween
  cases hl : (parts (standings messages)).layout? with
  | none =>
    rw [chosenSlots_of_chat_nil (layout?_eq_none_iff.mp hl)]
    exact List.mem_map_of_mem (List.mem_range.mpr hi)
  | some l =>
    rw [hl] at hbetween
    have horder := (Layout.mem_order_iff hl).mpr hi
    rcases chosenSlots_cases hl window cost with hslots | ⟨s, hslots⟩
    · rw [hslots, Layout.full_eq]
      exact List.mem_map_of_mem horder
    · rw [hslots]
      exact Layout.kept_mem_withSuffix horder hbetween _

theorem mem_dropped_iff (messages : List Message) (window : Int) (cost : Candidate → Int) :
    i ∈ ((outcome (standings messages) window).eval cost).dropped ↔
      i ∈ missing messages ((chosenSlots messages window cost).map Slot.position?) := by
  rw [Outcome.dropped, List.mem_filter, Selection.intermediates_eval, slots_eval_outcome,
    mem_missing_iff, some_mem_sources_iff, Bool.not_eq_true', List.contains_eq_mem,
    decide_eq_false_iff_not]
  constructor
  · rintro ⟨hbetween, hmissing⟩
    exact ⟨lt_of_mem_intermediates hbetween, hmissing⟩
  · rintro ⟨hi, hmissing⟩
    refine ⟨?_, hmissing⟩
    by_contra hbetween
    exact hmissing (kept_mem_chosenSlots hi hbetween window cost)

theorem length_dropped (messages : List Message) (window : Int) (cost : Candidate → Int) :
    ((outcome (standings messages) window).eval cost).dropped.length =
      (missing messages ((chosenSlots messages window cost).map Slot.position?)).length := by
  have hbetween : (parts (standings messages)).intermediates.Nodup := by
    rw [Parts.intermediates]
    cases hl : (parts (standings messages)).layout? with
    | none => exact List.nodup_nil
    | some l => exact Layout.intermediates_nodup hl
  have hdropped : ((outcome (standings messages) window).eval cost).dropped.Nodup := by
    rw [Outcome.dropped, Selection.intermediates_eval]
    exact hbetween.filter _
  refine ((List.perm_ext_iff_of_nodup hdropped (List.nodup_range.filter _)).mpr ?_).length_eq
  exact fun i => mem_dropped_iff messages window cost

theorem markerInserted_iff (messages : List Message) (window : Int) (cost : Candidate → Int) :
    ((outcome (standings messages) window).eval cost).choice.markerInserted = true ↔
      none ∈ (chosenSlots messages window cost).map Slot.position? := by
  rw [Selection.choice_eval, none_mem_sources_iff]
  cases hl : (parts (standings messages)).layout? with
  | none =>
    have hchat := layout?_eq_none_iff.mp hl
    rw [eval_choose_of_chat_nil hchat, chosenSlots_of_chat_nil hchat]
    exact iff_of_false Bool.false_ne_true (inserted_notMem_keeping _)
  | some l =>
    have hchosen := l.choose_chosen window cost
    rw [chosenSlots, choose, hl]
    rcases hchosen.slots_cases with ⟨hslots, hinserted⟩ | ⟨s, hslots, hinserted⟩
    · rw [hslots, hinserted]
      exact iff_of_false Bool.false_ne_true l.inserted_notMem_full
    · rw [hslots, hinserted, Layout.inserted_mem_keepingLatest_iff, Option.isNone_iff_eq_none]

end

namespace Selection

/-- The counts of a report agree with the messages that are returned. -/
structure Balanced (messages : List Message) (s : Selection) : Prop where
  given : s.report.givenCount = messages.length
  final : s.report.finalCount = s.messages.length
  balance : (s.report.finalCount : Int) = s.report.givenCount - s.report.dropped +
    if s.report.markerInserted then 1 else 0
  dropped : s.report.dropped = (missing messages s.sources).length
  truncated : s.report.truncated = true ↔ ∃ i < messages.length, some i ∉ s.sources
  inserted : s.report.markerInserted = true ↔ none ∈ s.sources

variable {measure : List Message → Except Failure Int} {window : Int} {requestId : Value}
  {known : Option Int} {p q : Progress} {s : Selection}

theorem balanced_empty (window : Int) (requestId : Value) :
    Balanced [] (empty window requestId) where
  given := rfl
  final := rfl
  balance := rfl
  dropped := rfl
  truncated := by simp [empty]
  inserted := by simp [empty]

theorem balanced_of_run_select
    (h : (select measure messages window requestId known).run p = (.ok s, q)) :
    Balanced messages s := by
  rcases eq_or_ne messages [] with rfl | hne
  · cases h
    exact balanced_empty window requestId
  · have harranged := arrangement_of_run_select h
    obtain ⟨o, calls, ho, rfl⟩ := exists_outcome_of_run_select hne h
    obtain ⟨cost, rfl, -⟩ := Inquiry.exists_eval_of_attempt ho
    have hdropped := length_dropped messages window cost
    have hinserted := markerInserted_iff messages window cost
    rw [← slots_eval_outcome] at hdropped hinserted
    have hcount := harranged.length_add_length_missing
    generalize (outcome (standings messages) window).eval cost = o at *
    refine ⟨rfl, (List.length_map _).symm, ?_, hdropped, ?_, hinserted⟩
    · change (o.choice.slots.map (Slot.message messages)).length +
        (missing messages (o.choice.slots.map Slot.position?)).length =
          messages.length + if none ∈ o.choice.slots.map Slot.position? then 1 else 0 at hcount
      change (o.choice.slots.length : Int) = messages.length - o.dropped.length +
        if o.choice.markerInserted = true then 1 else 0
      rw [List.length_map, ← hdropped] at hcount
      by_cases hmarker : o.choice.markerInserted = true
      · rw [if_pos (hinserted.mp hmarker)] at hcount
        rw [if_pos hmarker]
        omega
      · rw [if_neg (mt hinserted.mpr hmarker)] at hcount
        rw [if_neg hmarker]
        omega
    · rw [← missing_ne_nil_iff, ← List.length_pos_iff]
      rw [ofOutcome, Outcome.report, ← hdropped]
      cases o.dropped <;> simp

theorem exceeded_of_run_select (hne : messages ≠ [])
    (h : (select measure messages window requestId known).run p = (.ok s, q)) :
    s.report.windowSize = window ∧
      s.report.exceeded = decide (s.report.windowSize < s.report.finalTokens) := by
  obtain ⟨o, calls, -, rfl⟩ := exists_outcome_of_run_select hne h
  exact ⟨rfl, rfl⟩

/-- What is dropped is what is missing from the result, and what is said to be put in is there: the
numbers of messages before and after differ by just that. The token counts are the costs of the
messages before and after, and the budget is exceeded exactly where the latter is more than the
window. Of no messages at all nothing is measured, and they are said to cost nothing and to fit. -/
theorem select_balances (cost : List Message → Int) (messages : List Message) (window : Int)
    (requestId : Value) (known : Option Int) (p : Progress) :
    ∃ s q, (select (fun ms => .ok (cost ms)) messages window requestId known).run p = (.ok s, q) ∧
      Balanced messages s ∧ s.report.windowSize = window ∧
      (messages ≠ [] →
        (s.report.exceeded = true ↔ s.report.windowSize < s.report.finalTokens) ∧
        ((∀ k, known = some k → cost messages = k) →
          s.report.finalTokens = cost s.messages ∧ s.report.givenTokens = cost messages)) ∧
      (messages = [] →
        s.report.finalTokens = 0 ∧ s.report.givenTokens = 0 ∧ s.report.exceeded = false ∧
          q = p) := by
  obtain ⟨s, q, hrun⟩ := run_select_returns cost messages window requestId known p
  refine ⟨s, q, hrun, balanced_of_run_select hrun, ?_, fun hne => ⟨?_, fun hknown => ?_⟩, ?_⟩
  · rcases eq_or_ne messages [] with rfl | hne
    · cases hrun
      rfl
    · exact (exceeded_of_run_select hne hrun).1
  · rw [(exceeded_of_run_select hne hrun).2, decide_eq_true_iff]
  · have hmeasured : ∀ k, known = some k → (.ok (cost messages) : Except Failure Int) = .ok k :=
      fun k hk => congrArg Except.ok (hknown k hk)
    obtain ⟨hgiven, hfinal, -⟩ := report_of_run_select hne hmeasured hrun
    exact ⟨(Except.ok.inj hfinal).symm, (Except.ok.inj hgiven).symm⟩
  · rintro rfl
    cases hrun
    exact ⟨rfl, rfl, rfl, rfl⟩

/-- Where an empty conversation costs a token, as with a template that opens the answer, that token
is not reported, and a window below zero is not reported to be exceeded. -/
theorem select_balances_nothing :
    ∃ s q, (select (fun ms => .ok (ms.length + 1)) [] (-1) .null none).run {} = (.ok s, q) ∧
      s.report.finalTokens ≠ s.messages.length + 1 ∧ s.report.givenTokens ≠ 1 ∧
      ¬(s.report.exceeded = true ↔ s.report.windowSize < s.report.finalTokens) := by
  refine ⟨_, _, run_select_nil, by decide, by decide, ?_⟩
  decide

end Selection

end ChatWindow
