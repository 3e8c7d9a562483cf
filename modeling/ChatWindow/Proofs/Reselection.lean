import ChatWindow.Proofs.Fitting

/-!
# Selecting again

A selection from what a selection has kept. With the same window nothing changes any more. With a
smaller one the result is that of the smaller window alone, as long as one more message never makes
a candidate cheaper.
-/

namespace ChatWindow

open Selection (standings)

/-- What is kept of a conversation: all of it where there is no chat, and the groups that fit. -/
inductive Keeps (window : Int) (cost : List Message → Int) (messages : List Message) :
    List Message → Prop where
  | alone (h : messages.filter Message.isChat = []) : Keeps window cost messages messages
  | groups (g : Grouping) (h : Grouped messages g) :
      Keeps window cost messages (g.fitted window cost).messages

/-- Nothing is left to do: there is no chat, everything fits, or nothing can be left out. -/
inductive Settled (window : Int) (cost : List Message → Int) : List Message → Prop where
  | alone {messages : List Message} (h : messages.filter Message.isChat = []) :
      Settled window cost messages
  | groups (g : Grouping) (h : cost g.messages ≤ window ∨ g.between = 0) :
      Settled window cost g.messages

section
variable {window : Int} {cost : List Message → Int} {messages kept : List Message}

theorem Grouped.unique {g h : Grouping} (hg : Grouped messages g) (hh : Grouped messages h) :
    g = h := by
  obtain ⟨hfirst, hothers⟩ := List.cons_eq_cons.mp (hg.chat.symm.trans hh.chat)
  ext1
  · exact hg.front.symm.trans hh.front
  · exact hfirst
  · exact hg.marker.symm.trans hh.marker
  · exact hothers

theorem keeps_chosenSlots (messages : List Message) (window : Int) (cost : List Message → Int) :
    Keeps window cost messages
      ((chosenSlots messages window fun c => cost (c.messages messages)).messages messages) := by
  cases hchat : messages.filter Message.isChat with
  | nil =>
    rw [chosenSlots_of_chat_nil (chatPositions_eq_nil_iff.mpr hchat), Candidate.messages_identity]
    exact .alone hchat
  | cons c cs =>
    obtain ⟨g, hg⟩ := exists_grouped hchat
    rw [hg.messages_chosenSlots]
    exact .groups g hg

namespace Keeps

theorem unique {other : List Message} (h : Keeps window cost messages kept)
    (h' : Keeps window cost messages other) : kept = other := by
  cases h with
  | alone hnone =>
    cases h' with
    | alone => rfl
    | groups g hg =>
      rw [hg.chat] at hnone
      cases hnone
  | groups g hg =>
    cases h' with
    | alone hnone =>
      rw [hg.chat] at hnone
      cases hnone
    | groups g' hg' => rw [hg.unique hg']

theorem settled (h : Keeps window cost messages kept) : Settled window cost kept := by
  cases h with
  | alone hnone => exact .alone hnone
  | groups g => exact .groups _ (g.fitted_fits window cost)

theorem eq_nil_iff (h : Keeps window cost messages kept) : kept = [] ↔ messages = [] := by
  cases h with
  | alone => exact Iff.rfl
  | groups g hg =>
    have hkept : (g.fitted window cost).messages ≠ [] := by simp [Grouping.messages]
    refine iff_of_false hkept ?_
    rintro rfl
    cases hg.chat

theorem narrow {smaller : Int} {again : List Message} (hle : smaller ≤ window)
    (hcost : ∀ l, (parts (standings messages)).layout? = some l →
      l.NeverCheaper fun c => cost (c.messages messages))
    (h : Keeps window cost messages kept) (hagain : Keeps smaller cost kept again) :
    Keeps smaller cost messages again := by
  cases h with
  | alone => exact hagain
  | groups g hg =>
    have hfitted := (g.fitted window cost).grouped_messages
    obtain ⟨l, hl⟩ := hg.exists_layout
    have hmono : ∀ j k, j ≤ k → k ≤ g.between →
        cost (g.latest j).messages ≤ cost (g.latest k).messages := by
      intro j k hjk hk
      rw [← hg.length_intermediates hl] at hk
      rw [← hg.messages_keepingLatest hl, ← hg.messages_keepingLatest hl]
      exact (hcost l hl).le hjk hk
    -- What was kept is a conversation of its own, and its groups are those that were fitted.
    rw [hagain.unique (.groups _ hfitted), Grouping.fitted_fitted_of_le hle hmono]
    exact .groups g hg

end Keeps

theorem Settled.eval_choose (h : Settled window cost messages) :
    (choose (parts (standings messages)) window).eval (fun c => cost (c.messages messages)) =
      ⟨identity messages.length, false⟩ := by
  cases h with
  | alone hnone =>
    exact eval_choose_of_chat_nil (chatPositions_eq_nil_iff.mpr hnone) _ _
  | groups g hfits =>
    have hg := g.grouped_messages
    obtain ⟨l, hl⟩ := hg.exists_layout
    have hidentity := g.full_eq_identity hl
    rw [← hg.messages_full hl, ← hg.length_intermediates hl, List.length_eq_zero_iff] at hfits
    rw [choose, hl]
    change (l.choose window).eval _ = _
    rw [Layout.choose, Inquiry.eval_ask, Inquiry.eval_remark, if_pos hfits, Inquiry.eval_answer,
      hidentity]

end

theorem filter_intermediates_identity (messages : List Message) :
    ((parts (standings messages)).intermediates.filter fun i =>
      !(identity messages.length).contains (.kept i)) = [] := by
  rw [List.filter_eq_nil_iff]
  intro i hi
  simpa [identity, keeping] using lt_of_mem_intermediates hi

namespace Selection

section
variable (cost : List Message → Int) (messages : List Message) (window : Int)
  (requestId : Value) (known : Option Int) (p : Progress)

theorem exists_run_select_keeps (hknown : ∀ k, known = some k → cost messages = k) :
    ∃ s q, (select (fun ms => .ok (cost ms)) messages window requestId known).run p =
        (.ok s, q) ∧
      Keeps window cost messages s.messages ∧
      s.report.finalTokens = (if messages = [] then 0 else cost s.messages) ∧
      s.report.exceeded = (decide (messages ≠ []) && decide (window < cost s.messages)) := by
  rcases eq_or_ne messages [] with rfl | hne
  · exact ⟨_, _, run_select_nil, .alone rfl, rfl, rfl⟩
  · obtain ⟨s, q, hrun, hreturns⟩ := exists_run_select_returns hne hknown
    refine ⟨s, q, hrun, ?_, ?_, ?_⟩
    · rw [hreturns.kept]
      exact keeps_chosenSlots messages window cost
    · rw [if_neg hne, hreturns.finalTokens]
    · rw [hreturns.exceeded, decide_eq_true hne, Bool.true_and]

theorem exists_run_select_settled (hknown : ∀ k, known = some k → cost messages = k)
    (h : Settled window cost messages) :
    ∃ s q, (select (fun ms => .ok (cost ms)) messages window requestId known).run p =
        (.ok s, q) ∧
      s.messages = messages ∧ s.sources = (List.range messages.length).map some ∧
      s.report.truncated = false ∧ s.report.markerInserted = false ∧ s.report.dropped = 0 := by
  rcases eq_or_ne messages [] with rfl | hne
  · exact ⟨_, _, run_select_nil, rfl, rfl, rfl, rfl, rfl⟩
  · obtain ⟨s, q, hrun, hreturns⟩ := exists_run_select_returns hne hknown
    have hchoose := h.eval_choose
    rw [hchoose] at hreturns
    have hdropped := hreturns.dropped
    rw [filter_intermediates_identity, List.length_nil] at hdropped
    refine ⟨s, q, hrun, ?_, ?_, ?_, hreturns.markerInserted, hdropped⟩
    · rw [hreturns.kept, Candidate.messages_identity]
    · rw [hreturns.sources, identity, map_position?_keeping]
    · rw [hreturns.truncated, hdropped]
      rfl

end

/-- With the same window a selection from what was selected changes nothing: every message stays
where it is, no marker is put in, nothing is dropped, and the tokens are as they were. -/
theorem select_again (cost : List Message → Int) (messages : List Message) (window : Int)
    (requestId : Value) (known : Option Int) (p : Progress)
    (hknown : ∀ k, known = some k → cost messages = k) :
    ∃ s q, (select (fun ms => .ok (cost ms)) messages window requestId known).run p = (.ok s, q) ∧
      ∀ (requestId' : Value) (known' : Option Int) (p' : Progress),
        (∀ k, known' = some k → cost s.messages = k) →
        ∃ s' q', (select (fun ms => .ok (cost ms)) s.messages window requestId' known').run p' =
            (.ok s', q') ∧
          s'.messages = s.messages ∧
          s'.sources = (List.range s.messages.length).map some ∧
          s'.report.truncated = false ∧ s'.report.markerInserted = false ∧
          s'.report.dropped = 0 ∧
          s'.report.finalTokens = s.report.finalTokens ∧
          s'.report.exceeded = s.report.exceeded := by
  obtain ⟨s, q, hrun, hkeeps, htokens, hexceeded⟩ :=
    exists_run_select_keeps cost messages window requestId known p hknown
  refine ⟨s, q, hrun, fun requestId' known' p' hknown' => ?_⟩
  obtain ⟨s', q', hrun', hmessages, hsources, htruncated, hinserted, hdropped⟩ :=
    exists_run_select_settled cost s.messages window requestId' known' p' hknown' hkeeps.settled
  obtain ⟨_, _, hsame, -, htokens', hexceeded'⟩ :=
    exists_run_select_keeps cost s.messages window requestId' known' p' hknown'
  rw [hrun'] at hsame
  cases hsame
  refine ⟨s', q', hrun', hmessages, hsources, htruncated, hinserted, hdropped, ?_, ?_⟩
  · rw [htokens', htokens, hmessages]
    simp only [hkeeps.eq_nil_iff]
  · rw [hexceeded', hexceeded, hmessages]
    simp only [ne_eq, hkeeps.eq_nil_iff]

def markedMessages : List Message :=
  [Message.skipMarker, .ofText .user "one", Message.skipMarker, .ofText .assistant "two",
    Message.skipMarker, .ofText .user "three", .ofText .assistant "four"]

theorem select_again_markedMessages :
    (∀ k, some 7 = some k → (markedMessages.length : Int) = k) ∧
      ∃ s q s' q', (select (fun ms => .ok ms.length) markedMessages 6 .null (some 7)).run {} =
          (.ok s, q) ∧
        s.sources = [some 0, some 4, some 1, some 2, some 5, some 6] ∧
        (select (fun ms => .ok ms.length) s.messages 6 .null none).run q = (.ok s', q') ∧
        s'.messages = s.messages ∧ s'.sources = (List.range 6).map some ∧
        s'.report.dropped = 0 ∧ s'.report.finalTokens = 6 := by
  have hknown : ∀ k, some 7 = some k → (markedMessages.length : Int) = k := by
    rintro k ⟨⟩
    rfl
  obtain ⟨s, q, hrun, hagain⟩ :=
    select_again (fun ms => ms.length) markedMessages 6 .null (some 7) {} hknown
  obtain ⟨t, r, ht, hsources, hlength, htokens⟩ : ∃ t r,
      (select (fun ms => .ok ms.length) markedMessages 6 .null (some 7)).run {} = (.ok t, r) ∧
        t.sources = [some 0, some 4, some 1, some 2, some 5, some 6] ∧
        t.messages.length = 6 ∧ t.report.finalTokens = 6 := ⟨_, _, rfl, rfl, rfl, rfl⟩
  rw [hrun] at ht
  cases ht
  obtain ⟨s', q', hrun', hmessages, hsame, -, -, hdropped, hfinal, -⟩ :=
    hagain .null none q (by simp)
  rw [hlength] at hsame
  rw [htokens] at hfinal
  exact ⟨hknown, s, q, s', q', hrun, hsources, hrun', hmessages, hsame, hdropped, hfinal⟩

/-- With a smaller window a selection from what a larger one has selected has the messages, and the
same verdict on the budget, as a selection with the smaller window from the whole conversation. -/
theorem select_narrowed (cost : List Message → Int) (messages : List Message)
    {smaller larger : Int} (hle : smaller ≤ larger) (requestId requestId' : Value)
    (known known' : Option Int) (p p' : Progress)
    (hcost : ∀ l, (parts (standings messages)).layout? = some l →
      l.NeverCheaper fun c => cost (c.messages messages))
    (hknown : ∀ k, known = some k → cost messages = k)
    (hknown' : ∀ k, known' = some k → cost messages = k) :
    ∃ s q direct q', (select (fun ms => .ok (cost ms)) messages larger requestId known).run p =
        (.ok s, q) ∧
      (select (fun ms => .ok (cost ms)) messages smaller requestId' known').run p' =
        (.ok direct, q') ∧
      ∀ (requestId'' : Value) (known'' : Option Int) (p'' : Progress),
        (∀ k, known'' = some k → cost s.messages = k) →
        ∃ s' q'', (select (fun ms => .ok (cost ms)) s.messages smaller requestId'' known'').run
            p'' = (.ok s', q'') ∧
          s'.messages = direct.messages ∧ s'.report.exceeded = direct.report.exceeded := by
  obtain ⟨s, q, hrun, hkeeps, -, -⟩ :=
    exists_run_select_keeps cost messages larger requestId known p hknown
  obtain ⟨direct, q', hdirect, hdirectKeeps, -, hdirectExceeded⟩ :=
    exists_run_select_keeps cost messages smaller requestId' known' p' hknown'
  refine ⟨s, q, direct, q', hrun, hdirect, fun requestId'' known'' p'' hknown'' => ?_⟩
  obtain ⟨s', q'', hrun', hagain, -, hexceeded⟩ :=
    exists_run_select_keeps cost s.messages smaller requestId'' known'' p'' hknown''
  have hmessages : s'.messages = direct.messages :=
    (hkeeps.narrow hle hcost hagain).unique hdirectKeeps
  refine ⟨s', q'', hrun', hmessages, ?_⟩
  rw [hexceeded, hdirectExceeded, hmessages]
  simp only [ne_eq, hkeeps.eq_nil_iff]

theorem select_narrowed_sixMessages :
    (4 : Int) ≤ 5 ∧
      (∀ l, (parts (standings sixMessages)).layout? = some l →
        l.NeverCheaper fun c => (c.messages sixMessages).length) ∧
      ∃ s q direct q' s' q'',
        (select (fun ms => .ok ms.length) sixMessages 5 .null none).run {} = (.ok s, q) ∧
        s.sources = [some 0, some 1, none, some 4, some 5] ∧
        (select (fun ms => .ok ms.length) sixMessages 4 .null none).run {} = (.ok direct, q') ∧
        direct.sources = [some 0, some 1, none, some 5] ∧
        (select (fun ms => .ok ms.length) s.messages 4 .null none).run q = (.ok s', q'') ∧
        s'.messages = direct.messages ∧ s'.report.exceeded = direct.report.exceeded := by
  have hcost : ∀ l, (parts (standings sixMessages)).layout? = some l →
      l.NeverCheaper fun c => (c.messages sixMessages).length := by
    intro l hl
    have hsix : (parts (standings sixMessages)).layout? =
        some ⟨[0], 1, none, [2, 3, 4], some 5⟩ := by decide
    rw [hsix] at hl
    cases hl
    unfold Layout.NeverCheaper
    decide
  obtain ⟨s, q, direct, q', hrun, hdirect, hagain⟩ :=
    select_narrowed (fun ms => ms.length) sixMessages (show (4 : Int) ≤ 5 by decide) .null .null
      none none {} {} hcost (by simp) (by simp)
  obtain ⟨t, r, ht, hsources⟩ : ∃ t r,
      (select (fun ms => .ok ms.length) sixMessages 5 .null none).run {} = (.ok t, r) ∧
        t.sources = [some 0, some 1, none, some 4, some 5] := ⟨_, _, rfl, rfl⟩
  obtain ⟨u, v, hu, hdirectSources⟩ : ∃ u v,
      (select (fun ms => .ok ms.length) sixMessages 4 .null none).run {} = (.ok u, v) ∧
        u.sources = [some 0, some 1, none, some 5] := ⟨_, _, rfl, rfl⟩
  rw [hrun] at ht
  rw [hdirect] at hu
  cases ht
  cases hu
  obtain ⟨s', q'', hrun', hmessages, hexceeded⟩ := hagain .null none q (by simp)
  exact ⟨by decide, hcost, s, q, direct, q', s', q'', hrun, hsources, hdirect, hdirectSources,
    hrun', hmessages, hexceeded⟩

end Selection

end ChatWindow
