import ChatWindow.Proofs.Reselection

/-!
# Conversations in order

A conversation whose system messages all come first is kept in that order. So the whole of it is
what a selection asks for first, and if it fits a selection asks for nothing else: where its cost is
handed in nothing is measured, and no measurement can fail.
-/

namespace ChatWindow

open Selection (standings)

def SystemFirst (messages : List Message) : Prop :=
  messages.Pairwise fun m n => n.isSystem = true → m.isSystem = true

instance (messages : List Message) : Decidable (SystemFirst messages) :=
  inferInstanceAs (Decidable (messages.Pairwise _))

section
variable {messages : List Message} {window : Int} {cost : List Message → Int}

theorem SystemFirst.exists_grouping (h : SystemFirst messages) :
    (∀ m ∈ messages, m.isSystem = true) ∨ ∃ g : Grouping, g.messages = messages := by
  rw [SystemFirst] at h
  induction messages with
  | nil => exact .inl (by simp)
  | cons m messages ih =>
    obtain ⟨hm, hrest⟩ := List.pairwise_cons.mp h
    cases hs : m.isSystem with
    | true =>
      rcases ih hrest with hall | ⟨g, rfl⟩
      · exact .inl (List.forall_mem_cons.mpr ⟨hs, hall⟩)
      · exact .inr ⟨{ g with
          front := m :: g.front
          front_system := List.forall_mem_cons.mpr ⟨hs, g.front_system⟩ }, rfl⟩
    | false =>
      have hchat : ∀ n ∈ messages, n.isChat = true := by
        intro n hn
        rw [Message.isChat, Bool.not_eq_true', ← Bool.not_eq_true]
        intro hsystem
        rw [hm n hn hsystem] at hs
        cases hs
      exact .inr ⟨{
        front := []
        first := m
        marker := none
        others := messages
        front_system := by simp
        first_chat := by simp [Message.isChat, hs]
        marker_skips := by simp
        others_chat := hchat }, rfl⟩

theorem SystemFirst.settled (h : SystemFirst messages) (hfits : cost messages ≤ window) :
    Settled window cost messages := by
  rcases h.exists_grouping with hall | ⟨g, rfl⟩
  · exact .alone (filter_isChat_eq_nil_iff.mpr hall)
  · exact .groups g (.inl hfits)

theorem Settled.asked_choose (h : Settled window cost messages) {c : Candidate}
    (hc : c ∈ (choose (parts (standings messages)) window).asked fun c =>
      cost (c.messages messages)) : c = identity messages.length := by
  cases h with
  | alone hnone =>
    rw [choose, layout?_eq_none_iff.mpr (chatPositions_eq_nil_iff.mpr hnone)] at hc
    cases hc
  | groups g hfits =>
    have hg := g.grouped_messages
    obtain ⟨l, hl⟩ := hg.exists_layout
    have hidentity := g.full_eq_identity hl
    rw [← hg.messages_full hl, ← hg.length_intermediates hl, List.length_eq_zero_iff] at hfits
    rw [choose, hl] at hc
    change c ∈ (l.choose window).asked _ at hc
    rw [Layout.choose, Inquiry.asked, Inquiry.asked_remark, if_pos hfits, Inquiry.asked,
      List.mem_singleton] at hc
    rw [hc, hidentity]

theorem Settled.asked_outcome (h : Settled window cost messages) {c : Candidate}
    (hc : c ∈ (outcome (standings messages) window).asked fun c => cost (c.messages messages)) :
    c = identity messages.length := by
  have hchoose := h.eval_choose
  rw [outcome, Inquiry.asked_bind, hchoose, List.mem_append] at hc
  rcases hc with hc | hc
  · exact h.asked_choose hc
  · simpa [Inquiry.asked, standings] using hc

end

theorem Selection.exists_run_select_of_given (measure : List Message → Except Failure Int)
    {messages : List Message} {window length : Int} (requestId : Value) (p : Progress)
    (hne : messages ≠ []) (h : Settled window (fun _ => length) messages) :
    ∃ s q calls, (select measure messages window requestId (some length)).run p = (.ok s, q) ∧
      s.messages = messages ∧
      s.report = {
        windowSize := window
        givenCount := messages.length
        finalCount := messages.length
        givenTokens := length
        finalTokens := length
        intermediates := (parts (standings messages)).intermediates.length
        exceeded := window < length
        calls
        requestId } := by
  have hquote : ∀ c ∈ (outcome (standings messages) window).asked fun _ => length,
      quote measure messages (some length) c = .ok length := by
    intro c hc
    rw [h.asked_outcome hc]
    simp [quote, Ledger.quote, Ledger.cost?, start]
  have hchoose := h.eval_choose
  have hfind := find_fst measure messages window (some length)
  rw [Inquiry.attempt_of_asked hquote] at hfind
  have hchoice := choice_eval (standings messages) window fun _ => length
  have hbetween := intermediates_eval (standings messages) window fun _ => length
  have hfinal := finalCost_eval (standings messages) window fun _ => length
  have hgiven := givenCost_eval (standings messages) window fun _ => length
  rw [hchoose] at hchoice
  generalize (outcome (standings messages) window).eval (fun _ => length) = o at *
  rw [run_select hne]
  rcases hledger : find measure messages window (some length) with ⟨_, ledger⟩
  rw [hledger] at hfind
  subst hfind
  refine ⟨_, _, ledger.measured.length, rfl, ?_, ?_⟩
  · rw [ofOutcome, hchoice, Candidate.messages_identity]
  · rw [ofOutcome, Outcome.report, Outcome.dropped, hchoice, hbetween, hfinal, hgiven,
      filter_intermediates_identity]
    simp [identity, keeping]

end ChatWindow
