import ChatWindow.Proofs.Balance
import ChatWindow.Proofs.Grouping

/-!
# Markers that tell the truth

A marker says that something was left out. Where no message makes a candidate cheaper that it is
added to, it says so rightly: taking back every intermediate behind a marker that was just put in
would cost no less than the full candidate, which was too much. And where something is left out,
there is a marker to say so.
-/

namespace ChatWindow

open Selection (standings)

/-- No message of the conversation, and no marker, makes a candidate cheaper that it is added to. -/
def NeverLowers (cost : List Message → Int) (messages : List Message) : Prop :=
  ∀ (early late : Candidate) (slot : Slot),
    Candidate.Proper messages.length (early ++ slot :: late) →
      cost (Candidate.messages messages (early ++ late)) ≤
        cost (Candidate.messages messages (early ++ slot :: late))

theorem neverLowers_of_le {cost : List Message → Int}
    (h : ∀ early late m, cost (early ++ late) ≤ cost (early ++ m :: late))
    (messages : List Message) : NeverLowers cost messages := by
  intro early late slot _
  rw [Candidate.messages, Candidate.messages, List.map_append, List.map_append, List.map_cons]
  exact h _ _ _

/-- What is kept has a marker directly after the first message of the chat. -/
def MarkedBehindFirst (messages kept : List Message) : Prop :=
  ∃ first others marker rest, messages.filter Message.isChat = first :: others ∧
    kept = frontSystem messages ++ first :: marker :: rest ∧ marker.isSkipMarker = true

namespace Layout

variable {messages : List Message} {l : Layout} {window : Int} {cost : Candidate → Int}
  {c : Choice}

theorem full_le_keepingLatest {cost : List Message → Int} (h : NeverLowers cost messages)
    (hl : (parts (standings messages)).layout? = some l) :
    cost (l.full.messages messages) ≤
      cost ((l.keepingLatest l.intermediates.length).messages messages) := by
  have hall : l.intermediates.rtake l.intermediates.length = l.intermediates := by
    simp [List.rtake]
  rw [keepingLatest, hall]
  cases hm : l.marker with
  | some i => rw [withSuffix_intermediates hm]
  -- With no marker in the conversation, to take back all intermediates is to add one message.
  | none =>
    have hproper := withSuffix_proper hl (List.Sublist.refl l.intermediates)
    have hfull : l.full = l.head ++ (keeping l.intermediates ++ l.tail) := by
      simp [full, hm, keeping]
    have hwith : l.withSuffix l.intermediates =
        l.head ++ l.skip :: (keeping l.intermediates ++ l.tail) := by
      simp [withSuffix]
    rw [hwith] at hproper
    rw [hfull, hwith]
    exact h _ _ _ hproper

theorem Longest.lt {s : Nat} (h : l.Longest window cost s) (hskeleton : cost l.skeleton ≤ window)
    (hfull : window < cost l.full)
    (hle : cost l.full ≤ cost (l.keepingLatest l.intermediates.length)) :
    s < l.intermediates.length := by
  refine Nat.lt_of_le_of_ne h.le fun heq => ?_
  have hfits := h.le_window hskeleton
  rw [heq] at hfits
  omega

theorem Chosen.exists_lt (h : l.Chosen window cost c) (hinserted : c.markerInserted = true)
    (hle : cost l.full ≤ cost (l.keepingLatest l.intermediates.length)) :
    ∃ s < l.intermediates.length, c.slots = l.keepingLatest s := by
  cases h with
  | everything => cases hinserted
  | skeleton _ hsome => exact ⟨0, List.length_pos_iff.mpr hsome, l.keepingLatest_zero.symm⟩
  | latest hfull _ hskeleton hs => exact ⟨_, hs.lt hskeleton hfull hle, rfl⟩

theorem exists_grouped (hl : (parts (standings messages)).layout? = some l) :
    ∃ g, Grouped messages g := by
  have hne : messages.filter Message.isChat ≠ [] := by
    rw [Ne, ← chatPositions_eq_nil_iff, ← layout?_eq_none_iff, hl]
    exact Option.some_ne_none l
  obtain ⟨first, others, hchat⟩ := List.exists_cons_of_ne_nil hne
  exact ChatWindow.exists_grouped hchat

theorem exists_notMem_keepingLatest (hl : (parts (standings messages)).layout? = some l) {s : Nat}
    (hs : s < l.intermediates.length) :
    ∃ i ∈ l.intermediates, some i ∉ (l.keepingLatest s).map Slot.position? := by
  by_contra hall
  push Not at hall
  have hkept := keptIn_keepingLatest hl s
  rw [keptIn, List.filter_eq_self.mpr fun i hi => decide_eq_true (hall i hi)] at hkept
  have hlength := congrArg List.length hkept
  rw [List.rtake, List.length_drop] at hlength
  omega

end Layout

namespace Selection

variable {cost : List Message → Int} {measure : List Message → Except Failure Int}
  {messages : List Message} {window : Int} {requestId : Value} {known : Option Int}
  {p q : Progress} {s : Selection}

theorem returns_of_run_select (hne : messages ≠ [])
    (hknown : ∀ k, known = some k → cost messages = k)
    (h : (select (fun ms => .ok (cost ms)) messages window requestId known).run p = (.ok s, q)) :
    Returns cost messages window ((choose (parts (standings messages)) window).eval fun c =>
      cost (c.messages messages)) s := by
  obtain ⟨t, r, hrun, hreturns⟩ := exists_run_select_returns hne hknown
  rw [h] at hrun
  cases hrun
  exact hreturns

theorem exists_dropped_of_inserted (hcost : NeverLowers cost messages)
    (hknown : ∀ k, known = some k → cost messages = k)
    (h : (select (fun ms => .ok (cost ms)) messages window requestId known).run p = (.ok s, q))
    (hinserted : s.report.markerInserted = true) :
    ∃ i ∈ (parts (standings messages)).intermediates, some i ∉ s.sources := by
  rcases eq_or_ne messages [] with rfl | hne
  · cases h
    cases hinserted
  · have hreturns := returns_of_run_select hne hknown h
    rw [hreturns.markerInserted] at hinserted
    rw [hreturns.sources, Parts.intermediates]
    rw [choose] at hinserted ⊢
    cases hl : (parts (standings messages)).layout? with
    | none =>
      rw [hl] at hinserted
      cases hinserted
    | some l =>
      rw [hl] at hinserted
      have hchosen := l.choose_chosen window fun c => cost (c.messages messages)
      obtain ⟨n, hn, hslots⟩ :=
        hchosen.exists_lt hinserted (Layout.full_le_keepingLatest hcost hl)
      dsimp only
      rw [hslots]
      exact Layout.exists_notMem_keepingLatest hl hn

theorem marked_of_missing
    (h : (select measure messages window requestId known).run p = (.ok s, q)) {i : Nat}
    (hi : i < messages.length) (hmissing : some i ∉ s.sources) :
    MarkedBehindFirst messages s.messages := by
  have hne : messages ≠ [] := List.ne_nil_of_length_pos (by omega)
  obtain ⟨o, calls, ho, rfl⟩ := exists_outcome_of_run_select hne h
  obtain ⟨price, rfl, -⟩ := Inquiry.exists_eval_of_attempt ho
  rw [ofOutcome, slots_eval_outcome] at hmissing ⊢
  rw [some_mem_sources_iff] at hmissing
  dsimp only
  cases hl : (parts (standings messages)).layout? with
  | none =>
    rw [chosenSlots_of_chat_nil (layout?_eq_none_iff.mp hl)] at hmissing
    exact absurd (List.mem_map_of_mem (List.mem_range.mpr hi)) hmissing
  | some l =>
    rcases chosenSlots_cases hl window price with hslots | ⟨n, hslots⟩
    · rw [hslots, Layout.full_eq] at hmissing
      exact absurd (List.mem_map_of_mem ((Layout.mem_order_iff hl).mpr hi)) hmissing
    · obtain ⟨g, hg⟩ := Layout.exists_grouped hl
      rw [hslots, hg.messages_keepingLatest hl, Grouping.messages_latest]
      exact ⟨g.first, g.others, g.mark, _, hg.chat, by rw [hg.front], g.isSkipMarker_mark⟩

end Selection

end ChatWindow
