import ChatWindow.Proofs.Grouping

/-!
# Markers among the messages kept

A marker that does not stay is a system message like any other and is kept in front of the chat.
Behind the first message of the chat there is never more than one marker, and it stands right there.
So the messages kept have one marker at most, and in its place, exactly if the conversation has no
marker besides the one that stays.
-/

namespace ChatWindow

def OnlyMarkerStays (messages : List Message) : Prop :=
  ∀ i m, messages[i]? = some m → m.isSkipMarker = true → markerPosition? messages = some i

variable {messages kept : List Message} {sources : List (Option Nat)}

theorem mem_frontSystem_iff {m : Message} :
    m ∈ frontSystem messages ↔
      ∃ i, messages[i]? = some m ∧ m.isSystem = true ∧ markerPosition? messages ≠ some i := by
  simp only [frontSystem, systemPositions, List.mem_map, List.mem_filter, mem_positions,
    bne_iff_ne]
  constructor
  · rintro ⟨i, ⟨⟨m', hi, hs⟩, hne⟩, rfl⟩
    rw [getD_of_getElem? _ hi]
    exact ⟨i, hi, hs, hne⟩
  · rintro ⟨i, hi, hs, hne⟩
    exact ⟨i, ⟨⟨m, hi, hs⟩, hne⟩, getD_of_getElem? _ hi⟩

theorem onlyMarkerStays_iff :
    OnlyMarkerStays messages ↔ ∀ m ∈ frontSystem messages, m.isSkipMarker = false := by
  constructor
  · intro h m hm
    obtain ⟨i, hi, -, hne⟩ := mem_frontSystem_iff.mp hm
    rw [← Bool.not_eq_true]
    exact fun hk => hne (h i m hi hk)
  · intro h i m hi hk
    by_contra hne
    have hplain := h m (mem_frontSystem_iff.mpr
      ⟨i, hi, Message.isSystem_of_isSkipMarker hk, hne⟩)
    rw [hk] at hplain
    cases hplain

theorem findIdx_of_filter_nil (h : messages.filter Message.isChat = []) :
    messages.findIdx Message.isChat = messages.length := by
  rw [List.findIdx_eq_length]
  intro m hm
  rw [List.filter_eq_nil_iff] at h
  simpa using h m hm

theorem frontSystem_of_filter_nil (h : messages.filter Message.isChat = []) :
    frontSystem messages = messages := by
  rw [frontSystem, systemPositions_of_chat_nil (chatPositions_eq_nil_iff.mpr h),
    ← messages_keeping]
  exact Candidate.messages_identity messages

namespace Arrangement

theorem system_or_regrouped (h : Arrangement messages sources kept) :
    (kept = frontSystem messages ∧ kept.findIdx Message.isChat = kept.length) ∨
      ∃ c marker recent, Regrouped kept (frontSystem messages) c marker recent := by
  cases hchat : messages.filter Message.isChat with
  | nil =>
    rw [h.kept_of_filter_nil hchat, frontSystem_of_filter_nil hchat]
    exact .inl ⟨rfl, findIdx_of_filter_nil hchat⟩
  | cons c cs =>
    obtain ⟨marker, recent, hkept, -, -⟩ := h.exists_regrouped hchat
    exact .inr ⟨c, marker, recent, hkept⟩

theorem take_findIdx (h : Arrangement messages sources kept) :
    kept.take (kept.findIdx Message.isChat) = frontSystem messages := by
  rcases h.system_or_regrouped with ⟨hkept, hfirst⟩ | ⟨c, marker, recent, hkept⟩
  · rw [hfirst, List.take_length, hkept]
  · exact hkept.take_findIdx

theorem countP_drop_findIdx (h : Arrangement messages sources kept) :
    (kept.drop (kept.findIdx Message.isChat)).countP Message.isSkipMarker ≤ 1 := by
  rcases h.system_or_regrouped with ⟨-, hfirst⟩ | ⟨c, marker, recent, hkept⟩
  · rw [hfirst, List.drop_length]
    exact Nat.zero_le 1
  · exact hkept.countP_drop_findIdx

theorem eq_of_isSkipMarker (h : Arrangement messages sources kept) {i : Nat} {m : Message}
    (hi : kept[i]? = some m) (hm : m.isSkipMarker = true)
    (hge : kept.findIdx Message.isChat ≤ i) : i = kept.findIdx Message.isChat + 1 := by
  rcases h.system_or_regrouped with ⟨-, hfirst⟩ | ⟨c, marker, recent, hkept⟩
  · have hlt := (List.getElem?_eq_some_iff.mp hi).1
    omega
  · exact hkept.eq_of_isSkipMarker hi hm hge

theorem markersPlaced_iff (h : Arrangement messages sources kept) :
    MarkersPlaced kept ↔ OnlyMarkerStays messages := by
  rw [onlyMarkerStays_iff, ← h.take_findIdx]
  constructor
  · intro hplaced m hm
    obtain ⟨i, hi⟩ := List.mem_iff_getElem?.mp hm
    rw [List.getElem?_take, Option.ite_none_right_eq_some] at hi
    obtain ⟨hlt, hi⟩ := hi
    rw [← Bool.not_eq_true]
    intro hk
    have hplace := hplaced i m hi hk
    omega
  · intro hfront i m hi hm
    refine h.eq_of_isSkipMarker hi hm ?_
    by_contra hlt
    have htaken : m ∈ kept.take (kept.findIdx Message.isChat) :=
      List.mem_of_getElem? ((List.getElem?_take_of_lt (Nat.lt_of_not_le hlt)).trans hi)
    rw [hfront m htaken] at hm
    cases hm

end Arrangement

namespace Selection

/-- Among the messages that a selection returns there is at most one marker behind the first message
of the chat, and it stands directly after it. In front of that message are the system messages of
the conversation, with every marker but the one that stays. So there is only one marker, and in its
place, exactly where the conversation has no other than the one that stays. -/
theorem select_marks (cost : List Message → Int) (messages : List Message) (window : Int)
    (requestId : Value) (known : Option Int) (p : Progress) :
    ∃ s q, (select (fun ms => .ok (cost ms)) messages window requestId known).run p = (.ok s, q) ∧
      (s.messages.drop (s.messages.findIdx Message.isChat)).countP Message.isSkipMarker ≤ 1 ∧
      (∀ i m, s.messages[i]? = some m → m.isSkipMarker = true →
        s.messages.findIdx Message.isChat ≤ i → i = s.messages.findIdx Message.isChat + 1) ∧
      s.messages.take (s.messages.findIdx Message.isChat) = frontSystem messages ∧
      ((s.messages.countP Message.isSkipMarker ≤ 1 ∧
          ∀ i m, s.messages[i]? = some m → m.isSkipMarker = true →
            i = s.messages.findIdx Message.isChat + 1) ↔
        ∀ i m, messages[i]? = some m → m.isSkipMarker = true →
          markerPosition? messages = some i) := by
  obtain ⟨s, q, hrun⟩ := run_select_returns cost messages window requestId known p
  have harranged := arrangement_of_run_select hrun
  refine ⟨s, q, hrun, harranged.countP_drop_findIdx,
    fun i m => harranged.eq_of_isSkipMarker, harranged.take_findIdx, ?_⟩
  constructor
  · rintro ⟨-, hplaced⟩
    exact harranged.markersPlaced_iff.mp hplaced
  · intro hstays
    have hplaced := harranged.markersPlaced_iff.mpr hstays
    exact ⟨hplaced.countP_le_one, hplaced⟩

def twiceMarked : List Message :=
  [.ofText .user "one", Message.skipMarker, Message.skipMarker, .ofText .user "two"]

/-- The second of two markers in a row goes to the front, so that both are returned and one of them
stands before the first message of the chat. -/
theorem select_marks_twiceMarked :
    ∃ s q, (select (fun ms => .ok ms.length) twiceMarked 10 .null none).run {} = (.ok s, q) ∧
      s.sources = [some 2, some 0, some 1, some 3] ∧
      s.messages.countP Message.isSkipMarker = 2 ∧
      ¬∀ i m, s.messages[i]? = some m → m.isSkipMarker = true →
        i = s.messages.findIdx Message.isChat + 1 := by
  obtain ⟨s, q, hrun, hmessages, hsources⟩ : ∃ s q,
      (select (fun ms => .ok ms.length) twiceMarked 10 .null none).run {} = (.ok s, q) ∧
        s.messages = [Message.skipMarker, .ofText .user "one", Message.skipMarker,
          .ofText .user "two"] ∧
        s.sources = [some 2, some 0, some 1, some 3] := ⟨_, _, rfl, rfl, rfl⟩
  refine ⟨s, q, hrun, hsources, by rw [hmessages]; decide, fun hplaced => ?_⟩
  have hfirst := hplaced 0 Message.skipMarker (by rw [hmessages]; rfl)
    Message.isSkipMarker_skipMarker
  omega

end Selection

end ChatWindow
