import ChatWindow.Proofs.Choice
import ChatWindow.Proofs.Layout
import ChatWindow.Proofs.Selection

/-!
# How selected messages are arranged

Whatever candidates cost, a selection is the system messages, the first message of the chat, at most
one marker, some of the latest intermediates and the latest message, in this order. A marker that
stays is kept at its own position; only where there is none may one be put in.
-/

namespace ChatWindow

/-- What stands between the first message of the chat and the intermediates. -/
def MarkerSlot (messages : List Message) (slot : List (Option Nat)) : Prop :=
  match markerPosition? messages with
  | some i => slot = [some i]
  | none => slot = [] ∨ slot = [none]

def Sourced (messages : List Message) : Option Nat → Message → Prop
  | some i, m => messages[i]? = some m
  | none, m => m = Message.skipMarker

/-- How the messages that are kept stand, with the position that each comes from. -/
structure Arrangement (messages : List Message) (sources : List (Option Nat))
    (kept : List Message) : Prop where
  alone : chatPositions messages = [] →
    kept = messages ∧ sources = (List.range messages.length).map some
  grouped : ∀ first others, chatPositions messages = first :: others →
    ∃ slot suffix, MarkerSlot messages slot ∧ suffix <:+ others.dropLast ∧
      sources = (systemPositions messages ++ [first]).map some ++ slot ++
        (suffix ++ others.getLast?.toList).map some
  marker_kept : ∀ i, markerPosition? messages = some i → some i ∈ sources ∧ none ∉ sources
  nodup : sources.Nodup
  sourced : List.Forall₂ (Sourced messages) sources kept

open Selection (standings)

theorem position?_injective : Function.Injective Slot.position? := by
  intro a b h
  cases a <;> cases b <;> simp_all [Slot.position?]

theorem map_position?_keeping (positions : List Nat) :
    (keeping positions).map Slot.position? = positions.map some := by
  simp [keeping, Slot.position?]

theorem Candidate.Proper.sourced {messages : List Message} {c : Candidate}
    (h : c.Proper messages.length) :
    List.Forall₂ (Sourced messages) (c.map Slot.position?) (c.messages messages) := by
  rw [Candidate.messages, List.forall₂_map_left_iff, List.forall₂_map_right_iff,
    List.forall₂_same]
  intro slot hslot
  cases slot with
  | kept i => simp [Slot.position?, Slot.message, Sourced, h.lt i hslot]
  | inserted => rfl

theorem chatPositions_ne_nil {messages : List Message} {i : Nat}
    (h : markerPosition? messages = some i) : chatPositions messages ≠ [] := by
  have hstays := List.find?_some h
  simp only [staysAfter, Bool.and_eq_true, beq_iff_eq, Nat.zero_add] at hstays
  have hpos : 0 < (messages.take i).countP Message.isChat := by omega
  obtain ⟨m, hm, hchat⟩ := List.countP_pos_iff.mp hpos
  obtain ⟨j, hj⟩ := List.mem_iff_getElem?.mp (List.mem_of_mem_take hm)
  exact List.ne_nil_of_mem (mem_positions.mpr ⟨m, hj, hchat⟩)

theorem systemPositions_of_chat_nil {messages : List Message}
    (h : chatPositions messages = []) :
    systemPositions messages = List.range messages.length := by
  have hmarker : markerPosition? messages = none := by
    by_contra hne
    obtain ⟨i, hi⟩ := Option.ne_none_iff_exists'.mp hne
    exact chatPositions_ne_nil hi h
  have hsystem : ∀ m ∈ messages, m.isSystem = true := by
    intro m hm
    obtain ⟨j, hj⟩ := List.mem_iff_getElem?.mp hm
    by_contra hchat
    have hmem : j ∈ chatPositions messages :=
      mem_positions.mpr ⟨m, hj, by simpa [Message.isChat] using hchat⟩
    rw [h] at hmem
    cases hmem
  rw [systemPositions, hmarker, positions_all hsystem]
  simp

section
variable {messages : List Message} {l : Layout}

def chosenSlots (messages : List Message) (window : Int) (cost : Candidate → Int) : Candidate :=
  ((choose (parts (standings messages)) window).eval cost).slots

theorem eval_choose_of_chat_nil (h : chatPositions messages = []) (window : Int)
    (cost : Candidate → Int) : (choose (parts (standings messages)) window).eval cost =
      ⟨identity messages.length, false⟩ := by
  rw [choose, layout?_eq_none_iff.mpr h, parts_standings, systemPositions_of_chat_nil h]
  rfl

theorem chosenSlots_of_chat_nil (h : chatPositions messages = []) (window : Int)
    (cost : Candidate → Int) : chosenSlots messages window cost = identity messages.length := by
  rw [chosenSlots, eval_choose_of_chat_nil h]

theorem chosenSlots_cases (h : (parts (standings messages)).layout? = some l) (window : Int)
    (cost : Candidate → Int) : chosenSlots messages window cost = l.full ∨
      ∃ s, chosenSlots messages window cost = l.keepingLatest s := by
  rw [chosenSlots, choose, h]
  rcases (l.choose_chosen window cost).slots_cases with ⟨hs, -⟩ | ⟨s, hs, -⟩
  · exact .inl hs
  · exact .inr ⟨s, hs⟩

theorem chosenSlots_proper (messages : List Message) (window : Int) (cost : Candidate → Int) :
    (chosenSlots messages window cost).Proper messages.length := by
  cases hl : (parts (standings messages)).layout? with
  | none =>
    rw [chosenSlots_of_chat_nil (layout?_eq_none_iff.mp hl)]
    exact identity_proper _
  | some l =>
    rcases chosenSlots_cases hl window cost with hs | ⟨s, hs⟩
    · rw [hs]
      exact Layout.full_proper hl
    · rw [hs]
      exact Layout.withSuffix_proper hl (List.drop_sublist _ _)

theorem Layout.grouped_full (l : Layout) :
    l.full.map Slot.position? =
      (l.system ++ [l.first]).map some ++ l.marker.toList.map some ++
        (l.intermediates ++ l.latest.toList).map some := by
  simp [Layout.full_eq, Layout.order, map_position?_keeping]

theorem Layout.grouped_withSuffix (l : Layout) (suffix : List Nat) :
    (l.withSuffix suffix).map Slot.position? =
      (l.system ++ [l.first]).map some ++ [l.marker] ++
        (suffix ++ l.latest.toList).map some := by
  have hskip : l.skip.position? = l.marker := by
    cases h : l.marker <;> simp [Layout.skip, h, Slot.position?]
  simp [Layout.withSuffix_eq, map_position?_keeping, hskip]

theorem chosenSlots_grouped {first : Nat} {others : List Nat}
    (h : chatPositions messages = first :: others) (window : Int) (cost : Candidate → Int) :
    ∃ slot suffix, MarkerSlot messages slot ∧ suffix <:+ others.dropLast ∧
      (chosenSlots messages window cost).map Slot.position? =
        (systemPositions messages ++ [first]).map some ++ slot ++
          (suffix ++ others.getLast?.toList).map some := by
  have hl : (parts (standings messages)).layout? =
      some ⟨systemPositions messages, first, markerPosition? messages, others.dropLast,
        others.getLast?⟩ :=
    layout?_eq_some_iff.mpr ⟨others, h, rfl, rfl, rfl, rfl⟩
  rcases chosenSlots_cases hl window cost with hs | ⟨s, hs⟩
  · refine ⟨_, _, ?_, List.suffix_refl _, by rw [hs, Layout.grouped_full]⟩
    rw [MarkerSlot]
    cases markerPosition? messages <;> simp
  · refine ⟨_, _, ?_, List.drop_suffix _ _, by
      rw [hs, Layout.keepingLatest, Layout.grouped_withSuffix]
      rfl⟩
    rw [MarkerSlot]
    cases markerPosition? messages <;> simp

end

theorem arrangement_chosenSlots (messages : List Message) (window : Int)
    (cost : Candidate → Int) :
    Arrangement messages ((chosenSlots messages window cost).map Slot.position?)
      ((chosenSlots messages window cost).messages messages) where
  alone h := by
    rw [chosenSlots_of_chat_nil h, Candidate.messages_identity, identity, map_position?_keeping]
    exact ⟨rfl, rfl⟩
  grouped _ _ h := chosenSlots_grouped h window cost
  marker_kept i hi := by
    obtain ⟨first, others, hchat⟩ := List.exists_cons_of_ne_nil (chatPositions_ne_nil hi)
    obtain ⟨slot, suffix, hslot, -, hsources⟩ :=
      chosenSlots_grouped hchat window cost
    rw [MarkerSlot, hi] at hslot
    rw [hsources, hslot]
    simp
  nodup := (chosenSlots_proper messages window cost).nodup.map position?_injective
  sourced := (chosenSlots_proper messages window cost).sourced

theorem slots_eval_outcome (messages : List Message) (window : Int) (cost : Candidate → Int) :
    ((outcome (standings messages) window).eval cost).choice.slots =
      chosenSlots messages window cost := by
  simp [outcome, chosenSlots]

namespace Arrangement

variable {messages kept : List Message} {sources : List (Option Nat)}

theorem mem_or_eq_skipMarker (h : Arrangement messages sources kept) {m : Message}
    (hm : m ∈ kept) : m ∈ messages ∨ m = Message.skipMarker := by
  have hall := h.sourced
  clear h
  induction hall with
  | nil => cases hm
  | @cons source _ _ _ hsource _ ih =>
    rcases List.mem_cons.mp hm with rfl | hm
    · cases source with
      | none => exact .inr hsource
      | some i => exact .inl (List.mem_of_getElem? hsource)
    · exact ih hm

theorem kept_ne_nil (h : Arrangement messages sources kept) (hne : messages ≠ []) :
    kept ≠ [] := by
  rintro rfl
  have hsources : sources = [] := List.forall₂_nil_right_iff.mp h.sourced
  cases hchat : chatPositions messages with
  | nil => exact hne (h.alone hchat).1.symm
  | cons first others =>
    obtain ⟨slot, suffix, -, -, heq⟩ := h.grouped first others hchat
    simp [hsources] at heq

end Arrangement

namespace Selection

theorem arrangement_of_run_select {measure : List Message → Except Failure Int}
    {messages : List Message} {window : Int} {requestId : Value} {known : Option Int}
    {p q : Progress} {s : Selection}
    (h : (select measure messages window requestId known).run p = (.ok s, q)) :
    Arrangement messages s.sources s.messages := by
  rcases eq_or_ne messages [] with rfl | hne
  · cases h
    exact arrangement_chosenSlots [] window fun _ => 0
  · obtain ⟨o, calls, ho, rfl⟩ := exists_outcome_of_run_select hne h
    obtain ⟨cost, rfl, -⟩ := Inquiry.exists_eval_of_attempt ho
    have hslots := slots_eval_outcome messages window cost
    have harranged := arrangement_chosenSlots messages window cost
    rw [← hslots] at harranged
    exact harranged

/-- With a cost for every list of messages a selection is always returned, and it is the system
messages, the first message of the chat, at most one marker, some of the latest intermediates and
the latest message, each once and as it stands in the conversation. -/
theorem select_arranged (cost : List Message → Int) (messages : List Message) (window : Int)
    (requestId : Value) (known : Option Int) (p : Progress) :
    ∃ s q, (select (fun ms => .ok (cost ms)) messages window requestId known).run p = (.ok s, q) ∧
      Arrangement messages s.sources s.messages := by
  obtain ⟨s, q, hrun⟩ := run_select_returns cost messages window requestId known p
  exact ⟨s, q, hrun, arrangement_of_run_select hrun⟩

end Selection

end ChatWindow
