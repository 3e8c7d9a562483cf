import ChatWindow.Proofs.Regrouped
import ChatWindow.Session

/-!
# Conversations over many rounds

A conversation grows by messages that are appended and shrinks by selections that replace it, in any
order and with windows and costs that change from one round to the next. Its system messages, the
first message of the chat and a run of the latest ones survive all of it, and there is never more
than one marker.
-/

namespace ChatWindow

inductive Round where
  | append (messages : List Message)
  | select (measure : List Message → Except Failure Int) (window : Int) (requestId : Value)
    (known : Option Int)

namespace Round

def added : Round → List Message
  | .append messages => messages
  | .select .. => []

/-- A selection that fails leaves the conversation as it was. -/
def apply (conversation : List Message) : Round → List Message
  | .append messages => conversation ++ messages
  | .select measure window requestId known =>
    match ((Selection.select measure conversation window requestId known).run {}).1 with
    | .ok s => s.messages
    | .error _ => conversation

def conversation (rounds : List Round) : List Message := rounds.foldl apply []

def past (rounds : List Round) : List Message := rounds.flatMap added

theorem conversation_concat (rounds : List Round) (r : Round) :
    conversation (rounds ++ [r]) = r.apply (conversation rounds) := by
  simp [conversation]

theorem past_concat (rounds : List Round) (r : Round) :
    past (rounds ++ [r]) = past rounds ++ r.added := by
  simp [past]

end Round

namespace Session

theorem conversation_append (s : Session) (messages : List Message) :
    (s.append messages).conversation = Round.apply s.conversation (.append messages) := rfl

theorem conversation_select (s : Session) (window : Int) (requestId : Value)
    (known : Option Int) :
    (s.select window requestId known true).2.2.conversation =
      Round.apply s.conversation (.select s.oracle.measure window requestId known) := by
  rw [Session.select, Round.apply]
  rcases (Selection.select s.oracle.measure s.conversation window requestId known).run {} with
    ⟨_ | _, _⟩ <;> rfl

end Session

/-- What a conversation keeps of the messages that it comes from. -/
structure Continues (past conversation : List Message) : Prop where
  system : conversation.filter Message.isPlainSystem = past.filter Message.isPlainSystem
  first : (conversation.filter Message.isChat).head? = (past.filter Message.isChat).head?
  recent : (conversation.filter Message.isChat).tail <:+ (past.filter Message.isChat).tail
  latest : (conversation.filter Message.isChat).getLast? =
    (past.filter Message.isChat).getLast?

namespace Continues

variable {past conversation kept : List Message}

theorem refl (messages : List Message) : Continues messages messages :=
  ⟨rfl, rfl, List.suffix_refl _, rfl⟩

theorem trans (h : Continues past conversation) (h' : Continues conversation kept) :
    Continues past kept :=
  ⟨h'.system.trans h.system, h'.first.trans h.first, h'.recent.trans h.recent,
    h'.latest.trans h.latest⟩

theorem append (h : Continues past conversation) (messages : List Message) :
    Continues (past ++ messages) (conversation ++ messages) where
  system := by rw [List.filter_append, List.filter_append, h.system]
  first := by rw [List.filter_append, List.filter_append, List.head?_append, List.head?_append,
    h.first]
  recent := by
    rw [List.filter_append, List.filter_append]
    have hfirst := h.first
    have hrecent := h.recent
    cases hc : conversation.filter Message.isChat with
    | nil =>
      rw [hc, List.head?_nil] at hfirst
      have hpast := List.head?_eq_none_iff.mp hfirst.symm
      simp [hpast]
    | cons c cs =>
      rw [hc, List.head?_cons] at hfirst
      obtain ⟨ps, hp⟩ := List.head?_eq_some_iff.mp hfirst.symm
      rw [hc, hp] at hrecent
      rw [hp]
      obtain ⟨early, rfl⟩ := hrecent
      exact ⟨early, by simp⟩
  latest := by rw [List.filter_append, List.filter_append, List.getLast?_append,
    List.getLast?_append, h.latest]

theorem of_arrangement {sources : List (Option Nat)} (hplaced : MarkersPlaced conversation)
    (h : Arrangement conversation sources kept) :
    Continues conversation kept ∧ MarkersPlaced kept := by
  cases hchat : conversation.filter Message.isChat with
  | nil =>
    rw [h.kept_of_filter_nil hchat]
    exact ⟨refl _, hplaced⟩
  | cons c cs =>
    obtain ⟨marker, recent, hkept, hsuffix, hlast⟩ := h.exists_regrouped hchat
    have hplain : ∀ m ∈ frontSystem conversation, m.isPlainSystem = true := by
      intro m hm
      rw [hplaced.frontSystem] at hm
      exact (List.mem_filter.mp hm).2
    refine ⟨⟨?_, ?_, ?_, ?_⟩, hkept.markersPlaced hplain⟩
    · rw [hkept.filter_isPlainSystem hplain, hplaced.frontSystem]
    · rw [hkept.filter_isChat, hchat]
      rfl
    · rw [hkept.filter_isChat, hchat]
      exact hsuffix
    · rw [hkept.filter_isChat, hchat, List.getLast?_cons, List.getLast?_cons, hlast]

end Continues

theorem MarkersPlaced.append {conversation messages : List Message}
    (h : MarkersPlaced conversation) (hclean : ∀ m ∈ messages, m.isSkipMarker = false) :
    MarkersPlaced (conversation ++ messages) := by
  intro i m hi hm
  rcases Nat.lt_or_ge i conversation.length with hlt | hge
  · rw [List.getElem?_append_left hlt] at hi
    have hplace := h i m hi hm
    rw [List.findIdx_append, if_pos (by omega)]
    exact hplace
  · rw [List.getElem?_append_right hge] at hi
    rw [hclean m (List.mem_of_getElem? hi)] at hm
    cases hm

namespace Round

variable {given current : List Message}

/-- What one round keeps; a selection is a step only where all markers stand in place. -/
theorem apply_continues (hcontinues : Continues given current)
    (hplaced : MarkersPlaced current) (r : Round)
    (hclean : ∀ m ∈ r.added, m.isSkipMarker = false) :
    Continues (given ++ r.added) (r.apply current) ∧
      MarkersPlaced (r.apply current) := by
  cases r with
  | append messages => exact ⟨hcontinues.append messages, hplaced.append hclean⟩
  | select measure window requestId known =>
    rw [added, List.append_nil, apply]
    rcases hrun : (Selection.select measure current window requestId known).run {} with
      ⟨_ | s, q⟩
    · exact ⟨hcontinues, hplaced⟩
    · obtain ⟨hkept, hkeptPlaced⟩ :=
        Continues.of_arrangement hplaced (Selection.arrangement_of_run_select hrun)
      exact ⟨hcontinues.trans hkept, hkeptPlaced⟩

theorem conversation_continues (rounds : List Round)
    (hclean : ∀ r ∈ rounds, ∀ m ∈ r.added, m.isSkipMarker = false) :
    Continues (past rounds) (conversation rounds) ∧ MarkersPlaced (conversation rounds) := by
  -- Rounds are taken off at the end, so that the step starts from what all the others left.
  induction rounds using List.reverseRecOn with
  | nil => exact ⟨Continues.refl [], fun i m hi => by cases hi⟩
  | append_singleton rounds r ih =>
    obtain ⟨hcontinues, hplaced⟩ := ih fun r' hr' => hclean r' (List.mem_append_left _ hr')
    rw [conversation_concat, past_concat]
    exact apply_continues hcontinues hplaced r (hclean r (by simp))

theorem apply_select_of_cost (conversation : List Message) (cost : List Message → Int)
    (window : Int) (requestId : Value) (known : Option Int) :
    ∃ sources, Arrangement conversation sources
      (apply conversation (.select (fun ms => .ok (cost ms)) window requestId known)) := by
  obtain ⟨s, q, hrun⟩ := Selection.run_select_returns cost conversation window requestId known {}
  refine ⟨s.sources, ?_⟩
  rw [apply, hrun]
  exact Selection.arrangement_of_run_select hrun

/-- After any rounds that append no marker of their own there is at most one marker, directly after
the first message of the chat. Every system message is there once, in the order of appending; the
first message of the chat is still the first; and the others that are there are the latest of all
that were appended. Directly after a selection the system messages come before the chat. -/
theorem conversation_survives (rounds : List Round)
    (hclean : ∀ r ∈ rounds, ∀ m ∈ r.added, m.isSkipMarker = false) :
    (conversation rounds).countP Message.isSkipMarker ≤ 1 ∧
      (∀ i m, (conversation rounds)[i]? = some m → m.isSkipMarker = true →
        i = (conversation rounds).findIdx Message.isChat + 1) ∧
      (conversation rounds).filter Message.isPlainSystem =
        (past rounds).filter Message.isSystem ∧
      ((conversation rounds).filter Message.isChat).head? =
        ((past rounds).filter Message.isChat).head? ∧
      ((conversation rounds).filter Message.isChat).tail <:+
        ((past rounds).filter Message.isChat).tail ∧
      ((conversation rounds).filter Message.isChat).getLast? =
        ((past rounds).filter Message.isChat).getLast? ∧
      ∀ (earlier : List Round) (cost : List Message → Int) (window : Int) (requestId : Value)
        (known : Option Int),
        rounds = earlier ++ [.select (fun ms => .ok (cost ms)) window requestId known] →
        ∀ i m, (conversation rounds)[i]? = some m → m.isPlainSystem = true →
          i < (conversation rounds).findIdx Message.isChat := by
  obtain ⟨hcontinues, hplaced⟩ := conversation_continues rounds hclean
  refine ⟨hplaced.countP_le_one, hplaced, ?_, hcontinues.first, hcontinues.recent,
    hcontinues.latest, ?_⟩
  · rw [hcontinues.system]
    apply List.filter_congr
    intro m hm
    obtain ⟨r, hr, hmr⟩ := List.mem_flatMap.mp hm
    rw [Message.isPlainSystem, hclean r hr m hmr, Bool.not_false, Bool.and_true]
  · rintro earlier cost window requestId known rfl i m hi hm
    rw [conversation_concat] at hi ⊢
    obtain ⟨sources, harranged⟩ := apply_select_of_cost (conversation earlier) cost window
      requestId known
    exact harranged.lt_findIdx hi hm

def sampleRounds : List Round :=
  [.append [.ofText .system "be brief", .ofText .user "one", .ofText .assistant "two",
      .ofText .user "three", .ofText .assistant "four"],
    .select (fun ms => .ok ms.length) 4 .null none,
    .append [.ofText .system "be kind", .ofText .user "five"],
    .select (fun ms => .ok ms.length) 5 .null none]

theorem conversation_survives_sampleRounds :
    (∀ r ∈ sampleRounds, ∀ m ∈ r.added, m.isSkipMarker = false) ∧
      (conversation sampleRounds).map Message.standing =
        [.system, .system, .chat, .marker, .chat] ∧
      (conversation sampleRounds).countP Message.isSkipMarker ≤ 1 ∧
      (conversation sampleRounds).filter Message.isPlainSystem =
        (past sampleRounds).filter Message.isSystem := by
  have hclean : ∀ r ∈ sampleRounds, ∀ m ∈ r.added, m.isSkipMarker = false := by
    decide
  obtain ⟨hcount, -, hsystem, -⟩ := conversation_survives sampleRounds hclean
  exact ⟨hclean, by decide, hcount, hsystem⟩

end Round

end ChatWindow
