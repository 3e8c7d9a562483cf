import ChatWindow.Proofs.Honesty
import ChatWindow.Proofs.Rounds

/-!
# Markers over many rounds

A marker that was put in stays in the conversation, through messages that are appended and through
all later selections. So a conversation has a marker exactly if one of its rounds has left out a
message, as long as no marker is appended and no message makes a candidate cheaper.
-/

namespace ChatWindow

open Selection (standings)

theorem Continues.mem_of_isChat {past conversation : List Message} {m : Message}
    (h : Continues past conversation) (hm : m ∈ conversation) (hchat : m.isChat = true) :
    m ∈ past := by
  have hfirst := h.first
  have hrecent := h.recent
  have hmem : m ∈ conversation.filter Message.isChat := List.mem_filter.mpr ⟨hm, hchat⟩
  cases hc : conversation.filter Message.isChat with
  | nil =>
    rw [hc] at hmem
    cases hmem
  | cons c cs =>
    rw [hc] at hfirst hrecent hmem
    rcases List.mem_cons.mp hmem with rfl | hmem
    · exact List.mem_of_mem_filter (List.mem_of_head? hfirst.symm)
    · exact List.mem_of_mem_filter (List.mem_of_mem_tail (hrecent.subset hmem))

theorem exists_chat_of_mem_intermediates {messages : List Message} {i : Nat}
    (h : i ∈ (parts (standings messages)).intermediates) :
    ∃ m, messages[i]? = some m ∧ m.isChat = true := by
  rw [Parts.intermediates] at h
  cases hl : (parts (standings messages)).layout? with
  | none =>
    rw [hl] at h
    cases h
  | some l =>
    rw [hl] at h
    obtain ⟨others, hchat, -, -, hbetween, -⟩ := layout?_eq_some_iff.mp hl
    have hmem : i ∈ chatPositions messages := by
      rw [hchat]
      exact List.mem_cons_of_mem _ ((List.dropLast_sublist others).subset (hbetween ▸ h))
    exact mem_positions.mp hmem

namespace Arrangement

variable {messages kept : List Message} {sources : List (Option Nat)}

theorem mem_of_some_mem (h : Arrangement messages sources kept) {i : Nat} {m : Message}
    (hi : some i ∈ sources) (hm : messages[i]? = some m) : m ∈ kept := by
  rw [h.kept_eq, ← getD_of_getElem? Message.skipMarker hm]
  exact List.mem_map_of_mem (f := sourceMessage messages) hi

theorem mem_of_none_notMem (h : Arrangement messages sources kept) (hnone : none ∉ sources)
    {m : Message} (hm : m ∈ kept) : m ∈ messages := by
  rw [h.kept_eq] at hm
  obtain ⟨source, hsource, rfl⟩ := List.mem_map.mp hm
  cases source with
  | none => exact absurd hsource hnone
  | some i =>
    have hget := List.getElem?_eq_getElem (h.lt_of_mem hsource)
    rw [sourceMessage, getD_of_getElem? _ hget]
    exact List.mem_of_getElem? hget

end Arrangement

def Marked (conversation : List Message) : Prop :=
  ∃ m ∈ conversation, m.isSkipMarker = true

theorem marked_append_iff {conversation added : List Message}
    (h : ∀ m ∈ added, m.isSkipMarker = false) :
    Marked (conversation ++ added) ↔ Marked conversation := by
  constructor
  · rintro ⟨m, hm, hk⟩
    rcases List.mem_append.mp hm with hm | hm
    · exact ⟨m, hm, hk⟩
    · rw [h m hm] at hk
      cases hk
  · rintro ⟨m, hm, hk⟩
    exact ⟨m, List.mem_append_left _ hm, hk⟩

namespace Selection

variable {cost : List Message → Int} {given current : List Message} {window : Int}
  {requestId : Value} {known : Option Int} {p q : Progress} {s : Selection}

theorem marked_of_marked (hcontinues : Continues given current) (hcost : NeverLowers cost current)
    (hknown : ∀ k, known = some k → cost current = k)
    (hrun : (select (fun ms => .ok (cost ms)) current window requestId known).run p = (.ok s, q))
    (h : Marked s.messages) :
    Marked current ∨ ∃ m ∈ given, ∃ i, current[i]? = some m ∧ some i ∉ s.sources := by
  obtain ⟨m, hm, hk⟩ := h
  by_cases hnone : none ∈ s.sources
  · have hinserted := (balanced_of_run_select hrun).inserted.mpr hnone
    obtain ⟨i, hi, hmissing⟩ := exists_dropped_of_inserted hcost hknown hrun hinserted
    obtain ⟨m', hget, hchat⟩ := exists_chat_of_mem_intermediates hi
    exact .inr ⟨m', hcontinues.mem_of_isChat (List.mem_of_getElem? hget) hchat, i, hget, hmissing⟩
  · exact .inl ⟨m, (arrangement_of_run_select hrun).mem_of_none_notMem hnone hm, hk⟩

theorem marked_of_placed (hplaced : MarkersPlaced current) (h : Marked current)
    (hrun : (select (fun ms => .ok (cost ms)) current window requestId known).run p =
      (.ok s, q)) : Marked s.messages := by
  obtain ⟨m, hm, hk⟩ := h
  have harranged := arrangement_of_run_select hrun
  obtain ⟨i, hget⟩ := List.mem_iff_getElem?.mp hm
  have hstays := hplaced.markerPosition? hget hk
  exact ⟨m, harranged.mem_of_some_mem (harranged.marker_kept i hstays).1 hget, hk⟩

theorem marked_of_dropped {m : Message} {i : Nat} (hget : current[i]? = some m)
    (hmissing : some i ∉ s.sources)
    (hrun : (select (fun ms => .ok (cost ms)) current window requestId known).run p =
      (.ok s, q)) : Marked s.messages := by
  obtain ⟨first, others, marker, rest, -, hkept, hk⟩ :=
    marked_of_missing hrun (List.getElem?_eq_some_iff.mp hget).1 hmissing
  exact ⟨marker, by simp [hkept], hk⟩

end Selection

namespace Round

/-- The round appends no marker, or it selects by costs that no message lowers. -/
def Fair (conversation : List Message) : Round → Prop
  | .append messages => ∀ m ∈ messages, m.isSkipMarker = false
  | .select measure _ _ known => ∃ cost : List Message → Int, measure = (fun ms => .ok (cost ms)) ∧
      NeverLowers cost conversation ∧ ∀ k, known = some k → cost conversation = k

def Drops (conversation : List Message) (m : Message) : Round → Prop
  | .append _ => False
  | .select measure window requestId known => ∃ s q i,
      (Selection.select measure conversation window requestId known).run {} = (.ok s, q) ∧
        conversation[i]? = some m ∧ some i ∉ s.sources

variable {given current : List Message} {r : Round}

/-- What one round does to the marker: it stays, and a new one is put in exactly where a message
that was appended is left out. -/
theorem marked_apply_iff (hcontinues : Continues given current) (hplaced : MarkersPlaced current)
    (hfair : r.Fair current) :
    Marked (r.apply current) ↔ Marked current ∨ ∃ m ∈ given, r.Drops current m := by
  cases r with
  | append messages => exact (marked_append_iff hfair).trans (by simp [Drops])
  | select measure window requestId known =>
    obtain ⟨cost, rfl, hcost, hknown⟩ := hfair
    obtain ⟨s, q, hrun⟩ :=
      Selection.run_select_returns cost current window requestId known {}
    have happly : apply current (.select (fun ms => .ok (cost ms)) window requestId known) =
        s.messages := by rw [apply, hrun]
    rw [happly]
    constructor
    · intro h
      rcases Selection.marked_of_marked hcontinues hcost hknown hrun h with
        h | ⟨m, hm, i, hget, hmissing⟩
      · exact .inl h
      · exact .inr ⟨m, hm, s, q, i, hrun, hget, hmissing⟩
    · rintro (h | ⟨m, -, t, q', i, hrun', hget, hmissing⟩)
      · exact Selection.marked_of_placed hplaced h hrun
      · rw [hrun] at hrun'
        cases hrun'
        exact Selection.marked_of_dropped hget hmissing hrun

theorem exists_round_concat {happens : List Round → Round → Prop} (rounds : List Round)
    (r : Round) :
    (∃ earlier r' later, rounds ++ [r] = earlier ++ r' :: later ∧ happens earlier r') ↔
      (∃ earlier r' later, rounds = earlier ++ r' :: later ∧ happens earlier r') ∨
        happens rounds r := by
  constructor
  · rintro ⟨earlier, r', later, hsplit, hhappens⟩
    rcases List.eq_nil_or_concat later with rfl | ⟨later, last, rfl⟩
    · obtain ⟨rfl, hlast⟩ := List.append_inj' hsplit rfl
      cases hlast
      exact .inr hhappens
    · rw [List.concat_eq_append, ← List.cons_append, ← List.append_assoc] at hsplit
      exact .inl ⟨earlier, r', later, (List.append_inj' hsplit rfl).1, hhappens⟩
  · rintro (⟨earlier, r', later, rfl, hhappens⟩ | hhappens)
    · exact ⟨earlier, r', later ++ [r], by simp, hhappens⟩
    · exact ⟨rounds, r, [], rfl, hhappens⟩

def FairRun (rounds : List Round) : Prop :=
  ∀ earlier r later, rounds = earlier ++ r :: later → r.Fair (conversation earlier)

theorem FairRun.of_concat {rounds : List Round} {r : Round} (h : FairRun (rounds ++ [r])) :
    FairRun rounds ∧ r.Fair (conversation rounds) :=
  ⟨fun earlier r' later hsplit => h earlier r' (later ++ [r]) (by simp [hsplit]),
    h rounds r [] rfl⟩

theorem FairRun.isSkipMarker {rounds : List Round} (h : FairRun rounds) :
    ∀ r ∈ rounds, ∀ m ∈ r.added, m.isSkipMarker = false := by
  intro r hr
  obtain ⟨earlier, later, hsplit⟩ := List.append_of_mem hr
  have hfair := h earlier r later hsplit
  cases r with
  | append messages => exact hfair
  | select => simp [added]

theorem marked_conversation_iff {rounds : List Round} (h : FairRun rounds) :
    Marked (conversation rounds) ↔
      ∃ earlier r later, rounds = earlier ++ r :: later ∧
        ∃ m ∈ past earlier, r.Drops (conversation earlier) m := by
  -- The last round is taken off: what it finds is what all the others have left.
  induction rounds using List.reverseRecOn with
  | nil =>
    refine iff_of_false ?_ ?_
    · rintro ⟨m, hm, -⟩
      cases hm
    · rintro ⟨earlier, r, later, hsplit, -⟩
      simp at hsplit
  | append_singleton rounds r ih =>
    obtain ⟨hrounds, hfair⟩ := h.of_concat
    obtain ⟨hcontinues, hplaced⟩ := conversation_continues rounds hrounds.isSkipMarker
    rw [conversation_concat, marked_apply_iff hcontinues hplaced hfair, ih hrounds,
      exists_round_concat]

/-- With costs that no message lowers, a selection that puts in a marker leaves out an intermediate,
and one that leaves out anything has a marker directly after the first message of the chat. So after
any rounds that append no marker there is one exactly if some round has left out a message that was
appended before. -/
theorem marker_honest :
    (∀ (cost : List Message → Int) (messages : List Message) (window : Int) (requestId : Value)
        (known : Option Int) (p : Progress),
      NeverLowers cost messages → (∀ k, known = some k → cost messages = k) →
      ∃ s q, (Selection.select (fun ms => .ok (cost ms)) messages window requestId known).run p =
          (.ok s, q) ∧
        (s.report.markerInserted = true →
          ∃ i ∈ (parts (standings messages)).intermediates, some i ∉ s.sources) ∧
        ((∃ i < messages.length, some i ∉ s.sources) →
          MarkedBehindFirst messages s.messages)) ∧
    ∀ rounds, FairRun rounds →
      ((∃ m ∈ conversation rounds, m.isSkipMarker = true) ↔
        ∃ earlier r later, rounds = earlier ++ r :: later ∧
          ∃ m ∈ past earlier, r.Drops (conversation earlier) m) := by
  refine ⟨?_, fun rounds hfair => marked_conversation_iff hfair⟩
  intro cost messages window requestId known p hcost hknown
  obtain ⟨s, q, hrun⟩ := Selection.run_select_returns cost messages window requestId known p
  refine ⟨s, q, hrun, Selection.exists_dropped_of_inserted hcost hknown hrun, ?_⟩
  rintro ⟨i, hi, hmissing⟩
  exact Selection.marked_of_missing hrun hi hmissing

theorem fairRun_of_forall {rounds : List Round}
    (h : ∀ r ∈ rounds, ∀ conversation, r.Fair conversation) : FairRun rounds := by
  rintro earlier r later rfl
  exact h r (by simp) (conversation earlier)

theorem neverLowers_length (messages : List Message) :
    NeverLowers (fun ms => ms.length) messages := by
  refine neverLowers_of_le (fun early late m => ?_) messages
  simp only [List.length_append, List.length_cons]
  omega

theorem marker_honest_sampleRounds :
    NeverLowers (fun ms => ms.length) Selection.sixMessages ∧ FairRun sampleRounds ∧
      (∃ s q,
        (Selection.select (fun ms => .ok ms.length) Selection.sixMessages 5 .null none).run {} =
          (.ok s, q) ∧ ∃ i ∈ [2, 3, 4], some i ∉ s.sources) ∧
      (∃ m ∈ conversation sampleRounds, m.isSkipMarker = true) ∧
      ∃ earlier r later, sampleRounds = earlier ++ r :: later ∧
        ∃ m ∈ past earlier, r.Drops (conversation earlier) m := by
  have hfair : FairRun sampleRounds := by
    refine fairRun_of_forall fun r hr conversation => ?_
    simp only [sampleRounds, List.mem_cons, List.not_mem_nil, or_false] at hr
    rcases hr with rfl | rfl | rfl | rfl
    · rw [Fair]
      decide
    · exact ⟨_, rfl, neverLowers_length conversation, by simp⟩
    · rw [Fair]
      decide
    · exact ⟨_, rfl, neverLowers_length conversation, by simp⟩
  have hmarked : ∃ m ∈ conversation sampleRounds, m.isSkipMarker = true := by decide
  obtain ⟨s, q, hrun, hinserted, -⟩ := marker_honest.1 (fun ms => ms.length)
    Selection.sixMessages 5 .null none {} (neverLowers_length _) (by simp)
  obtain ⟨t, r, ht, htinserted⟩ : ∃ t r,
      (Selection.select (fun ms => .ok ms.length) Selection.sixMessages 5 .null none).run {} =
        (.ok t, r) ∧ t.report.markerInserted = true := ⟨_, _, rfl, rfl⟩
  rw [hrun] at ht
  cases ht
  exact ⟨neverLowers_length _, hfair, ⟨s, q, hrun, hinserted htinserted⟩, hmarked,
    (marker_honest.2 sampleRounds hfair).mp hmarked⟩

end Round

end ChatWindow
