import ChatWindow.Proofs.Choice
import ChatWindow.Proofs.Regrouped
import Mathlib.Data.List.DropRight

/-!
# Conversations in groups

A selection sees a conversation as its system messages, the first message of the chat, the marker
that stays and the other messages of the chat. Every candidate is such groups one behind the other,
and where these groups are read as a conversation they come apart again as they were.
-/

namespace ChatWindow

open Selection (standings)

@[ext]
structure Grouping where
  front : List Message
  first : Message
  marker : Option Message
  others : List Message
  front_system : ∀ m ∈ front, m.isSystem = true
  first_chat : first.isChat = true
  marker_skips : ∀ m ∈ marker, m.isSkipMarker = true
  others_chat : ∀ m ∈ others, m.isChat = true

namespace Grouping

def messages (g : Grouping) : List Message :=
  g.front ++ g.first :: (g.marker.toList ++ g.others)

def between (g : Grouping) : Nat := g.others.length - 1

def mark (g : Grouping) : Message := g.marker.getD Message.skipMarker

theorem isSkipMarker_mark (g : Grouping) : g.mark.isSkipMarker = true := by
  rw [mark]
  cases hm : g.marker with
  | none => exact Message.isSkipMarker_skipMarker
  | some m => exact g.marker_skips m hm

def latest (g : Grouping) (k : Nat) : Grouping where
  front := g.front
  first := g.first
  marker := some g.mark
  others := g.others.rtake (k + 1)
  front_system := g.front_system
  first_chat := g.first_chat
  marker_skips m hm := by
    rw [Option.mem_some_iff] at hm
    exact hm ▸ g.isSkipMarker_mark
  others_chat m hm := g.others_chat m (List.mem_of_mem_drop hm)

theorem messages_latest (g : Grouping) (k : Nat) :
    (g.latest k).messages = g.front ++ g.first :: g.mark :: g.others.rtake (k + 1) := rfl

theorem between_latest (g : Grouping) (k : Nat) : (g.latest k).between = min k g.between := by
  simp only [between, latest, List.rtake, List.length_drop]
  omega

theorem rtake_rtake {α : Type} (items : List α) (j k : Nat) :
    (items.rtake j).rtake k = items.rtake (min j k) := by
  simp only [List.rtake, List.drop_drop, List.length_drop]
  congr 1
  omega

theorem latest_latest (g : Grouping) (j k : Nat) :
    (g.latest j).latest k = g.latest (min j k) := by
  have hothers : (g.others.rtake (j + 1)).rtake (k + 1) = g.others.rtake (min j k + 1) := by
    rw [rtake_rtake]
    congr 1
    omega
  ext1
  · rfl
  · rfl
  · rfl
  · exact hothers

end Grouping

structure Grouped (messages : List Message) (g : Grouping) : Prop where
  front : frontSystem messages = g.front
  chat : messages.filter Message.isChat = g.first :: g.others
  marker : (markerPosition? messages).map (fun i => messages.getD i Message.skipMarker) = g.marker

theorem exists_grouped {messages : List Message} {c : Message} {cs : List Message}
    (h : messages.filter Message.isChat = c :: cs) : ∃ g, Grouped messages g := by
  have hchat : ∀ m ∈ c :: cs, m.isChat = true := by
    intro m hm
    rw [← h] at hm
    exact (List.mem_filter.mp hm).2
  refine ⟨{
    front := frontSystem messages
    first := c
    marker := (markerPosition? messages).map fun i => messages.getD i Message.skipMarker
    others := cs
    front_system := fun _ => isSystem_of_mem_frontSystem
    first_chat := hchat c List.mem_cons_self
    marker_skips := ?_
    others_chat := fun m hm => hchat m (List.mem_cons_of_mem c hm) }, rfl, h, rfl⟩
  intro m hm
  obtain ⟨i, hi, rfl⟩ := Option.map_eq_some_iff.mp hm
  exact isSkipMarker_of_markerPosition? hi

theorem messages_keeping (messages : List Message) (positions : List Nat) :
    (keeping positions).messages messages =
      positions.map fun i => messages.getD i Message.skipMarker := by
  simp [Candidate.messages, keeping, Slot.message]

section
variable {messages : List Message} {l : Layout} {g : Grouping}

/-- What the positions of a layout hold, group by group. `others` are those of the chat behind the
first message. -/
structure Layout.Reads (l : Layout) (messages : List Message) (g : Grouping)
    (others : List Nat) : Prop where
  intermediates : l.intermediates = others.dropLast
  latest : l.latest = others.getLast?
  read_others : others.map (fun i => messages.getD i Message.skipMarker) = g.others
  read_first : messages.getD l.first Message.skipMarker = g.first
  read_system : l.system.map (fun i => messages.getD i Message.skipMarker) = g.front
  read_marker : l.marker.map (fun i => messages.getD i Message.skipMarker) = g.marker

theorem Grouped.exists_reads (hg : Grouped messages g)
    (hl : (parts (standings messages)).layout? = some l) : ∃ others, l.Reads messages g others := by
  obtain ⟨others, hchat, hsystem, hmarker, hbetween, hlatest⟩ := layout?_eq_some_iff.mp hl
  have hread := map_positions Message.isChat messages Message.skipMarker
  rw [hg.chat, ← chatPositions, hchat, List.map_cons, List.cons_eq_cons] at hread
  refine ⟨others, hbetween, hlatest, hread.2, hread.1, ?_, ?_⟩
  · rw [hsystem]
    exact hg.front
  · rw [hmarker]
    exact hg.marker

theorem rtake_dropLast_append {α : Type} (items : List α) (k : Nat) :
    items.dropLast.rtake k ++ items.getLast?.toList = items.rtake (k + 1) := by
  rcases List.eq_nil_or_concat items with rfl | ⟨init, last, rfl⟩ <;> simp

namespace Layout.Reads

variable {others : List Nat}

theorem messages_full (h : l.Reads messages g others) :
    l.full.messages messages = g.messages := by
  rw [Layout.full_eq, messages_keeping, Layout.order, h.intermediates, h.latest,
    dropLast_append_getLast?, List.map_append, List.map_cons, List.map_append, h.read_system,
    h.read_first, h.read_others, ← Option.toList_map, h.read_marker, Grouping.messages]

theorem message_skip (h : l.Reads messages g others) : l.skip.message messages = g.mark := by
  rw [Grouping.mark, ← h.read_marker]
  cases hm : l.marker <;> simp [Layout.skip, hm, Slot.message]

theorem read_recent (h : l.Reads messages g others) (k : Nat) :
    (l.intermediates.rtake k ++ l.latest.toList).map
      (fun i => messages.getD i Message.skipMarker) = g.others.rtake (k + 1) := by
  rw [h.intermediates, h.latest, rtake_dropLast_append, ← h.read_others]
  simp [List.rtake]

theorem messages_keepingLatest (h : l.Reads messages g others) (k : Nat) :
    (l.keepingLatest k).messages messages = (g.latest k).messages := by
  rw [Layout.keepingLatest, Layout.withSuffix_eq, Candidate.messages, List.map_append,
    List.map_cons, h.message_skip, ← Candidate.messages, ← Candidate.messages,
    messages_keeping, messages_keeping, h.read_recent, List.map_append, h.read_system,
    List.map_singleton, h.read_first, Grouping.messages_latest]
  simp

theorem length_intermediates (h : l.Reads messages g others) :
    l.intermediates.length = g.between := by
  rw [h.intermediates, Grouping.between, ← h.read_others, List.length_dropLast, List.length_map]

end Layout.Reads

theorem Grouped.messages_full (hg : Grouped messages g)
    (hl : (parts (standings messages)).layout? = some l) :
    l.full.messages messages = g.messages := by
  obtain ⟨_, h⟩ := hg.exists_reads hl
  exact h.messages_full

theorem Grouped.messages_keepingLatest (hg : Grouped messages g)
    (hl : (parts (standings messages)).layout? = some l) (k : Nat) :
    (l.keepingLatest k).messages messages = (g.latest k).messages := by
  obtain ⟨_, h⟩ := hg.exists_reads hl
  exact h.messages_keepingLatest k

theorem Grouped.length_intermediates (hg : Grouped messages g)
    (hl : (parts (standings messages)).layout? = some l) : l.intermediates.length = g.between := by
  obtain ⟨_, h⟩ := hg.exists_reads hl
  exact h.length_intermediates

theorem Grouped.exists_layout (hg : Grouped messages g) :
    ∃ l, (parts (standings messages)).layout? = some l := by
  apply Option.ne_none_iff_exists'.mp
  rw [Ne, layout?_eq_none_iff, chatPositions_eq_nil_iff, hg.chat]
  exact List.cons_ne_nil _ _

end

/-! ## Groups read as a conversation -/

theorem standings_append (early late : List Message) :
    standings (early ++ late) = standings early ++ standings late := List.map_append

theorem partsFrom_append_of_system {early : List Message} (h : ∀ m ∈ early, m.isSystem = true)
    (i : Nat) (rest : List Standing) :
    partsFrom i 0 (standings early ++ rest) =
      { partsFrom (i + early.length) 0 rest with
        system := List.range' i early.length ++ (partsFrom (i + early.length) 0 rest).system } := by
  -- No message of the chat has been seen yet, so `seen` stays zero through all of `early`.
  induction early generalizing i with
  | nil => rfl
  | cons m early ih =>
    have hrest := ih (fun m' hm' => h m' (List.mem_cons_of_mem m hm')) (i + 1)
    rw [Nat.add_assoc, Nat.add_comm 1] at hrest
    rw [standings_cons, List.cons_append, List.length_cons, List.range'_succ]
    rcases m.standing_cases with ⟨hs, -, -⟩ | ⟨hs, -, -⟩ | ⟨-, -, hm⟩
    · rw [hs, partsFrom, if_neg Nat.zero_ne_one, hrest]
      rfl
    · rw [hs, partsFrom, hrest]
      rfl
    · rw [h m List.mem_cons_self] at hm
      cases hm

theorem partsFrom_of_chat {recent : List Message} (h : ∀ m ∈ recent, m.isChat = true)
    (i seen : Nat) :
    partsFrom i seen (standings recent) = { chat := List.range' i recent.length } := by
  induction recent generalizing i seen with
  | nil => rfl
  | cons m recent ih =>
    rw [standings_cons, List.length_cons, List.range'_succ]
    rcases m.standing_cases with ⟨-, -, hm⟩ | ⟨-, -, hm⟩ | ⟨hs, -, -⟩
    · simp [Message.isChat, hm] at h
    · simp [Message.isChat, hm] at h
    · rw [hs, partsFrom, ih fun m' hm' => h m' (List.mem_cons_of_mem m hm')]

namespace Grouping

variable (g : Grouping)

theorem parts_messages :
    parts (standings g.messages) = {
      system := List.range g.front.length
      chat := g.front.length ::
        List.range' (g.front.length + 1 + g.marker.toList.length) g.others.length
      marker := g.marker.map fun _ => g.front.length + 1 } := by
  have hfirst : g.first.standing = .chat := by
    have hchat := g.first_chat
    rcases g.first.standing_cases with ⟨-, -, hm⟩ | ⟨-, -, hm⟩ | ⟨hs, -, -⟩
    · simp [Message.isChat, hm] at hchat
    · simp [Message.isChat, hm] at hchat
    · exact hs
  rw [parts, messages, standings_append, partsFrom_append_of_system g.front_system,
    standings_cons, hfirst, partsFrom, List.range_eq_range', Nat.zero_add]
  cases hm : g.marker with
  | none =>
    rw [Option.toList_none, List.nil_append, partsFrom_of_chat g.others_chat]
    simp
  | some m =>
    have hmark : m.standing = .marker := by
      rw [Message.standing, if_pos (g.marker_skips m hm)]
    rw [Option.toList_some, List.singleton_append, standings_cons, hmark, partsFrom,
      partsFrom_of_chat g.others_chat]
    simp

theorem grouped_messages : Grouped g.messages g := by
  have hparts := g.parts_messages
  rw [parts_standings] at hparts
  injection hparts with hsystem hchat hmarker
  refine ⟨?_, ?_, ?_⟩
  · rw [frontSystem, hsystem]
    apply List.ext_getElem
    · simp
    · intro i hi _
      simp only [List.length_map, List.length_range] at hi
      simp [messages, List.getElem?_append_left hi, hi]
  · have hfront := filter_isChat_eq_nil_iff.mpr g.front_system
    have hmark : g.marker.toList.filter Message.isChat = [] :=
      filter_isChat_eq_nil_iff.mpr fun m hm =>
        Message.isSystem_of_isSkipMarker (g.marker_skips m (Option.mem_toList.mp hm))
    rw [messages, List.filter_append, hfront, List.nil_append,
      List.filter_cons_of_pos g.first_chat, List.filter_append, hmark, List.nil_append,
      List.filter_eq_self.mpr g.others_chat]
  · rw [hmarker]
    cases hm : g.marker <;> simp [messages, hm]

theorem full_eq_identity {l : Layout} (hl : (parts (standings g.messages)).layout? = some l) :
    l.full = identity g.messages.length := by
  rw [parts_messages, Parts.layout?] at hl
  injection hl with hl
  subst hl
  rw [Layout.full_eq, identity, Layout.order, dropLast_append_getLast?]
  congr 1
  rw [messages, List.length_append, List.length_cons, List.length_append, List.range_eq_range',
    List.range_eq_range', ← List.range'_append_1, Nat.zero_add, List.range'_succ]
  congr 2
  rw [← List.range'_append_1]
  cases g.marker <;> rfl

end Grouping

end ChatWindow
