import ChatWindow.Proofs.Selection
import Mathlib.Data.List.Forall2

/-!
# Conversations that look alike

A selection sees of a message whether it is a system message and whether it is a marker, and of a
candidate what it costs. Two conversations that agree in that are cut down alike, whatever their
messages hold. For every conversation there is one of messages that are all different and that looks
like it, so that it makes no difference to a selection whether messages repeat one another.
-/

namespace ChatWindow

namespace Selection

/-- Position by position the messages stand alike, and candidates of the same positions cost the
same. -/
structure Alike {α : Type} (measure : List Message → α) (messages : List Message)
    (measure' : List Message → α) (messages' : List Message) : Prop where
  standing : List.Forall₂ (fun m m' => m.isSystem = m'.isSystem ∧
    m.isSkipMarker = m'.isSkipMarker) messages messages'
  measured : ∀ c : Candidate, (∀ i, Slot.kept i ∈ c → i < messages.length) →
    measure (c.messages messages) = measure' (c.messages messages')

def bounded (n : Nat) : Slot → Slot
  | .kept i => if i < n then .kept i else .inserted
  | .inserted => .inserted

theorem message_bounded {messages : List Message} {n : Nat} (h : messages.length = n)
    (slot : Slot) : (bounded n slot).message messages = slot.message messages := by
  cases slot with
  | inserted => rfl
  | kept i =>
    by_cases hi : i < n
    · rw [bounded, if_pos hi]
    · have hout : messages[i]? = none := List.getElem?_eq_none (by omega)
      rw [bounded, if_neg hi, Slot.message, Slot.message, List.getD_eq_getElem?_getD, hout,
        Option.getD_none]

theorem messages_bounded {messages : List Message} {n : Nat} (h : messages.length = n)
    (c : Candidate) :
    Candidate.messages messages (c.map (bounded n)) = c.messages messages := by
  rw [Candidate.messages, List.map_map]
  exact List.map_congr_left fun slot _ => message_bounded h slot

namespace Alike

variable {α : Type} {measure measure' : List Message → α} {messages messages' : List Message}

theorem standings_eq (h : Alike measure messages measure' messages') :
    standings messages = standings messages' := by
  have hall := h.standing
  clear h
  induction hall with
  | nil => rfl
  | @cons m m' rest rest' hm _ ih =>
    have hstanding : m.standing = m'.standing := by
      rw [Message.standing, Message.standing, hm.1, hm.2]
    rw [standings, standings, List.map_cons, List.map_cons, hstanding]
    exact congrArg _ ih

theorem measured_eq (h : Alike measure messages measure' messages') (c : Candidate) :
    measure (c.messages messages) = measure' (c.messages messages') := by
  have hin : ∀ i, Slot.kept i ∈ c.map (bounded messages.length) → i < messages.length := by
    intro i hi
    obtain ⟨slot, -, hslot⟩ := List.mem_map.mp hi
    cases slot with
    | inserted => cases hslot
    | kept j =>
      rw [bounded] at hslot
      split_ifs at hslot with hj
      cases hslot
      exact hj
  have hmeasured := h.measured _ hin
  rw [messages_bounded rfl, messages_bounded h.standing.length_eq.symm] at hmeasured
  exact hmeasured

theorem map {β : Type} (f : α → β) (h : Alike measure messages measure' messages') :
    Alike (fun ms => f (measure ms)) messages (fun ms => f (measure' ms)) messages' :=
  ⟨h.standing, fun c hc => congrArg f (h.measured c hc)⟩

end Alike

section
variable {measure measure' : List Message → Except Failure Int} {messages messages' : List Message}

theorem find_congr (h : Alike measure messages measure' messages') (window : Int)
    (known : Option Int) :
    find measure messages window known = find measure' messages' window known := by
  have hstart : start messages known = start messages' known := by
    cases known with
    | none => rfl
    | some k => rw [start, start, h.standing.length_eq]
  rw [find, find, h.standings_eq, funext h.measured_eq, hstart]

/-- A selection that returns leaves behind, keeps and reports what one from a conversation that
looks alike does. -/
theorem run_select_congr (h : Alike measure messages measure' messages') (window : Int)
    (requestId : Value) (known : Option Int) (p q : Progress) {s : Selection}
    (hrun : (select measure messages window requestId known).run p = (.ok s, q)) :
    ∃ s', (select measure' messages' window requestId known).run p = (.ok s', q) ∧
      s'.sources = s.sources ∧ s'.report = s.report := by
  have hlength := h.standing.length_eq
  rcases eq_or_ne messages [] with rfl | hne
  · rw [List.forall₂_nil_left_iff.mp h.standing, run_select_nil]
    cases hrun
    exact ⟨_, rfl, rfl, rfl⟩
  · have hne' : messages' ≠ [] := by
      rw [← List.length_pos_iff] at hne ⊢
      omega
    rw [run_select hne, find_congr h] at hrun
    rw [run_select hne']
    rcases hf : find measure' messages' window known with ⟨_ | o, ledger⟩
    · rw [hf] at hrun
      cases hrun
    · rw [hf] at hrun
      cases hrun
      refine ⟨_, rfl, rfl, ?_⟩
      rw [ofOutcome, ofOutcome, hlength]

end

/-! ## Messages that are all different -/

def nameOfLength (n : Nat) : Value := .text (String.ofList (List.replicate n 'x'))

def numbered (messages : List Message) : List Message :=
  messages.mapIdx fun i m => { m with toolName := nameOfLength i }

def unnumbered (messages : List Message) (m : Message) : Message :=
  match m.toolName with
  | .text name => messages.getD name.length Message.skipMarker
  | _ => Message.skipMarker

theorem equal_nameOfLength {i j : Nat} (h : i ≠ j) :
    (nameOfLength i).equal (nameOfLength j) = false := by
  have hne : Text.plain (String.ofList (List.replicate i 'x')) ≠
      Text.plain (String.ofList (List.replicate j 'x')) := by
    intro heq
    have hlength := congrArg Text.length heq
    simp only [Text.length, Text.codes_plain, String.toList_ofList, List.length_map,
      List.length_replicate] at hlength
    exact h hlength
  rw [nameOfLength, nameOfLength, Value.equal]
  exact beq_eq_false_iff_ne.mpr hne

theorem pairwise_numbered (messages : List Message) :
    (numbered messages).Pairwise fun m m' => m.equal m' = false := by
  rw [List.pairwise_iff_getElem]
  intro i j hi hj hij
  simp only [numbered, List.getElem_mapIdx, Message.equal]
  rw [equal_nameOfLength (Nat.ne_of_lt hij), Bool.and_false]

theorem unnumbered_getD_numbered {messages : List Message} {i : Nat} (h : i < messages.length) :
    unnumbered messages ((numbered messages).getD i Message.skipMarker) =
      messages.getD i Message.skipMarker := by
  have hget : (numbered messages).getD i Message.skipMarker =
      { messages[i] with toolName := nameOfLength i } := by
    simp [numbered, List.getD_eq_getElem?_getD, h]
  rw [hget, unnumbered, nameOfLength]
  simp [Text.length]

theorem alike_numbered {α : Type} (measure : List Message → α) (messages : List Message) :
    Alike measure messages (fun ms => measure (ms.map (unnumbered messages)))
      (numbered messages) where
  standing := by
    rw [List.forall₂_iff_get]
    refine ⟨by simp [numbered], fun i hi hj => ?_⟩
    simp [numbered, Message.isSystem, Message.isSkipMarker]
  measured c hc := by
    congr 1
    rw [Candidate.messages, Candidate.messages, List.map_map]
    apply List.map_congr_left
    intro slot hslot
    cases slot with
    | kept i => exact (unnumbered_getD_numbered (hc i hslot)).symm
    | inserted => rfl

/-- Selections with the same window from conversations that look alike keep the same positions and
report the same, and among those that look like a conversation there is one in which no message
equals another. -/
theorem select_alike (cost : List Message → Int) (messages : List Message) (window : Int)
    (requestId : Value) (known : Option Int) (p : Progress) :
    ∃ s q, (select (fun ms => .ok (cost ms)) messages window requestId known).run p = (.ok s, q) ∧
      (∀ (cost' : List Message → Int) (messages' : List Message),
        Alike cost messages cost' messages' →
        ∃ s', (select (fun ms => .ok (cost' ms)) messages' window requestId known).run p =
            (.ok s', q) ∧
          s'.sources = s.sources ∧ s'.report = s.report) ∧
      ∃ (cost' : List Message → Int) (messages' : List Message),
        Alike cost messages cost' messages' ∧
          messages'.Pairwise fun m m' => m.equal m' = false := by
  obtain ⟨s, q, hrun⟩ := run_select_returns cost messages window requestId known p
  refine ⟨s, q, hrun, fun cost' messages' halike => ?_, ?_⟩
  · exact run_select_congr (halike.map Except.ok) window requestId known p q hrun
  · exact ⟨_, numbered messages, alike_numbered cost messages, pairwise_numbered messages⟩

end Selection

end ChatWindow
