import ChatWindow.Selection
import Mathlib.Data.List.Basic

/-!
# Positions in a conversation

The parts that a selection divides a conversation into, said of the messages themselves. The chat
is what is no system message. The marker that stays is the first skip marker with exactly one
message of the chat before it. All other system messages are system messages.
-/

namespace ChatWindow

def Message.isChat (m : Message) : Bool := !m.isSystem

theorem Message.standing_cases (m : Message) :
    (m.standing = .marker ∧ m.isSkipMarker = true ∧ m.isSystem = true) ∨
    (m.standing = .system ∧ m.isSkipMarker = false ∧ m.isSystem = true) ∨
    (m.standing = .chat ∧ m.isSkipMarker = false ∧ m.isSystem = false) := by
  simp only [standing]
  cases hm : m.isSkipMarker with
  | true => exact .inl ⟨rfl, rfl, isSystem_of_isSkipMarker hm⟩
  | false => cases m.isSystem <;> simp

def positionsFrom (test : Message → Bool) (i : Nat) (messages : List Message) : List Nat :=
  ((messages.zipIdx i).filter fun x => test x.1).map Prod.snd

def positions (test : Message → Bool) (messages : List Message) : List Nat :=
  positionsFrom test 0 messages

def chatPositions (messages : List Message) : List Nat := positions Message.isChat messages

def staysAfter (seen : Nat) (messages : List Message) (j : Nat) : Bool :=
  (messages[j]?).any Message.isSkipMarker &&
    seen + (messages.take j).countP Message.isChat == 1

/-- The first skip marker that has exactly one message of the chat before it. -/
def markerPosition? (messages : List Message) : Option Nat :=
  (List.range messages.length).find? (staysAfter 0 messages)

def systemPositions (messages : List Message) : List Nat :=
  (positions Message.isSystem messages).filter fun i => markerPosition? messages != some i

theorem positionsFrom_cons (test : Message → Bool) (i : Nat) (m : Message)
    (messages : List Message) :
    positionsFrom test i (m :: messages) =
      if test m then i :: positionsFrom test (i + 1) messages
      else positionsFrom test (i + 1) messages := by
  cases hm : test m <;> simp [positionsFrom, hm]

theorem mem_positionsFrom {test : Message → Bool} {i j : Nat} {messages : List Message} :
    j ∈ positionsFrom test i messages ↔
      i ≤ j ∧ ∃ m, messages[j - i]? = some m ∧ test m = true := by
  simp only [positionsFrom, List.mem_map, List.mem_filter]
  constructor
  · rintro ⟨⟨m, k⟩, ⟨hk, hm⟩, rfl⟩
    obtain ⟨hle, hget⟩ := List.mk_mem_zipIdx_iff_le_and_getElem?_sub.mp hk
    exact ⟨hle, m, hget, hm⟩
  · rintro ⟨hle, m, hget, hm⟩
    exact ⟨(m, j), ⟨List.mk_mem_zipIdx_iff_le_and_getElem?_sub.mpr ⟨hle, hget⟩, hm⟩, rfl⟩

theorem mem_positions {test : Message → Bool} {j : Nat} {messages : List Message} :
    j ∈ positions test messages ↔ ∃ m, messages[j]? = some m ∧ test m = true := by
  simp [positions, mem_positionsFrom]

theorem positions_all {test : Message → Bool} {messages : List Message}
    (h : ∀ m ∈ messages, test m = true) :
    positions test messages = List.range messages.length := by
  have hall : (messages.zipIdx 0).filter (fun x => test x.1) = messages.zipIdx 0 := by
    rw [List.filter_eq_self]
    intro x hx
    exact h x.1 (List.fst_mem_of_mem_zipIdx hx)
  rw [positions, positionsFrom, hall, List.zipIdx_map_snd, List.range_eq_range']

theorem getD_of_getElem? {m : Message} {i : Nat} {messages : List Message} (d : Message)
    (h : messages[i]? = some m) : messages.getD i d = m := by
  rw [List.getD_eq_getElem?_getD, h, Option.getD_some]

theorem map_positions (test : Message → Bool) (messages : List Message) (d : Message) :
    (positions test messages).map (fun j => messages.getD j d) = messages.filter test := by
  have hread : ∀ x ∈ (messages.zipIdx 0).filter (fun x => test x.1),
      messages.getD x.2 d = x.1 := by
    intro x hx
    have hget := List.mem_zipIdx_iff_getElem?.mp (List.mem_filter.mp hx).1
    exact getD_of_getElem? d hget
  calc (positions test messages).map (fun j => messages.getD j d)
      = ((messages.zipIdx 0).filter fun x => test x.1).map Prod.fst := by
        rw [positions, positionsFrom, List.map_map]
        exact List.map_congr_left hread
    _ = messages.filter test := by
        have hfilter := List.filter_map (p := test) (f := Prod.fst) (l := messages.zipIdx 0)
        rw [List.zipIdx_map_fst] at hfilter
        exact hfilter.symm

theorem chatPositions_eq_nil_iff {messages : List Message} :
    chatPositions messages = [] ↔ messages.filter Message.isChat = [] := by
  rw [← map_positions Message.isChat messages Message.skipMarker, List.map_eq_nil_iff]
  rfl

theorem filter_isChat_eq_nil_iff {messages : List Message} :
    messages.filter Message.isChat = [] ↔ ∀ m ∈ messages, m.isSystem = true := by
  simp [List.filter_eq_nil_iff, Message.isChat]

section
variable (m : Message) (messages : List Message) (seen : Nat)

theorem staysAfter_zero : staysAfter seen (m :: messages) 0 = (m.isSkipMarker && seen == 1) := by
  simp [staysAfter]

theorem staysAfter_succ (j : Nat) :
    staysAfter seen (m :: messages) (j + 1) =
      staysAfter (if m.isChat then seen + 1 else seen) messages j := by
  simp only [staysAfter, List.getElem?_cons_succ, List.take_succ_cons, List.countP_cons]
  cases m.isChat <;> simp [Nat.add_comm, Nat.add_left_comm]

theorem find?_staysAfter_cons :
    (List.range (m :: messages).length).find? (staysAfter seen (m :: messages)) =
      if m.isSkipMarker && seen == 1 then some 0
      else ((List.range messages.length).find?
        (staysAfter (if m.isChat then seen + 1 else seen) messages)).map (· + 1) := by
  have hstep : staysAfter seen (m :: messages) ∘ Nat.succ =
      staysAfter (if m.isChat then seen + 1 else seen) messages :=
    funext (staysAfter_succ m messages seen)
  rw [List.length_cons, List.range_succ_eq_map, List.find?_cons, staysAfter_zero, List.find?_map,
    hstep]
  cases m.isSkipMarker && seen == 1 <;> rfl

end

open Selection (standings)

theorem standings_cons (m : Message) (messages : List Message) :
    standings (m :: messages) = m.standing :: standings messages := rfl

theorem partsFrom_chat (i seen : Nat) (messages : List Message) :
    (partsFrom i seen (standings messages)).chat = positionsFrom Message.isChat i messages := by
  induction messages generalizing i seen with
  | nil => rfl
  | cons m messages ih =>
    rw [standings_cons, positionsFrom_cons]
    rcases m.standing_cases with ⟨hs, -, hm⟩ | ⟨hs, -, hm⟩ | ⟨hs, -, hm⟩
    · rw [hs, partsFrom]
      split_ifs <;> simp_all [Message.isChat]
    · simp [hs, partsFrom, Message.isChat, hm, ih]
    · simp [hs, partsFrom, Message.isChat, hm, ih]

theorem partsFrom_marker (i seen : Nat) (messages : List Message) :
    (partsFrom i seen (standings messages)).marker =
      ((List.range messages.length).find? (staysAfter seen messages)).map (· + i) := by
  induction messages generalizing i seen with
  | nil => rfl
  | cons m messages ih =>
    -- A position in the tail is one less than it is in the whole list.
    have hshift : ∀ o : Option Nat, (o.map (· + 1)).map (· + i) = o.map (· + (i + 1)) := by
      intro o
      cases o <;> simp; omega
    rw [standings_cons, find?_staysAfter_cons]
    rcases m.standing_cases with ⟨hs, hk, hm⟩ | ⟨hs, hk, hm⟩ | ⟨hs, hk, hm⟩
    · by_cases h1 : seen = 1
      · simp [hs, partsFrom, hk, h1]
      · simp [hs, partsFrom, hk, h1, Message.isChat, hm, ih, hshift]
    · simp [hs, partsFrom, hk, Message.isChat, hm, ih, hshift]
    · simp [hs, partsFrom, hk, Message.isChat, hm, ih, hshift]

theorem partsFrom_marker_ge {i seen j : Nat} {messages : List Message}
    (h : (partsFrom i seen (standings messages)).marker = some j) : i ≤ j := by
  rw [partsFrom_marker, Option.map_eq_some_iff] at h
  obtain ⟨k, -, rfl⟩ := h
  exact Nat.le_add_left i k

theorem partsFrom_marker_none {seen : Nat} (hseen : 2 ≤ seen) (i : Nat)
    (messages : List Message) : (partsFrom i seen (standings messages)).marker = none := by
  rw [partsFrom_marker, Option.map_eq_none_iff, List.find?_eq_none]
  intro j _ hj
  simp only [staysAfter, Bool.and_eq_true, beq_iff_eq] at hj
  omega

theorem partsFrom_system (i seen : Nat) (messages : List Message) :
    (partsFrom i seen (standings messages)).system =
      (positionsFrom Message.isSystem i messages).filter fun j =>
        (partsFrom i seen (standings messages)).marker != some j := by
  induction messages generalizing i seen with
  | nil => rfl
  | cons m messages ih =>
    have hhead : ∀ k, (partsFrom (i + 1) k (standings messages)).marker ≠ some i := by
      intro k hk
      have hle := partsFrom_marker_ge hk
      omega
    rw [standings_cons, positionsFrom_cons]
    rcases m.standing_cases with ⟨hs, -, hm⟩ | ⟨hs, -, hm⟩ | ⟨hs, -, hm⟩
    · by_cases h1 : seen = 1
      -- This marker stays and no later one does, so nothing that follows is left out.
      · simp only [hs, partsFrom, h1, hm, if_true]
        rw [ih, List.filter_cons_of_neg (by simp)]
        apply List.filter_congr
        intro j hj
        have hle := (mem_positionsFrom.mp hj).1
        have hne : some i ≠ some j := by
          rw [ne_eq, Option.some.injEq]
          omega
        rw [partsFrom_marker_none (Nat.le_refl 2), bne_iff_ne.mpr hne]
        rfl
      · simp [hs, partsFrom, h1, hm, hhead, ih]
    · simp [hs, partsFrom, hm, hhead, ih]
    · simp [hs, partsFrom, hm, ih]

theorem parts_standings (messages : List Message) :
    parts (standings messages) =
      ⟨systemPositions messages, chatPositions messages, markerPosition? messages⟩ := by
  have hmarker := partsFrom_marker 0 0 messages
  rw [show (fun k : Nat => k + 0) = id from rfl, Option.map_id, id_eq] at hmarker
  have hsystem := partsFrom_system 0 0 messages
  rw [hmarker] at hsystem
  have hchat := partsFrom_chat 0 0 messages
  rw [parts]
  cases hp : partsFrom 0 0 (standings messages) with
  | mk system chat marker =>
    rw [hp] at hmarker hsystem hchat
    subst hmarker hsystem hchat
    rfl

end ChatWindow
