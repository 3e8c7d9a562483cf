import ChatWindow.Proofs.Position
import Mathlib.Data.List.Forall2
import Mathlib.Data.List.Nodup

/-!
# Layouts and their candidates

A layout holds every position of its conversation once. So no candidate that it makes names a
position twice or one outside the conversation, and each message of a candidate is the one at its
position or a marker put in.
-/

namespace ChatWindow

open Selection (standings)

theorem partsFrom_perm (i seen : Nat) (messages : List Message) :
    ((partsFrom i seen (standings messages)).system ++
      ((partsFrom i seen (standings messages)).marker.toList ++
        (partsFrom i seen (standings messages)).chat)).Perm (List.range' i messages.length) := by
  induction messages generalizing i seen with
  | nil => exact List.Perm.nil
  | cons m messages ih =>
    rw [standings_cons, List.length_cons, List.range'_succ]
    rcases m.standing_cases with ⟨hs, -⟩ | ⟨hs, -⟩ | ⟨hs, -⟩
    · by_cases h1 : seen = 1
      · have hrest := ih (i + 1) 2
        rw [partsFrom_marker_none (Nat.le_refl 2)] at hrest
        simp only [hs, partsFrom, h1, if_true]
        exact List.perm_middle.trans (hrest.cons i)
      · simp only [hs, partsFrom, h1, if_false]
        exact (ih (i + 1) seen).cons i
    · simp only [hs, partsFrom]
      exact (ih (i + 1) seen).cons i
    · simp only [hs, partsFrom]
      rw [← List.append_assoc]
      refine List.perm_middle.trans ?_
      rw [List.append_assoc]
      exact (ih (i + 1) (seen + 1)).cons i

theorem layout?_eq_none_iff {messages : List Message} :
    (parts (standings messages)).layout? = none ↔ chatPositions messages = [] := by
  rw [parts_standings, Parts.layout?]
  cases chatPositions messages <;> simp

theorem layout?_eq_some_iff {messages : List Message} {l : Layout} :
    (parts (standings messages)).layout? = some l ↔
      ∃ others, chatPositions messages = l.first :: others ∧
        l.system = systemPositions messages ∧ l.marker = markerPosition? messages ∧
        l.intermediates = others.dropLast ∧ l.latest = others.getLast? := by
  rw [parts_standings, Parts.layout?]
  cases hc : chatPositions messages with
  | nil => simp
  | cons first others =>
    constructor
    · rintro ⟨⟩
      exact ⟨others, rfl, rfl, rfl, rfl, rfl⟩
    · rintro ⟨others', hothers, hs, hm, hi, hl⟩
      cases l
      simp_all

theorem dropLast_append_getLast? (others : List Nat) :
    others.dropLast ++ others.getLast?.toList = others := by
  rcases List.eq_nil_or_concat others with rfl | ⟨init, last, rfl⟩ <;> simp

namespace Layout

def order (l : Layout) : List Nat :=
  l.system ++ l.first :: (l.marker.toList ++ (l.intermediates ++ l.latest.toList))

theorem full_eq (l : Layout) : l.full = keeping l.order := by
  simp [full, head, tail, keeping, order]

theorem withSuffix_eq (l : Layout) (suffix : List Nat) :
    l.withSuffix suffix =
      keeping (l.system ++ [l.first]) ++ l.skip :: keeping (suffix ++ l.latest.toList) := by
  simp [withSuffix, head, tail, keeping]

theorem withSuffix_intermediates {l : Layout} {i : Nat} (h : l.marker = some i) :
    l.withSuffix l.intermediates = l.full := by
  simp [withSuffix, full, skip, h, keeping]

theorem order_perm {messages : List Message} {l : Layout}
    (h : (parts (standings messages)).layout? = some l) :
    l.order.Perm (List.range messages.length) := by
  obtain ⟨others, hchat, hs, hm, hi, hl⟩ := layout?_eq_some_iff.mp h
  have hperm := partsFrom_perm 0 0 messages
  have hparts := parts_standings messages
  rw [parts] at hparts
  rw [hparts, ← List.range_eq_range'] at hperm
  simp only [order, hs, hm, hi, hl, dropLast_append_getLast?]
  rw [hchat] at hperm
  refine (List.Perm.append_left _ ?_).trans hperm
  exact List.perm_middle.symm

theorem order_nodup {messages : List Message} {l : Layout}
    (h : (parts (standings messages)).layout? = some l) : l.order.Nodup :=
  (order_perm h).nodup_iff.mpr List.nodup_range

theorem mem_order_iff {messages : List Message} {l : Layout}
    (h : (parts (standings messages)).layout? = some l) {i : Nat} :
    i ∈ l.order ↔ i < messages.length := by
  rw [(order_perm h).mem_iff, List.mem_range]

theorem intermediates_nodup {messages : List Message} {l : Layout}
    (h : (parts (standings messages)).layout? = some l) : l.intermediates.Nodup := by
  refine (order_nodup h).sublist ?_
  rw [order]
  exact (((List.sublist_append_left _ _).trans (List.sublist_append_right _ _)).cons _).trans
    (List.sublist_append_right _ _)

end Layout

theorem lt_of_mem_intermediates {messages : List Message} {i : Nat}
    (h : i ∈ (parts (standings messages)).intermediates) : i < messages.length := by
  rw [Parts.intermediates] at h
  cases hl : (parts (standings messages)).layout? with
  | none =>
    rw [hl] at h
    cases h
  | some l =>
    rw [hl] at h
    exact (Layout.mem_order_iff hl).mp (by simp [Layout.order, h])

/-- No place stands twice in the candidate, and each is one of `n` positions or put in. -/
structure Candidate.Proper (n : Nat) (c : Candidate) : Prop where
  nodup : c.Nodup
  lt : ∀ i, Slot.kept i ∈ c → i < n

namespace Candidate

theorem Proper.sublist {n : Nat} {c d : Candidate} (h : c.Proper n) (hd : d.Sublist c) :
    d.Proper n :=
  ⟨h.nodup.sublist hd, fun i hi => h.lt i (hd.subset hi)⟩

theorem Proper.perm {n : Nat} {c d : Candidate} (h : c.Proper n) (hd : d.Perm c) : d.Proper n :=
  ⟨hd.nodup_iff.mpr h.nodup, fun i hi => h.lt i (hd.subset hi)⟩

theorem Proper.insert {n : Nat} {c : Candidate} (h : c.Proper n) (hc : Slot.inserted ∉ c) :
    Candidate.Proper n (.inserted :: c) where
  nodup := List.nodup_cons.mpr ⟨hc, h.nodup⟩
  lt i hi := by
    rcases List.mem_cons.mp hi with hi | hi
    · cases hi
    · exact h.lt i hi

end Candidate

theorem kept_injective : Function.Injective Slot.kept := by
  intro i j h
  cases h
  rfl

theorem inserted_notMem_keeping (positions : List Nat) : Slot.inserted ∉ keeping positions := by
  simp [keeping]

theorem identity_proper (n : Nat) : (identity n).Proper n where
  nodup := List.nodup_range.map kept_injective
  lt i hi := by simpa [identity, keeping] using hi

namespace Layout

variable {messages : List Message} {l : Layout}

theorem full_perm (h : (parts (standings messages)).layout? = some l) :
    l.full.Perm (identity messages.length) := by
  rw [full_eq]
  exact (order_perm h).map Slot.kept

theorem full_proper (h : (parts (standings messages)).layout? = some l) :
    l.full.Proper messages.length :=
  (identity_proper messages.length).perm (full_perm h)

theorem withSuffix_proper (h : (parts (standings messages)).layout? = some l)
    {suffix : List Nat} (hsuffix : suffix.Sublist l.intermediates) :
    (l.withSuffix suffix).Proper messages.length := by
  have hfull := full_proper h
  rw [full_eq] at hfull
  have hrest : (suffix ++ l.latest.toList).Sublist
      (l.marker.toList ++ (l.intermediates ++ l.latest.toList)) :=
    (hsuffix.append_right _).trans (List.sublist_append_right _ _)
  cases hm : l.marker with
  | some i =>
    refine hfull.sublist ?_
    rw [← full_eq, ← withSuffix_intermediates hm, withSuffix_eq, withSuffix_eq]
    exact (((hsuffix.append_right _).map Slot.kept).cons_cons _).append_left _
  | none =>
    have hskip : l.skip = .inserted := by simp [skip, hm]
    rw [withSuffix_eq, hskip]
    refine Candidate.Proper.perm (Candidate.Proper.insert ?_ ?_) List.perm_middle
    · refine hfull.sublist ?_
      rw [keeping, keeping, ← List.map_append]
      refine List.Sublist.map Slot.kept ?_
      rw [order, List.append_assoc]
      exact (hrest.cons_cons l.first).append_left l.system
    · rw [keeping, keeping, ← List.map_append]
      exact inserted_notMem_keeping _

end Layout

end ChatWindow
