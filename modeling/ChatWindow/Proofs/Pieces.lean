import ChatWindow.Text.Search
import Mathlib.Data.List.Infix

/-!
# The places where a piece occurs

The first place where a piece of text occurs parts the text in two; the places behind it part the
rest, so that no two of them overlap. What is put into such a place forms no new one, as long as no
occurrence of the piece can begin in it, and none can end there that began in the text before it.
-/

namespace ChatWindow.Text

variable {α : Type} {piece text part next front rest before tag : List α} {others : List (List α)}

/-- In this part with the piece behind it the piece occurs only at the end. -/
def Leads (piece part : List α) : Prop :=
  ∀ before after, part ++ piece = before ++ piece ++ after → after = []

/-- The parts of a text around the places where the piece occurs, from the left. -/
inductive Parted (piece : List α) : List α → List α → List (List α) → Prop
  | alone {text : List α} (h : ¬ piece <:+: text) : Parted piece text text []
  | behind {rest part next : List α} {others : List (List α)} (hpart : Leads piece part)
      (h : Parted piece rest next others) :
      Parted piece (part ++ piece ++ rest) part (next :: others)

/-- No occurrence of the piece begins in this front of a text, whatever comes behind it. -/
def Passed (piece front : List α) : Prop :=
  ∀ rest before after, front ++ rest = before ++ piece ++ after → front <+: before

/-- Where the tag is put in the place of the piece, no occurrence of the piece begins up to its
end. -/
def Inert (piece tag : List α) : Prop := ∀ part, Leads piece part → Passed piece (part ++ tag)

theorem leads_nil (piece : List α) : Leads piece [] := by
  intro before after heq
  have hlength := congrArg List.length heq
  simp only [List.length_append, List.length_nil] at hlength
  exact List.length_eq_zero_iff.mp (by omega)

theorem Leads.of_cons {c : α} (h : Leads piece (c :: part)) : Leads piece part :=
  fun before after heq => h (c :: before) after (by simp [heq])

theorem Leads.not_prefix {c : α} (h : Leads piece (c :: part)) (rest : List α) :
    ¬ piece <+: c :: part ++ piece ++ rest := by
  intro hprefix
  obtain ⟨after, hafter⟩ : piece <+: c :: part ++ piece :=
    List.prefix_of_prefix_length_le hprefix (List.prefix_append _ rest) (by simp; omega)
  obtain rfl : after = [] := h [] after hafter.symm
  have hlength := congrArg List.length hafter
  simp only [List.length_append, List.length_cons, List.length_nil] at hlength
  omega

theorem after?_eq_none_iff [DecidableEq α] : after? piece text = none ↔ ¬ piece <+: text := by
  rw [Option.eq_none_iff_forall_ne_some]
  simp only [ne_eq, after?_eq_some_iff]
  exact ⟨fun h ⟨rest, hrest⟩ => h rest hrest.symm, fun h rest hrest => h ⟨rest, hrest.symm⟩⟩

theorem cut?_append [DecidableEq α] (hpart : Leads piece part) (rest : List α) :
    cut? piece (part ++ piece ++ rest) = some (part, rest) := by
  induction part with
  | nil =>
    rw [List.nil_append]
    cases htext : piece ++ rest with
    | nil =>
      obtain ⟨rfl, rfl⟩ := List.append_eq_nil_iff.mp htext
      rfl
    | cons c text => rw [cut?, after?_eq_some_iff.mpr htext.symm]
  | cons c part ih =>
    have hnone := after?_eq_none_iff.mpr (hpart.not_prefix rest)
    rw [List.cons_append, List.cons_append] at hnone ⊢
    rw [cut?, hnone, ih hpart.of_cons]
    rfl

theorem leads_of_cut? [DecidableEq α] (h : cut? piece text = some (before, rest)) :
    Leads piece before := by
  induction text generalizing before with
  | nil =>
    obtain ⟨hbefore, -⟩ := List.append_eq_nil_iff.mp (eq_append_of_cut? h).symm
    obtain ⟨rfl, rfl⟩ := List.append_eq_nil_iff.mp hbefore
    exact leads_nil []
  | cons c text ih =>
    have happend := eq_append_of_cut? h
    rw [cut?] at h
    split at h
    · cases h
      exact leads_nil piece
    · next hnone =>
      obtain ⟨⟨before, rest⟩, hcut, heq⟩ := Option.map_eq_some_iff.mp h
      cases heq
      intro front after heq
      cases front with
      | nil =>
        refine absurd ?_ (after?_eq_none_iff.mp hnone)
        rw [happend, heq]
        simp
      | cons d front =>
        rw [List.cons_append, List.cons_append, List.cons_append] at heq
        exact ih hcut front after (List.tail_eq_of_cons_eq heq)

theorem cut?_eq_none_iff [DecidableEq α] : cut? piece text = none ↔ ¬ piece <:+: text := by
  induction text with
  | nil => simp [cut?]
  | cons c text ih =>
    rw [List.infix_cons_iff, not_or, ← after?_eq_none_iff, ← ih, cut?]
    cases after? piece (c :: text) <;> simp

theorem Parted.of_cut? [DecidableEq α] (hcut : cut? piece text = some (part, rest))
    (h : Parted piece rest next others) : Parted piece text part (next :: others) := by
  rw [eq_append_of_cut? hcut]
  exact .behind (leads_of_cut? hcut) h

theorem Parted.of_cut?_eq_none [DecidableEq α] (h : cut? piece text = none) :
    Parted piece text text [] :=
  .alone (cut?_eq_none_iff.mp h)

theorem exists_parted [DecidableEq α] (hpiece : piece ≠ []) (text : List α) :
    ∃ part others, Parted piece text part others := by
  induction hlength : text.length using Nat.strong_induction_on generalizing text with
  | _ n ih =>
    subst hlength
    cases hcut : cut? piece text with
    | none => exact ⟨text, [], .of_cut?_eq_none hcut⟩
    | some s =>
      -- The piece is not empty, so the text behind its first occurrence is shorter.
      have hshort : s.2.length < text.length := by
        rw [eq_append_of_cut? hcut, List.length_append, List.length_append]
        have := List.length_pos_iff.mpr hpiece
        omega
      obtain ⟨next, others, hrest⟩ := ih s.2.length hshort s.2 rfl
      exact ⟨s.1, next :: others, .of_cut? hcut hrest⟩

theorem Parted.cut?_eq_none [DecidableEq α] (h : Parted piece text part []) :
    cut? piece text = none := by
  cases h with
  | alone h => exact cut?_eq_none_iff.mpr h

namespace Passed

theorem of_notMem {c : α} (h : c ∉ front) : Passed (c :: piece) front := by
  intro rest before after heq
  rw [List.append_assoc] at heq
  rcases List.append_eq_append_iff.mp heq with ⟨between, hbefore, -⟩ | ⟨between, hfront, hpiece⟩
  · exact ⟨between, hbefore.symm⟩
  · cases between with
    | nil => simp [hfront]
    | cons d between =>
      rw [List.cons_append, List.cons_append, List.cons.injEq] at hpiece
      rw [hfront, hpiece.1] at h
      simp at h

theorem cons {c : α} (hhere : ∀ rest, ¬ piece <+: c :: (front ++ rest))
    (h : Passed piece front) : Passed piece (c :: front) := by
  intro rest before after heq
  cases before with
  | nil => exact absurd ⟨after, heq.symm⟩ (hhere rest)
  | cons d before =>
    rw [List.cons_append, List.cons_append, List.cons_append, List.cons.injEq] at heq
    rw [heq.1]
    exact (List.prefix_cons_inj d).mpr (h rest before after heq.2)

theorem leads (h : Passed piece front) (hpart : Leads piece part) :
    Leads piece (front ++ part) := by
  intro before after heq
  rw [List.append_assoc] at heq
  obtain ⟨before, rfl⟩ := h _ before after heq
  rw [List.append_assoc, List.append_assoc, List.append_cancel_left_eq] at heq
  exact hpart before after (by rw [heq, List.append_assoc])

theorem parted (h : Passed piece front) (hparted : Parted piece text part others) :
    Parted piece (front ++ text) (front ++ part) others := by
  cases hparted with
  | alone hnone =>
    refine .alone fun ⟨before, after, heq⟩ => hnone ?_
    obtain ⟨before, rfl⟩ := h _ before after heq.symm
    rw [List.append_assoc, List.append_assoc, List.append_cancel_left_eq] at heq
    exact ⟨before, after, by rw [← heq, List.append_assoc]⟩
  | behind hpart hrest =>
    rw [← List.append_assoc, ← List.append_assoc]
    exact .behind (h.leads hpart) hrest

end Passed

theorem inert_of_head_notMem {c d : α} (h : Passed (d :: piece) (c :: tag)) (hc : c ∉ piece) :
    Inert (d :: piece) (c :: tag) := by
  intro part hpart rest before after heq
  rw [List.append_assoc, List.append_assoc] at heq
  rcases List.append_eq_append_iff.mp heq with ⟨between, rfl, htag⟩ | ⟨between, rfl, hpiece⟩
  · rw [← List.append_assoc] at htag
    exact (List.prefix_append_right_inj part).mpr (h _ between after htag)
  -- Here the piece would begin in the part: it ends there, or the tag continues it.
  · cases between with
    | nil =>
      obtain ⟨between, hbetween⟩ := h rest [] after (by simpa using hpiece.symm)
      simp at hbetween
    | cons e between =>
      rw [List.cons_append, List.cons_append, List.cons.injEq] at hpiece
      obtain ⟨rfl, hpiece⟩ := hpiece
      rcases List.append_eq_append_iff.mp hpiece with ⟨inner, rfl, -⟩ | ⟨inner, hinner, hrest⟩
      · have hend := hpart before (inner ++ d :: piece) (by simp)
        simp at hend
      · cases inner with
        | nil =>
          have hend := hpart before (d :: piece) (by simp [hinner])
          simp at hend
        | cons e inner =>
          rw [List.cons_append, List.cons_append, List.cons.injEq] at hrest
          rw [hinner, ← hrest.1] at hc
          simp at hc

end ChatWindow.Text
