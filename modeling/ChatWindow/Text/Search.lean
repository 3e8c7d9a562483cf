/-!
# Finding a piece of a text

The first place where a piece occurs; the empty piece occurs at once.
-/

namespace ChatWindow.Text

variable {α : Type} [DecidableEq α]

def after? : List α → List α → Option (List α)
  | [], text => some text
  | _ :: _, [] => none
  | p :: piece, c :: text => if p = c then after? piece text else none

def cut? (piece : List α) : List α → Option (List α × List α)
  | [] => if piece = [] then some ([], []) else none
  | c :: text =>
    match after? piece (c :: text) with
    | some rest => some ([], rest)
    | none => (cut? piece text).map fun s => (c :: s.1, s.2)

def contains (piece text : List α) : Bool := (cut? piece text).isSome

theorem after?_eq_some_iff {piece text rest : List α} :
    after? piece text = some rest ↔ text = piece ++ rest := by
  induction piece generalizing text with
  | nil => simp [after?, eq_comm]
  | cons p piece ih =>
    cases text with
    | nil => simp [after?]
    | cons c text =>
      by_cases h : p = c
      · simp [after?, h, ih]
      · simp [after?, h, Ne.symm h]

theorem eq_append_of_cut? {piece text before rest : List α}
    (h : cut? piece text = some (before, rest)) : text = before ++ piece ++ rest := by
  induction text generalizing before with
  | nil =>
    simp only [cut?] at h
    split at h <;> simp_all
  | cons c text ih =>
    simp only [cut?] at h
    split at h
    · next hr =>
      simp only [Option.some.injEq, Prod.mk.injEq] at h
      obtain ⟨rfl, rfl⟩ := h
      simpa using after?_eq_some_iff.1 hr
    · next hr =>
      obtain ⟨s, hs, he⟩ := Option.map_eq_some_iff.1 h
      simp only [Prod.mk.injEq] at he
      obtain ⟨rfl, rfl⟩ := he
      simpa using ih hs

end ChatWindow.Text
