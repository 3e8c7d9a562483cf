import ChatWindow.Text.Kinds

/-!
# Words of texts that are put together

A word ends where a blank stands. So a text that ends with a blank, or has nothing in it, keeps its
words to itself: whatever follows it adds its own words and changes none of those before.
-/

namespace ChatWindow.Text

variable {α : Type} {blank : α → Bool}

def Closed (blank : α → Bool) (cs : List α) : Prop :=
  cs = [] ∨ ∃ body c, blank c = true ∧ cs = body ++ [c]

theorem closed_nil : Closed blank [] := .inl rfl

theorem closed_concat (body : List α) {c : α} (h : blank c = true) : Closed blank (body ++ [c]) :=
  .inr ⟨body, c, h, rfl⟩

theorem Closed.append {cs : List α} (h : Closed blank cs) (before : List α)
    (hbefore : Closed blank before) : Closed blank (before ++ cs) := by
  rcases h with rfl | ⟨body, c, hc, rfl⟩
  · rw [List.append_nil]
    exact hbefore
  · rw [← List.append_assoc]
    exact closed_concat _ hc

theorem closed_flatten {blocks : List (List α)} (h : ∀ b ∈ blocks, Closed blank b) :
    Closed blank blocks.flatten := by
  induction blocks with
  | nil => exact closed_nil
  | cons b blocks ih =>
    rw [List.forall_mem_cons] at h
    exact (ih h.2).append b h.1

theorem pushWord_append (word : List α) (rest others : List (List α)) :
    pushWord word (rest ++ others) = pushWord word rest ++ others := by
  rw [pushWord, pushWord]
  split <;> rfl

theorem foldr_wordStep (cs : List α) (rest : List (List α)) :
    cs.foldr (wordStep blank) ([], rest) =
      ((cs.foldr (wordStep blank) ([], [])).1, (cs.foldr (wordStep blank) ([], [])).2 ++ rest) := by
  induction cs with
  | nil => rfl
  | cons c cs ih =>
    rw [List.foldr_cons, List.foldr_cons, ih, wordStep, wordStep]
    split
    · rw [pushWord_append]
    · rfl

theorem words_append_blank {c : α} (h : blank c = true) (before after : List α) :
    words blank (before ++ c :: after) = words blank before ++ words blank after := by
  have hafter : (c :: after).foldr (wordStep blank) ([], []) = ([], words blank after) := by
    rw [List.foldr_cons, wordStep, if_pos h]
    rfl
  rw [words, List.foldr_append, hafter, foldr_wordStep before, pushWord_append]
  rfl

theorem Closed.words_append {cs : List α} (h : Closed blank cs) (after : List α) :
    words blank (cs ++ after) = words blank cs ++ words blank after := by
  rcases h with rfl | ⟨body, c, hc, rfl⟩
  · rfl
  · rw [List.append_assoc, List.singleton_append, words_append_blank hc, words_append_blank hc]
    exact congrArg (· ++ words blank after) (List.append_nil (words blank body)).symm

end ChatWindow.Text
