import ChatWindow.Proofs.Inquiry

/-!
# What a run measures

A run measures what its inquiry asks for, in that order: up to the first candidate whose measurement
fails, and of that only what the ledger did not know, each candidate once. All measurements but the
last succeed; if the last one fails, the run fails with the same failure.
-/

namespace ChatWindow

variable {κ α ε : Type}

def upTo (stops : κ → Bool) : List κ → List κ
  | [] => []
  | k :: rest => if stops k then [k] else k :: upTo stops rest

/-- The items that are not known, each where it stands first. -/
def fresh [BEq κ] (known : κ → Bool) : List κ → List κ
  | [] => []
  | k :: rest =>
    if known k then fresh known rest else k :: fresh (fun j => known j || j == k) rest

theorem upTo_sublist (stops : κ → Bool) (items : List κ) : (upTo stops items).Sublist items := by
  induction items with
  | nil => exact .slnil
  | cons k rest ih =>
    rw [upTo]
    split
    · exact (List.nil_sublist rest).cons_cons k
    · exact ih.cons_cons k

theorem upTo_append (stops : κ → Bool) (items others : List κ) :
    upTo stops (items ++ others) =
      if items.any stops then upTo stops items else items ++ upTo stops others := by
  induction items with
  | nil => rfl
  | cons k rest ih =>
    rw [List.cons_append, upTo, upTo, ih, List.any_cons]
    cases stops k with
    | true => simp
    | false =>
      simp only [Bool.false_eq_true, if_false, Bool.false_or]
      split
      · rfl
      · rfl

theorem upTo_of_never {stops : κ → Bool} {items : List κ} (h : ∀ k ∈ items, stops k = false) :
    upTo stops items = items := by
  induction items with
  | nil => rfl
  | cons k rest ih =>
    obtain ⟨hk, hrest⟩ := List.forall_mem_cons.mp h
    rw [upTo, hk, if_neg Bool.false_ne_true, ih hrest]

section
variable [BEq κ]

theorem fresh_sublist (known : κ → Bool) (items : List κ) :
    (fresh known items).Sublist items := by
  induction items generalizing known with
  | nil => exact .slnil
  | cons k rest ih =>
    rw [fresh]
    split
    · exact (ih known).cons k
    · exact (ih _).cons_cons k

theorem known_of_mem_fresh {known : κ → Bool} {items : List κ} {k : κ}
    (h : k ∈ fresh known items) : known k = false := by
  induction items generalizing known with
  | nil => cases h
  | cons j rest ih =>
    rw [fresh] at h
    split at h
    · exact ih h
    · next hj =>
      obtain rfl | hmem := List.mem_cons.mp h
      · exact Bool.not_eq_true _ ▸ hj
      · exact (Bool.or_eq_false_iff.mp (ih hmem)).1

theorem fresh_nodup [LawfulBEq κ] (known : κ → Bool) (items : List κ) :
    (fresh known items).Nodup := by
  induction items generalizing known with
  | nil => exact List.nodup_nil
  | cons k rest ih =>
    rw [fresh]
    split
    · exact ih known
    · refine List.nodup_cons.mpr ⟨fun hmem => ?_, ih _⟩
      have hknown := known_of_mem_fresh hmem
      simp at hknown

theorem fresh_append_cons [LawfulBEq κ] {known : κ → Bool} {k : κ} {items : List κ}
    (h : known k = true ∨ k ∈ items) (others : List κ) :
    fresh known (items ++ k :: others) = fresh known (items ++ others) := by
  -- What is known grows along the list until `k` is known.
  induction items generalizing known with
  | nil =>
    have hk : known k = true := h.resolve_right List.not_mem_nil
    rw [List.nil_append, fresh, if_pos hk]
    rfl
  | cons j rest ih =>
    rw [List.cons_append, List.cons_append, fresh, fresh]
    by_cases hj : known j = true
    · rw [if_pos hj, if_pos hj]
      refine ih ?_
      rcases h with hk | hmem
      · exact .inl hk
      · obtain rfl | hmem := List.mem_cons.mp hmem
        · exact .inl hj
        · exact .inr hmem
    · rw [if_neg hj, if_neg hj]
      congr 1
      refine ih ?_
      rcases h with hk | hmem
      · exact .inl (by simp [hk])
      · obtain rfl | hmem := List.mem_cons.mp hmem
        · exact .inl (by simp)
        · exact .inr hmem

/-- To know one item more spares that item where it stands first, and nothing else. -/
theorem length_fresh_of_mem [LawfulBEq κ] {known : κ → Bool} {k : κ} {items : List κ}
    (hk : known k = false) (hmem : k ∈ items) :
    (fresh known items).length = (fresh (fun j => known j || j == k) items).length + 1 := by
  -- The two lists part where `k` stands first: one of them leaves it out.
  induction items generalizing known with
  | nil => cases hmem
  | cons i rest ih =>
    rw [fresh, fresh]
    by_cases hi : known i = true
    · have hne : k ≠ i := fun h => by simp [h, hi] at hk
      rw [if_pos hi, if_pos (by simp [hi])]
      exact ih hk (List.mem_of_ne_of_mem hne hmem)
    · rw [if_neg hi]
      by_cases hik : i = k
      · subst hik
        rw [if_pos (by simp), List.length_cons]
      · have hswap : (fun j => (known j || j == k) || j == i) =
            fun j => (known j || j == i) || j == k := by
          funext j
          rw [Bool.or_assoc, Bool.or_assoc, Bool.or_comm (j == k)]
        have hk' : (known k || k == i) = false := by simp [hk, Ne.symm hik]
        rw [if_neg (by simp [hi, hik]), List.length_cons, List.length_cons, hswap]
        exact congrArg (· + 1) (ih hk' (List.mem_of_ne_of_mem (Ne.symm hik) hmem))

theorem fresh_upTo_append_cons [LawfulBEq κ] (known : κ → Bool) (stops : κ → Bool) {k : κ}
    {items : List κ} (h : k ∈ items) (others : List κ) :
    fresh known (upTo stops (items ++ k :: others)) =
      fresh known (upTo stops (items ++ others)) := by
  rw [upTo_append, upTo_append]
  by_cases hany : items.any stops = true
  · rw [if_pos hany, if_pos hany]
  · have hk : ¬stops k = true := fun hstops => hany (List.any_eq_true.mpr ⟨k, h, hstops⟩)
    rw [if_neg hany, if_neg hany, upTo, if_neg hk]
    exact fresh_append_cons (.inr h) _

end

def fails (quote : κ → Except ε Int) (k : κ) : Bool :=
  match quote k with
  | .ok _ => false
  | .error _ => true

namespace Ledger
variable [BEq κ]

def knows (l : Ledger κ) (k : κ) : Bool := (l.cost? k).isSome

theorem knows_cons (l : Ledger κ) (k : κ) (c : Int) (measured : List κ) :
    knows { l with known := (k, c) :: l.known, measured } = fun j => l.knows j || j == k := by
  funext j
  rw [knows, knows, cost?, cost?, List.lookup_cons]
  cases j == k <;> simp

theorem look_of_known {l : Ledger κ} {k : κ} {c : Int} (h : l.cost? k = some c)
    (measure : κ → Except ε Int) : l.look measure k = (.ok c, l) := by
  rw [look, h]

theorem look_of_ok {l : Ledger κ} {k : κ} {c : Int} {measure : κ → Except ε Int}
    (h : l.cost? k = none) (hk : measure k = .ok c) :
    l.look measure k =
      (.ok c, { l with known := (k, c) :: l.known, measured := l.measured ++ [k] }) := by
  rw [look, h]
  dsimp only
  rw [hk]

theorem look_of_error {l : Ledger κ} {k : κ} {e : ε} {measure : κ → Except ε Int}
    (h : l.cost? k = none) (hk : measure k = .error e) :
    l.look measure k = (.error e, { l with measured := l.measured ++ [k] }) := by
  rw [look, h]
  dsimp only
  rw [hk]

end Ledger

namespace Inquiry
variable [BEq κ] [LawfulBEq κ]

/-- The candidates that a run measures. What the failing ones would cost makes no difference. -/
theorem run_measured (measure : κ → Except ε Int) (q : Inquiry κ α) (l : Ledger κ)
    (cost : κ → Int) (hcost : ∀ k c, l.quote measure k = .ok c → cost k = c) :
    (q.run measure l).2.measured =
      l.measured ++ fresh l.knows (upTo (fails (l.quote measure)) (q.asked cost)) := by
  -- What the ledger quotes stays the same; what it knows grows by what is measured.
  induction q generalizing l with
  | answer a => simp [run, asked, upTo, fresh]
  | ask k next ih =>
    have hlook := Ledger.look_fst measure k l
    have hquote := Ledger.quote_look measure k l
    rw [run, asked, upTo]
    cases hk : l.cost? k with
    | some c =>
      have hknown : l.knows k = true := by rw [Ledger.knows, hk]; rfl
      rw [Ledger.look_of_known hk] at hlook ⊢
      have hfails : fails (l.quote measure) k = false := by rw [fails, ← hlook]
      rw [hfails, if_neg Bool.false_ne_true, fresh, if_pos hknown, hcost k c hlook.symm]
      exact ih c l hcost
    | none =>
      have hunknown : ¬l.knows k = true := by rw [Ledger.knows, hk]; exact Bool.false_ne_true
      cases hm : measure k with
      | error e =>
        rw [Ledger.look_of_error hk hm] at hlook ⊢
        have hfails : fails (l.quote measure) k = true := by rw [fails, ← hlook]
        rw [hfails, if_pos rfl, fresh, if_neg hunknown]
        rfl
      | ok c =>
        rw [Ledger.look_of_ok hk hm] at hlook hquote ⊢
        have hfails : fails (l.quote measure) k = false := by rw [fails, ← hlook]
        rw [hfails, if_neg Bool.false_ne_true, fresh, if_neg hunknown, hcost k c hlook.symm]
        have hrest := ih c _ (hquote.symm ▸ hcost)
        rw [hquote, Ledger.knows_cons, List.append_assoc] at hrest
        exact hrest
  | remark r next ih => exact ih _ hcost

structure Stopped (measure : κ → Except ε Int) (result : Except ε α) (measured : List κ) :
    Prop where
  stops : ∀ earlier k later e, measured = earlier ++ k :: later → measure k = .error e →
    later = [] ∧ result = .error e
  raised : ∀ e, result = .error e → ∃ k ∈ measured, measure k = .error e

omit [BEq κ] [LawfulBEq κ] in
theorem Stopped.cons {measure : κ → Except ε Int} {result : Except ε α} {measured : List κ}
    (h : Stopped measure result measured) {k : κ} {c : Int} (hk : measure k = .ok c) :
    Stopped measure result (k :: measured) where
  stops earlier j later e hsplit hj := by
    cases earlier with
    | nil =>
      cases hsplit
      rw [hk] at hj
      cases hj
    | cons i earlier => exact h.stops earlier j later e (List.cons.inj hsplit).2 hj
  raised e he := by
    obtain ⟨j, hmem, hj⟩ := h.raised e he
    exact ⟨j, List.mem_cons_of_mem k hmem, hj⟩

omit [BEq κ] [LawfulBEq κ] in
theorem stopped_singleton {measure : κ → Except ε Int} {k : κ} {e : ε}
    (hk : measure k = .error e) : Stopped measure (.error e : Except ε α) [k] where
  stops earlier j later e' hsplit hj := by
    cases earlier with
    | nil =>
      cases hsplit
      rw [hk] at hj
      cases hj
      exact ⟨rfl, rfl⟩
    | cons i earlier => simp at hsplit
  raised e' he := by
    cases he
    exact ⟨k, List.mem_singleton_self k, hk⟩

omit [LawfulBEq κ] in
theorem run_stopped (measure : κ → Except ε Int) (q : Inquiry κ α) (l : Ledger κ) :
    ∃ new, (q.run measure l).2.measured = l.measured ++ new ∧
      Stopped measure (q.run measure l).1 new := by
  -- A run goes on after a measurement only if that has succeeded.
  induction q generalizing l with
  | answer a => exact ⟨[], (List.append_nil _).symm, by simp, by simp [run]⟩
  | ask k next ih =>
    rw [run]
    cases hk : l.cost? k with
    | some c =>
      rw [Ledger.look_of_known hk]
      exact ih c l
    | none =>
      cases hm : measure k with
      | error e =>
        rw [Ledger.look_of_error hk hm]
        exact ⟨[k], rfl, stopped_singleton hm⟩
      | ok c =>
        rw [Ledger.look_of_ok hk hm]
        obtain ⟨new, hnew, hstopped⟩ :=
          ih c { l with known := (k, c) :: l.known, measured := l.measured ++ [k] }
        exact ⟨k :: new, by simpa using hnew, hstopped.cons hm⟩
  | remark r next ih => exact ih _

end Inquiry

end ChatWindow
