import ChatWindow.Selection.Inquiry

/-!
# Inquiries with a ledger

A ledger saves measurements and changes nothing else. A run with a ledger has the answer, or the
failure, of asking for every cost afresh, with the costs that the ledger holds taken from it. Where
nothing fails that answer is the evaluation with the same costs.
-/

namespace ChatWindow

variable {κ α β ε : Type}

namespace Ledger
variable [BEq κ]

def quote (measure : κ → Except ε Int) (l : Ledger κ) (k : κ) : Except ε Int :=
  match l.cost? k with
  | some c => .ok c
  | none => measure k

def price (cost : κ → Int) (l : Ledger κ) (k : κ) : Int := (l.cost? k).getD (cost k)

theorem quote_of_cost (cost : κ → Int) (l : Ledger κ) :
    l.quote (fun k => (.ok (cost k) : Except ε Int)) = fun k => .ok (l.price cost k) := by
  funext k
  simp only [quote, price]
  cases l.cost? k <;> rfl

theorem look_fst (measure : κ → Except ε Int) (k : κ) (l : Ledger κ) :
    (l.look measure k).1 = l.quote measure k := by
  simp only [look, quote]
  cases l.cost? k with
  | some c => rfl
  | none => cases measure k <;> rfl

theorem look_remarks (measure : κ → Except ε Int) (k : κ) (l : Ledger κ) :
    (l.look measure k).2.remarks = l.remarks := by
  simp only [look]
  cases l.cost? k with
  | some c => rfl
  | none => cases measure k <;> rfl

theorem quote_look [LawfulBEq κ] (measure : κ → Except ε Int) (k : κ) (l : Ledger κ) :
    (l.look measure k).2.quote measure = l.quote measure := by
  simp only [look]
  cases hk : l.cost? k with
  | some c => rfl
  | none =>
    cases hm : measure k with
    | error e => rfl
    | ok c =>
      funext j
      simp only [quote, cost?, List.lookup_cons]
      cases hj : j == k with
      | false => rfl
      | true =>
        have he : j = k := eq_of_beq hj
        subst he
        simp only [cost?] at hk
        rw [hk, hm]

end Ledger

/-- The cost of what can be looked up; what cannot may be taken to cost anything. -/
def costed (quote : κ → Except ε Int) (k : κ) : Int :=
  match quote k with
  | .ok c => c
  | .error _ => 0

theorem costed_of_ok {quote : κ → Except ε Int} {k : κ} {c : Int} (h : quote k = .ok c) :
    costed quote k = c := by
  rw [costed, h]

namespace Inquiry

theorem run_remarks [BEq κ] [LawfulBEq κ] {measure : κ → Except ε Int} {cost : κ → Int}
    (q : Inquiry κ α) (l : Ledger κ) (h : l.quote measure = fun k => .ok (cost k)) :
    (q.run measure l).2.remarks = l.remarks ++ q.remarked cost := by
  -- The ledger comes to know more, but what it quotes is the cost all along.
  induction q generalizing l with
  | answer a => exact (List.append_nil _).symm
  | ask k next ih =>
    have hfst := (Ledger.look_fst measure k l).trans (congrFun h k)
    have hremarks := Ledger.look_remarks measure k l
    have hquote := Ledger.quote_look measure k l
    rw [run, remarked]
    rcases hl : l.look measure k with ⟨_ | c, l'⟩
    · rw [hl] at hfst
      cases hfst
    · rw [hl] at hfst hremarks hquote
      cases hfst
      exact (ih _ l' (hquote.trans h)).trans (by rw [hremarks])
  | remark r next ih =>
    exact (ih { l with remarks := l.remarks ++ [r] } h).trans (List.append_assoc l.remarks [r] _)

def attempt (quote : κ → Except ε Int) : Inquiry κ α → Except ε α
  | .answer a => .ok a
  | .ask k next =>
    match quote k with
    | .ok c => (next c).attempt quote
    | .error e => .error e
  | .remark _ next => next.attempt quote

theorem run_fst [BEq κ] [LawfulBEq κ] (measure : κ → Except ε Int) (q : Inquiry κ α)
    (l : Ledger κ) : (q.run measure l).1 = q.attempt (l.quote measure) := by
  -- The ledger changes from one question to the next, but not what it quotes.
  induction q generalizing l with
  | answer a => rfl
  | ask k next ih =>
    have hfst := Ledger.look_fst measure k l
    have hquote := Ledger.quote_look measure k l
    simp only [run, attempt, ← hfst]
    rcases hl : l.look measure k with ⟨_ | c, l'⟩
    · rfl
    · rw [hl] at hquote
      exact (ih c l').trans (by rw [hquote])
  | remark r next ih => exact ih _

theorem attempt_eq_ok_iff {quote : κ → Except ε Int} {cost : κ → Int}
    (hcost : ∀ k c, quote k = .ok c → cost k = c) (q : Inquiry κ α) (a : α) :
    q.attempt quote = .ok a ↔
      q.eval cost = a ∧ ∀ k ∈ q.asked cost, quote k = .ok (cost k) := by
  induction q with
  | answer b => simp [attempt, eval, asked]
  | ask k next ih =>
    simp only [attempt, eval, asked, List.forall_mem_cons]
    cases hk : quote k with
    | error e => simp
    | ok c =>
      rw [hcost k c hk, ih c]
      simp
  | remark r next ih => exact ih

theorem exists_eval_of_attempt {quote : κ → Except ε Int} {q : Inquiry κ α} {a : α}
    (h : q.attempt quote = .ok a) :
    ∃ cost : κ → Int, q.eval cost = a ∧ ∀ k ∈ q.asked cost, quote k = .ok (cost k) :=
  ⟨costed quote, (attempt_eq_ok_iff (fun _ _ => costed_of_ok) q a).mp h⟩

theorem exists_quote_of_attempt {quote : κ → Except ε Int} {q : Inquiry κ α} {e : ε}
    (h : q.attempt quote = .error e) : ∃ k, quote k = .error e := by
  induction q with
  | answer a => cases h
  | ask k next ih =>
    rw [attempt] at h
    cases hk : quote k with
    | ok c =>
      rw [hk] at h
      exact ih c h
    | error e' =>
      rw [hk] at h
      cases h
      exact ⟨k, hk⟩
  | remark r next ih => exact ih h

theorem attempt_of_asked {quote : κ → Except ε Int} {cost : κ → Int} {q : Inquiry κ α}
    (h : ∀ k ∈ q.asked cost, quote k = .ok (cost k)) : q.attempt quote = .ok (q.eval cost) := by
  induction q with
  | answer a => rfl
  | ask k next ih =>
    obtain ⟨hk, hrest⟩ := List.forall_mem_cons.mp h
    rw [attempt, hk]
    exact ih _ hrest
  | remark r next ih => exact ih h

@[simp] theorem attempt_ok (cost : κ → Int) (q : Inquiry κ α) :
    q.attempt (fun k => (.ok (cost k) : Except ε Int)) = .ok (q.eval cost) :=
  attempt_of_asked fun _ _ => rfl

end Inquiry

end ChatWindow
