import ChatWindow.Run

/-!
# What runs leave behind

Equations for the steps that runs are made of. A run that has come to its end has come to the end of
each of its steps; logging fails only for events that have no entry.
-/

namespace ChatWindow.Run

variable {α β : Type}

@[simp] theorem run_pure (a : α) (p : Progress) : (pure a : Run α).run p = (.ok a, p) := rfl

@[simp] theorem run_lift (r : Except Failure α) (p : Progress) : (lift r).run p = (r, p) := rfl

@[simp] theorem run_measured (p : Progress) : measured.run p = (.ok p.measured, p) := rfl

@[simp] theorem run_count (n : Nat) (p : Progress) :
    (count n).run p = (.ok (), { p with measured := p.measured + n }) := rfl

theorem run_bind (x : Run α) (f : α → Run β) (p : Progress) :
    (x >>= f).run p =
      match x.run p with
      | (.ok a, q) => (f a).run q
      | (.error e, q) => (.error e, q) := by
  change (match ExceptT.run x p with | (r, q) => ExceptT.bindCont f r q) = _
  rcases x.run p with ⟨_ | a, q⟩ <;> rfl

theorem run_bind_eq_ok {x : Run α} {f : α → Run β} {b : β} {p r : Progress} :
    (x >>= f).run p = (.ok b, r) ↔
      ∃ a q, x.run p = (.ok a, q) ∧ (f a).run q = (.ok b, r) := by
  rw [run_bind]
  constructor
  · intro h
    rcases hx : x.run p with ⟨_ | a, q⟩
    · rw [hx] at h
      cases h
    · rw [hx] at h
      exact ⟨a, q, rfl, h⟩
  · rintro ⟨a, q, hx, hf⟩
    rw [hx]
    exact hf

theorem run_lift_bind_eq_ok {r : Except Failure α} {f : α → Run β} {b : β} {p q : Progress} :
    (lift r >>= f).run p = (.ok b, q) ↔ ∃ a, r = .ok a ∧ (f a).run p = (.ok b, q) := by
  rw [run_bind, run_lift]
  cases r with
  | error e =>
    constructor
    · intro h
      cases h
    · rintro ⟨a, ha, -⟩
      cases ha
  | ok a =>
    constructor
    · intro h
      exact ⟨a, rfl, h⟩
    · rintro ⟨a', ha, h⟩
      cases ha
      exact h

theorem run_log {e : Event} {entry : Log.Entry} (h : e.entry = .ok entry) (p : Progress) :
    (log e).run p = (.ok (), { p with events := p.events ++ [e] }) := by
  rw [log, run_bind, h]
  rfl

theorem run_forM_log {events : List Event} (h : ∀ e ∈ events, ∃ entry, e.entry = .ok entry)
    (p : Progress) :
    (events.forM log).run p = (.ok (), { p with events := p.events ++ events }) := by
  induction events generalizing p with
  | nil => simp
  | cons e events ih =>
    obtain ⟨entry, he⟩ := h e List.mem_cons_self
    have hrest := ih (fun e' he' => h e' (List.mem_cons_of_mem _ he'))
    change (log e >>= fun _ => events.forM log).run p = _
    rw [run_bind, run_log he]
    exact (hrest _).trans (by simp)

end ChatWindow.Run
