import ChatWindow.Proofs.Run

/-!
# Runs that report nothing

Most steps of a build measure and log, but hand out no report. For such a run three things are kept
together, so that they are passed from its steps to the whole: what becomes of the progress, what
holds of a value it returns, and which failures it can raise.
-/

namespace ChatWindow

def Event.report? : Event → Option Report
  | .selected r => some r
  | _ => none

def Progress.logged (p : Progress) : List Report := p.events.filterMap Event.report?

/-- More may have been measured and logged, but no report. -/
structure Progress.Silent (p q : Progress) : Prop where
  measured : p.measured ≤ q.measured
  logged : q.logged = p.logged
  reports : q.reports = p.reports

namespace Progress.Silent

variable {p q r : Progress}

theorem refl (p : Progress) : Silent p p := ⟨Nat.le_refl _, rfl, rfl⟩

theorem trans (h : Silent p q) (h' : Silent q r) : Silent p r where
  measured := Nat.le_trans h.measured h'.measured
  logged := h'.logged.trans h.logged
  reports := h'.reports.trans h.reports

theorem count (p : Progress) (n : Nat) : Silent p { p with measured := p.measured + n } :=
  ⟨Nat.le_add_right _ _, rfl, rfl⟩

theorem log (p : Progress) {events : List Event} (h : ∀ e ∈ events, e.report? = none) :
    Silent p { p with events := p.events ++ events } := by
  refine ⟨Nat.le_refl _, ?_, rfl⟩
  rw [Progress.logged, List.filterMap_append, List.filterMap_eq_nil_iff.mpr h, List.append_nil]
  rfl

end Progress.Silent

namespace Run

variable {α β : Type} {returns : α → Prop} {raises : Failure → Prop}

/-- A run that hands out no report, with what it returns and what it raises. -/
structure Silent (x : Run α) (returns : α → Prop) (raises : Failure → Prop) : Prop where
  progress : ∀ p : Progress, p.Silent (x.run p).2
  returned : ∀ p a, (x.run p).1 = .ok a → returns a
  raised : ∀ p f, (x.run p).1 = .error f → raises f

theorem silent_pure {a : α} (h : returns a) : Silent (pure a) returns raises where
  progress := .refl
  returned := by
    rintro p _ ⟨⟩
    exact h
  raised := by rintro p f ⟨⟩

theorem silent_lift {r : Except Failure α} (hok : ∀ a, r = .ok a → returns a)
    (herror : ∀ f, r = .error f → raises f) : Silent (lift r) returns raises where
  progress := .refl
  returned _ := hok
  raised _ := herror

theorem silent_count (n : Nat) : Silent (count n) (fun _ => True) raises where
  progress p := .count p n
  returned _ _ _ := trivial
  raised := by rintro p f ⟨⟩

theorem silent_forM_log {events : List Event} (hentry : ∀ e ∈ events, ∃ entry, e.entry = .ok entry)
    (h : ∀ e ∈ events, e.report? = none) :
    Silent (events.forM log) (fun _ => True) raises where
  progress p := by
    rw [run_forM_log hentry]
    exact .log p h
  returned _ _ _ := trivial
  raised p f hf := by
    rw [run_forM_log hentry] at hf
    cases hf

theorem silent_log {e : Event} {entry : Log.Entry} (hentry : e.entry = .ok entry)
    (h : e.report? = none) : Silent (log e) (fun _ => True) raises where
  progress p := by
    rw [run_log hentry]
    exact .log p (List.forall_mem_singleton.mpr h)
  returned _ _ _ := trivial
  raised p f hf := by
    rw [run_log hentry] at hf
    cases hf

theorem Silent.bind {x : Run α} {f : α → Run β} {returns' : β → Prop}
    (hx : Silent x returns raises) (hf : ∀ a, returns a → Silent (f a) returns' raises) :
    Silent (x >>= f) returns' raises := by
  have hcases : ∀ p : Progress, (∃ a q, (x >>= f).run p = (f a).run q ∧ returns a ∧ p.Silent q) ∨
      ∃ e q, (x >>= f).run p = (.error e, q) ∧ raises e ∧ p.Silent q := by
    intro p
    have hprogress := hx.progress p
    rw [run_bind]
    rcases hrun : x.run p with ⟨e | a, q⟩
    · rw [hrun] at hprogress
      exact .inr ⟨e, q, rfl, hx.raised p e (by rw [hrun]), hprogress⟩
    · rw [hrun] at hprogress
      exact .inl ⟨a, q, rfl, hx.returned p a (by rw [hrun]), hprogress⟩
  refine ⟨fun p => ?_, fun p b hb => ?_, fun p e he => ?_⟩
  · obtain ⟨a, q, hrun, ha, hpq⟩ | ⟨e, q, hrun, -, hpq⟩ := hcases p
    · rw [hrun]
      exact hpq.trans ((hf a ha).progress q)
    · rw [hrun]
      exact hpq
  · obtain ⟨a, q, hrun, ha, -⟩ | ⟨e, q, hrun, -, -⟩ := hcases p
    · rw [hrun] at hb
      exact (hf a ha).returned q b hb
    · rw [hrun] at hb
      cases hb
  · obtain ⟨a, q, hrun, ha, -⟩ | ⟨e', q, hrun, he', -⟩ := hcases p
    · rw [hrun] at he
      exact (hf a ha).raised q e he
    · rw [hrun] at he
      cases he
      exact he'

end Run

end ChatWindow
