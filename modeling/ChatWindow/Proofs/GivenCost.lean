import ChatWindow.Proofs.Questions

/-!
# A cost that is handed in

Where the cost of the conversation is known beforehand, a selection does not measure it. It is one
of the costs that a selection asks for in any case: that of the full candidate, if the conversation
has its system messages in front, that of what is chosen, or the last one for the report. So one
measurement is spared, and with the right cost nothing else comes out differently.
-/

namespace ChatWindow.Selection

variable {messages : List Message} {cost : List Message → Int} {window : Int} {known : Option Int}

theorem knows_start_none (c : Candidate) : (start messages none).knows c = false := rfl

theorem knows_start_some (n : Int) : (start messages (some n)).knows = fun c =>
    (start messages none).knows c || c == identity messages.length :=
  Ledger.knows_cons {} (identity messages.length) n []

theorem identity_mem_questions (messages : List Message) (window : Int)
    (price : Candidate → Int) : identity messages.length ∈ questions messages window price := by
  rw [questions]
  exact List.mem_append_right _ (List.mem_singleton_self _)

theorem find_fst_of_known (h : ∀ k, known = some k → cost messages = k) (window : Int) :
    (find (fun ms => .ok (cost ms)) messages window known).1 =
      .ok ((outcome (standings messages) window).eval fun c => cost (c.messages messages)) := by
  rw [find_fst, quote_of_cost, price_of_known h, Inquiry.attempt_ok]

theorem find_measured_of_known (h : ∀ k, known = some k → cost messages = k) :
    (find (fun ms => .ok (cost ms)) messages window known).2.measured =
      fresh (start messages known).knows
        (questions messages window fun c => cost (c.messages messages)) := by
  have hquote : (start messages known).quote (fun c => .ok (cost (c.messages messages))) =
      fun c => (.ok (cost (c.messages messages)) : Except Failure Int) := by
    funext c
    rw [Ledger.quote_of_cost]
    exact congrArg Except.ok (congrFun (price_of_known h) c)
  have hcost : ∀ c n, (start messages known).quote (fun c => .ok (cost (c.messages messages))) c =
      (.ok n : Except Failure Int) → cost (c.messages messages) = n := by
    intro c n hn
    rw [hquote] at hn
    exact Except.ok.inj hn
  have hmeasured := measured_search (fun c => .ok (cost (c.messages messages))) messages window
    known hcost
  rw [hquote] at hmeasured
  rw [find_eq_search, hmeasured, upTo_of_never]
  intro c _
  rfl

theorem length_measured_none :
    (find (fun ms => .ok (cost ms)) messages window none).2.measured.length =
      (find (fun ms => .ok (cost ms)) messages window (some (cost messages))).2.measured.length
        + 1 := by
  have hnone : ∀ k, none = some k → cost messages = k := by simp
  have hsome : ∀ k, some (cost messages) = some k → cost messages = k := by simp
  rw [find_measured_of_known hnone, find_measured_of_known hsome, knows_start_some]
  exact length_fresh_of_mem (knows_start_none _) (identity_mem_questions messages window _)

theorem find_remarks_of_known (h : ∀ k, known = some k → cost messages = k) (window : Int) :
    (find (fun ms => .ok (cost ms)) messages window known).2.remarks =
      (outcome (standings messages) window).remarked fun c => cost (c.messages messages) := by
  have hquote : quote (fun ms => .ok (cost ms)) messages known =
      fun c => .ok (cost (c.messages messages)) := by
    rw [quote_of_cost, price_of_known h]
  have hstart : (start messages known).remarks = [] := by cases known <;> rfl
  rw [find, Inquiry.run_remarks _ _ hquote, hstart, List.nil_append]

theorem run_select_of_known (hne : messages ≠ []) (h : ∀ k, known = some k → cost messages = k)
    (window : Int) (requestId : Value) (p : Progress) :
    ∃ o remarks n,
      o = (outcome (standings messages) window).eval (fun c => cost (c.messages messages)) ∧
      remarks =
        (outcome (standings messages) window).remarked (fun c => cost (c.messages messages)) ∧
      n = (find (fun ms => .ok (cost ms)) messages window known).2.measured.length ∧
      (select (fun ms => .ok (cost ms)) messages window requestId known).run p =
        (.ok (ofOutcome messages o n window requestId),
          { p with
            measured := p.measured + n
            events := p.events ++ remarks.map (event window requestId) }) := by
  rw [run_select hne]
  have hfst := find_fst_of_known h window
  have hremarks := find_remarks_of_known h window
  generalize find (fun ms => .ok (cost ms)) messages window known = found at hfst hremarks
  obtain ⟨r, ledger⟩ := found
  dsimp only at hfst
  subst hfst
  exact ⟨_, _, _, rfl, hremarks, rfl, rfl⟩

/-- To hand in the right cost of a conversation changes no message that is selected, no position and
nothing in the report or among the events, but that one measurement less is made and reported. -/
theorem select_spares_measurement (cost : List Message → Int) (messages : List Message)
    (hne : messages ≠ []) (window : Int) (requestId : Value) (p : Progress) :
    ∃ s t q r, (select (fun ms => .ok (cost ms)) messages window requestId none).run p =
        (.ok s, q) ∧
      (select (fun ms => .ok (cost ms)) messages window requestId (some (cost messages))).run p =
        (.ok t, r) ∧
      t.messages = s.messages ∧ t.sources = s.sources ∧
      t.report = { s.report with calls := t.report.calls } ∧
      s.report.calls = t.report.calls + 1 ∧ q = { r with measured := r.measured + 1 } := by
  have hnone : ∀ k, none = some k → cost messages = k := by simp
  have hsome : ∀ k, some (cost messages) = some k → cost messages = k := by simp
  obtain ⟨o, rs, n, ho, hrs, hn, hrun⟩ := run_select_of_known hne hnone window requestId p
  obtain ⟨o', rs', n', ho', hrs', hn', hrun'⟩ :=
    run_select_of_known hne hsome window requestId p
  have hcount : n = n' + 1 := by rw [hn, hn', length_measured_none]
  rw [← ho] at ho'
  rw [← hrs] at hrs'
  subst ho' hrs' hcount
  exact ⟨_, _, _, _, hrun, hrun', rfl, rfl, rfl, rfl, rfl⟩

theorem select_spares_measurement_sixMessages :
    sixMessages ≠ [] ∧
      ∃ s t q r, (select (fun ms => .ok ms.length) sixMessages 5 .null none).run {} = (.ok s, q) ∧
        (select (fun ms => .ok ms.length) sixMessages 5 .null (some 6)).run {} = (.ok t, r) ∧
        s.sources = [some 0, some 1, none, some 4, some 5] ∧ t.sources = s.sources ∧
        s.report.calls = 4 ∧ t.report.calls = 3 := by
  have hne : sixMessages ≠ [] := by decide
  obtain ⟨s, t, q, r, hrun, hrun', -, hsources, -, hcalls, -⟩ :=
    select_spares_measurement (fun ms => ms.length) sixMessages hne 5 .null {}
  obtain ⟨u, v, hu, husources, hucalls⟩ : ∃ u v,
      (select (fun ms => .ok ms.length) sixMessages 5 .null none).run {} = (.ok u, v) ∧
        u.sources = [some 0, some 1, none, some 4, some 5] ∧ u.report.calls = 4 :=
    ⟨_, _, rfl, rfl, rfl⟩
  rw [hrun] at hu
  cases hu
  exact ⟨hne, s, t, q, r, hrun, hrun', husources, hsources, hucalls, by omega⟩

end ChatWindow.Selection
