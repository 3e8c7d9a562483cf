import ChatWindow.Proofs.Inquiry
import ChatWindow.Proofs.Run
import ChatWindow.Selection

/-!
# What a selection comes to

A selection comes to the outcome that its costs give: the cost of the whole conversation as it was
handed in, if it was, and for every other candidate what its messages measure. Nothing else of a
run has a part in it. Where no measurement fails no selection fails.
-/

namespace ChatWindow

theorem Candidate.messages_identity (messages : List Message) :
    Candidate.messages messages (identity messages.length) = messages := by
  apply List.ext_getElem
  · simp [Candidate.messages, identity, keeping]
  · intro i h _
    simp only [Candidate.messages, identity, keeping, List.length_map, List.length_range] at h
    simp [Candidate.messages, identity, keeping, Slot.message, h]

namespace Selection

variable {measure : List Message → Except Failure Int} {cost : List Message → Int}
  {messages : List Message} {window : Int} {requestId : Value} {known : Option Int}
  {p q : Progress}

def quote (measure : List Message → Except Failure Int) (messages : List Message)
    (known : Option Int) : Candidate → Except Failure Int :=
  (start messages known).quote fun c => measure (c.messages messages)

def price (cost : List Message → Int) (messages : List Message) (known : Option Int) :
    Candidate → Int :=
  (start messages known).price fun c => cost (c.messages messages)

theorem quote_of_known (h : ∀ k, known = some k → measure messages = .ok k) (c : Candidate) :
    quote measure messages known c = measure (c.messages messages) := by
  cases known with
  | none => rfl
  | some k =>
    simp only [quote, Ledger.quote, Ledger.cost?, start, List.lookup_cons, List.lookup_nil]
    cases hc : c == identity messages.length with
    | false => rfl
    | true =>
      rw [eq_of_beq hc, Candidate.messages_identity]
      exact (h k rfl).symm

theorem quote_of_cost :
    quote (fun ms => .ok (cost ms)) messages known = fun c => .ok (price cost messages known c) :=
  Ledger.quote_of_cost _ _

theorem price_of_known (h : ∀ k, known = some k → cost messages = k) :
    price cost messages known = fun c => cost (c.messages messages) := by
  funext c
  have hquote : quote (fun ms => .ok (cost ms)) messages known c =
      .ok (cost (c.messages messages)) :=
    quote_of_known (fun k hk => congrArg Except.ok (h k hk)) c
  rw [quote_of_cost] at hquote
  exact Except.ok.inj hquote

theorem find_fst (measure : List Message → Except Failure Int) (messages : List Message)
    (window : Int) (known : Option Int) : (find measure messages window known).1 =
      (outcome (standings messages) window).attempt (quote measure messages known) :=
  Inquiry.run_fst _ _ _

theorem exists_entry_of_mem_events {remarks : List Remark} {e : Event}
    (h : e ∈ remarks.map (event window requestId)) : ∃ entry, e.entry = .ok entry := by
  obtain ⟨r, -, rfl⟩ := List.mem_map.mp h
  cases r with
  | checked cost => exact ⟨_, rfl⟩
  | skeletonTooLarge => exact ⟨_, rfl⟩

theorem run_select_nil : (select measure [] window requestId known).run p =
    (.ok (empty window requestId), p) := rfl

/-- What is remarked on the way is logged, whether a selection is found or not. The measurements are
counted from what has been measured before and after. -/
theorem run_select (hne : messages ≠ []) :
    (select measure messages window requestId known).run p =
      match find measure messages window known with
      | (.ok o, ledger) =>
        (.ok (ofOutcome messages o ledger.measured.length window requestId),
          { p with
            measured := p.measured + ledger.measured.length
            events := p.events ++ ledger.remarks.map (event window requestId) })
      | (.error f, ledger) =>
        (.error f, { p with
            measured := p.measured + ledger.measured.length
            events := p.events ++ ledger.remarks.map (event window requestId) }) := by
  have hempty : messages.isEmpty = false := by simpa using hne
  rw [select, hempty]
  rcases find measure messages window known with ⟨result, ledger⟩
  change (Run.measured >>= fun before => Run.count ledger.measured.length >>= fun _ =>
    (ledger.remarks.map (event window requestId)).forM Run.log >>= fun _ =>
      Run.lift result >>= fun o => Run.measured >>= fun after =>
        pure (ofOutcome messages o (after - before) window requestId)).run p = _
  rw [Run.run_bind, Run.run_measured]
  dsimp only
  rw [Run.run_bind, Run.run_count]
  dsimp only
  rw [Run.run_bind, Run.run_forM_log fun _ => exists_entry_of_mem_events]
  dsimp only
  rw [Run.run_bind, Run.run_lift]
  cases result with
  | error f => rfl
  | ok o =>
    dsimp only
    rw [Run.run_bind, Run.run_measured]
    dsimp only
    rw [Nat.add_sub_cancel_left, Run.run_pure]

theorem exists_outcome_of_run_select {s : Selection} (hne : messages ≠ [])
    (h : (select measure messages window requestId known).run p = (.ok s, q)) :
    ∃ o calls,
      (outcome (standings messages) window).attempt (quote measure messages known) = .ok o ∧
      s = ofOutcome messages o calls window requestId := by
  have hfst := find_fst measure messages window known
  rw [run_select hne] at h
  rcases hf : find measure messages window known with ⟨_ | o, ledger⟩
  · rw [hf] at h
    cases h
  · rw [hf] at h hfst
    cases h
    exact ⟨o, ledger.measured.length, hfst.symm, rfl⟩

theorem choice_eval (standings : List Standing) (window : Int) (cost : Candidate → Int) :
    ((outcome standings window).eval cost).choice =
      (choose (parts standings) window).eval cost := by
  simp [outcome]

theorem intermediates_eval (standings : List Standing) (window : Int) (cost : Candidate → Int) :
    ((outcome standings window).eval cost).intermediates = (parts standings).intermediates := by
  simp [outcome]

theorem finalCost_eval (standings : List Standing) (window : Int) (cost : Candidate → Int) :
    ((outcome standings window).eval cost).finalCost =
      cost ((outcome standings window).eval cost).choice.slots := by
  simp [outcome]

theorem givenCost_eval (standings : List Standing) (window : Int) (cost : Candidate → Int) :
    ((outcome standings window).eval cost).givenCost = cost (identity standings.length) := by
  simp [outcome]

theorem slots_mem_asked (standings : List Standing) (window : Int) (cost : Candidate → Int) :
    ((outcome standings window).eval cost).choice.slots ∈
      (outcome standings window).asked cost := by
  simp [outcome, Inquiry.asked]

theorem identity_mem_asked (standings : List Standing) (window : Int) (cost : Candidate → Int) :
    identity standings.length ∈ (outcome standings window).asked cost := by
  simp [outcome, Inquiry.asked]

theorem report_of_run_select {s : Selection} (hne : messages ≠ [])
    (hknown : ∀ k, known = some k → measure messages = .ok k)
    (h : (select measure messages window requestId known).run p = (.ok s, q)) :
    measure messages = .ok s.report.givenTokens ∧
      measure s.messages = .ok s.report.finalTokens ∧
      s.report.exceeded = decide (window < s.report.finalTokens) := by
  obtain ⟨o, calls, ho, rfl⟩ := exists_outcome_of_run_select hne h
  obtain ⟨cost, rfl, hasked⟩ := Inquiry.exists_eval_of_attempt ho
  have hquoted : ∀ c ∈ (outcome (standings messages) window).asked cost,
      measure (c.messages messages) = .ok (cost c) := by
    intro c hc
    rw [← quote_of_known hknown]
    exact hasked c hc
  constructor
  · have hgiven := hquoted _ (identity_mem_asked (standings messages) window cost)
    rw [standings, List.length_map, Candidate.messages_identity] at hgiven
    rw [hgiven, ofOutcome, Outcome.report, givenCost_eval, standings, List.length_map]
  · have hfinal := hquoted _ (slots_mem_asked (standings messages) window cost)
    rw [ofOutcome, Outcome.report, finalCost_eval]
    exact ⟨hfinal, rfl⟩

theorem exists_run_select (hne : messages ≠ []) :
    ∃ calls q, (select (fun ms => .ok (cost ms)) messages window requestId known).run p =
      (.ok (ofOutcome messages
        ((outcome (standings messages) window).eval (price cost messages known))
        calls window requestId), q) := by
  have hfst := find_fst (fun ms => .ok (cost ms)) messages window known
  rw [quote_of_cost, Inquiry.attempt_ok] at hfst
  rw [run_select hne]
  rcases hf : find (fun ms => .ok (cost ms)) messages window known with ⟨r, ledger⟩
  rw [hf] at hfst
  subst hfst
  exact ⟨_, _, rfl⟩

theorem exists_run_select_of_known (hne : messages ≠ [])
    (hknown : ∀ k, known = some k → cost messages = k) :
    ∃ calls q, (select (fun ms => .ok (cost ms)) messages window requestId known).run p =
      (.ok (ofOutcome messages
        ((outcome (standings messages) window).eval fun c => cost (c.messages messages))
        calls window requestId), q) := by
  rw [← price_of_known hknown]
  exact exists_run_select hne

structure Returns (cost : List Message → Int) (messages : List Message) (window : Int)
    (c : Choice) (s : Selection) : Prop where
  kept : s.messages = c.slots.messages messages
  sources : s.sources = c.slots.map Slot.position?
  markerInserted : s.report.markerInserted = c.markerInserted
  dropped : s.report.dropped = ((parts (standings messages)).intermediates.filter fun i =>
    !c.slots.contains (.kept i)).length
  truncated : s.report.truncated = decide (s.report.dropped ≠ 0)
  finalTokens : s.report.finalTokens = cost s.messages
  exceeded : s.report.exceeded = decide (window < cost s.messages)

theorem exists_run_select_returns (hne : messages ≠ [])
    (hknown : ∀ k, known = some k → cost messages = k) :
    ∃ s q, (select (fun ms => .ok (cost ms)) messages window requestId known).run p =
        (.ok s, q) ∧
      Returns cost messages window
        ((choose (parts (standings messages)) window).eval fun c => cost (c.messages messages))
        s := by
  obtain ⟨calls, q, hrun⟩ := exists_run_select_of_known hne hknown
  have hchoice := choice_eval (standings messages) window fun c => cost (c.messages messages)
  have hbetween := intermediates_eval (standings messages) window fun c =>
    cost (c.messages messages)
  have hfinal := finalCost_eval (standings messages) window fun c => cost (c.messages messages)
  generalize (outcome (standings messages) window).eval
    (fun c => cost (c.messages messages)) = o at hrun hchoice hbetween hfinal
  rw [← hchoice]
  refine ⟨_, q, hrun, rfl, rfl, rfl, ?_, ?_, hfinal, ?_⟩
  · rw [← hbetween]
    rfl
  · rw [ofOutcome, Outcome.report]
    cases o.dropped <;> simp
  · rw [ofOutcome, Outcome.report, hfinal]

theorem run_select_returns (cost : List Message → Int) (messages : List Message) (window : Int)
    (requestId : Value) (known : Option Int) (p : Progress) :
    ∃ s q, (select (fun ms => .ok (cost ms)) messages window requestId known).run p =
      (.ok s, q) := by
  by_cases hne : messages = []
  · subst hne
    exact ⟨_, _, run_select_nil⟩
  · obtain ⟨calls, q, hrun⟩ := exists_run_select hne
    exact ⟨_, q, hrun⟩

end Selection

end ChatWindow
