import ChatWindow.Proofs.Build
import ChatWindow.Proofs.Effects
import ChatWindow.Proofs.KeptWhole

/-!
# Builds stage by stage

A build prepares a prompt and only then hands out its report. All that is done before that is
silent. What it raises comes from one of its stages: from the check of the images, from a
measurement, from sizing the window, from naming the images or from rendering the prompt.
-/

namespace ChatWindow

namespace Selection

variable {measure : List Message → Except Failure Int} {messages : List Message} {window : Int}
  {requestId : Value} {known : Option Int} {raises : Failure → Prop}

theorem exists_measure_of_quote {k : Candidate} {f : Failure}
    (h : quote measure messages known k = .error f) : ∃ ms, measure ms = .error f := by
  rw [quote, Ledger.quote] at h
  split at h
  · cases h
  · exact ⟨_, h⟩

theorem report?_of_mem_events {remarks : List Remark} {e : Event}
    (h : e ∈ remarks.map (event window requestId)) : e.report? = none := by
  obtain ⟨r, -, rfl⟩ := List.mem_map.mp h
  cases r <;> rfl

theorem silent_select
    (h : ∀ ms f, messages ≠ [] → measure ms = .error f → raises f) :
    Run.Silent (select measure messages window requestId known)
      (fun s => (∀ m ∈ s.messages, m ∈ messages ∨ m = .skipMarker) ∧
        (messages = [] → s.messages = [])) raises := by
  by_cases hne : messages = []
  · subst hne
    exact Run.silent_pure ⟨fun m hm => absurd hm List.not_mem_nil, fun _ => rfl⟩
  refine ⟨fun p => ?_, fun p s hs => ?_, fun p f hf => ?_⟩
  · rw [run_select hne]
    -- What was remarked is logged in either case, and none of it is a report.
    have hsilent : ∀ ledger : Ledger Candidate, p.Silent { p with
        measured := p.measured + ledger.measured.length
        events := p.events ++ ledger.remarks.map (event window requestId) } :=
      fun _ => (Progress.Silent.count p _).trans (.log _ fun _ => report?_of_mem_events)
    rcases find measure messages window known with ⟨f | o, ledger⟩
    · exact hsilent ledger
    · exact hsilent ledger
  · have hrun : (select measure messages window requestId known).run p = (.ok s, _) :=
      Prod.ext hs rfl
    exact ⟨fun m => (arrangement_of_run_select hrun).mem_or_eq_skipMarker, fun h => absurd h hne⟩
  · have hfind := find_fst measure messages window known
    rw [run_select hne] at hf
    rcases hresult : find measure messages window known with ⟨f' | o, ledger⟩
    · rw [hresult] at hf hfind
      cases hf
      obtain ⟨k, hk⟩ := Inquiry.exists_quote_of_attempt hfind.symm
      obtain ⟨ms, hms⟩ := exists_measure_of_quote hk
      exact h ms f hne hms
    · rw [hresult] at hf
      cases hf

end Selection

namespace Window

theorem report?_of_mem_events {c : Config} {w : WindowRequest Amount} {requestId : Value}
    {e : Event} (h : e ∈ events c w requestId) : e.report? = none := by
  rw [events, List.mem_append] at h
  rcases h with h | h
  · split at h
    · split at h
      · cases h
      · rw [List.mem_singleton.mp h]
        rfl
    · cases h
  · split at h
    · rw [List.mem_singleton.mp h]
      rfl
    · cases h

theorem silent_sizeValues (c : Config) {length budget limit caller requestId : Value}
    {raises : Failure → Prop} (h : ∀ f, read length budget limit caller = .error f → raises f) :
    Run.Silent (sizeValues c length budget limit caller requestId)
      (fun w => ∃ request, read length budget limit caller = .ok request ∧ w = fitted c request)
      raises := by
  refine .bind (Run.silent_lift (fun request hrequest => hrequest) h) fun request hrequest => ?_
  refine .bind (Run.silent_forM_log (fun _ => exists_entry_of_mem_events)
    fun _ => report?_of_mem_events) fun _ _ => ?_
  exact Run.silent_pure ⟨request, hrequest, rfl⟩

end Window

namespace Builder

variable (b : Builder) (r : PromptRequest)

def fit (o : Oracle) (length : Int) : Run ChatPrompt := do
  let window ← Window.sizeValues b.config (.int length) r.numPredict
    (.int b.model.contextLength) r.numCtx r.requestId
  Run.log (.windowSized r.requestId b.modelName window.tokens.toValue length)
  let size ← Run.lift window.whole
  let selection ← Selection.select o.measure r.messages size r.requestId (some length)
  let (messages, images) ← Run.lift
    (Image.assign b.config.placeholder b.config.tagFormat selection.messages)
  let prompt ← Run.lift (render o messages)
  return { prompt, images, messages, window, report := selection.report }

def prepare : Run ChatPrompt := do
  Run.lift (Image.checkLimit (.ofInt? (b.imageLimit.map Int.ofNat)) r.messages)
  let tools ← Run.lift r.tools.items
  let length ← measure (b.oracle tools r.think) r.messages
  b.fit r (b.oracle tools r.think) length

theorem build_eq : b.build r = (do
    let c ← b.prepare r
    b.report c.report
    return c) := by
  simp only [build, prepare, fit, bind_assoc, pure_bind]

/-- Among the failures are all that can come from a stage behind the measurement of the
conversation. Without messages nothing is measured or rendered. -/
structure Covers (o : Oracle) (length : Int) (raises : Failure → Prop) : Prop where
  read : ∀ f, Window.read (.int length) r.numPredict (.int b.model.contextLength) r.numCtx =
    .error f → raises f
  whole : ∀ request f, Window.read (.int length) r.numPredict (.int b.model.contextLength)
    r.numCtx = .ok request → (Window.fitted b.config request).whole = .error f → raises f
  measured : ∀ messages f, r.messages ≠ [] → o.measure messages = .error f → raises f
  named : ∀ messages f, (∀ m ∈ messages, m ∈ r.messages ∨ m = .skipMarker) →
    Image.assign b.config.placeholder b.config.tagFormat messages = .error f → raises f
  rendered : ∀ messages f, r.messages ≠ [] → o.render messages = .error f → raises f

variable {b r} {o : Oracle} {length : Int} {raises : Failure → Prop}

theorem Covers.silent_assign (h : Covers b r o length raises) {messages : List Message}
    (hkept : ∀ m ∈ messages, m ∈ r.messages ∨ m = .skipMarker)
    (hnone : r.messages = [] → messages = []) :
    Run.Silent (Run.lift (Image.assign b.config.placeholder b.config.tagFormat messages))
      (fun named => r.messages = [] → named.1 = []) raises := by
  refine Run.silent_lift (fun named hnamed hempty => ?_) fun f => h.named messages f hkept
  rw [← List.length_eq_zero_iff, Image.length_of_assignBy hnamed, hnone hempty]
  rfl

theorem Covers.silent_render (h : Covers b r o length raises) {messages : List Message}
    (hnone : r.messages = [] → messages = []) :
    Run.Silent (Run.lift (render o messages)) (fun _ => True) raises := by
  refine Run.silent_lift (fun _ _ => trivial) fun f hf => ?_
  rw [render] at hf
  split at hf
  · cases hf
  · next hne =>
    exact h.rendered messages f (fun hempty => hne (by rw [hnone hempty]; rfl)) hf

theorem Covers.silent_fit (h : Covers b r o length raises) :
    Run.Silent (b.fit r o length) (fun _ => True) raises := by
  refine .bind (Window.silent_sizeValues b.config h.read) fun window hwindow => ?_
  obtain ⟨request, hrequest, rfl⟩ := hwindow
  refine .bind (Run.silent_log rfl rfl) fun _ _ => ?_
  refine .bind (Run.silent_lift (fun _ _ => trivial) fun f => h.whole request f hrequest)
    fun (size : Int) _ => ?_
  refine .bind (Selection.silent_select h.measured) fun selection hselection => ?_
  refine .bind (h.silent_assign hselection.1 hselection.2) fun named hnamed => ?_
  exact .bind (h.silent_render hnamed) fun (prompt : Text) _ => Run.silent_pure trivial

structure Handed (b : Builder) (c : Report) (p q : Progress) : Prop where
  measured : q.measured = p.measured
  logged : q.logged = p.logged ++ if b.logReports then [c] else []
  reports : q.reports = p.reports ++ if b.reporting then [c] else []

theorem run_log_selected (c : Report) (p : Progress) :
    (∃ q, (Run.log (.selected c)).run p = (.ok (), q) ∧ q.measured = p.measured ∧
        q.logged = p.logged ++ [c] ∧ q.reports = p.reports) ∨
      (Run.log (.selected c)).run p = (.error (.badNumber .quotientTooLarge), p) ∧
        ¬c.InRange := by
  obtain ⟨entry, hentry⟩ | ⟨herror, hrange⟩ := c.entry_cases
  · refine .inl ⟨_, Run.run_log hentry p, rfl, ?_, rfl⟩
    exact List.filterMap_append
  · refine .inr ⟨?_, hrange⟩
    rw [Run.log, herror]
    rfl

theorem run_deliver (b : Builder) (c : Report) (p : Progress) :
    (if b.reporting then Run.deliver c else pure () : Run Unit).run p =
      (.ok (), { p with reports := p.reports ++ if b.reporting then [c] else [] }) := by
  cases b.reporting with
  | true => rfl
  | false =>
    simp only [Bool.false_eq_true, if_false, List.append_nil]
    rfl

theorem run_report_cases (b : Builder) (c : Report) (p : Progress) :
    (∃ q, (b.report c).run p = (.ok (), q) ∧ b.Handed c p q) ∨
      (b.report c).run p = (.error (.badNumber .quotientTooLarge), p) ∧ b.logReports = true ∧
        ¬c.InRange := by
  rw [report]
  split
  · next hlog =>
    obtain ⟨q, hq, hmeasured, hlogged, hreports⟩ | ⟨herror, hrange⟩ := run_log_selected c p
    · refine .inl ⟨_, Run.run_bind_eq_ok.mpr ⟨(), q, hq, b.run_deliver c q⟩, hmeasured, ?_, ?_⟩
      · rw [if_pos hlog]
        exact hlogged
      · exact congrArg (· ++ _) hreports
    · refine .inr ⟨?_, hlog, hrange⟩
      rw [Run.run_bind, herror]
  · next hlog =>
    refine .inl ⟨_, b.run_deliver c p, rfl, ?_, rfl⟩
    rw [if_neg hlog, List.append_nil]
    rfl

end Builder

end ChatWindow
