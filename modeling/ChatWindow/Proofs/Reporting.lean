import ChatWindow.Proofs.Refusal
import ChatWindow.Proofs.Tags

/-!
# Reports that are handed out once

A build either returns a prompt and has handed out its report, once to the log and once to whoever
asked for reports, or it fails and has handed out none. What it raises is its own refusal of the
images, what a template or tokenizer has raised, or a failure that stands for that. Sizing the
window never stops it.
-/

namespace ChatWindow

structure PromptRequest.Typed (r : PromptRequest) : Prop where
  contents : ∀ m ∈ r.messages, ∃ s, m.content = .text s
  tools : ∃ tools, r.tools.items = .ok tools
  budget : ∃ n, r.numPredict.int? = some n
  caller : r.numCtx = .null ∨ ∃ n, r.numCtx.int? = some n

namespace Window

theorem exists_optionalAmount {v : Value} (h : v = .null ∨ ∃ n, v.int? = some n) :
    ∃ asked caller, optionalAmount v = .ok asked ∧
      asked.map Amount.whole? = Option.map some caller := by
  obtain rfl | ⟨n, hn⟩ := h
  · exact ⟨none, none, rfl, rfl⟩
  · obtain ⟨a, ha, hwhole⟩ := exists_whole_of_int? hn
    have hpresent : v.isNull = false := by
      cases v <;> first | rfl | cases hn
    refine ⟨some a, some n, ?_, congrArg some hwhole⟩
    rw [optionalAmount, hpresent, ha]
    rfl

theorem exists_read_whole (c : Config) {length limit : Int} {budget caller : Value}
    (hlength : 0 ≤ length) (hlimit : 0 < limit) (hbudget : ∃ n, budget.int? = some n)
    (hcaller : caller = .null ∨ ∃ n, caller.int? = some n) :
    ∃ request size, read (.int length) budget (.int limit) caller = .ok request ∧
      (fitted c request).whole = .ok size := by
  obtain ⟨n, hn⟩ := hbudget
  obtain ⟨asked, asked', hasked, hwhole⟩ := exists_optionalAmount hcaller
  obtain ⟨a, ha, hread⟩ := exists_read hlength hlimit hn hasked
  have hrequest : WindowRequest.Whole ⟨.int length, a, .int limit, asked⟩
      ⟨length, n, limit, asked'⟩ := ⟨rfl, ha, rfl, hwhole⟩
  exact ⟨_, _, hread, whole_fitted c hrequest⟩

end Window

namespace Builder

/-- What can stop the build of a request: a message with too many images; what a template or a
tokenizer raises, if it is to be handed on; and otherwise a failure that stands for it. -/
inductive Stops (b : Builder) (r : PromptRequest) : Failure → Prop
  | images {limit i m} : b.imageLimit = some limit → Image.FirstOver limit r.messages i m →
      Stops b r (.tooManyImages i m.images.length (.int limit))
  | render {tools messages f} : r.tools.items = .ok tools → f.passes = false →
      b.template.render ((b.oracle tools r.think).scene messages) = .error f →
      Stops b r (.fit .render "Failed to render chat template"
        [("message_count", .int messages.length)] (some f))
  | tokenize {text f} : f.passes = false → b.tokenizer.tokenize text = .error f →
      Stops b r (.fit .tokenize "Failed to tokenize rendered prompt"
        [("text_length", .int text.length)] (some f))
  | template {tools messages f} : r.tools.items = .ok tools → f.passes = true →
      b.template.render ((b.oracle tools r.think).scene messages) = .error f → Stops b r f
  | tokenizer {text f} : f.passes = true → b.tokenizer.tokenize text = .error f → Stops b r f

variable {b : Builder} {r : PromptRequest} {tools : List Value} {messages : List Message}
  {f : Failure} {p q : Progress}

theorem Stops.passes (h : Stops b r f) : f.isFit = true ∨ f.isCancelled = true := by
  cases h with
  | images | render | tokenize => exact .inl rfl
  | template _ hpasses | tokenizer hpasses => exact Bool.or_eq_true_iff.mp hpasses

theorem stops_of_render (htools : r.tools.items = .ok tools)
    (h : (b.oracle tools r.think).render messages = .error f) : Stops b r f := by
  obtain ⟨f', hf', rfl⟩ := mapError_eq_error.mp h
  rw [Oracle.renderFailure]
  cases hpasses : f'.passes with
  | true =>
    rw [Failure.wrap_of_passes hpasses]
    exact .template htools hpasses hf'
  | false =>
    rw [Failure.wrap_of_not_passes hpasses]
    exact .render htools hpasses hf'

theorem stops_of_tokenize {text : Text}
    (h : (b.oracle tools r.think).tokenize text = .error f) : Stops b r f := by
  obtain ⟨f', hf', rfl⟩ := mapError_eq_error.mp h
  rw [Oracle.tokenizeFailure]
  cases hpasses : f'.passes with
  | true =>
    rw [Failure.wrap_of_passes hpasses]
    exact .tokenizer hpasses hf'
  | false =>
    rw [Failure.wrap_of_not_passes hpasses]
    exact .tokenize hpasses hf'

theorem stops_of_measure (htools : r.tools.items = .ok tools)
    (h : (b.oracle tools r.think).measure messages = .error f) : Stops b r f := by
  obtain h | ⟨text, -, h⟩ := bind_eq_error.mp h
  · exact stops_of_render htools h
  obtain h | ⟨tokens, -, h⟩ := bind_eq_error.mp h
  · exact stops_of_tokenize h
  · cases h

theorem stops_of_checkLimit
    (h : Image.checkLimit (.ofInt? (b.imageLimit.map Int.ofNat)) r.messages = .error f) :
    Stops b r f := by
  cases hlimit : b.imageLimit with
  | none =>
    rw [hlimit] at h
    cases h
  | some limit =>
    by_cases hover : ∃ m ∈ r.messages, limit < m.images.length
    · obtain ⟨i, m, hfirst⟩ := Image.exists_firstOver hover
      have hcheck := Image.checkFrom_of_firstOver hfirst 0
      rw [Nat.zero_add] at hcheck
      rw [hlimit] at h
      cases hcheck.symm.trans h
      exact .images hlimit hfirst
    · have hwithin : ∀ k, b.imageLimit = some k → ∀ m ∈ r.messages, m.images.length ≤ k := by
        intro k hk m hm
        cases hlimit.symm.trans hk
        exact Nat.not_lt.mp fun h => hover ⟨m, hm, h⟩
      rw [checkLimit_of_within hwithin] at h
      cases h

theorem silent_measure (htools : r.tools.items = .ok tools) :
    Run.Silent (measure (b.oracle tools r.think) r.messages) (0 ≤ ·) (Stops b r) := by
  rw [measure]
  split
  · exact Run.silent_pure (Int.le_refl 0)
  · refine .bind (Run.silent_count 1) fun _ _ => ?_
    refine Run.silent_lift (fun n hn => ?_) fun f => stops_of_measure htools
    exact Oracle.measure_nonneg (Int.natCast_nonneg _) hn

section
variable (h : r.Typed) (htag : b.config.tagFormat = defaultTagFormat)
include h

theorem exists_window {length : Int} (hlength : 0 ≤ length) :
    ∃ request size, Window.read (.int length) r.numPredict (.int b.model.contextLength) r.numCtx =
        .ok request ∧ (Window.fitted b.config request).whole = .ok size :=
  Window.exists_read_whole b.config hlength (Int.natCast_pos.mpr b.model.contextLength_pos)
    h.budget h.caller

theorem text_of_kept {m : Message} (hm : m ∈ r.messages ∨ m = .skipMarker) :
    ∃ s, m.content = .text s := by
  obtain hmem | rfl := hm
  · exact h.contents m hmem
  · exact ⟨_, rfl⟩

include htag

theorem covers_stops (htools : r.tools.items = .ok tools) {length : Int} (hlength : 0 ≤ length) :
    Covers b r (b.oracle tools r.think) length (Stops b r) := by
  obtain ⟨request, size, hread, hwhole⟩ := exists_window (b := b) h hlength
  refine ⟨fun f hf => ?_, fun request' f hrequest hf => ?_, fun _ f _ => stops_of_measure htools,
    fun messages f hkept hf => ?_, fun _ f _ => stops_of_render htools⟩
  · rw [hread] at hf
    cases hf
  · cases hread.symm.trans hrequest
    rw [hwhole] at hf
    cases hf
  · have htagging : Image.Tagging b.config.tagFormat.toList := htag ▸ Image.tagging_default
    obtain ⟨named, hnamed⟩ := htagging.exists_assign b.config.placeholder
      fun m hm _ => text_of_kept h (hkept m hm)
    rw [hnamed] at hf
    cases hf

theorem silent_prepare : Run.Silent (b.prepare r) (fun _ => True) (Stops b r) := by
  obtain ⟨tools, htools⟩ := h.tools
  refine .bind (Run.silent_lift (fun _ _ => trivial) fun f => stops_of_checkLimit) fun _ _ => ?_
  refine .bind (Run.silent_lift (fun tools' htools' => htools') fun f hf => ?_)
    fun (tools' : List Value) htools' => ?_
  · rw [htools] at hf
    cases hf
  refine .bind (silent_measure htools') fun length hlength => ?_
  exact (covers_stops h htag htools' hlength).silent_fit

end

theorem run_build_cases (b : Builder) (r : PromptRequest) (p : Progress) :
    (∃ c q q', (b.prepare r).run p = (.ok c, q) ∧ b.Handed c.report q q' ∧
      (b.build r).run p = (.ok c, q')) ∨
    (∃ c q, (b.prepare r).run p = (.ok c, q) ∧ b.logReports = true ∧ ¬c.report.InRange ∧
      (b.build r).run p = (.error (.badNumber .quotientTooLarge), q)) ∨
    ∃ f q, (b.prepare r).run p = (.error f, q) ∧ (b.build r).run p = (.error f, q) := by
  rw [build_eq, Run.run_bind]
  -- Handing out the report is the last stage, so a failure before it has handed out nothing.
  rcases hprepare : (b.prepare r).run p with ⟨f | c, q⟩
  · exact .inr (.inr ⟨f, q, rfl, rfl⟩)
  dsimp only
  rw [Run.run_bind]
  obtain ⟨q', hreport, hhanded⟩ | ⟨herror, hlog, hrange⟩ := b.run_report_cases c.report q
  · rw [hreport]
    exact .inl ⟨c, q, q', rfl, hhanded, rfl⟩
  · rw [herror]
    exact .inr (.inl ⟨c, q, rfl, hlog, hrange, rfl⟩)

/-- A build that returns has handed out the report it returns, once to the log if it is to be logged
and once to whoever asked for it; one that fails has handed out none. It fails with what its stages
raise, or else because the report is to be logged and its quotient is beyond all doubles. Sizing the
window comes to an end, whatever was measured. -/
theorem build_reports (b : Builder) (r : PromptRequest) (p : Progress) (h : r.Typed)
    (htag : b.config.tagFormat = defaultTagFormat) :
    (∀ c q, (b.build r).run p = (.ok c, q) →
      q.logged = p.logged ++ (if b.logReports then [c.report] else []) ∧
        q.reports = p.reports ++ (if b.reporting then [c.report] else [])) ∧
    (∀ f q, (b.build r).run p = (.error f, q) →
      q.logged = p.logged ∧ q.reports = p.reports ∧
        (Stops b r f ∧ (f.isFit = true ∨ f.isCancelled = true) ∨
          f = .badNumber .quotientTooLarge ∧ b.logReports = true ∧
            ∃ c, (b.prepare r).run p = (.ok c, q) ∧ ¬c.report.InRange)) ∧
    ∀ tools length q, r.tools.items = .ok tools →
      (measure (b.oracle tools r.think) r.messages).run p = (.ok length, q) →
      ∃ w size q', (Window.sizeValues b.config (.int length) r.numPredict
          (.int b.model.contextLength) r.numCtx r.requestId).run q = (.ok w, q') ∧
        w.whole = .ok size := by
  have hsilent := silent_prepare h htag
  have hprogress : ∀ {result q}, (b.prepare r).run p = (result, q) → p.Silent q := by
    intro result q hrun
    have hprepared := hsilent.progress p
    rwa [hrun] at hprepared
  refine ⟨fun c q hrun => ?_, fun f q hrun => ?_, fun tools length q htools hmeasure => ?_⟩
  · obtain ⟨c', q₁, q', hprepare, hhanded, hbuild⟩ | ⟨_, _, -, -, -, hbuild⟩ |
      ⟨_, _, -, hbuild⟩ := b.run_build_cases r p
    · cases hbuild.symm.trans hrun
      rw [hhanded.logged, hhanded.reports, (hprogress hprepare).logged,
        (hprogress hprepare).reports]
      exact ⟨rfl, rfl⟩
    · cases hbuild.symm.trans hrun
    · cases hbuild.symm.trans hrun
  · obtain ⟨_, _, _, -, -, hbuild⟩ | ⟨c, q', hprepare, hlog, hrange, hbuild⟩ |
      ⟨f', q', hprepare, hbuild⟩ := b.run_build_cases r p
    · cases hbuild.symm.trans hrun
    · cases hbuild.symm.trans hrun
      have hsame := hprogress hprepare
      exact ⟨hsame.logged, hsame.reports, .inr ⟨rfl, hlog, c, hprepare, hrange⟩⟩
    · cases hbuild.symm.trans hrun
      have hsame := hprogress hprepare
      have hstops := hsilent.raised p f (congrArg Prod.fst hprepare)
      exact ⟨hsame.logged, hsame.reports, .inl ⟨hstops, hstops.passes⟩⟩
  · have hnonneg : 0 ≤ length :=
      (silent_measure htools).returned p length (congrArg Prod.fst hmeasure)
    obtain ⟨request, size, hread, hwhole⟩ := exists_window (b := b) h hnonneg
    obtain ⟨q', hrun⟩ := Window.exists_run_sizeValues b.config r.requestId hread q
    exact ⟨_, size, q', hrun, hwhole⟩

def tellingBuilder : Builder := { sampleBuilder with
  template.render scene := do
    let text ← sampleBuilder.template.render scene
    if text.codes.head? = some (.char '[') then throw (.raised .value "tag")
    return text
  logReports := true
  reporting := true }

def plainRequest : PromptRequest where
  messages := [.ofText .user "one"]

def picturedRequest : PromptRequest where
  messages := [⟨.user, .text "two", [.bytes [0]], [], .null⟩]

theorem typed_plainRequest : plainRequest.Typed :=
  ⟨by simp [plainRequest, Message.ofText], ⟨[], rfl⟩, ⟨-1, rfl⟩, .inl rfl⟩

theorem typed_picturedRequest : picturedRequest.Typed :=
  ⟨by simp [picturedRequest], ⟨[], rfl⟩, ⟨-1, rfl⟩, .inl rfl⟩

theorem build_reports_tellingBuilder :
    plainRequest.Typed ∧ picturedRequest.Typed ∧
      tellingBuilder.config.tagFormat = defaultTagFormat ∧
      (∃ c q, (tellingBuilder.build plainRequest).run {} = (.ok c, q) ∧
        q.logged = [c.report] ∧ q.reports = [c.report]) ∧
      ∃ q, (tellingBuilder.build picturedRequest).run {} =
          (.error (.fit .render "Failed to render chat template" [("message_count", .int 1)]
            (some (.raised .value "tag"))), q) ∧
        q.measured = 1 ∧ q.logged = [] ∧ q.reports = [] := by
  obtain ⟨c, q, hrun⟩ : ∃ c q, (tellingBuilder.build plainRequest).run {} = (.ok c, q) :=
    ⟨_, _, rfl⟩
  obtain ⟨q', hrun', hmeasured⟩ : ∃ q, (tellingBuilder.build picturedRequest).run {} =
      (.error (.fit .render "Failed to render chat template" [("message_count", .int 1)]
        (some (.raised .value "tag"))), q) ∧ q.measured = 1 := ⟨_, rfl, rfl⟩
  obtain ⟨hlogged, hreports⟩ :=
    (build_reports tellingBuilder plainRequest {} typed_plainRequest rfl).1 c q hrun
  obtain ⟨hlogged', hreports', -⟩ :=
    (build_reports tellingBuilder picturedRequest {} typed_picturedRequest rfl).2.1 _ q' hrun'
  exact ⟨typed_plainRequest, typed_picturedRequest, rfl, ⟨c, q, hrun, hlogged, hreports⟩,
    q', hrun', hmeasured, hlogged', hreports'⟩

end Builder

end ChatWindow
