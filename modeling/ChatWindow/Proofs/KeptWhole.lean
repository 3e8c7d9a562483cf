import ChatWindow.Proofs.Build
import ChatWindow.Proofs.Sizing
import ChatWindow.Proofs.SystemFirst
import ChatWindow.Proofs.Utilization

/-!
# Prompts that are kept whole

Where a conversation is below the limit of its model, its window has room for it, unless the caller
makes the window smaller or the multiples of the quantum end before the limit does. If the
conversation is in order as well, nothing of it is dropped. The selection then asks for nothing but
the length that is known already, so a build fails only for the images: if a message has too many of
them, if they cannot be named, or if the named messages cannot be rendered.
-/

namespace ChatWindow

theorem Oracle.measure_nonneg {o : Oracle} {messages : List Message} {n : Int}
    (htokens : 0 ≤ o.tokensPerImage) (h : o.measure messages = .ok n) : 0 ≤ n := by
  obtain ⟨text, tokens, -, -, rfl⟩ := measure_eq_ok.mp h
  have hcost : 0 ≤ o.imageCost messages := by
    rw [imageCost]
    split
    · exact Int.mul_nonneg htokens (Int.natCast_nonneg _)
    · exact Int.le_refl 0
  omega

theorem Image.checkLimit_of_no_images (limit : Option Nat) {messages : List Message}
    (h : ∀ m ∈ messages, m.images = []) :
    checkLimit (.ofInt? (limit.map Int.ofNat)) messages = .ok () := by
  cases limit with
  | none => rfl
  | some n =>
    have hwithin : (Value.int n).exceededBy ([] : List Value).length = .ok false :=
      congrArg Except.ok (decide_eq_false (Int.not_lt.mpr (Int.natCast_nonneg n)))
    have hall : ∀ i, checkFrom (.int n) i messages = .ok () := by
      induction messages with
      | nil => exact fun _ => rfl
      | cons m messages ih =>
        intro i
        rw [checkFrom, h m List.mem_cons_self, hwithin]
        exact ih (fun m' hm' => h m' (List.mem_cons_of_mem m hm')) (i + 1)
    exact hall 0

namespace Window

open Quantity

theorem exists_entry_of_mem_events {c : Config} {r : WindowRequest Amount} {requestId : Value}
    {e : Event} (h : e ∈ events c r requestId) : ∃ entry, e.entry = .ok entry := by
  rw [events, List.mem_append] at h
  rcases h with h | h
  · cases hcaller : r.caller with
    | none => simp [hcaller] at h
    | some w =>
      cases hhonoured : (honoured c r).isSome with
      | true => simp [hcaller, hhonoured] at h
      | false =>
        simp only [hcaller, hhonoured, Bool.false_eq_true, if_false, List.mem_singleton] at h
        subst h
        exact ⟨_, rfl⟩
  · cases hexceeds : exceeds r with
    | false => simp [hexceeds] at h
    | true =>
      rw [hexceeds, if_pos rfl, List.mem_singleton] at h
      subst h
      exact ⟨_, rfl⟩

theorem exists_run_sizeValues (c : Config) (requestId : Value) {length budget limit caller : Value}
    {request : WindowRequest Amount} (h : read length budget limit caller = .ok request)
    (p : Progress) :
    ∃ q, (sizeValues c length budget limit caller requestId).run p = (.ok (fitted c request), q) :=
  ⟨_, Run.run_lift_bind_eq_ok.mpr ⟨request, h, Run.run_bind_eq_ok.mpr
    ⟨(), _, Run.run_forM_log (fun _ => exists_entry_of_mem_events) p, rfl⟩⟩⟩

theorem exists_whole_of_int? {v : Value} {n : Int} (h : v.int? = some n) :
    ∃ a, Amount.compared ">" v = .ok a ∧ a.whole? = some n := by
  cases v with
  | bool b => exact ⟨.bool b, rfl, h⟩
  | int m => exact ⟨.int m, rfl, h⟩
  | _ => cases h

theorem exists_read {length limit n : Int} {budget caller : Value} {asked : Option Amount}
    (hlength : 0 ≤ length) (hlimit : 0 < limit) (hbudget : budget.int? = some n)
    (hcaller : optionalAmount caller = .ok asked) :
    ∃ a, a.whole? = some n ∧
      read (.int length) budget (.int limit) caller = .ok ⟨.int length, a, .int limit, asked⟩ := by
  obtain ⟨a, ha, hn⟩ := exists_whole_of_int? hbudget
  have hlimitChecked : checkLimit (Amount.int limit) = .ok () := by
    rw [checkLimit, Amount.lessEq_whole rfl (Amount.whole?_ofInt 0),
      decide_eq_false (Int.not_le.mpr hlimit)]
    rfl
  have hlengthChecked : checkLength (Amount.int length) = .ok () := by
    rw [checkLength, Amount.less_whole rfl (Amount.whole?_ofInt 0),
      decide_eq_false (Int.not_lt.mpr hlength)]
    rfl
  refine ⟨a, hn, bind_eq_ok.mpr ⟨.int limit, rfl, bind_eq_ok.mpr ⟨(), hlimitChecked, ?_⟩⟩⟩
  refine bind_eq_ok.mpr ⟨.int length, rfl, bind_eq_ok.mpr ⟨(), hlengthChecked, ?_⟩⟩
  exact bind_eq_ok.mpr ⟨a, ha, bind_eq_ok.mpr ⟨asked, hcaller, rfl⟩⟩

end Window

namespace Builder

/-- A conversation in order and below the limit of the model, with a window that no caller makes
smaller and that may be as large as the model. -/
structure Ample (b : Builder) (r : PromptRequest) (tools : List Value) (length : Int) : Prop where
  nonempty : r.messages ≠ []
  ordered : SystemFirst r.messages
  listed : r.tools.items = .ok tools
  measured : (b.oracle tools r.think).measure r.messages = .ok length
  below : length < b.model.contextLength
  aligned : b.config.quantum ∣ b.model.contextLength ∨
    roundDown b.model.contextLength b.config.quantum < b.config.floor
  budget : ∃ n, r.numPredict.int? = some n
  caller : ∃ asked, Window.optionalAmount r.numCtx = .ok asked
  ignored : b.config.callerWindow = .ignore

structure KeptWhole (b : Builder) (r : PromptRequest) (length : Int) (c : ChatPrompt) : Prop where
  window : ∃ size, c.window.tokens = .int size ∧ length ≤ size
  named : Image.assign b.config.placeholder b.config.tagFormat r.messages =
    .ok (c.messages, c.images)
  markerInserted : c.report.markerInserted = false
  truncated : c.report.truncated = false
  exceeded : c.exceeded = false

variable {b : Builder} {r : PromptRequest} {tools : List Value} {length : Int} {p q : Progress}

theorem Ample.exists_window (h : Ample b r tools length) :
    ∃ request size, Window.read (.int length) r.numPredict (.int b.model.contextLength) r.numCtx =
        .ok request ∧
      (Window.fitted b.config request).whole = .ok size ∧
      (Window.fitted b.config request).exceeded = false ∧ length ≤ size := by
  have hnonneg := Oracle.measure_nonneg (Int.natCast_nonneg _) h.measured
  have hlimit : (0 : Int) < b.model.contextLength := Int.natCast_pos.mpr b.model.contextLength_pos
  have haligned : (b.config.quantum : Int) ∣ b.model.contextLength ∨
      roundDown b.model.contextLength b.config.quantum < b.config.floor :=
    h.aligned.imp_left Int.natCast_dvd_natCast.mpr
  obtain ⟨n, hn⟩ := h.budget
  obtain ⟨asked, hasked⟩ := h.caller
  obtain ⟨budget, hbudget, hread⟩ := Window.exists_read hnonneg hlimit hn hasked
  have hwhole : WindowRequest.Whole ⟨.int length, budget, .int b.model.contextLength, none⟩
      ⟨length, n, b.model.contextLength, none⟩ := ⟨rfl, hbudget, rfl, rfl⟩
  have hfit := Window.length_le_tokens_fitted b.config
    (w := ⟨length, n, b.model.contextLength, none⟩) rfl haligned h.below
  refine ⟨_, _, hread, ?_, ?_, hfit⟩
  · rw [Window.fitted_of_ignored b.config h.ignored]
    exact Window.whole_fitted b.config hwhole
  · rw [Window.fitted_of_ignored b.config h.ignored]
    exact (Window.exceeds_whole hwhole).trans (decide_eq_false (Int.not_le.mpr h.below))

theorem Ample.exists_run_select (h : Ample b r tools length) {size : Int} (hsize : length ≤ size)
    (p : Progress) :
    ∃ s q, (Selection.select (b.oracle tools r.think).measure r.messages size r.requestId
        (some length)).run p = (.ok s, q) ∧
      s.messages = r.messages ∧ s.report.markerInserted = false ∧ s.report.truncated = false ∧
      s.report.exceeded = false ∧ s.report.finalTokens = length ∧ s.report.windowSize = size := by
  obtain ⟨s, q, calls, hrun, hmessages, hreport⟩ :=
    Selection.exists_run_select_of_given (b.oracle tools r.think).measure r.requestId p h.nonempty
      (h.ordered.settled hsize)
  refine ⟨s, q, hrun, hmessages, ?_⟩
  rw [hreport]
  exact ⟨rfl, rfl, decide_eq_false (Int.not_lt.mpr hsize), rfl, rfl⟩

theorem Built.keptWhole {c : ChatPrompt} {o : Oracle} {given size : Int} {s : Selection}
    (hbuilt : Built b r c o given size s) (h : Ample b r tools length) :
    KeptWhole b r length c := by
  obtain ⟨_, htools, rfl⟩ := hbuilt.oracle
  rw [h.listed] at htools
  cases htools
  have hgiven := hbuilt.measured h.nonempty
  rw [h.measured] at hgiven
  cases hgiven
  obtain ⟨_, hrequest, hwindow⟩ := hbuilt.sized
  obtain ⟨request, fit, hread, hwhole, hexceeded, hfit⟩ := h.exists_window
  rw [hread] at hrequest
  cases hrequest
  have hsize := hbuilt.whole
  rw [hwindow, hwhole] at hsize
  cases hsize
  obtain ⟨start, _, hselected⟩ := hbuilt.selected
  obtain ⟨s', _, hrun, hmessages, hinserted, htruncated, hfits, -, -⟩ :=
    h.exists_run_select hfit start
  rw [hselected] at hrun
  cases hrun
  refine ⟨⟨size, hbuilt.window.1, hfit⟩, ?_, ?_, ?_, ?_⟩
  · rw [← hmessages]
    exact hbuilt.named
  · rw [hbuilt.reported]
    exact hinserted
  · rw [hbuilt.reported]
    exact htruncated
  · rw [ChatPrompt.exceeded, hwindow, hexceeded, hbuilt.reported, hfits]
    rfl

theorem exists_run_report (b : Builder) {r : Report}
    (h : r.finalTokens.natAbs ≤ r.windowSize.natAbs) (p : Progress) :
    ∃ q, (b.report r).run p = (.ok (), q) := by
  obtain ⟨entry, hentry⟩ := Report.exists_entry h
  rw [report]
  cases b.logReports with
  | true =>
    cases b.reporting <;>
      exact ⟨_, Run.run_bind_eq_ok.mpr ⟨(), _, Run.run_log hentry p, rfl⟩⟩
  | false => cases b.reporting <;> exact ⟨_, rfl⟩

theorem Ample.exists_run_build (h : Ample b r tools length) {named : List Message}
    {images : List Image.Tagged} {prompt : Text}
    (hcheck : Image.checkLimit (.ofInt? (b.imageLimit.map Int.ofNat)) r.messages = .ok ())
    (hnamed : Image.assign b.config.placeholder b.config.tagFormat r.messages =
      .ok (named, images))
    (hrender : b.template.render ((b.oracle tools r.think).scene named) = .ok prompt)
    (p : Progress) :
    ∃ c q, (b.build r).run p = (.ok c, q) ∧ c.messages = named ∧ c.images = images ∧
      c.prompt = prompt := by
  have hne : named ≠ [] := by
    rw [← List.length_pos_iff, Image.length_of_assignBy hnamed, List.length_pos_iff]
    exact h.nonempty
  have hprompt : render (b.oracle tools r.think) named = .ok prompt :=
    (render_eq_ok hne).mpr hrender
  obtain ⟨request, size, hread, hwhole, -, hsize⟩ := h.exists_window
  obtain ⟨p₁, hmeasured⟩ : ∃ q, (measure (b.oracle tools r.think) r.messages).run p =
      (.ok length, q) := ⟨_, by rw [run_measure h.nonempty, h.measured]⟩
  obtain ⟨p₂, hwindow⟩ := Window.exists_run_sizeValues b.config r.requestId hread p₁
  obtain ⟨p₃, hsized⟩ : ∃ q, (Run.log (.windowSized r.requestId b.modelName
      (Window.fitted b.config request).tokens.toValue length)).run p₂ = (.ok (), q) :=
    ⟨_, Run.run_log rfl p₂⟩
  obtain ⟨s, p₄, hselected, hmessages, -, -, -, hfinal, hgiven⟩ := h.exists_run_select hsize p₃
  rw [← hmessages] at hnamed
  have hfits : s.report.finalTokens.natAbs ≤ s.report.windowSize.natAbs := by
    have hnonneg := Oracle.measure_nonneg (Int.natCast_nonneg _) h.measured
    rw [hfinal, hgiven]
    omega
  obtain ⟨q, hreported⟩ := exists_run_report b hfits p₄
  refine ⟨⟨prompt, images, named, Window.fitted b.config request, s.report⟩, q, ?_, rfl, rfl, rfl⟩
  -- The stages come to their ends one after the other, each where the one before it has left off.
  refine Run.run_lift_bind_eq_ok.mpr ⟨(), hcheck, ?_⟩
  refine Run.run_lift_bind_eq_ok.mpr ⟨tools, h.listed, ?_⟩
  refine Run.run_bind_eq_ok.mpr ⟨length, p₁, hmeasured, ?_⟩
  refine Run.run_bind_eq_ok.mpr ⟨_, p₂, hwindow, ?_⟩
  refine Run.run_bind_eq_ok.mpr ⟨(), p₃, hsized, ?_⟩
  refine Run.run_lift_bind_eq_ok.mpr ⟨size, hwhole, ?_⟩
  refine Run.run_bind_eq_ok.mpr ⟨s, p₄, hselected, ?_⟩
  refine Run.run_lift_bind_eq_ok.mpr ⟨(named, images), hnamed, ?_⟩
  refine Run.run_lift_bind_eq_ok.mpr ⟨prompt, hprompt, ?_⟩
  exact Run.run_bind_eq_ok.mpr ⟨(), q, hreported, rfl⟩

/-- Below the limit of the model nothing of a conversation in order is dropped: the window has room
for it, no marker is put in, and neither the window nor the budget is exceeded. The build comes to
its end unless the images stop it. Where there are none the messages are those of the request and
the prompt is what the template makes of them. -/
theorem build_keeps_whole (b : Builder) (r : PromptRequest) (tools : List Value) (length : Int)
    (p : Progress) (h : Ample b r tools length) :
    (∀ c q, (b.build r).run p = (.ok c, q) → KeptWhole b r length c) ∧
      (∀ named images prompt,
        Image.checkLimit (.ofInt? (b.imageLimit.map Int.ofNat)) r.messages = .ok () →
        Image.assign b.config.placeholder b.config.tagFormat r.messages = .ok (named, images) →
        b.template.render ((b.oracle tools r.think).scene named) = .ok prompt →
        ∃ c q, (b.build r).run p = (.ok c, q) ∧ c.messages = named ∧ c.images = images ∧
          c.prompt = prompt) ∧
      ((∀ m ∈ r.messages, m.images = []) →
        ∃ c q, (b.build r).run p = (.ok c, q) ∧ c.messages = r.messages ∧
          b.template.render ((b.oracle tools r.think).scene r.messages) = .ok c.prompt) := by
  refine ⟨fun c q hrun => ?_, fun named images prompt hcheck hnamed hrender => ?_,
    fun himages => ?_⟩
  · obtain ⟨o, given, size, s, hbuilt⟩ := exists_built hrun
    exact hbuilt.keptWhole h
  · exact h.exists_run_build hcheck hnamed hrender p
  · obtain ⟨prompt, _, hrender, -, -⟩ := Oracle.measure_eq_ok.mp h.measured
    have hcheck := Image.checkLimit_of_no_images b.imageLimit himages
    have hnamed := Image.assign_of_no_images b.config.placeholder b.config.tagFormat himages
    obtain ⟨c, q, hrun, hmessages, -, hprompt⟩ := h.exists_run_build hcheck hnamed hrender p
    rw [← hprompt] at hrender
    exact ⟨c, q, hrun, hmessages, hrender⟩

def briefRequest : PromptRequest where
  messages := [.ofText .system "brief", .ofText .user "one", .ofText .assistant "two"]
  numPredict := .int 400
  numCtx := .int 3

theorem build_keeps_whole_briefRequest :
    Ample sampleBuilder briefRequest [] 11 ∧
      ∃ c q, (sampleBuilder.build briefRequest).run {} = (.ok c, q) ∧
        c.messages = briefRequest.messages ∧ c.prompt = "briefonetwo" ∧
        KeptWhole sampleBuilder briefRequest 11 c := by
  have hample : Ample sampleBuilder briefRequest [] 11 := {
    nonempty := by decide
    ordered := by decide
    listed := rfl
    measured := rfl
    below := by decide
    aligned := .inl (by decide)
    budget := ⟨400, rfl⟩
    caller := ⟨some (.int 3), rfl⟩
    ignored := rfl }
  obtain ⟨hkept, -, hreturns⟩ := build_keeps_whole sampleBuilder briefRequest [] 11 {} hample
  obtain ⟨c, q, hrun, hmessages, hprompt⟩ := hreturns (by decide)
  exact ⟨hample, c, q, hrun, hmessages, (Except.ok.inj hprompt).symm, hkept c q hrun⟩

end Builder

end ChatWindow
