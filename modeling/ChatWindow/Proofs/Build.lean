import ChatWindow.Proofs.Arrangement
import ChatWindow.Proofs.Measure
import ChatWindow.Proofs.Window
import ChatWindow.Prompt

/-!
# What a prompt says of itself

A build that comes to its end has come to the end of each of its stages. So the token counts that it
reports are counts of texts that the template has rendered: the conversation at first, and the
prompt in the end. The prompt fits the window unless the report says otherwise, and the window is
never larger than the model.
-/

namespace ChatWindow

def Tokenizer.Counts (t : Tokenizer) (text : Text) (n : Int) : Prop :=
  ∃ tokens, t.tokenize text = .ok tokens ∧ n = tokens.length

theorem Oracle.exists_counts_of_measure {o : Oracle} {messages : List Message} {n : Int}
    (h : o.measure messages = .ok n) :
    ∃ text k, o.template.render (o.scene messages) = .ok text ∧ o.tokenizer.Counts text k ∧
      n = k + o.imageCost messages := by
  obtain ⟨text, tokens, htext, htokens, hn⟩ := measure_eq_ok.mp h
  exact ⟨text, _, htext, ⟨tokens, htokens, rfl⟩, hn⟩

theorem Oracle.counts_of_measure {o : Oracle} {messages : List Message} {n : Int}
    (h : o.measure messages = .ok n) (himages : ∀ m ∈ messages, m.images = []) :
    ∃ text, o.template.render (o.scene messages) = .ok text ∧ o.tokenizer.Counts text n := by
  obtain ⟨text, k, htext, hcounts, hn⟩ := exists_counts_of_measure h
  rw [o.imageCost_eq_zero himages, Int.add_zero] at hn
  exact ⟨text, htext, hn ▸ hcounts⟩

namespace Window

theorem limit_of_read {length budget caller : Value} {limit : Int} {w : WindowRequest Amount}
    (h : read length budget (.int limit) caller = .ok w) : w.limit = .int limit := by
  rw [read, bind_eq_ok] at h
  obtain ⟨limit', hlimit, h⟩ := h
  cases hlimit
  obtain ⟨_, -, h⟩ := bind_eq_ok.mp h
  obtain ⟨length', -, h⟩ := bind_eq_ok.mp h
  obtain ⟨_, -, h⟩ := bind_eq_ok.mp h
  obtain ⟨budget', -, h⟩ := bind_eq_ok.mp h
  obtain ⟨caller', -, h⟩ := bind_eq_ok.mp h
  cases h
  rfl

theorem fitted_of_run_sizeValues {c : Config} {length budget limit caller requestId : Value}
    {p q : Progress} {w : Window Amount}
    (h : (sizeValues c length budget limit caller requestId).run p = (.ok w, q)) :
    ∃ request, read length budget limit caller = .ok request ∧ w = fitted c request := by
  obtain ⟨request, hrequest, h⟩ := Run.run_lift_bind_eq_ok.mp h
  obtain ⟨_, _, -, h⟩ := Run.run_bind_eq_ok.mp h
  cases h
  exact ⟨request, hrequest, rfl⟩

end Window

namespace Builder

variable {b : Builder} {r : PromptRequest} {c : ChatPrompt} {p q : Progress}

structure Built (b : Builder) (r : PromptRequest) (c : ChatPrompt) (o : Oracle)
    (length size : Int) (s : Selection) : Prop where
  oracle : ∃ tools, r.tools.items = .ok tools ∧ o = b.oracle tools r.think
  measured : r.messages ≠ [] → o.measure r.messages = .ok length
  sized : ∃ request, Window.read (.int length) r.numPredict (.int b.model.contextLength)
    r.numCtx = .ok request ∧ c.window = Window.fitted b.config request
  whole : c.window.whole = .ok size
  selected : ∃ p q, (Selection.select o.measure r.messages size r.requestId (some length)).run p =
    (.ok s, q)
  named : Image.assign b.config.placeholder b.config.tagFormat s.messages =
    .ok (c.messages, c.images)
  rendered : render o c.messages = .ok c.prompt
  reported : c.report = s.report

theorem run_measure {o : Oracle} {messages : List Message} (hne : messages ≠ []) (p : Progress) :
    (measure o messages).run p =
      (o.measure messages, { p with measured := p.measured + 1 }) := by
  have hempty : messages.isEmpty = false := by simpa using hne
  rw [measure, hempty]
  rfl

theorem measure_of_run_measure {o : Oracle} {messages : List Message} {length : Int}
    (h : (measure o messages).run p = (.ok length, q)) (hne : messages ≠ []) :
    o.measure messages = .ok length := by
  rw [run_measure hne] at h
  exact congrArg Prod.fst h

theorem render_eq_ok {o : Oracle} {messages : List Message} {text : Text}
    (hne : messages ≠ []) :
    render o messages = .ok text ↔ o.template.render (o.scene messages) = .ok text := by
  have hempty : messages.isEmpty = false := by simpa using hne
  rw [render, hempty]
  exact Oracle.render_eq_ok

theorem exists_built (h : (b.build r).run p = (.ok c, q)) :
    ∃ o length size s, Built b r c o length size s := by
  obtain ⟨_, -, h⟩ := Run.run_lift_bind_eq_ok.mp h
  obtain ⟨tools, htools, h⟩ := Run.run_lift_bind_eq_ok.mp h
  obtain ⟨length, p₁, hmeasured, h⟩ := Run.run_bind_eq_ok.mp h
  obtain ⟨window, p₂, hwindow, h⟩ := Run.run_bind_eq_ok.mp h
  obtain ⟨_, p₃, -, h⟩ := Run.run_bind_eq_ok.mp h
  obtain ⟨size, hsize, h⟩ := Run.run_lift_bind_eq_ok.mp h
  obtain ⟨s, p₄, hs, h⟩ := Run.run_bind_eq_ok.mp h
  obtain ⟨⟨messages, images⟩, hnamed, h⟩ := Run.run_lift_bind_eq_ok.mp h
  obtain ⟨prompt, hprompt, h⟩ := Run.run_lift_bind_eq_ok.mp h
  obtain ⟨_, p₅, -, h⟩ := Run.run_bind_eq_ok.mp h
  cases h
  exact ⟨b.oracle tools r.think, length, size, s, ⟨tools, htools, rfl⟩,
    measure_of_run_measure hmeasured, Window.fitted_of_run_sizeValues hwindow, hsize,
    ⟨p₃, p₄, hs⟩, hnamed, hprompt, rfl⟩

section
variable {o : Oracle} {length size : Int} {s : Selection}

theorem Built.window (h : Built b r c o length size s) :
    c.window.tokens = .int size ∧ 1 ≤ size ∧ size ≤ b.model.contextLength := by
  obtain ⟨request, hrequest, hwindow⟩ := h.sized
  have hwhole := h.whole
  rw [hwindow] at hwhole ⊢
  exact Window.tokens_of_whole_fitted b.config (Window.limit_of_read hrequest)
    b.model.contextLength_pos hwhole

theorem Built.arrangement (h : Built b r c o length size s) :
    Arrangement r.messages s.sources s.messages := by
  obtain ⟨p, q, hs⟩ := h.selected
  exact Selection.arrangement_of_run_select hs

theorem Built.images_eq_nil (h : Built b r c o length size s)
    (himages : ∀ m ∈ r.messages, m.images = []) : ∀ m ∈ s.messages, m.images = [] := by
  intro m hm
  -- A marker that was put in has no images either.
  rcases h.arrangement.mem_or_eq_skipMarker hm with hm | rfl
  · exact himages m hm
  · rfl

theorem Built.messages_eq (h : Built b r c o length size s)
    (himages : ∀ m ∈ r.messages, m.images = []) : c.messages = s.messages := by
  have hnamed := h.named
  rw [Image.assign_of_no_images _ _ (h.images_eq_nil himages)] at hnamed
  exact (congrArg Prod.fst (Except.ok.inj hnamed)).symm

theorem Built.template_render (h : Built b r c o length size s) (hne : r.messages ≠ []) :
    o.template.render (o.scene c.messages) = .ok c.prompt := by
  have hkept : c.messages ≠ [] := by
    rw [← List.length_pos_iff, Image.length_of_assignBy h.named, List.length_pos_iff]
    exact h.arrangement.kept_ne_nil hne
  exact (render_eq_ok hkept).mp h.rendered

theorem Built.report_measured (h : Built b r c o length size s) (hne : r.messages ≠ []) :
    o.measure r.messages = .ok c.report.givenTokens ∧
      o.measure s.messages = .ok c.report.finalTokens ∧
      c.report.exceeded = decide (size < c.report.finalTokens) := by
  obtain ⟨p, q, hs⟩ := h.selected
  have hknown : ∀ k, some length = some k → o.measure r.messages = .ok k := by
    rintro k ⟨⟩
    exact h.measured hne
  rw [h.reported]
  exact Selection.report_of_run_select hne hknown hs

theorem Built.counts_prompt (h : Built b r c o length size s) (hne : r.messages ≠ [])
    (himages : ∀ m ∈ r.messages, m.images = []) :
    o.tokenizer.Counts c.prompt c.report.finalTokens := by
  obtain ⟨text, htext, hcounts⟩ :=
    Oracle.counts_of_measure (h.report_measured hne).2.1 (h.images_eq_nil himages)
  rw [← h.messages_eq himages, h.template_render hne] at htext
  cases htext
  exact hcounts

end

/-- For a conversation without images the counts of a report are those of its texts, and a prompt
that is not reported to exceed its window fits both the window and the model. -/
theorem build_fits (b : Builder) (r : PromptRequest) (p q : Progress) (c : ChatPrompt)
    (hne : r.messages ≠ []) (himages : ∀ m ∈ r.messages, m.images = [])
    (h : (b.build r).run p = (.ok c, q)) :
    b.tokenizer.Counts c.prompt c.report.finalTokens ∧
      (∃ tools text, r.tools.items = .ok tools ∧
        b.template.render ((b.oracle tools r.think).scene r.messages) = .ok text ∧
        b.tokenizer.Counts text c.report.givenTokens) ∧
      ∃ size : Int, c.window.tokens = .int size ∧ 1 ≤ size ∧ size ≤ b.model.contextLength ∧
        (c.report.exceeded = false → c.report.finalTokens ≤ size) := by
  obtain ⟨o, length, size, s, hbuilt⟩ := exists_built h
  obtain ⟨tools, htools, rfl⟩ := hbuilt.oracle
  obtain ⟨hgiven, -, hexceeded⟩ := hbuilt.report_measured hne
  obtain ⟨hwindow, hpos, hle⟩ := hbuilt.window
  obtain ⟨text, htext, hcounts⟩ := Oracle.counts_of_measure hgiven himages
  refine ⟨hbuilt.counts_prompt hne himages, ⟨tools, text, htools, htext, hcounts⟩, size, hwindow,
    hpos, hle, ?_⟩
  intro hfits
  rw [hexceeded, decide_eq_false_iff_not] at hfits
  exact Int.not_lt.mp hfits

def sampleBuilder : Builder where
  model := { contextLength := 12 }
  template.render scene := .ok (.join (scene.messages.map fun m =>
    match m.content with
    | .text text => text
    | _ => ""))
  tokenizer.tokenize text := .ok (text.split.map .text)
  config := { Config.standard with
    quantum := 1, floor := 1, quantum_pos := Nat.one_pos, floor_pos := Nat.one_pos }
  logReports := false

def sampleRequest : PromptRequest where
  messages := [.ofText .user "one", .ofText .assistant "twelve", .ofText .user "three"]

theorem build_fits_sampleRequest :
    sampleRequest.messages ≠ [] ∧ (∀ m ∈ sampleRequest.messages, m.images = []) ∧
      ∃ c q, (sampleBuilder.build sampleRequest).run {} = (.ok c, q) ∧
        c.prompt = "one...three" ∧ c.report.exceeded = false ∧
        sampleBuilder.tokenizer.Counts c.prompt c.report.finalTokens ∧
        ∃ size : Int, c.window.tokens = .int size ∧ size ≤ 12 ∧ c.report.finalTokens ≤ size := by
  have hne : sampleRequest.messages ≠ [] := by decide
  have himages : ∀ m ∈ sampleRequest.messages, m.images = [] := by decide
  obtain ⟨c, q, hrun, hprompt, hfits⟩ : ∃ c q,
      (sampleBuilder.build sampleRequest).run {} = (.ok c, q) ∧ c.prompt = "one...three" ∧
        c.report.exceeded = false := ⟨_, _, rfl, rfl, rfl⟩
  obtain ⟨hcounts, -, size, hwindow, -, hle, hsize⟩ :=
    build_fits sampleBuilder sampleRequest {} q c hne himages hrun
  exact ⟨hne, himages, c, q, hrun, hprompt, hfits, hcounts, size, hwindow, hle, hsize hfits⟩

end Builder

end ChatWindow
