import ChatWindow.Proofs.Build
import ChatWindow.Template.Named
import ChatWindow.Tokenizer.Function

/-!
# Prompts with images

The messages are selected before their images are named, so what is fitted into the window is the
text without the tags. The tags of the prompt itself come on top of that: it fits the window only if
they add no more tokens than are left.
-/

namespace ChatWindow.Builder

variable {b : Builder} {r : PromptRequest} {c : ChatPrompt} {o : Oracle} {length size : Int}
  {s : Selection}

/-- What a prompt was fitted as: its messages before their images got a name. -/
structure Unnamed (b : Builder) (c : ChatPrompt) (o : Oracle) (kept : List Message)
    (n : Int) : Prop where
  named : Image.assign b.config.placeholder b.config.tagFormat kept = .ok (c.messages, c.images)
  counts : ∃ text, o.template.render (o.scene kept) = .ok text ∧ o.tokenizer.Counts text n
  rendered : o.template.render (o.scene c.messages) = .ok c.prompt
  finalTokens : c.report.finalTokens = n + b.config.tokensPerImage * c.images.length

theorem Built.imageCost_eq (h : Built b r c o length size s)
    (hprojector : b.model.hasProjector = true) :
    o.imageCost s.messages = b.config.tokensPerImage * c.images.length := by
  obtain ⟨tools, -, rfl⟩ := h.oracle
  rw [Image.images_of_assignBy h.named, Image.length_collect, Oracle.imageCost]
  exact if_pos hprojector

theorem Built.exists_unnamed (h : Built b r c o length size s) (hne : r.messages ≠ [])
    (hprojector : b.model.hasProjector = true) : ∃ n, Unnamed b c o s.messages n := by
  obtain ⟨text, n, htext, hcounts, hn⟩ :=
    Oracle.exists_counts_of_measure (h.report_measured hne).2.1
  rw [h.imageCost_eq hprojector] at hn
  exact ⟨n, h.named, ⟨text, htext, hcounts⟩, h.template_render hne, hn⟩

/-- A prompt that is not reported to exceed its window was fitted into it without the tags of its
images. With them it fits exactly if they add no more tokens than were left. -/
theorem build_fits_unnamed (b : Builder) (r : PromptRequest) (p q : Progress) (c : ChatPrompt)
    (hne : r.messages ≠ []) (hprojector : b.model.hasProjector = true)
    (h : (b.build r).run p = (.ok c, q)) :
    ∃ tools sources kept, ∃ n size : Int, r.tools.items = .ok tools ∧
      Arrangement r.messages sources kept ∧
      Unnamed b c (b.oracle tools r.think) kept n ∧ c.window.tokens = .int size ∧
      (c.exceeded = false → n + b.config.tokensPerImage * c.images.length ≤ size) ∧
      ∀ m, b.tokenizer.Counts c.prompt m →
        (m + b.config.tokensPerImage * c.images.length ≤ size ↔
          m - n ≤ size - c.report.finalTokens) := by
  obtain ⟨o, length, size, s, hbuilt⟩ := exists_built h
  obtain ⟨tools, htools, rfl⟩ := hbuilt.oracle
  obtain ⟨-, -, hexceeded⟩ := hbuilt.report_measured hne
  obtain ⟨n, hunnamed⟩ := hbuilt.exists_unnamed hne hprojector
  refine ⟨tools, s.sources, s.messages, n, size, htools, hbuilt.arrangement, hunnamed,
    hbuilt.window.1, fun hfits => ?_, fun m _ => ?_⟩
  · rw [ChatPrompt.exceeded, Bool.or_eq_false_iff, hexceeded, decide_eq_false_iff_not,
      hunnamed.finalTokens] at hfits
    exact Int.not_lt.mp hfits.2
  · rw [hunnamed.finalTokens]
    omega

def portraitBuilder : Builder where
  model := { contextLength := 775, hasProjector := true }
  template := Template.named "plain" Template.plain
  tokenizer := Tokenizer.chars
  config := Config.standard
  logReports := false

def portraitRequest : PromptRequest where
  messages := [{ Message.ofText .user "look" with images := [.bytes [0]] }]

theorem build_fits_unnamed_portraitRequest :
    portraitRequest.messages ≠ [] ∧ portraitBuilder.model.hasProjector = true ∧
      ∃ c q, (portraitBuilder.build portraitRequest).run {} = (.ok c, q) ∧ c.exceeded = false ∧
        ∃ n : Int, n + 768 ≤ 775 ∧ c.report.finalTokens = n + 768 ∧
          ∀ m, portraitBuilder.tokenizer.Counts c.prompt m → (m + 768 ≤ 775 ↔ m ≤ n + 2) := by
  have hne : portraitRequest.messages ≠ [] := by decide
  have hprojector : portraitBuilder.model.hasProjector = true := rfl
  obtain ⟨c, q, hrun, hfits, hwindow, himages, htokens⟩ : ∃ c q,
      (portraitBuilder.build portraitRequest).run {} = (.ok c, q) ∧ c.exceeded = false ∧
        c.window.tokens = .int 775 ∧ c.images.length = 1 ∧ c.report.finalTokens = 773 :=
    ⟨_, _, rfl, rfl, rfl, rfl, rfl⟩
  obtain ⟨_, _, _, n, size, -, -, hunnamed, hsize, hroom, hnamed⟩ :=
    build_fits_unnamed portraitBuilder portraitRequest {} q c hne hprojector hrun
  have hcost : (portraitBuilder.config.tokensPerImage : Int) * c.images.length = 768 := by
    rw [himages]
    rfl
  have hfinal := hunnamed.finalTokens
  rw [hwindow] at hsize
  cases hsize
  rw [hcost] at hfinal hroom hnamed
  rw [htokens] at hnamed
  refine ⟨hne, hprojector, c, q, hrun, hfits, n, hroom hfits, hfinal, fun m hm => ?_⟩
  rw [hnamed m hm]
  omega

/-- The tag takes seven. So the prompt is five tokens too long, and is reported to fit. -/
theorem build_overruns_portraitRequest :
    ∃ c q, (portraitBuilder.build portraitRequest).run {} = (.ok c, q) ∧
      c.prompt = "[img-0]look\n" ∧ c.exceeded = false ∧ c.window.tokens = .int 775 ∧
      portraitBuilder.tokenizer.Counts c.prompt 12 ∧
      (775 : Int) < 12 + portraitBuilder.config.tokensPerImage * c.images.length :=
  ⟨_, _, rfl, rfl, rfl, rfl, ⟨_, rfl, rfl⟩, by decide⟩

end ChatWindow.Builder
