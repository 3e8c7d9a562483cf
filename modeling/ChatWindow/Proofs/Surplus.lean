import ChatWindow.Proofs.Markup
import ChatWindow.Proofs.Words
import ChatWindow.Template.Named
import ChatWindow.Tokenizer.Function

/-!
# What a message adds to the cost

A template that writes a block for each message, and ends every block with a blank, has texts whose
blocks are counted apart, in words as in characters. So a message adds the same to the cost of any
conversation and at any place of it, and never less than nothing.
-/

namespace ChatWindow

/-- A count to which a text that ends with a blank adds its own count, whatever follows it. -/
structure CountsApart (count : List Code → Nat) : Prop where
  append : ∀ {cs}, Text.Closed Code.isBlank cs →
    ∀ after, count (cs ++ after) = count cs + count after

theorem countsApart_words : CountsApart fun cs => (Text.words Code.isBlank cs).length where
  append h after := by rw [h.words_append, List.length_append]

theorem countsApart_length : CountsApart List.length where
  append _ _ := List.length_append

def Tokenizer.CountsBy (t : Tokenizer) (count : List Code → Nat) : Prop :=
  ∀ text, ∃ tokens, t.tokenize text = .ok tokens ∧ tokens.length = count text.codes

namespace Tokenizer

theorem countsBy_words : words.CountsBy fun cs => (Text.words Code.isBlank cs).length := by
  intro text
  refine ⟨_, rfl, ?_⟩
  rw [numbered, List.length_map, List.length_range]

theorem countsBy_chars : chars.CountsBy List.length :=
  fun _ => ⟨_, rfl, List.length_map _⟩

end Tokenizer

/-- What a template writes: a head for the tools, a block for each message and an end. Head and
blocks may fail, and end with a blank. -/
structure Blocks where
  head : List Value → Except Failure (List Code)
  block : Message → Except Failure (List Code)
  ending : Bool → Bool → List Code
  closed_head : ∀ {tools cs}, head tools = .ok cs → Text.Closed Code.isBlank cs
  closed_block : ∀ {m cs}, block m = .ok cs → Text.Closed Code.isBlank cs

def Blocks.Written (b : Blocks) (t : Template) : Prop :=
  ∀ s text, t.render s = .ok text ↔ ∃ head blocks, b.head s.tools = .ok head ∧
    s.messages.mapM b.block = .ok blocks ∧
    text.codes = head ++ blocks.flatten ++ b.ending s.think s.thinkSet

theorem Blocks.closed_blocks (b : Blocks) {messages : List Message} {blocks : List (List Code)}
    (h : messages.mapM b.block = .ok blocks) : Text.Closed Code.isBlank blocks.flatten := by
  apply Text.closed_flatten
  intro cs hcs
  obtain ⟨m, -, hm⟩ := exists_related_of_mem (List.Forall₂.flip (mapM_eq_ok.mp h)) hcs
  exact b.closed_block hm

namespace Markup

theorem closed_endSign (before : List Code) : Text.Closed Code.isBlank (before ++ endSign) := by
  have hsign : endSign = Text.codes "<|im_end|>" ++ [.char '\n'] := rfl
  rw [hsign, ← List.append_assoc]
  exact Text.closed_concat _ rfl

def blocks : Blocks where
  head := tools
  block := message
  ending think thinkSet := closing ⟨[], [], think, thinkSet⟩
  closed_head := by
    intro definitions cs h
    obtain ⟨-, rfl⟩ := tools_eq_ok.mp h
    rw [toolBlock]
    split
    · exact Text.closed_nil
    · exact closed_endSign _
  closed_block := by
    intro m cs h
    obtain ⟨-, rfl⟩ := message_eq_ok.mp h
    exact closed_endSign _

theorem written_blocks : blocks.Written (.named "chatml" render) := by
  intro s text
  simp only [Template.named, mapError_eq_ok, render, Functor.map, map_eq_ok, renderCodes,
    bind_eq_ok]
  constructor
  · rintro ⟨_, ⟨head, hhead, bodies, hbodies, ⟨⟩⟩, rfl⟩
    exact ⟨head, bodies, hhead, hbodies, Text.codes_ofCodes _⟩
  · rintro ⟨head, bodies, hhead, hbodies, htext⟩
    refine ⟨_, ⟨head, hhead, bodies, hbodies, rfl⟩, ?_⟩
    rw [← Text.ofCodes_codes text, htext]
    rfl

end Markup

namespace Template

def lines : Blocks where
  head _ := .ok []
  block m := .ok (line m).codes
  ending _ _ := []
  closed_head := by
    rintro tools cs ⟨⟩
    exact Text.closed_nil
  closed_block := by
    rintro m cs ⟨⟩
    rw [line, Text.codes_append]
    exact Text.closed_concat _ rfl

theorem written_lines : lines.Written (.named "plain" plain) := by
  intro s text
  simp only [named, mapError_eq_ok, plain, lines, mapM_ok, Except.ok.injEq]
  rw [← Text.codes_inj, Text.codes_join, List.flatMap_map]
  constructor
  · intro h
    refine ⟨[], _, rfl, rfl, ?_⟩
    rw [← h, List.append_nil, List.nil_append, List.flatMap_def]
  · rintro ⟨_, _, rfl, rfl, htext⟩
    rw [htext, List.append_nil, List.nil_append, List.flatMap_def]

end Template

structure Blocks.Complete (b : Blocks) : Prop where
  head : ∀ {tools}, (∀ v ∈ tools, Json.plain v = true) → ∃ cs, b.head tools = .ok cs
  block : ∀ {m : Message}, m.Embeddable → ∃ cs, b.block m = .ok cs

theorem Template.complete_lines : lines.Complete := ⟨fun _ => ⟨_, rfl⟩, fun _ => ⟨_, rfl⟩⟩

namespace Markup

theorem complete_blocks : blocks.Complete where
  head h := ⟨_, tools_eq_ok.mpr ⟨h, rfl⟩⟩
  block h := ⟨_, message_eq_ok.mpr ⟨h, rfl⟩⟩

end Markup

namespace Oracle

variable {o : Oracle} {b : Blocks} {count : List Code → Nat}

theorem imageCost_append (o : Oracle) (messages others : List Message) :
    o.imageCost (messages ++ others) = o.imageCost messages + o.imageCost others := by
  rw [imageCost, imageCost, imageCost, imageCount_eq_length, imageCount_eq_length,
    imageCount_eq_length, List.flatMap_append, List.length_append, Int.natCast_add]
  split
  · rw [Int.mul_add]
  · rfl

theorem measure_eq_sum (hb : b.Written o.template) (hcounts : o.tokenizer.CountsBy count)
    (hcount : CountsApart count) {messages : List Message} {n : Int} :
    o.measure messages = .ok n ↔ ∃ head blocks, b.head o.tools = .ok head ∧
      messages.mapM b.block = .ok blocks ∧
      n = (count head + count blocks.flatten +
        count (b.ending (o.think.getD false) o.think.isSome) : Nat) + o.imageCost messages := by
  -- Head and blocks end with a blank, so that they are counted apart from what follows.
  have hsum : ∀ {head blocks}, b.head o.tools = .ok head → messages.mapM b.block = .ok blocks →
      count (head ++ blocks.flatten ++ b.ending (o.think.getD false) o.think.isSome) =
        count head + count blocks.flatten +
          count (b.ending (o.think.getD false) o.think.isSome) := by
    intro head blocks hhead hblocks
    rw [List.append_assoc, hcount.append (b.closed_head hhead),
      hcount.append (b.closed_blocks hblocks), Nat.add_assoc]
  rw [measure_eq_ok]
  constructor
  · rintro ⟨text, tokens, htext, htokens, rfl⟩
    obtain ⟨head, blocks, hhead, hblocks, hchars⟩ := (hb _ _).mp htext
    obtain ⟨_, htokens', hlength⟩ := hcounts text
    cases htokens.symm.trans htokens'
    refine ⟨head, blocks, hhead, hblocks, ?_⟩
    rw [hlength, hchars]
    exact congrArg (fun k : Nat => (k : Int) + o.imageCost messages) (hsum hhead hblocks)
  · rintro ⟨head, blocks, hhead, hblocks, rfl⟩
    obtain ⟨tokens, htokens, hlength⟩ := hcounts (.ofCodes
      (head ++ blocks.flatten ++ b.ending (o.think.getD false) o.think.isSome))
    have hrender := (hb (o.scene messages) _).mpr
      ⟨head, blocks, hhead, hblocks, Text.codes_ofCodes _⟩
    refine ⟨_, tokens, hrender, htokens, ?_⟩
    rw [hlength, Text.codes_ofCodes, hsum hhead hblocks]

def surplus (o : Oracle) (b : Blocks) (count : List Code → Nat) (m : Message) : Int :=
  (match b.block m with
    | .ok cs => count cs
    | .error _ => 0) + o.imageCost [m]

theorem surplus_nonneg (himages : 0 ≤ o.tokensPerImage) (m : Message) :
    0 ≤ o.surplus b count m := by
  have hcost : 0 ≤ o.imageCost [m] := by
    rw [imageCost]
    split
    · exact Int.mul_nonneg himages (Int.natCast_nonneg _)
    · exact Int.le_refl 0
  have hblock : 0 ≤ o.surplus b count m - o.imageCost [m] := by
    rw [surplus, Int.add_sub_cancel]
    split
    · exact Int.natCast_nonneg _
    · exact Int.le_refl 0
  omega

theorem measure_insert_eq_ok (hb : b.Written o.template) (hcounts : o.tokenizer.CountsBy count)
    (hcount : CountsApart count) {before after : List Message} {m : Message} {n : Int} :
    o.measure (before ++ [m] ++ after) = .ok n ↔ (∃ cs, b.block m = .ok cs) ∧
      o.measure (before ++ after) = .ok (n - o.surplus b count m) := by
  have hcost : o.imageCost (before ++ [m] ++ after) =
      o.imageCost (before ++ after) + o.imageCost [m] := by
    simp only [imageCost_append]
    omega
  have hbefore : ∀ {xs}, before.mapM b.block = .ok xs → ∀ ys,
      count (xs ++ ys).flatten = count xs.flatten + count ys.flatten := by
    intro xs hxs ys
    rw [List.flatten_append, hcount.append (b.closed_blocks hxs)]
  -- The blocks in front are closed, so the new one adds its own count wherever it stands.
  have hinsert : ∀ {xs cs}, before.mapM b.block = .ok xs → b.block m = .ok cs → ∀ ys,
      count (xs ++ [cs] ++ ys).flatten = count (xs ++ ys).flatten + count cs := by
    intro xs cs hxs hm ys
    rw [List.append_assoc, hbefore hxs, hbefore hxs, List.singleton_append, List.flatten_cons,
      hcount.append (b.closed_block hm)]
    omega
  simp only [measure_eq_sum hb hcounts hcount, mapM_append_eq_ok, mapM_singleton_eq_ok, hcost]
  constructor
  · rintro ⟨head, _, hhead, ⟨_, ys, ⟨xs, _, hxs, ⟨cs, hm, rfl⟩, rfl⟩, hys, rfl⟩, rfl⟩
    refine ⟨⟨cs, hm⟩, head, _, hhead, ⟨xs, ys, hxs, hys, rfl⟩, ?_⟩
    simp only [surplus, hm, hinsert hxs hm ys]
    omega
  · rintro ⟨⟨cs, hm⟩, head, _, hhead, ⟨xs, ys, hxs, hys, rfl⟩, hn⟩
    refine ⟨head, _, hhead, ⟨_, ys, ⟨xs, _, hxs, ⟨cs, hm, rfl⟩, rfl⟩, hys, rfl⟩, ?_⟩
    simp only [surplus, hm] at hn
    simp only [hinsert hxs hm ys]
    omega

theorem exists_measure (hb : b.Written o.template) (hcomplete : b.Complete)
    (hcounts : o.tokenizer.CountsBy count) (hcount : CountsApart count)
    (htools : ∀ v ∈ o.tools, Json.plain v = true) (messages : List Message)
    (h : ∀ m ∈ messages, m.Embeddable) : ∃ n, o.measure messages = .ok n := by
  obtain ⟨head, hhead⟩ := hcomplete.head htools
  obtain ⟨blocks, hblocks⟩ := exists_mapM_ok fun m hm => hcomplete.block (h m hm)
  exact ⟨_, (measure_eq_sum hb hcounts hcount).mpr ⟨head, blocks, hhead, hblocks, rfl⟩⟩

theorem exists_blocks (h : o.template = .named "chatml" Markup.render ∨
    o.template = .named "plain" Template.plain) :
    ∃ b : Blocks, b.Written o.template ∧ b.Complete := by
  rcases h with h | h
  · exact ⟨Markup.blocks, h ▸ Markup.written_blocks, Markup.complete_blocks⟩
  · exact ⟨Template.lines, h ▸ Template.written_lines, Template.complete_lines⟩

theorem exists_count (h : o.tokenizer = .words ∨ o.tokenizer = .chars) :
    ∃ count, o.tokenizer.CountsBy count ∧ CountsApart count := by
  rcases h with h | h
  · exact ⟨_, h ▸ Tokenizer.countsBy_words, countsApart_words⟩
  · exact ⟨_, h ▸ Tokenizer.countsBy_chars, countsApart_length⟩

/-- With the chat markup or the plain template, counted in words or characters, a message adds to
the cost of a conversation what depends on nothing but the message, and never less than nothing:
where it is put in, the cost is larger by that. What can be written as JSON is always measured. -/
theorem measure_insert
    (htemplate : o.template = .named "chatml" Markup.render ∨
      o.template = .named "plain" Template.plain)
    (htokenizer : o.tokenizer = .words ∨ o.tokenizer = .chars) (himages : 0 ≤ o.tokensPerImage) :
    (∃ surplus : Message → Int, ∀ m, 0 ≤ surplus m ∧ ∀ before after,
      (∀ n, o.measure (before ++ [m] ++ after) = .ok n →
        o.measure (before ++ after) = .ok (n - surplus m)) ∧
      ∀ n, m.Embeddable → o.measure (before ++ after) = .ok n →
        o.measure (before ++ [m] ++ after) = .ok (n + surplus m)) ∧
    ∀ messages, (∀ v ∈ o.tools, Json.plain v = true) → (∀ m ∈ messages, m.Embeddable) →
      ∃ n, o.measure messages = .ok n := by
  obtain ⟨b, hb, hcomplete⟩ := exists_blocks htemplate
  obtain ⟨count, hcounts, hcount⟩ := exists_count htokenizer
  refine ⟨⟨o.surplus b count, fun m => ⟨surplus_nonneg himages m, fun before after =>
    ⟨fun n hn => ?_, fun n hm hn => ?_⟩⟩⟩, fun messages htools =>
    exists_measure hb hcomplete hcounts hcount htools messages⟩
  · exact ((measure_insert_eq_ok hb hcounts hcount).mp hn).2
  · refine (measure_insert_eq_ok hb hcounts hcount).mpr ⟨hcomplete.block hm, ?_⟩
    rw [Int.add_sub_cancel]
    exact hn

def silentAnswer : Message where
  role := .assistant
  content := .text " \u2028"
  images := [.bytes [0]]
  toolCalls := [⟨.text "stop", .record [], .null⟩]
  toolName := .null

def countingOracle : Oracle where
  template := .named "chatml" Markup.render
  tokenizer := .words
  multimodal := true
  tokensPerImage := 3

theorem measure_insert_countingOracle : ∃ k, 0 ≤ k ∧
    countingOracle.measure ([.ofText .user "one"] ++ [silentAnswer] ++ [.ofText .user "two"]) =
      .ok (5 + k) ∧
    countingOracle.measure ([.ofText .user "one"] ++ [.ofText .user "two"]) = .ok 5 := by
  have htwo : countingOracle.measure ([.ofText .user "one"] ++ [.ofText .user "two"]) = .ok 5 := rfl
  obtain ⟨⟨surplus, hsurplus⟩, -⟩ :=
    measure_insert (o := countingOracle) (.inl rfl) (.inl rfl) (by decide)
  obtain ⟨hnonneg, hinsert⟩ := hsurplus silentAnswer
  have hembeddable : silentAnswer.Embeddable := by
    simp [Message.Embeddable, silentAnswer, Json.plain, Json.plainFields]
  exact ⟨surplus silentAnswer, hnonneg, (hinsert _ _).2 5 hembeddable htwo, htwo⟩

end Oracle

end ChatWindow
