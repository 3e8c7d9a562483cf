import ChatWindow.Proofs.Build
import ChatWindow.Proofs.Tags

/-!
# Images on their way into a prompt

Naming the images of messages changes texts and nothing else, and the images that come out are those
of the messages in their order, numbered from zero. So a prompt has the images of the messages that
were selected: they stand at positions that differ, and a marker that was put in has none.
-/

namespace ChatWindow

namespace Image

/-- All but the text is as it was, and without images the text as well. -/
structure Retold (m m' : Message) : Prop where
  role : m'.role = m.role
  images : m'.images = m.images
  toolCalls : m'.toolCalls = m.toolCalls
  toolName : m'.toolName = m.toolName
  content : m.images = [] → m'.content = m.content

structure Delivered (messages named : List Message) (images : List Tagged) : Prop where
  retold : List.Forall₂ Retold messages named
  ids : images.map Tagged.id = List.range (imageCount messages)
  data : images.map Tagged.data = messages.flatMap fun m => m.images

section
variable {placeholder : List Code} {tagOf : Nat → Except Failure (List Code)} {id : Nat}
  {m m' : Message} {messages named : List Message} {images : List Tagged}

theorem Retold.refl (m : Message) : Retold m m := ⟨rfl, rfl, rfl, rfl, fun _ => rfl⟩

theorem retold_of_tagMessage (h : tagMessage placeholder tagOf id m = .ok m') :
    Retold m m' := by
  rw [tagMessage.eq_def] at h
  split at h
  · cases h
    exact .refl m
  · next hsome =>
    obtain ⟨d, -, h⟩ := bind_eq_ok.mp h
    cases h
    exact ⟨rfl, rfl, rfl, rfl, fun hnone => absurd hnone hsome⟩
  · obtain ⟨_, -, h⟩ := bind_eq_ok.mp h
    cases h

theorem retold_of_tagFrom (h : tagFrom placeholder tagOf id messages = .ok named) :
    List.Forall₂ Retold messages named := by
  induction messages generalizing id named with
  | nil =>
    cases h
    exact .nil
  | cons m messages ih =>
    obtain ⟨m', hm', h⟩ := bind_eq_ok.mp h
    obtain ⟨others, hothers, h⟩ := bind_eq_ok.mp h
    cases h
    exact .cons (retold_of_tagMessage hm') (ih hothers)

theorem delivered_of_assignBy (h : assignBy placeholder tagOf messages = .ok (named, images)) :
    Delivered messages named images := by
  have himages := images_of_assignBy h
  obtain ⟨tagged, htagged, heq⟩ := bind_eq_ok.mp h
  cases heq
  exact ⟨retold_of_tagFrom htagged, map_id_collect messages, map_data_collect messages⟩

end

end Image

def imagesAt (messages : List Message) (i : Nat) : List Value :=
  messages[i]?.elim [] fun m => m.images

theorem Arrangement.flatMap_images {messages kept : List Message} {sources : List (Option Nat)}
    (h : Arrangement messages sources kept) :
    (kept.flatMap fun m => m.images) = (sources.filterMap id).flatMap (imagesAt messages) := by
  have hall := h.sourced
  clear h
  induction hall with
  | nil => rfl
  | @cons source m _ _ hsource _ ih =>
    rw [List.flatMap_cons, ih]
    cases source with
    | none =>
      rw [Sourced] at hsource
      rw [hsource]
      rfl
    | some i =>
      rw [Sourced] at hsource
      have hat : imagesAt messages i = m.images := by
        rw [imagesAt, hsource]
        rfl
      simp [hat]

/-- Where there is a tag for every image, whatever it is made by, and the messages with images have
texts, the images are named. What was named has kept all but texts, and its images are all that
there are, in order. A prompt that is built so has the images of the messages that were selected for
it, and of no others. -/
theorem images_delivered :
    (∀ (placeholder : List Code) (tagOf : Nat → Except Failure (List Code))
        (messages : List Message),
      ((∀ m ∈ messages, m.images ≠ [] → ∃ s, m.content = .text s) →
        Image.Formats tagOf 0 (imageCount messages) →
        ∃ named, Image.assignBy placeholder tagOf messages = .ok named) ∧
      ∀ named images, Image.assignBy placeholder tagOf messages = .ok (named, images) →
        Image.Delivered messages named images) ∧
    ∀ (b : Builder) (r : PromptRequest) (p q : Progress) (c : ChatPrompt),
      (b.build r).run p = (.ok c, q) →
      ∃ o length size s, Builder.Built b r c o length size s ∧
        Arrangement r.messages s.sources s.messages ∧
        Image.Delivered s.messages c.messages c.images ∧
        c.images.map Image.Tagged.data =
          (s.sources.filterMap id).flatMap (imagesAt r.messages) := by
  refine ⟨fun placeholder tagOf messages => ⟨fun htexts hformats => ?_, fun _ _ => ?_⟩,
    fun b r p q c hrun => ?_⟩
  · exact Image.exists_assignBy hformats placeholder htexts
  · exact Image.delivered_of_assignBy
  · obtain ⟨o, length, size, s, hbuilt⟩ := Builder.exists_built hrun
    have hdelivered := Image.delivered_of_assignBy hbuilt.named
    refine ⟨o, length, size, s, hbuilt, hbuilt.arrangement, hdelivered, ?_⟩
    rw [hdelivered.data, hbuilt.arrangement.flatMap_images]

def albumRequest : PromptRequest where
  messages :=
    [{ Message.ofText .user "one" with images := [.bytes [1]] },
      { Message.ofText .assistant "twelve" with images := [.bytes [2]] },
      { Message.ofText .user "three" with images := [.bytes [3], .bytes [4]] }]

theorem images_delivered_albumRequest :
    (∃ named images, Image.assign defaultPlaceholder defaultTagFormat albumRequest.messages =
        .ok (named, images) ∧ Image.Delivered albumRequest.messages named images) ∧
      ∃ c q, (Builder.sampleBuilder.build albumRequest).run {} = (.ok c, q) ∧
        c.prompt = "[img-0]one...[img-1][img-2]three" ∧
        c.images.map Image.Tagged.data = [.bytes [1], .bytes [3], .bytes [4]] ∧
        ∃ s : Selection, Arrangement albumRequest.messages s.sources s.messages ∧
          Image.Delivered s.messages c.messages c.images := by
  have htexts : ∀ m ∈ albumRequest.messages, m.images ≠ [] → ∃ s, m.content = .text s := by
    simp [albumRequest, Message.ofText]
  have hformats : Image.Formats (Image.tag defaultTagFormat) 0
      (imageCount albumRequest.messages) := fun id _ _ => Image.tagging_default.exists_tag id
  obtain ⟨hnamed, hdelivered⟩ := images_delivered.1 (Text.codes defaultPlaceholder)
    (Image.tag defaultTagFormat) albumRequest.messages
  obtain ⟨⟨named, images⟩, hassign⟩ := hnamed htexts hformats
  obtain ⟨c, q, hrun, hprompt, himages⟩ : ∃ c q,
      (Builder.sampleBuilder.build albumRequest).run {} = (.ok c, q) ∧
        c.prompt = "[img-0]one...[img-1][img-2]three" ∧
        c.images.map Image.Tagged.data = [.bytes [1], .bytes [3], .bytes [4]] :=
    ⟨_, _, rfl, rfl, rfl⟩
  obtain ⟨o, length, size, s, -, harranged, hselected, -⟩ :=
    images_delivered.2 Builder.sampleBuilder albumRequest {} q c hrun
  exact ⟨⟨named, images, hassign, hdelivered named images hassign⟩, c, q, hrun, hprompt, himages,
    s, harranged, hselected⟩

end ChatWindow
