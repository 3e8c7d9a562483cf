import ChatWindow.Proofs.Pieces
import ChatWindow.Proofs.Tags

/-!
# Tags in the places of placeholders

The images of a message are named one after the other, each in the text that the last one has left.
The outcome is that of putting in all tags at once, as long as a tag that was put in forms no new
placeholder with the text around it. The tags that are used unless others are set form none.
-/

namespace ChatWindow.Image

open Text (Inert Parted Passed)

/-- The parts that follow, each behind a tag, or behind the placeholder where the tags are used
up. -/
def weave (placeholder : List Code) : List (List Code) → List (List Code) → List Code
  | _, [] => []
  | [], part :: parts => placeholder ++ part ++ weave placeholder [] parts
  | tag :: tags, part :: parts => tag ++ part ++ weave placeholder tags parts

def substituted (placeholder : List Code) (tags : List (List Code)) (part : List Code)
    (others : List (List Code)) : List Code :=
  (tags.drop others.length).flatten ++ (part ++ weave placeholder tags others)

def tagsFrom (tag : Nat → List Code) (id count : Nat) : List (List Code) :=
  (List.range' id count).map tag

/-- The message that comes out, where the images are numbered from this id: only its text has
changed, and all its tags are put in at once. -/
def Substituted (placeholder : List Code) (tag : Nat → List Code) (id : Nat) (m m' : Message) :
    Prop :=
  (m.images = [] → m' = m) ∧
    ∀ s, m.content = .text s →
      (∃ part others, Parted placeholder s.codes part others) ∧
      ∀ part others, Parted placeholder s.codes part others →
        m' = m.withContent (.text (.ofCodes
          (substituted placeholder (tagsFrom tag id m.images.length) part others)))

/-- The format gives every id this tag, and none forms a new placeholder with the text around it. -/
structure Names (placeholder : List Code) (tagOf : Nat → Except Failure (List Code))
    (tag : Nat → List Code) : Prop where
  placeholder_ne : placeholder ≠ []
  format : ∀ id, tagOf id = .ok (tag id)
  inert : ∀ id, Inert placeholder (tag id)

variable {placeholder text part front : List Code} {others : List (List Code)}
  {tagOf : Nat → Except Failure (List Code)} {tag : Nat → List Code}

theorem tagsFrom_zero (tag : Nat → List Code) (id : Nat) : tagsFrom tag id 0 = [] := rfl

theorem tagsFrom_succ (tag : Nat → List Code) (id count : Nat) :
    tagsFrom tag id (count + 1) = tag id :: tagsFrom tag (id + 1) count := by
  rw [tagsFrom, List.range'_succ, List.map_cons, tagsFrom]

theorem weave_of_parted (h : Parted placeholder text part others) :
    part ++ weave placeholder [] others = text := by
  induction h with
  | alone => rw [weave, List.append_nil]
  | behind _ _ ih => rw [weave, List.append_assoc, ih, List.append_assoc]

theorem substituted_nil (h : Parted placeholder text part others) :
    substituted placeholder [] part others = text := by
  rw [substituted, List.drop_nil, List.flatten_nil, List.nil_append, weave_of_parted h]

theorem Draft.place_of_none (h : Parted placeholder text part []) (tag : List Code) :
    Draft.place placeholder tag ⟨front, text⟩ = ⟨front ++ tag, text⟩ := by
  simp only [Draft.place, h.cut?_eq_none]

theorem Draft.place_of_parted {tag next : List Code} (htag : Inert placeholder tag)
    (h : Parted placeholder text part (next :: others)) :
    ∃ text', Draft.place placeholder tag ⟨front, text⟩ = ⟨front, text'⟩ ∧
      Parted placeholder text' (part ++ tag ++ next) others := by
  cases h with
  | @behind rest _ _ _ hpart hrest =>
    refine ⟨part ++ tag ++ rest, ?_, (htag part hpart).parted hrest⟩
    simp only [Draft.place, Text.cut?_append hpart]

namespace Names

variable (h : Names placeholder tagOf tag)
include h

theorem placeAll_eq (front : List Code) (id : Nat) (images : List Value)
    (hparted : Parted placeholder text part others) :
    placeAll placeholder tagOf id images ⟨front, text⟩ =
      .ok ⟨front ++ ((tagsFrom tag id images.length).drop others.length).flatten,
        part ++ weave placeholder (tagsFrom tag id images.length) others⟩ := by
  -- Each image takes the first place, and the parts that stay are those of the rest.
  induction images generalizing id front text part others with
  | nil =>
    rw [placeAll, List.length_nil, tagsFrom_zero, List.drop_nil, List.flatten_nil,
      List.append_nil, weave_of_parted hparted]
  | cons image images ih =>
    rw [placeAll, h.format, List.length_cons, tagsFrom_succ]
    change placeAll placeholder tagOf (id + 1) images _ = _
    cases others with
    | nil =>
      rw [Draft.place_of_none hparted, ih _ (id + 1) hparted]
      simp [weave]
    | cons next others =>
      obtain ⟨text', hplace, hparted'⟩ := Draft.place_of_parted (h.inert id) hparted
      rw [hplace, ih _ (id + 1) hparted']
      simp [weave]

theorem tagMessage_eq (id : Nat) {m : Message} {s : Text} (hs : m.content = .text s)
    (hparted : Parted placeholder s.codes part others) :
    tagMessage placeholder tagOf id m = .ok (m.withContent (.text (.ofCodes
      (substituted placeholder (tagsFrom tag id m.images.length) part others)))) := by
  rw [tagMessage.eq_def, hs]
  have hplace := h.placeAll_eq [] id m.images hparted
  cases hi : m.images with
  | nil =>
    rw [List.length_nil, tagsFrom_zero, substituted_nil hparted, Text.ofCodes_codes, ← hs]
    rfl
  | cons image images =>
    rw [hi] at hplace
    dsimp only
    rw [hplace]
    rfl

theorem substituted_of_tagMessage {id : Nat} {m m' : Message}
    (hm : tagMessage placeholder tagOf id m = .ok m') :
    Substituted placeholder tag id m m' := by
  refine ⟨fun hi => ?_, fun s hs => ⟨Text.exists_parted h.placeholder_ne _, ?_⟩⟩
  · rw [tagMessage, hi] at hm
    cases hm
    rfl
  · intro part others hparted
    rw [h.tagMessage_eq id hs hparted] at hm
    cases hm
    rfl

end Names

def defaultTag (id : Nat) : List Code :=
  (['[', 'i', 'm', 'g', '-'] ++ (TagFormat.digits id ++ [']'])).map .char

theorem passed_defaultTag (id : Nat) :
    Passed (['[', 'i', 'm', 'g', ']'].map Code.char) (defaultTag id) := by
  have hdigits : '[' ∉ TagFormat.digits id := by
    intro hmem
    have hdigit : Char.isDigit '[' = true :=
      Nat.isDigit_of_mem_toDigits (by decide) (by decide) hmem
    exact absurd hdigit (by decide)
  refine .cons (fun rest hprefix => ?_) (.of_notMem ?_)
  · simp at hprefix
  · simpa using hdigits

theorem names_default : Names (Text.codes defaultPlaceholder) (Image.tag defaultTagFormat)
    defaultTag where
  placeholder_ne := by decide
  format id := tag_eq_ok (format_default id)
  inert id := Text.inert_of_head_notMem (passed_defaultTag id) (by decide)

/-- Naming images with the placeholder and the tags that are used unless others are set puts all
tags in at once: in every message the placeholders, from the left, become the tags of its images, in
the order of their ids, and the tags for which there is no placeholder go to the front. -/
theorem assign_substitutes {messages : List Message}
    (h : ∀ m ∈ messages, m.images ≠ [] → ∃ s, m.content = .text s) :
    ∃ named images, assign defaultPlaceholder defaultTagFormat messages = .ok (named, images) ∧
      images.map Tagged.id = List.range (imageCount messages) ∧
      images.map Tagged.data = messages.flatMap (fun m => m.images) ∧
      named.length = messages.length ∧
      ∀ i m, messages[i]? = some m → ∃ m', named[i]? = some m' ∧
        Substituted (Text.codes defaultPlaceholder) defaultTag (imageCount (messages.take i))
          m m' := by
  obtain ⟨⟨named, images⟩, hassign⟩ := tagging_default.exists_assign defaultPlaceholder h
  have himages := images_of_assignBy hassign
  refine ⟨named, images, hassign, ?_, ?_, length_of_assignBy hassign, fun i m hm => ?_⟩
  · rw [himages, map_id_collect]
  · rw [himages, map_data_collect]
  · obtain ⟨tagged, htagged, heq⟩ := bind_eq_ok.mp hassign
    cases heq
    obtain ⟨m', hm', htag⟩ := tagMessage_of_tagFrom htagged hm
    rw [Nat.zero_add] at htag
    exact ⟨m', hm', names_default.substituted_of_tagMessage htag⟩

def nestedMessages : List Message :=
  [{ Message.ofText .user "look" with images := [.bytes [0]] },
    { Message.ofText .user "[[img]img] or [img]" with
      images := [.bytes [1], .bytes [2], .bytes [3]] }]

theorem assign_substitutes_nestedMessages :
    (∀ m ∈ nestedMessages, m.images ≠ [] → ∃ s, m.content = .text s) ∧
      ∃ named images,
        assign defaultPlaceholder defaultTagFormat nestedMessages = .ok (named, images) ∧
        images.map Tagged.id = [0, 1, 2, 3] ∧
        named[1]?.map (fun m => m.content) = some (.text "[img-3][[img-1]img] or [img-2]") := by
  have htexts : ∀ m ∈ nestedMessages, m.images ≠ [] → ∃ s, m.content = .text s := by
    simp [nestedMessages, Message.ofText]
  obtain ⟨named, images, hassign, hids, -, -, hnamed⟩ := assign_substitutes htexts
  obtain ⟨m', hm', -, hsubstituted⟩ := hnamed 1 _ rfl
  have hparted : Parted (Text.codes defaultPlaceholder) (Text.codes "[[img]img] or [img]")
      (Text.codes "[") [Text.codes "img] or ", []] :=
    .of_cut? rfl (.of_cut? rfl (.of_cut?_eq_none rfl))
  refine ⟨htexts, named, images, hassign, hids, ?_⟩
  rw [hm', (hsubstituted _ rfl).2 _ _ hparted]
  rfl

end ChatWindow.Image
