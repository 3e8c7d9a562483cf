import ChatWindow.Proofs.Substitution
import ChatWindow.Proofs.TagFormat

/-!
# Images that are referenced by their tags

The tag of an image stands in the text of its message when it has been put in. The images that are
named after it put in tags of their own, and one of them may take a placeholder that the tag has a
part in: then the tag is no longer there. So it is certain that the last image of a message is
referenced, and all of them are if no tag forms a placeholder with the text around it.
-/

namespace ChatWindow.Image

open Text (Inert Parted Passed)
open TagFormat (Spelled digits)

variable {placeholder part : List Code} {before after : List Char} {others tags : List (List Code)}
  {tagOf : Nat → Except Failure (List Code)} {tag : Nat → List Code} {messages : List Message}
  {image : Tagged} {id : Nat}

/-! ## Literal text around the id -/

def tagAround (before after : List Char) (id : Nat) : List Code :=
  (before ++ digits id ++ after).map .char

def Literal (cs : List Char) : Prop := ∀ c ∈ cs, c ≠ '\x7b' ∧ c ≠ '\x7d'

instance (cs : List Char) : Decidable (Literal cs) := List.decidableBAll _ cs

theorem Literal.spelled {cs : List Char} {items : List TagFormat.Item} (h : Literal before)
    (hcs : Spelled cs items) : Spelled (before ++ cs) (before.map .letter ++ items) := by
  induction before with
  | nil => exact hcs
  | cons c before ih =>
    rw [Literal, List.forall_mem_cons] at h
    exact .plain h.1 (ih h.2)

theorem written_letters (cs : List Char) (id : Nat) :
    TagFormat.written (cs.map .letter) id = cs := by
  induction cs with
  | nil => rfl
  | cons c cs ih =>
    rw [List.map_cons, TagFormat.written_cons, ih]
    rfl

theorem tag_around (hbefore : Literal before) (hafter : Literal after) (id : Nat) :
    Image.tag (String.ofList (before ++ idField ++ after)) id =
      .ok (tagAround before after id) := by
  have hrest : Spelled after (after.map .letter) := by
    simpa using hafter.spelled .nil
  have hspelled : Spelled (before ++ idField ++ after)
      (before.map .letter ++ .number :: after.map .letter) := by
    rw [List.append_assoc]
    exact hbefore.spelled (.field (.inl rfl) hrest)
  have hwritten : TagFormat.written (before.map .letter ++ .number :: after.map .letter) id =
      before ++ digits id ++ after := by
    rw [TagFormat.written, List.flatMap_append, ← TagFormat.written, ← TagFormat.written,
      TagFormat.written_cons, written_letters, written_letters, List.append_assoc]
    rfl
  apply tag_eq_ok
  rw [String.toList_ofList, TagFormat.format_of_spelled hspelled, hwritten]

/-! ## The last tag, and all of them -/

theorem Draft.infix_place (placeholder tag : List Code) (d : Draft) :
    tag <:+: (d.place placeholder tag).front ++ (d.place placeholder tag).text := by
  rw [place]
  split
  · next before rest _ => exact ⟨d.front ++ before, rest, by simp⟩
  · exact ⟨d.front, d.text, by simp⟩

theorem infix_placeAll_last (hformat : ∀ id, tagOf id = .ok (tag id))
    {images : List Value} {j : Nat} (hj : j + 1 = images.length) {d d' : Draft}
    (h : placeAll placeholder tagOf id images d = .ok d') :
    tag (id + j) <:+: d'.front ++ d'.text := by
  -- Nothing is placed after the last tag, so nothing can take it apart again.
  induction images generalizing id j d with
  | nil => cases hj
  | cons data images ih =>
    rw [placeAll, hformat] at h
    rw [List.length_cons, Nat.succ_inj] at hj
    cases j with
    | zero =>
      rw [List.length_eq_zero_iff.mp hj.symm] at h
      cases h
      exact d.infix_place placeholder (tag id)
    | succ j =>
      have hlast := ih hj h
      rwa [Nat.add_right_comm] at hlast

theorem infix_weave {tag : List Code} (h : tag ∈ tags.take others.length) :
    tag <:+: weave placeholder tags others := by
  induction others generalizing tags with
  | nil => simp at h
  | cons next others ih =>
    cases tags with
    | nil => simp at h
    | cons first tags =>
      rw [List.length_cons, List.take_succ_cons, List.mem_cons] at h
      rw [weave]
      rcases h with rfl | h
      · exact ⟨[], next ++ weave placeholder tags others, by simp⟩
      · exact (ih h).trans (List.suffix_append (first ++ next) _).isInfix

theorem infix_substituted {tag : List Code} (h : tag ∈ tags) :
    tag <:+: substituted placeholder tags part others := by
  rw [← List.take_append_drop others.length tags, List.mem_append] at h
  rw [substituted]
  rcases h with hplaced | hfront
  · have hweave : tag <:+: weave placeholder tags others := infix_weave hplaced
    rw [← List.append_assoc]
    exact hweave.trans (List.suffix_append _ _).isInfix
  · exact (List.infix_of_mem_flatten hfront).trans (List.prefix_append _ _).isInfix

section
variable {m m' : Message} {s : Text}

theorem exists_text_of_tagMessage (hs : m.content = .text s)
    (h : tagMessage placeholder tagOf id m = .ok m') : ∃ text, m'.content = .text text := by
  rw [tagMessage.eq_def, hs] at h
  cases hi : m.images with
  | nil =>
    rw [hi] at h
    cases h
    exact ⟨s, hs⟩
  | cons data images =>
    rw [hi] at h
    obtain ⟨d, -, h⟩ := bind_eq_ok.mp h
    cases h
    exact ⟨_, rfl⟩

theorem infix_of_tagMessage_last (hformat : ∀ id, tagOf id = .ok (tag id))
    (hs : m.content = .text s) (h : tagMessage placeholder tagOf id m = .ok m') {j : Nat}
    (hj : j + 1 = m.images.length) {text : Text} (htext : m'.content = .text text) :
    tag (id + j) <:+: text.codes := by
  rw [tagMessage.eq_def, hs] at h
  cases hi : m.images with
  | nil =>
    rw [hi] at hj
    cases hj
  | cons data images =>
    rw [hi] at h hj
    obtain ⟨d, hd, h⟩ := bind_eq_ok.mp h
    cases h
    cases htext
    rw [Text.codes_ofCodes]
    exact infix_placeAll_last hformat hj hd

theorem Names.infix_of_tagMessage (hnames : Names placeholder tagOf tag)
    (hs : m.content = .text s) (h : tagMessage placeholder tagOf id m = .ok m') {j : Nat}
    (hj : j < m.images.length) {text : Text} (htext : m'.content = .text text) :
    tag (id + j) <:+: text.codes := by
  obtain ⟨part, others, hparted⟩ := Text.exists_parted hnames.placeholder_ne s.codes
  rw [hnames.tagMessage_eq id hs hparted] at h
  cases h
  cases htext
  rw [Text.codes_ofCodes]
  apply infix_substituted
  rw [tagsFrom]
  exact List.mem_map_of_mem (List.mem_range'_1.mpr ⟨Nat.le_add_right _ _, by omega⟩)

end

/-! ## Every image and its message -/

/-- The image is number `j` of the message at position `i`, and has its id from the count of all
images in front. -/
structure Owns (messages : List Message) (i j : Nat) (m : Message) (image : Tagged) : Prop where
  message : messages[i]? = some m
  data : m.images[j]? = some image.data
  id : image.id = imageCount (messages.take i) + j

theorem exists_index_of_mem_numberFrom {images : List Value} (h : image ∈ numberFrom id images) :
    ∃ j, image.id = id + j ∧ images[j]? = some image.data := by
  induction images generalizing id with
  | nil => cases h
  | cons data images ih =>
    rw [numberFrom, List.mem_cons] at h
    rcases h with rfl | h
    · exact ⟨0, rfl, rfl⟩
    · obtain ⟨j, hid, hdata⟩ := ih h
      exact ⟨j + 1, by omega, hdata⟩

theorem exists_owns_of_index {n : Nat} {data : Value}
    (h : (messages.flatMap fun m => m.images)[n]? = some data) :
    ∃ i j m, Owns messages i j m ⟨n, data⟩ := by
  induction messages generalizing n with
  | nil => simp at h
  | cons m messages ih =>
    rw [List.flatMap_cons] at h
    by_cases hn : n < m.images.length
    · rw [List.getElem?_append_left hn] at h
      exact ⟨0, n, m, rfl, h, (Nat.zero_add n).symm⟩
    -- Past the images of the first message the count goes on in the others.
    · rw [List.getElem?_append_right (Nat.le_of_not_lt hn)] at h
      obtain ⟨i, j, owner, hmessage, hdata, hid⟩ := ih h
      refine ⟨i + 1, j, owner, hmessage, hdata, ?_⟩
      rw [List.take_succ_cons, imageCount_cons]
      dsimp only at hid ⊢
      omega

theorem exists_owns (h : image ∈ collect messages) : ∃ i j m, Owns messages i j m image := by
  obtain ⟨n, hid, hdata⟩ := exists_index_of_mem_numberFrom h
  obtain ⟨i, j, m, howns⟩ := exists_owns_of_index hdata
  rw [Nat.zero_add] at hid
  exact ⟨i, j, m, howns.message, howns.data, hid ▸ howns.id⟩

/-- With literal text around the id, naming images succeeds, and the text of a message has the tag
of its last image in it. It has the tags of all its images if none of them forms a placeholder with
the text around it. -/
theorem assign_references {placeholder : Text} (hplaceholder : placeholder ≠ "")
    (hbefore : Literal before) (hafter : Literal after)
    (htexts : ∀ m ∈ messages, m.images ≠ [] → ∃ s, m.content = .text s) :
    ∃ named images, assign placeholder (String.ofList (before ++ idField ++ after)) messages =
        .ok (named, images) ∧
      ∀ image ∈ images, ∃ i j m m' text, Owns messages i j m image ∧ named[i]? = some m' ∧
        m'.content = .text text ∧
        (j + 1 = m.images.length ∨
            (∀ id, Inert placeholder.codes (tagAround before after id)) →
          tagAround before after image.id <:+: text.codes) := by
  have hformat := tag_around hbefore hafter
  obtain ⟨⟨named, images⟩, hassign⟩ :=
    exists_assignBy (fun id _ _ => ⟨_, hformat id⟩) placeholder.codes htexts
  refine ⟨named, images, hassign, fun image himage => ?_⟩
  rw [images_of_assignBy hassign] at himage
  obtain ⟨i, j, m, howns⟩ := exists_owns himage
  obtain ⟨tagged, htagged, heq⟩ := bind_eq_ok.mp hassign
  cases heq
  obtain ⟨m', hm', htag⟩ := tagMessage_of_tagFrom htagged howns.message
  rw [Nat.zero_add] at htag
  have hj : j < m.images.length := (List.getElem?_eq_some_iff.mp howns.data).1
  obtain ⟨s, hs⟩ :=
    htexts m (List.mem_of_getElem? howns.message) (List.ne_nil_of_length_pos (by omega))
  obtain ⟨text, htext⟩ := exists_text_of_tagMessage hs htag
  refine ⟨i, j, m, m', text, howns, hm', htext, fun hkept => ?_⟩
  rw [howns.id]
  rcases hkept with hlast | hinert
  · exact infix_of_tagMessage_last hformat hs htag hlast htext
  · have hnames : Names placeholder.codes _ (tagAround before after) :=
      ⟨fun hnil => hplaceholder (Text.codes_eq_nil.mp hnil), hformat, hinert⟩
    exact hnames.infix_of_tagMessage hs htag hj htext

def signedMessages : List Message :=
  [{ Message.ofText .user "# or #" with images := [.bytes [0], .bytes [1], .bytes [2]] }]

theorem inert_angled (id : Nat) : Inert (['#'].map Code.char) (tagAround ['<'] ['>'] id) := by
  have hdigits : '#' ∉ digits id := fun hmem =>
    absurd (isDigit_of_mem_digits hmem) (by decide)
  apply Text.inert_of_head_notMem
  · apply Passed.of_notMem
    simpa using hdigits
  · exact List.not_mem_nil

theorem assign_references_signedMessages :
    Text.plain "#" ≠ "" ∧ Literal ['<'] ∧ Literal ['>'] ∧
      (∀ m ∈ signedMessages, m.images ≠ [] → ∃ s, m.content = .text s) ∧
      ∃ named images, assign "#" "<\x7bid\x7d>" signedMessages = .ok (named, images) ∧
        images.map Tagged.id = [0, 1, 2] ∧
        ∀ image ∈ images, ∃ i j m m' text, Owns signedMessages i j m image ∧
          named[i]? = some m' ∧ m'.content = .text text ∧
          tagAround ['<'] ['>'] image.id <:+: text.codes := by
  have hplaceholder : Text.plain "#" ≠ "" := by decide
  have hbefore : Literal ['<'] := by decide
  have hafter : Literal ['>'] := by decide
  have htexts : ∀ m ∈ signedMessages, m.images ≠ [] → ∃ s, m.content = .text s := by
    simp [signedMessages, Message.ofText]
  obtain ⟨named, images, hassign, hreferences⟩ :=
    assign_references hplaceholder hbefore hafter htexts
  refine ⟨hplaceholder, hbefore, hafter, htexts, named, images, hassign, ?_, ?_⟩
  · rw [images_of_assignBy hassign]
    rfl
  · intro image himage
    obtain ⟨i, j, m, m', text, howns, hm', htext, hinfix⟩ := hreferences image himage
    exact ⟨i, j, m, m', text, howns, hm', htext, hinfix (.inr inert_angled)⟩

/-- A placeholder that the tags begin with is found in the first tag, and the second one takes its
place there. -/
theorem assign_loses_reference : ∃ named images image m' text,
    assign "[img" "[img-\x7bid\x7d]"
        [{ Message.ofText .user "look [img" with images := [.bytes [0], .bytes [1]] }] =
      .ok (named, images) ∧
    image ∈ images ∧ image.id = 0 ∧ named = [m'] ∧ m'.content = .text text ∧
    text = "look [img-1]-0]" ∧
    ¬ tagAround "[img-".toList "]".toList image.id <:+: text.codes :=
  ⟨_, _, _, _, _, rfl, List.mem_cons_self, rfl, rfl, rfl, rfl, by decide⟩

end ChatWindow.Image
