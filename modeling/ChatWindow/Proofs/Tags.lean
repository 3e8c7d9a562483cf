import ChatWindow.Config
import ChatWindow.Proofs.Measure

/-!
# Images that can be named

The tag format that is used unless another one is set has a tag for every id. With it the images of
any messages can be named whose contents are texts. Each message is named on its own, from the id
that follows those of the messages before it.
-/

namespace ChatWindow.Image

def Tagging (tagFormat : List Char) : Prop := ∀ id, ∃ tag, TagFormat.format tagFormat id = .ok tag

theorem format_default (id : Nat) : TagFormat.format defaultTagFormat.toList id =
    .ok (['[', 'i', 'm', 'g', '-'] ++ (TagFormat.digits id ++ [']'])) := rfl

theorem tagging_default : Tagging defaultTagFormat.toList := fun id => ⟨_, format_default id⟩

theorem tag_eq_ok {tagFormat : String} {id : Nat} {cs : List Char}
    (h : TagFormat.format tagFormat.toList id = .ok cs) :
    tag tagFormat id = .ok (cs.map .char) := by
  rw [tag, h]
  rfl

theorem Tagging.exists_tag {tagFormat : String} (h : Tagging tagFormat.toList) (id : Nat) :
    ∃ cs, tag tagFormat id = .ok cs :=
  (h id).elim fun _ hcs => ⟨_, tag_eq_ok hcs⟩

def Formats (tagOf : Nat → Except Failure (List Code)) (id count : Nat) : Prop :=
  ∀ n, id ≤ n → n < id + count → ∃ tag, tagOf n = .ok tag

variable {tagOf : Nat → Except Failure (List Code)} {id : Nat}

theorem exists_placeAll {images : List Value} (h : Formats tagOf id images.length)
    (placeholder : List Code) (d : Draft) :
    ∃ d', placeAll placeholder tagOf id images d = .ok d' := by
  induction images generalizing id d with
  | nil => exact ⟨d, rfl⟩
  | cons image images ih =>
    rw [List.length_cons] at h
    obtain ⟨tag, htag⟩ := h id (Nat.le_refl id) (by omega)
    rw [placeAll, htag]
    exact ih (fun n hle hlt => h n (by omega) (by omega)) (d.place placeholder tag)

theorem exists_tagMessage {m : Message} (h : Formats tagOf id m.images.length)
    (placeholder : List Code) (hm : m.images ≠ [] → ∃ s, m.content = .text s) :
    ∃ m', tagMessage placeholder tagOf id m = .ok m' := by
  rw [tagMessage.eq_def]
  cases hi : m.images with
  | nil => exact ⟨m, rfl⟩
  | cons image images =>
    rw [hi] at h
    obtain ⟨s, hs⟩ := hm (by simp [hi])
    obtain ⟨d, hd⟩ := exists_placeAll h placeholder ⟨[], s.codes⟩
    rw [hs]
    dsimp only
    rw [hd]
    exact ⟨_, rfl⟩

theorem exists_tagFrom {messages : List Message} (h : Formats tagOf id (imageCount messages))
    (placeholder : List Code)
    (hmessages : ∀ m ∈ messages, m.images ≠ [] → ∃ s, m.content = .text s) :
    ∃ named, tagFrom placeholder tagOf id messages = .ok named := by
  induction messages generalizing id with
  | nil => exact ⟨[], rfl⟩
  | cons m messages ih =>
    rw [List.forall_mem_cons] at hmessages
    rw [imageCount_cons] at h
    have hfirst : Formats tagOf id m.images.length :=
      fun n hle hlt => h n hle (by omega)
    have hothers : Formats tagOf (id + m.images.length) (imageCount messages) :=
      fun n hle hlt => h n (by omega) (by omega)
    obtain ⟨m', hm'⟩ := exists_tagMessage hfirst placeholder hmessages.1
    obtain ⟨named, hnamed⟩ := ih hothers hmessages.2
    exact ⟨m' :: named, bind_eq_ok.mpr ⟨m', hm', bind_eq_ok.mpr ⟨named, hnamed, rfl⟩⟩⟩

theorem exists_assignBy {messages : List Message} (h : Formats tagOf 0 (imageCount messages))
    (placeholder : List Code)
    (hmessages : ∀ m ∈ messages, m.images ≠ [] → ∃ s, m.content = .text s) :
    ∃ named, assignBy placeholder tagOf messages = .ok named := by
  obtain ⟨named, hnamed⟩ := exists_tagFrom h placeholder hmessages
  exact ⟨_, bind_eq_ok.mpr ⟨named, hnamed, rfl⟩⟩

theorem Tagging.exists_assign {tagFormat : String} (h : Tagging tagFormat.toList)
    (placeholder : Text) {messages : List Message}
    (hmessages : ∀ m ∈ messages, m.images ≠ [] → ∃ s, m.content = .text s) :
    ∃ named, assign placeholder tagFormat messages = .ok named :=
  exists_assignBy (fun id _ _ => h.exists_tag id) placeholder.codes hmessages

theorem tagMessage_of_tagFrom {placeholder : List Code} {messages named : List Message}
    (h : tagFrom placeholder tagOf id messages = .ok named) {i : Nat} {m : Message}
    (hm : messages[i]? = some m) :
    ∃ m', named[i]? = some m' ∧
      tagMessage placeholder tagOf (id + imageCount (messages.take i)) m = .ok m' := by
  induction messages generalizing id named i with
  | nil => simp at hm
  | cons first messages ih =>
    obtain ⟨first', hfirst, h⟩ := bind_eq_ok.mp h
    obtain ⟨others, hothers, h⟩ := bind_eq_ok.mp h
    cases h
    cases i with
    | zero =>
      cases hm
      exact ⟨first', rfl, hfirst⟩
    | succ i =>
      obtain ⟨m', hm', htag⟩ := ih hothers hm
      rw [Nat.add_assoc, ← imageCount_cons] at htag
      exact ⟨m', hm', htag⟩

end ChatWindow.Image
