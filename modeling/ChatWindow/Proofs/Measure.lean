import ChatWindow.Image
import ChatWindow.Template
import Mathlib.Data.List.Forall2

/-!
# What is measured

A measurement that succeeds has rendered the messages and counted the tokens of the text. Messages
without images cost no more than that, and naming their images leaves them as they are.
-/

namespace ChatWindow

theorem mapError_eq_ok {ε ε' α : Type} {x : Except ε α} {f : ε → ε'} {a : α} :
    x.mapError f = .ok a ↔ x = .ok a := by
  cases x with
  | error e =>
    constructor
    · rintro ⟨⟩
    · rintro ⟨⟩
  | ok b =>
    constructor
    · intro h
      cases h
      rfl
    · intro h
      cases h
      rfl

theorem bind_eq_ok {ε α β : Type} {x : Except ε α} {f : α → Except ε β} {b : β} :
    x >>= f = .ok b ↔ ∃ a, x = .ok a ∧ f a = .ok b := by
  cases x <;> simp [bind, Except.bind]

theorem mapError_eq_error {ε ε' α : Type} {x : Except ε α} {f : ε → ε'} {e : ε'} :
    x.mapError f = .error e ↔ ∃ e', x = .error e' ∧ f e' = e := by
  cases x with
  | error e' =>
    constructor
    · intro h
      exact ⟨e', rfl, Except.error.inj h⟩
    · rintro ⟨_, ⟨⟩, rfl⟩
      rfl
  | ok b =>
    constructor
    · rintro ⟨⟩
    · rintro ⟨_, ⟨⟩, _⟩

theorem map_eq_ok {ε α β : Type} {f : α → β} {x : Except ε α} {b : β} :
    x.map f = .ok b ↔ ∃ a, x = .ok a ∧ f a = b := by
  cases x <;> simp [Except.map]

theorem mapM_eq_ok {ε α β : Type} {f : α → Except ε β} {xs : List α} {ys : List β} :
    xs.mapM f = .ok ys ↔ List.Forall₂ (fun x y => f x = .ok y) xs ys := by
  induction xs generalizing ys with
  | nil => simp [pure, Except.pure, eq_comm]
  | cons x xs ih =>
    rw [List.mapM_cons, bind_eq_ok, List.forall₂_cons_left_iff]
    constructor
    · rintro ⟨y, hy, h⟩
      obtain ⟨others, hothers, h⟩ := bind_eq_ok.mp h
      cases h
      exact ⟨y, others, hy, ih.mp hothers, rfl⟩
    · rintro ⟨y, others, hy, hothers, rfl⟩
      exact ⟨y, hy, bind_eq_ok.mpr ⟨others, ih.mpr hothers, rfl⟩⟩

theorem mapM_eq_map {α β : Type} {f : α → Except Failure β} {p : α → Prop} {g : α → β}
    (h : ∀ x y, f x = .ok y ↔ p x ∧ y = g x) {xs : List α} {ys : List β} :
    xs.mapM f = .ok ys ↔ (∀ x ∈ xs, p x) ∧ ys = xs.map g := by
  have hmap : List.Forall₂ (fun x y => y = g x) xs ys ↔ ys = xs.map g := by
    rw [← List.forall₂_eq_eq_eq, List.forall₂_map_right_iff]
    exact ⟨List.Forall₂.flip, List.Forall₂.flip⟩
  simp only [mapM_eq_ok, h, List.forall₂_and_left, hmap]

theorem mapM_ok {α β : Type} (f : α → β) (xs : List α) :
    (xs.mapM fun x => (.ok (f x) : Except Failure β)) = .ok (xs.map f) := List.mapM_pure

theorem mapM_append_eq_ok {α β : Type} {f : α → Except Failure β} {before after : List α}
    {zs : List β} : (before ++ after).mapM f = .ok zs ↔ ∃ xs ys,
      before.mapM f = .ok xs ∧ after.mapM f = .ok ys ∧ zs = xs ++ ys := by
  simp only [List.mapM_append, bind_eq_ok, pure, Except.pure, Except.ok.injEq]
  constructor
  · rintro ⟨xs, hxs, ys, hys, rfl⟩
    exact ⟨xs, ys, hxs, hys, rfl⟩
  · rintro ⟨xs, ys, hxs, hys, rfl⟩
    exact ⟨xs, hxs, ys, hys, rfl⟩

theorem mapM_singleton_eq_ok {α β : Type} {f : α → Except Failure β} {x : α} {ys : List β} :
    [x].mapM f = .ok ys ↔ ∃ y, f x = .ok y ∧ ys = [y] := by
  simp only [List.mapM_cons, List.mapM_nil, bind_eq_ok, pure, Except.pure, Except.ok.injEq]
  constructor
  · rintro ⟨y, hy, _, rfl, rfl⟩
    exact ⟨y, hy, rfl⟩
  · rintro ⟨y, hy, rfl⟩
    exact ⟨y, hy, _, rfl, rfl⟩

theorem exists_mapM_ok {α β : Type} {f : α → Except Failure β} {xs : List α}
    (h : ∀ x ∈ xs, ∃ y, f x = .ok y) : ∃ ys, xs.mapM f = .ok ys := by
  induction xs with
  | nil => exact ⟨[], rfl⟩
  | cons x xs ih =>
    rw [List.forall_mem_cons] at h
    obtain ⟨⟨y, hy⟩, hxs⟩ := h
    obtain ⟨ys, hys⟩ := ih hxs
    refine ⟨y :: ys, ?_⟩
    rw [List.mapM_cons, hy, hys]
    rfl

theorem exists_related_of_mem {α β : Type} {R : α → β → Prop} {xs : List α} {ys : List β}
    (h : List.Forall₂ R xs ys) {x : α} (hx : x ∈ xs) : ∃ y ∈ ys, R x y := by
  induction h with
  | nil => cases hx
  | @cons _ y _ ys hy _ ih =>
    rcases List.mem_cons.mp hx with rfl | hx
    · exact ⟨y, List.mem_cons_self, hy⟩
    · obtain ⟨z, hz, hrelated⟩ := ih hx
      exact ⟨z, List.mem_cons_of_mem y hz, hrelated⟩

theorem bind_eq_error {ε α β : Type} {x : Except ε α} {f : α → Except ε β} {e : ε} :
    x >>= f = .error e ↔ x = .error e ∨ ∃ a, x = .ok a ∧ f a = .error e := by
  cases x <;> simp [bind, Except.bind]

namespace Oracle

variable {o : Oracle} {messages : List Message}

theorem render_eq_ok {text : Text} :
    o.render messages = .ok text ↔ o.template.render (o.scene messages) = .ok text :=
  mapError_eq_ok

theorem measure_eq_ok {n : Int} :
    o.measure messages = .ok n ↔
      ∃ text tokens, o.template.render (o.scene messages) = .ok text ∧
        o.tokenizer.tokenize text = .ok tokens ∧
        n = tokens.length + o.imageCost messages := by
  rw [measure, bind_eq_ok]
  simp only [render_eq_ok]
  constructor
  · rintro ⟨text, htext, h⟩
    obtain ⟨tokens, htokens, h⟩ := bind_eq_ok.mp h
    rw [tokenize, mapError_eq_ok] at htokens
    cases h
    exact ⟨text, tokens, htext, htokens, rfl⟩
  · rintro ⟨text, tokens, htext, htokens, rfl⟩
    refine ⟨text, htext, bind_eq_ok.mpr ⟨tokens, ?_, rfl⟩⟩
    rw [tokenize, mapError_eq_ok]
    exact htokens

end Oracle

theorem imageCount_eq_length (messages : List Message) :
    imageCount messages = (messages.flatMap fun m => m.images).length := by
  rw [imageCount, List.length_flatMap, List.sum_eq_foldl, List.foldl_map]

theorem imageCount_cons (m : Message) (messages : List Message) :
    imageCount (m :: messages) = m.images.length + imageCount messages := by
  rw [imageCount_eq_length, imageCount_eq_length, List.flatMap_cons, List.length_append]

theorem imageCount_eq_zero {messages : List Message} (h : ∀ m ∈ messages, m.images = []) :
    imageCount messages = 0 := by
  rw [imageCount_eq_length, List.length_eq_zero_iff, List.flatMap_eq_nil_iff]
  exact h

theorem Oracle.imageCost_eq_zero (o : Oracle) {messages : List Message}
    (h : ∀ m ∈ messages, m.images = []) : o.imageCost messages = 0 := by
  rw [imageCost, imageCount_eq_zero h]
  simp

namespace Image

theorem tagFrom_of_no_images (placeholder : List Code)
    (tagOf : Nat → Except Failure (List Code)) (id : Nat) {messages : List Message}
    (h : ∀ m ∈ messages, m.images = []) :
    tagFrom placeholder tagOf id messages = .ok messages := by
  induction messages generalizing id with
  | nil => rfl
  | cons m messages ih =>
    have hm := h m List.mem_cons_self
    have htag := tagMessage_of_passedOn placeholder tagOf (List.isEmpty_iff.mpr hm) id
    rw [tagFrom, htag, ih _ fun m' hm' => h m' (List.mem_cons_of_mem _ hm')]
    rfl

section
variable {placeholder : List Code} {tagOf : Nat → Except Failure (List Code)}
  {messages named : List Message} {images : List Tagged}

theorem length_of_tagFrom {id : Nat} (h : tagFrom placeholder tagOf id messages = .ok named) :
    named.length = messages.length := by
  induction messages generalizing id named with
  | nil =>
    cases h
    rfl
  | cons m messages ih =>
    obtain ⟨_, -, h⟩ := bind_eq_ok.mp h
    obtain ⟨others, hothers, h⟩ := bind_eq_ok.mp h
    cases h
    rw [List.length_cons, List.length_cons, ih hothers]

theorem length_of_assignBy (h : assignBy placeholder tagOf messages = .ok (named, images)) :
    named.length = messages.length := by
  obtain ⟨_, htagged, h⟩ := bind_eq_ok.mp h
  cases h
  exact length_of_tagFrom htagged

theorem images_of_assignBy (h : assignBy placeholder tagOf messages = .ok (named, images)) :
    images = collect messages := by
  obtain ⟨_, -, h⟩ := bind_eq_ok.mp h
  cases h
  rfl

end

theorem length_numberFrom (id : Nat) (images : List Value) :
    (numberFrom id images).length = images.length := by
  induction images generalizing id with
  | nil => rfl
  | cons data images ih => rw [numberFrom, List.length_cons, List.length_cons, ih]

theorem length_collect (messages : List Message) :
    (collect messages).length = imageCount messages := by
  rw [collect, length_numberFrom, imageCount_eq_length]

theorem map_id_numberFrom (id : Nat) (images : List Value) :
    (numberFrom id images).map Tagged.id = List.range' id images.length := by
  induction images generalizing id with
  | nil => rfl
  | cons data images ih => rw [numberFrom, List.map_cons, ih, List.length_cons, List.range'_succ]

theorem map_data_numberFrom (id : Nat) (images : List Value) :
    (numberFrom id images).map Tagged.data = images := by
  induction images generalizing id with
  | nil => rfl
  | cons data images ih => rw [numberFrom, List.map_cons, ih]

theorem map_id_collect (messages : List Message) :
    (collect messages).map Tagged.id = List.range (imageCount messages) := by
  rw [collect, map_id_numberFrom, ← imageCount_eq_length, List.range_eq_range']

theorem map_data_collect (messages : List Message) :
    (collect messages).map Tagged.data = messages.flatMap fun m => m.images :=
  map_data_numberFrom 0 _

theorem assign_of_no_images (placeholder tagFormat : String) {messages : List Message}
    (h : ∀ m ∈ messages, m.images = []) :
    assign placeholder tagFormat messages = .ok (messages, collect messages) := by
  rw [assign, assignBy, tagFrom_of_no_images _ _ _ h]
  rfl

end Image

end ChatWindow
