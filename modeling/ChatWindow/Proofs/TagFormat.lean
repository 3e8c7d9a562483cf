import ChatWindow.Config
import ChatWindow.Proofs.Json.Number
import ChatWindow.Proofs.Measure
import Mathlib.Data.List.TakeWhile

/-!
# Formats that give every image a tag of its own

A configuration is only checked for the text of a field somewhere in its tag format. The grammar of
formats knows more: a brace that is doubled stands for itself, and one that stands alone, or opens a
field of another name, is a fault. A relation says which texts are formats of characters and ids. It
is what the reader of formats takes apart, and such a format tells the ids apart if one of them is
there.
-/

namespace ChatWindow.Image

/-- The field asks for a value as it is, with no part of it, no conversion and no layout. -/
structure Field.Bare (f : Field) : Prop where
  conversion : f.conversion = none
  layout : f.layout = []
  name : ∀ c ∈ f.name, TagFormat.isNameEnd c = false

namespace TagFormat

inductive Item where
  | letter (c : Char)
  | number
  deriving DecidableEq

/-- Only braces need care: one that stands for itself is doubled, and a field has the name `id` and
behind it an empty layout at most. -/
inductive Spelled : List Char → List Item → Prop
  | nil : Spelled [] []
  | plain {c cs items} (h : c ≠ '\x7b' ∧ c ≠ '\x7d') :
      Spelled cs items → Spelled (c :: cs) (.letter c :: items)
  | doubled {c cs items} (h : c = '\x7b' ∨ c = '\x7d') :
      Spelled cs items → Spelled (c :: c :: cs) (.letter c :: items)
  | field {colon cs items} (h : colon = [] ∨ colon = [':']) :
      Spelled cs items →
      Spelled ('\x7b' :: 'i' :: 'd' :: (colon ++ '\x7d' :: cs)) (.number :: items)

def Item.text (id : Nat) : Item → List Char
  | .letter c => [c]
  | .number => digits id

def Item.piece : Item → Piece
  | .letter c => .char c
  | .number => .field { name := ['i', 'd'] }

def written (items : List Item) (id : Nat) : List Char := items.flatMap (Item.text id)

def Usable (cs : List Char) : Prop :=
  ∃ tag : Nat → List Char, (∀ id, format cs id = .ok (tag id)) ∧ Function.Injective tag

variable {cs rest name : List Char} {items : List Item} {f : Field} {id fuel : Nat}

/-! ## Pieces of a format -/

theorem pieces_of_spelled (h : Spelled cs items) (hfuel : cs.length ≤ fuel) :
    pieces fuel cs = items.map Item.piece := by
  -- Every item takes at least one character, so the fuel is enough.
  induction h generalizing fuel with
  | nil => cases fuel <;> rfl
  | @plain c cs items hc _ ih =>
    obtain ⟨fuel, rfl⟩ := Nat.exists_eq_succ_of_ne_zero (show fuel ≠ 0 by grind)
    rw [List.length_cons] at hfuel
    rw [pieces, ih (by omega)]
    · rfl
    · exact hc.1
    · exact hc.2
  | @doubled c cs items hc _ ih =>
    obtain ⟨fuel, rfl⟩ := Nat.exists_eq_succ_of_ne_zero (show fuel ≠ 0 by grind)
    rw [List.length_cons, List.length_cons] at hfuel
    rcases hc with rfl | rfl
    · rw [pieces, ih (by omega)]
      rfl
    · rw [pieces, ih (by omega)]
      rfl
  | @field colon cs items hcolon _ ih =>
    obtain ⟨fuel, rfl⟩ := Nat.exists_eq_succ_of_ne_zero (show fuel ≠ 0 by grind)
    simp only [List.length_cons, List.length_append] at hfuel
    have hfield : pieces (fuel + 1) ('\x7b' :: 'i' :: 'd' :: (colon ++ '\x7d' :: cs)) =
        .field { name := ['i', 'd'] } :: pieces fuel cs := by
      rcases hcolon with rfl | rfl <;> rfl
    rw [hfield, ih (by omega)]
    rfl

theorem parse_of_spelled (h : Spelled cs items) : parse cs = items.map Item.piece :=
  pieces_of_spelled h (Nat.le_refl _)

/-! ## What a field is read from -/

theorem eq_cons_of_takeName_nil {ending : Char} (h : takeName cs = .ok ([], ending, rest)) :
    cs = ending :: rest := by
  rw [takeName.eq_def] at h
  split at h
  · cases h
  · cases h
  · obtain ⟨_, -, heq⟩ := map_eq_ok.mp h
    cases heq
  · split at h
    · cases h
      rfl
    · obtain ⟨_, -, heq⟩ := map_eq_ok.mp h
      cases heq

theorem exists_cons_of_takeName {n ending : Char} (hn : n ≠ '[')
    (h : takeName cs = .ok (n :: name, ending, rest)) :
    ∃ tail, cs = n :: tail ∧ takeName tail = .ok (name, ending, rest) := by
  rw [takeName.eq_def] at h
  split at h
  · cases h
  · cases h
  · obtain ⟨⟨_, _, _⟩, -, heq⟩ := map_eq_ok.mp h
    cases heq
    exact absurd rfl hn
  · next c tail _ _ =>
    split at h
    · cases h
    · obtain ⟨⟨_, _, _⟩, htail, heq⟩ := map_eq_ok.mp h
      cases heq
      exact ⟨tail, rfl, htail⟩

theorem eq_cons_of_takeLayout {depth : Nat} (h : takeLayout depth cs = .ok ([], rest)) :
    cs = '\x7d' :: rest := by
  rw [takeLayout.eq_def] at h
  split at h
  · cases h
  · obtain ⟨_, -, heq⟩ := map_eq_ok.mp h
    cases heq
  · split at h
    · cases h
      rfl
    · obtain ⟨_, -, heq⟩ := map_eq_ok.mp h
      cases heq
  · obtain ⟨_, -, heq⟩ := map_eq_ok.mp h
    cases heq

theorem eq_of_takeField (hname : f.name = ['i', 'd']) (hconversion : f.conversion = none)
    (hlayout : f.layout = []) (h : takeField cs = .ok (f, rest)) :
    ∃ colon, (colon = [] ∨ colon = [':']) ∧ cs = 'i' :: 'd' :: (colon ++ '\x7d' :: rest) := by
  obtain ⟨⟨name, ending, tail⟩, htake, h⟩ := bind_eq_ok.mp h
  dsimp only at h
  have hspelled : name = ['i', 'd'] → cs = 'i' :: 'd' :: ending :: tail := by
    rintro rfl
    obtain ⟨afterI, hcs, hafterI⟩ := exists_cons_of_takeName (by decide) htake
    obtain ⟨afterD, hd, hafterD⟩ := exists_cons_of_takeName (by decide) hafterI
    rw [hcs, hd, eq_cons_of_takeName_nil hafterD]
  split at h
  · next hending =>
    cases h
    exact ⟨[], .inl rfl, hending ▸ hspelled hname⟩
  · split at h
    · next hending =>
      obtain ⟨⟨layout, after⟩, htake, h⟩ := bind_eq_ok.mp h
      cases h
      dsimp only at hlayout hname
      subst hlayout
      rw [eq_cons_of_takeLayout htake, hending] at hspelled
      exact ⟨[':'], .inr rfl, hspelled hname⟩
    -- A conversion follows, and the field would have it.
    · split at h
      · cases h
      · cases h
      · cases h
        cases hconversion
      · obtain ⟨_, -, h⟩ := bind_eq_ok.mp h
        cases h
        cases hconversion
      · cases h

inductive Plain : Piece → Prop
  | char (c : Char) : Plain (.char c)
  | field {f : Field} (name : f.name = ['i', 'd']) (conversion : f.conversion = none)
      (layout : f.layout = []) : Plain (.field f)

theorem exists_spelled_of_plain (hfuel : cs.length ≤ fuel) (h : ∀ p ∈ pieces fuel cs, Plain p) :
    ∃ items, Spelled cs items := by
  induction fuel, cs using pieces.induct with
  | case1 cs =>
    rw [List.length_eq_zero_iff.mp (Nat.le_zero.mp hfuel)]
    exact ⟨[], .nil⟩
  | case2 => exact ⟨[], .nil⟩
  | case3 => exact absurd (h _ List.mem_cons_self) nofun
  | case4 fuel rest ih =>
    rw [pieces, List.forall_mem_cons] at h
    simp only [List.length_cons] at hfuel
    obtain ⟨items, hitems⟩ := ih (by omega) h.2
    exact ⟨_, .doubled (.inl rfl) hitems⟩
  | case5 fuel rest hne hsingle f after htake ih =>
    rw [pieces, htake] at h
    · rw [List.forall_mem_cons] at h
      obtain ⟨hfield, hothers⟩ := h
      cases hfield with
      | field hname hconversion hlayout =>
        obtain ⟨colon, hcolon, rfl⟩ := eq_of_takeField hname hconversion hlayout htake
        simp only [List.length_cons, List.length_append] at hfuel
        obtain ⟨items, hitems⟩ := ih (by omega) hothers
        exact ⟨_, .field hcolon hitems⟩
    · exact hne
    · exact hsingle
  | case6 fuel rest hne hsingle fault htake =>
    rw [pieces, htake] at h
    · exact absurd (h _ List.mem_cons_self) nofun
    · exact hne
    · exact hsingle
  | case7 fuel rest ih =>
    rw [pieces, List.forall_mem_cons] at h
    simp only [List.length_cons] at hfuel
    obtain ⟨items, hitems⟩ := ih (by omega) h.2
    exact ⟨_, .doubled (.inr rfl) hitems⟩
  | case8 fuel rest hsingle =>
    rw [pieces] at h
    · exact absurd (h _ List.mem_cons_self) nofun
    · exact hsingle
  | case9 fuel c rest hopen hclose ih =>
    rw [pieces, List.forall_mem_cons] at h
    · simp only [List.length_cons] at hfuel
      obtain ⟨items, hitems⟩ := ih (by omega) h.2
      exact ⟨_, .plain ⟨hopen, hclose⟩ hitems⟩
    · exact hopen
    · exact hclose

/-! ## The text of a piece -/

def pieceText (id : Nat) : Piece → Except Failure (List Char)
  | .char c => .ok [c]
  | .faulty fault => .error (.badLayout fault)
  | .field f => do
    let n ← lookUp f.name id
    checkConversion f
    let layout ← if f.nested then expand 1 f.layout id else pure f.layout
    layOut f layout n

theorem format_eq_ok {tag : List Char} : format cs id = .ok tag ↔
    ∃ texts, (parse cs).mapM (pieceText id) = .ok texts ∧ texts.flatten = tag := by
  have hformat : format cs id = (parse cs).mapM (pieceText id) >>= fun texts =>
    .ok texts.flatten := rfl
  rw [hformat, bind_eq_ok]
  simp only [Except.ok.injEq]

theorem pieceText_piece (id : Nat) (item : Item) :
    pieceText id item.piece = .ok (item.text id) := by
  cases item <;> rfl

theorem format_of_spelled (h : Spelled cs items) (id : Nat) :
    format cs id = .ok (written items id) := by
  refine format_eq_ok.mpr ⟨items.map (Item.text id), ?_, rfl⟩
  rw [parse_of_spelled h, mapM_eq_ok, List.forall₂_map_left_iff, List.forall₂_map_right_iff,
    List.forall₂_same]
  exact fun item _ => pieceText_piece id item

theorem lookUp_of_ne (id : Nat) (hname : ∀ c ∈ name, isNameEnd c = false)
    (hne : name ≠ ['i', 'd']) : ∃ e, lookUp name id = .error e := by
  have hfirst : (name.takeWhile fun c => !isNameEnd c) = name := by
    rw [List.takeWhile_eq_self_iff]
    intro c hc
    rw [hname c hc]
    rfl
  simp only [lookUp, hfirst, if_neg hne]
  split
  · split <;> exact ⟨_, rfl⟩
  · exact ⟨_, rfl⟩

theorem plain_of_pieceText {p : Piece} {text : List Char}
    (hbare : ∀ f, p = .field f → f.Bare) (h : pieceText id p = .ok text) : Plain p := by
  cases p with
  | char c => exact .char c
  | faulty fault => cases h
  | field f =>
    have hf := hbare f rfl
    by_cases hname : f.name = ['i', 'd']
    · exact .field hname hf.conversion hf.layout
    · obtain ⟨n, hn, -⟩ := bind_eq_ok.mp h
      obtain ⟨e, he⟩ := lookUp_of_ne id hf.name hname
      rw [he] at hn
      cases hn

theorem exists_spelled_of_format {tag : List Char}
    (hbare : ∀ f, .field f ∈ parse cs → f.Bare) (h : format cs id = .ok tag) :
    ∃ items, Spelled cs items := by
  obtain ⟨texts, htexts, -⟩ := format_eq_ok.mp h
  refine exists_spelled_of_plain (Nat.le_refl _) fun p hp => ?_
  obtain ⟨text, -, htext⟩ := exists_related_of_mem (mapM_eq_ok.mp htexts) hp
  exact plain_of_pieceText (fun f hf => hbare f (hf ▸ hp)) htext

/-! ## Distinct tags -/

theorem digits_injective : Function.Injective digits :=
  Function.LeftInverse.injective fun _ => Nat.ofDigitChars_ten_toDigits

theorem written_cons (item : Item) (items : List Item) (id : Nat) :
    written (item :: items) id = item.text id ++ written items id := List.flatMap_cons

theorem length_written (items : List Item) (id : Nat) :
    (written items id).length =
      items.countP (· ≠ .number) + items.count .number * (digits id).length := by
  induction items with
  | nil => simp [written]
  | cons item items ih =>
    rw [written_cons, List.length_append, ih]
    cases item with
    | letter c =>
      simp [Item.text]
      omega
    | number =>
      simp [Item.text, Nat.add_mul]
      omega

theorem written_injective (h : .number ∈ items) : Function.Injective (written items) := by
  intro m n heq
  have hlength : (digits m).length = (digits n).length := by
    have htotal := congrArg List.length heq
    rw [length_written, length_written, Nat.add_left_cancel_iff] at htotal
    exact Nat.eq_of_mul_eq_mul_left (List.count_pos_iff.mpr h) htotal
  -- So the ids stand at the same place, and up to the first of them the tags are alike.
  induction items with
  | nil => cases h
  | cons item items ih =>
    rw [written_cons, written_cons] at heq
    cases item with
    | letter c => exact ih (by simpa using h) (List.tail_eq_of_cons_eq heq)
    | number => exact digits_injective (List.append_inj heq hlength).1

theorem written_of_notMem (h : .number ∉ items) (m n : Nat) :
    written items m = written items n := by
  induction items with
  | nil => rfl
  | cons item items ih =>
    rw [List.mem_cons, not_or] at h
    rw [written_cons, written_cons, ih h.2]
    cases item with
    | letter c => rfl
    | number => exact absurd rfl h.1

theorem usable_iff_mem (h : Spelled cs items) : Usable cs ↔ .number ∈ items := by
  constructor
  · rintro ⟨tag, htag, hinjective⟩
    by_contra hnumber
    have hsame : tag 0 = tag 1 := by
      have hzero := htag 0
      have hone := htag 1
      rw [format_of_spelled h] at hzero hone
      rw [← Except.ok.inj hzero, ← Except.ok.inj hone]
      exact written_of_notMem hnumber 0 1
    exact absurd (hinjective hsame) (by decide)
  · intro hnumber
    exact ⟨written items, format_of_spelled h, written_injective hnumber⟩

theorem number_mem_of_brace (h : Spelled cs items) (hbrace : '\x7b' ∈ cs)
    (hsingle : ¬ ['\x7b', '\x7b'] <:+: cs) : .number ∈ items := by
  induction h with
  | nil => cases hbrace
  | plain hc _ ih =>
    rw [List.infix_cons_iff, not_or] at hsingle
    exact List.mem_cons_of_mem _ (ih (List.mem_of_ne_of_mem (Ne.symm hc.1) hbrace) hsingle.2)
  | @doubled c cs _ hc _ ih =>
    rcases hc with rfl | rfl
    · exact absurd ⟨[], cs, rfl⟩ hsingle
    · rw [List.infix_cons_iff, not_or, List.infix_cons_iff, not_or] at hsingle
      have hrest : '\x7b' ∈ cs :=
        List.mem_of_ne_of_mem (by decide) (List.mem_of_ne_of_mem (by decide) hbrace)
      exact List.mem_cons_of_mem _ (ih hrest hsingle.2.2)
  | field _ _ _ => exact List.mem_cons_self

theorem brace_mem_of_contains (h : Text.contains idField cs = true) : '\x7b' ∈ cs := by
  rw [Text.contains, Option.isSome_iff_exists] at h
  obtain ⟨⟨before, rest⟩, hcut⟩ := h
  rw [Text.eq_append_of_cut? hcut]
  simp [idField]

/-- A format that has been checked to contain the id in braces gives every id a tag of its own if
it is spelled as a format with fields, and doubles no opening brace. Where a brace is doubled, there
must be a field all the same. If its fields are bare, it gives no tag to any id unless it is
spelled so. -/
theorem usable_of_spelled (c : Config) :
    (∀ items, Spelled c.tagFormat.toList items →
      (Usable c.tagFormat.toList ↔ .number ∈ items) ∧
      (¬ ['\x7b', '\x7b'] <:+: c.tagFormat.toList → Usable c.tagFormat.toList)) ∧
    ((∀ f, .field f ∈ parse c.tagFormat.toList → f.Bare) →
      (∃ items, Spelled c.tagFormat.toList items) ∨
        ∀ id, ∃ failure, format c.tagFormat.toList id = .error failure) := by
  refine ⟨fun items hspelled => ⟨usable_iff_mem hspelled, fun hsingle => ?_⟩, fun hbare => ?_⟩
  · rw [usable_iff_mem hspelled]
    exact number_mem_of_brace hspelled (brace_mem_of_contains c.tagged) hsingle
  · by_cases hspelled : ∃ items, Spelled c.tagFormat.toList items
    · exact .inl hspelled
    · refine .inr fun id => ?_
      cases hformat : format c.tagFormat.toList id with
      | error failure => exact ⟨failure, rfl⟩
      | ok tag => exact absurd (exists_spelled_of_format hbare hformat) hspelled

def bracedFormat : Config := { Config.standard with
  tagFormat := "<\x7b\x7b\x7bid\x7d\x7d\x7d \x7bid:\x7d>"
  tagged := by decide }

theorem usable_of_spelled_bracedFormat :
    Usable bracedFormat.tagFormat.toList ∧
      format bracedFormat.tagFormat.toList 7 = .ok "<\x7b7\x7d 7>".toList := by
  have hspelled : Spelled bracedFormat.tagFormat.toList [.letter '<', .letter '\x7b', .number,
      .letter '\x7d', .letter ' ', .number, .letter '>'] := by
    apply Spelled.plain (by decide)
    apply Spelled.doubled (.inl rfl)
    apply Spelled.field (.inl rfl)
    apply Spelled.doubled (.inr rfl)
    apply Spelled.plain (by decide)
    apply Spelled.field (.inr rfl)
    apply Spelled.plain (by decide)
    exact .nil
  have husable := ((usable_of_spelled bracedFormat).1 _ hspelled).1
  exact ⟨husable.mpr (by decide), rfl⟩

/-- The checks of a configuration let pass a format whose only field has doubled braces, so that all
images get one tag, and a format with a brace too many, so that none gets any. -/
theorem unusable_formats :
    (∃ c, Config.ofFields [("image_tag_format", .text "\x7b\x7bid\x7d\x7d")] = .ok c ∧
      ¬ Usable c.tagFormat.toList) ∧
    ∃ c, Config.ofFields [("image_tag_format", .text "\x7bid\x7d\x7b")] = .ok c ∧
      ∀ id, format c.tagFormat.toList id = .error (.badLayout .loneOpening) := by
  refine ⟨⟨_, rfl, ?_⟩, ⟨_, rfl, fun id => rfl⟩⟩
  rintro ⟨tag, htag, hinjective⟩
  have hsame : tag 0 = tag 1 := (Except.ok.inj (htag 0)).symm.trans (Except.ok.inj (htag 1))
  exact absurd (hinjective hsame) (by decide)

end TagFormat

end ChatWindow.Image
