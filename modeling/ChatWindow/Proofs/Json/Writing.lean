import ChatWindow.Proofs.Json.Reading
import ChatWindow.Value.Equal

/-!
# Values that are written and read

Without byte strings, and with distinct names of fields, a value is spelled by the text that is
written for it in either style. So it is read as it was.
-/

namespace ChatWindow

/-- Values of JSON whose texts, names of fields among them, are of some kind; no record has two
fields of one name. -/
inductive Value.Legible (word : Text → Prop) : Value → Prop
  | null : Legible word .null
  | bool (b : Bool) : Legible word (.bool b)
  | int (n : Int) : Legible word (.int n)
  | real (x : Float) : Legible word (.real x)
  | text {t : Text} : word t → Legible word (.text t)
  | list {xs : List Value} : (∀ x ∈ xs, Legible word x) → Legible word (.list xs)
  | record {fields : Fields} : (fields.map Prod.fst).Nodup → (∀ p ∈ fields, word p.1) →
      (∀ p ∈ fields, Legible word p.2) → Legible word (.record fields)

/-- A value of JSON that comes back from its text: no pair of halves in it is split. -/
abbrev Value.Recoverable (v : Value) : Prop := v.Legible Text.Unsplit

namespace Json

structure Style.Loose (style : Style) : Prop where
  comma : ∃ gap, Blanks gap ∧ style.comma = .char ',' :: gap
  colon : ∃ gap, Blanks gap ∧ style.colon = .char ':' :: gap

theorem loose_spaced : spaced.Loose where
  comma := ⟨[' '], by decide, rfl⟩
  colon := ⟨[' '], by decide, rfl⟩

def Special (c : Code) : Prop := c = '<' ∨ c = '>' ∨ c = '&' ∨ c = '\x27'

instance (c : Code) : Decidable (Special c) := inferInstanceAs (Decidable (_ ∨ _))

/-- A way of writing each character of a written value once more. All but the special ones stay as
they are, and the texts in it stay legible. -/
structure Overlay (ascii : Bool) (g : Code → List Code) : Prop where
  keeps : ∀ {c}, ¬Special c → g c = [c]
  legible : Legible fun c => (escape ascii c).flatMap g

theorem overlay_self (ascii : Bool) : Overlay ascii fun c => [c] where
  keeps _ := rfl
  legible := by simpa only [List.flatMap_singleton'] using legible_escape ascii

theorem Numeral.not_special {c : Code} (h : Numeral c) : ¬Special c := by
  have hc : (!decide (Special c)) = true :=
    h.elim (p := fun c => !decide (Special c)) (by decide) (by decide)
  simpa using hc

theorem Blanks.not_special {gap : List Code} (h : Blanks gap) : Each (¬Special ·) gap := by
  rintro c hc (rfl | rfl | rfl | rfl)
  all_goals cases h _ hc

variable {style : Style} {g : Code → List Code}

theorem flatMap_eq_self (hg : ∀ {c}, ¬Special c → g c = [c]) {cs : List Code}
    (h : Each (¬Special ·) cs) : cs.flatMap g = cs := by
  induction cs with
  | nil => rfl
  | cons c cs ih =>
    rw [each_cons] at h
    rw [List.flatMap_cons, hg h.1, ih h.2, List.singleton_append]

theorem Overlay.flatMap_eq {ascii : Bool} (hg : Overlay ascii g) {cs : List Code}
    (h : Each (¬Special ·) cs) : cs.flatMap g = cs := flatMap_eq_self hg.keeps h

theorem Overlay.quoted {ascii : Bool} (hg : Overlay ascii g) {t : Text} (ht : t.Unsplit) :
    Quoted t ((writeText ascii t).flatMap g) := by
  refine ⟨ht, _, hg.legible, ?_⟩
  have hquote : g '"' = [.char '"'] := hg.keeps (by decide)
  simp only [writeText, List.flatMap_cons, List.flatMap_append, List.flatMap_nil, hquote,
    List.flatMap_assoc, List.append_nil, List.cons_append, List.nil_append]

theorem Overlay.spells_items (hg : Overlay style.ascii g) (hstyle : style.Loose)
    {xs : List Value} {x : Value} (h : ∀ y ∈ x :: xs, Spells y ((write style y).flatMap g)) :
    SpellsItems (x :: xs)
      ((write style x ++ writeItems style xs ++ [Code.char ']']).flatMap g) := by
  have hbracket : [Code.char ']'].flatMap g = [.char ']'] := hg.flatMap_eq (by decide)
  -- The first item is spelled by itself and then the others, so it changes from step to step.
  induction xs generalizing x with
  | nil =>
    rw [writeItems, List.append_nil, List.flatMap_append, hbracket]
    exact .last (h x List.mem_cons_self)
  | cons y ys ih =>
    obtain ⟨gap, hgap, hcomma⟩ := hstyle.comma
    have hgap' : (.char ',' :: gap).flatMap g = .char ',' :: gap :=
      hg.flatMap_eq (each_cons.mpr ⟨by decide, hgap.not_special⟩)
    have hmore := SpellsItems.more (h x List.mem_cons_self) hgap
      (ih fun z hz => h z (List.mem_cons_of_mem x hz))
    rw [← hgap'] at hmore
    rw [writeItems, hcomma]
    simpa only [List.flatMap_append, List.append_assoc] using hmore

theorem Overlay.spells_fields (hg : Overlay style.ascii g) (hstyle : style.Loose)
    {fields : Fields} {k : Text} {v : Value} (hnames : ∀ p ∈ (k, v) :: fields, p.1.Unsplit)
    (h : ∀ p ∈ (k, v) :: fields, Spells p.2 ((write style p.2).flatMap g)) :
    SpellsFields ((k, v) :: fields) ((writeText style.ascii k ++ style.colon ++ write style v ++
      writeFields style fields ++ [Code.char '\x7d']).flatMap g) := by
  have hbrace : [Code.char '\x7d'].flatMap g = [.char '\x7d'] := hg.flatMap_eq (by decide)
  obtain ⟨gap, hgap, hcolon⟩ := hstyle.colon
  have hcolon' : style.colon.flatMap g = .char ':' :: gap := by
    rw [hcolon]
    exact hg.flatMap_eq (each_cons.mpr ⟨by decide, hgap.not_special⟩)
  induction fields generalizing k v with
  | nil =>
    have hk : k.Unsplit := hnames (k, v) List.mem_cons_self
    have hlast := SpellsFields.last (hg.quoted hk) hgap (h (k, v) List.mem_cons_self)
    rw [writeFields]
    simpa only [List.flatMap_append, hcolon', hbrace, List.append_nil] using hlast
  | cons p fields ih =>
    obtain ⟨gap', hgap', hcomma⟩ := hstyle.comma
    have hcomma' : style.comma.flatMap g = .char ',' :: gap' := by
      rw [hcomma]
      exact hg.flatMap_eq (each_cons.mpr ⟨by decide, hgap'.not_special⟩)
    have hk : k.Unsplit := hnames (k, v) List.mem_cons_self
    have hmore := SpellsFields.more (hg.quoted hk) hgap (h (k, v) List.mem_cons_self) hgap'
      (ih (fun q hq => hnames q (List.mem_cons_of_mem (k, v) hq))
        fun q hq => h q (List.mem_cons_of_mem (k, v) hq))
    rw [writeFields]
    simpa only [List.flatMap_append, hcolon', hcomma', List.append_assoc] using hmore

theorem Overlay.spells_write (hg : Overlay style.ascii g) (hstyle : style.Loose) {v : Value}
    (h : v.Recoverable) : Spells v ((write style v).flatMap g) := by
  have hlist : g '[' = [.char '['] := hg.keeps (by decide)
  have hrecord : g '\x7b' = [.char '\x7b'] := hg.keeps (by decide)
  induction h with
  | null =>
    rw [write, hg.flatMap_eq (by decide)]
    exact .null
  | bool b =>
    cases b with
    | false =>
      rw [write, hg.flatMap_eq (by decide)]
      exact .no
    | true =>
      rw [write, hg.flatMap_eq (by decide)]
      exact .yes
  | int n =>
    rw [write, hg.flatMap_eq ((numeral_writeInt n).imp Numeral.not_special)]
    exact .int n
  | real x =>
    rw [write, hg.flatMap_eq ((numeral_writeReal x).imp Numeral.not_special)]
    exact .real x
  | text ht => exact .text (hg.quoted ht)
  | @list xs _ ih =>
    cases xs with
    | nil =>
      rw [write, hg.flatMap_eq (by decide)]
      exact .emptyList
    | cons x xs =>
      rw [write, List.cons_append, List.cons_append, List.flatMap_cons, hlist]
      exact .list (hg.spells_items hstyle ih)
  | @record fields hdistinct hnames _ ih =>
    cases fields with
    | nil =>
      rw [write, hg.flatMap_eq (by decide)]
      exact .emptyRecord
    | cons p fields =>
      rw [write]
      simp only [List.cons_append, List.flatMap_cons, hrecord]
      exact .record hdistinct (hg.spells_fields hstyle hnames ih)

theorem spells_write (hstyle : style.Loose) {v : Value} (h : v.Recoverable) :
    Spells v (write style v) := by
  simpa only [List.flatMap_singleton'] using (overlay_self style.ascii).spells_write hstyle h

theorem parseCodes_write (hstyle : style.Loose) {v : Value} (h : v.Recoverable) :
    parseCodes (write style v) = .ok v := parseCodes_of_spells (spells_write hstyle h)

theorem parse_render {v : Value} (h : v.Recoverable) : parse (render v) = .ok v := by
  rw [parse, render, Text.codes_ofCodes]
  exact parseCodes_write loose_spaced h

end Json

end ChatWindow
