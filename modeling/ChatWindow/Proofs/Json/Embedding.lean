import ChatWindow.Proofs.Record

/-!
# JSON inside markup

The text of an embedded value has only printable characters of the first 128, and none that could be
taken for markup. It is still a text of JSON: what is written by number is read as the character,
and the fields come back in the order of their names.
-/

namespace ChatWindow

namespace Json

/-! ## The characters of an embedded value -/

def Printable (c : Code) : Prop := 32 ≤ c.toNat ∧ c.toNat < 127

instance (c : Code) : Decidable (Printable c) := inferInstanceAs (Decidable (_ ∧ _))

def Sealed (c : Code) : Prop := Printable c ∧ ¬Special c

instance (c : Code) : Decidable (Sealed c) := inferInstanceAs (Decidable (_ ∧ _))

theorem sealed_hexDigit : ∀ n < 16, Sealed (Text.hexDigit n) := by decide

theorem sealed_hex (width n : Nat) : Each Sealed ((Text.hex width n).map .char) := by
  induction width generalizing n with
  | zero => exact each_nil _
  | succ width ih =>
    have hdigit : Sealed (Text.hexDigit (n % 16)) :=
      sealed_hexDigit (n % 16) (Nat.mod_lt n (by decide))
    simp only [Text.hex, List.map_append, List.map_singleton, each_append, each_singleton]
    exact ⟨ih (n / 16), hdigit⟩

theorem sealed_unit (n : Nat) : Each Sealed (unit n) := by
  simp only [unit, each_cons]
  exact ⟨by decide, by decide, sealed_hex 4 n⟩

theorem sealed_unitEscape (c : Char) : Each Sealed (unitEscape c) := by
  simp only [unitEscape]
  split
  · exact sealed_unit _
  · exact each_append.mpr ⟨sealed_unit _, sealed_unit _⟩

theorem escapeChar_cases (ascii : Bool) (c : Char) :
    Each Sealed (escapeChar ascii c) ∨
      escapeChar ascii c = [.char c] ∧ 32 ≤ c.toNat ∧ (ascii = true → c.toNat < 127) := by
  rw [escapeChar]
  split_ifs with _ _ _ _ _ _ _ hcontrol hnumber
  iterate 7 exact .inl (by decide)
  · exact .inl (sealed_unitEscape c)
  · exact .inl (sealed_unitEscape c)
  · refine .inr ⟨rfl, by omega, fun hascii => ?_⟩
    simp only [hascii, Bool.true_and, decide_eq_true_eq] at hnumber
    omega

theorem escape_cases (ascii : Bool) (c : Code) :
    Each Sealed (escape ascii c) ∨
      escape ascii c = [c] ∧ 32 ≤ c.toNat ∧ (ascii = true → c.toNat < 127) := by
  cases c with
  | char c => exact escapeChar_cases ascii c
  | half n =>
    cases ascii with
    | true => exact .inl (sealed_unit _)
    | false =>
      refine .inr ⟨rfl, ?_, nofun⟩
      rw [Code.toNat]
      omega

theorem printable_escape (c : Code) : Each Printable (escape true c) := by
  rcases escape_cases true c with hsealed | ⟨hself, hlow, hhigh⟩
  · exact hsealed.imp And.left
  · rw [hself, each_singleton]
    exact ⟨hlow, hhigh rfl⟩

theorem printable_writeText (t : Text) : Each Printable (writeText true t) := by
  have htext : Each Printable (t.codes.flatMap (escape true)) := by
    intro c hc
    obtain ⟨d, -, hd⟩ := List.mem_flatMap.mp hc
    exact printable_escape d c hd
  simp only [writeText, List.cons_append, each_cons, each_append]
  exact ⟨by decide, htext, by decide⟩

theorem Numeral.printable {c : Code} (h : Numeral c) : Printable c := by
  have hc : decide (Printable c) = true :=
    h.elim (p := fun c => decide (Printable c)) (by decide) (by decide)
  exact of_decide_eq_true hc

mutual

theorem printable_write (v : Value) : Each Printable (write spaced v) := by
  cases v with
  | null => decide
  | bool b => cases b <;> decide
  | int n => exact (numeral_writeInt n).imp Numeral.printable
  | real x => exact (numeral_writeReal x).imp Numeral.printable
  | text s => exact printable_writeText s
  | bytes b => exact printable_writeText _
  | list xs =>
    cases xs with
    | nil => decide
    | cons x xs =>
      simp only [write, List.cons_append, each_cons, each_append]
      exact ⟨by decide, ⟨printable_write x, printable_writeItems xs⟩, by decide⟩
  | record fields =>
    cases fields with
    | nil => decide
    | cons p fields =>
      simp only [write, List.cons_append, each_cons, each_append]
      exact ⟨by decide, ⟨⟨⟨printable_writeText p.1, by decide⟩, printable_write p.2⟩,
        printable_writeFields fields⟩, by decide⟩

theorem printable_writeItems (xs : List Value) : Each Printable (writeItems spaced xs) := by
  cases xs with
  | nil => exact each_nil _
  | cons x xs =>
    simp only [writeItems, each_append]
    exact ⟨⟨by decide, printable_write x⟩, printable_writeItems xs⟩

theorem printable_writeFields (fields : Fields) :
    Each Printable (writeFields spaced fields) := by
  cases fields with
  | nil => exact each_nil _
  | cons p fields =>
    simp only [writeFields, each_append]
    exact ⟨⟨⟨⟨by decide, printable_writeText p.1⟩, by decide⟩, printable_write p.2⟩,
      printable_writeFields fields⟩

end

theorem special_char {c : Char} :
    Special c ↔ c = '<' ∨ c = '>' ∨ c = '&' ∨ c = '\x27' := by
  simp only [Special, Code.char_inj]

theorem markupSafe_of_special {c : Code} (h : Special c) :
    ∃ d, c = .char d ∧ markupSafe c = unitEscape d := by
  cases c with
  | char d => exact ⟨d, rfl, if_pos (special_char.mp h)⟩
  | half n => rcases h with h | h | h | h <;> cases h

theorem markupSafe_of_not_special {c : Code} (h : ¬Special c) : markupSafe c = [c] := by
  cases c with
  | char d => exact if_neg fun hd => h (special_char.mpr hd)
  | half n => rfl

theorem sealed_markupSafe {c : Code} (h : Printable c) : Each Sealed (markupSafe c) := by
  by_cases hc : Special c
  · obtain ⟨d, -, hd⟩ := markupSafe_of_special hc
    rw [hd]
    exact sealed_unitEscape d
  · rw [markupSafe_of_not_special hc, each_singleton]
    exact ⟨h, hc⟩

/-- No value, whatever is in it, is embedded with a character that is not sealed. -/
theorem sealed_embedded (v : Value) : Each Sealed (embedded v) :=
  (printable_write (sorted v)).flatMap sealed_markupSafe

/-! ## Reading an embedded value -/

theorem escape_of_special {c : Code} (ascii : Bool) (h : Special c) : escape ascii c = [c] := by
  rcases h with rfl | rfl | rfl | rfl <;> cases ascii <;> rfl

theorem escape_not_special {c : Code} (ascii : Bool) (h : ¬Special c) :
    Each (¬Special ·) (escape ascii c) := by
  rcases escape_cases ascii c with hsealed | ⟨hself, -⟩
  · exact hsealed.imp And.right
  · rw [hself, each_singleton]
    exact h

theorem legible_markupSafe (ascii : Bool) :
    Legible fun c => (escape ascii c).flatMap markupSafe where
  read opening c e rest hnext := by
    by_cases hc : Special c
    · obtain ⟨d, hcd, hd⟩ := markupSafe_of_special hc
      rw [escape_of_special ascii hc, List.flatMap_singleton, hd, hcd]
      exact scanChar_unitEscape opening d e rest
    · rw [flatMap_eq_self markupSafe_of_not_special (escape_not_special ascii hc)]
      exact (legible_escape ascii).read opening c e rest hnext
  alone c e rest hlow := by
    by_cases hc : Special c
    · obtain ⟨d, -, hd⟩ := markupSafe_of_special hc
      rw [escape_of_special ascii hc, List.flatMap_singleton, hd]
      exact lowUnit?_unitEscape d e rest
    · rw [flatMap_eq_self markupSafe_of_not_special (escape_not_special ascii hc)]
      exact (legible_escape ascii).alone c e rest hlow

theorem overlay_markupSafe (ascii : Bool) : Overlay ascii markupSafe :=
  ⟨markupSafe_of_not_special, legible_markupSafe ascii⟩

theorem sortedItems_eq_map (xs : List Value) : sortedItems xs = xs.map sorted := by
  induction xs with
  | nil => rfl
  | cons x xs ih => rw [sortedItems, List.map_cons, ih]

theorem sortedFields_eq_map (fields : Fields) :
    sortedFields fields = fields.map fun p => (p.1, sorted p.2) := by
  induction fields with
  | nil => rfl
  | cons p fields ih => rw [sortedFields, List.map_cons, ih]

theorem map_fst_sortedFields (fields : Fields) :
    (sortedFields fields).map Prod.fst = fields.map Prod.fst := by
  rw [sortedFields_eq_map, List.map_map]
  rfl

theorem legible_sorted {word : Text → Prop} {v : Value}
    (h : v.Legible word) : (sorted v).Legible word := by
  induction h with
  | null => exact .null
  | bool b => exact .bool b
  | int n => exact .int n
  | real x => exact .real x
  | text ht => exact .text ht
  | list _ ih =>
    rw [sorted, sortedItems_eq_map]
    exact .list (List.forall_mem_map.mpr ih)
  | @record fields hdistinct hnames _ ih =>
    have hperm := List.mergeSort_perm (sortedFields fields) keyLE
    have hfield : ∀ p ∈ (sortedFields fields).mergeSort keyLE,
        ∃ q ∈ fields, (q.1, sorted q.2) = p := by
      intro p hp
      rwa [hperm.mem_iff, sortedFields_eq_map, List.mem_map] at hp
    rw [sorted]
    refine .record ?_ (fun p hp => ?_) fun p hp => ?_
    · rw [(hperm.map Prod.fst).nodup_iff, map_fst_sortedFields]
      exact hdistinct
    · obtain ⟨q, hq, rfl⟩ := hfield p hp
      exact hnames q hq
    · obtain ⟨q, hq, rfl⟩ := hfield p hp
      exact ih q hq

theorem spells_embedded {v : Value} (h : v.Recoverable) : Spells (sorted v) (embedded v) :=
  (overlay_markupSafe spaced.ascii).spells_write loose_spaced (legible_sorted h)

end Json

/-- The two halves of U+1F600, and the character, which is written alike. -/
def Text.halves : Text := .ofCodes [.half ⟨0x3d, by decide⟩, .half ⟨0x600, by decide⟩]

def Text.joined : Text := .ofCodes [.char (Char.ofNat 0x1f600)]

/-! ## Fields in another order -/

namespace Value

/-- The same value, but that the fields of its records may stand in another order. -/
inductive Reordered : Value → Value → Prop
  | refl (v : Value) : Reordered v v
  | list {xs ys : List Value} : List.Forall₂ Reordered xs ys → Reordered (.list xs) (.list ys)
  | record {fields others moved : Fields} : fields.map Prod.fst = others.map Prod.fst →
      List.Forall₂ Reordered (fields.map Prod.snd) (others.map Prod.snd) → others.Perm moved →
      Reordered (.record fields) (.record moved)

theorem reordered_sorted {word : Text → Prop} {v : Value}
    (h : v.Legible word) : v.Reordered (Json.sorted v) := by
  induction h with
  | null | bool | int | real | text => exact .refl _
  | list _ ih =>
    rw [Json.sorted, Json.sortedItems_eq_map]
    exact .list (List.forall₂_map_right_iff.mpr (List.forall₂_same.mpr ih))
  | @record fields _ _ _ ih =>
    rw [Json.sorted]
    refine .record (Json.map_fst_sortedFields fields).symm ?_ (List.mergeSort_perm _ _).symm
    rw [Json.sortedFields_eq_map, List.map_map, List.forall₂_map_left_iff,
      List.forall₂_map_right_iff, List.forall₂_same]
    exact ih

theorem exists_reordered {fields others : Fields}
    (hnames : fields.map Prod.fst = others.map Prod.fst)
    (hvalues : List.Forall₂ Reordered (fields.map Prod.snd) (others.map Prod.snd))
    {p : Text × Value} (hp : p ∈ fields) : ∃ w, (p.1, w) ∈ others ∧ p.2.Reordered w := by
  rw [← List.forall₂_eq_eq_eq] at hnames
  rw [List.forall₂_map_left_iff, List.forall₂_map_right_iff] at hnames hvalues
  have hfields : List.Forall₂ (fun p q => p.1 = q.1 ∧ p.2.Reordered q.2) fields others :=
    hnames.mp (fun _ _ => And.intro) hvalues
  obtain ⟨q, hq, hname, hvalue⟩ := exists_related_of_mem hfields hp
  exact ⟨q.2, hname ▸ hq, hvalue⟩

theorem equalItems_of_forall₂ {xs ys : List Value}
    (h : List.Forall₂ (fun x y => x.equal y = true) xs ys) : equalItems xs ys = true := by
  induction h with
  | nil => rfl
  | cons hxy _ ih =>
    rw [equalItems, hxy, ih]
    rfl

theorem Reordered.equal {word : Text → Prop} {v w : Value} (h : v.Reordered w)
    (hv : v.Legible word) : v.equal w = true := by
  induction hv generalizing w with
  | null | bool | int | real | text =>
    cases h
    exact @Legible.equal_self word _ (by constructor <;> assumption)
  | @list xs hxs ih =>
    cases h with
    | refl => exact Legible.equal_self (.list hxs)
    | list hitems =>
      have hequal := (List.forall₂_and_left _ _).mpr ⟨fun x hx w => ih x hx (w := w), hitems⟩
      exact equalItems_of_forall₂ (hequal.imp fun x y hxy => hxy.1 y hxy.2)
  | @record fields hdistinct hwords hfields ih =>
    cases h with
    | refl => exact Legible.equal_self (.record hdistinct hwords hfields)
    | @record _ others moved hnames hvalues hperm =>
      -- Names are distinct, so each field is found by its name wherever it stands.
      have hlength : fields.length = moved.length := by
        rw [← hperm.length_eq, ← List.length_map (f := Prod.fst), hnames, List.length_map]
      have hmoved : (moved.map Prod.fst).Nodup := by
        rwa [← (hperm.map Prod.fst).nodup_iff, ← hnames]
      rw [Value.equal, beq_iff_eq.mpr hlength, Bool.true_and]
      apply equalFields_of_get?
      intro p hp
      obtain ⟨w, hw, hreordered⟩ := exists_reordered hnames hvalues hp
      exact ⟨w, Fields.get?_of_mem hmoved (hperm.mem_iff.mp hw), ih p hp hreordered⟩

end Value

end ChatWindow
