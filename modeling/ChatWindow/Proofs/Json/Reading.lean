import ChatWindow.Proofs.Json.Number
import ChatWindow.Proofs.Json.Text

/-!
# Texts that spell a value

A relation says which texts spell a value: its items stand one behind the other, with blanks only
after a comma or a colon, its texts are written legibly, and no two fields have one name. It knows
nothing of the reader; the theorem is that the reader gets the value back from every text that
spells it, whatever stands behind, with twice as much fuel as there are characters.
-/

namespace ChatWindow

theorem Fields.set_of_not_mem {fields : Fields} {key : Text} (v : Value)
    (h : key ∉ fields.map Prod.fst) : fields.set key v = fields ++ [(key, v)] := by
  induction fields with
  | nil => rfl
  | cons p fields ih =>
    rw [List.map_cons, List.mem_cons, not_or] at h
    rw [Fields.set, if_neg (Ne.symm h.1), ih h.2, List.cons_append]

namespace Json

def Blanks (gap : List Code) : Prop := ∀ c ∈ gap, isSpace c = true

instance (gap : List Code) : Decidable (Blanks gap) :=
  List.decidableBAll (isSpace · = true) gap

def Quoted (t : Text) (cs : List Code) : Prop :=
  t.Unsplit ∧ ∃ escape, Legible escape ∧ cs = .char '"' :: t.codes.flatMap escape ++ [.char '"']

mutual

inductive Spells : Value → List Code → Prop
  | null : Spells .null ['n', 'u', 'l', 'l']
  | yes : Spells (.bool true) ['t', 'r', 'u', 'e']
  | no : Spells (.bool false) ['f', 'a', 'l', 's', 'e']
  | int (n : Int) : Spells (.int n) (writeInt n)
  | real (x : Float) : Spells (.real x) (writeReal x)
  | text {s cs} : Quoted s cs → Spells (.text s) cs
  | emptyList : Spells (.list []) ['[', ']']
  | list {xs cs} : SpellsItems xs cs → Spells (.list xs) ('[' :: cs)
  | emptyRecord : Spells (.record []) ['\x7b', '\x7d']
  | record {fields cs} : (fields.map Prod.fst).Nodup → SpellsFields fields cs →
      Spells (.record fields) ('\x7b' :: cs)

inductive SpellsItems : List Value → List Code → Prop
  | last {x cs} : Spells x cs → SpellsItems [x] (cs ++ [.char ']'])
  | more {x cs gap xs ds} : Spells x cs → Blanks gap → SpellsItems xs ds →
      SpellsItems (x :: xs) (cs ++ .char ',' :: gap ++ ds)

inductive SpellsFields : Fields → List Code → Prop
  | last {k ks gap v cs} : Quoted k ks → Blanks gap → Spells v cs →
      SpellsFields [(k, v)] (ks ++ .char ':' :: gap ++ cs ++ [.char '\x7d'])
  | more {k ks gap v cs gap' fields ds} : Quoted k ks → Blanks gap → Spells v cs →
      Blanks gap' → SpellsFields fields ds →
      SpellsFields ((k, v) :: fields) (ks ++ .char ':' :: gap ++ cs ++ .char ',' :: gap' ++ ds)

end

theorem skip_cons {c : Code} (h : isSpace c = false) (cs : List Code) : skip (c :: cs) = c :: cs :=
  List.dropWhile_cons_of_neg (by simp [h])

theorem skip_blanks {gap : List Code} (h : Blanks gap) (cs : List Code) :
    skip (gap ++ cs) = skip cs := List.dropWhile_append_of_pos h

def Opens (cs : List Code) : Prop :=
  ∃ c tail, cs = c :: tail ∧ isSpace c = false ∧ c ≠ ']' ∧ c ≠ '\x7d' ∧ c ≠ Char.ofNat 0xfeff

theorem Opens.append {cs : List Code} (h : Opens cs) (rest : List Code) : Opens (cs ++ rest) := by
  obtain ⟨c, tail, rfl, hc⟩ := h
  exact ⟨c, tail ++ rest, rfl, hc⟩

theorem Opens.skip {cs : List Code} (h : Opens cs) : Json.skip cs = cs := by
  obtain ⟨c, tail, rfl, hspace, -⟩ := h
  exact skip_cons hspace tail

theorem Quoted.opens {t : Text} {cs : List Code} (h : Quoted t cs) : Opens cs := by
  obtain ⟨-, escape, -, rfl⟩ := h
  exact ⟨'"', _, rfl, by decide⟩

theorem Starts.opens {c : Code} (h : Starts c) (tail : List Code) : Opens (c :: tail) := by
  have hc : (!isSpace c && c != ']' && c != '\x7d' && c != Char.ofNat 0xfeff) = true :=
    h.elim (p := fun c => !isSpace c && c != ']' && c != '\x7d' && c != Char.ofNat 0xfeff)
      (by decide) (by decide)
  simp only [Bool.and_eq_true, Bool.not_eq_true', bne_iff_ne, and_assoc] at hc
  exact ⟨c, tail, rfl, hc⟩

theorem opens_of_scalar {v : Value} {cs : List Code} (h : scalar (cs ++ []) = .ok (v, [])) :
    Opens cs := by
  rw [List.append_nil] at h
  obtain ⟨c, tail, rfl, hc⟩ := exists_starts_of_scalar h
  exact hc.opens tail

theorem Spells.opens {v : Value} {cs : List Code} (h : Spells v cs) : Opens cs := by
  cases h with
  | null => exact ⟨'n', _, rfl, by decide⟩
  | yes => exact ⟨'t', _, rfl, by decide⟩
  | no => exact ⟨'f', _, rfl, by decide⟩
  | int n => exact opens_of_scalar (scalar_writeInt n ended_nil)
  | real x => exact opens_of_scalar (scalar_writeReal x ended_nil)
  | text hs => exact hs.opens
  | emptyList => exact ⟨'[', _, rfl, by decide⟩
  | list => exact ⟨'[', _, rfl, by decide⟩
  | emptyRecord => exact ⟨'\x7b', _, rfl, by decide⟩
  | record => exact ⟨'\x7b', _, rfl, by decide⟩

theorem Opens.head?_ne_mark {cs : List Code} (h : Opens cs) :
    cs.head? ≠ some (.char (Char.ofNat 0xfeff)) := by
  obtain ⟨c, tail, rfl, -, -, -, hmark⟩ := h
  rintro ⟨⟩
  exact hmark rfl

theorem Opens.pos {cs : List Code} (h : Opens cs) : 0 < cs.length := by
  obtain ⟨c, tail, rfl, -⟩ := h
  exact Nat.succ_pos _

theorem SpellsItems.opens {xs : List Value} {cs : List Code} (h : SpellsItems xs cs) :
    Opens cs := by
  cases h with
  | last hx => exact hx.opens.append _
  | more hx => exact (hx.opens.append _).append _

theorem SpellsFields.opens {fields : Fields} {cs : List Code} (h : SpellsFields fields cs) :
    Opens cs := by
  cases h with
  | last hk => exact ((hk.opens.append _).append _).append _
  | more hk => exact (((hk.opens.append _).append _).append _).append _

theorem text?_of_quoted {t : Text} {cs : List Code} (h : Quoted t cs) (rest : List Code) :
    ∃ tail, cs ++ rest = .char '"' :: tail ∧ text? ('"' :: tail) tail = .ok (t, rest) := by
  obtain ⟨ht, escape, hlegible, rfl⟩ := h
  refine ⟨t.codes.flatMap escape ++ .char '"' :: rest, ?_, text?_flatMap hlegible _ rest ht⟩
  simp only [List.cons_append, List.append_assoc, List.nil_append]

theorem parseValue_of_scalar (fuel : Nat) {cs : List Code} {r : Value × List Code}
    (h : scalar cs = .ok r) : parseValue (fuel + 1) cs = .ok r := by
  obtain ⟨c, tail, rfl, hc⟩ := exists_starts_of_scalar h
  have hmarks : (c != '"' && c != '[' && c != '\x7b') = true :=
    hc.elim (p := fun c => c != '"' && c != '[' && c != '\x7b') (by decide) (by decide)
  rw [← h, parseValue.eq_def]
  dsimp only
  split <;> simp_all

theorem parseValue_of_text (fuel : Nat) {t : Text} {cs : List Code} (h : Quoted t cs)
    (rest : List Code) : parseValue (fuel + 1) (cs ++ rest) = .ok (.text t, rest) := by
  obtain ⟨tail, htail, htext⟩ := text?_of_quoted h rest
  rw [htail, parseValue, htext]
  rfl

theorem parseValue_of_list (fuel : Nat) {cs : List Code} (h : Opens cs) :
    parseValue (fuel + 1) ('[' :: cs) = parseItems fuel [] cs := by
  rw [parseValue, h.skip]
  obtain ⟨c, tail, rfl, -, hne, -⟩ := h
  split
  · simp_all
  · rfl

theorem parseValue_of_record (fuel : Nat) {cs : List Code} (h : Opens cs) :
    parseValue (fuel + 1) ('\x7b' :: cs) = parseFields fuel [] cs := by
  rw [parseValue, h.skip]
  obtain ⟨c, tail, rfl, -, -, hne, -⟩ := h
  split
  · simp_all
  · rfl

/-- What is read with so much fuel from a text that spells a value, items or fields. -/
structure Reads (fuel : Nat) : Prop where
  value : ∀ {v cs rest}, Spells v cs → 2 * cs.length ≤ fuel → Ended rest →
    parseValue fuel (cs ++ rest) = .ok (v, rest)
  items : ∀ {xs cs} read rest, SpellsItems xs cs → 2 * cs.length ≤ fuel →
    parseItems fuel read (cs ++ rest) = .ok (.list (read.reverse ++ xs), rest)
  fields : ∀ {fields cs} (read : Fields) rest, SpellsFields fields cs → 2 * cs.length ≤ fuel →
    ((read ++ fields).map Prod.fst).Nodup →
    parseFields fuel read (cs ++ rest) = .ok (.record (read ++ fields), rest)

variable {fuel : Nat}

theorem Reads.value_succ (h : Reads fuel) {v : Value} {cs rest : List Code} (hv : Spells v cs)
    (hfuel : 2 * cs.length ≤ fuel + 1) (hrest : Ended rest) :
    parseValue (fuel + 1) (cs ++ rest) = .ok (v, rest) := by
  cases hv with
  | null => rfl
  | yes => rfl
  | no => rfl
  | int n => exact parseValue_of_scalar fuel (scalar_writeInt n hrest)
  | real x => exact parseValue_of_scalar fuel (scalar_writeReal x hrest)
  | text hs => exact parseValue_of_text fuel hs rest
  | emptyList => rfl
  | list hxs =>
    rw [List.length_cons] at hfuel
    rw [List.cons_append, parseValue_of_list fuel (hxs.opens.append rest)]
    exact h.items [] rest hxs (by omega)
  | emptyRecord => rfl
  | record hdistinct hfields =>
    rw [List.length_cons] at hfuel
    rw [List.cons_append, parseValue_of_record fuel (hfields.opens.append rest)]
    exact h.fields [] rest hfields (by omega) hdistinct

theorem Reads.items_succ (h : Reads fuel) {xs : List Value} {cs : List Code}
    (read : List Value) (rest : List Code) (hxs : SpellsItems xs cs)
    (hfuel : 2 * cs.length ≤ fuel + 1) :
    parseItems (fuel + 1) read (cs ++ rest) = .ok (.list (read.reverse ++ xs), rest) := by
  cases hxs with
  | @last x cs hx =>
    rw [List.length_append, List.length_singleton] at hfuel
    have hvalue : parseValue fuel (cs ++ .char ']' :: rest) = .ok (x, ']' :: rest) :=
      h.value hx (by omega) (ended_cons rest (by decide))
    rw [List.append_assoc, List.singleton_append, parseItems, hvalue]
    simp only [skip_cons (show isSpace (.char ']') = false from rfl), List.reverse_cons]
  | @more x cs gap xs ds hx hgap hxs =>
    simp only [List.length_append, List.length_cons] at hfuel
    have hpos := hx.opens.pos
    have hvalue : parseValue fuel (cs ++ .char ',' :: (gap ++ (ds ++ rest))) =
        .ok (x, ',' :: (gap ++ (ds ++ rest))) :=
      h.value hx (by omega) (ended_cons _ (by decide))
    have hitems := h.items (x :: read) rest hxs (by omega)
    simp only [List.append_assoc, List.cons_append]
    rw [parseItems, hvalue]
    simp only [skip_cons (show isSpace (.char ',') = false from rfl), skip_blanks hgap,
      (hxs.opens.append rest).skip, hitems, List.reverse_cons, List.append_assoc,
      List.singleton_append]

theorem set_of_nodup {read fields : Fields} {k : Text} (v : Value)
    (h : ((read ++ (k, v) :: fields).map Prod.fst).Nodup) : read.set k v = read ++ [(k, v)] := by
  refine Fields.set_of_not_mem v fun hk => ?_
  rw [List.map_append, List.nodup_append] at h
  exact h.2.2 k hk k (List.mem_cons_self ..) rfl

theorem Reads.fields_succ (h : Reads fuel) {fields : Fields} {cs : List Code}
    (read : Fields) (rest : List Code) (hfields : SpellsFields fields cs)
    (hfuel : 2 * cs.length ≤ fuel + 1)
    (hdistinct : ((read ++ fields).map Prod.fst).Nodup) :
    parseFields (fuel + 1) read (cs ++ rest) = .ok (.record (read ++ fields), rest) := by
  cases hfields with
  | @last k ks gap v cs hk hgap hv =>
    simp only [List.length_append, List.length_cons, List.length_nil] at hfuel
    have hvalue : parseValue fuel (cs ++ .char '\x7d' :: rest) = .ok (v, '\x7d' :: rest) :=
      h.value hv (by omega) (ended_cons rest (by decide))
    obtain ⟨tail, htail, htext⟩ := text?_of_quoted hk (':' :: (gap ++ (cs ++ .char '\x7d' :: rest)))
    simp only [List.append_assoc, List.cons_append, List.nil_append]
    rw [htail, parseFields, htext]
    simp only [skip_cons (show isSpace (.char ':') = false from rfl), skip_blanks hgap,
      (hv.opens.append _).skip, hvalue, skip_cons (show isSpace (.char '\x7d') = false from rfl),
      set_of_nodup v hdistinct]
  | @more k ks gap v cs gap' fields ds hk hgap hv hgap' hfields =>
    simp only [List.length_append, List.length_cons] at hfuel
    have hpos := hv.opens.pos
    have hvalue : parseValue fuel (cs ++ .char ',' :: (gap' ++ (ds ++ rest))) =
        .ok (v, ',' :: (gap' ++ (ds ++ rest))) :=
      h.value hv (by omega) (ended_cons _ (by decide))
    have hset := set_of_nodup v hdistinct
    rw [List.append_cons] at hdistinct
    have hrest := h.fields (read ++ [(k, v)]) rest hfields (by omega) hdistinct
    obtain ⟨tail, htail, htext⟩ :=
      text?_of_quoted hk (':' :: (gap ++ (cs ++ .char ',' :: (gap' ++ (ds ++ rest)))))
    simp only [List.append_assoc, List.cons_append]
    rw [htail, parseFields, htext]
    simp only [skip_cons (show isSpace (.char ':') = false from rfl), skip_blanks hgap,
      (hv.opens.append _).skip, hvalue, skip_cons (show isSpace (.char ',') = false from rfl),
      skip_blanks hgap', (hfields.opens.append rest).skip, hset, hrest, List.append_assoc,
      List.singleton_append]

theorem reads (fuel : Nat) : Reads fuel := by
  induction fuel with
  | zero =>
    refine ⟨fun hv hfuel => ?_, fun _ _ hxs hfuel => ?_, fun _ _ hfields hfuel => ?_⟩
    · exact absurd hv.opens.pos (by omega)
    · exact absurd hxs.opens.pos (by omega)
    · exact absurd hfields.opens.pos (by omega)
  | succ fuel ih => exact ⟨ih.value_succ, ih.items_succ, ih.fields_succ⟩

/-- A text that spells a value is read as that value. -/
theorem parseCodes_of_spells {v : Value} {cs : List Code} (h : Spells v cs) :
    parseCodes cs = .ok v := by
  have hread := (reads (2 * cs.length + 2)).value h (by omega) ended_nil
  rw [List.append_nil] at hread
  rw [parseCodes, if_neg h.opens.head?_ne_mark, h.opens.skip, hread]
  rfl

end Json

end ChatWindow
