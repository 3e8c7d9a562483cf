import ChatWindow.Proofs.Json.Writing
import ChatWindow.Proofs.Measure
import ChatWindow.Text.Kinds

/-!
# What is read from JSON

Whatever text is read, the value has no byte strings in it and no record with two fields of one
name, since a name that comes again sets the field that is there. A text from which something is
read is not blank.
-/

namespace ChatWindow

theorem Fields.mem_of_mem_set {fields : Fields} {key : Text} {v : Value}
    {p : Text × Value} (h : p ∈ fields.set key v) : p ∈ fields ∨ p = (key, v) := by
  induction fields with
  | nil => exact .inr (List.mem_singleton.mp h)
  | cons q fields ih =>
    rw [set] at h
    split at h
    · next hkey =>
      rcases List.mem_cons.mp h with rfl | h
      · exact .inr (by rw [hkey])
      · exact .inl (List.mem_cons_of_mem q h)
    · rcases List.mem_cons.mp h with rfl | h
      · exact .inl List.mem_cons_self
      · exact (ih h).imp_left (List.mem_cons_of_mem q)

theorem Fields.nodup_set {fields : Fields} (h : (fields.map Prod.fst).Nodup) (key : Text)
    (v : Value) : ((fields.set key v).map Prod.fst).Nodup := by
  induction fields with
  | nil => simp [set]
  | cons q fields ih =>
    rw [List.map_cons, List.nodup_cons] at h
    rw [set]
    split
    · rw [List.map_cons, List.nodup_cons]
      exact h
    · next hne =>
      rw [List.map_cons, List.nodup_cons]
      refine ⟨fun hmem => ?_, ih h.2⟩
      obtain ⟨p, hp, hname⟩ := List.mem_map.mp hmem
      rcases mem_of_mem_set hp with hold | rfl
      · exact h.1 (hname ▸ List.mem_map_of_mem hold)
      · exact hne hname.symm

namespace Json

variable {fuel : Nat} {opening cs rest : List Code} {v : Value}

/-! ## What is left of a text -/

theorem Each.of_suffix {kind : Code → Prop} (h : Each kind cs) (hrest : rest <:+ cs) :
    Each kind rest := fun c hc => h c (hrest.mem hc)

theorem skip_suffix (cs : List Code) : skip cs <:+ cs := List.dropWhile_suffix isSpace

theorem suffix_of_lowUnit? {n : Nat} (h : lowUnit? cs = .ok (some (n, rest))) : rest <:+ cs := by
  rw [lowUnit?.eq_def] at h
  split at h
  · split at h
    · cases h
    · rw [Except.ok.injEq] at h
      split at h
      · cases h
        exact ⟨[_, _, _, _, _, _], rfl⟩
      · cases h
  · cases h

theorem isLow_of_isHigh {c : Code} (h : c.isHigh = true) : c.isLow = false := by
  cases c with
  | char c => cases h
  | half n =>
    simp only [Code.isHigh, Code.isLow, decide_eq_true_eq, decide_eq_false_iff_not] at h ⊢
    exact Fin.not_le.mpr h

/-- A high half is read only where no low one follows, and a low one where the unit was one. -/
theorem scanUnit_spec {c : Code} (h : scanUnit cs = .ok (c, rest)) :
    rest <:+ cs ∧ (c.isHigh = true → lowUnit? rest = .ok none) ∧
      (c.isLow = true → ∃ r, lowUnit? (.char '\\' :: .char 'u' :: cs) = .ok (some r)) := by
  rw [scanUnit.eq_def] at h
  split at h
  · split at h
    · cases h
    · next hunit =>
      split at h
      · next hhigh =>
        split at h
        · cases h
        · next hlow =>
          cases h
          exact ⟨(suffix_of_lowUnit? hlow).trans ⟨[_, _, _, _], rfl⟩, nofun, nofun⟩
        · next hnone =>
          cases h
          refine ⟨⟨[_, _, _, _], rfl⟩, fun _ => hnone, fun hlow => ?_⟩
          exact Bool.noConfusion ((isLow_of_isHigh hhigh).symm.trans hlow)
      · next hhigh =>
        cases h
        refine ⟨⟨[_, _, _, _], rfl⟩, fun h => absurd h hhigh, fun hlow => ?_⟩
        exact ⟨_, by rw [lowUnit?, hunit]; exact congrArg Except.ok (if_pos hlow)⟩
  · cases h

theorem scanChar_spec {r : Option Code} (h : scanChar opening cs = .ok (r, rest)) :
    rest <:+ cs ∧ (Each (fun d => d.isHalf = false) cs → ∀ c, r = some c →
      (c.isHigh = true → lowUnit? rest = .ok none) ∧
      (c.isLow = true → ∃ r, lowUnit? cs = .ok (some r))) := by
  have hwhole : ∀ c : Code, c.isHalf = false → (c.isHigh = true → lowUnit? rest = .ok none) ∧
      (c.isLow = true → ∃ r, lowUnit? cs = .ok (some r)) := by
    intro c hc
    cases c with
    | char c => simp [Code.isHigh, Code.isLow]
    | half n => cases hc
  rw [scanChar.eq_def] at h
  split at h
  · cases h
  · cases h
    refine ⟨List.suffix_cons _ _, fun _ c hc => ?_⟩
    cases hc
  · split at h
    · cases h
    · obtain ⟨⟨c, after⟩, hunit, heq⟩ := map_eq_ok.mp h
      cases heq
      obtain ⟨hsuffix, hspec⟩ := scanUnit_spec hunit
      refine ⟨hsuffix.trans ⟨[_, _], rfl⟩, fun _ d hd => ?_⟩
      cases hd
      exact hspec
    · split at h
      · cases h
        refine ⟨⟨[_, _], rfl⟩, fun _ d hd => ?_⟩
        cases hd
        exact hwhole _ rfl
      · cases h
  · split at h
    · cases h
    · cases h
      refine ⟨List.suffix_cons _ _, fun hcs d hd => ?_⟩
      cases hd
      exact hwhole _ (hcs _ List.mem_cons_self)

theorem suffix_of_scanText {read : List Code} {t : Text}
    (h : scanText opening fuel read cs = .ok (t, rest)) : rest <:+ cs := by
  induction fuel generalizing read cs with
  | zero => cases h
  | succ fuel ih =>
    rw [scanText] at h
    split at h
    · cases h
    · next hnone =>
      cases h
      exact (scanChar_spec hnone).1
    · next hsome => exact (ih h).trans (scanChar_spec hsome).1

/-- From a text of characters no text is read in which a pair is split. -/
theorem unsplit_of_scanText {read : List Code} {t : Text}
    (hcs : Each (fun d => d.isHalf = false) cs) (hread : read.reverse.IsChain Code.Apart)
    (hlast : ∀ c ∈ read.head?, c.isHigh = true → lowUnit? cs = .ok none)
    (h : scanText opening fuel read cs = .ok (t, rest)) : t.Unsplit := by
  -- What has been read is unsplit, and no low unit follows a high half that was read last.
  induction fuel generalizing read cs with
  | zero => cases h
  | succ fuel ih =>
    rw [scanText] at h
    split at h
    · cases h
    · cases h
      rw [Text.Unsplit, Text.codes_ofCodes]
      exact hread
    · next c after hsome =>
      obtain ⟨hsuffix, hspec⟩ := scanChar_spec hsome
      obtain ⟨hhigh, hlow⟩ := hspec hcs c rfl
      refine ih (hcs.of_suffix hsuffix) ?_ ?_ h
      · rw [List.reverse_cons, List.isChain_append]
        refine ⟨hread, List.isChain_singleton c, fun d hd e he hdhigh => ?_⟩
        rw [List.getLast?_reverse] at hd
        cases he
        -- What follows a high half was not a low unit, and so it is no low half.
        rw [Bool.eq_false_iff]
        intro helow
        obtain ⟨r, hr⟩ := hlow helow
        cases (hlast d hd hdhigh).symm.trans hr
      · rintro d ⟨⟩
        exact hhigh

theorem suffix_of_text? {t : Text} (h : text? opening cs = .ok (t, rest)) : rest <:+ cs :=
  suffix_of_scanText h

theorem suffix_of_word? {r : Value × List Code} (h : word? cs = some r) : r.2 <:+ cs := by
  rw [word?.eq_def] at h
  split at h <;> cases h
  · exact ⟨[_, _, _, _], rfl⟩
  · exact ⟨[_, _, _, _], rfl⟩
  · exact ⟨[_, _, _, _, _], rfl⟩
  · exact ⟨[_, _, _], rfl⟩
  · exact ⟨[_, _, _, _, _, _, _, _], rfl⟩
  · exact ⟨[_, _, _, _, _, _, _, _, _], rfl⟩

theorem wholePart_suffix (cs : List Code) : (wholePart cs).2 <:+ cs := by
  rw [wholePart.eq_def]
  split
  · exact List.suffix_cons _ _
  · exact List.dropWhile_suffix _

theorem fraction_suffix (cs : List Code) : (fraction cs).2 <:+ cs := by
  rw [fraction.eq_def]
  split
  · split
    · exact List.suffix_refl _
    · exact (List.dropWhile_suffix _).trans (List.suffix_cons _ _)
  · exact List.suffix_refl _

theorem exponentSign_suffix (cs : List Code) : (exponentSign cs).2 <:+ cs := by
  rw [exponentSign.eq_def]
  split
  · exact List.suffix_cons _ _
  · exact List.suffix_cons _ _
  · exact List.suffix_refl _

theorem suffix_of_exponent? {r : Int × List Code} (h : exponent? cs = some r) : r.2 <:+ cs := by
  rw [exponent?.eq_def] at h
  split at h
  · next tail =>
    dsimp only at h
    split at h
    · split at h
      · cases h
      · cases h
        exact ((List.dropWhile_suffix _).trans (exponentSign_suffix tail)).trans
          (List.suffix_cons _ _)
    · cases h
  · cases h

theorem suffix_of_unsigned? {negative : Bool} {r : Value × List Code}
    (h : unsigned? negative cs = some r) : r.2 <:+ cs := by
  have hplaces : (fraction (wholePart cs).2).2 <:+ cs :=
    (fraction_suffix _).trans (wholePart_suffix cs)
  rw [unsigned?] at h
  dsimp only at h
  split at h
  · cases h
  · split at h
    · next hexponent =>
      cases h
      exact (suffix_of_exponent? hexponent).trans hplaces
    · split at h <;> cases h <;> exact hplaces

theorem suffix_of_number? {r : Value × List Code} (h : number? cs = some r) : r.2 <:+ cs := by
  rw [number?.eq_def] at h
  split at h
  · exact (suffix_of_unsigned? h).trans (List.suffix_cons _ _)
  · exact suffix_of_unsigned? h

theorem suffix_of_scalar {r : Value × List Code} (h : scalar cs = .ok r) : r.2 <:+ cs := by
  rw [scalar] at h
  split at h
  · next hword =>
    cases h
    exact suffix_of_word? hword
  · split at h
    · next hnumber =>
      cases h
      exact suffix_of_number? hnumber
    · cases h

/-! ## What is read -/

/-- Where only such codes stand, only such texts are read. -/
def Yields (code : Code → Prop) (word : Text → Prop) : Prop :=
  ∀ {opening cs rest t}, Each code cs → text? opening cs = .ok (t, rest) → word t

theorem yields_unsplit : Yields (fun c => c.isHalf = false) Text.Unsplit := by
  intro opening cs rest t hcs h
  refine unsplit_of_scanText hcs List.isChain_nil (fun c hc => ?_) h
  cases hc

variable {code : Code → Prop} {word : Text → Prop}

theorem legible_of_word? {r : Value × List Code} (h : word? cs = some r) : r.1.Legible word := by
  rw [word?.eq_def] at h
  split at h <;> cases h
  · exact .null
  · exact .bool true
  · exact .bool false
  all_goals exact .real _

theorem legible_of_number? {r : Value × List Code} (h : number? cs = some r) :
    r.1.Legible word := by
  obtain ⟨negative, body, h⟩ : ∃ negative body, unsigned? negative body = some r := by
    rw [number?.eq_def] at h
    split at h
    · exact ⟨true, _, h⟩
    · exact ⟨false, _, h⟩
  rw [unsigned?] at h
  dsimp only at h
  split at h
  · cases h
  · split at h
    · cases h
      exact .real _
    · split at h
      · cases h
        exact .int _
      · cases h
        exact .real _

theorem legible_of_scalar {r : Value × List Code} (h : scalar cs = .ok r) : r.1.Legible word := by
  rw [scalar] at h
  split at h
  · next hword =>
    cases h
    exact legible_of_word? hword
  · split at h
    · next hnumber =>
      cases h
      exact legible_of_number? hnumber
    · cases h

/-- What is returned with so much fuel is a value of JSON, if what was read before it is, and in
what is left there are no other codes. -/
structure Decodes (code : Code → Prop) (word : Text → Prop) (fuel : Nat) : Prop where
  value : ∀ {cs v rest}, Each code cs → parseValue fuel cs = .ok (v, rest) →
    v.Legible word ∧ Each code rest
  items : ∀ {read cs v rest}, Each code cs → (∀ x ∈ read, x.Legible word) →
    parseItems fuel read cs = .ok (v, rest) → v.Legible word ∧ Each code rest
  fields : ∀ {read : Fields} {cs v rest}, Each code cs → (read.map Prod.fst).Nodup →
    (∀ p ∈ read, word p.1) → (∀ p ∈ read, p.2.Legible word) →
    parseFields fuel read cs = .ok (v, rest) → v.Legible word ∧ Each code rest

theorem Each.skip_cons {c : Code} {tail : List Code} (h : Each code cs)
    (hskip : skip cs = c :: tail) : Each code tail :=
  (each_cons.mp (hskip ▸ h.of_suffix (skip_suffix cs))).2

theorem Decodes.value_succ (hyields : Yields code word) (h : Decodes code word fuel)
    (hcs : Each code cs) (hparse : parseValue (fuel + 1) cs = .ok (v, rest)) :
    v.Legible word ∧ Each code rest := by
  have hnone : (([] : Fields).map Prod.fst).Nodup := List.nodup_nil
  rw [parseValue.eq_def] at hparse
  dsimp only at hparse
  split at hparse
  · obtain ⟨⟨t, after⟩, htext, heq⟩ := map_eq_ok.mp hparse
    cases heq
    have htail := (each_cons.mp hcs).2
    exact ⟨.text (hyields htail htext), htail.of_suffix (suffix_of_text? htext)⟩
  · have htail := (each_cons.mp hcs).2
    split at hparse
    · next hskip =>
      cases hparse
      exact ⟨.list (List.forall_mem_nil _), htail.skip_cons hskip⟩
    · exact h.items (htail.of_suffix (skip_suffix _)) (List.forall_mem_nil _) hparse
  · have htail := (each_cons.mp hcs).2
    split at hparse
    · next hskip =>
      cases hparse
      exact ⟨.record hnone (List.forall_mem_nil _) (List.forall_mem_nil _),
        htail.skip_cons hskip⟩
    · exact h.fields (htail.of_suffix (skip_suffix _)) hnone (List.forall_mem_nil _)
        (List.forall_mem_nil _) hparse
  · exact ⟨legible_of_scalar hparse, hcs.of_suffix (suffix_of_scalar hparse)⟩

theorem Decodes.items_succ (h : Decodes code word fuel) {read : List Value} (hcs : Each code cs)
    (hread : ∀ x ∈ read, x.Legible word) (hparse : parseItems (fuel + 1) read cs = .ok (v, rest)) :
    v.Legible word ∧ Each code rest := by
  rw [parseItems] at hparse
  split at hparse
  · cases hparse
  · next x after hx =>
    obtain ⟨hlegible, hafter⟩ := h.value hcs hx
    have hmore : ∀ y ∈ x :: read, y.Legible word := List.forall_mem_cons.mpr ⟨hlegible, hread⟩
    split at hparse
    · next hskip =>
      cases hparse
      exact ⟨.list fun y hy => hmore y (List.mem_reverse.mp hy), hafter.skip_cons hskip⟩
    · next hskip =>
      exact h.items ((hafter.skip_cons hskip).of_suffix (skip_suffix _)) hmore hparse
    · cases hparse

theorem Decodes.fields_succ (hyields : Yields code word) (h : Decodes code word fuel)
    {read : Fields} (hcs : Each code cs) (hdistinct : (read.map Prod.fst).Nodup)
    (hnames : ∀ p ∈ read, word p.1) (hread : ∀ p ∈ read, p.2.Legible word)
    (hparse : parseFields (fuel + 1) read cs = .ok (v, rest)) :
    v.Legible word ∧ Each code rest := by
  rw [parseFields.eq_def] at hparse
  dsimp only at hparse
  split at hparse
  · have htail := (each_cons.mp hcs).2
    split at hparse
    · cases hparse
    · next key behind hkey =>
      have hbehind := htail.of_suffix (suffix_of_text? hkey)
      split at hparse
      · next hcolon =>
        split at hparse
        · cases hparse
        · next w after hw =>
          obtain ⟨hlegible, hafter⟩ :=
            h.value ((hbehind.skip_cons hcolon).of_suffix (skip_suffix _)) hw
          have hset := Fields.nodup_set hdistinct key w
          have hmore : ∀ p ∈ read.set key w, word p.1 ∧ p.2.Legible word := by
            intro p hp
            rcases Fields.mem_of_mem_set hp with hp | rfl
            · exact ⟨hnames p hp, hread p hp⟩
            · exact ⟨hyields htail hkey, hlegible⟩
          split at hparse
          · next hskip =>
            cases hparse
            exact ⟨.record hset (fun p hp => (hmore p hp).1) fun p hp => (hmore p hp).2,
              hafter.skip_cons hskip⟩
          · next hskip =>
            exact h.fields ((hafter.skip_cons hskip).of_suffix (skip_suffix _)) hset
              (fun p hp => (hmore p hp).1) (fun p hp => (hmore p hp).2) hparse
          · cases hparse
      · cases hparse
  · cases hparse

theorem decodes (hyields : Yields code word) (fuel : Nat) : Decodes code word fuel := by
  induction fuel with
  | zero =>
    refine ⟨fun _ h => ?_, fun _ _ h => ?_, fun _ _ _ _ h => ?_⟩
    · rw [parseValue] at h
      cases h
    · rw [parseItems] at h
      cases h
    · rw [parseFields] at h
      cases h
  | succ fuel ih =>
    exact ⟨fun hcs h => ih.value_succ hyields hcs h, fun hcs hread h => ih.items_succ hcs hread h,
      fun hcs hdistinct hnames hread h => ih.fields_succ hyields hcs hdistinct hnames hread h⟩

theorem exists_parseValue_of_parse {t : Text} (h : parse t = .ok v) :
    ∃ fuel rest, parseValue (fuel + 1) (skip t.codes) = .ok (v, rest) := by
  rw [parse, parseCodes] at h
  split at h
  · cases h
  · split at h
    · cases h
    · next hvalue =>
      split at h
      · cases h
        exact ⟨_, _, hvalue⟩
      · cases h

theorem legible_of_parse (hyields : Yields code word) {t : Text} (ht : Each code t.codes)
    (h : parse t = .ok v) : v.Legible word := by
  obtain ⟨fuel, rest, hvalue⟩ := exists_parseValue_of_parse h
  exact ((decodes hyields (fuel + 1)).value (ht.of_suffix (skip_suffix _)) hvalue).1

/-- No pair is split in what is read from the text, if anything is. -/
def Whole (t : Text) : Prop := ∀ v, parse t = .ok v → v.Recoverable

theorem whole_plain (s : String) : Whole s := by
  refine fun v => legible_of_parse yields_unsplit ?_
  rw [Text.codes_plain]
  exact List.forall_mem_map.mpr fun _ _ => rfl

theorem Starts.not_blank {c : Code} (h : Starts c) : Code.isBlank c = false := by
  have hc : (!Code.isBlank c) = true :=
    h.elim (p := fun c => !Code.isBlank c) (by decide) (by decide)
  rwa [Bool.not_eq_true'] at hc

theorem not_blank_of_parseValue {c : Code} (h : parseValue (fuel + 1) (c :: cs) = .ok (v, rest)) :
    Code.isBlank c = false := by
  rw [parseValue.eq_def] at h
  dsimp only at h
  split at h
  · next heq =>
    cases heq
    rfl
  · next heq =>
    cases heq
    rfl
  · next heq =>
    cases heq
    rfl
  · obtain ⟨_, _, heq, hc⟩ := exists_starts_of_scalar h
    cases heq
    exact hc.not_blank

theorem not_blank_of_parse {t : Text} (h : parse t = .ok v) :
    t.codes.all Code.isBlank = false := by
  obtain ⟨fuel, rest, hvalue⟩ := exists_parseValue_of_parse h
  cases hskip : skip t.codes with
  | nil =>
    rw [hskip, parseValue.eq_def] at hvalue
    cases hvalue
  | cons c tail =>
    rw [hskip] at hvalue
    have hmem : c ∈ t.codes := by
      apply (List.dropWhile_sublist isSpace).mem
      rw [← skip, hskip]
      exact List.mem_cons_self
    rw [List.all_eq_false]
    exact ⟨c, hmem, by rw [not_blank_of_parseValue hvalue]; exact Bool.false_ne_true⟩

end Json

end ChatWindow
