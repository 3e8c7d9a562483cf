import ChatWindow.Json.Parser
import ChatWindow.Json.Printer
import ChatWindow.Proofs.Number.Decimal

/-!
# Numbers of JSON

The digits before the point are read together as long as no zero stands in front of them, and so are
those behind it and those of the exponent. A number that is written, whole or not, reads back as
itself where nothing follows that would make it longer: no digit, no point, no exponent.
-/

namespace ChatWindow.Json

/-- What no number in front of it goes on into. -/
def Ended (rest : List Code) : Prop :=
  ∀ c, rest.head? = some c → c.isDigit = false ∧ c ≠ '.' ∧ c ≠ 'e' ∧ c ≠ 'E'

theorem ended_nil : Ended [] := by
  rintro c ⟨⟩

theorem ended_cons {c : Code} (rest : List Code)
    (h : c.isDigit = false ∧ c ≠ '.' ∧ c ≠ 'e' ∧ c ≠ 'E') : Ended (c :: rest) := by
  rintro c' ⟨⟩
  exact h

/-! ## Runs of digits -/

/-- What neither digits nor a point in front of it go on into. -/
def Blunt (rest : List Code) : Prop := ∀ c, rest.head? = some c → c.isDigit = false ∧ c ≠ '.'

theorem Ended.blunt {rest : List Code} (h : Ended rest) : Blunt rest :=
  fun c hc => ⟨(h c hc).1, (h c hc).2.1⟩

theorem blunt_exponent (e : Int) (rest : List Code) :
    Blunt ((Shortest.exponentChars e).map .char ++ rest) := by
  rintro c ⟨⟩
  decide

theorem natOf_digits (digits : List Char) :
    natOf (digits.map .char) = Nat.ofDigitChars 10 digits 0 := by
  rw [natOf, List.foldl_map]
  rfl

theorem span_digits {digits : List Char} (hdigits : ∀ c ∈ digits, c.isDigit = true)
    {rest : List Code} (hrest : ∀ c, rest.head? = some c → c.isDigit = false) :
    (digits.map Code.char ++ rest).takeWhile Code.isDigit = digits.map .char ∧
      (digits.map Code.char ++ rest).dropWhile Code.isDigit = rest := by
  have hcodes : ∀ c ∈ digits.map Code.char, c.isDigit = true := List.forall_mem_map.mpr hdigits
  rw [List.takeWhile_append_of_pos hcodes, List.dropWhile_append_of_pos hcodes]
  cases rest with
  | nil => simp
  | cons c rest => simp [hrest c rfl]

def Leading (digits : List Char) : Prop := digits = ['0'] ∨ Significant digits

theorem leading_digits (n : Nat) : Leading (Nat.toDigits 10 n) := by
  obtain rfl | hn := Decidable.eq_or_ne n 0
  · exact .inl rfl
  · exact .inr (significant_digits hn)

theorem wholePart_of_leading {digits : List Char} (h : Leading digits) {rest : List Code}
    (hrest : ∀ c, rest.head? = some c → c.isDigit = false) :
    wholePart (digits.map .char ++ rest) = (digits.map .char, rest) := by
  obtain rfl | hdigits := h
  · rfl
  have hspan := span_digits hdigits.isDigit hrest
  obtain ⟨d, tail, rfl⟩ := List.exists_cons_of_ne_nil hdigits.ne_nil
  have hzero := hdigits.head_ne_zero
  rw [wholePart.eq_def]
  split
  · simp_all
  · exact Prod.ext hspan.1 hspan.2

def pointed (places : List Char) : List Char := if places.isEmpty then [] else '.' :: places

theorem fraction_pointed {places : List Char} (h : ∀ c ∈ places, c.isDigit = true)
    {rest : List Code} (hrest : Blunt rest) :
    fraction ((pointed places).map .char ++ rest) = (places.map .char, rest) := by
  cases places with
  | nil =>
    change fraction rest = ([], rest)
    rw [fraction.eq_def]
    split
    · exact absurd rfl (hrest '.' rfl).2
    · rfl
  | cons c places =>
    have hspan := span_digits h fun c hc => (hrest c hc).1
    change fraction (.char '.' :: ((c :: places).map .char ++ rest)) = _
    rw [fraction, hspan.1, hspan.2]
    rfl

theorem exponent?_of_ended {rest : List Code} (h : Ended rest) : exponent? rest = none := by
  cases rest with
  | nil => rfl
  | cons c rest =>
    obtain ⟨-, -, hsmall, hlarge⟩ := h c rfl
    exact if_neg (not_or.mpr ⟨hsmall, hlarge⟩)

theorem padded_spec (n width : Nat) : (∀ c ∈ Shortest.padded n width, c.isDigit = true) ∧
    Shortest.padded n width ≠ [] ∧ Nat.ofDigitChars 10 (Shortest.padded n width) 0 = n := by
  refine ⟨fun c hc => ?_, ?_, ?_⟩
  · exact (List.mem_append.mp hc).elim Shortest.isDigit_of_mem_zeros isDigit_of_mem_digits
  · exact List.append_ne_nil_of_right_ne_nil _ Nat.toDigits_ne_nil
  · rw [Shortest.padded, Shortest.ofDigitChars_zeros_append, Nat.ofDigitChars_ten_toDigits]

theorem exponent?_exponentChars (e : Int) {rest : List Code} (h : Ended rest) :
    exponent? ((Shortest.exponentChars e).map .char ++ rest) = some (e, rest) := by
  obtain ⟨hdigits, hne, hvalue⟩ := padded_spec e.natAbs 2
  obtain ⟨htake, hdrop⟩ := span_digits hdigits fun c hc => (h c hc).1
  have hsign : exponentSign (.char (if e < 0 then '-' else '+') ::
      ((Shortest.padded e.natAbs 2).map .char ++ rest)) =
        (decide (e < 0), (Shortest.padded e.natAbs 2).map .char ++ rest) := by
    by_cases he : e < 0
    · rw [if_pos he, decide_eq_true he]
      rfl
    · rw [if_neg he, decide_eq_false he]
      rfl
  have hempty : ((Shortest.padded e.natAbs 2).map Code.char).isEmpty = false := by
    simpa using hne
  have hsigned : (if decide (e < 0) = true then -(e.natAbs : Int) else e.natAbs) = e := by
    by_cases he : e < 0
    · rw [if_pos (decide_eq_true he)]
      omega
    · rw [if_neg (Bool.not_eq_true _ ▸ decide_eq_false he)]
      omega
  rw [Shortest.exponentChars, List.map_cons, List.map_cons, List.cons_append, List.cons_append,
    exponent?, if_pos (.inl rfl), hsign]
  dsimp only
  rw [htake, hdrop, hempty, natOf_digits, hvalue, hsigned]
  rfl

/-! ## Numbers without their sign -/

variable {whole places : List Char} {rest : List Code}

theorem Leading.isEmpty (h : Leading whole) : (whole.map Code.char).isEmpty = false := by
  obtain rfl | hdigits := h
  · rfl
  · simpa using hdigits.ne_nil

theorem unsigned?_eq (negative : Bool) (hwhole : Leading whole)
    (hplaces : ∀ c ∈ places, c.isDigit = true) (hrest : Blunt rest) :
    unsigned? negative ((whole ++ pointed places).map .char ++ rest) =
      match exponent? rest with
      | some (e, rest) => some (.real (Binary64.ofDecimal negative
          (Nat.ofDigitChars 10 (whole ++ places) 0) (e - places.length)), rest)
      | none =>
        if places.isEmpty then
          let n : Int := Nat.ofDigitChars 10 whole 0
          some (.int (if negative then -n else n), rest)
        else some (.real (Binary64.ofDecimal negative
          (Nat.ofDigitChars 10 (whole ++ places) 0) (-places.length)), rest) := by
  have hpoint : ∀ c, ((pointed places).map Code.char ++ rest).head? = some c →
      c.isDigit = false := by
    cases places with
    | nil => exact fun c hc => (hrest c hc).1
    | cons d places =>
      rintro c ⟨⟩
      rfl
  rw [unsigned?, List.map_append, List.append_assoc, wholePart_of_leading hwhole hpoint]
  dsimp only
  rw [hwhole.isEmpty, fraction_pointed hplaces hrest]
  dsimp only
  rw [← List.map_append, natOf_digits, natOf_digits, List.length_map, List.isEmpty_map]
  rfl

theorem unsigned?_exponent (negative : Bool) (hwhole : Leading whole)
    (hplaces : ∀ c ∈ places, c.isDigit = true) (e : Int) (h : Ended rest) :
    unsigned? negative ((whole ++ pointed places ++ Shortest.exponentChars e).map .char ++ rest) =
      some (.real (Binary64.ofDecimal negative (Nat.ofDigitChars 10 (whole ++ places) 0)
        (e - places.length)), rest) := by
  rw [List.map_append, List.append_assoc, unsigned?_eq negative hwhole hplaces
    (blunt_exponent e rest), exponent?_exponentChars e h]

theorem unsigned?_point (negative : Bool) (hwhole : Leading whole)
    (hplaces : ∀ c ∈ places, c.isDigit = true) (hne : places ≠ []) (h : Ended rest) :
    unsigned? negative ((whole ++ '.' :: places).map .char ++ rest) =
      some (.real (Binary64.ofDecimal negative (Nat.ofDigitChars 10 (whole ++ places) 0)
        (-places.length)), rest) := by
  have hpointed : pointed places = '.' :: places := if_neg (by simpa using hne)
  have hread := unsigned?_eq negative hwhole hplaces h.blunt
  rw [hpointed, exponent?_of_ended h] at hread
  rw [hread]
  exact if_neg (by simpa using hne)

theorem unsigned?_whole (negative : Bool) (hwhole : Leading whole) (h : Ended rest) :
    unsigned? negative (whole.map .char ++ rest) =
      some (.int (if negative then -(Nat.ofDigitChars 10 whole 0 : Int)
        else Nat.ofDigitChars 10 whole 0), rest) := by
  have hread := unsigned?_eq negative hwhole (List.forall_mem_nil _) h.blunt
  rw [exponent?_of_ended h] at hread
  rw [← List.append_nil (whole.map _), ← List.map_nil, ← List.map_append]
  exact hread

/-! ## Decimals -/

section

open Shortest

variable {digits : List Char} {point : Int}

theorem unsigned?_scientific (negative : Bool) (h : Significant digits) (hrest : Ended rest) :
    unsigned? negative ((scientific digits point).map .char ++ rest) =
      some (.real (Binary64.ofDecimal negative (Nat.ofDigitChars 10 digits 0)
        (point - digits.length)), rest) := by
  obtain ⟨d, places, rfl⟩ := List.exists_cons_of_ne_nil h.ne_nil
  have hlead : Leading [d] := .inr (Significant.of_append h (List.cons_ne_nil d []))
  have hplaces : ∀ c ∈ places, c.isDigit = true :=
    fun c hc => h.isDigit c (List.mem_cons_of_mem d hc)
  have hread := unsigned?_exponent negative hlead hplaces (point - 1) hrest
  rw [show point - 1 - places.length = point - (d :: places).length by
    rw [List.length_cons]; omega] at hread
  exact hread

/-! The digits of a positional number stand behind zeros, in front of zeros, or on both sides of
the point. -/

theorem unsigned?_behindZeros (negative : Bool) (h : Significant digits) (hrest : Ended rest)
    (hpoint : point ≤ 0) :
    unsigned? negative (('0' :: '.' :: (zeros (-point).toNat ++ digits)).map .char ++ rest) =
      some (.real (Binary64.ofDecimal negative (Nat.ofDigitChars 10 digits 0)
        (point - digits.length)), rest) := by
  have hplaces : ∀ c ∈ zeros (-point).toNat ++ digits, c.isDigit = true :=
    List.forall_mem_append.mpr ⟨fun c => isDigit_of_mem_zeros, h.isDigit⟩
  have hread := unsigned?_point negative (.inl rfl) hplaces
    (List.append_ne_nil_of_right_ne_nil _ h.ne_nil) hrest
  have hvalue : Nat.ofDigitChars 10 (['0'] ++ (zeros (-point).toNat ++ digits)) 0 =
      Nat.ofDigitChars 10 digits 0 := by
    rw [← ofDigitChars_zeros_append (-point).toNat digits]
    exact ofDigitChars_zeros_append 1 _
  have hlength : -((zeros (-point).toNat ++ digits).length : Int) = point - digits.length := by
    rw [List.length_append, zeros, List.length_replicate]
    omega
  rw [hvalue, hlength] at hread
  exact hread

theorem leading_append_zeros (h : Significant digits) (n : Nat) :
    Leading (digits ++ zeros n) := by
  refine .inr ⟨?_, List.append_ne_nil_of_left_ne_nil h.ne_nil _, ?_⟩
  · exact List.forall_mem_append.mpr ⟨h.isDigit, fun c => isDigit_of_mem_zeros⟩
  · rw [List.head?_append_of_ne_nil _ h.ne_nil]
    exact h.head_ne_zero

theorem unsigned?_beforeZeros (negative : Bool) (h : Significant digits) (hrest : Ended rest)
    (hpoint : (digits.length : Int) ≤ point) :
    unsigned? negative
      ((digits ++ zeros (point - digits.length).toNat ++ ['.', '0']).map .char ++ rest) =
      some (.real (Binary64.ofDecimal negative (Nat.ofDigitChars 10 digits 0)
        (point - digits.length)), rest) := by
  have hwhole := leading_append_zeros h (point - digits.length).toNat
  have hplace : ∀ c ∈ ['0'], c.isDigit = true := List.forall_mem_singleton.mpr rfl
  have hread := unsigned?_point negative hwhole hplace (List.cons_ne_nil _ _) hrest
  have hvalue : Nat.ofDigitChars 10 (digits ++ zeros (point - digits.length).toNat ++ ['0']) 0 =
      Nat.ofDigitChars 10 digits 0 * pow10 ((point - digits.length).toNat + 1) := by
    rw [← ofDigitChars_append_zeros, List.append_assoc, zeros, zeros, List.replicate_succ']
  have hexponent : -((['0'] : List Char).length : Int) + ((point - digits.length).toNat + 1 : Nat) =
      point - digits.length := by
    rw [List.length_singleton]
    omega
  rw [hvalue, Binary64.ofDecimal_scaled, hexponent] at hread
  exact hread

theorem unsigned?_divided (negative : Bool) (h : Significant digits) (hrest : Ended rest)
    (hlow : 0 < point) (hhigh : point < digits.length) :
    unsigned? negative
      ((digits.take point.toNat ++ '.' :: digits.drop point.toNat).map .char ++ rest) =
      some (.real (Binary64.ofDecimal negative (Nat.ofDigitChars 10 digits 0)
        (point - digits.length)), rest) := by
  have hsplit := List.take_append_drop point.toNat digits
  have htake : digits.take point.toNat ≠ [] := by
    simp [h.ne_nil]
    omega
  have hdrop : digits.drop point.toNat ≠ [] := by
    simp
    omega
  have hlead : Leading (digits.take point.toNat) := by
    rw [← hsplit] at h
    exact .inr (h.of_append htake)
  have hread := unsigned?_point negative hlead
    (fun c hc => h.isDigit c (List.mem_of_mem_drop hc)) hdrop hrest
  have hexponent : -((digits.length - point.toNat : Nat) : Int) = point - digits.length := by
    omega
  rw [hsplit, List.length_drop, hexponent] at hread
  exact hread

theorem unsigned?_positional (negative : Bool) (h : Significant digits) (hrest : Ended rest) :
    unsigned? negative ((positional digits point).map .char ++ rest) =
      some (.real (Binary64.ofDecimal negative (Nat.ofDigitChars 10 digits 0)
        (point - digits.length)), rest) := by
  rw [positional]
  split
  · next hpoint => exact unsigned?_behindZeros negative h hrest hpoint
  · next hlow =>
    split
    · next hpoint => exact unsigned?_beforeZeros negative h hrest hpoint
    · next hhigh =>
      exact unsigned?_divided negative h hrest (Int.not_le.mp hlow) (Int.not_le.mp hhigh)

theorem unsigned?_positiveChars (negative : Bool) {d : Decimal} (hd : d.digits ≠ 0)
    (h : Ended rest) : unsigned? negative ((positiveChars d).map .char ++ rest) =
      some (.real (d.toFloat negative), rest) := by
  have hsignificant := significant_layout hd
  rw [← ofDecimal_layout negative d, positiveChars]
  dsimp only
  split
  · exact unsigned?_scientific negative hsignificant h
  · exact unsigned?_positional negative hsignificant h

end

/-! ## Signs -/

theorem exists_digit_of_unsigned? {negative : Bool} {cs : List Code} {r : Value × List Code}
    (h : unsigned? negative cs = some r) : ∃ d tail, cs = d :: tail ∧ d.isDigit = true := by
  have hwhole : (wholePart cs).1 ≠ [] := by
    intro hnil
    simp [unsigned?, hnil] at h
  rw [wholePart.eq_def] at hwhole
  split at hwhole
  · next rest => exact ⟨'0', rest, rfl, rfl⟩
  · cases cs with
    | nil => exact absurd rfl hwhole
    | cons c tail =>
      by_cases hdigit : c.isDigit = true
      · exact ⟨c, tail, rfl, hdigit⟩
      · exact absurd (List.takeWhile_cons_of_neg hdigit) hwhole

theorem scalar_signed {negative : Bool} {cs : List Code} {r : Value × List Code}
    (h : unsigned? negative cs = some r) :
    scalar ((if negative then [.char '-'] else []) ++ cs) = .ok r := by
  obtain ⟨d, tail, rfl, hdigit⟩ := exists_digit_of_unsigned? h
  -- No word but the infinite ones begins with a sign, and they go on with a letter.
  have hword : word? ((if negative then [.char '-'] else []) ++ d :: tail) = none := by
    cases negative
    all_goals
      rw [word?.eq_def]
      split <;> simp_all [Code.isDigit]
  have hnumber : number? ((if negative then [.char '-'] else []) ++ d :: tail) = some r := by
    cases negative with
    | true => exact h
    | false =>
      rw [if_neg Bool.false_ne_true, List.nil_append, number?]
      · exact h
      · rintro rest ⟨⟩
        exact absurd hdigit (by decide)
  rw [scalar, hword]
  dsimp only
  rw [hnumber]

theorem scalar_writeInt (n : Int) {rest : List Code} (h : Ended rest) :
    scalar (writeInt n ++ rest) = .ok (.int n, rest) := by
  have hread := scalar_signed (unsigned?_whole (decide (n < 0)) (leading_digits n.natAbs) h)
  rw [Nat.ofDigitChars_ten_toDigits] at hread
  by_cases hneg : n < 0
  · rw [decide_eq_true hneg, show -(n.natAbs : Int) = n by omega] at hread
    rw [writeInt, if_pos hneg]
    exact hread
  · rw [decide_eq_false hneg, show (n.natAbs : Int) = n by omega] at hread
    rw [writeInt, if_neg hneg]
    exact hread

/-- A double that is written reads back as itself. -/
theorem scalar_writeReal (x : Float) {rest : List Code} (h : Ended rest) :
    scalar (writeReal x ++ rest) = .ok (.real x, rest) := by
  rw [writeReal]
  cases hx : Binary64.read x with
  | notANumber =>
    rw [Binary64.eq_notANumber hx]
    rfl
  | infinite negative =>
    rw [Binary64.eq_infinity hx]
    cases negative
    · rfl
    · rfl
  | finite p =>
    have hsign : (Shortest.chars x p).map Code.char ++ rest =
        (if p.negative then [.char '-'] else []) ++
          ((if p.mantissa = 0 then ['0', '.', '0']
            else Shortest.positiveChars (Shortest.decimal x p)).map .char ++ rest) := by
      rw [Shortest.chars, List.map_append, List.append_assoc]
      congr 1
      split <;> rfl
    dsimp only
    rw [hsign]
    refine scalar_signed ?_
    split
    · next hzero =>
      have hplace : ∀ c ∈ ['0'], c.isDigit = true := List.forall_mem_singleton.mpr rfl
      have hread := unsigned?_point p.negative (.inl rfl) hplace (List.cons_ne_nil _ _) h
      rw [← Binary64.eq_zero_of_read hx hzero]
      exact hread
    · next hzero =>
      rw [unsigned?_positiveChars p.negative (Shortest.digits_ne_zero hx hzero) h,
        Shortest.toFloat_decimal hx]

/-! ## What a scalar begins with -/

def starters : List Code := ['-', 'n', 't', 'f', 'N', 'I']

def Starts (c : Code) : Prop := c.isDigit = true ∨ c ∈ starters

theorem eq_ofNat_of_isDigit {c : Code} (h : c.isDigit = true) :
    ∃ n < 10, c = Char.ofNat (48 + n) := by
  cases c with
  | half n => cases h
  | char c =>
    simp only [Code.isDigit, Char.isDigit, Bool.and_eq_true, decide_eq_true_eq] at h
    have hlow : 48 ≤ c.toNat := h.1
    have hhigh : c.toNat ≤ 57 := h.2
    refine ⟨c.toNat - 48, by omega, ?_⟩
    rw [Nat.add_sub_cancel' hlow, Char.ofNat_toNat]

theorem digit_or_elim {others : List Code} {c : Code} {p : Code → Bool}
    (h : c.isDigit = true ∨ c ∈ others) (hdigits : ∀ n < 10, p (Char.ofNat (48 + n)) = true)
    (hothers : others.all p = true) : p c = true := by
  rcases h with hdigit | hother
  · obtain ⟨n, hn, rfl⟩ := eq_ofNat_of_isDigit hdigit
    exact hdigits n hn
  · exact List.all_eq_true.mp hothers c hother

theorem Starts.elim {c : Code} {p : Code → Bool} (h : Starts c)
    (hdigits : ∀ n < 10, p (Char.ofNat (48 + n)) = true) (hothers : starters.all p = true) :
    p c = true :=
  digit_or_elim h hdigits hothers

theorem starts_of_word? {cs : List Code} {r : Value × List Code} (h : word? cs = some r) :
    ∃ c tail, cs = c :: tail ∧ Starts c := by
  rw [word?.eq_def] at h
  split at h
  case h_7 => cases h
  all_goals exact ⟨_, _, rfl, .inr (by decide)⟩

theorem starts_of_number? {cs : List Code} {r : Value × List Code} (h : number? cs = some r) :
    ∃ c tail, cs = c :: tail ∧ Starts c := by
  rw [number?.eq_def] at h
  split at h
  · next rest => exact ⟨'-', rest, rfl, .inr List.mem_cons_self⟩
  · obtain ⟨c, tail, rfl, hdigit⟩ := exists_digit_of_unsigned? h
    exact ⟨c, tail, rfl, .inl hdigit⟩

theorem exists_starts_of_scalar {cs : List Code} {r : Value × List Code}
    (h : scalar cs = .ok r) : ∃ c tail, cs = c :: tail ∧ Starts c := by
  rw [scalar] at h
  split at h
  · next hword => exact starts_of_word? hword
  · split at h
    · next hnumber => exact starts_of_number? hnumber
    · cases h

/-! ## What numbers are written with -/

def Each (kind : Code → Prop) (cs : List Code) : Prop := ∀ c ∈ cs, kind c

instance (kind : Code → Prop) [DecidablePred kind] (cs : List Code) : Decidable (Each kind cs) :=
  List.decidableBAll kind cs

theorem each_nil (kind : Code → Prop) : Each kind [] := List.forall_mem_nil kind

theorem each_cons {kind : Code → Prop} {c : Code} {cs : List Code} :
    Each kind (c :: cs) ↔ kind c ∧ Each kind cs := List.forall_mem_cons

theorem each_singleton {kind : Code → Prop} {c : Code} : Each kind [c] ↔ kind c :=
  List.forall_mem_singleton

theorem each_append {kind : Code → Prop} {cs ds : List Code} :
    Each kind (cs ++ ds) ↔ Each kind cs ∧ Each kind ds := List.forall_mem_append

theorem Each.imp {kind other : Code → Prop} {cs : List Code} (h : Each kind cs)
    (himp : ∀ {c}, kind c → other c) : Each other cs := fun c hc => himp (h c hc)

theorem Each.flatMap {kind other : Code → Prop} {cs : List Code} {f : Code → List Code}
    (h : Each kind cs) (hf : ∀ {c}, kind c → Each other (f c)) : Each other (cs.flatMap f) := by
  intro d hd
  obtain ⟨c, hc, hd⟩ := List.mem_flatMap.mp hd
  exact hf (h c hc) d hd

def numeralMarks : List Code := ['-', '+', '.', 'e', 'N', 'a', 'n', 'I', 'f', 'i', 't', 'y']

def Numeral (c : Code) : Prop := c.isDigit = true ∨ c ∈ numeralMarks

theorem Numeral.elim {c : Code} {p : Code → Bool} (h : Numeral c)
    (hdigits : ∀ n < 10, p (Char.ofNat (48 + n)) = true) (hothers : numeralMarks.all p = true) :
    p c = true :=
  digit_or_elim h hdigits hothers

instance (c : Code) : Decidable (Numeral c) := inferInstanceAs (Decidable (_ ∨ _))

theorem each_map {kind : Code → Prop} {cs : List Char} :
    Each kind (cs.map .char) ↔ ∀ c ∈ cs, kind (.char c) := List.forall_mem_map

theorem numeral_of_digits {cs : List Char} (h : ∀ c ∈ cs, c.isDigit = true) :
    Each Numeral (cs.map .char) := each_map.mpr fun c hc => .inl (h c hc)

theorem numeral_writeInt (n : Int) : Each Numeral (writeInt n) := by
  have hdigits : Each Numeral (writeNat n.natAbs) :=
    numeral_of_digits fun c => isDigit_of_mem_digits
  rw [writeInt]
  split
  · exact each_cons.mpr ⟨by decide, hdigits⟩
  · exact hdigits

theorem numeral_exponentChars (e : Int) : Each Numeral ((Shortest.exponentChars e).map .char) := by
  have hdigits := numeral_of_digits (padded_spec e.natAbs 2).1
  refine each_cons.mpr ⟨by decide, each_cons.mpr ⟨?_, hdigits⟩⟩
  split <;> decide

theorem numeral_scientific {digits : List Char} (h : ∀ c ∈ digits, c.isDigit = true)
    (point : Int) : Each Numeral ((Shortest.scientific digits point).map .char) := by
  have hlead : Each Numeral ((digits.take 1).map .char) :=
    numeral_of_digits fun c hc => h c (List.mem_of_mem_take hc)
  have hplaces : Each Numeral ((digits.drop 1).map .char) :=
    numeral_of_digits fun c hc => h c (List.mem_of_mem_drop hc)
  rw [Shortest.scientific, List.map_append, List.map_append]
  refine each_append.mpr ⟨each_append.mpr ⟨hlead, ?_⟩, numeral_exponentChars _⟩
  split
  · exact each_nil _
  · exact each_cons.mpr ⟨by decide, hplaces⟩

theorem numeral_positional {digits : List Char} (h : ∀ c ∈ digits, c.isDigit = true)
    (point : Int) : Each Numeral ((Shortest.positional digits point).map .char) := by
  have hzeros : ∀ n, Each Numeral ((Shortest.zeros n).map .char) :=
    fun n => numeral_of_digits fun c => Shortest.isDigit_of_mem_zeros
  rw [Shortest.positional]
  split
  · refine each_cons.mpr ⟨by decide, each_cons.mpr ⟨by decide, ?_⟩⟩
    rw [List.map_append]
    exact each_append.mpr ⟨hzeros _, numeral_of_digits h⟩
  · split
    · rw [List.map_append, List.map_append]
      exact each_append.mpr ⟨each_append.mpr ⟨numeral_of_digits h, hzeros _⟩, by decide⟩
    · rw [List.map_append]
      refine each_append.mpr ⟨?_, each_cons.mpr ⟨by decide, ?_⟩⟩
      · exact numeral_of_digits fun c hc => h c (List.mem_of_mem_take hc)
      · exact numeral_of_digits fun c hc => h c (List.mem_of_mem_drop hc)

theorem isDigit_of_mem_layout {d : Shortest.Decimal} :
    ∀ c ∈ (Shortest.layout d).1, c.isDigit = true := by
  obtain ⟨n, hkept⟩ := Shortest.exists_zeros d
  intro c hc
  refine isDigit_of_mem_digits (n := d.digits) ?_
  rw [hkept]
  exact List.mem_append_left _ hc

theorem numeral_writeReal (x : Float) : Each Numeral (writeReal x) := by
  rw [writeReal]
  split
  · decide
  · split <;> decide
  · next p _ =>
    rw [Shortest.chars, List.map_append]
    refine each_append.mpr ⟨by split <;> decide, ?_⟩
    split
    · decide
    · rw [Shortest.positiveChars]
      dsimp only
      split
      · exact numeral_scientific isDigit_of_mem_layout _
      · exact numeral_positional isDigit_of_mem_layout _

end ChatWindow.Json
