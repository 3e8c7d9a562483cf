import ChatWindow.Json.Parser
import ChatWindow.Json.Printer
import Mathlib.Data.List.Chain
import Mathlib.Tactic.SplitIfs

/-!
# Texts of JSON

A code that is written reads back as itself, whatever follows it: as it stands, by a letter behind a
backslash, by its number, or by two numbers beyond the first plane. Only a high half that is written
by its number is joined with a low one that is written so right behind it. So a text in quotes reads
back as itself unless it has such a pair, and reading ends with its closing quote.
-/

namespace ChatWindow

def Code.Apart (c d : Code) : Prop := c.isHigh = true → d.isLow = false

instance (c d : Code) : Decidable (c.Apart d) := inferInstanceAs (Decidable (_ → _))

/-- The halves of a pair do not stand side by side. -/
def Text.Unsplit (t : Text) : Prop := t.codes.IsChain Code.Apart

instance (t : Text) : Decidable t.Unsplit := inferInstanceAs (Decidable (List.IsChain _ _))

@[simp] theorem Text.unsplit_plain (s : String) : (Text.plain s).Unsplit := by
  rw [Unsplit, codes_plain, List.isChain_map]
  exact (List.pairwise_of_forall fun _ _ h => by cases h).isChain

namespace Json

theorem hexValue?_hexDigit : ∀ n < 16, hexValue? (Text.hexDigit n) = some n := by decide

theorem hex_four (n : Nat) : Text.hex 4 n =
    [Text.hexDigit (n / 16 / 16 / 16 % 16), Text.hexDigit (n / 16 / 16 % 16),
      Text.hexDigit (n / 16 % 16), Text.hexDigit (n % 16)] := rfl

theorem unit?_hexDigits {n : Nat} (h : n < 0x10000) :
    unit? (Text.hexDigit (n / 16 / 16 / 16 % 16)) (Text.hexDigit (n / 16 / 16 % 16))
      (Text.hexDigit (n / 16 % 16)) (Text.hexDigit (n % 16)) = some n := by
  have hdigit : ∀ m, hexValue? (Text.hexDigit (m % 16)) = some (m % 16) :=
    fun m => hexValue?_hexDigit (m % 16) (Nat.mod_lt m (by decide))
  have hsum : ((n / 16 / 16 / 16 % 16 * 16 + n / 16 / 16 % 16) * 16 + n / 16 % 16) * 16 + n % 16 =
      n := by omega
  simp only [unit?, Code.char?, hdigit, Option.bind_eq_bind, Option.bind_some, Option.pure_def,
    hsum]

theorem toNat_scalar (c : Char) : c.toNat < 0xd800 ∨ 0xdfff < c.toNat ∧ c.toNat < 0x110000 :=
  c.valid

theorem ofNat_toNat (c : Char) : Code.ofNat c.toNat = c := by
  have hscalar := toNat_scalar c
  rw [Code.ofNat, dif_neg (by omega), Char.ofNat_toNat]

theorem ofNat_half (n : Fin 0x800) : Code.ofNat (0xd800 + n) = .half n := by
  rw [Code.ofNat, dif_pos (by omega), Code.half.injEq, Fin.ext_iff]
  exact Nat.add_sub_cancel_left ..

theorem isHigh_ofNat (n : Nat) : (Code.ofNat n).isHigh = true ↔ 0xd800 ≤ n ∧ n < 0xdc00 := by
  rw [Code.ofNat]
  split
  · simp only [Code.isHigh, decide_eq_true_eq, Fin.lt_def]
    omega
  · simp only [Code.isHigh, Bool.false_eq_true, false_iff]
    omega

theorem isLow_ofNat (n : Nat) : (Code.ofNat n).isLow = true ↔ 0xdc00 ≤ n ∧ n < 0xe000 := by
  rw [Code.ofNat]
  split
  · simp only [Code.isLow, decide_eq_true_eq, Fin.le_def]
    omega
  · simp only [Code.isLow, Bool.false_eq_true, false_iff]
    omega

variable {n m : Nat} {e : Code} {rest after : List Code}

theorem scanUnit_single (h : n < 0x10000)
    (hnext : (Code.ofNat n).isHigh = true → lowUnit? (e :: rest) = .ok none) :
    scanUnit ((Text.hex 4 n).map .char ++ e :: rest) = .ok (.ofNat n, e :: rest) := by
  rw [hex_four]
  simp only [List.map_cons, List.map_nil, List.cons_append, List.nil_append, scanUnit,
    unit?_hexDigits h]
  split
  · next hhigh => rw [hnext hhigh]
  · rfl

theorem scanUnit_pair (h : n < 0x10000) (hhigh : (Code.ofNat n).isHigh = true)
    (hlow : lowUnit? (e :: rest) = .ok (some (m, after))) :
    scanUnit ((Text.hex 4 n).map .char ++ e :: rest) = .ok (Code.joined n m, after) := by
  rw [hex_four]
  simp only [List.map_cons, List.map_nil, List.cons_append, List.nil_append, scanUnit,
    unit?_hexDigits h, hhigh, hlow, if_true]

theorem lowUnit?_unit (e : Code) (rest : List Code) (h : n < 0x10000) :
    lowUnit? (unit n ++ e :: rest) =
      .ok (if (Code.ofNat n).isLow then some (n, e :: rest) else none) := by
  rw [unit, hex_four]
  simp only [List.map_cons, List.map_nil, List.cons_append, List.nil_append, lowUnit?,
    unit?_hexDigits h]

def high (c : Char) : Nat := 0xd800 + (c.toNat - 0x10000) / 0x400

def low (c : Char) : Nat := 0xdc00 + (c.toNat - 0x10000) % 0x400

theorem joined_high_low {c : Char} (h : ¬c.toNat < 0x10000) :
    Code.joined (high c) (low c) = c := by
  have hnat : 0x10000 + (high c - 0xd800) * 0x400 + (low c - 0xdc00) = c.toNat := by
    rw [high, low]
    omega
  rw [Code.joined, hnat, Char.ofNat_toNat]

theorem isHigh_high (c : Char) : high c < 0x10000 ∧ (Code.ofNat (high c)).isHigh = true := by
  have hscalar := toNat_scalar c
  rw [isHigh_ofNat, high]
  omega

theorem isLow_low (c : Char) : low c < 0x10000 ∧ (Code.ofNat (low c)).isLow = true := by
  rw [isLow_ofNat, low]
  omega

theorem scanChar_unit (opening digits : List Code) :
    scanChar opening ('\\' :: 'u' :: digits) =
      (scanUnit digits).map fun r => (some r.1, r.2) := rfl

theorem unitEscape_single {c : Char} (h : c.toNat < 0x10000) : unitEscape c = unit c.toNat :=
  if_pos h

theorem unitEscape_pair {c : Char} (h : ¬c.toNat < 0x10000) :
    unitEscape c = unit (high c) ++ unit (low c) := if_neg h

theorem scanChar_unit_append (opening : List Code) (h : n < 0x10000)
    (hnext : (Code.ofNat n).isHigh = true → lowUnit? (e :: rest) = .ok none) :
    scanChar opening (unit n ++ e :: rest) = .ok (some (.ofNat n), e :: rest) := by
  rw [unit, List.cons_append, List.cons_append, scanChar_unit, scanUnit_single h hnext]
  rfl

theorem scanChar_unitEscape (opening : List Code) (c : Char) (e : Code) (rest : List Code) :
    scanChar opening (unitEscape c ++ e :: rest) = .ok (some c, e :: rest) := by
  by_cases h : c.toNat < 0x10000
  · rw [unitEscape_single h, scanChar_unit_append opening h, ofNat_toNat]
    rw [ofNat_toNat]
    rintro ⟨⟩
  · have hlow := lowUnit?_unit e rest (isLow_low c).1
    rw [if_pos (isLow_low c).2] at hlow
    have hunit := scanUnit_pair (isHigh_high c).1 (isHigh_high c).2 hlow
    rw [joined_high_low h] at hunit
    rw [unitEscape_pair h, List.append_assoc, unit, List.cons_append, List.cons_append,
      scanChar_unit]
    exact congrArg (Except.map fun r => (some r.1, r.2)) hunit

theorem lowUnit?_unitEscape (c : Char) (e : Code) (rest : List Code) :
    lowUnit? (unitEscape c ++ e :: rest) = .ok none := by
  by_cases h : c.toNat < 0x10000
  · rw [unitEscape_single h, lowUnit?_unit e rest h, ofNat_toNat]
    rfl
  · have hnot : ¬(Code.ofNat (high c)).isLow = true := by
      have hhigh := (isHigh_ofNat (high c)).mp (isHigh_high c).2
      rw [isLow_ofNat]
      omega
    obtain ⟨d, tail, htail⟩ : ∃ d tail, unit (low c) ++ e :: rest = d :: tail := ⟨_, _, rfl⟩
    rw [unitEscape_pair h, List.append_assoc, htail, lowUnit?_unit d tail (isHigh_high c).1,
      if_neg hnot]

theorem scanChar_self (opening : List Code) {c : Code} (rest : List Code) (hquote : c ≠ '"')
    (hslash : c ≠ '\\') (hcontrol : ¬c.toNat < 32) :
    scanChar opening (c :: rest) = .ok (some c, rest) := by
  rw [scanChar.eq_def]
  split
  · simp_all
  · simp_all
  · simp_all
  · simp_all

theorem lowUnit?_of_ne {c : Code} (h : c ≠ '\\') (rest : List Code) :
    lowUnit? (c :: rest) = .ok none := by
  rw [lowUnit?.eq_def]
  split
  · simp_all
  · rfl

/-- A way of writing codes in which each reads back, if something follows it that no high half is
joined with; no code but a low half is such a thing. -/
structure Legible (write : Code → List Code) : Prop where
  read : ∀ opening c e rest, (c.isHigh = true → lowUnit? (e :: rest) = .ok none) →
    scanChar opening (write c ++ e :: rest) = .ok (some c, e :: rest)
  alone : ∀ c e rest, c.isLow = false → lowUnit? (write c ++ e :: rest) = .ok none

theorem scanChar_escapeChar (ascii : Bool) (opening : List Code) (c : Char) (e : Code)
    (rest : List Code) :
    scanChar opening (escapeChar ascii c ++ e :: rest) = .ok (some c, e :: rest) := by
  rw [escapeChar]
  -- Seven characters have a letter of their own; of the others some are written by number.
  by_cases hquote : c = '"'
  · rw [if_pos hquote, hquote]
    rfl
  by_cases hslash : c = '\\'
  · rw [if_neg hquote, if_pos hslash, hslash]
    rfl
  rw [if_neg hquote, if_neg hslash]
  split_ifs with hline hreturn htab hback hfeed hcontrol hnumber
  · rw [hline]
    rfl
  · rw [hreturn]
    rfl
  · rw [htab]
    rfl
  · rw [hback]
    rfl
  · rw [hfeed]
    rfl
  · exact scanChar_unitEscape opening c e rest
  · exact scanChar_unitEscape opening c e rest
  · exact scanChar_self opening (e :: rest) (by simpa using hquote) (by simpa using hslash) hcontrol

theorem lowUnit?_escapeChar (ascii : Bool) (c : Char) (e : Code) (rest : List Code) :
    lowUnit? (escapeChar ascii c ++ e :: rest) = .ok none := by
  rw [escapeChar]
  split_ifs with hquote hslash
  iterate 7 rfl
  · exact lowUnit?_unitEscape c e rest
  · exact lowUnit?_unitEscape c e rest
  · exact lowUnit?_of_ne (by simpa using hslash) _

theorem half_lt (n : Fin 0x800) : 0xd800 + n.val < 0x10000 := by omega

theorem legible_escape (ascii : Bool) : Legible (escape ascii) where
  read opening c e rest hnext := by
    cases c with
    | char c => exact scanChar_escapeChar ascii opening c e rest
    | half n =>
      cases ascii with
      | false => exact scanChar_self opening (e :: rest) nofun nofun (by simp [Code.toNat]; omega)
      | true =>
        rw [← ofNat_half] at hnext
        have hread := scanChar_unit_append opening (half_lt n) hnext
        rwa [ofNat_half] at hread
  alone c e rest hlow := by
    cases c with
    | char c => exact lowUnit?_escapeChar ascii c e rest
    | half n =>
      cases ascii with
      | false => rfl
      | true =>
        have hunit := lowUnit?_unit e rest (half_lt n)
        rwa [ofNat_half, hlow] at hunit

theorem Legible.ne_nil {write : Code → List Code} (h : Legible write) (c : Code) :
    write c ≠ [] := by
  intro hnil
  have hquote := h.read [] c '"' [] fun _ => rfl
  rw [hnil] at hquote
  cases hquote

theorem Legible.lowUnit?_rest {write : Code → List Code} (h : Legible write) {c : Code}
    {text : List Code} (htext : (c :: text).IsChain Code.Apart) (hhigh : c.isHigh = true)
    (rest : List Code) : lowUnit? (text.flatMap write ++ .char '"' :: rest) = .ok none := by
  cases text with
  | nil => rfl
  | cons d text =>
    obtain ⟨e, tail, htail⟩ : ∃ e tail, text.flatMap write ++ .char '"' :: rest = e :: tail :=
      List.exists_cons_of_ne_nil (by simp)
    rw [List.flatMap_cons, List.append_assoc, htail]
    exact h.alone d e tail ((List.isChain_cons_cons.mp htext).1 hhigh)

theorem scanText_flatMap {write : Code → List Code} (h : Legible write) (opening rest : List Code)
    {fuel : Nat} {read text : List Code} (htext : text.IsChain Code.Apart)
    (hfuel : text.length < fuel) :
    scanText opening fuel read (text.flatMap write ++ .char '"' :: rest) =
      .ok (.ofCodes (read.reverse ++ text), rest) := by
  induction text generalizing fuel read with
  | nil =>
    obtain ⟨fuel, rfl⟩ : ∃ k, fuel = k + 1 := ⟨fuel - 1, by omega⟩
    rw [List.append_nil]
    rfl
  | cons c text ih =>
    obtain ⟨fuel, rfl⟩ : ∃ k, fuel = k + 1 := ⟨fuel - 1, by omega⟩
    -- A high half is read by itself only where no low unit comes next.
    have hnext := fun hhigh => h.lowUnit?_rest htext hhigh rest
    obtain ⟨e, tail, htail⟩ : ∃ e tail, text.flatMap write ++ .char '"' :: rest = e :: tail :=
      List.exists_cons_of_ne_nil (by simp)
    have hfuel' : text.length < fuel := Nat.lt_of_succ_lt_succ hfuel
    rw [htail] at hnext
    rw [List.flatMap_cons, List.append_assoc, htail, scanText, h.read opening c e tail hnext,
      ← htail]
    dsimp only
    rw [ih htext.of_cons hfuel', List.reverse_cons, List.append_assoc, List.singleton_append]

theorem length_le_flatMap {write : Code → List Code} (h : Legible write) (text : List Code) :
    text.length ≤ (text.flatMap write).length := by
  induction text with
  | nil => exact Nat.le_refl 0
  | cons c text ih =>
    have hpos : 0 < (write c).length := List.length_pos_iff.mpr (h.ne_nil c)
    rw [List.flatMap_cons, List.length_append, List.length_cons]
    omega

theorem text?_flatMap {write : Code → List Code} (h : Legible write) (opening rest : List Code)
    {t : Text} (ht : t.Unsplit) :
    text? opening (t.codes.flatMap write ++ .char '"' :: rest) = .ok (t, rest) := by
  have hlength := length_le_flatMap h t.codes
  have hfuel : t.codes.length < (t.codes.flatMap write ++ .char '"' :: rest).length + 1 := by
    rw [List.length_append]
    omega
  rw [text?, scanText_flatMap h opening rest ht hfuel, List.reverse_nil, List.nil_append,
    Text.ofCodes_codes]

end Json

end ChatWindow
