import ChatWindow.Number.Shortest
import ChatWindow.Proofs.Number.Rounding
import Mathlib.Data.List.DropRight

/-!
# Decimals that read back

The digits that are written for a double read back as it: those on a grid because they are tried
before, and the exact ones because they are its value.
-/

namespace ChatWindow

theorem pow10_pos (n : Nat) : 0 < pow10 n := Nat.pow_pos (by decide)

theorem pow10_add (m n : Nat) : pow10 (m + n) = pow10 m * pow10 n := Nat.pow_add 10 m n

theorem isDigit_of_mem_digits {n : Nat} {c : Char} (h : c ∈ Nat.toDigits 10 n) :
    c.isDigit = true := Nat.isDigit_of_mem_toDigits (by decide) (by decide) h

theorem digitChar_ne_zero : ∀ n < 10, n ≠ 0 → n.digitChar ≠ '0' := by decide

structure Significant (digits : List Char) : Prop where
  isDigit : ∀ c ∈ digits, c.isDigit = true
  ne_nil : digits ≠ []
  head_ne_zero : digits.head? ≠ some '0'

theorem Significant.of_append {digits tail : List Char} (h : Significant (digits ++ tail))
    (hne : digits ≠ []) : Significant digits where
  isDigit c hc := h.isDigit c (List.mem_append_left _ hc)
  ne_nil := hne
  head_ne_zero := by
    rw [← List.head?_append_of_ne_nil digits hne]
    exact h.head_ne_zero

theorem significant_digits {n : Nat} (h : n ≠ 0) : Significant (Nat.toDigits 10 n) := by
  refine ⟨fun c => isDigit_of_mem_digits, Nat.toDigits_ne_nil, ?_⟩
  induction n using Nat.strongRecOn with
  | _ n ih =>
    rw [Nat.toDigits_eq_if (by decide)]
    split
    · next hlow => simpa using digitChar_ne_zero n hlow h
    · next hhigh =>
      have hbefore : (Nat.toDigits 10 (n / 10)).head? ≠ some '0' :=
        ih (n / 10) (by omega) (by omega)
      rwa [List.head?_append_of_ne_nil _ Nat.toDigits_ne_nil]

namespace Binary64

theorem length_digits_scaled {n : Nat} (h : 0 < n) (j : Nat) :
    (Nat.toDigits 10 (n * pow10 j)).length = (Nat.toDigits 10 n).length + j := by
  induction j with
  | zero => rw [show pow10 0 = 1 from rfl, Nat.mul_one, Nat.add_zero]
  | succ j ih =>
    have hpos : 0 < n * pow10 j := Nat.mul_pos h (pow10_pos j)
    have hdigits := Nat.toDigits_append_toDigits (b := 10) (d := 0) (by decide) hpos (by decide)
    have hscaled : n * pow10 (j + 1) = 10 * (n * pow10 j) + 0 := by
      rw [pow10_add, Nat.add_zero, ← Nat.mul_assoc, Nat.mul_comm _ (pow10 1)]
      rfl
    rw [hscaled, ← hdigits, List.length_append, ih]
    rfl

theorem ofDecimal_scaled (negative : Bool) (n j : Nat) (k : Int) :
    ofDecimal negative (n * pow10 j) k = ofDecimal negative n (k + j) := by
  obtain rfl | hpos := n.eq_zero_or_pos
  · rw [Nat.zero_mul, ofDecimal, ofDecimal, if_pos (.inl rfl), if_pos (.inl rfl)]
  have hsize : k + (Nat.toDigits 10 (n * pow10 j)).length =
      k + j + (Nat.toDigits 10 n).length := by
    rw [length_digits_scaled hpos]
    omega
  have hzero : n * pow10 j = 0 ↔ n = 0 := by
    simp [hpos.ne', (pow10_pos j).ne']
  have hfraction : ofFraction? negative (n * pow10 j * pow10 k.toNat) (pow10 (-k).toNat) =
      ofFraction? negative (n * pow10 (k + j).toNat) (pow10 (-(k + j)).toNat) := by
    refine ofFraction?_congr negative (pow10_pos _) (pow10_pos _) ?_
    simp only [Nat.mul_assoc, ← pow10_add]
    congr 2
    omega
  rw [ofDecimal, ofDecimal, hsize, hfraction]
  simp only [hzero]

end Binary64

namespace Shortest

theorem pow10_eq (n : Nat) : pow10 n = pow2 n * pow5 n := Nat.mul_pow 2 5 n

theorem pow5_pos (n : Nat) : 0 < pow5 n := Nat.pow_pos (by decide)

theorem pow5_add (m n : Nat) : pow5 (m + n) = pow5 m * pow5 n := Nat.pow_add 5 m n

theorem exact_exponent (p : Binary64.Parts) :
    (exact p).exponent = -((-p.exponent).toNat : Int) := by
  change min p.exponent 0 = _
  omega

theorem exact_lt {p : Binary64.Parts} (hp : p.Canonical) :
    (exact p).digits < pow10 (400 + (-p.exponent).toNat) := by
  have hexponent : p.exponent.toNat ≤ 971 := Int.toNat_le.mpr hp.exponent_le
  have hfive : pow5 (-p.exponent).toNat ≤ pow10 (-p.exponent).toNat :=
    Nat.pow_le_pow_left (by decide) _
  have hscaled : p.mantissa * pow2 p.exponent.toNat < pow10 400 :=
    calc p.mantissa * pow2 p.exponent.toNat
        < pow2 53 * pow2 p.exponent.toNat :=
          Nat.mul_lt_mul_of_pos_right hp.mantissa_lt (pow2_pos _)
      _ ≤ pow2 53 * pow2 971 := Nat.mul_le_mul_left _ (pow2_mono hexponent)
      _ ≤ pow10 400 := by decide +kernel
  rw [pow10_add]
  exact Nat.mul_lt_mul_of_lt_of_le hscaled hfive (Nat.pow_pos (by decide))

/-- Past four hundred places the fives outweigh the tens. -/
theorem le_exact {p : Binary64.Parts} (hp : p.Canonical) (hm : 0 < p.mantissa) {j : Nat}
    (hj : (-p.exponent).toNat = 401 + j) : pow10 j ≤ (exact p).digits := by
  have hlowest := hp.le_exponent
  have htwo : pow2 j ≤ pow5 401 :=
    Nat.le_trans (pow2_mono (by omega)) (by decide +kernel : pow2 673 ≤ pow5 401)
  have hscaled : 0 < p.mantissa * pow2 p.exponent.toNat := Nat.mul_pos hm (pow2_pos _)
  calc pow10 j = pow2 j * pow5 j := pow10_eq j
    _ ≤ pow5 401 * pow5 j := Nat.mul_le_mul_right _ htwo
    _ = pow5 (-p.exponent).toNat := by rw [hj, pow5_add]
    _ ≤ (exact p).digits := Nat.le_mul_of_pos_left _ hscaled

theorem size_exact {p : Binary64.Parts} (hp : p.Canonical) (hm : 0 < p.mantissa) :
    -400 ≤ (exact p).exponent + (Nat.toDigits 10 (exact p).digits).length ∧
      (exact p).exponent + (Nat.toDigits 10 (exact p).digits).length ≤ 400 := by
  have hexponent := exact_exponent p
  have hhigh := (Nat.length_toDigits_le_iff (b := 10) (by decide) (by omega)).mpr (exact_lt hp)
  rw [hexponent]
  refine ⟨Int.not_lt.mp fun hlow => ?_, by omega⟩
  obtain ⟨j, hj⟩ : ∃ j, (-p.exponent).toNat = 401 + j := ⟨(-p.exponent).toNat - 401, by omega⟩
  -- The fives of so many places have more digits than so small a number could.
  have hle := le_exact hp hm hj
  have hlength : (Nat.toDigits 10 (exact p).digits).length ≤ j := by omega
  have hjpos : 0 < j := Nat.lt_of_lt_of_le Nat.length_toDigits_pos hlength
  have hlt := (Nat.length_toDigits_le_iff (by decide) hjpos).mp hlength
  exact Nat.not_lt.mpr hle hlt

theorem toFloat_exact {x : Float} {p : Binary64.Parts} (h : Binary64.read x = .finite p) :
    (exact p).toFloat p.negative = x := by
  obtain ⟨hp, -⟩ := Binary64.parts_of_read h
  have hround := Binary64.ofFraction?_of_read h
  rw [Decimal.toFloat, Binary64.ofDecimal]
  by_cases hm : p.mantissa = 0
  · have hdigits : (exact p).digits = 0 := by rw [exact, hm, Nat.zero_mul, Nat.zero_mul]
    rw [if_pos (.inl hdigits), Binary64.eq_zero_of_read h hm]
  · have hpos : 0 < p.mantissa := Nat.pos_of_ne_zero hm
    obtain ⟨hlow, hhigh⟩ := size_exact hp hpos
    have hexponent := exact_exponent p
    have hdigits : (exact p).digits ≠ 0 := by
      simp [exact, hm, (pow2_pos _).ne', (pow5_pos _).ne']
    have hequal : (exact p).digits * pow10 (exact p).exponent.toNat * p.fraction.2 =
        p.fraction.1 * pow10 (-(exact p).exponent).toNat := by
      have hwhole : (exact p).exponent.toNat = 0 := by omega
      have hplaces : (-(exact p).exponent).toNat = (-p.exponent).toNat := by omega
      rw [hwhole, hplaces, show pow10 0 = 1 from rfl, Nat.mul_one, pow10_eq]
      change p.mantissa * pow2 p.exponent.toNat * pow5 (-p.exponent).toNat *
        pow2 (-p.exponent).toNat = p.mantissa * pow2 p.exponent.toNat * _
      rw [Nat.mul_assoc, Nat.mul_comm (pow5 _)]
    have hfraction : Binary64.ofFraction? p.negative
        ((exact p).digits * pow10 (exact p).exponent.toNat) (pow10 (-(exact p).exponent).toNat) =
          some x :=
      (Binary64.ofFraction?_congr p.negative (pow10_pos _) (pow2_pos _)
        hequal).trans hround
    rw [if_neg (not_or.mpr ⟨hdigits, Int.not_lt.mpr hlow⟩), if_neg (Int.not_lt.mpr hhigh),
      hfraction, Option.getD_some]

theorem toFloat_of_onGrid {x : Float} {p : Binary64.Parts} {k : Int} {d : Decimal}
    (h : onGrid x p k = some d) : d.toFloat p.negative = x := by
  have hreads := List.find?_some h
  exact of_decide_eq_true hreads

theorem toFloat_search {x : Float} {p : Binary64.Parts} (h : Binary64.read x = .finite p)
    (top : Int) (fuel : Nat) : (search x p top fuel).toFloat p.negative = x := by
  induction fuel with
  | zero => exact toFloat_exact h
  | succ n ih =>
    rw [search]
    split
    · next hgrid => exact toFloat_of_onGrid hgrid
    · exact ih

/-- The digits that are written for a double read back as it. -/
theorem toFloat_decimal {x : Float} {p : Binary64.Parts} (h : Binary64.read x = .finite p) :
    (decimal x p).toFloat p.negative = x := toFloat_search h _ _

/-! ## Digits and the point -/

theorem isDigit_of_mem_zeros {n : Nat} {c : Char} (h : c ∈ zeros n) : c.isDigit = true := by
  rw [List.eq_of_mem_replicate h]
  rfl

theorem ofDigitChars_append_zeros (ds : List Char) (n : Nat) :
    Nat.ofDigitChars 10 (ds ++ zeros n) 0 = Nat.ofDigitChars 10 ds 0 * pow10 n := by
  rw [Nat.ofDigitChars_append, zeros, Nat.ofDigitChars_replicate_zero]
  exact Nat.mul_comm ..

theorem ofDigitChars_zeros_append (n : Nat) (ds : List Char) :
    Nat.ofDigitChars 10 (zeros n ++ ds) 0 = Nat.ofDigitChars 10 ds 0 := by
  rw [Nat.ofDigitChars_append, zeros, Nat.ofDigitChars_replicate_zero, Nat.mul_zero]

theorem exists_zeros (d : Decimal) :
    ∃ n, Nat.toDigits 10 d.digits = (layout d).1 ++ zeros n := by
  have hzeros : (Nat.toDigits 10 d.digits).rtakeWhile (· = '0') =
      zeros ((Nat.toDigits 10 d.digits).rtakeWhile (· = '0')).length :=
    List.eq_replicate_of_mem fun c hc => by simpa using List.mem_rtakeWhile_imp hc
  refine ⟨_, Eq.trans ?_ (congrArg _ hzeros)⟩
  exact (List.rdropWhile_append_rtakeWhile ..).symm

theorem significant_layout {d : Decimal} (h : d.digits ≠ 0) : Significant (layout d).1 := by
  have hdigits := significant_digits h
  obtain ⟨n, hkept⟩ := exists_zeros d
  have hne : (layout d).1 ≠ [] := by
    intro hnil
    rw [hnil, List.nil_append] at hkept
    rw [hkept] at hdigits
    -- Digits that are all zeros would begin with one.
    cases n with
    | zero => exact hdigits.ne_nil rfl
    | succ n => exact hdigits.head_ne_zero rfl
  rw [hkept] at hdigits
  exact hdigits.of_append hne

theorem ofDecimal_layout (negative : Bool) (d : Decimal) :
    Binary64.ofDecimal negative (Nat.ofDigitChars 10 (layout d).1 0)
      ((layout d).2 - (layout d).1.length) = d.toFloat negative := by
  obtain ⟨n, hkept⟩ := exists_zeros d
  have hvalue : d.digits = Nat.ofDigitChars 10 (layout d).1 0 * pow10 n := by
    rw [← ofDigitChars_append_zeros, ← hkept, Nat.ofDigitChars_ten_toDigits]
  have hpoint : (layout d).2 - (layout d).1.length = d.exponent + n := by
    change ((Nat.toDigits 10 d.digits).length : Int) + d.exponent - _ = _
    have hlength := congrArg List.length hkept
    rw [List.length_append, zeros, List.length_replicate] at hlength
    omega
  rw [Decimal.toFloat, hvalue, Binary64.ofDecimal_scaled, hpoint]

theorem digits_ne_zero {x : Float} {p : Binary64.Parts} (h : Binary64.read x = .finite p)
    (hm : p.mantissa ≠ 0) : (decimal x p).digits ≠ 0 := by
  intro hzero
  have hx := toFloat_decimal h
  rw [Decimal.toFloat, Binary64.ofDecimal, if_pos (.inl hzero)] at hx
  rw [← hx, Binary64.read_zero, Binary64.Reading.finite.injEq] at h
  exact hm (congrArg Binary64.Parts.mantissa h).symm

end Shortest

end ChatWindow
