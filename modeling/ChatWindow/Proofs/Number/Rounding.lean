import ChatWindow.Proofs.Number.Bits
import Mathlib.Algebra.Order.Field.Power
import Mathlib.Data.Rat.Cast.Order
import Mathlib.Tactic.Positivity

/-!
# Rounding to doubles

What is rounded is a quotient, however it is written as a fraction. A double is the number that its
parts are, rounded, and every quotient that is less than halfway from the largest double to the next
power of two is rounded to some double.
-/

namespace ChatWindow

theorem roundDiv_mul_right (num den : Nat) {c : Nat} (hc : 0 < c) :
    roundDiv (num * c) (den * c) = roundDiv num den := by
  have hdouble : 2 * (num % den * c) = 2 * (num % den) * c := (Nat.mul_assoc ..).symm
  simp only [roundDiv, Nat.mul_div_mul_right _ _ hc, Nat.mul_mod_mul_right, hdouble,
    Nat.mul_lt_mul_right hc]

theorem roundDiv_congr {num den num' den' : Nat} (hden : 0 < den) (hden' : 0 < den')
    (h : num * den' = num' * den) : roundDiv num den = roundDiv num' den' := by
  rw [← roundDiv_mul_right num den hden', h, Nat.mul_comm den, roundDiv_mul_right num' den' hden]

theorem roundDiv_mul_self (n : Nat) {c : Nat} (hc : 0 < c) : roundDiv (n * c) c = n := by
  rw [roundDiv, Nat.mul_div_cancel n hc, Nat.mul_mod_left]
  exact if_pos hc

theorem roundDiv_lt {num den n : Nat} (h : 2 * num < (2 * n - 1) * den) : roundDiv num den < n := by
  have hden : 0 < den := by
    refine Nat.pos_of_ne_zero fun hzero => ?_
    rw [hzero, Nat.mul_zero] at h
    exact absurd h (Nat.not_lt_zero _)
  have hdiv : den * (num / den) + num % den = num := Nat.div_add_mod num den
  have hmod : num % den < den := Nat.mod_lt num hden
  have hq : 2 * (den * (num / den)) < (2 * n - 1) * den := by omega
  have hlt : num / den < n := by
    refine Nat.lt_of_not_le fun hle => ?_
    have hmul : den * n ≤ den * (num / den) := Nat.mul_le_mul_left den hle
    have hsub : (2 * n - 1) * den = 2 * (den * n) - den := by
      rw [Nat.sub_mul, Nat.one_mul, Nat.mul_assoc, Nat.mul_comm n den]
    omega
  have hup : den ≤ 2 * (num % den) → num / den + 1 < n := by
    intro hhalf
    refine Nat.lt_of_le_of_ne hlt fun heq => ?_
    have hsub : (2 * n - 1) * den = 2 * (den * (num / den)) + den := by
      rw [← heq, show 2 * (num / den + 1) - 1 = 2 * (num / den) + 1 by omega,
        Nat.add_mul, Nat.one_mul, Nat.mul_assoc, Nat.mul_comm (num / den) den]
    omega
  rw [roundDiv]
  split
  · exact hlt
  · split
    · exact hup (by omega)
    · split
      · exact hlt
      · exact hup (by omega)

theorem pow2_pos (n : Nat) : 0 < pow2 n := Nat.pow_pos (by decide)

theorem pow2_add (m n : Nat) : pow2 (m + n) = pow2 m * pow2 n := Nat.pow_add 2 m n

theorem pow2_succ (n : Nat) : pow2 (n + 1) = 2 * pow2 n := Nat.pow_succ'

theorem pow2_mono {m n : Nat} (h : m ≤ n) : pow2 m ≤ pow2 n := Nat.pow_le_pow_right (by decide) h

theorem pow2_cast (n : Nat) : ((pow2 n : Nat) : ℚ) = 2 ^ (n : Int) := by
  rw [pow2, zpow_natCast]
  exact Nat.cast_pow 2 n

namespace Binary64

/-- Both sides of a comparison are scaled, so that neither power is below one. -/
theorem scaled_le_iff (num : Nat) {den : Nat} (hden : 0 < den) (e : Int) :
    den * pow2 e.toNat ≤ num * pow2 (-e).toNat ↔ (2 : ℚ) ^ e ≤ num / den := by
  have hden' : (0 : ℚ) < den := Nat.cast_pos.mpr hden
  rw [le_div_iff₀ hden', ← Nat.cast_le (α := ℚ)]
  obtain ⟨n, rfl | rfl⟩ := e.eq_nat_or_neg
  · simp [pow2, mul_comm]
  · have hpow : (0 : ℚ) < 2 ^ n := by positivity
    simp [pow2, zpow_neg]
    rw [inv_mul_le_iff₀ hpow, mul_comm (_ : ℚ)]

theorem log2_bounds {n : Nat} (h : 0 < n) :
    (2 : ℚ) ^ (n.log2 : Int) ≤ n ∧ (n : ℚ) < 2 ^ ((n.log2 : Int) + 1) := by
  have hlow : pow2 n.log2 ≤ n := Nat.log2_self_le (Nat.ne_of_gt h)
  have hhigh : n < pow2 (n.log2 + 1) := Nat.lt_log2_self
  rw [← pow2_cast, ← Nat.cast_succ, ← pow2_cast]
  exact ⟨Nat.cast_le.mpr hlow, Nat.cast_lt.mpr hhigh⟩

theorem order_spec {num den : Nat} (hnum : 0 < num) (hden : 0 < den) :
    (2 : ℚ) ^ order num den ≤ num / den ∧ (num / den : ℚ) < 2 ^ (order num den + 1) := by
  have htwo : (2 : ℚ) ≠ 0 := by decide
  obtain ⟨hnlow, hnhigh⟩ := log2_bounds hnum
  obtain ⟨hdlow, hdhigh⟩ := log2_bounds hden
  have hd : (0 : ℚ) < den := Nat.cast_pos.mpr hden
  rw [order]
  split
  · next hfits =>
    refine ⟨(scaled_le_iff num hden _).mp hfits, ?_⟩
    rw [div_lt_iff₀ hd]
    calc (num : ℚ) < 2 ^ ((num.log2 : Int) + 1) := hnhigh
      _ = 2 ^ ((num.log2 : Int) - den.log2 + 1) * 2 ^ (den.log2 : Int) := by
        rw [← zpow_add₀ htwo]
        congr 1
        omega
      _ ≤ 2 ^ ((num.log2 : Int) - den.log2 + 1) * den := by gcongr
  · next hfits =>
    rw [scaled_le_iff num hden, not_le] at hfits
    rw [Int.sub_add_cancel]
    refine ⟨?_, hfits⟩
    rw [le_div_iff₀ hd]
    calc (2 : ℚ) ^ ((num.log2 : Int) - den.log2 - 1) * den
        ≤ 2 ^ ((num.log2 : Int) - den.log2 - 1) * 2 ^ ((den.log2 : Int) + 1) := by gcongr
      _ = 2 ^ (num.log2 : Int) := by
        rw [← zpow_add₀ htwo]
        congr 1
        omega
      _ ≤ num := hnlow

theorem order_eq {num den : Nat} (hnum : 0 < num) (hden : 0 < den) {e : Int}
    (hlow : (2 : ℚ) ^ e ≤ num / den) (hhigh : (num / den : ℚ) < 2 ^ (e + 1)) :
    order num den = e := by
  obtain ⟨hspec, hspec'⟩ := order_spec hnum hden
  have hone : (1 : ℚ) < 2 := by decide
  have hle : order num den < e + 1 := (zpow_lt_zpow_iff_right₀ hone).mp (hspec.trans_lt hhigh)
  have hge : e < order num den + 1 := (zpow_lt_zpow_iff_right₀ hone).mp (hlow.trans_lt hspec')
  omega

theorem ofFraction?_congr (negative : Bool) {num den num' den' : Nat} (hden : 0 < den)
    (hden' : 0 < den') (h : num * den' = num' * den) :
    ofFraction? negative num den = ofFraction? negative num' den' := by
  have hzero : num = 0 ↔ num' = 0 := by
    have hproduct : num * den' = 0 ↔ num' * den = 0 := by rw [h]
    simpa [hden.ne', hden'.ne'] using hproduct
  by_cases hnum : num = 0
  · rw [ofFraction?, ofFraction?, if_pos hnum, if_pos (hzero.mp hnum)]
  have hquotient : (num / den : ℚ) = num' / den' := by
    rw [div_eq_div_iff (Nat.cast_ne_zero.mpr hden.ne') (Nat.cast_ne_zero.mpr hden'.ne')]
    exact_mod_cast h
  obtain ⟨hlow, hhigh⟩ := order_spec (Nat.pos_of_ne_zero fun h => hnum (hzero.mpr h)) hden'
  have horder : order num den = order num' den' := by
    rw [← hquotient] at hlow hhigh
    exact order_eq (Nat.pos_of_ne_zero hnum) hden hlow hhigh
  rw [ofFraction?, ofFraction?, if_neg hnum, if_neg fun h => hnum (hzero.mpr h), horder]
  dsimp only
  rw [roundDiv_congr (Nat.mul_pos hden (pow2_pos _)) (Nat.mul_pos hden' (pow2_pos _))]
  rw [Nat.mul_mul_mul_comm, h, Nat.mul_mul_mul_comm]

theorem Parts.fraction_eq (p : Parts) :
    (p.fraction.1 / p.fraction.2 : ℚ) = p.mantissa * 2 ^ p.exponent := by
  have htwo : (2 : ℚ) ≠ 0 := by decide
  rw [fraction]
  dsimp only
  rw [Nat.cast_mul, pow2_cast, pow2_cast, mul_div_assoc, ← zpow_sub₀ htwo]
  congr 2
  omega

theorem order_fraction {p : Parts} (h : 0 < p.mantissa) :
    order p.fraction.1 p.fraction.2 = p.mantissa.log2 + p.exponent := by
  have htwo : (2 : ℚ) ≠ 0 := by decide
  have hnum : 0 < p.fraction.1 := Nat.mul_pos h (pow2_pos _)
  have hden : 0 < p.fraction.2 := pow2_pos _
  obtain ⟨hlow, hhigh⟩ := log2_bounds h
  refine order_eq hnum hden ?_ ?_
  · rw [p.fraction_eq, zpow_add₀ htwo]
    gcongr
  · rw [p.fraction_eq, Int.add_right_comm, zpow_add₀ htwo]
    gcongr

/-- A double is the number that its parts are, rounded. -/
theorem ofFraction?_of_read {x : Float} {p : Parts} (h : read x = .finite p) :
    ofFraction? p.negative p.fraction.1 p.fraction.2 = some x := by
  obtain ⟨hp, b, hb, hx⟩ := parts_of_read h
  rw [ofFraction?]
  by_cases hzero : p.mantissa = 0
  · have hlowest : p.exponent = -1074 := by
      have hfull := hp.full
      have hlow := hp.le_exponent
      have hbit := pow2_pos 52
      omega
    rw [hzero, hlowest] at hb
    cases hb
    rw [if_pos (by rw [Parts.fraction, hzero, Nat.zero_mul])]
    exact congrArg some hx
  · have hpos : 0 < p.mantissa := Nat.pos_of_ne_zero hzero
    have hnum : p.fraction.1 ≠ 0 := Nat.ne_of_gt (Nat.mul_pos hpos (pow2_pos _))
    have hexponent : max (order p.fraction.1 p.fraction.2 - 52) (-1074) = p.exponent := by
      have hlog : p.mantissa.log2 < 53 := (Nat.log2_lt hzero).mpr hp.mantissa_lt
      have hfull : -1074 < p.exponent → 52 ≤ p.mantissa.log2 :=
        fun h => (Nat.le_log2 hzero).mpr (hp.full h)
      have hlowest := hp.le_exponent
      rw [order_fraction hpos]
      omega
    have hmantissa : roundDiv (p.fraction.1 * pow2 (-p.exponent).toNat)
        (p.fraction.2 * pow2 p.exponent.toNat) = p.mantissa := by
      rw [Parts.fraction, Nat.mul_assoc, Nat.mul_comm (pow2 (-p.exponent).toNat)]
      exact roundDiv_mul_self _ (Nat.mul_pos (pow2_pos _) (pow2_pos _))
    rw [if_neg hnum]
    dsimp only
    rw [hexponent, hmantissa, hb, Option.map_some, hx]

theorem eq_zero_of_read {x : Float} {p : Parts} (h : read x = .finite p) (hm : p.mantissa = 0) :
    Float.ofBits (UInt64.ofNat (signBit p.negative)) = x := by
  have hnum : p.fraction.1 = 0 := by rw [Parts.fraction, hm, Nat.zero_mul]
  have hround := ofFraction?_of_read h
  rw [ofFraction?, if_pos hnum] at hround
  exact Option.some_inj.mp hround

theorem exists_bits? {m : Nat} {e : Int} (he : e ≤ 971) (hm : e = 971 → m ≠ pow2 53) :
    ∃ b, bits? m e = some b := by
  -- A mantissa that was rounded up to the next power of two carries into the exponent.
  obtain ⟨m', e', hcarry, he'⟩ : ∃ m' e', (if m = pow2 53 then (pow2 52, e + 1) else (m, e)) =
      (m', e') ∧ e' < 972 := by
    split
    · next hpow => exact ⟨_, _, rfl, by have hne : e ≠ 971 := fun h => hm h hpow; omega⟩
    · exact ⟨_, _, rfl, by omega⟩
  have hexponent : ¬e' + 1075 ≥ 2047 := by omega
  rw [bits?, hcarry]
  dsimp only
  rw [if_neg hexponent]
  split
  · exact ⟨_, rfl⟩
  · exact ⟨_, rfl⟩

theorem order_lt {num den a : Nat} (hnum : 0 < num) (hden : 0 < den) (h : num < pow2 a * den) :
    order num den < a := by
  have hquotient : (num / den : ℚ) < 2 ^ (a : Int) := by
    rw [div_lt_iff₀ (Nat.cast_pos.mpr hden), ← pow2_cast]
    exact_mod_cast h
  exact (zpow_lt_zpow_iff_right₀ (by decide : (1 : ℚ) < 2)).mp
    ((order_spec hnum hden).1.trans_lt hquotient)

theorem exists_ofFraction? (negative : Bool) {num den : Nat}
    (h : num < (pow2 54 - 1) * pow2 970 * den) : ∃ x, ofFraction? negative num den = some x := by
  have htop : num < pow2 1024 * den := by
    rw [show 1024 = 54 + 970 from rfl, pow2_add]
    exact Nat.lt_of_lt_of_le h (Nat.mul_le_mul_right den (Nat.mul_le_mul_right _ (Nat.sub_le _ _)))
  have hden : 0 < den := Nat.pos_of_mul_pos_left (Nat.zero_lt_of_lt h)
  rw [ofFraction?]
  by_cases hzero : num = 0
  · exact ⟨_, if_pos hzero⟩
  rw [if_neg hzero]
  have horder := order_lt (Nat.pos_of_ne_zero hzero) hden htop
  refine Option.isSome_iff_exists.mp ?_
  rw [Option.isSome_map]
  refine Option.isSome_iff_exists.mpr (exists_bits? (by omega) fun he => ?_)
  have hscaled : 2 * (num * pow2 0) < (2 * pow2 53 - 1) * (den * pow2 971) := by
    have hdouble : (pow2 54 - 1) * (den * (2 * pow2 970)) =
        2 * ((pow2 54 - 1) * pow2 970 * den) := by
      rw [Nat.mul_left_comm den, Nat.mul_left_comm _ 2, Nat.mul_comm den, Nat.mul_assoc]
    rw [← pow2_succ 53, pow2_succ 970, hdouble]
    exact Nat.mul_lt_mul_of_pos_left (Nat.lt_of_le_of_lt (Nat.le_of_eq (Nat.mul_one num)) h)
      (by decide)
  rw [he]
  exact Nat.ne_of_lt (roundDiv_lt hscaled)

end Binary64

end ChatWindow
