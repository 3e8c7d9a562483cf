import ChatWindow.Value.Equal

/-!
# Doubles and their bits

A double is determined by its bits, and its parts determine the bits: the infinite ones and the one
that stands for no number are single doubles.
-/

namespace ChatWindow

theorem Value.realEqual_self (x : Float) : Value.realEqual x x = true := by
  have hcases : x.toModel.unpack.isNaN = true ∨ x.toModel.unpack.beq x.toModel.unpack = true := by
    cases x.toModel.unpack with
    | notANumber => exact .inl rfl
    | infinity s => cases s <;> exact .inr rfl
    | zero s => exact .inr rfl
    | finite s m e hm =>
      have hsame : (compare e e).then (compare m m) = .eq := by simp
      cases s with
      | negative =>
        exact .inr (beq_iff_eq.mpr (congrArg (fun o : Ordering => some o.swap) hsame))
      | positive => exact .inr (beq_iff_eq.mpr (congrArg some hsame))
  rw [realEqual, Bool.or_eq_true, Bool.and_self]
  exact hcases.symm

namespace Binary64

open Float.Model Float.Model.UnpackedFloat

theorem toBitVec_ofBitVec (s : BitVec 1) : (Sign.ofBitVec s).toBitVec = s := by
  revert s
  decide

theorem packComponents_fields (b : BitVec Format.binary64.numBits) :
    packComponents Format.binary64 (Sign.ofBitVec (unpackSign b)) (unpackExponent b)
      (unpackMantissa b) = b := by
  have hsign : unpackSign b = (b.extractLsb 63 63).cast rfl := rfl
  rw [packComponents, toBitVec_ofBitVec, hsign]
  apply BitVec.eq_of_getLsbD_eq
  intro i hi
  simp only [unpackExponent, unpackMantissa, BitVec.getLsbD_append, BitVec.getLsbD_cast,
    BitVec.getLsbD_extractLsb]
  grind

theorem pack_finite (s : Sign) (m : Nat) (e : Int) (h : 0 < m) :
    UnpackedFloat.pack Format.binary64 (.finite s m e h) =
      if 2048 ≤ (e + (1023 : Nat) + (52 : Nat)).toNat + 1 then packedInfinity Format.binary64 s
      else if m.log2 + 1 = 53 then packComponents Format.binary64 s
        (BitVec.ofNat 11 (e + (1023 : Nat) + (52 : Nat)).toNat) (BitVec.ofNat 52 m)
      else packComponents Format.binary64 s 0#11 (BitVec.ofNat 52 m) := rfl

theorem pack_subnormal (s : Sign) {m : BitVec 52} (h : 0 < m.toNat) :
    UnpackedFloat.pack Format.binary64 (.finite s m.toNat (-1074) h) =
      packComponents Format.binary64 s 0#_ m := by
  have hlog : m.toNat.log2 < 52 := (Nat.log2_lt (Nat.ne_of_gt h)).mpr m.isLt
  rw [pack_finite, if_neg (by decide), if_neg (by omega), BitVec.ofNat_toNat, BitVec.setWidth_eq]

theorem toNat_implicit (m : BitVec 52) : (1#1 ++ m).toNat = pow2 52 + m.toNat := by
  rw [BitVec.toNat_append, ← Nat.shiftLeft_add_eq_or_of_lt m.isLt]
  rfl

theorem pack_normal (s : Sign) {e : BitVec 11} {m : BitVec 52} (he : e ≠ -1#_) (hpos) :
    UnpackedFloat.pack Format.binary64 (.finite s (1#1 ++ m).toNat (e.toNat - 1075) hpos) =
      packComponents Format.binary64 s e m := by
  have hm := toNat_implicit m
  have hlog : (1#1 ++ m).toNat.log2 = 52 := by
    rw [Nat.log2_eq_iff (Nat.ne_of_gt hpos), hm]
    exact ⟨Nat.le_add_right .., Nat.add_lt_add_left m.isLt _⟩
  have hbiased : ((e.toNat : Int) - 1075 + (1023 : Nat) + (52 : Nat)).toNat = e.toNat := by omega
  have hfinite : ¬2048 ≤ e.toNat + 1 := by bv_omega
  have hmantissa : BitVec.ofNat 52 (1#1 ++ m).toNat = m := by
    apply BitVec.eq_of_toNat_eq
    rw [BitVec.toNat_ofNat, hm]
    exact (Nat.add_mod_left ..).trans (Nat.mod_eq_of_lt m.isLt)
  rw [pack_finite, hbiased, if_neg hfinite, hlog, if_pos rfl, hmantissa, BitVec.ofNat_toNat,
    BitVec.setWidth_eq]

section

variable {b : BitVec Format.binary64.numBits}

theorem pack_unpack_special (h : Format.binary64.Valid b) (hmax : unpackExponent b = -1#_) :
    UnpackedFloat.pack Format.binary64 (UnpackedFloat.unpack Format.binary64 b) = b := by
  by_cases hzero : unpackMantissa b = 0#_
  · have hunpack : UnpackedFloat.unpack Format.binary64 b =
        .infinity (Sign.ofBitVec (unpackSign b)) := (if_pos hmax).trans (if_pos hzero)
    have hwhole := packComponents_fields b
    rw [hmax, hzero] at hwhole
    rw [hunpack]
    exact hwhole
  · have hunpack : UnpackedFloat.unpack Format.binary64 b = .notANumber :=
      (if_pos hmax).trans (if_neg hzero)
    rw [hunpack]
    exact (h.eq_packedNaN hmax hzero).symm

theorem pack_unpack_lowest (hmax : unpackExponent b ≠ -1#_) (hlow : unpackExponent b = 0#_) :
    UnpackedFloat.pack Format.binary64 (UnpackedFloat.unpack Format.binary64 b) = b := by
  have hwhole := packComponents_fields b
  rw [hlow] at hwhole
  by_cases hzero : unpackMantissa b = 0#_
  · have hunpack : UnpackedFloat.unpack Format.binary64 b =
        .zero (Sign.ofBitVec (unpackSign b)) :=
      (if_neg hmax).trans ((if_pos hlow).trans (dif_pos hzero))
    rw [hunpack]
    rw [hzero] at hwhole
    exact hwhole
  · have hpos : 0 < (unpackMantissa b).toNat := by
      simpa [BitVec.toNat_pos, BitVec.pos_iff_ne_zero] using hzero
    have hexponent : ((unpackExponent b).toNat : Int) - ((1023 : Nat) + (52 : Nat)) + 1 =
        -1074 := by
      rw [hlow]
      rfl
    have hunpack : UnpackedFloat.unpack Format.binary64 b =
        .finite (Sign.ofBitVec (unpackSign b)) (unpackMantissa b).toNat
          (((unpackExponent b).toNat : Int) - ((1023 : Nat) + (52 : Nat)) + 1) hpos :=
      (if_neg hmax).trans ((if_pos hlow).trans (dif_neg hzero))
    rw [hexponent] at hunpack
    rw [hunpack, pack_subnormal]
    exact hwhole

theorem pack_unpack_normal (hmax : unpackExponent b ≠ -1#_) (hlow : unpackExponent b ≠ 0#_) :
    UnpackedFloat.pack Format.binary64 (UnpackedFloat.unpack Format.binary64 b) = b := by
  have hpos : 0 < (1#1 ++ unpackMantissa b).toNat := by
    rw [toNat_implicit]
    exact Nat.add_pos_left (by decide) _
  have hunpack : UnpackedFloat.unpack Format.binary64 b = .finite (Sign.ofBitVec (unpackSign b))
      (1#1 ++ unpackMantissa b).toNat ((unpackExponent b).toNat - 1075) hpos :=
    (if_neg hmax).trans (if_neg hlow)
  rw [hunpack]
  exact (pack_normal _ hmax _).trans (packComponents_fields b)

/-- Nothing is lost when bits are taken apart, unless they stand for no number. -/
theorem pack_unpack (h : Format.binary64.Valid b) :
    UnpackedFloat.pack Format.binary64 (UnpackedFloat.unpack Format.binary64 b) = b := by
  by_cases hmax : unpackExponent b = -1#_
  · exact pack_unpack_special h hmax
  by_cases hlow : unpackExponent b = 0#_
  · exact pack_unpack_lowest hmax hlow
  · exact pack_unpack_normal hmax hlow

end

theorem ofBits_toBits (x : Float) : Float.ofBits x.toBits = x := by
  obtain ⟨⟨bits, hvalid⟩⟩ := x
  have hbits := congrArg UInt64.ofBitVec (pack_unpack hvalid)
  exact congrArg Float.ofModel ((Float.Model.mk.injEq ..).mpr hbits)

theorem toNat_unpackMantissa (b : BitVec Format.binary64.numBits) :
    (unpackMantissa b).toNat = b.toNat % pow2 52 := by
  rw [unpackMantissa, BitVec.toNat_cast, BitVec.extractLsb_toNat]
  rfl

theorem toNat_unpackExponent (b : BitVec Format.binary64.numBits) :
    (unpackExponent b).toNat = b.toNat / pow2 52 % pow2 11 := by
  rw [unpackExponent, BitVec.toNat_cast, BitVec.extractLsb_toNat, Nat.shiftRight_eq_div_pow]
  rfl

theorem exists_fields (x : Float) : ∃ negative, ∃ e < 2048, ∃ m < pow2 52,
    read x = ofFields negative e m ∧
      Float.ofBits (UInt64.ofNat (signBit negative + (e * pow2 52 + m))) = x := by
  refine ⟨_, _, Nat.mod_lt _ (by decide), _, Nat.mod_lt _ (by decide), rfl, ?_⟩
  have hlt := x.toBits.toNat_lt
  have hbits : signBit (x.toBits.toNat / pow2 63 == 1) +
      (x.toBits.toNat / pow2 52 % 2048 * pow2 52 + x.toBits.toNat % pow2 52) = x.toBits.toNat := by
    rw [show pow2 52 = 4503599627370496 from rfl, show pow2 63 = 9223372036854775808 from rfl]
    obtain hlow | hhigh : x.toBits.toNat / 9223372036854775808 = 0 ∨
        x.toBits.toNat / 9223372036854775808 = 1 := by omega
    · rw [hlow, show signBit (0 == 1) = 0 from rfl]
      omega
    · rw [hhigh, show signBit (1 == 1) = 9223372036854775808 from rfl]
      omega
  rw [hbits, UInt64.ofNat_toNat, ofBits_toBits]

theorem eq_infinity {x : Float} {negative : Bool} (h : read x = .infinite negative) :
    x = infinity negative := by
  obtain ⟨sign, e, -, m, -, hread, rfl⟩ := exists_fields x
  rw [hread, ofFields] at h
  split at h
  · next hmax =>
    split at h
    · next hzero =>
      cases h
      rw [hmax, hzero]
      rfl
    · cases h
  · split at h <;> cases h

theorem eq_notANumber {x : Float} (h : read x = .notANumber) : x = notANumber := by
  rw [read, ofFields] at h
  split at h
  · next hmax =>
    split at h
    · cases h
    · next hnan =>
      have hexponent : @unpackExponent Format.binary64 x.toBits.toBitVec = -1#_ :=
        BitVec.eq_of_toNat_eq ((toNat_unpackExponent _).trans hmax)
      have hmantissa : @unpackMantissa Format.binary64 x.toBits.toBitVec ≠ 0#_ :=
        fun hzero => hnan ((toNat_unpackMantissa _).symm.trans (congrArg BitVec.toNat hzero))
      have hx : x.toBits = UInt64.ofNat (2047 * pow2 52 + pow2 51) :=
        UInt64.eq_of_toBitVec_eq (x.toModel.valid.eq_packedNaN hexponent hmantissa)
      rw [notANumber, ← hx, ofBits_toBits]
  · split at h <;> cases h

/-- The parts of a double: no more than 53 bits, and the first of them is set unless the exponent is
the lowest. -/
structure Parts.Canonical (p : Parts) : Prop where
  mantissa_lt : p.mantissa < pow2 53
  exponent_le : p.exponent ≤ 971
  le_exponent : -1074 ≤ p.exponent
  full : -1074 < p.exponent → pow2 52 ≤ p.mantissa

theorem parts_of_read {x : Float} {p : Parts} (h : read x = .finite p) : p.Canonical ∧
    ∃ b, bits? p.mantissa p.exponent = some b ∧
      Float.ofBits (UInt64.ofNat (signBit p.negative + b)) = x := by
  obtain ⟨negative, e, he, m, hm, hread, hx⟩ := exists_fields x
  have hdouble : pow2 53 = pow2 52 + pow2 52 := rfl
  rw [hread, ofFields] at h
  split at h
  · split at h <;> cases h
  · next hmax =>
    split at h
    · next hlow =>
      cases h
      rw [hlow, Nat.zero_mul, Nat.zero_add] at hx
      refine ⟨⟨by dsimp only; omega, by dsimp only; omega, Int.le_refl _, by simp⟩, m, ?_, hx⟩
      rw [bits?, if_neg (by dsimp only; omega)]
      exact if_pos hm
    · next hlow =>
      cases h
      refine ⟨⟨by dsimp only; omega, by dsimp only; omega, by dsimp only; omega,
        fun _ => Nat.le_add_left ..⟩, _, ?_, hx⟩
      rw [bits?, if_neg (by dsimp only; omega)]
      dsimp only
      rw [if_neg (by omega), if_neg (by omega), Int.sub_add_cancel, Int.toNat_natCast,
        Nat.add_sub_cancel]

theorem read_zero (negative : Bool) :
    read (Float.ofBits (UInt64.ofNat (signBit negative))) = .finite ⟨negative, 0, -1074⟩ := by
  cases negative
  · rfl
  · rfl

end Binary64

end ChatWindow
