import ChatWindow.Base64

/-!
# Base 64 there and back

Each group of three bytes is written as four letters that give the bytes back one after the other,
and what is left at the end, one byte or two, is closed by as much padding as is asked for.
-/

namespace ChatWindow.Base64

theorem letterValue?_letter : ∀ n < 64, letterValue? (letter n) = some n := by decide

theorem letter_ne_padding : ∀ n < 64, letter n ≠ '=' := by decide

theorem letter_ascii : ∀ n < 64, (letter n).toNat < 128 := by decide

theorem decodeFrom_letter (n carry : Nat) {d : Nat} (h : d < 64) (rest : List Char) :
    decodeFrom n carry 0 (letter d :: rest) =
      if n % 4 = 0 then decodeFrom (n + 1) d 0 rest
      else if n % 4 = 1 then
        (decodeFrom (n + 1) (d % 16) 0 rest).map (UInt8.ofNat (carry * 4 + d / 16) :: ·)
      else if n % 4 = 2 then
        (decodeFrom (n + 1) (d % 4) 0 rest).map (UInt8.ofNat (carry * 16 + d / 4) :: ·)
      else (decodeFrom (n + 1) 0 0 rest).map (UInt8.ofNat (carry * 64 + d) :: ·) := by
  rw [decodeFrom, if_neg (letter_ne_padding d h), letterValue?_letter d h]
  exact if_neg (Nat.lt_irrefl 0)

theorem decodeFrom_firstByte {n : Nat} (h : n % 4 = 0) (carry : Nat) (a : UInt8) {d : Nat}
    (hd : d / 16 = a.toNat % 4) (rest : List Char) :
    decodeFrom n carry 0 (letter (a.toNat / 4) :: letter d :: rest) =
      (decodeFrom (n + 2) (d % 16) 0 rest).map (a :: ·) := by
  have ha := a.toNat_lt
  have hbyte : a.toNat / 4 * 4 + d / 16 = a.toNat := by omega
  rw [decodeFrom_letter n carry (by omega), if_pos h, decodeFrom_letter (n + 1) _ (by omega),
    if_neg (by omega), if_pos (by omega), hbyte, UInt8.ofNat_toNat]

theorem decodeFrom_secondByte {n carry : Nat} (h : n % 4 = 2) (b : UInt8)
    (hcarry : carry = b.toNat / 16) {d : Nat} (hd : d / 4 = b.toNat % 16) (rest : List Char) :
    decodeFrom n carry 0 (letter d :: rest) = (decodeFrom (n + 1) (d % 4) 0 rest).map (b :: ·) := by
  have hbyte : carry * 16 + d / 4 = b.toNat := by omega
  rw [decodeFrom_letter n _ (by omega), if_neg (by omega), if_neg (by omega), if_pos h, hbyte,
    UInt8.ofNat_toNat]

theorem decodeFrom_thirdByte {n carry : Nat} (h : n % 4 = 3) (c : UInt8)
    (hcarry : carry = c.toNat / 64) (rest : List Char) :
    decodeFrom n carry 0 (letter (c.toNat % 64) :: rest) =
      (decodeFrom (n + 1) 0 0 rest).map (c :: ·) := by
  have hbyte : carry * 64 + c.toNat % 64 = c.toNat := by omega
  rw [decodeFrom_letter n _ (by omega), if_neg (by omega), if_neg (by omega), if_neg (by omega),
    hbyte, UInt8.ofNat_toNat]

theorem decodeFrom_padding {n : Nat} (h : n % 4 = 3) (carry : Nat) :
    decodeFrom n carry 0 ['='] = .ok [] := by
  rw [decodeFrom, if_pos rfl, if_pos (by omega)]
  rfl

theorem decodeFrom_paddings {n : Nat} (h : n % 4 = 2) (carry : Nat) :
    decodeFrom n carry 0 ['=', '='] = .ok [] := by
  rw [decodeFrom, if_pos rfl, if_neg (by omega), decodeFrom, if_pos rfl, if_pos (by omega)]
  rfl

/-- The induction goes group by group; between two groups no bits are carried over. -/
theorem decodeFrom_encodeChars (b : Bytes) {n : Nat} (h : n % 4 = 0) (carry : Nat) :
    decodeFrom n carry 0 (encodeChars b) = .ok b := by
  induction b using encodeChars.induct generalizing n carry with
  | case1 => rw [encodeChars, decodeFrom, if_pos h]
  | case2 a =>
    rw [encodeChars, decodeFrom_firstByte h carry a (by omega), decodeFrom_paddings (by omega)]
    rfl
  | case3 a b =>
    have hb := b.toNat_lt
    rw [encodeChars, decodeFrom_firstByte h carry a (by omega),
      decodeFrom_secondByte (by omega) b (by omega) (by omega), decodeFrom_padding (by omega)]
    rfl
  | case4 a b c rest ih =>
    have hb := b.toNat_lt
    have hc := c.toNat_lt
    rw [encodeChars, decodeFrom_firstByte h carry a (by omega),
      decodeFrom_secondByte (by omega) b (by omega) (by omega),
      decodeFrom_thirdByte (by omega) c (by omega), ih (by omega) 0]
    rfl

theorem ascii_encodeChars (b : Bytes) : ∀ c ∈ encodeChars b, c.toNat < 128 := by
  have hpadding : '='.toNat < 128 := by decide
  induction b using encodeChars.induct with
  | case1 => exact fun c hc => absurd hc List.not_mem_nil
  | case2 a =>
    have ha := a.toNat_lt
    simp only [encodeChars, List.forall_mem_cons]
    exact ⟨letter_ascii _ (by omega), letter_ascii _ (by omega), hpadding, hpadding,
      List.forall_mem_nil _⟩
  | case3 a b =>
    have ha := a.toNat_lt
    have hb := b.toNat_lt
    simp only [encodeChars, List.forall_mem_cons]
    exact ⟨letter_ascii _ (by omega), letter_ascii _ (by omega), letter_ascii _ (by omega),
      hpadding, List.forall_mem_nil _⟩
  | case4 a b c rest ih =>
    have ha := a.toNat_lt
    have hb := b.toNat_lt
    have hc := c.toNat_lt
    simp only [encodeChars, List.forall_mem_cons]
    exact ⟨letter_ascii _ (by omega), letter_ascii _ (by omega), letter_ascii _ (by omega),
      letter_ascii _ (by omega), ih⟩

theorem head?_encodeChars_ne_padding (b : Bytes) : (encodeChars b).head? ≠ some '=' := by
  have hletter : ∀ a : UInt8, some (letter (a.toNat / 4)) ≠ some '=' := fun a h =>
    letter_ne_padding _ (by have ha := a.toNat_lt; omega) (Option.some.inj h)
  match b with
  | [] => exact Option.some_ne_none _ ∘ Eq.symm
  | [a] => exact hletter a
  | [a, _] => exact hletter a
  | a :: _ :: _ :: _ => exact hletter a

theorem decode_encode (b : Bytes) : decode (encode b) = .ok b := by
  have hascii : ¬(encodeChars b).any (fun c => 128 ≤ c.toNat) = true := by
    rw [List.any_eq_true]
    rintro ⟨c, hc, hlarge⟩
    exact absurd (ascii_encodeChars b c hc) (Nat.not_lt.mpr (of_decide_eq_true hlarge))
  rw [decode, encode, String.toList_ofList, decodeChars, if_neg hascii,
    if_neg (head?_encodeChars_ne_padding b), decodeFrom_encodeChars b rfl]

end ChatWindow.Base64
