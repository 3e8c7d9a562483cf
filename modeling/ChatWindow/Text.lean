/-!
# Texts

A text is a sequence of code points. Most code points are characters; the others are halves, two
of which stand for one character in UTF-16. A half may stand alone, and a text in which one does is
no string of characters.
-/

namespace ChatWindow

/-- A character, or a half by its number from U+D800 on. -/
inductive Code where
  | char (c : Char)
  | half (n : Fin 0x800)
  deriving DecidableEq

namespace Code

instance : Coe Char Code := ⟨.char⟩

def toNat : Code → Nat
  | .char c => c.toNat
  | .half n => 0xd800 + n

def char? : Code → Option Char
  | .char c => some c
  | .half _ => none

def isHalf : Code → Bool
  | .char _ => false
  | .half _ => true

def isHigh : Code → Bool
  | .char _ => false
  | .half n => n < 0x400

def isLow : Code → Bool
  | .char _ => false
  | .half n => 0x400 ≤ n

def ofNat (n : Nat) : Code :=
  if h : 0xd800 ≤ n ∧ n < 0xe000 then .half ⟨n - 0xd800, by omega⟩ else .char (Char.ofNat n)

def joined (high low : Nat) : Char :=
  Char.ofNat (0x10000 + (high - 0xd800) * 0x400 + (low - 0xdc00))

def isDigit : Code → Bool
  | .char c => c.isDigit
  | .half _ => false

def lower : Code → Code
  | .char c => .char c.toLower
  | .half n => .half n

@[simp] theorem char_inj {c d : Char} : Code.char c = .char d ↔ c = d := by simp

end Code

structure Broken where
  codes : List Code
  broken : codes.any Code.isHalf = true
  deriving DecidableEq

inductive Text where
  | plain (s : String)
  | broken (b : Broken)
  deriving DecidableEq

namespace Text

instance : Coe String Text := ⟨.plain⟩

instance : Inhabited Text := ⟨.plain ""⟩

def codes : Text → List Code
  | .plain s => s.toList.map .char
  | .broken b => b.codes

def ofCodes (cs : List Code) : Text :=
  if h : cs.any Code.isHalf = true then .broken ⟨cs, h⟩
  else .plain (String.ofList (cs.filterMap Code.char?))

def length (t : Text) : Nat := t.codes.length

instance : Append Text := ⟨fun s t => ofCodes (s.codes ++ t.codes)⟩

def join (ts : List Text) : Text := ofCodes (ts.flatMap codes)

def lower (t : Text) : Text := ofCodes (t.codes.map Code.lower)

def split (t : Text) : List Text := t.codes.map fun c => ofCodes [c]

def intercalate (between : Text) (ts : List Text) : Text := join (ts.intersperse between)

/-- The text with a sign in the place of every half. -/
def shown : Text → String
  | .plain s => s
  | .broken b => String.ofList (b.codes.map fun c => c.char?.getD (Char.ofNat 0xfffd))

def repairedCodes : List Code → List Char
  | [] => []
  | .char c :: rest => c :: repairedCodes rest
  | [.half _] => [Char.ofNat 0xfffd]
  | .half _ :: .char c :: rest => Char.ofNat 0xfffd :: c :: repairedCodes rest
  | .half n :: .half m :: rest =>
    if (Code.half n).isHigh && (Code.half m).isLow then
      Code.joined (0xd800 + n) (0xd800 + m) :: repairedCodes rest
    else Char.ofNat 0xfffd :: repairedCodes (.half m :: rest)

def repaired (t : Text) : String := String.ofList (repairedCodes t.codes)

@[simp] theorem codes_plain (s : String) : (Text.plain s).codes = s.toList.map .char := rfl

theorem ofCodes_map_char (cs : List Char) : ofCodes (cs.map .char) = .plain (String.ofList cs) := by
  have hwhole : (cs.map Code.char).any Code.isHalf = false := by simp [Code.isHalf]
  have hchars : (cs.map Code.char).filterMap Code.char? = cs := by
    rw [List.filterMap_map]
    exact List.filterMap_some
  rw [ofCodes, dif_neg (by rw [hwhole]; exact Bool.false_ne_true), hchars]

@[simp] theorem ofCodes_codes (t : Text) : ofCodes t.codes = t := by
  cases t with
  | plain s => rw [codes_plain, ofCodes_map_char, String.ofList_toList]
  | broken b => rw [codes, ofCodes, dif_pos b.broken]

theorem map_char_filterMap {cs : List Code} (h : cs.any Code.isHalf = false) :
    (cs.filterMap Code.char?).map Code.char = cs := by
  induction cs with
  | nil => rfl
  | cons c cs ih =>
    rw [List.any_cons, Bool.or_eq_false_iff] at h
    cases c with
    | char c => exact congrArg (Code.char c :: ·) (ih h.2)
    | half n => cases h.1

@[simp] theorem codes_ofCodes (cs : List Code) : (ofCodes cs).codes = cs := by
  rw [ofCodes]
  split
  · rfl
  · next h =>
    rw [Bool.not_eq_true] at h
    rw [codes_plain, String.toList_ofList, map_char_filterMap h]

theorem codes_inj {s t : Text} : s.codes = t.codes ↔ s = t := by
  refine ⟨fun h => ?_, congrArg codes⟩
  rw [← ofCodes_codes s, h, ofCodes_codes]

theorem codes_append (s t : Text) : (s ++ t).codes = s.codes ++ t.codes := codes_ofCodes _

theorem codes_join (ts : List Text) : (join ts).codes = ts.flatMap codes := codes_ofCodes _

theorem codes_eq_nil {t : Text} : t.codes = [] ↔ t = "" := codes_inj (t := "")

end Text

end ChatWindow
